import CloudflareSync.MysqlSensor

/-!
# The table the MySQL sensors fill

Every row a cycle of `sensor.py` learns reaches `cloudflare_proxy_ips` through one statement of
`store_learned_ips`: `INSERT ... VALUES (..., TRUE, 1) ON DUPLICATE KEY UPDATE learned_ips =
VALUES(learned_ips), ttl = VALUES(ttl), last_resolved = CURRENT_TIMESTAMP, resolve_count =
resolve_count + 1`. `run_daemon` runs cycle after cycle, each against the database and the
resolvers as they then are, whatever the cycle before raised. The table's unique key is fixed by
the schema, which the repository does not hold, so the statement is modelled over any key
`key : ProxyIpRow → κ` of the written values, and every result holds for every such key.

* One write changes the row of its key only, so each row is the fold of the writes of its key
  (`foldl_upsertProxyIps_apply`).
* After any sequence of writes, a key that no write names keeps its row. Otherwise its row holds
  the `learned_ips` and `ttl` of the last write, adds the writes to `resolve_count`, and keeps
  every other column as the row had it, or as the first write gave it. A record renamed at
  Cloudflare keeps its old name, and a row no later write names keeps its old addresses
  (`proxyIps_writes`).
* The table a daemon leaves after any number of cycles is the one the committed rows of what
  each cycle learned make, in order (`runDaemon_proxyIps`).
-/

set_option autoImplicit false

namespace CloudflareSync

/-- A row of `cloudflare_proxy_ips`, with the columns the sensor's statement writes. -/
structure StoredProxyRow where
  zoneId : String
  recordId : String
  recordName : String
  recordType : String
  sensorId : Nat
  learnedIps : List String
  ttl : Int
  isProxied : Bool
  resolveCount : Nat
  deriving DecidableEq, Repr

/-- The row the `INSERT` makes: `is_proxied = TRUE`, `resolve_count = 1`. -/
def insertedRow (row : ProxyIpRow) : StoredProxyRow :=
  ⟨row.zoneId, row.recordId, row.recordName, row.recordType, row.sensorId, row.learnedIps, row.ttl,
    true, 1⟩

/-- What the statement makes of the row of its key: the inserted row when there is none, else
the `ON DUPLICATE KEY UPDATE`, which leaves the other columns as they are. -/
def upsertRow (row : ProxyIpRow) : Option StoredProxyRow → StoredProxyRow
  | none => insertedRow row
  | some old =>
    { old with learnedIps := row.learnedIps, ttl := row.ttl, resolveCount := old.resolveCount + 1 }

/-- What a sequence of writes of one key makes of its row. -/
def upsertRows (rows : List ProxyIpRow) (cell : Option StoredProxyRow) : Option StoredProxyRow :=
  rows.foldl (fun cell row => some (upsertRow row cell)) cell

/-- Writes of one key: the first makes or updates the row, and the later ones change only
`learned_ips`, `ttl` and `resolve_count`. -/
theorem upsertRows_cons (first : ProxyIpRow) :
    ∀ (later : List ProxyIpRow) (cell : Option StoredProxyRow),
      upsertRows (first :: later) cell =
        some { cell.getD (insertedRow first) with
          learnedIps := ((first :: later).getLast (List.cons_ne_nil _ _)).learnedIps,
          ttl := ((first :: later).getLast (List.cons_ne_nil _ _)).ttl,
          resolveCount := (cell.map (·.resolveCount)).getD 0 + later.length + 1 }
  | [], none => rfl
  | [], some _ => rfl
  | next :: rest, cell => by
    rw [show upsertRows (first :: next :: rest) cell =
      upsertRows (next :: rest) (some (upsertRow first cell)) from rfl, upsertRows_cons next rest,
      List.getLast_cons (List.cons_ne_nil _ _)]
    cases cell <;> simp [upsertRow, insertedRow, Nat.add_assoc, Nat.add_comm 1]

section Table

variable {κ : Type} [DecidableEq κ] (key : ProxyIpRow → κ)

/-- `store_learned_ips`'s statement on the table, whose unique key `key` reads off the written
values. -/
def upsertProxyIps (table : κ → Option StoredProxyRow) (row : ProxyIpRow) :
    κ → Option StoredProxyRow :=
  fun k => if key row = k then some (upsertRow row (table k)) else table k

/-- **Run lemma.** Each row of the table is the fold of the writes of its key. -/
theorem foldl_upsertProxyIps_apply (k : κ) :
    ∀ (rows : List ProxyIpRow) (table : κ → Option StoredProxyRow),
      (rows.foldl (upsertProxyIps key) table) k = upsertRows (rows.filter (key · = k)) (table k)
  | [], _ => rfl
  | row :: rows, table => by
    rw [List.foldl_cons, foldl_upsertProxyIps_apply k rows, List.filter_cons]
    by_cases here : key row = k
    · simp only [here, decide_True, if_true, upsertProxyIps]
      rfl
    · simp only [here, decide_False, Bool.false_eq_true, if_false, upsertProxyIps]

/-- **The table after any writes.** Over every unique key, every table and every sequence of
writes, a key that no write names keeps its row. Otherwise its row holds the `learned_ips` and
`ttl` of the last write of the key, `resolve_count` adds one per write, and every other column
(`zone_id`, `record_name`, `record_type`, `is_proxied`, ...) is as the row had it before, or, for a
new row, as the first write gave it. -/
theorem proxyIps_writes (rows : List ProxyIpRow) (table : κ → Option StoredProxyRow) (k : κ) :
    (rows.foldl (upsertProxyIps key) table) k =
      match rows.filter (key · = k) with
      | [] => table k
      | first :: later =>
        some { (table k).getD (insertedRow first) with
          learnedIps := ((first :: later).getLast (List.cons_ne_nil _ _)).learnedIps,
          ttl := ((first :: later).getLast (List.cons_ne_nil _ _)).ttl,
          resolveCount := ((table k).map (·.resolveCount)).getD 0 + later.length + 1 } := by
  rw [foldl_upsertProxyIps_apply]
  split
  next none => rw [none]; rfl
  next first later writes => rw [writes, upsertRows_cons]

/-- The unique key of a row of one sensor's record. -/
def recordSensorKey (row : ProxyIpRow) : String × Nat := (row.recordId, row.sensorId)

/-- A record renamed at Cloudflare: the second write of `r1` brings new addresses, but the row
keeps the name of the first. -/
example :
    ([⟨"z1", "r1", "www.example.com", "A", 1, ["104.16.1.1"], 300⟩,
        ⟨"z1", "r1", "web.example.com", "A", 1, ["104.16.2.2"], 300⟩].foldl
      (upsertProxyIps recordSensorKey) fun _ => none) ("r1", 1) =
      some ⟨"z1", "r1", "www.example.com", "A", 1, ["104.16.2.2"], 300, true, 2⟩ := by
  decide

/-! ## Daemon runs -/

/-- The table after the writes a run committed, from `table`. -/
def proxyIpsAfter (table : κ → Option StoredProxyRow) (writes : List SensorWrite) :
    κ → Option StoredProxyRow :=
  (writes.filterMap SensorWrite.proxyRow).foldl (upsertProxyIps key) table

/-- `run_daemon` over its first cycles: `run_sync` once per cycle, against the database and the
resolvers as they then are; what a cycle raises ends that cycle only. The writes the server
committed, in order. -/
def GeoSensor.runDaemon (sensor : GeoSensor)
    (cycles : List (SensorDb × (String → String → Option (List String)))) : List SensorWrite :=
  cycles.flatMap fun cycle => (sensor.runSync cycle.1 cycle.2).out

/-- **The table a daemon leaves.** Over every unique key, every table, and every sequence of
cycles, each against its own database and resolvers, the table after the daemon's cycles is the
one the committed rows of the records each cycle learned make, cycle after cycle, in the order
each cycle visits them. Rows whose write was rolled back, and records that no longer resolve,
leave the table alone. -/
theorem runDaemon_proxyIps (sensor : GeoSensor)
    (cycles : List (SensorDb × (String → String → Option (List String))))
    (table : κ → Option StoredProxyRow) :
    proxyIpsAfter key table (sensor.runDaemon cycles) =
      (cycles.flatMap fun cycle => (GeoSensor.learnedRows sensor cycle.1 cycle.2).filter
        fun row => cycle.1.store row = .committed).foldl (upsertProxyIps key) table := by
  unfold proxyIpsAfter GeoSensor.runDaemon
  congr 1
  induction cycles with
  | nil => rfl
  | cons cycle cycles ih =>
    rw [List.flatMap_cons, List.filterMap_append, ih, GeoSensor.proxyRows_runSync,
      List.flatMap_cons]

end Table

end CloudflareSync
