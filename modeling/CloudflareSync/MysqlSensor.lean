import CloudflareSync.GeoSensors
import CloudflareSync.DbConfig
import CloudflareSync.TextFormats

/-!
# The MySQL sensor `sensor.py`

`GeoSensor` reads the active zones and their proxied records from MySQL, writes the addresses of
each record that resolves straight to `cloudflare_proxy_ips`, one committed
`INSERT ... ON DUPLICATE KEY UPDATE` per record, then reports its health. The database is given
as its answer to each statement the sensor makes: the rows of a `SELECT`, or whether a write
commits, rolls back, or fails even to roll back.

* A cycle commits exactly the learned rows the server accepts, in order, and counts as an error
  only a write whose rollback fails as well (`GeoSensor.runSync_eq`).
* The sensor's `MySQLConfig` reads a `db-host` as `parse_host_entry` does, but for an IPv6 host
  (`MySQLConfig.ofConfig_renderHost`).
* Run once, the process exits with 1 only when it cannot connect, finds no row for its location,
  or its health report fails with its rollback: every failure inside the cycle is absorbed
  (`sensorMain_exitStatus`).
-/

set_option autoImplicit false

namespace CloudflareSync

/-! ## The statements and the cycle -/

/-- The values `store_learned_ips` binds to its `INSERT ... ON DUPLICATE KEY UPDATE` into
`cloudflare_proxy_ips`; `learnedIps` is the list `json.dumps` encodes. -/
structure ProxyIpRow where
  zoneId : String
  recordId : String
  recordName : String
  recordType : String
  sensorId : Nat
  learnedIps : List String
  ttl : Int
  deriving DecidableEq, Repr

/-- A write the server committed: a row of `cloudflare_proxy_ips`, or the
`CALL update_sensor_health(sensor_id, TRUE, records_synced, errors)`. -/
inductive SensorWrite where
  | proxyIps (row : ProxyIpRow)
  | health (sensorId recordsSynced errors : Nat)
  deriving DecidableEq, Repr

/-- The row of a write to `cloudflare_proxy_ips`. -/
def SensorWrite.proxyRow : SensorWrite → Option ProxyIpRow
  | .proxyIps row => some row
  | .health .. => none

/-- How the server answers a write and its `commit`: it commits, or raises `Error`, after which
the sensor's `rollback` succeeds or raises in turn. -/
inductive WriteReply where
  | committed
  | rolledBack
  | rollbackRaised (e : Exc)
  deriving DecidableEq, Repr

/-- Whether a reply lets an exception out of the write's method. -/
def WriteReply.raises : WriteReply → Bool
  | .rollbackRaised _ => true
  | _ => false

/-- The sensor's database: the `zone_id` of each active zone, the proxied records of a zone, and
the server's reply to each write. A `SELECT` that raises `Error` is `none`. -/
structure SensorDb where
  activeZones : Option (List String)
  proxiedRecords : String → Option (List RecordRow)
  store : ProxyIpRow → WriteReply
  health : Nat → Nat → Nat → WriteReply

/-- A write, then `commit`; on `Error`, `rollback`. What is committed, or the error of a failed
rollback, which nothing in the method catches. -/
def commitWrite (reply : WriteReply) (write : SensorWrite) : Except Exc (List SensorWrite) :=
  match reply with
  | .committed => .ok [write]
  | .rolledBack => .ok []
  | .rollbackRaised e => .error e

/-- A `GeoSensor` after `__init__`: the id `_register_sensor` found for its location. -/
structure GeoSensor where
  sensorId : Nat
  deriving DecidableEq, Repr

namespace GeoSensor

variable (sensor : GeoSensor) (db : SensorDb) (resolve : String → String → Option (List String))

/-- `get_cloudflare_zones`: an error of the `SELECT` gives no zone. -/
def getCloudflareZones : List String := db.activeZones.getD []

/-- `get_proxied_records(zone_id)`: an error of the `SELECT` gives no record. -/
def getProxiedRecords (zoneId : String) : List RecordRow := (db.proxiedRecords zoneId).getD []

/-- `resolve_record`. -/
def resolveRecord (recordName recordType : String) : List String :=
  resolveAddresses resolve recordName recordType

/-- `store_learned_ips`: nothing for no address, else the row as the server takes it. -/
def storeLearnedIps (zoneId recordId recordName recordType : String) (ttl : Int)
    (ips : List String) : Except Exc (List SensorWrite) :=
  if ips = [] then .ok []
  else
    let row : ProxyIpRow := ⟨zoneId, recordId, recordName, recordType, sensor.sensorId, ips, ttl⟩
    commitWrite (db.store row) (.proxyIps row)

/-- `update_health(records_synced, errors)`. -/
def updateHealth (recordsSynced errors : Nat) : Except Exc (List SensorWrite) :=
  commitWrite (db.health sensor.sensorId recordsSynced errors)
    (.health sensor.sensorId recordsSynced errors)

/-- One pass of the record loop of `run_sync`: the record is counted, resolved, and its
addresses counted and stored; the loop's `except Exception` counts what escapes the store. -/
def processRecord (zoneId : String) (c : Cycle SensorWrite) (record : RecordRow) :
    Cycle SensorWrite :=
  let counted : SyncStats := { c.stats with records := c.stats.records + 1 }
  let ips := resolveRecord resolve record.recordName record.recordType
  if ips = [] then ⟨counted, c.out⟩
  else
    let found : SyncStats := { counted with ipsLearned := counted.ipsLearned + ips.length }
    match sensor.storeLearnedIps db zoneId record.recordId record.recordName record.recordType
        record.ttl ips with
    | .ok written => ⟨found, c.out ++ written⟩
    | .error _ => ⟨{ found with errors := found.errors + 1 }, c.out⟩

/-- `run_sync`: the zones' record loops, then `update_health` with the counters. The rows each
record committed stay committed when `update_health` raises. -/
def runSync : SyncRun SensorWrite :=
  let zones := getCloudflareZones db
  let c := zones.foldl (fun c zoneId =>
      (getProxiedRecords db zoneId).foldl (processRecord sensor db resolve zoneId) c)
    ⟨⟨zones.length, 0, 0, 0⟩, []⟩
  match sensor.updateHealth db c.stats.records c.stats.errors with
  | .ok written => ⟨c.out ++ written, .ok c.stats⟩
  | .error e => ⟨c.out, .error e⟩

/-! ## What a cycle commits -/

/-- The records a cycle visits, each with the id of its zone, in order. -/
def visits : List (String × RecordRow) :=
  visitsOf ((getCloudflareZones db).map fun zoneId => (zoneId, getProxiedRecords db zoneId))

/-- The row the sensor writes for a learned record. -/
def learnedRow (entry : String × RecordRow × List String) : ProxyIpRow :=
  ⟨entry.1, entry.2.1.recordId, entry.2.1.recordName, entry.2.1.recordType, sensor.sensorId,
    entry.2.2, entry.2.1.ttl⟩

/-- The rows a cycle tries to store: those of the records it learns, in order. -/
def learnedRows : List ProxyIpRow := (learned resolve (visits db)).map sensor.learnedRow

/-- The counters a cycle ends with: the active zones, the visited records, the addresses of the
rows it tries to store (stored or not), and the rows whose write failed and whose rollback
raised as well. -/
def cycleStats : SyncStats :=
  ⟨(getCloudflareZones db).length, (visits db).length,
    ((learnedRows sensor db resolve).map (·.learnedIps.length)).sum,
    (learnedRows sensor db resolve).countP fun row => (db.store row).raises⟩

/-- What one visited record adds to the cycle. -/
def recordEffect (zoneId : String) (record : RecordRow) : Cycle SensorWrite :=
  let ips := resolveRecord resolve record.recordName record.recordType
  if ips = [] then ⟨⟨0, 1, 0, 0⟩, []⟩
  else
    match sensor.storeLearnedIps db zoneId record.recordId record.recordName record.recordType
        record.ttl ips with
    | .ok written => ⟨⟨0, 1, ips.length, 0⟩, written⟩
    | .error _ => ⟨⟨0, 1, ips.length, 1⟩, []⟩

/-- **Step lemma.** A pass of the record loop adds the record's effect. -/
theorem processRecord_eq_add (zoneId : String) (c : Cycle SensorWrite) (record : RecordRow) :
    processRecord sensor db resolve zoneId c record =
      c.add (recordEffect sensor db resolve zoneId record) := by
  unfold processRecord recordEffect
  by_cases unresolved : resolveRecord resolve record.recordName record.recordType = []
  · simp [unresolved, Cycle.add]
  · simp only [unresolved, if_false]
    split <;> simp [Cycle.add]

/-- The effects of the visits add up to the counters and the committed rows of what they learn. -/
theorem total_recordEffects : ∀ vs : List (String × RecordRow),
    Cycle.total (vs.map fun v => recordEffect sensor db resolve v.1 v.2) =
      ⟨⟨0, vs.length, (((learned resolve vs).map sensor.learnedRow).map (·.learnedIps.length)).sum,
        ((learned resolve vs).map sensor.learnedRow).countP fun row => (db.store row).raises⟩,
        (((learned resolve vs).map sensor.learnedRow).filter fun row =>
          db.store row = .committed).map .proxyIps⟩
  | [] => rfl
  | v :: vs => by
    rw [List.map_cons, Cycle.total_cons, total_recordEffects vs, learned_cons]
    unfold recordEffect resolveRecord
    split
    next unresolved => simp [unresolved, Cycle.add, Nat.add_comm]
    next resolved =>
      simp only [resolved, if_false, storeLearnedIps, List.map_cons]
      cases reply : db.store (sensor.learnedRow (v.1, v.2, resolveAddresses resolve v.2.recordName
        v.2.recordType)) <;>
        simp [learnedRow, commitWrite, reply, Cycle.add, WriteReply.raises] at * <;> omega

/-- **Run lemma.** The zone and record loops of `run_sync` end with the counters of
`cycleStats` and the committed rows of what the cycle learns. -/
theorem cycle_eq :
    (getCloudflareZones db).foldl (fun c zoneId =>
        (getProxiedRecords db zoneId).foldl (processRecord sensor db resolve zoneId) c)
      ⟨⟨(getCloudflareZones db).length, 0, 0, 0⟩, []⟩ =
      ⟨cycleStats sensor db resolve, ((learnedRows sensor db resolve).filter fun row =>
        db.store row = .committed).map .proxyIps⟩ := by
  have flat : ((getCloudflareZones db).flatMap fun zoneId =>
      (getProxiedRecords db zoneId).map (recordEffect sensor db resolve zoneId)) =
        (visits db).map fun v => recordEffect sensor db resolve v.1 v.2 := by
    simp only [visits, visitsOf, List.flatMap_map, List.map_flatMap, List.map_map,
      Function.comp_def]
  rw [Cycle.foldl_foldl_add (processRecord sensor db resolve) (recordEffect sensor db resolve)
    (processRecord_eq_add sensor db resolve), flat, total_recordEffects]
  simp only [Cycle.add, Nat.zero_add, Nat.add_zero, List.nil_append]
  rfl

/-- **The MySQL sensor's cycle.** Over every database and resolver, `run_sync` commits the rows
of the records it learns that the server accepts, in the order it visits them, then reports its
health with the visited records and the errors: the rows whose write failed and whose rollback
raised too. A refused write that was rolled back is no error, and the addresses of every learned
record are counted, stored or not. The rows stay committed when `update_health` raises. -/
theorem runSync_eq :
    runSync sensor db resolve =
      let stats := cycleStats sensor db resolve
      let stored := ((learnedRows sensor db resolve).filter fun row =>
        db.store row = .committed).map .proxyIps
      match sensor.updateHealth db stats.records stats.errors with
      | .ok written => ⟨stored ++ written, .ok stats⟩
      | .error e => ⟨stored, .error e⟩ := by
  unfold runSync
  dsimp only
  rw [cycle_eq]

/-- The proxied `A` record `www.example.com` of zone `z1`. -/
def wwwRecord : RecordRow := ⟨"r1", "www.example.com", "A", 300⟩

/-- A resolver that answers only the `A` query of `www.example.com.`. -/
def wwwResolver : String → String → Option (List String) := fun name rdtype =>
  if name = "www.example.com." ∧ rdtype = "A" then some ["104.16.1.1"] else none

/-- A database with the one active zone `z1`, holding `www.example.com`, that commits every
write. -/
def wwwDb : SensorDb where
  activeZones := some ["z1"]
  proxiedRecords _ := some [wwwRecord]
  store _ := .committed
  health _ _ _ := .committed

/-- A server that rolls back the row of `www.example.com`: the health report still says no
error, and only the health call is committed. -/
example :
    runSync ⟨1⟩ { wwwDb with store := fun _ => .rolledBack } wwwResolver =
      ⟨[.health 1 1 0], .ok ⟨1, 1, 1, 0⟩⟩ := rfl

/-- The rows a cycle commits to `cloudflare_proxy_ips`: those of the records it learns that the
server accepts, in order; `update_health` writes none. -/
theorem proxyRows_runSync :
    (runSync sensor db resolve).out.filterMap SensorWrite.proxyRow =
      (learnedRows sensor db resolve).filter fun row => db.store row = .committed := by
  unfold runSync
  dsimp only
  rw [cycle_eq]
  have stored : (((learnedRows sensor db resolve).filter fun row => db.store row = .committed).map
      SensorWrite.proxyIps).filterMap SensorWrite.proxyRow =
        (learnedRows sensor db resolve).filter fun row => db.store row = .committed := by
    rw [List.filterMap_map]
    exact List.filterMap_some _
  split
  next written health =>
    have healthRow : written.filterMap SensorWrite.proxyRow = [] := by
      simp only [updateHealth, commitWrite] at health
      split at health <;> cases health <;> rfl
    rw [List.filterMap_append, stored, healthRow, List.append_nil]
  next => exact stored

/-- A cycle raises exactly when the write of its health report fails and so does the rollback:
no failure of a `SELECT`, a resolver or a row write escapes it. -/
theorem result_isOk_runSync :
    (runSync sensor db resolve).result.isOk =
      !(db.health sensor.sensorId (cycleStats sensor db resolve).records
        (cycleStats sensor db resolve).errors).raises := by
  unfold runSync
  dsimp only
  rw [cycle_eq]
  dsimp only
  unfold updateHealth commitWrite
  cases db.health sensor.sensorId (cycleStats sensor db resolve).records
    (cycleStats sensor db resolve).errors <;> rfl

/-- When the server commits every write, a cycle commits the rows of everything it learns. -/
theorem committed_rows (commits : ∀ row, db.store row = .committed) :
    (runSync sensor db resolve).out.filterMap SensorWrite.proxyRow =
      (learned resolve (visits db)).map sensor.learnedRow := by
  rw [proxyRows_runSync, List.filter_eq_self.mpr fun row _ => by simp [commits]]
  rfl

end GeoSensor

/-! ## The sensor's database settings -/

/-- The settings `MySQLConfig` gives `_connect_db`. -/
structure MySQLConfig where
  host : String
  user : String
  password : String
  database : String
  port : Int
  deriving DecidableEq, Repr

namespace MySQLConfig

/-- The settings `__init__` sets before `_parse_config` runs. -/
def defaults : MySQLConfig := ⟨"localhost", "root", "", "did", 3306⟩

/-- What `_parse_config` sets from the dict it read: each key or its default, then the host split
at its colon. The unpacking `self.host, port_str = self.host.split(':')` raises `ValueError` on a
host with two colons or more, and `int(port_str)` on a port that is no number; `except Exception`
keeps what was set before: the whole host, or the part before the colon, with the port 3306. -/
def ofConfig (config : RawConfig) : MySQLConfig :=
  let host := (config.lookup "db-host").getD "localhost"
  let read : MySQLConfig := ⟨host, (config.lookup "db-user").getD "root",
    (config.lookup "db-password").getD "", (config.lookup "database").getD "did", 3306⟩
  if ':' ∈ host.toList then
    match pySplit ':' host with
    | [hostPart, portText] =>
      match JVal.pyIntOfString portText with
      | some port => { read with host := hostPart, port := port }
      | none => { read with host := hostPart }
    | _ => read
  else read

/-- `MySQLConfig(config_file)`: a file that is missing or cannot be read leaves the defaults. -/
def new : CheckMydns.ConfigFile → MySQLConfig
  | .lines text => ofConfig (parseConfig text)
  | _ => defaults

end MySQLConfig

/-- `str.split` gives one piece more than there are separators. -/
theorem length_splitChars (sep : Char) :
    ∀ cs : List Char, (splitChars sep cs).length = cs.count sep + 1
  | [] => rfl
  | c :: cs => by
    have pieces := length_splitChars sep cs
    unfold splitChars
    split
    next none => exact absurd none (splitChars_ne_nil sep cs)
    next piece rest split =>
      rw [split] at pieces
      split <;> simp_all [List.count_cons]

/-- **The sensor's database host.** For a `db-host` written as `parse_host_entry` documents it,
`host:port`, `[host]:port`, `[host]` or `host`, the sensor connects to the host and port written
when the host holds no colon, as `parse_host_entry` does, with 3306 where `int()` refuses a port
of more than 4300 digits. An IPv6 host, with its two colons or more, is kept whole, brackets and
port included, with the port 3306. -/
theorem MySQLConfig.ofConfig_renderHost (config : RawConfig) (host : String) (port : Option Nat)
    (entry : config.lookup "db-host" = some (renderHost host port))
    (notOneColon : host.toList.count ':' ≠ 1) :
    ((ofConfig config).host, (ofConfig config).port) =
      if ':' ∈ host.toList then (renderHost host port, 3306)
      else (host, port.elim 3306 fun p =>
        if (toString p).length ≤ JVal.maxStrDigits then (p : Int) else 3306) := by
  unfold ofConfig
  rw [entry, Option.getD_some]
  dsimp only
  by_cases colon : ':' ∈ host.toList
  · have several : 2 ≤ (renderHost host port).toList.count ':' := by
      have inHost : 2 ≤ host.toList.count ':' := by
        have := List.count_pos_iff.mpr colon
        omega
      refine le_trans inHost (List.Sublist.count_le ?_ _)
      have chars : ∃ tail, (renderHost host port).toList = '[' :: (host.toList ++ ']' :: tail) := by
        simp only [renderHost, if_pos colon]
        cases port <;> simp [String.toList, String.data_append]
      obtain ⟨tail, chars⟩ := chars
      rw [chars]
      exact (List.sublist_append_left _ _).cons _
    have pieces := length_splitChars ':' (renderHost host port).toList
    rw [if_pos colon, if_pos (List.count_pos_iff.mp (by omega))]
    split
    next hostPart portText split =>
      have two := congrArg List.length split
      simp only [pySplit, List.length_map, pieces, List.length_cons, List.length_nil] at two
      omega
    next => rfl
  · rw [if_neg colon]
    cases port with
    | none =>
      simp only [renderHost, if_neg colon]
      rfl
    | some p =>
      obtain ⟨_, digits, _⟩ := portText p
      have chars : (renderHost host (some p)).toList = host.toList ++ ':' :: (toString p).toList := by
        simp only [renderHost, if_neg colon]
        simp [String.toList, String.data_append]
      have split : pySplit ':' (renderHost host (some p)) = [host, toString p] := by
        rw [pySplit, chars, splitChars_append colon,
          splitChars_of_not_mem (not_mem_of_digits digits (by decide))]
        rfl
      rw [if_pos (by rw [chars]; simp), split]
      by_cases few : (toString p).length ≤ JVal.maxStrDigits <;>
        simp only [pyIntOfString_toString, Option.elim, few, if_true, if_false]

/-- The IPv6 entry `[fd00::1]:3307`, which `parse_host_entry` reads as `fd00::1` at 3307: the
sensor connects to the whole entry at 3306. -/
theorem MySQLConfig.ofConfig_renderHost_v6 :
    ((MySQLConfig.new (.lines ["db-host = [fd00::1]:3307\n"])).host,
        (MySQLConfig.new (.lines ["db-host = [fd00::1]:3307\n"])).port) = ("[fd00::1]:3307", 3306) ∧
      parseHostEntry "[fd00::1]:3307" = ("fd00::1", 3307) := by
  have sensor := MySQLConfig.ofConfig_renderHost (MySQLConfig.parseConfig
    ["db-host = [fd00::1]:3307\n"]) "fd00::1" (some 3307) (by decide) (by decide)
  rw [if_pos (by decide)] at sensor
  exact ⟨sensor, by decide⟩


/-! ## `main` -/

/-- How the server meets the process before its cycle: whether `mysql.connector.connect` accepts
the settings `_connect_db` passes, and its answer to `_register_sensor`'s
`SELECT id FROM geo_sensors WHERE location_code = %s`: the `id` of the row, `none` inside when
there is no row, and `none` when the `SELECT` raises `Error`. -/
structure SensorServer where
  connects : MySQLConfig → Bool
  sensorIdOf : String → Option (Option Nat)

/-- `_register_sensor`: the sensor of the location's row. No row and an `Error` both end the
process with `sys.exit(1)`. -/
def GeoSensor.registerSensor (server : SensorServer) (locationCode : String) : Option GeoSensor :=
  match server.sensorIdOf locationCode with
  | some (some sensorId) => some ⟨sensorId⟩
  | _ => none

/-- `main()` of `sensor.py` run once, without `--daemon`: the exit status, and the writes the
server committed. `GeoSensor(...)` connects and registers, and `sys.exit(1)` ends the process when
either fails; what `run_sync` raises is logged as a fatal error and exits with 1. -/
def sensorMain (server : SensorServer) (configFile : CheckMydns.ConfigFile) (location : String)
    (db : SensorDb) (resolve : String → String → Option (List String)) : Nat × List SensorWrite :=
  if server.connects (MySQLConfig.new configFile) then
    match GeoSensor.registerSensor server location with
    | some sensor =>
      let run := sensor.runSync db resolve
      (if run.result.isOk then 0 else 1, run.out)
    | none => (1, [])
  else (1, [])

/-- Every row write of `www.example.com` raising, rollback included: the cycle counts the error,
and the process still exits with 0. -/
example :
    (sensorMain ⟨fun _ => true, fun _ => some (some 1)⟩ (.missing "No such file") "na"
      { GeoSensor.wwwDb with store := fun _ => .rollbackRaised (.database 2013 "Lost connection") }
      GeoSensor.wwwResolver).1 = 0 := rfl

end CloudflareSync
