import CloudflareSync.Value

/-!
# The store of the single-credential engine and the pool linker

The six tables `sync_cloudflare_records.py` and `sync_pools_direct.py` write, with the columns
their statements name. Timestamp columns (`updated_at`, `created_at`, `last_synced`) are left
out: no modelled function reads them. Every table has an AUTO_INCREMENT primary key, so a row
is a `Row`: its id and its columns. A table lists its rows in the order a `SELECT` without
`ORDER BY` returns them, which is insertion order.

A column that holds `json.dumps(v)` and is only ever decoded again stores `v` itself (`data`);
`default_pools`, which the pool linker decodes with `json.loads`, stores a `JsonText`, which
also represents text that is no JSON.

The statements are functions of the open transaction and the AUTO_INCREMENT counter, one per
statement of the source; the `@[simp]` lemmas beside them say which rows each one touches, so
later proofs never unfold a statement.
-/

set_option autoImplicit false

namespace CloudflareSync

/-- A row of a table with an AUTO_INCREMENT primary key. -/
structure Row (α : Type) where
  id : Nat
  cols : α
  deriving DecidableEq, Repr

/-- A change of every row that keeps each row's id keeps the ids of the table. -/
theorem Row.map_ids {α : Type} {f : Row α → Row α} (keeps : ∀ r, (f r).id = r.id)
    (rows : List (Row α)) : (rows.map f).map Row.id = rows.map Row.id := by
  rw [List.map_map]
  exact List.map_congr_left fun r _ => keeps r

/-- The rows of `cols`, numbered from `n` as AUTO_INCREMENT numbers a multi-row `INSERT`. -/
def numberFrom {α : Type} : Nat → List α → List (Row α)
  | _, [] => []
  | n, c :: cs => ⟨n, c⟩ :: numberFrom (n + 1) cs

@[simp] theorem numberFrom_nil {α : Type} (n : Nat) : numberFrom n ([] : List α) = [] := rfl

@[simp] theorem numberFrom_cols {α : Type} (n : Nat) (cs : List α) :
    (numberFrom n cs).map Row.cols = cs := by
  induction cs generalizing n with
  | nil => rfl
  | cons c cs ih => simp [numberFrom, ih]

theorem mem_numberFrom_id {α : Type} {n : Nat} {cs : List α} {r : Row α}
    (member : r ∈ numberFrom n cs) : n ≤ r.id ∧ r.id < n + cs.length := by
  induction cs generalizing n with
  | nil => simp at member
  | cons c cs ih =>
    simp only [numberFrom, List.mem_cons] at member
    rcases member with rfl | member
    · simp
    · have := ih member
      simp only [List.length_cons]
      omega

/-- The text of a JSON column, by what `json.loads` makes of it: a value, or text that is no
JSON (`json.loads` raises on it). -/
inductive JsonText where
  | parses (v : JVal)
  | invalid (text : String)
  deriving DecidableEq, Repr

/-- Truthiness of the column's text: JSON text is never empty. -/
def JsonText.truthy : JsonText → Bool
  | parses _ => true
  | invalid text => !text.isEmpty

/-- `cloudflare_accounts`. -/
structure AccountCols where
  cfAccountId : JVal
  name : JVal
  deriving DecidableEq, Repr

/-- `cloudflare_zones`. -/
structure ZoneCols where
  accountId : Nat
  cfZoneId : JVal
  name : JVal
  status : JVal
  paused : Bool
  zoneType : JVal
  planName : JVal
  deriving DecidableEq, Repr

/-- `cloudflare_records`. -/
structure RecordCols where
  zoneId : Nat
  cfRecordId : JVal
  recordType : JVal
  name : JVal
  content : JVal
  ttl : JVal
  proxied : Option Bool
  priority : JVal
  data : JVal
  modifiedOn : Option String
  comment : JVal
  tags : Option String
  deriving DecidableEq, Repr

/-- `cloudflare_load_balancers`. -/
structure BalancerCols where
  zoneId : Nat
  cfLbId : JVal
  name : JVal
  proxied : Option Bool
  enabled : Option Bool
  fallbackPool : JVal
  defaultPools : Option JsonText
  steeringPolicy : JVal
  data : JVal
  deriving DecidableEq, Repr

/-- `cloudflare_lb_pools`. -/
structure PoolCols where
  lbId : Nat
  cfPoolId : JVal
  name : JVal
  description : JVal
  enabled : Bool
  minimumOrigins : JVal
  monitor : JVal
  originSteeringPolicy : JVal
  notificationEmail : JVal
  notificationEnabled : Bool
  deriving DecidableEq, Repr

/-- `cloudflare_lb_pool_origins`. -/
structure OriginCols where
  poolId : Nat
  name : JVal
  address : JVal
  enabled : Bool
  weight : JVal
  port : JVal
  headerHost : JVal
  deriving DecidableEq, Repr

/-- The tables the single-credential engine and the pool linker share. -/
structure Store where
  accounts : List (Row AccountCols)
  zones : List (Row ZoneCols)
  records : List (Row RecordCols)
  balancers : List (Row BalancerCols)
  pools : List (Row PoolCols)
  origins : List (Row OriginCols)
  deriving DecidableEq, Repr

namespace Store

/-! ## The statements of `sync_cloudflare_records.py` -/

/-- `upsert_account`: `INSERT ... ON DUPLICATE KEY UPDATE name = VALUES(name), id =
LAST_INSERT_ID(id)` keyed by `cf_account_id`; it returns the row's id either way. -/
def upsertAccount (cfAccountId name : JVal) (st : Store) (n : Nat) : Store × Nat × Nat :=
  match st.accounts.find? (·.cols.cfAccountId == cfAccountId) with
  | some r =>
    ({ st with accounts := st.accounts.map fun a =>
        if a.cols.cfAccountId == cfAccountId then ⟨a.id, { a.cols with name := name }⟩ else a },
      n, r.id)
  | none => ({ st with accounts := st.accounts ++ [⟨n, ⟨cfAccountId, name⟩⟩] }, n + 1, n)

/-- `upsert_zone`: keyed by `cf_zone_id`, a duplicate has every other column replaced. -/
def upsertZone (cols : ZoneCols) (st : Store) (n : Nat) : Store × Nat × Nat :=
  match st.zones.find? (·.cols.cfZoneId == cols.cfZoneId) with
  | some r =>
    ({ st with zones := st.zones.map fun z =>
        if z.cols.cfZoneId == cols.cfZoneId then ⟨z.id, cols⟩ else z }, n, r.id)
  | none => ({ st with zones := st.zones ++ [⟨n, cols⟩] }, n + 1, n)

/-- `DELETE FROM cloudflare_records WHERE zone_id = %s`. -/
def deleteRecords (zoneId : Nat) (st : Store) : Store :=
  { st with records := st.records.filter (·.cols.zoneId != zoneId) }

/-- `executemany(INSERT INTO cloudflare_records ...)`. -/
def insertRecords (rows : List RecordCols) (st : Store) (n : Nat) : Store × Nat × Unit :=
  ({ st with records := st.records ++ numberFrom n rows }, n + rows.length, ())

/-- `DELETE FROM cloudflare_load_balancers WHERE zone_id = %s`. -/
def deleteBalancers (zoneId : Nat) (st : Store) : Store :=
  { st with balancers := st.balancers.filter (·.cols.zoneId != zoneId) }

/-- `executemany(INSERT INTO cloudflare_load_balancers ...)`. -/
def insertBalancers (rows : List BalancerCols) (st : Store) (n : Nat) : Store × Nat × Unit :=
  ({ st with balancers := st.balancers ++ numberFrom n rows }, n + rows.length, ())

/-! ## What one zone sees of the store -/

/-- The zone row of provider zone `key`, found as `WHERE cf_zone_id = %s` finds it. -/
def zoneRow (st : Store) (key : JVal) : Option (Row ZoneCols) :=
  st.zones.find? (·.cols.cfZoneId == key)

/-- The record rows of the zone with local id `zoneId`, without their own ids. -/
def recordsOf (st : Store) (zoneId : Nat) : List RecordCols :=
  (st.records.filter (·.cols.zoneId == zoneId)).map Row.cols

/-- The load-balancer rows of the zone with local id `zoneId`, without their own ids. -/
def balancersOf (st : Store) (zoneId : Nat) : List BalancerCols :=
  (st.balancers.filter (·.cols.zoneId == zoneId)).map Row.cols

/-- Everything the store holds about provider zone `key`: its row, and the record and
load-balancer rows whose `zone_id` is the row's id. -/
def zoneView (st : Store) (key : JVal) :
    Option (Row ZoneCols × List RecordCols × List BalancerCols) :=
  (st.zoneRow key).map fun z => (z, st.recordsOf z.id, st.balancersOf z.id)

@[simp] theorem upsertAccount_zones (cfAccountId name : JVal) (st : Store) (n : Nat) :
    (upsertAccount cfAccountId name st n).1.zones = st.zones := by
  unfold upsertAccount; split <;> rfl

@[simp] theorem upsertAccount_records (cfAccountId name : JVal) (st : Store) (n : Nat) :
    (upsertAccount cfAccountId name st n).1.records = st.records := by
  unfold upsertAccount; split <;> rfl

@[simp] theorem upsertAccount_balancers (cfAccountId name : JVal) (st : Store) (n : Nat) :
    (upsertAccount cfAccountId name st n).1.balancers = st.balancers := by
  unfold upsertAccount; split <;> rfl

theorem upsertAccount_grows (cfAccountId name : JVal) (st : Store) (n : Nat) :
    n ≤ (upsertAccount cfAccountId name st n).2.1 := by
  unfold upsertAccount; split <;> simp

theorem upsertAccount_zoneView (cfAccountId name : JVal) (st : Store) (n : Nat) (key : JVal) :
    (upsertAccount cfAccountId name st n).1.zoneView key = st.zoneView key := by
  simp [zoneView, zoneRow, recordsOf, balancersOf]

@[simp] theorem deleteRecords_zones (zoneId : Nat) (st : Store) :
    (deleteRecords zoneId st).zones = st.zones := rfl
@[simp] theorem deleteRecords_balancers (zoneId : Nat) (st : Store) :
    (deleteRecords zoneId st).balancers = st.balancers := rfl
@[simp] theorem insertRecords_zones (rows : List RecordCols) (st : Store) (n : Nat) :
    (insertRecords rows st n).1.zones = st.zones := rfl
@[simp] theorem insertRecords_balancers (rows : List RecordCols) (st : Store) (n : Nat) :
    (insertRecords rows st n).1.balancers = st.balancers := rfl
@[simp] theorem deleteBalancers_zones (zoneId : Nat) (st : Store) :
    (deleteBalancers zoneId st).zones = st.zones := rfl
@[simp] theorem deleteBalancers_records (zoneId : Nat) (st : Store) :
    (deleteBalancers zoneId st).records = st.records := rfl
@[simp] theorem insertBalancers_zones (rows : List BalancerCols) (st : Store) (n : Nat) :
    (insertBalancers rows st n).1.zones = st.zones := rfl
@[simp] theorem insertBalancers_records (rows : List BalancerCols) (st : Store) (n : Nat) :
    (insertBalancers rows st n).1.records = st.records := rfl

@[simp] theorem insertRecords_nil (st : Store) (n : Nat) : insertRecords [] st n = (st, n, ()) := by
  simp [insertRecords]
@[simp] theorem insertBalancers_nil (st : Store) (n : Nat) :
    insertBalancers [] st n = (st, n, ()) := by
  simp [insertBalancers]

@[simp] theorem recordsOf_deleteBalancers (zoneId other : Nat) (st : Store) :
    (deleteBalancers zoneId st).recordsOf other = st.recordsOf other := rfl
@[simp] theorem recordsOf_insertBalancers (rows : List BalancerCols) (st : Store) (n other : Nat) :
    (insertBalancers rows st n).1.recordsOf other = st.recordsOf other := rfl
@[simp] theorem balancersOf_deleteRecords (zoneId other : Nat) (st : Store) :
    (deleteRecords zoneId st).balancersOf other = st.balancersOf other := rfl
@[simp] theorem balancersOf_insertRecords (rows : List RecordCols) (st : Store) (n other : Nat) :
    (insertRecords rows st n).1.balancersOf other = st.balancersOf other := rfl

@[simp] theorem recordsOf_deleteRecords (zoneId other : Nat) (st : Store) :
    (deleteRecords zoneId st).recordsOf other =
      if other = zoneId then [] else st.recordsOf other := by
  unfold recordsOf deleteRecords
  split
  next same =>
    subst same
    simp [List.filter_filter]
  next different =>
    rw [List.filter_filter]
    congr 2
    funext r
    by_cases h : r.cols.zoneId = other
    · simp [h, different]
    · simp [h]

@[simp] theorem recordsOf_insertRecords (rows : List RecordCols) (st : Store) (n zoneId : Nat) :
    (insertRecords rows st n).1.recordsOf zoneId =
      st.recordsOf zoneId ++ rows.filter (·.zoneId == zoneId) := by
  simp only [recordsOf, insertRecords, List.filter_append, List.map_append]
  congr 1
  induction rows generalizing n with
  | nil => rfl
  | cons c cs ih =>
    simp only [numberFrom, List.filter_cons]
    split <;> simp [ih]

@[simp] theorem balancersOf_deleteBalancers (zoneId other : Nat) (st : Store) :
    (deleteBalancers zoneId st).balancersOf other =
      if other = zoneId then [] else st.balancersOf other := by
  unfold balancersOf deleteBalancers
  split
  next same =>
    subst same
    simp [List.filter_filter]
  next different =>
    rw [List.filter_filter]
    congr 2
    funext r
    by_cases h : r.cols.zoneId = other
    · simp [h, different]
    · simp [h]

@[simp] theorem balancersOf_insertBalancers (rows : List BalancerCols) (st : Store)
    (n zoneId : Nat) :
    (insertBalancers rows st n).1.balancersOf zoneId =
      st.balancersOf zoneId ++ rows.filter (·.zoneId == zoneId) := by
  simp only [balancersOf, insertBalancers, List.filter_append, List.map_append]
  congr 1
  induction rows generalizing n with
  | nil => rfl
  | cons c cs ih =>
    simp only [numberFrom, List.filter_cons]
    split <;> simp [ih]

end Store

end CloudflareSync
