import CloudflareSync.MysqlSensor

/-!
# The API sensor `sensor-api.py`

`GeoSensorAPI` reads the zones and their records from the dnsmanager API as JSON, collects the
results of the records that resolve, and posts them in one request at the end of the cycle. The
API is given as its response to a GET of each URL and to the POST of each batch.

* On every listing its cycle can go through, the sensor posts in one batch the results of the
  records that hold their keys and resolve, and counts each record that lacks a key as an error
  (`GeoSensorAPI.runSync_shaped`).
* It posts nothing at all when a single zone or record of the listing has another shape
  (`GeoSensorAPI.runSync_posted_shape`).
* Fed the same zones and records, the API sensor and the MySQL sensor learn the same addresses
  (`sensors_learn_alike`).
-/

set_option autoImplicit false

namespace CloudflareSync

/-! ## The requests and the cycle -/

/-- `len(v)`: the characters of a string, the items of a list, the keys of a dict; anything else
raises `TypeError`. -/
def JVal.pyLen : JVal → Except Exc Nat
  | .str s => .ok s.length
  | .arr xs => .ok xs.length
  | .obj fs => .ok fs.length
  | v => .error (.typeError s!"object of type '{v.typeName}' has no len()")

/-- A response of the dnsmanager API as the sensor reads it: the status code, and what
`response.json()` decodes, `none` when the body is no JSON (`requests` then raises its
`JSONDecodeError`, a `RequestException`). -/
structure Response where
  statusCode : Nat
  json : Option JVal
  deriving DecidableEq

/-- The batch `submit_results` posts to `/api/sensors/submit`, but for its `timestamp`. -/
structure Submission where
  sensorId : JVal
  locationCode : String
  results : List JVal
  deriving DecidableEq

/-- The dnsmanager API as the sensor's session meets it: the response to a GET of each URL and
to the POST of each batch, `none` when `requests` raises a `RequestException`. -/
structure SensorApi where
  get : String → Option Response
  post : Submission → Option Response

/-- A `GeoSensorAPI` after `__init__`: its location, the API URL with its trailing slashes
stripped, and the `id` the API gave for the location. -/
structure GeoSensorAPI where
  locationCode : String
  apiUrl : String
  sensorId : JVal
  deriving DecidableEq

namespace GeoSensorAPI

variable (sensor : GeoSensorAPI) (api : SensorApi) (resolve : String → String → Option (List String))

/-- The body of a listing: the decoded JSON of a response with status 200. Another status, a
`RequestException`, and a body that is no JSON give `[]`. -/
def listing : Option Response → JVal
  | some ⟨200, some body⟩ => body
  | _ => .arr []

/-- `get_zones_to_sync`. -/
def getZonesToSync : JVal := listing (api.get (sensor.apiUrl ++ "/api/sensors/zones-to-sync"))

/-- `get_proxied_records(zone)`, on the `zone["zone_id"]` that `run_sync` has read. -/
def getProxiedRecords (zoneId : JVal) : JVal :=
  listing (api.get (sensor.apiUrl ++ "/api/sensors/zones/" ++ zoneId.pyStr ++ "/proxied-records"))

/-- `resolve_record` on the values a record of the listing holds. A name that is no string has
no `endswith`, and the `AttributeError` is caught; a type that is no string is none of the three. -/
def resolveRecord (recordName recordType : JVal) : List String :=
  match recordName, recordType with
  | .str name, .str type => resolveAddresses resolve name type
  | _, _ => []

/-- `record['record_id']`, `record['record_name']` and `record['record_type']`, in that order. -/
def readRecord (record : JVal) : Except Exc (JVal × JVal × JVal) := do
  let recordId ← record.index "record_id"
  let recordName ← record.index "record_name"
  let recordType ← record.index "record_type"
  return (recordId, recordName, recordType)

/-- The dict `run_sync` collects for a record that resolves. -/
def result (zoneId recordId recordName recordType : JVal) (ips : List String) : JVal :=
  .obj [("zone_id", zoneId), ("record_id", recordId), ("record_name", recordName),
    ("record_type", recordType), ("learned_ips", .arr (ips.map .str))]

/-- One pass of the record loop of `run_sync`. Its `except Exception` counts a record that lacks
a key, but its handler calls `record.get`, which raises on a record that is no dict. -/
def processRecord (zoneId : JVal) (c : Cycle JVal) (record : JVal) : Except Exc (Cycle JVal) :=
  let counted : SyncStats := { c.stats with records := c.stats.records + 1 }
  match readRecord record with
  | .ok (recordId, recordName, recordType) =>
    let ips := resolveRecord resolve recordName recordType
    if ips = [] then .ok ⟨counted, c.out⟩
    else .ok ⟨{ counted with ipsLearned := counted.ipsLearned + ips.length },
      c.out ++ [result zoneId recordId recordName recordType ips]⟩
  | .error _ =>
    match record.get "record_name" with
    | .ok _ => .ok ⟨{ counted with errors := counted.errors + 1 }, c.out⟩
    | .error e => .error e

/-- One pass of the zone loop of `run_sync`: nothing catches what it raises. -/
def processZone (c : Cycle JVal) (zone : JVal) : Except Exc (Cycle JVal) := do
  let zoneId ← zone.index "zone_id"
  let _ ← zone.index "zone_name"
  let records := sensor.getProxiedRecords api zoneId
  let _ ← records.pyLen
  let items ← records.iter
  items.foldlM (processRecord resolve zoneId) c

/-- `submit_results(results)`: whether the API took the batch. A reply of 200 whose JSON is no
dict raises from `result.get`. -/
def submitResults (results : List JVal) : Except Exc Bool :=
  if results.isEmpty then .ok true
  else
    match api.post ⟨sensor.sensorId, sensor.locationCode, results⟩ with
    | some ⟨200, some reply⟩ => (reply.getD "processed" (.num 0)).map fun _ => true
    | _ => .ok false

/-- `run_sync`: the zones' record loops collect the results, posted in one batch at the end; a
batch the API did not take is one error. What the zone loop raises ends the cycle before
anything is posted. -/
def runSync : SyncRun Submission :=
  let zones := sensor.getZonesToSync api
  match zones.pyLen with
  | .error e => ⟨[], .error e⟩
  | .ok count =>
    let start : Cycle JVal := ⟨⟨count, 0, 0, 0⟩, []⟩
    if zones.truthy = false then ⟨[], .ok start.stats⟩
    else
      match zones.iter >>= fun items => items.foldlM (processZone sensor api resolve) start with
      | .error e => ⟨[], .error e⟩
      | .ok c =>
        if c.out.isEmpty then ⟨[], .ok c.stats⟩
        else
          let batch : Submission := ⟨sensor.sensorId, sensor.locationCode, c.out⟩
          match sensor.submitResults api c.out with
          | .ok true => ⟨[batch], .ok c.stats⟩
          | .ok false => ⟨[batch], .ok { c.stats with errors := c.stats.errors + 1 }⟩
          | .error e => ⟨[batch], .error e⟩

/-- `_register_sensor`: the `id` the API gives for the location. A reply of status 200 is read as
a dict, its `id` taken and its `location_name` read for the log line: a missing key raises a
`KeyError` that nothing catches. 404, another status and a `RequestException` (a body that is no
JSON among them) end in `sys.exit(1)`. Every `none` ends the process with status 1. -/
def registerSensor (apiUrl locationCode : String) : Option JVal :=
  match api.get (apiUrl ++ "/api/sensors/" ++ locationCode) with
  | some ⟨200, some sensorData⟩ =>
    match sensorData.index "id", sensorData.index "location_name" with
    | .ok sensorId, .ok _ => some sensorId
    | _, _ => none
  | _ => none

/-! ## What a cycle posts -/

/-- A zone of the listing that `run_sync` goes through without raising: a dict holding a
`zone_id` and a `zone_name`, whose records listing holds dicts only. -/
def Shaped (zone : JVal) : Prop :=
  ∃ zoneId, zone.index "zone_id" = .ok zoneId ∧ (∃ name, zone.index "zone_name" = .ok name) ∧
    ∃ records, (sensor.getProxiedRecords api zoneId).iter = .ok records ∧
      ∀ record ∈ records, record.isDict = true

/-- The records of a listed zone, each with the zone's id, in listing order. -/
def zoneRecords (zone : JVal) : List (JVal × JVal) :=
  match zone.index "zone_id" with
  | .ok zoneId =>
    match (sensor.getProxiedRecords api zoneId).iter with
    | .ok records => records.map (zoneId, ·)
    | .error _ => []
  | .error _ => []

/-- The addresses a record resolves to; none for a record that lacks a key. -/
def recordIps (record : JVal) : List String :=
  match readRecord record with
  | .ok (_, recordName, recordType) => resolveRecord resolve recordName recordType
  | .error _ => []

/-- The result a visited record adds to the batch: one for a record that holds the three keys
and resolves. -/
def visitResult (visit : JVal × JVal) : Option JVal :=
  match readRecord visit.2 with
  | .ok (recordId, recordName, recordType) =>
    let ips := resolveRecord resolve recordName recordType
    if ips = [] then none else some (result visit.1 recordId recordName recordType ips)
  | .error _ => none

/-- What a visited record that is a dict adds to the cycle: one record, its addresses, its
result, and one error when it lacks a key. -/
def visitEffect (visit : JVal × JVal) : Cycle JVal :=
  ⟨⟨0, 1, (recordIps resolve visit.2).length, if (readRecord visit.2).isOk then 0 else 1⟩,
    (visitResult resolve visit).toList⟩

/-- **Step lemma.** A pass over a record that is a dict adds its effect. -/
theorem processRecord_dict {zoneId record : JVal} (dict : record.isDict = true) (c : Cycle JVal) :
    processRecord resolve zoneId c record = .ok (c.add (visitEffect resolve (zoneId, record))) := by
  unfold processRecord visitEffect recordIps visitResult
  cases read : readRecord record with
  | ok fields =>
    obtain ⟨recordId, recordName, recordType⟩ := fields
    by_cases unresolved : resolveRecord resolve recordName recordType = [] <;>
      simp [unresolved, Cycle.add, Except.isOk, Except.toBool]
  | error e =>
    cases record
    case obj fields => simp [JVal.get, Cycle.add, Except.isOk, Except.toBool]
    all_goals cases dict

theorem pyLen_of_iter {v : JVal} {items : List JVal} (iterated : v.iter = .ok items) :
    ∃ n, v.pyLen = .ok n := by
  cases v <;> first | exact ⟨_, rfl⟩ | cases iterated

/-- A pass over a zone `run_sync` can go through adds the effects of its records. -/
theorem processZone_shaped {zone : JVal} (shaped : Shaped sensor api zone) (c : Cycle JVal) :
    processZone sensor api resolve c zone =
      .ok (c.add (Cycle.total ((zoneRecords sensor api zone).map (visitEffect resolve)))) := by
  obtain ⟨zoneId, idRead, ⟨name, nameRead⟩, records, listed, dicts⟩ := shaped
  obtain ⟨count, counted⟩ := pyLen_of_iter listed
  have visited : zoneRecords sensor api zone = records.map (zoneId, ·) := by
    unfold zoneRecords
    rw [idRead]
    simp only [listed]
  unfold processZone
  rw [idRead]
  show (zone.index "zone_name" >>= fun _ => _) = _
  rw [nameRead]
  show ((sensor.getProxiedRecords api zoneId).pyLen >>= fun _ => _) = _
  rw [counted]
  show ((sensor.getProxiedRecords api zoneId).iter >>= fun _ => _) = _
  rw [listed, visited, List.map_map]
  exact Cycle.foldlM_add _ _ records (fun c record member =>
    processRecord_dict resolve (dicts record member) c) c

/-- **Run lemma.** The zone loop of `run_sync` over zones it can go through adds the effects of
every record of every zone. -/
theorem zones_shaped {zones : List JVal} (shaped : ∀ zone ∈ zones, Shaped sensor api zone)
    (c : Cycle JVal) :
    zones.foldlM (processZone sensor api resolve) c =
      .ok (c.add (Cycle.total ((zones.flatMap (zoneRecords sensor api)).map (visitEffect resolve)))) := by
  rw [Cycle.foldlM_add _ (fun zone => Cycle.total ((zoneRecords sensor api zone).map
    (visitEffect resolve))) zones (fun c zone member => processZone_shaped sensor api resolve
    (shaped zone member) c) c, Cycle.total_map_total, List.map_flatMap]

/-- The effects of the visited records add up to their count, their addresses, the records that
lack a key, and the results of those that resolve. -/
theorem total_visitEffects : ∀ visits : List (JVal × JVal),
    Cycle.total (visits.map (visitEffect resolve)) =
      ⟨⟨0, visits.length, (visits.map fun visit => (recordIps resolve visit.2).length).sum,
        visits.countP fun visit => !(readRecord visit.2).isOk⟩,
        visits.filterMap (visitResult resolve)⟩
  | [] => rfl
  | visit :: visits => by
    rw [List.map_cons, Cycle.total_cons, total_visitEffects visits, List.filterMap_cons]
    unfold visitEffect
    cases read : (readRecord visit.2).isOk <;> cases visitResult resolve visit <;>
      simp [Cycle.add, List.countP_cons, Nat.add_comm, read]

/-- `run_sync` on a zone listing that is a list: the zone loop, then one batch of what it
collected. -/
theorem runSync_of_loop {zones : List JVal} (listing : sensor.getZonesToSync api = .arr zones)
    {c : Cycle JVal}
    (loop : zones.foldlM (processZone sensor api resolve) ⟨⟨zones.length, 0, 0, 0⟩, []⟩ = .ok c) :
    runSync sensor api resolve =
      if c.out = [] then ⟨[], .ok c.stats⟩
      else ⟨[⟨sensor.sensorId, sensor.locationCode, c.out⟩],
        (sensor.submitResults api c.out).map fun accepted =>
          if accepted then c.stats else { c.stats with errors := c.stats.errors + 1 }⟩ := by
  unfold runSync
  rw [listing]
  cases zones with
  | nil =>
    cases loop
    rfl
  | cons zone rest =>
    simp only [JVal.pyLen, JVal.truthy_arr, List.isEmpty_cons, Bool.not_false, Bool.true_eq_false,
      if_false, JVal.iter_arr, bind, Except.bind, loop, List.isEmpty_iff]
    split
    · rfl
    · cases sensor.submitResults api c.out with
      | error e => rfl
      | ok accepted => cases accepted <;> rfl

/-- **The API sensor's cycle.** Over every API whose zone listing is a list of zones that
`run_sync` can go through, the cycle visits each record of each zone; it posts, in one batch,
the results of the records that hold `record_id`, `record_name` and `record_type` and resolve,
in order, and posts nothing when there is none. It counts the zones, the visited records, the
addresses learned, and as errors the records that lack one of the three keys and a batch the
API did not take. Names and types that are no strings resolve to nothing, and ids are posted as
the listing gives them. -/
theorem runSync_shaped (zones : List JVal) (listing : sensor.getZonesToSync api = .arr zones)
    (shaped : ∀ zone ∈ zones, Shaped sensor api zone) :
    let visits := zones.flatMap (zoneRecords sensor api)
    let results := visits.filterMap (visitResult resolve)
    let stats : SyncStats := ⟨zones.length, visits.length,
      (visits.map fun visit => (recordIps resolve visit.2).length).sum,
      visits.countP fun visit => !(readRecord visit.2).isOk⟩
    runSync sensor api resolve =
      if results = [] then ⟨[], .ok stats⟩
      else ⟨[⟨sensor.sensorId, sensor.locationCode, results⟩],
        (sensor.submitResults api results).map fun accepted =>
          if accepted then stats else { stats with errors := stats.errors + 1 }⟩ := by
  rw [runSync_of_loop sensor api resolve listing (zones_shaped sensor api resolve shaped _),
    total_visitEffects]
  simp only [Cycle.add, Nat.zero_add, Nat.add_zero, List.nil_append]

/-- The sensor `na` of the API at `https://dns.example`. -/
def naSensor : GeoSensorAPI := ⟨"na", "https://dns.example", .num 1⟩

/-- The zone `z1` as the API lists it. -/
def zoneOne : JVal := .obj [("zone_id", .str "z1"), ("zone_name", .str "example.com")]

/-- The record `www.example.com` as the API lists it. -/
def wwwItem : JVal :=
  .obj [("record_id", .str "r1"), ("record_name", .str "www.example.com"), ("record_type", .str "A")]

/-- An API that lists the zone `z1` with the records `records`, and takes every batch. -/
def zoneApi (records : List JVal) : SensorApi where
  get url :=
    if url = "https://dns.example/api/sensors/zones-to-sync" then some ⟨200, some (.arr [zoneOne])⟩
    else if url = "https://dns.example/api/sensors/zones/z1/proxied-records" then
      some ⟨200, some (.arr records)⟩
    else none
  post _ := some ⟨200, some (.obj [("processed", .num 1)])⟩

/-- Zone `z1` with `www.example.com` and a record that lacks its type: two records, one address,
one error. -/
theorem runSync_shaped_partial :
    (runSync naSensor (zoneApi [wwwItem, .obj [("record_id", .str "r2")]])
      GeoSensor.wwwResolver).result = .ok ⟨1, 2, 1, 1⟩ := by
  rw [runSync_shaped naSensor (zoneApi [wwwItem, .obj [("record_id", .str "r2")]])
    GeoSensor.wwwResolver [zoneOne] rfl fun zone member => by
      rw [List.mem_singleton.mp member]
      exact ⟨_, rfl, ⟨_, rfl⟩, _, rfl, by decide⟩]
  rfl

/-! ## A listing of string ids -/

/-- A record of the listing that holds the id, name and type of `record` as strings. -/
def Presents (item : JVal) (record : RecordRow) : Prop :=
  item.index "record_id" = .ok (.str record.recordId) ∧
    item.index "record_name" = .ok (.str record.recordName) ∧
    item.index "record_type" = .ok (.str record.recordType)

/-- A zone of the listing that holds the id `zone.1` as a string and a `zone_name`, and whose
records URL lists dicts that present the records `zone.2`. -/
def ListsZone (item : JVal) (zone : String × List RecordRow) : Prop :=
  item.index "zone_id" = .ok (.str zone.1) ∧ (∃ name, item.index "zone_name" = .ok name) ∧
    ∃ records, sensor.getProxiedRecords api (.str zone.1) = .arr records ∧
      List.Forall₂ Presents records zone.2

/-- An API whose listing is the zones `zones`, each with its records. -/
def Lists (zones : List (String × List RecordRow)) : Prop :=
  ∃ items, sensor.getZonesToSync api = .arr items ∧ List.Forall₂ (ListsZone sensor api) items zones

/-- The result the API sensor posts for a learned record. -/
def learnedResult (entry : String × RecordRow × List String) : JVal :=
  result (.str entry.1) (.str entry.2.1.recordId) (.str entry.2.1.recordName)
    (.str entry.2.1.recordType) entry.2.2

theorem exists_of_forall₂ {α β : Type} {R : α → β → Prop} :
    ∀ {xs : List α} {ys : List β}, List.Forall₂ R xs ys → ∀ x ∈ xs, ∃ y, R x y
  | _, _, .nil, _, member => absurd member (List.not_mem_nil _)
  | _, _, .cons related rest, x, member => by
    rcases List.mem_cons.mp member with rfl | member
    · exact ⟨_, related⟩
    · exact exists_of_forall₂ rest x member

theorem Presents.isDict {item : JVal} {record : RecordRow} (presents : Presents item record) :
    item.isDict = true := by
  obtain ⟨recordId, -, -⟩ := presents
  cases item <;> simp_all [JVal.index, JVal.isDict]

theorem Presents.visitResult_eq {item : JVal} {record : RecordRow} (presents : Presents item record)
    (zoneId : String) :
    visitResult resolve (.str zoneId, item) =
      if resolveAddresses resolve record.recordName record.recordType = [] then none
      else some (learnedResult (zoneId, record,
        resolveAddresses resolve record.recordName record.recordType)) := by
  obtain ⟨recordId, recordName, recordType⟩ := presents
  have read : readRecord item =
      .ok (.str record.recordId, .str record.recordName, .str record.recordType) := by
    unfold readRecord
    rw [recordId, recordName, recordType]
    rfl
  unfold visitResult
  rw [read]
  rfl

theorem presents_visitResults (zoneId : String) :
    ∀ {items : List JVal} {records : List RecordRow}, List.Forall₂ Presents items records →
      (items.map (.str zoneId, ·)).filterMap (visitResult resolve) =
        (learned resolve (records.map (zoneId, ·))).map learnedResult
  | _, _, .nil => rfl
  | _, _, @List.Forall₂.cons _ _ _ _ record _ _ presents rest => by
    rw [List.map_cons, List.filterMap_cons, presents.visitResult_eq, List.map_cons, learned_cons,
      presents_visitResults zoneId rest]
    by_cases unresolved : resolveAddresses resolve record.recordName record.recordType = [] <;>
      simp [unresolved]

theorem ListsZone.shaped {item : JVal} {zone : String × List RecordRow}
    (lists : ListsZone sensor api item zone) : Shaped sensor api item := by
  obtain ⟨zoneId, named, records, listed, presents⟩ := lists
  refine ⟨_, zoneId, named, records, by rw [listed]; rfl, fun record member => ?_⟩
  obtain ⟨_, present⟩ := exists_of_forall₂ presents record member
  exact present.isDict

theorem ListsZone.visitResults {item : JVal} {zone : String × List RecordRow}
    (lists : ListsZone sensor api item zone) :
    (zoneRecords sensor api item).filterMap (visitResult resolve) =
      (learned resolve (zone.2.map (zone.1, ·))).map learnedResult := by
  obtain ⟨zoneId, -, records, listed, presents⟩ := lists
  unfold zoneRecords
  rw [zoneId]
  simp only [listed, JVal.iter_arr]
  exact presents_visitResults resolve zone.1 presents

theorem lists_visitResults :
    ∀ {items : List JVal} {zones : List (String × List RecordRow)},
      List.Forall₂ (ListsZone sensor api) items zones →
        (items.flatMap (zoneRecords sensor api)).filterMap (visitResult resolve) =
          (learned resolve (visitsOf zones)).map learnedResult
  | _, _, .nil => rfl
  | _, _, .cons lists rest => by
    rw [List.flatMap_cons, List.filterMap_append, lists.visitResults sensor api resolve,
      lists_visitResults rest, ← List.map_append]
    unfold learned
    rw [← List.filterMap_append]
    rfl

/-- The results a cycle posts are those its zone loop collected. -/
theorem posted_of_loop {zones : List JVal} (listing : sensor.getZonesToSync api = .arr zones)
    {c : Cycle JVal}
    (loop : zones.foldlM (processZone sensor api resolve) ⟨⟨zones.length, 0, 0, 0⟩, []⟩ = .ok c) :
    (runSync sensor api resolve).out.flatMap (·.results) = c.out := by
  rw [runSync_of_loop sensor api resolve listing loop]
  split
  next none => exact none.symm
  next => simp

/-- On a listing of string ids, the batches a cycle posts hold the results of what it learns. -/
theorem posted_listed {zones : List (String × List RecordRow)} (listed : Lists sensor api zones) :
    (runSync sensor api resolve).out.flatMap (·.results) =
      (learned resolve (visitsOf zones)).map learnedResult := by
  obtain ⟨items, listing, related⟩ := listed
  rw [posted_of_loop sensor api resolve listing (zones_shaped sensor api resolve
    (fun item member => let ⟨_, lists⟩ := exists_of_forall₂ related item member
      lists.shaped sensor api) _),
    total_visitEffects]
  exact lists_visitResults sensor api resolve related

/-- The API `zoneApi [wwwItem]` lists the zone `z1` with the record `www.example.com`. -/
theorem wwwApi_lists : naSensor.Lists (zoneApi [wwwItem]) [("z1", [GeoSensor.wwwRecord])] :=
  ⟨_, rfl, .cons ⟨rfl, ⟨_, rfl⟩, _, rfl, .cons ⟨rfl, rfl, rfl⟩ .nil⟩ .nil⟩

/-! ## What a posted batch says about the listing -/

theorem processRecord_ok_isDict {zoneId : JVal} {c d : Cycle JVal} {record : JVal}
    (done : processRecord resolve zoneId c record = .ok d) : record.isDict = true := by
  cases record
  case obj => rfl
  all_goals simp [processRecord, readRecord, JVal.index, JVal.get, JVal.getD, bind, Except.bind] at done

theorem processZone_ok_shaped {c d : Cycle JVal} {zone : JVal}
    (done : processZone sensor api resolve c zone = .ok d) : Shaped sensor api zone := by
  unfold processZone at done
  obtain ⟨zoneId, idRead, done⟩ := bind_eq_ok done
  obtain ⟨name, nameRead, done⟩ := bind_eq_ok done
  obtain ⟨_, _, done⟩ := bind_eq_ok done
  obtain ⟨records, listed, done⟩ := bind_eq_ok done
  refine ⟨zoneId, idRead, ⟨name, nameRead⟩, records, listed, fun record member => ?_⟩
  obtain ⟨_, _, stepped⟩ := foldlM_ok_step done record member
  exact processRecord_ok_isDict resolve stepped

/-- Iterating a truthy value that is no list gives a string: a character of a string, or a key
of a dict. -/
theorem iter_str_mem {v : JVal} {items : List JVal} (iterated : v.iter = .ok items)
    (truthy : v.truthy = true) (notList : ∀ xs, v ≠ .arr xs) : ∃ text, JVal.str text ∈ items := by
  cases v
  case str text =>
    cases iterated
    obtain ⟨ch, rest, chars⟩ := List.exists_cons_of_ne_nil fun none : text.toList = [] => by
      cases (String.ext none : text = "")
      exact absurd truthy (by decide)
    exact ⟨_, List.mem_map.mpr ⟨ch, chars ▸ List.mem_cons_self _ _, rfl⟩⟩
  case obj fields =>
    cases iterated
    obtain ⟨field, rest, rfl⟩ := List.exists_cons_of_ne_nil (by simpa using truthy)
    exact ⟨_, List.mem_cons_self _ _⟩
  case arr xs => exact absurd rfl (notList xs)
  all_goals cases iterated

/-- A zone loop that goes through a truthy listing shows the listing is a list of zones it can go
through: iterating a dict or a string gives strings, which hold no `zone_id`. -/
theorem listing_shaped {start c : Cycle JVal} (truthy : (sensor.getZonesToSync api).truthy = true)
    (loopOk : ((sensor.getZonesToSync api).iter >>= fun items =>
      items.foldlM (processZone sensor api resolve) start) = .ok c) :
    ∃ zones, sensor.getZonesToSync api = .arr zones ∧ ∀ zone ∈ zones, Shaped sensor api zone := by
  obtain ⟨items, iterOk, loop⟩ := bind_eq_ok loopOk
  have shaped := fun zone member =>
    let ⟨_, _, stepped⟩ := foldlM_ok_step loop zone member
    processZone_ok_shaped sensor api resolve stepped
  generalize sensor.getZonesToSync api = zones at *
  cases zones
  case arr zones =>
    rw [JVal.iter_arr] at iterOk
    cases iterOk
    exact ⟨_, rfl, shaped⟩
  all_goals
    obtain ⟨text, member⟩ := iter_str_mem iterOk truthy fun _ => JVal.noConfusion
    obtain ⟨zoneId, idRead, -⟩ := shaped _ member
    cases idRead

/-- **One bad item loses the cycle.** A cycle of the API sensor posts a batch only when the zone
listing is a list of dicts that each hold a `zone_id` and a `zone_name`, and each zone's records
listing holds dicts only. Conversely, a listing that is not empty and not such a list, with a
single zone or record of another shape, makes `run_sync` raise, and every result collected so
far is lost. (A record dict that lacks a key is only counted as an error.) -/
theorem runSync_posted_shape :
    ((runSync sensor api resolve).out ≠ [] →
      ∃ zones, sensor.getZonesToSync api = .arr zones ∧ ∀ zone ∈ zones, Shaped sensor api zone) ∧
    ((sensor.getZonesToSync api).truthy = true →
      (¬∃ zones, sensor.getZonesToSync api = .arr zones ∧ ∀ zone ∈ zones, Shaped sensor api zone) →
      (runSync sensor api resolve).out = [] ∧ ∃ e, (runSync sensor api resolve).result = .error e) := by
  unfold runSync
  dsimp only
  constructor
  · intro posted
    split at posted
    · exact absurd rfl posted
    split at posted
    · exact absurd rfl posted
    split at posted
    · exact absurd rfl posted
    rename_i _ count lenOk truthy _ c loopOk
    exact listing_shaped sensor api resolve (Bool.not_eq_false _ |>.mp truthy) loopOk
  · intro truthy misshaped
    split
    · exact ⟨rfl, _, rfl⟩
    rw [if_neg (by simp [truthy])]
    split
    · exact ⟨rfl, _, rfl⟩
    · rename_i c loopOk
      exact absurd (listing_shaped sensor api resolve truthy loopOk) misshaped

/-- The cycle over `www.example.com` posts, so its zone listing is a list. -/
theorem runSync_posted_shape_www :
    (runSync naSensor (zoneApi [wwwItem]) GeoSensor.wwwResolver).out ≠ [] ∧
      (naSensor.getZonesToSync (zoneApi [wwwItem])).isList = true := by
  have posted : (runSync naSensor (zoneApi [wwwItem]) GeoSensor.wwwResolver).out ≠ [] := by decide
  obtain ⟨zones, listing, -⟩ :=
    (runSync_posted_shape naSensor (zoneApi [wwwItem]) GeoSensor.wwwResolver).1 posted
  exact ⟨posted, by rw [listing]; rfl⟩

/-- Zone `z1` listing the record `www.example.com` and a bare string: the string raises from
`record.get` in the handler, and the result of `www.example.com` is not posted. -/
example : (runSync naSensor (zoneApi [wwwItem, .str "r2"]) GeoSensor.wwwResolver).out = [] ∧
    (runSync naSensor (zoneApi [wwwItem, .str "r2"]) GeoSensor.wwwResolver).result.isOk = false := by
  decide

end GeoSensorAPI

/-! ## The two sensors learn alike -/

/-- **The two sensors learn alike.** Fed the same zones and records, the MySQL sensor by a
server that commits every write and the API sensor by an API that lists them as dicts, the API
sensor posts as its results exactly the rows the MySQL sensor commits, in the same order. -/
theorem sensors_learn_alike (resolve : String → String → Option (List String)) (mysql : GeoSensor)
    (db : SensorDb) (sensor : GeoSensorAPI) (api : SensorApi)
    (listed : sensor.Lists api ((GeoSensor.getCloudflareZones db).map fun zoneId =>
      (zoneId, GeoSensor.getProxiedRecords db zoneId)))
    (commits : ∀ row, db.store row = .committed) :
    (sensor.runSync api resolve).out.flatMap (·.results) =
      ((mysql.runSync db resolve).out.filterMap SensorWrite.proxyRow).map fun row =>
        GeoSensorAPI.result (.str row.zoneId) (.str row.recordId) (.str row.recordName)
          (.str row.recordType) row.learnedIps := by
  rw [GeoSensorAPI.posted_listed sensor api resolve listed,
    GeoSensor.committed_rows mysql db resolve commits, List.map_map]
  rfl

/-- Both sensors over `www.example.com`. -/
theorem sensors_learn_alike_www :
    (GeoSensorAPI.naSensor.runSync (GeoSensorAPI.zoneApi [GeoSensorAPI.wwwItem])
        GeoSensor.wwwResolver).out.flatMap (·.results) =
      ((GeoSensor.runSync ⟨1⟩ GeoSensor.wwwDb GeoSensor.wwwResolver).out.filterMap
        SensorWrite.proxyRow).map fun row =>
          GeoSensorAPI.result (.str row.zoneId) (.str row.recordId) (.str row.recordName)
            (.str row.recordType) row.learnedIps :=
  sensors_learn_alike GeoSensor.wwwResolver ⟨1⟩ GeoSensor.wwwDb GeoSensorAPI.naSensor
    (GeoSensorAPI.zoneApi [GeoSensorAPI.wwwItem]) GeoSensorAPI.wwwApi_lists fun _ => rfl

end CloudflareSync
