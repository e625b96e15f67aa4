import Mathlib.Data.List.Nodup
import CloudflareSync.Records
import CloudflareSync.Spec

/-!
# What one `sync_zone` does to the store

`sync_zone` stages five statements and commits them: the zone upsert, the delete and the
insert of the records, the delete and the insert of the load balancers, and the
`last_synced` update. This module proves, once, what that sequence does to every zone's
rows (`zoneView_replaceZone`): the synced zone ends with its upserted row and exactly the
rows built from the two fetched lists, and every other zone keeps all it had. That needs the
primary key of `cloudflare_zones` and the AUTO_INCREMENT counter above it
(`Store.ZoneIdsBelow`): a new zone gets an id no other zone has.

`syncZone_ok` reads a normal return of `syncZone` back to those statements; `syncZone_staging`
says that every other outcome commits nothing. Together they are the one spec lemma of
`sync_zone` the run lemmas cite.
-/

set_option autoImplicit false

namespace CloudflareSync

namespace Store

/-- The primary key of `cloudflare_zones` with the AUTO_INCREMENT counter above it: zone ids
are distinct and below `next`. -/
def ZoneIdsBelow (st : Store) (next : Nat) : Prop :=
  (st.zones.map Row.id).Nodup ∧ ∀ r ∈ st.zones, r.id < next

instance (st : Store) (next : Nat) : Decidable (st.ZoneIdsBelow next) :=
  inferInstanceAs (Decidable (_ ∧ ∀ r ∈ st.zones, r.id < next))

theorem ZoneIdsBelow.mono {st : Store} {n n' : Nat} (h : st.ZoneIdsBelow n) (le : n ≤ n') :
    st.ZoneIdsBelow n' :=
  ⟨h.1, fun r member => lt_of_lt_of_le (h.2 r member) le⟩

theorem zoneRow_mem {st : Store} {key : JVal} {r : Row ZoneCols} (h : st.zoneRow key = some r) :
    r ∈ st.zones ∧ r.cols.cfZoneId = key := by
  unfold zoneRow at h
  exact ⟨List.mem_of_find?_eq_some h, by simpa using List.find?_some h⟩

/-- The row update of an `upsert_zone` that finds its key keeps every row's key. -/
theorem upsertZone_update_key (cols : ZoneCols) (z : Row ZoneCols) :
    (if z.cols.cfZoneId == cols.cfZoneId then (⟨z.id, cols⟩ : Row ZoneCols) else z).cols.cfZoneId =
      z.cols.cfZoneId := by
  split <;> simp_all

/-- The rows `upsert_zone` leaves: the zone's row holds the new columns under the id the
statement returns, and the row of every other zone is untouched. -/
theorem upsertZone_zoneRow (cols : ZoneCols) (st : Store) (n : Nat) (key : JVal) :
    (upsertZone cols st n).1.zoneRow key =
      if key = cols.cfZoneId then some ⟨(upsertZone cols st n).2.2, cols⟩ else st.zoneRow key := by
  unfold upsertZone zoneRow
  split
  next r found =>
    have rKey : r.cols.cfZoneId = cols.cfZoneId := by simpa using List.find?_some found
    simp only [List.find?_map, Function.comp_def, upsertZone_update_key]
    split
    next same => simp [same, found, rKey]
    next different =>
      cases h : st.zones.find? (·.cols.cfZoneId == key) with
      | none => rfl
      | some z =>
        have : z.cols.cfZoneId = key := by simpa using List.find?_some h
        simp [this, different]
  next notFound =>
    rw [List.find?_append]
    split
    next same => subst same; simp [notFound]
    next different => simp [List.find?_singleton, Ne.symm different]

@[simp] theorem upsertZone_recordsOf (cols : ZoneCols) (st : Store) (n other : Nat) :
    (upsertZone cols st n).1.recordsOf other = st.recordsOf other := by
  unfold upsertZone; split <;> rfl

@[simp] theorem upsertZone_balancersOf (cols : ZoneCols) (st : Store) (n other : Nat) :
    (upsertZone cols st n).1.balancersOf other = st.balancersOf other := by
  unfold upsertZone; split <;> rfl

/-- The id `upsert_zone` returns is the zone's existing id, or the counter for a new row. -/
theorem upsertZone_id (cols : ZoneCols) (st : Store) (n : Nat) :
    (∃ r, st.zoneRow cols.cfZoneId = some r ∧ (upsertZone cols st n).2.2 = r.id ∧
      (upsertZone cols st n).2.1 = n) ∨
    (st.zoneRow cols.cfZoneId = none ∧ (upsertZone cols st n).2.2 = n ∧
      (upsertZone cols st n).2.1 = n + 1) := by
  unfold upsertZone zoneRow
  split
  next r found => exact .inl ⟨r, found, rfl, rfl⟩
  next notFound => exact .inr ⟨notFound, rfl, rfl⟩

theorem upsertZone_zoneIdsBelow (cols : ZoneCols) {st : Store} {n : Nat}
    (valid : st.ZoneIdsBelow n) :
    (upsertZone cols st n).1.ZoneIdsBelow (upsertZone cols st n).2.1 := by
  unfold upsertZone
  split
  · have ids : (st.zones.map fun z => if z.cols.cfZoneId == cols.cfZoneId then
        (⟨z.id, cols⟩ : Row ZoneCols) else z).map Row.id = st.zones.map Row.id :=
      Row.map_ids (fun _ => by split <;> rfl) _
    refine ⟨by rw [ids]; exact valid.1, fun r member => ?_⟩
    simp only [List.mem_map] at member
    obtain ⟨z, zMember, rfl⟩ := member
    split <;> exact valid.2 z zMember
  · refine ⟨?_, fun r member => ?_⟩
    · simp only [List.map_append, List.map_singleton]
      refine valid.1.append (List.nodup_singleton _) fun id inZones single => ?_
      obtain ⟨z, zMember, rfl⟩ := List.mem_map.mp inZones
      have := valid.2 z zMember
      simp_all
    · simp only [List.mem_append, List.mem_singleton] at member
      rcases member with member | rfl
      · exact Nat.lt_succ_of_lt (valid.2 r member)
      · exact Nat.lt_succ_self n

/-- Under the primary key, the id `upsert_zone` returns belongs to no other zone's row. -/
theorem upsertZone_id_ne {cols : ZoneCols} {st : Store} {n : Nat} (valid : st.ZoneIdsBelow n)
    {key : JVal} (different : key ≠ cols.cfZoneId) {r : Row ZoneCols}
    (found : st.zoneRow key = some r) : r.id ≠ (upsertZone cols st n).2.2 := by
  obtain ⟨rMember, rKey⟩ := zoneRow_mem found
  rcases upsertZone_id cols st n with ⟨z, zFound, zid, _⟩ | ⟨_, zid, _⟩ <;> rw [zid]
  · obtain ⟨zMember, zKey⟩ := zoneRow_mem zFound
    intro same
    have := List.inj_on_of_nodup_map valid.1 rMember zMember same
    subst this
    exact different (rKey.symm.trans zKey)
  · exact Nat.ne_of_lt (valid.2 r rMember)

/-- The staged writes of one `sync_zone`, as one function of the store: the zone upsert, then
the delete-then-insert of its records and of its load balancers. -/
def replaceZone (cols : ZoneCols) (rows : List RecordCols) (lbs : List BalancerCols)
    (st : Store) (n : Nat) : Store :=
  let (st1, n1, zid) := upsertZone cols st n
  let st2 := (insertRecords rows (deleteRecords zid st1) n1).1
  (insertBalancers lbs (deleteBalancers zid st2) (n1 + rows.length)).1

/-- **What one `sync_zone` does to every zone.** When the rows built for the zone carry its
local id, the synced zone ends with its upserted row and exactly those rows, and every other
zone keeps its row, its records and its load balancers. -/
theorem zoneView_replaceZone (cols : ZoneCols) (rows : List RecordCols)
    (lbs : List BalancerCols) {st : Store} {n : Nat} (valid : st.ZoneIdsBelow n)
    (rowsOwn : ∀ r ∈ rows, r.zoneId = (upsertZone cols st n).2.2)
    (lbsOwn : ∀ b ∈ lbs, b.zoneId = (upsertZone cols st n).2.2) (key : JVal) :
    (replaceZone cols rows lbs st n).zoneView key =
      if key = cols.cfZoneId then some (⟨(upsertZone cols st n).2.2, cols⟩, rows, lbs)
      else st.zoneView key := by
  have ownRows : ∀ other, rows.filter (·.zoneId == other) =
      if other = (upsertZone cols st n).2.2 then rows else [] := by
    intro other
    split
    next same => exact List.filter_eq_self.mpr fun r member => by simp [rowsOwn r member, same]
    next different =>
      exact List.filter_eq_nil_iff.mpr fun r member => by simp [rowsOwn r member, Ne.symm different]
  have ownLbs : ∀ other, lbs.filter (·.zoneId == other) =
      if other = (upsertZone cols st n).2.2 then lbs else [] := by
    intro other
    split
    next same => exact List.filter_eq_self.mpr fun b member => by simp [lbsOwn b member, same]
    next different =>
      exact List.filter_eq_nil_iff.mpr fun b member => by simp [lbsOwn b member, Ne.symm different]
  have sameRow : (replaceZone cols rows lbs st n).zoneRow key =
      (upsertZone cols st n).1.zoneRow key := rfl
  unfold zoneView
  rw [sameRow, upsertZone_zoneRow]
  split
  · simp [replaceZone, ownRows, ownLbs]
  · cases found : st.zoneRow key with
    | none => rfl
    | some r =>
      have ne := upsertZone_id_ne valid ‹_› found
      simp [replaceZone, ne, ownRows, ownLbs]

theorem replaceZone_zoneIdsBelow (cols : ZoneCols) (rows : List RecordCols)
    (lbs : List BalancerCols) {st : Store} {n n' : Nat} (valid : st.ZoneIdsBelow n)
    (le : (upsertZone cols st n).2.1 ≤ n') : (replaceZone cols rows lbs st n).ZoneIdsBelow n' :=
  (upsertZone_zoneIdsBelow cols valid).mono le

/-- The load-balancer rows the synced zone ends with are the ones just inserted: their ids are
at or above the counter the zone's writes started from. -/
theorem replaceZone_balancers_fresh (cols : ZoneCols) (rows : List RecordCols)
    (lbs : List BalancerCols) {st : Store} {n : Nat} {b : Row BalancerCols}
    (member : b ∈ (replaceZone cols rows lbs st n).balancers)
    (own : b.cols.zoneId = (upsertZone cols st n).2.2) : n ≤ b.id := by
  have grows : n ≤ (upsertZone cols st n).2.1 := by
    rcases upsertZone_id cols st n with ⟨_, _, _, counter⟩ | ⟨_, _, counter⟩ <;> omega
  unfold replaceZone at member
  generalize upsertZone cols st n = u at member own grows
  obtain ⟨st1, n1, zid⟩ := u
  dsimp only at own grows
  simp only [insertBalancers, deleteBalancers, List.mem_append, List.mem_filter] at member
  rcases member with ⟨-, kept⟩ | fresh
  · simp [own] at kept
  · have := (mem_numberFrom_id fresh).1
    omega

end Store

/-! ## The row builders keep the zone they are given -/

theorem recordColumns_zoneId {iso : String → Option String} {zoneId : Nat} {record : JVal}
    {row : RecordCols} (built : recordColumns iso zoneId record = .ok row) : row.zoneId = zoneId := by
  simp only [recordColumns, bind, Except.bind] at built
  repeat' split at built
  all_goals first | cases built; rfl | cases built

theorem balancerColumns_zoneId {zoneId : Nat} {balancer : JVal} {row : BalancerCols}
    (built : balancerColumns zoneId balancer = .ok row) : row.zoneId = zoneId := by
  simp only [balancerColumns, bind, Except.bind] at built
  repeat' split at built
  all_goals first | cases built; rfl | cases built

/-- The zone row `upsert_zone` writes is keyed by the zone's `id`. -/
theorem zoneColumns_id {accountId : Nat} {zone : JVal} {cols : ZoneCols}
    (built : zoneColumns accountId zone = .ok cols) : zone.get "id" = .ok cols.cfZoneId := by
  obtain ⟨id, got, built⟩ := bind_eq_ok built
  iterate 6 obtain ⟨_, -, built⟩ := bind_eq_ok built
  cases built
  exact got

/-- What a `sync_zone` call that returned `w` for `zone` leaves the zone with: the row
`upsert_zone` writes under the local id, and the rows `replace_zone_records` and
`replace_zone_load_balancers` build from the two fetched lists. -/
def syncedView (iso : String → Option String) (zone : JVal) (w : ZoneSync) :
    Except Exc (Row ZoneCols × List RecordCols × List BalancerCols) := do
  let cols ← zoneColumns w.accountId zone
  let rows ← w.records.mapM (recordColumns iso w.localId)
  let lbs ← w.balancers.mapM (balancerColumns w.localId)
  return (⟨w.localId, cols⟩, rows, lbs)

/-- The provider zone `syncedView` writes is the `id` of the zone it was given. -/
theorem syncedView_key {iso : String → Option String} {zone : JVal} {w : ZoneSync}
    {v : Row ZoneCols × List RecordCols × List BalancerCols}
    (built : syncedView iso zone w = .ok v) : (zone.get "id").toOption = some v.1.cols.cfZoneId := by
  obtain ⟨cols, colsBuilt, built⟩ := bind_eq_ok built
  obtain ⟨_, -, built⟩ := bind_eq_ok built
  obtain ⟨_, -, built⟩ := bind_eq_ok built
  cases built
  simp [zoneColumns_id colsBuilt, Except.toOption]

/-! ## What each statement of `sync_zone` does when it succeeds -/

section Steps

variable {env : Env} {s t : Sys Store SyncEvent}

theorem upsertZone_ok {accountId : Nat} {zone : JVal} {localId : Nat}
    (h : upsertZone accountId zone env s = .ok localId t) :
    ∃ cols, zoneColumns accountId zone = .ok cols ∧
      (t.pending, t.autoInc, localId) = Store.upsertZone cols s.pending s.autoInc ∧
      t.committed = s.committed ∧ t.log = s.log := by
  obtain ⟨cols, s1, lifted, inserted⟩ := Py.bind_ok h
  obtain ⟨built, rfl⟩ := Py.lift_ok lifted
  exact ⟨cols, built, Py.execute_ok inserted⟩

theorem replaceZoneRecords_ok {zoneId : Nat} {records : List JVal} {count : Nat}
    (h : replaceZoneRecords zoneId records env s = .ok count t) :
    ∃ rows, records.mapM (recordColumns env.isoTimestamp zoneId) = .ok rows ∧
      t.pending = (Store.insertRecords rows (Store.deleteRecords zoneId s.pending) s.autoInc).1 ∧
      t.autoInc = s.autoInc + rows.length ∧ t.committed = s.committed ∧ t.log = s.log := by
  obtain ⟨_, s1, deleted, rest⟩ := Py.bind_ok h
  obtain ⟨deleted, sameInc, committed, log⟩ := Py.update_ok deleted
  split at rest
  next empty =>
    obtain ⟨-, rfl⟩ := Py.pure_ok rest
    rw [List.isEmpty_iff.mp empty]
    exact ⟨[], rfl, by simp [deleted], by simp [sameInc], committed, log⟩
  next =>
    obtain ⟨_, s2, read, k2⟩ := Py.bind_ok rest
    simp only [Py.run_env, Res.ok.injEq] at read
    obtain ⟨rows, s3, lifted, k3⟩ := Py.bind_ok k2
    obtain ⟨_, s4, inserted, k4⟩ := Py.bind_ok k3
    obtain ⟨-, rfl⟩ := Py.pure_ok k4
    obtain ⟨built, rfl⟩ := Py.lift_ok lifted
    obtain ⟨rfl, rfl⟩ := read
    obtain ⟨inserted, committed', log'⟩ := Py.execute_ok inserted
    simp only [Store.insertRecords, Prod.mk.injEq] at inserted
    refine ⟨rows, built, ?_, ?_, committed'.trans committed, log'.trans log⟩ <;>
      simp [Store.insertRecords, inserted, deleted, sameInc]

theorem replaceZoneLoadBalancers_ok {zoneId : Nat} {balancers : List JVal} {count : Nat}
    (h : replaceZoneLoadBalancers zoneId balancers env s = .ok count t) :
    ∃ lbs, balancers.mapM (balancerColumns zoneId) = .ok lbs ∧
      t.pending = (Store.insertBalancers lbs (Store.deleteBalancers zoneId s.pending) s.autoInc).1 ∧
      t.autoInc = s.autoInc + lbs.length ∧ t.committed = s.committed ∧ t.log = s.log := by
  obtain ⟨_, s1, deleted, rest⟩ := Py.bind_ok h
  obtain ⟨deleted, sameInc, committed, log⟩ := Py.update_ok deleted
  split at rest
  next empty =>
    obtain ⟨-, rfl⟩ := Py.pure_ok rest
    rw [List.isEmpty_iff.mp empty]
    exact ⟨[], rfl, by simp [deleted], by simp [sameInc], committed, log⟩
  next =>
    obtain ⟨lbs, s2, lifted, k2⟩ := Py.bind_ok rest
    obtain ⟨_, s3, inserted, k3⟩ := Py.bind_ok k2
    obtain ⟨-, rfl⟩ := Py.pure_ok k3
    obtain ⟨built, rfl⟩ := Py.lift_ok lifted
    obtain ⟨inserted, committed', log'⟩ := Py.execute_ok inserted
    simp only [Store.insertBalancers, Prod.mk.injEq] at inserted
    refine ⟨lbs, built, ?_, ?_, committed'.trans committed, log'.trans log⟩ <;>
      simp [Store.insertBalancers, inserted, deleted, sameInc]

end Steps

/-! ## `sync_zone` -/

/-- What a `sync_zone` that returned did: it built the zone's columns and the rows of the two
fetched lists for the zone's local id, and committed its open transaction with the zone upserted
and the zone's records and load balancers replaced. -/
theorem syncZone_replaces {c : CloudflareClient} {accountId : Nat} {zone : JVal} {env : Env}
    {s t : Sys Store SyncEvent} {w : ZoneSync} (h : syncZone c accountId zone env s = .ok w t) :
    ∃ cols rows lbs, zoneColumns w.accountId zone = .ok cols ∧
      w.records.mapM (recordColumns env.isoTimestamp w.localId) = .ok rows ∧
      w.balancers.mapM (balancerColumns w.localId) = .ok lbs ∧
      w.localId = (Store.upsertZone cols s.pending s.autoInc).2.2 ∧
      t.committed = Store.replaceZone cols rows lbs s.pending s.autoInc ∧
      t.pending = t.committed ∧
      t.autoInc = (Store.upsertZone cols s.pending s.autoInc).2.1 + rows.length + lbs.length ∧
      t.log = s.log := by
  obtain ⟨zoneId, s1, h1, k1⟩ := Py.bind_ok h
  obtain ⟨start, s1', h1', k1⟩ := Py.bind_ok k1
  obtain ⟨records, s2, h2, k2⟩ := Py.bind_ok k1
  obtain ⟨balancers, s3, h3, k3⟩ := Py.bind_ok k2
  obtain ⟨localId, s4, h4, k4⟩ := Py.bind_ok k3
  obtain ⟨recordCount, s5, h5, k5⟩ := Py.bind_ok k4
  obtain ⟨lbCount, s6, h6, k6⟩ := Py.bind_ok k5
  obtain ⟨_, s7, h7, k7⟩ := Py.bind_ok k6
  obtain ⟨_, s8, h8, k8⟩ := Py.bind_ok k7
  obtain ⟨rfl, rfl⟩ := Py.pure_ok k8
  obtain ⟨-, same⟩ := Py.lift_ok h1
  subst s1
  simp only [Py.run_now, Res.ok.injEq] at h1'
  obtain ⟨-, rfl⟩ := h1'
  obtain ⟨c2, p2, a2, l2⟩ := (CloudflareClient.listRecords_quiet c zoneId).data_of_ok h2
  obtain ⟨c3, p3, a3, l3⟩ := (CloudflareClient.listLoadBalancers_quiet c zoneId).data_of_ok h3
  obtain ⟨cols, colsBuilt, upserted, c4, l4⟩ := upsertZone_ok h4
  obtain ⟨rows, rowsBuilt, p5, a5, c5, l5⟩ := replaceZoneRecords_ok h5
  obtain ⟨lbs, lbsBuilt, p6, a6, c6, l6⟩ := replaceZoneLoadBalancers_ok h6
  obtain ⟨p7, a7, c7, l7⟩ := Py.update_ok h7
  obtain ⟨c8, p8, a8, l8⟩ := Py.commit_ok h8
  rw [p3, p2, a3, a2] at upserted
  have p4 : s4.pending = (Store.upsertZone cols s.pending s.autoInc).1 := congrArg (·.1) upserted
  have a4 : s4.autoInc = (Store.upsertZone cols s.pending s.autoInc).2.1 :=
    congrArg (·.2.1) upserted
  have localIdEq : localId = (Store.upsertZone cols s.pending s.autoInc).2.2 :=
    congrArg (·.2.2) upserted
  refine ⟨cols, rows, lbs, colsBuilt, rowsBuilt, lbsBuilt, localIdEq, ?_, p8.trans c8.symm,
    by rw [a8, a7, a6, a5, a4], by simp [l8, l7, l6, l5, l4, l3, l2]⟩
  rw [c8, p7, Store.markSynced, p6, p5, a5, p4, a4, localIdEq]
  rfl

/-- After a `sync_zone` that returned `w`, the committed zone row under the zone's `id` is the
upserted row, under the local id `w.localId`. -/
theorem syncZone_zoneRow {c : CloudflareClient} {accountId : Nat} {zone : JVal} {env : Env}
    {s t : Sys Store SyncEvent} {w : ZoneSync} (h : syncZone c accountId zone env s = .ok w t)
    {key : JVal} (keyed : zone.get "id" = .ok key) :
    ∃ cols, t.committed.zoneRow key = some ⟨w.localId, cols⟩ := by
  obtain ⟨cols, rows, lbs, colsBuilt, -, -, localIdEq, committed, -⟩ := syncZone_replaces h
  have sameKey : key = cols.cfZoneId := by
    simpa [keyed] using zoneColumns_id colsBuilt
  refine ⟨cols, ?_⟩
  rw [committed, localIdEq]
  show (Store.upsertZone cols s.pending s.autoInc).1.zoneRow key = _
  rw [Store.upsertZone_zoneRow, if_pos sameKey]

/-- The two lists of `w` are what the provider listed for `zone` in the call that returned
`w`: `list_records` of the zone's id from the tick the call's listings started at, then
`list_load_balancers` from the tick the first listing ended at. A listing reads the world only
through its tick. -/
def Fetched (c : CloudflareClient) (env : Env) (zone : JVal) (w : ZoneSync) : Prop :=
  ∃ (zoneId : JVal) (s s' s'' : Sys Store SyncEvent),
    zone.index "id" = .ok zoneId ∧ s.tick = w.start ∧ c.listRecords zoneId env s = .ok w.records s' ∧
    c.listLoadBalancers zoneId env s' = .ok w.balancers s''

/-- A `sync_zone` that returned `w` fetched the two lists of `w`. -/
theorem syncZone_fetched {c : CloudflareClient} {accountId : Nat} {zone : JVal} {env : Env}
    {s t : Sys Store SyncEvent} {w : ZoneSync} (h : syncZone c accountId zone env s = .ok w t) :
    Fetched c env zone w := by
  obtain ⟨zoneId, s1, h1, k1⟩ := Py.bind_ok h
  obtain ⟨start, s1', h1', k1⟩ := Py.bind_ok k1
  obtain ⟨records, s2, h2, k2⟩ := Py.bind_ok k1
  obtain ⟨balancers, s3, h3, k3⟩ := Py.bind_ok k2
  iterate 5 obtain ⟨_, _, -, k3⟩ := Py.bind_ok k3
  obtain ⟨rfl, -⟩ := Py.pure_ok k3
  obtain ⟨indexed, rfl⟩ := Py.lift_ok h1
  simp only [Py.run_now, Res.ok.injEq] at h1'
  obtain ⟨rfl, rfl⟩ := h1'
  exact ⟨zoneId, s1, s2, s3, indexed, rfl, h2, h3⟩

/-- **A `sync_zone` that returns has committed the whole zone.** From a session with nothing
pending, a normal return has committed the upserted zone row with exactly the record and
load-balancer rows built from the two fetched lists (`syncedView`), left every other zone as
it was, and kept the primary key of the zones. -/
theorem syncZone_ok {c : CloudflareClient} {accountId : Nat} {zone : JVal} {env : Env}
    {s t : Sys Store SyncEvent} {w : ZoneSync} (h : syncZone c accountId zone env s = .ok w t)
    (clean : s.pending = s.committed) (valid : s.committed.ZoneIdsBelow s.autoInc) :
    t.pending = t.committed ∧ t.log = s.log ∧ t.committed.ZoneIdsBelow t.autoInc ∧
      ∃ v, syncedView env.isoTimestamp zone w = .ok v ∧
        ∀ key, t.committed.zoneView key =
          if key = v.1.cols.cfZoneId then some v else s.committed.zoneView key := by
  obtain ⟨cols, rows, lbs, colsBuilt, rowsBuilt, lbsBuilt, localIdEq, committed, settled,
    autoInc, log⟩ := syncZone_replaces h
  rw [clean] at localIdEq committed autoInc
  refine ⟨settled, log, ?_, (⟨w.localId, cols⟩, rows, lbs),
    by simp only [syncedView, colsBuilt, rowsBuilt, lbsBuilt]; rfl, fun key => ?_⟩
  · rw [committed]
    exact Store.replaceZone_zoneIdsBelow cols rows lbs valid (by omega)
  · rw [committed, Store.zoneView_replaceZone cols rows lbs valid
      (fun r member => by
        obtain ⟨_, -, built⟩ := mapM_ok_mem rowsBuilt r member
        rw [recordColumns_zoneId built, localIdEq])
      (fun b member => by
        obtain ⟨_, -, built⟩ := mapM_ok_mem lbsBuilt b member
        rw [balancerColumns_zoneId built, localIdEq]), localIdEq]

theorem upsertZone_staging (accountId : Nat) (zone : JVal) :
    Py.Staging (upsertZone accountId zone) :=
  Py.Staging.bind (Py.Staging.lift _) fun cols => Py.Staging.execute fun st n => by
    unfold Store.upsertZone
    split <;> simp

theorem replaceZoneRecords_staging (zoneId : Nat) (records : List JVal) :
    Py.Staging (replaceZoneRecords zoneId records) :=
  Py.Staging.bind (Py.Staging.update _ _) fun _ => Py.Staging.ite (Py.Staging.pure _) <|
    Py.Staging.bind Py.Staging.env fun _ => Py.Staging.bind (Py.Staging.lift _) fun _ =>
      Py.Staging.bind (Py.Staging.execute fun _ _ => Nat.le_add_right _ _) fun _ =>
        Py.Staging.pure _

theorem replaceZoneLoadBalancers_staging (zoneId : Nat) (balancers : List JVal) :
    Py.Staging (replaceZoneLoadBalancers zoneId balancers) :=
  Py.Staging.bind (Py.Staging.update _ _) fun _ => Py.Staging.ite (Py.Staging.pure _) <|
    Py.Staging.bind (Py.Staging.lift _) fun _ =>
      Py.Staging.bind (Py.Staging.execute fun _ _ => Nat.le_add_right _ _) fun _ =>
        Py.Staging.pure _

/-- **A `sync_zone` that does not return has committed nothing.** Every exception, wherever
it is raised between the first provider call and the commit, and every cut-off leaves the
store and the log as they were. -/
theorem syncZone_unwinds (c : CloudflareClient) (accountId : Nat) (zone : JVal) :
    Py.Unwinds (syncZone c accountId zone) :=
  Py.Unwinds.bind (Py.Staging.lift _) fun _ =>
    Py.Unwinds.bind (Py.Staging.of_quiet Py.Quiet.now) fun _ =>
    Py.Unwinds.bind (Py.Staging.of_quiet (CloudflareClient.listRecords_quiet c _)) fun _ =>
    Py.Unwinds.bind (Py.Staging.of_quiet (CloudflareClient.listLoadBalancers_quiet c _)) fun _ =>
    Py.Unwinds.bind (upsertZone_staging _ _) fun _ =>
    Py.Unwinds.bind (replaceZoneRecords_staging _ _) fun _ =>
    Py.Unwinds.bind (replaceZoneLoadBalancers_staging _ _) fun _ =>
    Py.Unwinds.bind (Py.Staging.update _ _) fun _ => Py.Unwinds.map Py.Unwinds.commit _

/-- `sync_zone` writes nothing to the log. -/
theorem syncZone_silent (c : CloudflareClient) (accountId : Nat) (zone : JVal) :
    Py.Silent (syncZone c accountId zone) :=
  Py.Silent.bind (Py.Silent.of_staging (Py.Staging.lift _)) fun _ =>
    Py.Silent.bind (Py.Silent.of_staging (Py.Staging.of_quiet Py.Quiet.now)) fun _ =>
    Py.Silent.bind (Py.Silent.of_staging (Py.Staging.of_quiet (CloudflareClient.listRecords_quiet c _)))
      fun _ =>
    Py.Silent.bind
      (Py.Silent.of_staging (Py.Staging.of_quiet (CloudflareClient.listLoadBalancers_quiet c _)))
      fun _ =>
    Py.Silent.bind (Py.Silent.of_staging (upsertZone_staging _ _)) fun _ =>
    Py.Silent.bind (Py.Silent.of_staging (replaceZoneRecords_staging _ _)) fun _ =>
    Py.Silent.bind (Py.Silent.of_staging (replaceZoneLoadBalancers_staging _ _)) fun _ =>
    Py.Silent.bind (Py.Silent.of_staging (Py.Staging.update _ _)) fun _ =>
    Py.Silent.bind Py.Silent.commit fun _ => Py.Silent.of_staging (Py.Staging.pure _)

end CloudflareSync
