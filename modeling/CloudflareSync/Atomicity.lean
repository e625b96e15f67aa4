import CloudflareSync.ZoneWrite

/-!
# Per-zone replace is all-or-nothing

A run of `sync_accounts` commits twice for each zone with an id: the account upsert, then the
whole of `sync_zone`. `Tracks` says what the committed store holds against the run's log:
every provider zone holds what its last returning `sync_zone` call built (`syncedView`) from
the two lists the provider's listings returned in that call (`Fetched`), and a zone for which
no call returned holds what it held before the run. Since a run may be cut off
after any commit, by a failed statement or a malformed reply, this is also what every
committed state in between holds: no zone is ever committed with its old rows deleted and its
new rows missing.

The loop invariant `Settled` adds that nothing is pending and that the zone ids stay a primary
key under the counter. `trySyncZone_spec` is the `try`/`except CloudflareError` block of the
zone loop, `zoneLoop_spec` and `accountLoop_spec` the two loops, each proved from the one
before, and `syncAccounts_tracks` the result for a whole run from a fresh session, whatever
the run ends in.
-/

set_option autoImplicit false

namespace CloudflareSync

/-! ## What the log says a run committed -/

/-- The zone and the returned value of a `zoneSynced` entry about provider zone `key`. -/
def SyncEvent.synced (key : JVal) : SyncEvent → Option (JVal × ZoneSync)
  | .zoneSynced zone w => if (zone.get "id").toOption = some key then some (zone, w) else none
  | _ => none

/-- The last `sync_zone` call of the log that returned for provider zone `key`: the zone it was
given and what it returned. -/
def lastSynced (log : List SyncEvent) (key : JVal) : Option (JVal × ZoneSync) :=
  log.foldl (fun last event => (event.synced key).or last) none

@[simp] theorem lastSynced_nil (key : JVal) : lastSynced [] key = none := rfl

@[simp] theorem lastSynced_append (log : List SyncEvent) (event : SyncEvent) (key : JVal) :
    lastSynced (log ++ [event]) key = (event.synced key).or (lastSynced log key) := by
  simp [lastSynced]

/-- Every provider zone holds in the committed store what its last returning `sync_zone` call
built from the two lists the provider gave that call, or, when no call for it returned, what
`db` held. -/
def Tracks (c : CloudflareClient) (env : Env) (db : Store) (s : Sys Store SyncEvent) : Prop :=
  ∀ key, match lastSynced s.log key with
    | some (zone, w) => Fetched c env zone w ∧
        ∃ v, syncedView env.isoTimestamp zone w = .ok v ∧ s.committed.zoneView key = some v
    | none => s.committed.zoneView key = db.zoneView key

section Tracks

variable {c : CloudflareClient} {env : Env} {db : Store} {s t : Sys Store SyncEvent}

theorem Tracks.of_same (tracks : Tracks c env db s) (committed : t.committed = s.committed)
    (log : t.log = s.log) : Tracks c env db t := by
  intro key
  rw [committed, log]
  exact tracks key

/-- A log entry that reports no returning `sync_zone` call keeps `Tracks`. -/
theorem Tracks.emit (tracks : Tracks c env db s) {event : SyncEvent}
    (quiet : ∀ key, event.synced key = none) :
    Tracks c env db { s with log := s.log ++ [event] } := by
  intro key
  simp only [lastSynced_append, quiet, Option.none_or]
  exact tracks key

/-- Committing what `sync_zone` built for `zone` from the lists it fetched, and logging it,
keeps `Tracks`. -/
theorem Tracks.emit_synced (tracks : Tracks c env db s) {zone : JVal} {w : ZoneSync}
    (fetched : Fetched c env zone w) {v : Row ZoneCols × List RecordCols × List BalancerCols}
    (built : syncedView env.isoTimestamp zone w = .ok v)
    (written : ∀ key, t.committed.zoneView key =
      if key = v.1.cols.cfZoneId then some v else s.committed.zoneView key)
    (log : t.log = s.log ++ [.zoneSynced zone w]) : Tracks c env db t := by
  intro key
  rw [log, lastSynced_append, written]
  by_cases same : key = v.1.cols.cfZoneId
  · simp [SyncEvent.synced, syncedView_key built, same, built, fetched]
  · have other : (zone.get "id").toOption ≠ some key := by
      rw [syncedView_key built]
      exact fun h => same (Option.some_injective _ h).symm
    simp only [SyncEvent.synced, other, if_false, Option.none_or, same]
    exact tracks key

end Tracks

/-! ## The loop invariant -/

/-- The world between two zones of the loop: nothing pending, the zone ids a primary key
under the counter, and `Tracks`. -/
structure Settled (c : CloudflareClient) (env : Env) (db : Store) (s : Sys Store SyncEvent) :
    Prop where
  clean : s.pending = s.committed
  keys : s.committed.ZoneIdsBelow s.autoInc
  tracks : Tracks c env db s

section Settled

variable {c : CloudflareClient} {env : Env} {db : Store} {s t : Sys Store SyncEvent}

theorem Settled.of_data (settled : Settled c env db s) (same : t.data = s.data) :
    Settled c env db t := by
  simp only [Sys.data, Prod.mk.injEq] at same
  obtain ⟨committed, pending, autoInc, log⟩ := same
  exact ⟨by rw [pending, committed, settled.clean], by rw [committed, autoInc]; exact settled.keys,
    settled.tracks.of_same committed log⟩

theorem Settled.emit (settled : Settled c env db s) {event : SyncEvent}
    (quiet : ∀ key, event.synced key = none) : Settled c env db { s with log := s.log ++ [event] } :=
  ⟨settled.clean, settled.keys, settled.tracks.emit quiet⟩

/-- Logging an entry that reports no returning `sync_zone` call keeps the world settled. -/
theorem Settled.emit_spec {abort : Option Exc → Sys Store SyncEvent → Prop}
    {event : SyncEvent} (quiet : ∀ key, event.synced key = none) :
    Spec env (Settled c env db) (Py.emit event) (fun _ => Settled c env db) abort :=
  Spec.emit fun _ settled => settled.emit quiet

end Settled

/-! ## The zone loop -/

section Loops

variable {env : Env} {db : Store} (c : CloudflareClient)

/-- `upsert_account` and the commit after it leave the zones as they were and nothing
pending. -/
theorem upsertAccount_commit_spec {β : Type} {post : β → Sys Store SyncEvent → Prop}
    (cfAccountId name : JVal) {k : Nat → SyncM β}
    (hk : ∀ accountId, Spec env (Settled c env db) (k accountId) post
      fun _ => Tracks c env db) :
    Spec env (Settled c env db)
      (upsertAccount cfAccountId name >>= fun accountId => Py.commit >>= fun _ => k accountId)
      post fun _ => Tracks c env db := by
  have staged : Spec env (Settled c env db) (upsertAccount cfAccountId name)
      (fun _ t => (∀ key, t.pending.zoneView key = t.committed.zoneView key) ∧
        t.pending.ZoneIdsBelow t.autoInc ∧ Tracks c env db t)
      fun _ => Tracks c env db := by
    refine Spec.execute fun s settled => ⟨fun _ _ => settled.tracks, ?_⟩
    refine ⟨fun key => by simp [Store.upsertAccount_zoneView, settled.clean], ?_, settled.tracks⟩
    refine ⟨by simpa [settled.clean] using settled.keys.1, fun r member => ?_⟩
    simp only [Store.upsertAccount_zones, settled.clean] at member
    exact lt_of_lt_of_le (settled.keys.2 r member) (Store.upsertAccount_grows _ _ _ _)
  exact Spec.bind staged fun accountId => Spec.bind (Spec.commit fun t staged =>
    ⟨fun _ _ => staged.2.2, rfl, staged.2.1, fun key => by simpa [staged.1 key] using staged.2.2 key⟩)
    fun _ => hk accountId

/-- What the `try` block of the zone loop owes on a return: a zone that synced is settled once
its `zoneSynced` entry is logged, a zone that failed is settled as it is. -/
def Attempted (c : CloudflareClient) (env : Env) (db : Store) (zone : JVal) :
    Option ZoneSync → Sys Store SyncEvent → Prop
  | some w, t => Settled c env db { t with log := t.log ++ [.zoneSynced zone w] }
  | none, t => Settled c env db t

/-- What an attempt that raised leaves before its rollback: `Tracks`, and the zone ids a
primary key under the counter. -/
def Unwound (c : CloudflareClient) (env : Env) (db : Store) (t : Sys Store SyncEvent) : Prop :=
  Tracks c env db t ∧ t.committed.ZoneIdsBelow t.autoInc

theorem Settled.unwound {c : CloudflareClient} {s t : Sys Store SyncEvent}
    (settled : Settled c env db s) (staged : Py.Staged s t) : Unwound c env db t :=
  ⟨settled.tracks.of_same staged.1 staged.2.1, by rw [staged.1]; exact settled.keys.mono staged.2.2⟩

/-- **The `try`/`except CloudflareError` block of the zone loop.** From a settled world it
returns `some w` having committed the whole zone, or `none` having rolled the zone back and
logged the failure, or aborts with nothing of the zone committed. -/
theorem trySyncZone_spec (accountId : Nat) (zone : JVal) :
    Spec env (Settled c env db)
      (Py.tryExcept Exc.isCloudflare
        (do let w ← syncZone c accountId zone; pure (some w))
        fun e => do
          Py.rollback
          Py.emit (.zoneFailed zone e)
          pure none)
      (Attempted c env db zone) fun _ => Tracks c env db := by
  have attempt : Spec env (Settled c env db)
      (do let w ← syncZone c accountId zone; pure (some w))
      (Attempted c env db zone) fun _ => Unwound c env db := by
    refine Spec.of_unwinds ((syncZone_unwinds c accountId zone).map some) ?_
      fun _ _ _ settled staged => settled.unwound staged
    intro s synced t settled ran
    obtain ⟨w, t', ran, returned⟩ := Py.bind_ok ran
    obtain ⟨rfl, rfl⟩ := Py.pure_ok returned
    obtain ⟨clean, log, keys, v, built, written⟩ := syncZone_ok ran settled.clean settled.keys
    exact ⟨clean, keys, settled.tracks.emit_synced (syncZone_fetched ran) built written
      (by simp [log])⟩
  refine Spec.tryExcept attempt (fun e _ => ?_) fun _ _ unwound _ => unwound.1
  refine Spec.bind (Spec.rollback fun t unwound => ⟨fun _ _ => unwound.1, ?_⟩) fun _ =>
    Spec.bind (Settled.emit_spec (by intro; rfl)) fun _ => Spec.pure fun _ => id
  exact ⟨rfl, unwound.2, unwound.1⟩

/-- **The zone loop keeps the invariant**: from a settled world every return is settled, and
every abort keeps `Tracks`. -/
theorem zoneLoop_spec (accountId : String) :
    ∀ zones summary, Spec env (Settled c env db) (zoneLoop c accountId zones summary)
      (fun _ => Settled c env db) fun _ => Tracks c env db
  | [], _ => Spec.pure fun _ => id
  | zone :: zones, summary => by
    rw [zoneLoop]
    refine Spec.bind (Spec.lift_frame fun _ _ settled => settled.tracks) fun zoneId => ?_
    split
    · exact Spec.bind (Settled.emit_spec (by intro; rfl)) fun _ =>
        zoneLoop_spec accountId zones summary
    refine Spec.bind (Spec.lift_frame fun _ _ settled => settled.tracks) fun account => ?_
    refine Spec.bind (Spec.lift_frame fun _ _ settled => settled.tracks) fun cfAccountId => ?_
    refine Spec.bind (Spec.lift_frame fun _ _ settled => settled.tracks) fun name => ?_
    refine upsertAccount_commit_spec c _ _ fun dbAccountId => ?_
    refine Spec.bind (trySyncZone_spec c dbAccountId zone) fun synced => ?_
    cases synced with
    | none => exact zoneLoop_spec accountId zones summary
    | some w =>
      exact Spec.bind (Spec.emit fun _ => id) fun _ => zoneLoop_spec accountId zones (summary.add w)

/-- **The account loop keeps the invariant.** -/
theorem accountLoop_spec :
    ∀ accountIds summary, Spec env (Settled c env db) (accountLoop c accountIds summary)
      (fun _ => Settled c env db) fun _ => Tracks c env db
  | [], _ => Spec.pure fun _ => id
  | accountId :: rest, summary => by
    rw [accountLoop]
    have listing : Spec env (Settled c env db)
        (do let zones ← c.listZones accountId; pure (some zones))
        (fun _ => Settled c env db) fun _ => Settled c env db :=
      Spec.of_quiet (Py.Quiet.bind (CloudflareClient.listZones_quiet c accountId) fun _ =>
        Py.Quiet.pure _) (fun _ _ _ settled same => settled.of_data same)
        fun _ _ _ settled same => settled.of_data same
    refine Spec.bind (Spec.tryExcept listing
      (fun _ _ => Spec.bind (Settled.emit_spec (by intro; rfl)) fun _ => Spec.pure fun _ => id)
      fun _ _ settled _ => settled.tracks) fun listed => ?_
    cases listed with
    | none => exact accountLoop_spec rest summary
    | some zones =>
      refine Spec.bind (Settled.emit_spec (by intro; rfl)) fun _ => ?_
      split
      · exact accountLoop_spec rest summary
      · exact Spec.bind (zoneLoop_spec c accountId zones summary) fun summary =>
          accountLoop_spec rest summary

end Loops

/-! ## A whole run -/

/-- **Per-zone replace is all-or-nothing.** Run `sync_accounts` from a fresh session on any
store whose zone ids are a primary key under the counter, with any provider and any database
behaviour. Whether the run returns, raises or is cut off, every provider zone `key` ends with
exactly what the last `sync_zone` call for it that returned built: its row with the zone's
fields, one record row per element of the list `list_records` returned in that call and one
load-balancer row per element of the list `list_load_balancers` returned (`Fetched`). When no
call for it returned, it ends with exactly what it held before the run. -/
theorem syncAccounts_tracks (c : CloudflareClient) (accountIds : List String) (env : Env)
    (db : Store) (autoInc tick : Nat) (valid : db.ZoneIdsBelow autoInc) (key : JVal) :
    let final := (syncAccounts c accountIds env (Sys.session db autoInc tick [])).world
    match lastSynced final.log key with
    | some (zone, w) => Fetched c env zone w ∧
      ∃ v, syncedView env.isoTimestamp zone w = .ok v ∧ final.committed.zoneView key = some v
    | none => final.committed.zoneView key = db.zoneView key := by
  have run : (accountLoop c accountIds ⟨0, 0, 0⟩ env (Sys.session db autoInc tick [])).Meets
      (fun _ => Settled c env db) fun _ => Tracks c env db :=
    accountLoop_spec c accountIds ⟨0, 0, 0⟩ _ ⟨rfl, valid, fun _ => rfl⟩
  dsimp only
  unfold syncAccounts
  revert run
  cases accountLoop c accountIds ⟨0, 0, 0⟩ env (Sys.session db autoInc tick []) with
  | ok _ t => exact fun settled => settled.tracks key
  | error _ t => exact fun tracks => tracks key
  | diverge t => exact fun tracks => tracks key

/-- A run on a store holding one zone, against a provider that cannot be reached. -/
theorem syncAccounts_tracks_unreachable :
    let c := CloudflareClient.new ⟨"https://api.cloudflare.com/client/v4", none, none,
      some "token", ["a1"]⟩
    let db : Store := ⟨[], [⟨0, ⟨0, .str "z1", .str "example.com", .str "active", false,
      .str "full", .str "Free"⟩⟩], [], [], [], []⟩
    let env : Env := ⟨fun _ _ => .failed "unreachable", fun _ _ => none, fun _ => 0,
      fun _ _ _ => none, fun _ => none, 1⟩
    let final := (syncAccounts c ["a1"] env (Sys.session db 1 0 [])).world
    db.ZoneIdsBelow 1 ∧
    match lastSynced final.log (.str "z1") with
    | some (zone, w) => Fetched c env zone w ∧
      ∃ v, syncedView env.isoTimestamp zone w = .ok v ∧ final.committed.zoneView (.str "z1") = some v
    | none => final.committed.zoneView (.str "z1") = db.zoneView (.str "z1") :=
  ⟨by decide, syncAccounts_tracks _ _ _ _ 1 0 (by decide) _⟩

end CloudflareSync
