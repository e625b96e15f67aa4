import CloudflareSync.PoolInvariant
import CloudflareSync.EngineSteady
import CloudflareSync.Pagination

/-!
# Foreign keys under any schedule of runs

The tables hold four references by id: the `zone_id` of a record row and of a load-balancer
row, the `account_id` of a zone row, the `lb_id` of a pool row and the `pool_id` of an origin
row. The model's `DELETE` removes rows of the table it names and nothing else, as the
statement reads; no cascade is assumed.

`ZoneSafe P` says that each write of `sync_accounts` keeps a property `P` of the store, given
what the engine knows when it makes the write, as `LinkerSafe P` says it of the pool linker.
For such a `P`, every run of `sync_accounts`, against any provider and any server, keeps `P`
of the committed store (`syncAccounts_keeps`). The proof follows the run with one world
invariant, `Syncing`: `P` holds of the open transaction and of the committed store.

`Store.Linked` holds three of the references: records and load balancers name a zone, zones
an account, origins a pool. Both scripts keep it (`linked_zoneSafe`, `linked_linkerSafe`), so
every schedule of runs of the two scripts does (`runJobs_keeps_links`). The fourth,
`Store.PoolsLinked`, is kept by the linker alone: a `sync_zone` deletes the zone's load
balancers and inserts them again under new ids, and leaves the pool rows that named the old
ones in place.
-/

set_option autoImplicit false

namespace CloudflareSync

/-! ## What each write of `sync_accounts` knows -/

/-- A property of the store that each write of `sync_accounts` keeps, given what the engine
knows when it makes the write: a zone row is upserted for an account row of the store, and
record and load-balancer rows are inserted for a zone row of the store. -/
structure ZoneSafe (P : Store → Prop) : Prop where
  upsertAccount : ∀ st cfAccountId name n, P st → P (st.upsertAccount cfAccountId name n).1
  upsertZone : ∀ st cols n, P st → cols.accountId ∈ st.accounts.map Row.id →
    P (st.upsertZone cols n).1
  deleteRecords : ∀ st zoneId, P st → P (st.deleteRecords zoneId)
  insertRecords : ∀ st rows n, P st → (∀ r ∈ rows, r.zoneId ∈ st.zones.map Row.id) →
    P (st.insertRecords rows n).1
  deleteBalancers : ∀ st zoneId, P st → P (st.deleteBalancers zoneId)
  insertBalancers : ∀ st rows n, P st → (∀ b ∈ rows, b.zoneId ∈ st.zones.map Row.id) →
    P (st.insertBalancers rows n).1

namespace Store

variable (st : Store)

@[simp] theorem upsertAccount_pools (cfAccountId name : JVal) (n : Nat) :
    (st.upsertAccount cfAccountId name n).1.pools = st.pools := by
  unfold upsertAccount; split <;> rfl
@[simp] theorem upsertAccount_origins (cfAccountId name : JVal) (n : Nat) :
    (st.upsertAccount cfAccountId name n).1.origins = st.origins := by
  unfold upsertAccount; split <;> rfl
@[simp] theorem upsertZone_accounts (cols : ZoneCols) (n : Nat) :
    (st.upsertZone cols n).1.accounts = st.accounts := by
  unfold upsertZone; split <;> rfl
@[simp] theorem upsertZone_records (cols : ZoneCols) (n : Nat) :
    (st.upsertZone cols n).1.records = st.records := by
  unfold upsertZone; split <;> rfl
@[simp] theorem upsertZone_balancers (cols : ZoneCols) (n : Nat) :
    (st.upsertZone cols n).1.balancers = st.balancers := by
  unfold upsertZone; split <;> rfl
@[simp] theorem upsertZone_pools (cols : ZoneCols) (n : Nat) :
    (st.upsertZone cols n).1.pools = st.pools := by
  unfold upsertZone; split <;> rfl
@[simp] theorem upsertZone_origins (cols : ZoneCols) (n : Nat) :
    (st.upsertZone cols n).1.origins = st.origins := by
  unfold upsertZone; split <;> rfl

/-- `upsert_account` keeps every account row's id, and returns the id of a row it leaves. -/
theorem upsertAccount_ids (cfAccountId name : JVal) (n : Nat) :
    st.accounts.map Row.id ⊆ (st.upsertAccount cfAccountId name n).1.accounts.map Row.id ∧
      (st.upsertAccount cfAccountId name n).2.2 ∈
        (st.upsertAccount cfAccountId name n).1.accounts.map Row.id := by
  unfold upsertAccount
  split
  next r found =>
    have ids : (st.accounts.map fun a => if a.cols.cfAccountId == cfAccountId then
        (⟨a.id, { a.cols with name := name }⟩ : Row AccountCols) else a).map Row.id =
        st.accounts.map Row.id :=
      Row.map_ids (fun _ => by split <;> rfl) _
    simp only [ids]
    exact ⟨List.Subset.refl _, List.mem_map_of_mem _ (List.mem_of_find?_eq_some found)⟩
  next => simp

/-- `upsert_zone` keeps every zone row's id, and returns the id of a row it leaves. -/
theorem upsertZone_ids (cols : ZoneCols) (n : Nat) :
    st.zones.map Row.id ⊆ (st.upsertZone cols n).1.zones.map Row.id ∧
      (st.upsertZone cols n).2.2 ∈ (st.upsertZone cols n).1.zones.map Row.id := by
  unfold upsertZone
  split
  next r found =>
    have ids : (st.zones.map fun z => if z.cols.cfZoneId == cols.cfZoneId then
        (⟨z.id, cols⟩ : Row ZoneCols) else z).map Row.id = st.zones.map Row.id :=
      Row.map_ids (fun _ => by split <;> rfl) _
    simp only [ids]
    exact ⟨List.Subset.refl _, List.mem_map_of_mem _ (List.mem_of_find?_eq_some found)⟩
  next => simp

/-- A zone row after `upsert_zone` is a row from before, or holds the upserted columns. -/
theorem mem_upsertZone {cols : ZoneCols} {n : Nat} {z : Row ZoneCols}
    (member : z ∈ (st.upsertZone cols n).1.zones) : z ∈ st.zones ∨ z.cols = cols := by
  unfold upsertZone at member
  split at member
  · obtain ⟨y, yMember, rfl⟩ := List.mem_map.mp member
    split
    · exact .inr rfl
    · exact .inl yMember
  · simp only [List.mem_append, List.mem_singleton] at member
    rcases member with member | rfl
    · exact .inl member
    · exact .inr rfl

/-- A row a multi-row `INSERT` adds holds one of the inserted column tuples. -/
theorem cols_mem_of_mem_numberFrom {α : Type} {n : Nat} {cs : List α} {r : Row α}
    (member : r ∈ numberFrom n cs) : r.cols ∈ cs := by
  rw [← numberFrom_cols n cs]
  exact List.mem_map_of_mem _ member

end Store

theorem zoneColumns_accountId {accountId : Nat} {zone : JVal} {cols : ZoneCols}
    (built : zoneColumns accountId zone = .ok cols) : cols.accountId = accountId := by
  iterate 7 obtain ⟨_, -, built⟩ := bind_eq_ok built
  cases built
  rfl

/-! ## Every run of `sync_accounts` -/

/-- A world of a `sync_accounts` run: `P` holds of the open transaction and of the committed
store. -/
def Syncing (P : Store → Prop) (s : Sys Store SyncEvent) : Prop :=
  P s.pending ∧ P s.committed

section Syncing

variable {P : Store → Prop} {env : Env}

/-- A step that touches neither store keeps any property of the data. -/
theorem quiet_syncing {α : Type} {m : SyncM α} (quiet : Py.Quiet m)
    {Q : Sys Store SyncEvent → Prop} (dataOnly : ∀ s t, t.data = s.data → Q s → Q t) :
    Spec env Q m (fun _ => Q) fun _ => Q :=
  Spec.of_quiet quiet (fun _ s t h same => dataOnly s t same h) fun _ s t h same =>
    dataOnly s t same h

/-- The two stores are part of the data. -/
theorem stores_of_data {s t : Sys Store SyncEvent} (same : t.data = s.data) :
    t.pending = s.pending ∧ t.committed = s.committed := by
  simp only [Sys.data, Prod.mk.injEq] at same
  exact ⟨same.2.1, same.1⟩

/-- A world with the same data as one where `Syncing` holds is `Syncing`. -/
theorem Syncing.of_data {s t : Sys Store SyncEvent} (same : t.data = s.data)
    (syncing : Syncing P s) : Syncing P t :=
  ⟨(stores_of_data same).1 ▸ syncing.1, (stores_of_data same).2 ▸ syncing.2⟩

/-- A statement that keeps `P` where the open transaction also satisfies `Q` keeps `Syncing`;
its result and new transaction come from a store with `Q`. -/
theorem execute_syncing {α : Type} {table : String} {stmt : Store → Nat → Store × Nat × α}
    {Q : Store → Prop} (keeps : ∀ st n, P st → Q st → P (stmt st n).1) :
    Spec env (fun s => Syncing P s ∧ Q s.pending) (Py.execute table stmt)
      (fun a t => Syncing P t ∧ ∃ st n, Q st ∧ (stmt st n).1 = t.pending ∧ (stmt st n).2.2 = a)
      fun _ t => P t.committed :=
  Spec.execute fun _ ⟨⟨pending, committed⟩, known⟩ =>
    ⟨fun _ _ => committed, ⟨keeps _ _ pending known, committed⟩, _, _, known, rfl, rfl⟩

/-- A statement that allocates no id, and keeps `P` and `Q`, keeps both. -/
theorem update_syncing {table : String} {f : Store → Store} {Q : Store → Prop}
    (keeps : ∀ st, P st → Q st → P (f st) ∧ Q (f st)) :
    Spec env (fun s => Syncing P s ∧ Q s.pending) (Py.update table f)
      (fun _ t => Syncing P t ∧ Q t.pending) fun _ t => P t.committed :=
  Spec.update fun _ ⟨⟨pending, committed⟩, known⟩ =>
    ⟨fun _ _ => committed, ⟨(keeps _ pending known).1, committed⟩, (keeps _ pending known).2⟩

/-- `conn.commit()` keeps `Syncing`: the open transaction, which satisfies `P`, becomes the
store. -/
theorem commit_syncing {Q : Store → Prop} :
    Spec env (fun s => Syncing P s ∧ Q s.pending) (Py.commit : SyncM Unit)
      (fun _ t => Syncing P t ∧ Q t.pending) fun _ t => P t.committed :=
  Spec.commit fun _ ⟨⟨pending, committed⟩, known⟩ => ⟨fun _ _ => committed, ⟨pending, pending⟩, known⟩

/-- A log line keeps `Syncing`. -/
theorem emit_syncing {abort : Option Exc → Sys Store SyncEvent → Prop} (entry : SyncEvent) :
    Spec env (Syncing P) (Py.emit entry) (fun _ => Syncing P) abort :=
  Spec.emit fun _ h => h

/-- `conn.rollback()` restores `Syncing` from the committed store. -/
theorem rollback_syncing :
    Spec env (fun t => P t.committed) (Py.rollback : SyncM Unit) (fun _ => Syncing P)
      fun _ t => P t.committed :=
  Spec.rollback fun _ committed => ⟨fun _ _ => committed, committed, committed⟩

variable (safe : ZoneSafe P)

include safe

theorem upsertAccount_syncing (cfAccountId name : JVal) :
    Spec env (Syncing P) (upsertAccount cfAccountId name)
      (fun accountId t => Syncing P t ∧ accountId ∈ t.pending.accounts.map Row.id)
      fun _ t => P t.committed := by
  refine Spec.conseq (execute_syncing (Q := fun _ => True) fun st n kept _ =>
    safe.upsertAccount st cfAccountId name n kept) (fun _ h => ⟨h, trivial⟩) ?_ fun _ _ h => h
  rintro accountId t ⟨syncing, st, n, -, written, returned⟩
  rw [← written, ← returned]
  exact ⟨syncing, (st.upsertAccount_ids cfAccountId name n).2⟩

theorem upsertZone_syncing (accountId : Nat) (zone : JVal) :
    Spec env (fun s => Syncing P s ∧ accountId ∈ s.pending.accounts.map Row.id)
      (upsertZone accountId zone)
      (fun zoneId t => Syncing P t ∧ zoneId ∈ t.pending.zones.map Row.id)
      fun _ t => P t.committed := by
  unfold upsertZone
  refine Spec.bind (Spec.lift_pre fun _ _ h _ => h.1.2) fun cols => Spec.pure_pre fun built => ?_
  refine Spec.conseq (execute_syncing (Q := fun st => cols.accountId ∈ st.accounts.map Row.id)
    fun st n kept known => safe.upsertZone st cols n kept known)
    (fun _ h => ⟨h.1, by rw [zoneColumns_accountId built]; exact h.2⟩) ?_ fun _ _ h => h
  rintro zoneId t ⟨syncing, st, n, -, written, returned⟩
  rw [← written, ← returned]
  exact ⟨syncing, (st.upsertZone_ids cols n).2⟩

theorem replaceZoneRecords_syncing (zoneId : Nat) (records : List JVal) :
    Spec env (fun s => Syncing P s ∧ zoneId ∈ s.pending.zones.map Row.id)
      (replaceZoneRecords zoneId records)
      (fun _ t => Syncing P t ∧ zoneId ∈ t.pending.zones.map Row.id)
      fun _ t => P t.committed := by
  unfold replaceZoneRecords
  refine Spec.bind (update_syncing (Q := fun st => zoneId ∈ st.zones.map Row.id)
    fun st kept known => ⟨safe.deleteRecords st zoneId kept, known⟩)
    fun _ => ?_
  split
  · exact Spec.pure fun _ h => h
  refine Spec.env' (Spec.bind (Spec.lift_pre fun _ _ h _ => h.1.2) fun rows =>
    Spec.pure_pre fun built => ?_)
  refine Spec.bind (execute_syncing (Q := fun st => zoneId ∈ st.zones.map Row.id)
    fun st n kept known => safe.insertRecords st rows n kept fun r member => ?_) fun _ => ?_
  · obtain ⟨_, -, rBuilt⟩ := mapM_ok_mem built r member
    rw [recordColumns_zoneId rBuilt]
    exact known
  refine Spec.pure ?_
  rintro t ⟨syncing, st, n, known, written, -⟩
  rw [← written]
  exact ⟨syncing, known⟩

theorem replaceZoneLoadBalancers_syncing (zoneId : Nat) (balancers : List JVal) :
    Spec env (fun s => Syncing P s ∧ zoneId ∈ s.pending.zones.map Row.id)
      (replaceZoneLoadBalancers zoneId balancers)
      (fun _ t => Syncing P t ∧ zoneId ∈ t.pending.zones.map Row.id)
      fun _ t => P t.committed := by
  unfold replaceZoneLoadBalancers
  refine Spec.bind (update_syncing (Q := fun st => zoneId ∈ st.zones.map Row.id)
    fun st kept known => ⟨safe.deleteBalancers st zoneId kept, known⟩)
    fun _ => ?_
  split
  · exact Spec.pure fun _ h => h
  refine Spec.bind (Spec.lift_pre fun _ _ h _ => h.1.2) fun lbs => Spec.pure_pre fun built => ?_
  refine Spec.bind (execute_syncing (Q := fun st => zoneId ∈ st.zones.map Row.id)
    fun st n kept known => safe.insertBalancers st lbs n kept fun b member => ?_) fun _ => ?_
  · obtain ⟨_, -, bBuilt⟩ := mapM_ok_mem built b member
    rw [balancerColumns_zoneId bBuilt]
    exact known
  refine Spec.pure ?_
  rintro t ⟨syncing, st, n, known, written, -⟩
  rw [← written]
  exact ⟨syncing, known⟩

/-- `sync_zone` for an account row of the open transaction keeps `Syncing`; it commits only at
its end. -/
theorem syncZone_syncing (c : CloudflareClient) (accountId : Nat) (zone : JVal) :
    Spec env (fun s => Syncing P s ∧ accountId ∈ s.pending.accounts.map Row.id)
      (syncZone c accountId zone) (fun _ => Syncing P) fun _ t => P t.committed := by
  have listing : ∀ {α : Type} {m : SyncM α}, Py.Quiet m →
      Spec env (fun s => Syncing P s ∧ accountId ∈ s.pending.accounts.map Row.id) m
        (fun _ s => Syncing P s ∧ accountId ∈ s.pending.accounts.map Row.id)
        fun _ t => P t.committed := fun quiet =>
    Spec.conseq (quiet_syncing quiet fun _ _ same h =>
      ⟨h.1.of_data same, (stores_of_data same).1 ▸ h.2⟩) (fun _ h => h) (fun _ _ h => h)
      fun _ _ h => h.1.2
  unfold syncZone
  refine Spec.bind (Spec.lift_frame fun _ _ h => h.1.2) fun zoneId =>
    Spec.bind Spec.now fun _ => ?_
  refine Spec.bind (listing (CloudflareClient.listRecords_quiet c zoneId)) fun records => ?_
  refine Spec.bind (listing (CloudflareClient.listLoadBalancers_quiet c zoneId)) fun lbs => ?_
  refine Spec.bind (upsertZone_syncing safe accountId zone) fun localZoneId => ?_
  refine Spec.bind (replaceZoneRecords_syncing safe localZoneId records) fun _ => ?_
  refine Spec.bind (replaceZoneLoadBalancers_syncing safe localZoneId lbs) fun _ => ?_
  have marked : Spec env (fun t => Syncing P t ∧ localZoneId ∈ t.pending.zones.map Row.id)
      (Py.update "cloudflare_zones" (Store.markSynced localZoneId))
      (fun _ t => Syncing P t ∧ True) fun _ t => P t.committed :=
    Spec.update fun _ h => ⟨fun _ _ => h.1.2, h.1, trivial⟩
  exact Spec.bind marked fun _ => Spec.bind (commit_syncing (Q := fun _ => True)) fun _ =>
    Spec.pure fun _ h => h.1

/-- The `try`/`except CloudflareError` block of the zone loop keeps `Syncing`: a zone that
raises is rolled back. -/
theorem trySyncZone_syncing (c : CloudflareClient) (accountId : Nat) (zone : JVal) :
    Spec env (fun s => Syncing P s ∧ accountId ∈ s.pending.accounts.map Row.id)
      (Py.tryExcept Exc.isCloudflare
        (do let w ← syncZone c accountId zone; pure (some w))
        fun e => do
          Py.rollback
          Py.emit (.zoneFailed zone e)
          pure none)
      (fun _ => Syncing P) fun _ t => P t.committed :=
  Spec.tryExcept (Spec.bind (syncZone_syncing safe c accountId zone) fun _ => Spec.pure fun _ h => h)
    (fun _ _ => Spec.bind rollback_syncing fun _ =>
      Spec.bind (emit_syncing _) fun _ => Spec.pure fun _ h => h)
    fun _ _ h _ => h

theorem zoneLoop_syncing (c : CloudflareClient) (accountId : String) :
    ∀ zones summary, Spec env (Syncing P) (zoneLoop c accountId zones summary)
      (fun _ => Syncing P) fun _ t => P t.committed
  | [], _ => Spec.pure fun _ h => h
  | zone :: zones, summary => by
    rw [zoneLoop]
    refine Spec.bind (Spec.lift_frame fun _ _ h => h.2) fun zoneId => ?_
    split
    · exact Spec.bind (emit_syncing _) fun _ => zoneLoop_syncing c accountId zones summary
    refine Spec.bind (Spec.lift_frame fun _ _ h => h.2) fun account => ?_
    refine Spec.bind (Spec.lift_frame fun _ _ h => h.2) fun cfAccountId => ?_
    refine Spec.bind (Spec.lift_frame fun _ _ h => h.2) fun name => ?_
    refine Spec.bind (upsertAccount_syncing safe _ _) fun dbAccountId => ?_
    refine Spec.bind (commit_syncing (Q := fun st => dbAccountId ∈ st.accounts.map Row.id))
      fun _ => ?_
    refine Spec.bind (trySyncZone_syncing safe c dbAccountId zone) fun synced => ?_
    cases synced with
    | none => exact zoneLoop_syncing c accountId zones summary
    | some w =>
      exact Spec.bind (emit_syncing _) fun _ => zoneLoop_syncing c accountId zones (summary.add w)

theorem accountLoop_syncing (c : CloudflareClient) :
    ∀ accountIds summary, Spec env (Syncing P) (accountLoop c accountIds summary)
      (fun _ => Syncing P) fun _ t => P t.committed
  | [], _ => Spec.pure fun _ h => h
  | accountId :: rest, summary => by
    rw [accountLoop]
    have listing : Spec env (Syncing P) (do let zones ← c.listZones accountId; pure (some zones))
        (fun _ => Syncing P) fun _ => Syncing P :=
      quiet_syncing (Py.Quiet.bind (CloudflareClient.listZones_quiet c accountId) fun _ =>
        Py.Quiet.pure _) fun _ _ same h => h.of_data same
    refine Spec.bind (Spec.tryExcept listing
      (fun _ _ => Spec.bind (emit_syncing _) fun _ => Spec.pure fun _ h => h)
      fun _ _ h _ => h.2) fun listed => ?_
    cases listed with
    | none => exact accountLoop_syncing c rest summary
    | some zones =>
      refine Spec.bind (emit_syncing _) fun _ => ?_
      split
      · exact accountLoop_syncing c rest summary
      · exact Spec.bind (zoneLoop_syncing safe c accountId zones summary) fun summary =>
          accountLoop_syncing c rest summary

/-- **Every run of `sync_accounts` keeps `P` of the committed store**, for any `P` that each
write of the engine keeps, against any provider and any server, whether the run returns,
raises or is cut off. -/
theorem syncAccounts_keeps (c : CloudflareClient) (accountIds : List String) :
    Spec env (Syncing P) (syncAccounts c accountIds) (fun _ t => P t.committed)
      fun _ t => P t.committed :=
  Spec.conseq (accountLoop_syncing safe c accountIds _) (fun _ h => h) (fun _ _ h => h.2)
    fun _ _ h => h

end Syncing

/-! ## The references -/

namespace Store

/-- Three of the four references of the tables: every record and load-balancer row names a
zone row, every zone row an account row, and every origin row a pool row. -/
structure Linked (st : Store) : Prop where
  records : ∀ r ∈ st.records, r.cols.zoneId ∈ st.zones.map Row.id
  balancers : ∀ b ∈ st.balancers, b.cols.zoneId ∈ st.zones.map Row.id
  zones : ∀ z ∈ st.zones, z.cols.accountId ∈ st.accounts.map Row.id
  origins : ∀ o ∈ st.origins, o.cols.poolId ∈ st.pools.map Row.id

instance (st : Store) : Decidable st.Linked :=
  decidable_of_iff ((∀ r ∈ st.records, r.cols.zoneId ∈ st.zones.map Row.id) ∧
      (∀ b ∈ st.balancers, b.cols.zoneId ∈ st.zones.map Row.id) ∧
      (∀ z ∈ st.zones, z.cols.accountId ∈ st.accounts.map Row.id) ∧
      ∀ o ∈ st.origins, o.cols.poolId ∈ st.pools.map Row.id)
    ⟨fun ⟨r, b, z, o⟩ => ⟨r, b, z, o⟩, fun linked => ⟨linked.1, linked.2, linked.3, linked.4⟩⟩

/-- The fourth reference: every pool row names a load-balancer row. -/
def PoolsLinked (st : Store) : Prop :=
  ∀ p ∈ st.pools, p.cols.lbId ∈ st.balancers.map Row.id

instance (st : Store) : Decidable st.PoolsLinked :=
  inferInstanceAs (Decidable (∀ p ∈ st.pools, p.cols.lbId ∈ st.balancers.map Row.id))

end Store

theorem linked_zoneSafe : ZoneSafe Store.Linked where
  upsertAccount st cfAccountId name n linked := by
    refine ⟨by simpa using linked.records, by simpa using linked.balancers, fun z member => ?_,
      by simpa using linked.origins⟩
    simp only [Store.upsertAccount_zones] at member
    exact (st.upsertAccount_ids cfAccountId name n).1 (linked.zones z member)
  upsertZone st cols n linked known := by
    refine ⟨fun r member => ?_, fun b member => ?_, fun z member => ?_, by simpa using linked.origins⟩
    · simp only [Store.upsertZone_records] at member
      exact (st.upsertZone_ids cols n).1 (linked.records r member)
    · simp only [Store.upsertZone_balancers] at member
      exact (st.upsertZone_ids cols n).1 (linked.balancers b member)
    · simp only [Store.upsertZone_accounts]
      rcases st.mem_upsertZone member with old | upserted
      · exact linked.zones z old
      · rw [upserted]
        exact known
  deleteRecords _ _ linked :=
    ⟨fun r member => linked.records r (List.mem_filter.mp member).1, linked.balancers,
      linked.zones, linked.origins⟩
  insertRecords _ _ _ linked known :=
    ⟨fun r member => (List.mem_append.mp member).elim (linked.records r) fun added =>
      known _ (Store.cols_mem_of_mem_numberFrom added), linked.balancers, linked.zones,
      linked.origins⟩
  deleteBalancers _ _ linked :=
    ⟨linked.records, fun b member => linked.balancers b (List.mem_filter.mp member).1,
      linked.zones, linked.origins⟩
  insertBalancers _ _ _ linked known :=
    ⟨linked.records, fun b member => (List.mem_append.mp member).elim (linked.balancers b)
      fun added => known _ (Store.cols_mem_of_mem_numberFrom added), linked.zones,
      linked.origins⟩

theorem linked_linkerSafe : LinkerSafe Store.Linked where
  updatePool st poolDbId cols linked :=
    ⟨linked.records, linked.balancers, linked.zones, by
      rw [Store.updatePool_ids]
      exact linked.origins⟩
  insertPool _ _ _ linked _ :=
    ⟨linked.records, linked.balancers, linked.zones, fun o member => by
      simp only [Store.insertPool, List.map_append, List.mem_append]
      exact .inl (linked.origins o member)⟩
  deleteOrigins _ _ linked :=
    ⟨linked.records, linked.balancers, linked.zones, fun o member =>
      linked.origins o (List.mem_filter.mp member).1⟩
  insertOrigin _ _ _ linked known :=
    ⟨linked.records, linked.balancers, linked.zones, fun o member =>
      (List.mem_append.mp member).elim (linked.origins o) fun added => by
        rw [List.mem_singleton.mp added]
        exact known⟩

theorem poolsLinked_linkerSafe : LinkerSafe Store.PoolsLinked where
  updatePool _ _ _ linked p member := by
    obtain ⟨q, qMember, rfl⟩ := List.mem_map.mp member
    split <;> exact linked q qMember
  insertPool _ _ _ linked known p member :=
    (List.mem_append.mp member).elim (linked p) fun added => by
      rw [List.mem_singleton.mp added]
      exact known
  deleteOrigins _ _ linked := linked
  insertOrigin _ _ _ linked _ := linked

/-! ## Schedules of runs -/

/-- One run of one of the two scripts against its own provider and server: `sync_accounts` of
`sync_cloudflare_records.py`, or `sync_pools_for_zone` of `sync_pools_direct.py`. -/
inductive Job where
  | accounts (c : CloudflareClient) (accountIds : List String) (env : Env)
  | pools (files : String → Option RawConfig) (order : SetOrder) (zoneId : Int) (env : Env)

namespace Job

/-- The committed store and the AUTO_INCREMENT counter a job leaves, however it ends, when it
runs from a fresh session on `w`. -/
def run : Job → Store × Nat → Store × Nat
  | accounts c accountIds env, (db, n) =>
    let t := (syncAccounts c accountIds env (Sys.session db n 0 [])).world
    (t.committed, t.autoInc)
  | pools files order zoneId env, (db, n) =>
    let t := (syncPoolsForZone files order zoneId env (Sys.session db n 0 [])).world
    (t.committed, t.autoInc)

/-- Whether the job is a run of the pool linker. -/
def isPools : Job → Bool
  | accounts .. => false
  | pools .. => true

end Job

/-- A schedule of jobs, each run from a fresh session on what the one before it committed. -/
def runJobs : List Job → Store × Nat → Store × Nat
  | [], w => w
  | job :: rest, w => runJobs rest (job.run w)

/-- A fact about the world that every outcome meets holds of the world the run ends in. -/
theorem Res.world_of_meets {σ ε α : Type} {Q : Sys σ ε → Prop} {r : Res (Sys σ ε) α}
    (h : r.Meets (fun _ => Q) fun _ => Q) : Q r.world := by
  cases r <;> exact h

section Jobs

variable {P : Store → Prop}

/-- A job of either script keeps a property that both scripts keep. -/
theorem Job.run_keeps (zoneSafe : ZoneSafe P) (linkerSafe : LinkerSafe P) :
    ∀ (job : Job) (w : Store × Nat), P w.1 → P (job.run w).1
  | .accounts c accountIds _, (_, _), kept =>
    Res.world_of_meets (Q := fun t => P t.committed)
      (syncAccounts_keeps zoneSafe c accountIds _ ⟨kept, kept⟩)
  | .pools files order zoneId _, (_, _), kept =>
    Res.world_of_meets (Q := fun t => P t.committed)
      (Spec.conseq (syncPoolsForZone_keeps linkerSafe kept files order zoneId) (fun _ h => h)
        (fun _ _ h => h) (fun _ _ committed => committed ▸ kept) _ rfl)

/-- A job of the pool linker keeps a property that the linker keeps. -/
theorem Job.run_keeps_pools (linkerSafe : LinkerSafe P) :
    ∀ (job : Job), job.isPools = true → ∀ (w : Store × Nat), P w.1 → P (job.run w).1
  | .pools files order zoneId _, _, (_, _), kept =>
    Res.world_of_meets (Q := fun t => P t.committed)
      (Spec.conseq (syncPoolsForZone_keeps linkerSafe kept files order zoneId) (fun _ h => h)
        (fun _ _ h => h) (fun _ _ committed => committed ▸ kept) _ rfl)

/-- A schedule whose every job keeps `P` keeps `P`. -/
theorem runJobs_keeps : ∀ (jobs : List Job) (w : Store × Nat),
    (∀ job ∈ jobs, ∀ w, P w.1 → P (job.run w).1) → P w.1 → P (runJobs jobs w).1
  | [], _, _, kept => kept
  | job :: rest, w, keeps, kept =>
    runJobs_keeps rest _ (fun other member => keeps other (.tail _ member))
      (keeps job (.head _) w kept)

end Jobs

/-- **The references under any schedule of runs.** Run `sync_accounts` and
`sync_pools_for_zone` in any finite order, each against any provider and any server and
whatever it ends in, from a store whose record and load-balancer rows name zone rows, whose
zone rows name account rows and whose origin rows name pool rows: every store committed after
a run keeps the three. A schedule of linker runs alone also keeps every pool row's `lb_id`
naming a load-balancer row. -/
theorem runJobs_keeps_links (jobs : List Job) (db : Store) (n : Nat) (linked : db.Linked) :
    (runJobs jobs (db, n)).1.Linked ∧
      ((∀ job ∈ jobs, job.isPools = true) → db.PoolsLinked →
        (runJobs jobs (db, n)).1.PoolsLinked) :=
  ⟨runJobs_keeps jobs _ (fun job _ => Job.run_keeps linked_zoneSafe linked_linkerSafe job) linked,
    fun pools poolsLinked => runJobs_keeps jobs _
      (fun job member => Job.run_keeps_pools poolsLinked_linkerSafe job (pools job member))
      poolsLinked⟩

/-! ## A re-sync leaves a linked pool without its load balancer -/

/-- Account row 1, its zone row 2 for provider zone `z1`, load balancer row 3 listing pool `p1`,
pool row 5 linked to it, and origin row 6 of the pool. -/
def resyncStore : Store :=
  ⟨[⟨1, ⟨.str "acc", .str "Acc"⟩⟩],
    [⟨2, ⟨1, .str "z1", .str "example.com", .str "active", false, .str "full", .str "Free"⟩⟩],
    [], [⟨3, ⟨2, .str "lb1", .str "lb1", none, none, .null, some (.parses (.arr [.str "p1"])),
      .null, .null⟩⟩],
    [⟨5, ⟨3, .str "p1", .str "p1", .null, true, .null, .null, .str "random", .null, false⟩⟩],
    [⟨6, ⟨5, .str "o1", .str "192.0.2.1", true, .null, .null, .null⟩⟩]⟩

/-- Provider zone `z1` of account `acc`. -/
def resyncZone : JVal :=
  .obj [("id", .str "z1"), ("name", .str "example.com"), ("status", .str "active"),
    ("paused", .bool false), ("type", .str "full"), ("plan", .obj [("name", .str "Free")]),
    ("account", .obj [("id", .str "acc"), ("name", .str "Acc")])]

/-- Load balancer `lb1` of the zone, whose default pool is `p1`. -/
def resyncBalancer : JVal :=
  .obj [("id", .str "lb1"), ("name", .str "lb1"), ("default_pools", .arr [.str "p1"])]

/-- A successful listing page with `items` and no page count. -/
def listingPage (items : List JVal) : Reply :=
  .response 200 "" (some (.obj [("success", .bool true), ("result", .arr items)]))

/-- A provider that lists zone `z1` for every account, no record and load balancer `lb1` for
every zone, and answers every other request with the detail of pool `p1` with one origin. The
account listing is the request with three query parameters, the record listing the one that
asks for 100 per page. -/
def resyncProvider : Env :=
  ⟨fun _ req =>
    if req.params.length = 3 then listingPage [resyncZone]
    else if req.params.length = 2 then
      if req.params.lookup "per_page" = some "100" then listingPage [] else listingPage [resyncBalancer]
    else .response 200 "" (some (.obj [("success", .bool true), ("result", .obj [("name", .str "p1"),
      ("origins", .arr [.obj [("name", .str "o1"), ("address", .str "192.0.2.1")]])])])),
    fun _ _ => none, fun _ => 0, fun _ _ _ => none, fun _ => none, 1⟩

theorem resyncProvider_steady : resyncProvider.Steady :=
  ⟨fun _ _ => rfl, fun _ _ _ => by
    dsimp only [resyncProvider, listingPage]
    split_ifs <;> exact Reply.noConfusion, fun _ _ => rfl⟩

/-- The client of account `acc`. -/
def resyncClient : CloudflareClient :=
  CloudflareClient.new ⟨"https://api.cloudflare.com/client/v4", none, none, some "token", ["acc"]⟩

/-- What `resyncProvider` lists. -/
def resyncListings : Listings := ⟨fun _ => [resyncZone], fun _ => [], fun _ => [resyncBalancer]⟩

theorem resyncListings_answers : resyncListings.Answers resyncClient resyncProvider where
  zones accountId s := by
    have reply : resyncProvider.reply s.tick (resyncClient.httpRequest "GET" "/zones"
        (CloudflareClient.pageParams 1 50 [("account.id", accountId)])) = listingPage [resyncZone] := rfl
    exact ⟨_, CloudflareClient.paginatedGet_onePage reply (by decide) (by rfl) (by decide) le_rfl⟩
  records zoneId s := by
    have reply : resyncProvider.reply s.tick (resyncClient.httpRequest "GET"
        s!"/zones/{zoneId.pyStr}/dns_records" (CloudflareClient.pageParams 1 100 [])) = listingPage [] := rfl
    exact ⟨_, CloudflareClient.paginatedGet_onePage reply (by decide) (by rfl) (by decide) le_rfl⟩
  balancers zoneId s := by
    have reply : resyncProvider.reply s.tick (resyncClient.httpRequest "GET"
        s!"/zones/{zoneId.pyStr}/load_balancers" (CloudflareClient.pageParams 1 50 [])) =
        listingPage [resyncBalancer] := rfl
    refine ⟨{ s with tick := s.tick + 1 }, ?_⟩
    rw [CloudflareClient.listLoadBalancers, Py.run_tryExcept,
      CloudflareClient.paginatedGet_onePage reply (by decide) (by rfl) (by decide) le_rfl]
    rfl

/-- From `resyncStore`, a re-sync of its account keeps the three references, and a run of the
linker keeps its pool linked as well. -/
theorem runJobs_keeps_links_resyncStore :
    resyncStore.Linked ∧ resyncStore.PoolsLinked ∧
      (runJobs [.accounts resyncClient ["acc"] resyncProvider] (resyncStore, 7)).1.Linked ∧
      (runJobs [.pools (fun _ => none) .insertion 2 resyncProvider] (resyncStore, 7)).1.PoolsLinked :=
  ⟨by decide, by decide, (runJobs_keeps_links _ resyncStore 7 (by decide)).1,
    (runJobs_keeps_links _ resyncStore 7 (by decide)).2 (by decide) (by decide)⟩

/-- A run of `sync_accounts` that re-syncs zone `z1` from `resyncStore` deletes load balancer
row 3 and inserts `lb1` again under id 7: pool row 5, which no statement touched, names a load
balancer that is no longer there. -/
theorem runJobs_orphans_pool :
    resyncStore.Linked ∧ resyncStore.PoolsLinked ∧
      ¬(runJobs [.accounts resyncClient ["acc"] resyncProvider] (resyncStore, 7)).1.PoolsLinked := by
  have written : accountLoopWrites resyncProvider.isoTimestamp resyncListings ["acc"]
      (resyncStore, 7) = .ok _ := rfl
  obtain ⟨_, t, run, committed, -⟩ :=
    syncAccounts_writes resyncProvider_steady resyncListings_answers ["acc"] written 0 []
  refine ⟨by decide, by decide, ?_⟩
  simp only [runJobs, Job.run, run, Res.world_ok, committed]
  decide

end CloudflareSync
