import CloudflareSync.Pools
import CloudflareSync.Spec

/-!
# What every run of the pool linker keeps

The pool linker writes four kinds of statement: the `UPDATE` of a pool row it found, the
`INSERT` of a pool row for a load balancer it read, the `DELETE` of a pool row's origins, and
the `INSERT` of an origin for the pool row it has just written. `LinkerSafe P` says that each
of them keeps the property `P` of the store, given exactly that much about its arguments.

For such a `P`, every run of `sync_pools_for_zone`, against any provider and any server,
keeps `P` of the committed store (`syncPoolsForZone_keeps`). The proof follows the run with one
world invariant, `Linking`: between the connection and the commit, the open transaction
satisfies `P` and holds the load balancers of the store it started from, and the committed
store has not moved. The same proof shows that a run which raises, or is cut off, commits
nothing: the only commit is the last statement of the `try` block.
-/

set_option autoImplicit false

namespace CloudflareSync

/-- A property of the store that each write of the pool linker keeps, given what the linker
knows when it makes the write: a pool row is inserted for a load balancer of the store, and an
origin row for a pool row of the store. -/
structure LinkerSafe (P : Store → Prop) : Prop where
  updatePool : ∀ st poolDbId cols, P st → P (st.updatePool poolDbId cols)
  insertPool : ∀ st cols n, P st → cols.lbId ∈ st.balancers.map Row.id →
    P (st.insertPool cols n).1
  deleteOrigins : ∀ st poolDbId, P st → P (st.deleteOrigins poolDbId)
  insertOrigin : ∀ st cols n, P st → cols.poolId ∈ st.pools.map Row.id →
    P (st.insertOrigin cols n).1

namespace Store

variable (st : Store)

@[simp] theorem updatePool_balancers (poolDbId : Nat) (cols : PoolCols) :
    (st.updatePool poolDbId cols).balancers = st.balancers := rfl
@[simp] theorem insertPool_balancers (cols : PoolCols) (n : Nat) :
    (st.insertPool cols n).1.balancers = st.balancers := rfl
@[simp] theorem deleteOrigins_balancers (poolDbId : Nat) :
    (st.deleteOrigins poolDbId).balancers = st.balancers := rfl
@[simp] theorem insertOrigin_balancers (cols : OriginCols) (n : Nat) :
    (st.insertOrigin cols n).1.balancers = st.balancers := rfl
@[simp] theorem deleteOrigins_pools (poolDbId : Nat) :
    (st.deleteOrigins poolDbId).pools = st.pools := rfl
@[simp] theorem insertOrigin_pools (cols : OriginCols) (n : Nat) :
    (st.insertOrigin cols n).1.pools = st.pools := rfl

/-- The pool `UPDATE` keeps every row's id. -/
@[simp] theorem updatePool_ids (poolDbId : Nat) (cols : PoolCols) :
    (st.updatePool poolDbId cols).pools.map Row.id = st.pools.map Row.id :=
  Row.map_ids (fun _ => by split <;> rfl) st.pools

/-- A pool found by the pair's `SELECT` is a row of the store. -/
theorem poolRowId_mem {lbId : Nat} {poolId : JVal} {poolDbId : Nat}
    (found : st.poolRowId lbId poolId = some poolDbId) : poolDbId ∈ st.pools.map Row.id := by
  obtain ⟨p, located, rfl⟩ := Option.map_eq_some'.mp found
  exact List.mem_map_of_mem _ (List.mem_of_find?_eq_some located)

end Store

theorem poolColumns_lbId {lbId : Nat} {poolId poolData : JVal} {cols : PoolCols}
    (built : poolColumns lbId poolId poolData = .ok cols) : cols.lbId = lbId := by
  simp only [poolColumns, bind, Except.bind, pure, Except.pure] at built
  repeat' split at built
  all_goals cases built
  rfl

theorem originColumns_poolId {poolDbId : Nat} {origin : JVal} {cols : OriginCols}
    (built : originColumns poolDbId origin = .ok cols) : cols.poolId = poolDbId := by
  simp only [originColumns, bind, Except.bind, pure, Except.pure] at built
  repeat' split at built
  all_goals cases built
  all_goals rfl

/-- A world of a linker run between the connection and the commit: the open transaction
satisfies `P` and holds the load balancers `B`, and the committed store is `C`. -/
def Linking (P : Store → Prop) (B : List (Row BalancerCols)) (C : Store)
    (s : Sys Store PoolEvent) : Prop :=
  P s.pending ∧ s.pending.balancers = B ∧ s.committed = C

/-- `parse_config_file` logs at most one line. -/
theorem parseConfigFile_and {env : Env} {Q : Sys Store PoolEvent → Prop}
    {abort : Option Exc → Sys Store PoolEvent → Prop}
    (keeps : ∀ s e, Q s → Q { s with log := s.log ++ [e] }) (files : String → Option RawConfig)
    (path : String) : Spec env Q (parseConfigFile files path) (fun _ => Q) abort := by
  unfold parseConfigFile
  cases files path with
  | none =>
    exact Spec.bind (Spec.emit fun s holds => keeps s _ holds) fun _ => Spec.pure fun _ h => h
  | some raw => exact Spec.pure fun _ h => h

section Linking

variable {P : Store → Prop} {env : Env} {B : List (Row BalancerCols)} {C : Store}

/-- A statement that keeps `P` and the load balancers, where the open transaction also
satisfies `Q`, keeps `Linking`; its result and new transaction come from a store with `Q`. -/
theorem execute_linking {α : Type} {table : String} {stmt : Store → Nat → Store × Nat × α}
    {Q : Store → Prop} (keeps : ∀ st n, P st → st.balancers = B → Q st → P (stmt st n).1)
    (lbs : ∀ st n, (stmt st n).1.balancers = st.balancers) :
    Spec env (fun s => Linking P B C s ∧ Q s.pending) (Py.execute table stmt)
      (fun a t => Linking P B C t ∧
        ∃ st n, Q st ∧ (stmt st n).1 = t.pending ∧ (stmt st n).2.2 = a)
      fun _ => Linking P B C :=
  Spec.execute fun _ ⟨⟨holds, balancers, committed⟩, q⟩ =>
    ⟨fun _ _ => ⟨holds, balancers, committed⟩,
      ⟨keeps _ _ holds balancers q, (lbs _ _).trans balancers, committed⟩, _, _, q, rfl, rfl⟩

/-- A log line keeps `Linking`. -/
theorem emit_linking {abort : Option Exc → Sys Store PoolEvent → Prop} (entry : PoolEvent) :
    Spec env (Linking P B C) (Py.emit entry) (fun _ => Linking P B C) abort :=
  Spec.emit fun _ holds => holds

variable (safe : LinkerSafe P)

include safe

theorem insertOrigins_linking (poolDbId : Nat) :
    ∀ origins : List JVal,
      Spec env (fun s => Linking P B C s ∧ poolDbId ∈ s.pending.pools.map Row.id)
        (insertOrigins poolDbId origins) (fun _ => Linking P B C) fun _ => Linking P B C
  | [] => Spec.pure fun _ h => h.1
  | origin :: rest => by
    rw [insertOrigins]
    refine Spec.bind (Spec.lift_pre fun _ _ h _ => h.1) fun cols => Spec.pure_pre fun built => ?_
    refine Spec.bind (execute_linking (Q := fun st => poolDbId ∈ st.pools.map Row.id)
      (fun st n holds _ known => safe.insertOrigin st cols n holds
        ((originColumns_poolId built).symm ▸ known)) fun _ _ => rfl) fun _ => ?_
    refine Spec.conseq (insertOrigins_linking poolDbId rest) ?_ (fun _ _ h => h) fun _ _ h => h
    rintro t ⟨holds, st, n, known, written, -⟩
    exact ⟨holds, by rw [← written]; exact known⟩

theorem upsertPool_linking (cols : PoolCols) (known : cols.lbId ∈ B.map Row.id)
    (existing : Option Nat) :
    Spec env
      (fun s => Linking P B C s ∧ ∀ id, existing = some id → id ∈ s.pending.pools.map Row.id)
      (upsertPool cols existing)
      (fun poolDbId t => Linking P B C t ∧ poolDbId ∈ t.pending.pools.map Row.id)
      fun _ => Linking P B C := by
  cases existing with
  | some poolDbId =>
    refine Spec.bind (Spec.conseq (execute_linking (Q := fun st => poolDbId ∈ st.pools.map Row.id)
      (fun st _ holds _ _ => safe.updatePool st poolDbId cols holds) fun _ _ => rfl)
      (fun _ ⟨holds, found⟩ => ⟨holds, found poolDbId rfl⟩) (fun _ _ h => h) fun _ _ h => h)
      fun _ => Spec.pure ?_
    rintro t ⟨holds, st, n, known, written, -⟩
    exact ⟨holds, by rw [← written]; simpa using known⟩
  | none =>
    refine Spec.conseq (execute_linking (Q := fun _ => True)
      (fun st n holds balancers _ => safe.insertPool st cols n holds (balancers ▸ known))
      fun _ _ => rfl) (fun s h => ⟨h.1, trivial⟩) ?_ fun _ _ h => h
    rintro _ t ⟨holds, st, n, -, written, result⟩
    exact ⟨holds, by rw [← written, ← result]; simp [Store.insertPool]⟩

theorem linkPool_linking (lbId : Nat) (known : lbId ∈ B.map Row.id) (poolId poolData : JVal) :
    Spec env (Linking P B C) (linkPool lbId poolId poolData) (fun _ => Linking P B C)
      fun _ => Linking P B C := by
  unfold linkPool
  refine Spec.bind (Spec.query_and fun _ h => h) fun existing => ?_
  refine Spec.bind (Spec.lift_pre fun _ _ h _ => h.1) fun cols => Spec.pure_pre fun built => ?_
  refine Spec.bind (Spec.conseq (upsertPool_linking safe cols
    ((poolColumns_lbId built).symm ▸ known) existing) (fun s ⟨holds, found⟩ => ⟨holds,
      fun id row => (found ▸ row : s.pending.poolRowId lbId poolId = some id) |>
        s.pending.poolRowId_mem⟩) (fun _ _ h => h) fun _ _ h => h) fun poolDbId => ?_
  refine Spec.bind (execute_linking (Q := fun st => poolDbId ∈ st.pools.map Row.id)
    (fun st _ holds _ _ => safe.deleteOrigins st poolDbId holds) fun _ _ => rfl) fun _ => ?_
  refine Spec.bind (Spec.lift_frame fun _ _ h => h.1) fun _ => ?_
  refine Spec.bind (Spec.lift_frame fun _ _ h => h.1) fun origins => ?_
  refine Spec.bind (Spec.conseq (insertOrigins_linking safe poolDbId origins) ?_
    (fun _ _ h => h) fun _ _ h => h) fun _ => Spec.pure fun _ h => h
  rintro t ⟨holds, st, n, known, written, -⟩
  exact ⟨holds, by rw [← written]; exact known⟩

theorem tryLink_linking (poolId poolData : JVal) (lbId : Nat) (known : lbId ∈ B.map Row.id)
    (text : JsonText) :
    Spec env (Linking P B C) (tryLink poolId poolData lbId text) (fun _ => Linking P B C)
      fun _ => Linking P B C := by
  unfold tryLink
  refine Spec.bind (Spec.lift_frame fun _ _ h => h) fun _ =>
    Spec.bind (Spec.lift_frame fun _ _ h => h) fun member => ?_
  split
  · exact Spec.bind (linkPool_linking safe lbId known poolId poolData) fun _ =>
      Spec.bind (emit_linking _) fun _ => Spec.pure fun _ h => h
  · exact Spec.pure fun _ h => h

theorem linkBalancer_linking (poolId poolData : JVal) (lb : Row BalancerCols)
    (known : lb.id ∈ B.map Row.id) :
    Spec env (Linking P B C) (linkBalancer poolId poolData lb) (fun _ => Linking P B C)
      fun _ => Linking P B C := by
  unfold linkBalancer
  split
  · exact Spec.pure fun _ h => h
  · split
    · exact Spec.tryExcept (tryLink_linking safe poolId poolData lb.id known _)
        (fun _ _ => Spec.pure fun _ h => h) fun _ _ h _ => h
    · exact Spec.pure fun _ h => h

theorem linkLoop_linking (poolId poolData : JVal) :
    ∀ lbs : List (Row BalancerCols), (∀ lb ∈ lbs, lb.id ∈ B.map Row.id) →
      Spec env (Linking P B C) (linkLoop poolId poolData lbs) (fun _ => Linking P B C)
        fun _ => Linking P B C
  | [], _ => Spec.pure fun _ h => h
  | lb :: lbs, known => by
    rw [linkLoop]
    refine Spec.bind (linkBalancer_linking safe poolId poolData lb (known lb (.head _)))
      fun linked => ?_
    split
    · exact Spec.pure fun _ h => h
    · exact linkLoop_linking poolId poolData lbs fun lb' mem => known lb' (.tail _ mem)

omit safe in
theorem cfRequest_linking (method path email apiKey : String) :
    Spec env (Linking P B C) (cfRequest method path email apiKey) (fun _ => Linking P B C)
      fun _ => Linking P B C := by
  intro s holds
  simp only [cfRequest, Py.run_bind, Py.run_http]
  rcases env.reply s.tick (cfHttpRequest method path email apiKey) with
    message | ⟨status, text, json⟩
  · exact holds
  · dsimp only
    cases readResponse status text json <;> exact holds

theorem poolLoop_linking (cfAccountId : JVal) (email apiKey : String)
    (lbs : List (Row BalancerCols)) (known : ∀ lb ∈ lbs, lb.id ∈ B.map Row.id) :
    ∀ (poolIds : List JVal) (synced : Nat),
      Spec env (Linking P B C) (poolLoop cfAccountId email apiKey lbs poolIds synced)
        (fun _ => Linking P B C) fun _ => Linking P B C
  | [], _ => Spec.pure fun _ h => h
  | poolId :: rest, synced => by
    rw [poolLoop]
    refine Spec.bind (emit_linking _) fun _ =>
      Spec.bind (cfRequest_linking _ _ _ _) fun poolData => ?_
    split
    · exact Spec.bind (emit_linking _) fun _ =>
        poolLoop_linking cfAccountId email apiKey lbs known rest synced
    · exact Spec.bind (linkLoop_linking safe poolId _ lbs known) fun _ =>
        poolLoop_linking cfAccountId email apiKey lbs known rest _

end Linking

section Runs

variable {P : Store → Prop} (safe : LinkerSafe P) {env : Env} {C : Store}

include safe

/-- The `try` block from a session on `C` with `P C`: its commit is its last statement, so a
return leaves `P` committed, and an exception or a cut-off leaves `C` committed. -/
theorem poolSync_keeps (kept : P C) (order : SetOrder) (zoneId : Int) (email apiKey : String) :
    Spec env (Linking P C.balancers C) (poolSync order zoneId email apiKey)
      (fun _ t => P t.committed) fun _ t => t.committed = C := by
  unfold poolSync
  have finished : ∀ entry : PoolEvent, Spec env (Linking P C.balancers C) (Py.emit entry)
      (fun _ t => P t.committed) fun _ t => t.committed = C := fun _ =>
    Spec.emit fun _ holds => holds.2.2 ▸ kept
  refine Spec.bind (Spec.conseq (Spec.query_and fun _ h => h) (fun _ h => h) (fun _ _ h => h.1)
    fun _ _ h => h.2.2) fun zoneRow => ?_
  rcases zoneRow with _ | ⟨localZoneId, zoneName, cfAccountId⟩
  · exact finished _
  refine Spec.bind (emit_linking _) fun _ => ?_
  refine Spec.bind (Spec.conseq (Spec.query_and fun _ h => h) (fun _ h => h)
    (fun lbs t ⟨holds, listed⟩ => (⟨holds, fun lb mem => List.mem_map_of_mem _
      (holds.2.1 ▸ (List.mem_filter.mp (listed ▸ mem : lb ∈ t.pending.balancerRows localZoneId)).1)⟩ :
      Linking P C.balancers C t ∧ ∀ lb ∈ lbs, lb.id ∈ C.balancers.map Row.id))
    fun _ _ h => h.2.2) fun lbs => Spec.pure_pre fun known => ?_
  split
  · exact finished _
  refine Spec.bind (emit_linking _) fun _ => ?_
  refine Spec.bind (Spec.conseq (poolLoop_linking safe cfAccountId email apiKey lbs known _ 0)
    (fun _ h => h) (fun _ _ h => h) fun _ _ h => h.2.2) fun _ => ?_
  exact Spec.bind (Spec.commit fun _ holds => ⟨fun _ _ => holds.2.2, holds.1⟩) fun _ =>
    Spec.emit fun _ h => h

omit safe in
/-- A connection attempt from a world committed at `C` with `P C`: a refusal moves nothing
that matters, and a fresh session starts the linker's invariant. -/
theorem connect_linking (kept : P C) (host : String) :
    Spec env (fun s : Sys Store PoolEvent => s.committed = C) (Py.connect host)
      (fun _ => Linking P C.balancers C) fun _ t => t.committed = C := by
  intro s committed
  simp only [Py.connect]
  split
  · exact committed
  · exact ⟨committed ▸ kept, by rw [committed], committed⟩

/-- **Every run of `sync_pools_for_zone` keeps `P` of the committed store**, for any `P` that
each write of the linker keeps, against any provider and any server. A run that raises or is
cut off commits nothing. -/
theorem syncPoolsForZone_keeps (kept : P C) (files : String → Option RawConfig)
    (order : SetOrder) (zoneId : Int) :
    Spec env (fun s => s.committed = C) (syncPoolsForZone files order zoneId)
      (fun _ t => P t.committed) fun _ t => t.committed = C := by
  unfold syncPoolsForZone
  refine Spec.bind (parseConfigFile_and (fun _ _ h => h) files _) fun _ => ?_
  dsimp only
  split
  · exact Spec.emit fun _ committed => committed ▸ kept
  refine Spec.bind (parseConfigFile_and (fun _ _ h => h) files _) fun _ =>
    Spec.bind (connect_linking kept _) fun _ => ?_
  exact Spec.tryFinally_close (poolSync_keeps safe kept order zoneId _ _) (fun _ _ h => h)
    fun _ _ h => h

end Runs


end CloudflareSync
