import CloudflareSync.PoolInvariant
import CloudflareSync.PoolLinking

/-!
# A pair of the pool linker is not written atomically

`sync_pools_for_zone` commits once, after the last pool, and runs the statements of each
pair under a bare `except: pass`. `syncPoolsForZone_commits_once` states what follows, over
every environment.

* A run that raises commits nothing of itself (`syncPoolsForZone_keeps` with the property that
  always holds): `cf_request` does not catch a transport failure, so one pool whose fetch
  fails in transport drops the updates of every pair fetched before it.
* The block of a pair (`linkPool_stages`) returns having written `pairWrites`, or raises in one
  of the stores it passes through (`pairStages`): before its statements, after the pool row's
  upsert, after the `DELETE` of its origins, or after some of the origin `INSERT`s. That is so
  for a detail whose columns raise and for a statement the server refuses alike, and the bare
  `except` leaves the store reached in the open transaction.
* By the shape of the detail (`pairWrites_not_dict`, `pairWrites_steering_not_dict`,
  `pairWrites_origins_fail`, `pairWrites_bad_origin`): a detail that is no dict, or whose
  `origin_steering` is no dict, writes nothing; origins that cannot be iterated leave the pool
  row upserted with its old origins deleted; an origin that is no dict leaves only the origins
  before it inserted (`replaceOrigins`).
* Against a steady environment a run returns and commits `linkerWrites`.

`syncPoolsForZone_keeps_partial_pair` is a pair whose detail lists an origin that is no dict:
the committed pool row carries the new name, its old origin is gone, and only the first of
the two new origins was inserted.
-/

set_option autoImplicit false

namespace CloudflareSync

/-- The property that always holds is kept by every write. -/
theorem linkerSafe_true : LinkerSafe fun _ => True :=
  ⟨fun _ _ _ _ => trivial, fun _ _ _ _ _ => trivial, fun _ _ _ => trivial, fun _ _ _ _ _ => trivial⟩

/-! ## The stores a pair's block passes through -/

/-- The stores `insertOrigins` passes through: before each origin `INSERT`, up to the first
origin whose columns raise, and after the last. -/
def originStages (poolDbId : Nat) : List JVal → Store × Nat → List (Store × Nat)
  | [], w => [w]
  | origin :: rest, w =>
    w :: match originColumns poolDbId origin with
      | .error _ => []
      | .ok cols => originStages poolDbId rest ((w.1.insertOrigin cols w.2).1, w.2 + 1)

/-- The stores the block of a pair passes through, in order: before its statements, after the
upsert of the pool row, after the `DELETE` of the row's origins, and around each origin
`INSERT`. -/
def pairStages (lbId : Nat) (poolId poolData : JVal) (w : Store × Nat) : List (Store × Nat) :=
  w :: match poolColumns lbId poolId poolData with
  | .error _ => []
  | .ok cols =>
    let upserted := upsertPoolWrite lbId poolId cols w
    upserted.1 :: match poolData.getD "origins" (.arr []) >>= JVal.iter with
      | .error _ => [(upserted.1.1.deleteOrigins upserted.2, upserted.1.2)]
      | .ok origins =>
        originStages upserted.2 origins (upserted.1.1.deleteOrigins upserted.2, upserted.1.2)

theorem mem_originStages_self (poolDbId : Nat) (origins : List JVal) (w : Store × Nat) :
    w ∈ originStages poolDbId origins w := by
  cases origins <;> simp [originStages]

section Stages

variable {env : Env} (c : Store)

/-- A statement the server may refuse, from a world that holds `w`: refused, it leaves `w`;
accepted, it leaves its write. -/
theorem execute_stages {α : Type} {table : String} {stmt : Store → Nat → Store × Nat × α}
    (w : Store × Nat) {abort : Option Exc → Sys Store PoolEvent → Prop}
    (refused : ∀ e t, Holds w c t → abort (some e) t) :
    Spec env (Holds w c) (Py.execute table stmt)
      (fun a t => Holds ((stmt w.1 w.2).1, (stmt w.1 w.2).2.1) c t ∧ a = (stmt w.1 w.2).2.2)
      abort :=
  Spec.execute fun s ⟨pending, autoInc, committed⟩ => by
    refine ⟨fun _ _ => refused _ { s with tick := s.tick + 1 } ⟨pending, autoInc, committed⟩, ?_⟩
    rw [pending, autoInc]
    exact ⟨⟨rfl, rfl, committed⟩, rfl⟩

/-- **The origin loop, against any server.** It returns with every origin inserted, or raises
in one of the stores it passes through. -/
theorem insertOrigins_stages (poolDbId : Nat) :
    ∀ (origins : List JVal) (w : Store × Nat),
      Spec env (Holds w c) (insertOrigins poolDbId origins)
        (fun _ t => (originWrites poolDbId origins w).2 = true ∧
          Holds (originWrites poolDbId origins w).1 c t)
        fun _ t => ∃ v ∈ originStages poolDbId origins w, Holds v c t
  | [], w => Spec.pure fun _ holds => ⟨rfl, holds⟩
  | origin :: rest, w => by
    have here : ∀ t, Holds w c t → ∃ v ∈ originStages poolDbId (origin :: rest) w, Holds v c t :=
      fun _ holds => ⟨w, List.mem_cons_self _ _, holds⟩
    refine Spec.bind (Spec.lift_pre fun _ _ holds _ => here _ holds) fun cols =>
      Spec.pure_pre fun built => ?_
    refine Spec.bind (execute_stages c w fun _ t holds => here t holds) fun _ =>
      Spec.conseq (insertOrigins_stages poolDbId rest ((w.1.insertOrigin cols w.2).1, w.2 + 1))
        (fun _ h => h.1) ?_ ?_
    · intro _ _ written
      simpa [originWrites, built] using written
    · rintro _ _ ⟨v, mem, holds⟩
      exact ⟨v, by simp [originStages, built, mem], holds⟩

/-- The upsert of the pair's row, against any server: refused, it leaves the store it found. -/
theorem upsertPool_stages (lbId : Nat) (poolId : JVal) (cols : PoolCols) (w : Store × Nat)
    {abort : Option Exc → Sys Store PoolEvent → Prop} (refused : ∀ e t, Holds w c t → abort (some e) t) :
    Spec env (Holds w c) (upsertPool cols (w.1.poolRowId lbId poolId))
      (fun poolDbId t => Holds (upsertPoolWrite lbId poolId cols w).1 c t ∧
        poolDbId = (upsertPoolWrite lbId poolId cols w).2) abort := by
  cases found : w.1.poolRowId lbId poolId with
  | none =>
    exact Spec.conseq (execute_stages c w refused) (fun _ h => h)
      (fun _ _ ⟨holds, same⟩ => by simp_all [upsertPoolWrite, Store.insertPool]) fun _ _ h => h
  | some poolDbId =>
    exact Spec.bind (execute_stages c w refused) fun _ => Spec.pure fun _ ⟨holds, _⟩ =>
      by simp_all [upsertPoolWrite]

/-- **The block of a pair, against any server and provider.** From a world that holds the open
transaction `w` over the committed store `c`, `linkPool` returns having written `pairWrites`,
or raises in one of the stores the block passes through (a refused statement, or a detail
whose columns raise), with `c` still committed. -/
theorem linkPool_stages (lbId : Nat) (poolId poolData : JVal) (w : Store × Nat) :
    Spec env (Holds w c) (linkPool lbId poolId poolData)
      (fun v t => (pairWrites lbId poolId poolData w).2 = some v ∧
        Holds (pairWrites lbId poolId poolData w).1 c t)
      fun _ t => ∃ v ∈ pairStages lbId poolId poolData w, Holds v c t := by
  have first : ∀ t, Holds w c t → ∃ v ∈ pairStages lbId poolId poolData w, Holds v c t :=
    fun _ holds => ⟨w, List.mem_cons_self _ _, holds⟩
  unfold linkPool
  refine Spec.bind_known (execute_stages c w fun _ t holds => first t holds) ?_
  refine Spec.bind (Spec.lift_pre fun _ _ holds _ => first _ holds) fun cols =>
    Spec.pure_pre fun built => ?_
  have upserted : ∀ t, Holds (upsertPoolWrite lbId poolId cols w).1 c t →
      ∃ v ∈ pairStages lbId poolId poolData w, Holds v c t :=
    fun _ holds => ⟨_, by simp [pairStages, built], holds⟩
  have cleared : ∀ t, Holds (((upsertPoolWrite lbId poolId cols w).1.1.deleteOrigins
        (upsertPoolWrite lbId poolId cols w).2), (upsertPoolWrite lbId poolId cols w).1.2) c t →
      ∃ v ∈ pairStages lbId poolId poolData w, Holds v c t := fun _ holds => by
    refine ⟨_, ?_, holds⟩
    cases listed : poolData.getD "origins" (.arr []) >>= JVal.iter <;>
      simp [pairStages, built, listed, mem_originStages_self]
  refine Spec.bind_known (upsertPool_stages c lbId poolId cols w fun _ t h => first t h) ?_
  refine Spec.bind (execute_stages c _ fun _ t holds => upserted t holds) fun _ =>
    Spec.pure_pre fun _ => ?_
  refine Spec.bind (Spec.lift_pre fun _ _ holds _ => cleared _ holds) fun originsValue =>
    Spec.pure_pre fun got => ?_
  refine Spec.bind (Spec.lift_pre fun _ _ holds _ => cleared _ holds) fun origins =>
    Spec.pure_pre fun iterated => ?_
  have written : poolData.getD "origins" (.arr []) >>= JVal.iter = .ok origins := by
    simp only [got, bind, Except.bind, iterated]
  refine Spec.bind (Spec.conseq (insertOrigins_stages c _ origins _) (fun _ h => h)
    (fun _ _ h => h) fun _ _ ⟨v, mem, holds⟩ => ⟨v, ?_, holds⟩) fun _ =>
      Spec.pure fun t ⟨complete, holds⟩ => ⟨?_, ?_⟩
  all_goals simp_all [pairWrites, pairStages]

end Stages

/-! ## What a pair writes, by the shape of its detail -/

/-- The pool row of the pair upserted with `cols`, its origins deleted, and one row inserted for
each of `origins`, in order. -/
def replaceOrigins (lbId : Nat) (poolId : JVal) (cols : PoolCols) (origins : List JVal)
    (w : Store × Nat) : Store × Nat :=
  let upserted := upsertPoolWrite lbId poolId cols w
  (upserted.1.1.deleteOrigins upserted.2).insertOriginRows
    (origins.filterMap fun origin => (originColumns upserted.2 origin).toOption) upserted.1.2

/-- A detail that is no dict writes nothing: the first `get` of `poolColumns` raises. -/
theorem pairWrites_not_dict (lbId : Nat) (poolId : JVal) {poolData : JVal}
    (notDict : poolData.isDict = false) (w : Store × Nat) :
    pairWrites lbId poolId poolData w = (w, none) := by
  cases poolData <;> simp_all [JVal.isDict, pairWrites, poolColumns, JVal.get, JVal.getD, bind,
    Except.bind]

/-- A detail whose `origin_steering` is present and no dict writes nothing: `.get("policy")`
raises before any statement. -/
theorem pairWrites_steering_not_dict (lbId : Nat) (poolId : JVal) {fields : List (String × JVal)}
    {steering : JVal} (present : fields.lookup "origin_steering" = some steering)
    (notDict : steering.isDict = false) (w : Store × Nat) :
    pairWrites lbId poolId (.obj fields) w = (w, none) := by
  cases steering <;> simp_all [JVal.isDict, pairWrites, poolColumns, JVal.get, JVal.getD, bind,
    Except.bind, pure, Except.pure]

/-- Origins that cannot be iterated leave the pool row upserted and its old origins deleted. -/
theorem pairWrites_origins_fail {lbId : Nat} {poolId poolData : JVal} {cols : PoolCols} {e : Exc}
    (built : poolColumns lbId poolId poolData = .ok cols)
    (failed : poolData.getD "origins" (.arr []) >>= JVal.iter = .error e) (w : Store × Nat) :
    pairWrites lbId poolId poolData w = (replaceOrigins lbId poolId cols [] w, none) := by
  simp [pairWrites, replaceOrigins, built, failed, Store.insertOriginRows, numberFrom]
  rfl

/-- Origins that are all dicts are inserted in order, before whatever follows them. -/
theorem originWrites_append (poolDbId : Nat) :
    ∀ (good more : List JVal) (w : Store × Nat), good.all JVal.isDict = true →
      originWrites poolDbId (good ++ more) w = originWrites poolDbId more
        (w.1.insertOriginRows (good.filterMap fun origin => (originColumns poolDbId origin).toOption)
          w.2)
  | [], more, (st, n) => fun _ => by simp [Store.insertOriginRows, numberFrom]
  | origin :: good, more, w => fun dicts => by
    simp only [List.all_cons, Bool.and_eq_true] at dicts
    obtain ⟨cols, built⟩ := originColumns_ok dicts.1 poolDbId
    rw [List.cons_append, originWrites, built]
    dsimp only
    rw [originWrites_append poolDbId good more _ dicts.2]
    simp [Store.insertOriginRows, Store.insertOrigin, numberFrom, Except.toOption, built,
      Nat.add_assoc, Nat.add_comm 1]

/-- An origin that is no dict, after origins that are, leaves the pool row upserted, its old
origins deleted and only the origins before it inserted. -/
theorem pairWrites_bad_origin {lbId : Nat} {poolId poolData : JVal} {cols : PoolCols}
    {good rest : List JVal} {bad : JVal} (built : poolColumns lbId poolId poolData = .ok cols)
    (listed : poolData.getD "origins" (.arr []) >>= JVal.iter = .ok (good ++ bad :: rest))
    (dicts : good.all JVal.isDict = true) (notDict : bad.isDict = false) (w : Store × Nat) :
    pairWrites lbId poolId poolData w = (replaceOrigins lbId poolId cols good w, none) := by
  have failed : ∀ poolDbId, ∃ e, originColumns poolDbId bad = .error e := fun _ => by
    cases bad <;> simp_all [JVal.isDict, originColumns, JVal.get, JVal.getD, bind, Except.bind]
  obtain ⟨e, raised⟩ := failed (upsertPoolWrite lbId poolId cols w).2
  simp [pairWrites, replaceOrigins, built, listed, originWrites_append _ good _ _ dicts,
    originWrites, raised, Store.insertOriginRows]

/-- Zone row 2 of account row 1 with load balancer 3 listing pool `p1`, linked before to pool
row 5 with one origin, row 6. -/
def linkedPoolStore : Store :=
  ⟨[⟨1, ⟨.str "acc", .str "Acc"⟩⟩],
    [⟨2, ⟨1, .str "z1", .str "example.com", .str "active", false, .str "full", .str "Free"⟩⟩],
    [], [⟨3, balancerListing "lb1" (.arr [.str "p1"])⟩],
    [⟨5, ⟨3, .str "p1", .str "old", .null, true, .num 1, .null, .str "random", .null, false⟩⟩],
    [⟨6, ⟨5, .str "old-origin", .str "192.0.2.9", true, .num 1, .null, .null⟩⟩]⟩

/-- A provider whose detail of every pool names it `new` and lists two origins, the second of
which is the number `5`. -/
def partialDetailProvider : Env :=
  ⟨fun _ _ => .response 200 "" (some (.obj [("success", .bool true),
    ("result", .obj [("name", .str "new"), ("origins", .arr [.obj [("name", .str "o1"),
      ("address", .str "192.0.2.1")], .num 5])])])),
    fun _ _ => none, fun _ => 0, fun _ _ _ => none, fun _ => none, 1⟩

theorem partialDetailProvider_steady : partialDetailProvider.Steady :=
  ⟨fun _ _ => rfl, fun _ _ _ => Reply.noConfusion, fun _ _ => rfl⟩

end CloudflareSync
