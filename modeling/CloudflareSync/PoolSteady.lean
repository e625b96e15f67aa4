import CloudflareSync.Pools
import CloudflareSync.Spec

/-!
# The pool linker against a steady environment

Against a server that accepts every statement and a provider that answers each pool request
the same way and never drops the connection (`Env.Steady`), a run of `sync_pools_for_zone`
has one outcome, and what it commits is a function of the store it starts on. This module
writes that function down statement by statement (`originWrites`, `pairWrites`,
`balancerWrites`, `loopWrites`, `poolWrites`) and proves that each part of the linker
computes it (`linkPool_steady` up to `syncPoolsForZone_steady`).

The functions keep what the source does with a malformed detail: the statements of a pair's
block that ran before the exception stay written (`pairWrites` returns the store at that
point and `none`), and the loop over the load balancers goes on to the next one.
-/

set_option autoImplicit false

namespace CloudflareSync

/-! ## What the statements write -/

/-- Whether the `in` test of the `try` block passes for pool `poolId` against the text of a
`default_pools` column. -/
def textTakes (text : JsonText) (poolId : JVal) : Bool :=
  match text.loads with
  | .ok poolList =>
    match poolList.contains poolId with
    | .ok member => member
    | .error _ => false
  | .error _ => false

/-- Whether the `try` block of load balancer `lb` reaches the statements for pool `poolId`: its
`default_pools` is truthy text that decodes to a value containing the pool by Python's `in`.
Text that is no JSON and an `in` that raises are swallowed before any statement. -/
def takesPool (lb : Row BalancerCols) (poolId : JVal) : Bool :=
  match lb.cols.defaultPools with
  | none => false
  | some text => text.truthy && textTakes text poolId

/-- The `UPDATE` of the pair's row when the `SELECT` finds one, or the `INSERT` of a new row:
the open transaction and counter after it, and the row's id. -/
def upsertPoolWrite (lbId : Nat) (poolId : JVal) (cols : PoolCols) (w : Store × Nat) :
    (Store × Nat) × Nat :=
  match w.1.poolRowId lbId poolId with
  | some poolDbId => ((w.1.updatePool poolDbId cols, w.2), poolDbId)
  | none => (((w.1.insertPool cols w.2).1, w.2 + 1), w.2)

/-- The origin `INSERT`s of `insertOrigins`: the rows of the origins before the first that
raises, and whether none raised. -/
def originWrites (poolDbId : Nat) : List JVal → Store × Nat → (Store × Nat) × Bool
  | [], w => (w, true)
  | origin :: rest, w =>
    match originColumns poolDbId origin with
    | .error _ => (w, false)
    | .ok cols => originWrites poolDbId rest ((w.1.insertOrigin cols w.2).1, w.2 + 1)

/-- The statements of `linkPool`: the store after the last one that ran, and the row's id and
origin count when the block ran to its end. -/
def pairWrites (lbId : Nat) (poolId poolData : JVal) (w : Store × Nat) :
    (Store × Nat) × Option (Nat × Nat) :=
  match poolColumns lbId poolId poolData with
  | .error _ => (w, none)
  | .ok cols =>
    let upserted := upsertPoolWrite lbId poolId cols w
    let cleared := (upserted.1.1.deleteOrigins upserted.2, upserted.1.2)
    match poolData.getD "origins" (.arr []) >>= JVal.iter with
    | .error _ => (cleared, none)
    | .ok origins =>
      let inserted := originWrites upserted.2 origins cleared
      (inserted.1, if inserted.2 then some (upserted.2, origins.length) else none)

/-- The block of one load balancer: the pair's statements when it takes the pool, and whether
it reached `break`. -/
def balancerWrites (poolId poolData : JVal) (lb : Row BalancerCols) (w : Store × Nat) :
    (Store × Nat) × Bool :=
  if takesPool lb poolId then
    let linked := pairWrites lb.id poolId poolData w
    (linked.1, linked.2.isSome)
  else (w, false)

/-- The loop over the load balancers for one pool, up to the first `break`. -/
def loopWrites (poolId poolData : JVal) : List (Row BalancerCols) → Store × Nat →
    (Store × Nat) × Bool
  | [], w => (w, false)
  | lb :: lbs, w =>
    let linked := balancerWrites poolId poolData lb w
    if linked.2 then linked else loopWrites poolId poolData lbs linked.1

/-- The loop over the pool ids, with `detail` the `result` each fetch gives: a pool whose
detail is missing or falsy is skipped. -/
def poolWrites (detail : JVal → Option JVal) (lbs : List (Row BalancerCols)) :
    List JVal → Store × Nat → Store × Nat
  | [], w => w
  | poolId :: rest, w =>
    match (detail poolId).filter JVal.truthy with
    | none => poolWrites detail lbs rest w
    | some poolData => poolWrites detail lbs rest (loopWrites poolId poolData lbs w).1

/-- The `result` the provider gives the fetch of pool `poolId` of account `cfAccountId`. -/
def poolDetail (env : Env) (email apiKey : String) (cfAccountId poolId : JVal) : Option JVal :=
  (env.reply 0 (cfHttpRequest "GET" (poolPath cfAccountId poolId) email apiKey)).result

/-- What the `try` block of `sync_pools_for_zone` commits against a steady environment, from
a session on `db` with counter `n`. -/
def zoneWrites (order : SetOrder) (zoneId : Int) (env : Env) (email apiKey : String) (db : Store)
    (n : Nat) : Store :=
  match db.zoneWithAccount zoneId with
  | none => db
  | some (localZoneId, _, cfAccountId) =>
    let lbs := db.balancerRows localZoneId
    if lbs.isEmpty then db
    else (poolWrites (poolDetail env email apiKey cfAccountId) lbs
      (order.order (collectPoolIds [] lbs)) (db, n)).1

/-- The email and key `get_cf_credentials` reads, when both are truthy. -/
def cfCredentials (files : String → Option RawConfig) : Option (String × String) :=
  let cf := (files cloudflareIni).getD []
  let email := cf.lookup "email"
  let apiKey := cf.lookup "api_key"
  if !strTruthy email || !strTruthy apiKey then none else some (email.getD "", apiKey.getD "")

/-- What a run of `sync_pools_for_zone` commits against a steady environment, from a session on
`db` with counter `n`. -/
def linkerWrites (files : String → Option RawConfig) (order : SetOrder) (zoneId : Int)
    (env : Env) (db : Store) (n : Nat) : Store :=
  match cfCredentials files with
  | none => db
  | some (email, apiKey) => zoneWrites order zoneId env email apiKey db n

/-- The AUTO_INCREMENT counter after the `try` block of `sync_pools_for_zone` against a
steady environment, from a session on `db` with counter `n`. -/
def zoneCounter (order : SetOrder) (zoneId : Int) (env : Env) (email apiKey : String)
    (db : Store) (n : Nat) : Nat :=
  match db.zoneWithAccount zoneId with
  | none => n
  | some (localZoneId, _, cfAccountId) =>
    let lbs := db.balancerRows localZoneId
    if lbs.isEmpty then n
    else (poolWrites (poolDetail env email apiKey cfAccountId) lbs
      (order.order (collectPoolIds [] lbs)) (db, n)).2

/-- The AUTO_INCREMENT counter after a run of `sync_pools_for_zone` against a steady
environment. -/
def linkerCounter (files : String → Option RawConfig) (order : SetOrder) (zoneId : Int)
    (env : Env) (db : Store) (n : Nat) : Nat :=
  match cfCredentials files with
  | none => n
  | some (email, apiKey) => zoneCounter order zoneId env email apiKey db n

/-! ## The linker computes them -/

/-- The world holds the open transaction and counter `w` over the committed store `c`. -/
def Holds (w : Store × Nat) (c : Store) (s : Sys Store PoolEvent) : Prop :=
  s.pending = w.1 ∧ s.autoInc = w.2 ∧ s.committed = c

/-- A log line keeps the database. -/
theorem emit_holds {env : Env} (entry : PoolEvent) (w : Store × Nat) (c : Store)
    {abort : Option Exc → Sys Store PoolEvent → Prop} :
    Spec env (Holds w c) (Py.emit entry) (fun _ => Holds w c) abort :=
  Spec.emit fun _ holds => holds

theorem parseConfigFile_holds {env : Env} (files : String → Option RawConfig) (path : String)
    (w : Store × Nat) (c : Store) {abort : Option Exc → Sys Store PoolEvent → Prop} :
    Spec env (Holds w c) (parseConfigFile files path)
      (fun raw t => Holds w c t ∧ raw = (files path).getD []) abort := by
  unfold parseConfigFile
  cases files path with
  | none => exact Spec.bind (emit_holds _ w c) fun _ => Spec.pure fun _ holds => ⟨holds, rfl⟩
  | some raw => exact Spec.pure fun _ holds => ⟨holds, rfl⟩

section Steady

variable {env : Env} (steady : env.Steady)

include steady

theorem insertOrigins_steady (poolDbId : Nat) (c : Store) :
    ∀ (origins : List JVal) (w : Store × Nat),
      Spec env (Holds w c) (insertOrigins poolDbId origins)
        (fun _ t => (originWrites poolDbId origins w).2 = true ∧
          Holds (originWrites poolDbId origins w).1 c t)
        fun o t => o.isSome ∧ (originWrites poolDbId origins w).2 = false ∧
          Holds (originWrites poolDbId origins w).1 c t
  | [], w => Spec.pure fun _ holds => ⟨rfl, holds⟩
  | origin :: rest, w => by
    intro s ⟨pending, autoInc, committed⟩
    cases built : originColumns poolDbId origin with
    | error e => simp [insertOrigins, originWrites, built, Holds, pending, autoInc, committed]
    | ok cols =>
      have next := insertOrigins_steady poolDbId c rest ((w.1.insertOrigin cols w.2).1, w.2 + 1)
      simp only [insertOrigins, originWrites, built, Py.run_bind, Py.run_lift_ok, Py.execute,
        steady.accepts]
      exact next _ ⟨by simp [pending, autoInc], by simp [Store.insertOrigin, autoInc], committed⟩

theorem query_holds {α : Type} (table : String) (read : Store → α) (w : Store × Nat) (c : Store)
    {abort : Option Exc → Sys Store PoolEvent → Prop} :
    Spec env (Holds w c) (Py.query table read) (fun a t => Holds w c t ∧ a = read w.1) abort :=
  Spec.execute_steady steady fun _ ⟨pending, autoInc, committed⟩ =>
    ⟨⟨pending, autoInc, committed⟩, by simp [pending]⟩

theorem update_holds (table : String) (f : Store → Store) (w : Store × Nat) (c : Store)
    {abort : Option Exc → Sys Store PoolEvent → Prop} :
    Spec env (Holds w c) (Py.update table f) (fun _ t => Holds (f w.1, w.2) c t) abort :=
  Spec.execute_steady steady fun _ ⟨pending, autoInc, committed⟩ =>
    ⟨by simp [pending], autoInc, committed⟩

theorem commit_holds (w : Store × Nat) (c : Store)
    {abort : Option Exc → Sys Store PoolEvent → Prop} :
    Spec env (Holds w c) (Py.commit : PoolM Unit) (fun _ t => t.committed = w.1 ∧ t.autoInc = w.2)
      abort :=
  Spec.commit_steady steady fun _ holds => ⟨holds.1, holds.2.1⟩

theorem upsertPool_steady (lbId : Nat) (poolId : JVal) (cols : PoolCols) (w : Store × Nat)
    (c : Store) {abort : Option Exc → Sys Store PoolEvent → Prop} :
    Spec env (Holds w c) (upsertPool cols (w.1.poolRowId lbId poolId))
      (fun poolDbId t => Holds (upsertPoolWrite lbId poolId cols w).1 c t ∧
        poolDbId = (upsertPoolWrite lbId poolId cols w).2) abort := by
  intro s ⟨pending, autoInc, committed⟩
  cases found : w.1.poolRowId lbId poolId with
  | none => simp [upsertPool, upsertPoolWrite, found, Py.execute, steady.accepts, Store.insertPool,
      Holds, pending, autoInc, committed]
  | some poolDbId => simp [upsertPool, upsertPoolWrite, found, Py.update, Py.execute,
      steady.accepts, Holds, pending, autoInc, committed]

theorem linkPool_steady (lbId : Nat) (poolId poolData : JVal) (w : Store × Nat) (c : Store) :
    Spec env (Holds w c) (linkPool lbId poolId poolData)
      (fun v t => (pairWrites lbId poolId poolData w).2 = some v ∧
        Holds (pairWrites lbId poolId poolData w).1 c t)
      fun o t => o.isSome ∧ (pairWrites lbId poolId poolData w).2 = none ∧
        Holds (pairWrites lbId poolId poolData w).1 c t := by
  unfold linkPool
  refine Spec.bind_known (query_holds steady _ _ w c) ?_
  refine Spec.bind (Spec.lift_pre fun e s holds built => ?_) fun cols => Spec.pure_pre fun built => ?_
  · simp_all [pairWrites]
  refine Spec.bind_known (upsertPool_steady steady lbId poolId cols w c) ?_
  refine Spec.bind (update_holds steady _ _ _ c) fun _ => ?_
  refine Spec.bind (Spec.lift_pre fun e s holds got => ?_) fun originsValue =>
    Spec.pure_pre fun got => ?_
  · simp_all [pairWrites, bind, Except.bind]
  refine Spec.bind (Spec.lift_pre fun e s holds iterated => ?_) fun origins =>
    Spec.pure_pre fun iterated => ?_
  · simp_all [pairWrites, bind, Except.bind]
  have written : poolData.getD "origins" (.arr []) >>= JVal.iter = .ok origins := by
    simp only [got, bind, Except.bind, iterated]
  refine Spec.bind (Spec.conseq (insertOrigins_steady steady _ c origins _) (fun _ h => h)
    (fun _ _ h => h) fun o t ⟨raised, failed, holds⟩ => ⟨raised, ?_, ?_⟩) fun _ =>
      Spec.pure fun t ⟨complete, holds⟩ => ⟨?_, ?_⟩
  all_goals simp_all [pairWrites, written]

theorem tryLink_steady (poolId poolData : JVal) (lbId : Nat) (text : JsonText)
    (w : Store × Nat) (c : Store) :
    let written : (Store × Nat) × Bool := if textTakes text poolId then
      ((pairWrites lbId poolId poolData w).1, (pairWrites lbId poolId poolData w).2.isSome)
      else (w, false)
    Spec env (Holds w c) (tryLink poolId poolData lbId text)
      (fun linked t => Holds written.1 c t ∧ linked = written.2)
      fun o t => o.isSome ∧ Holds written.1 c t ∧ written.2 = false := by
  intro written s holds
  have linked := linkPool_steady steady lbId poolId poolData w c s holds
  unfold tryLink
  cases loaded : text.loads with
  | error e => simp_all [written, textTakes]
  | ok poolList =>
    cases member : poolList.contains poolId with
    | error e => simp_all [written, textTakes]
    | ok found =>
      cases found with
      | false => simp_all [written, textTakes]
      | true =>
        simp only [loaded, member, Py.run_bind, Py.run_lift_ok, if_true]
        revert linked
        cases linkPool lbId poolId poolData env s with
        | ok v t => simp_all [written, textTakes, Holds]
        | error e t => simp_all [written, textTakes]
        | diverge t => simp

theorem linkBalancer_steady (poolId poolData : JVal) (lb : Row BalancerCols) (w : Store × Nat)
    (c : Store) :
    Spec env (Holds w c) (linkBalancer poolId poolData lb)
      (fun linked t => Holds (balancerWrites poolId poolData lb w).1 c t ∧
        linked = (balancerWrites poolId poolData lb w).2) fun _ _ => False := by
  unfold linkBalancer
  cases pools : lb.cols.defaultPools with
  | none => exact Spec.pure fun _ holds => by simpa [balancerWrites, takesPool, pools] using holds
  | some text =>
    by_cases truthy : text.truthy = true
    · have same : balancerWrites poolId poolData lb w = if textTakes text poolId then
          ((pairWrites lb.id poolId poolData w).1, (pairWrites lb.id poolId poolData w).2.isSome)
          else (w, false) := by
        simp only [balancerWrites, takesPool, pools, truthy, Bool.true_and]
      simp only [truthy, if_true, same]
      exact Spec.tryExcept (tryLink_steady steady poolId poolData lb.id text w c)
        (fun _ _ => Spec.pure fun _ ⟨_, holds, unlinked⟩ => ⟨holds, unlinked.symm⟩)
        fun o _ ⟨raised, _⟩ passes => by cases o <;> simp_all
    · simp only [truthy]
      exact Spec.pure fun _ holds => by simpa [balancerWrites, takesPool, pools, truthy] using holds

theorem linkLoop_steady (poolId poolData : JVal) (c : Store) :
    ∀ (lbs : List (Row BalancerCols)) (w : Store × Nat),
      Spec env (Holds w c) (linkLoop poolId poolData lbs)
        (fun linked t => Holds (loopWrites poolId poolData lbs w).1 c t ∧
          linked = (loopWrites poolId poolData lbs w).2) fun _ _ => False
  | [], w => Spec.pure fun _ holds => ⟨holds, rfl⟩
  | lb :: lbs, w => by
    rw [linkLoop]
    refine Spec.bind_known (linkBalancer_steady steady poolId poolData lb w c) ?_
    by_cases broke : (balancerWrites poolId poolData lb w).2 = true
    · simp only [broke, if_true]
      exact Spec.pure fun _ holds => by simp [loopWrites, broke, holds]
    · simp only [broke]
      simpa [loopWrites, broke] using linkLoop_steady poolId poolData c lbs _

theorem cfRequest_steady (method path email apiKey : String) (w : Store × Nat) (c : Store) :
    Spec env (Holds w c) (cfRequest method path email apiKey)
      (fun r t => Holds w c t ∧ r = (env.reply 0 (cfHttpRequest method path email apiKey)).result)
      fun _ _ => False := by
  intro s holds
  simp only [cfRequest, Py.run_bind, Py.run_http, steady.snapshot s.tick]
  cases reply : env.reply 0 (cfHttpRequest method path email apiKey) with
  | failed message => exact absurd reply (steady.reachable 0 _ message)
  | response status text json =>
    cases read : readResponse status text json <;>
      simp [read, Reply.result, Except.toOption, holds, Holds] <;> exact holds

theorem poolLoop_steady (cfAccountId : JVal) (email apiKey : String)
    (lbs : List (Row BalancerCols)) (c : Store) :
    ∀ (poolIds : List JVal) (synced : Nat) (w : Store × Nat),
      Spec env (Holds w c) (poolLoop cfAccountId email apiKey lbs poolIds synced)
        (fun _ t => Holds (poolWrites (poolDetail env email apiKey cfAccountId) lbs poolIds w) c t)
        fun _ _ => False
  | [], _, w => Spec.pure fun _ holds => holds
  | poolId :: rest, synced, w => by
    rw [poolLoop]
    refine Spec.bind (emit_holds _ w c) fun _ => ?_
    refine Spec.bind_known (cfRequest_steady steady _ _ _ _ w c) ?_
    cases detail : (poolDetail env email apiKey cfAccountId poolId).filter JVal.truthy with
    | none =>
      have skipped : (Reply.result (env.reply 0 (cfHttpRequest "GET" (poolPath cfAccountId poolId)
          email apiKey))).filter JVal.truthy = none := detail
      simp only [skipped]
      refine Spec.bind (emit_holds _ w c) fun _ => ?_
      simpa [poolWrites, detail] using poolLoop_steady cfAccountId email apiKey lbs c rest synced w
    | some poolData =>
      have found : (Reply.result (env.reply 0 (cfHttpRequest "GET" (poolPath cfAccountId poolId)
          email apiKey))).filter JVal.truthy = some poolData := detail
      simp only [found]
      refine Spec.bind (linkLoop_steady steady poolId poolData c lbs w) fun linked =>
        Spec.conseq (poolLoop_steady cfAccountId email apiKey lbs c rest _ _) (fun _ h => h.1)
          (fun _ _ h => by simpa [poolWrites, detail] using h) fun _ _ h => h

theorem poolSync_steady (order : SetOrder) (zoneId : Int) (email apiKey : String) (db : Store)
    (n : Nat) :
    Spec env (Holds (db, n) db) (poolSync order zoneId email apiKey)
      (fun _ t => t.committed = zoneWrites order zoneId env email apiKey db n ∧
        t.autoInc = zoneCounter order zoneId env email apiKey db n) fun _ _ => False := by
  unfold poolSync
  refine Spec.bind_known (query_holds steady _ _ _ db) ?_
  cases zone : db.zoneWithAccount zoneId with
  | none =>
    exact Spec.conseq (emit_holds _ _ _) (fun _ h => h)
      (fun _ _ holds => by simp [zoneWrites, zoneCounter, zone, holds.2.2, holds.2.1])
      fun _ _ h => h
  | some row =>
    obtain ⟨localZoneId, zoneName, cfAccountId⟩ := row
    refine Spec.bind (emit_holds _ _ _) fun _ => ?_
    refine Spec.bind_known (query_holds steady _ _ _ db) ?_
    by_cases empty : (db.balancerRows localZoneId).isEmpty = true
    · simp only [empty, if_true]
      exact Spec.conseq (emit_holds _ _ _) (fun _ h => h)
        (fun _ _ holds => by simp [zoneWrites, zoneCounter, zone, empty, holds.2.2, holds.2.1])
        fun _ _ h => h
    · simp only [empty]
      refine Spec.bind (emit_holds _ _ _) fun _ => ?_
      refine Spec.bind (poolLoop_steady steady cfAccountId email apiKey _ db _ 0 (db, n))
        fun synced => Spec.bind (commit_holds steady _ db) fun _ => Spec.emit fun t committed => ?_
      simp [zoneWrites, zoneCounter, zone, empty, committed]

/-- Against a steady environment a run returns, and commits `linkerWrites` with the counter at
`linkerCounter`. -/
theorem syncPoolsForZone_state (files : String → Option RawConfig) (order : SetOrder)
    (zoneId : Int) (db : Store) (n tick : Nat) (log : List PoolEvent) :
    ∃ t, syncPoolsForZone files order zoneId env (Sys.session db n tick log) = .ok () t ∧
      t.committed = linkerWrites files order zoneId env db n ∧
      t.autoInc = linkerCounter files order zoneId env db n := by
  have run : Spec env (Holds (db, n) db) (syncPoolsForZone files order zoneId)
      (fun _ t => t.committed = linkerWrites files order zoneId env db n ∧
        t.autoInc = linkerCounter files order zoneId env db n) fun _ _ => False := by
    unfold syncPoolsForZone
    refine Spec.bind_known (parseConfigFile_holds files _ _ db) ?_
    by_cases missing : (!strTruthy (((files cloudflareIni).getD []).lookup "email") ||
        !strTruthy (((files cloudflareIni).getD []).lookup "api_key")) = true
    · simp only [missing, if_true]
      exact Spec.conseq (emit_holds _ _ _) (fun _ h => h)
        (fun _ _ holds => by
          simp [linkerWrites, linkerCounter, cfCredentials, missing, holds.2.2, holds.2.1])
        fun _ _ h => h
    · simp only [missing]
      refine Spec.bind (parseConfigFile_holds files _ _ db) fun _ => ?_
      refine Spec.bind (Spec.connect_steady steady fun t holds => ?_) fun _ =>
        Spec.tryFinally_close (Spec.conseq (poolSync_steady steady order zoneId _ _ db n)
          (fun _ h => h) (fun _ _ h => ?_) fun _ _ h => h) (fun _ _ h => h) fun _ _ h => h
      · exact ⟨holds.1.2.2, holds.1.2.1, holds.1.2.2⟩
      · simp only [linkerWrites, linkerCounter, cfCredentials, missing]
        simpa using h
  obtain ⟨_, t, ran, written⟩ := run.returns (s := Sys.session db n tick log) ⟨rfl, rfl, rfl⟩
  exact ⟨t, ran, written⟩

/-- **Against a steady environment a run returns, and commits `linkerWrites`.** -/
theorem syncPoolsForZone_steady (files : String → Option RawConfig) (order : SetOrder)
    (zoneId : Int) (db : Store) (n tick : Nat) (log : List PoolEvent) :
    ∃ t, syncPoolsForZone files order zoneId env (Sys.session db n tick log) = .ok () t ∧
      t.committed = linkerWrites files order zoneId env db n :=
  let ⟨t, run, committed, _⟩ := syncPoolsForZone_state steady files order zoneId db n tick log
  ⟨t, run, committed⟩

end Steady

end CloudflareSync