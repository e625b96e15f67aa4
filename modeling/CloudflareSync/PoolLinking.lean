import CloudflareSync.PoolSteady

/-!
# Which pairs the pool linker writes

The linking loop of `sync_pools_for_zone` fetches each pool once and then walks the zone's
load balancers until the first `break`. So a pool is linked to one load balancer only: the
first row, in the order the `SELECT` returns them, whose stored `default_pools` contains the
pool by Python's `in` (`firstTaker`). That test is `in` on whatever the text decodes to, so a
JSON string that contains the pool id as a substring, or a JSON object that has it as a key,
takes the pool as well, as long as another row's list put the id into `pool_ids`.

`linkPlan` says what a run writes in these terms, one pool after another: the pool row keyed
by the pair, upserted from the detail, and the pool's origins replaced by one row per origin
of the detail (`replacePair`). `syncPoolsForZone_links` proves that a run against a steady
environment commits exactly `linkPlan` when every fetched detail is well formed, and
`syncPoolsForZone_links_first_only` is a zone whose two load balancers both name one pool.
-/

set_option autoImplicit false

namespace CloudflareSync

/-! ## The plan -/

/-- The load balancer the linking loop stops at for pool `poolId`: the first row whose block
takes the pool. -/
def firstTaker (lbs : List (Row BalancerCols)) (poolId : JVal) : Option (Row BalancerCols) :=
  lbs.find? (takesPool · poolId)

/-- A multi-row `INSERT` of origins, numbered from `n`. -/
def Store.insertOriginRows (rows : List OriginCols) (st : Store) (n : Nat) : Store × Nat :=
  ({ st with origins := st.origins ++ numberFrom n rows }, n + rows.length)

/-- The write of a pair as the specification describes it: the pool row keyed by
`(lbId, poolId)` upserted with the columns of the detail, and the pool's origin rows replaced
by the rows of the detail's origins. A detail the row builders reject writes nothing. -/
def replacePair (lbId : Nat) (poolId poolData : JVal) (w : Store × Nat) : Store × Nat :=
  match poolColumns lbId poolId poolData, poolData.getD "origins" (.arr []) >>= JVal.iter with
  | .ok cols, .ok origins =>
    let upserted := upsertPoolWrite lbId poolId cols w
    let rows := origins.filterMap fun origin => (originColumns upserted.2 origin).toOption
    (upserted.1.1.deleteOrigins upserted.2).insertOriginRows rows upserted.1.2
  | _, _ => w

/-- The plan for the pools in the order the set yields them: a pool with a truthy detail and
a load balancer that takes it is written to that pair. -/
def planWrites (detail : JVal → Option JVal) (lbs : List (Row BalancerCols)) :
    List JVal → Store × Nat → Store × Nat
  | [], w => w
  | poolId :: rest, w =>
    match (detail poolId).filter JVal.truthy, firstTaker lbs poolId with
    | some poolData, some lb => planWrites detail lbs rest (replacePair lb.id poolId poolData w)
    | _, _ => planWrites detail lbs rest w

/-- What the plan writes for a run of `sync_pools_for_zone` on `db` with counter `n`. -/
def linkPlan (files : String → Option RawConfig) (order : SetOrder) (zoneId : Int) (env : Env)
    (db : Store) (n : Nat) : Store :=
  match cfCredentials files, db.zoneWithAccount zoneId with
  | some (email, apiKey), some (localZoneId, _, cfAccountId) =>
    let lbs := db.balancerRows localZoneId
    (planWrites (poolDetail env email apiKey cfAccountId) lbs
      (order.order (collectPoolIds [] lbs)) (db, n)).1
  | _, _ => db

/-- A detail whose pair block runs to its end: a dict whose `origin_steering`, when present,
is a dict, and whose `origins`, when present, is a list of dicts. -/
def detailWellFormed : JVal → Bool
  | .obj fields =>
    (match fields.lookup "origin_steering" with
      | some steering => steering.isDict
      | none => true) &&
    (match fields.lookup "origins" with
      | some (.arr origins) => origins.all JVal.isDict
      | some _ => false
      | none => true)
  | _ => false

/-! ## A well-formed detail is written in full -/

theorem poolColumns_ok {poolData : JVal} (wellFormed : detailWellFormed poolData = true)
    (lbId : Nat) (poolId : JVal) : ∃ cols, poolColumns lbId poolId poolData = .ok cols := by
  obtain _ | _ | _ | _ | _ | fields := poolData <;> simp only [detailWellFormed, Bool.false_eq_true, Bool.and_eq_true] at wellFormed
  cases steering : fields.lookup "origin_steering" with
  | none => simp [poolColumns, steering, bind, Except.bind, pure, Except.pure]
  | some steering' =>
    obtain _ | _ | _ | _ | _ | fs := steering' <;> simp_all [JVal.isDict, poolColumns, bind, Except.bind, pure, Except.pure]

theorem originColumns_ok {origin : JVal} (dict : origin.isDict = true) (poolDbId : Nat) :
    ∃ cols, originColumns poolDbId origin = .ok cols := by
  obtain _ | _ | _ | _ | _ | fields := origin <;> simp only [JVal.isDict, Bool.false_eq_true] at dict
  cases header : (fields.lookup "header").getD .null with
  | obj hs => simp [originColumns, header, bind, Except.bind, pure, Except.pure, JVal.isDict]
  | _ => simp [originColumns, header, bind, Except.bind, pure, Except.pure, JVal.isDict]

theorem origins_ok {poolData : JVal} (wellFormed : detailWellFormed poolData = true) :
    ∃ origins, poolData.getD "origins" (.arr []) >>= JVal.iter = .ok origins ∧
      origins.all JVal.isDict = true := by
  obtain _ | _ | _ | _ | _ | fields := poolData <;> simp only [detailWellFormed, Bool.false_eq_true, Bool.and_eq_true] at wellFormed
  cases listed : fields.lookup "origins" with
  | none => simp [listed, bind, Except.bind]
  | some origins =>
    obtain _ | _ | _ | _ | xs | _ := origins <;> simp_all [bind, Except.bind]

/-- Origins that are all dicts are all inserted. -/
theorem originWrites_dicts (poolDbId : Nat) :
    ∀ (origins : List JVal) (w : Store × Nat), origins.all JVal.isDict = true →
      originWrites poolDbId origins w = (w.1.insertOriginRows
        (origins.filterMap fun origin => (originColumns poolDbId origin).toOption) w.2, true)
  | [], (st, n) => fun _ => by simp [originWrites, Store.insertOriginRows]
  | origin :: rest, w => fun dicts => by
    simp only [List.all_cons, Bool.and_eq_true] at dicts
    obtain ⟨cols, built⟩ := originColumns_ok dicts.1 poolDbId
    simp [originWrites, built, originWrites_dicts poolDbId rest _ dicts.2, Store.insertOriginRows,
      Store.insertOrigin, numberFrom, Except.toOption]
    omega

/-- A well-formed detail runs its pair's block to the end, and the block writes `replacePair`. -/
theorem pairWrites_wellFormed {poolData : JVal} (wellFormed : detailWellFormed poolData = true)
    (lbId : Nat) (poolId : JVal) (w : Store × Nat) :
    (pairWrites lbId poolId poolData w).1 = replacePair lbId poolId poolData w ∧
      (pairWrites lbId poolId poolData w).2.isSome = true := by
  obtain ⟨cols, built⟩ := poolColumns_ok wellFormed lbId poolId
  obtain ⟨origins, listed, dicts⟩ := origins_ok wellFormed
  simp [pairWrites, replacePair, built, listed, originWrites_dicts _ origins _ dicts]

/-- With a well-formed detail, the loop over the load balancers writes the pair of the first
one that takes the pool, and breaks exactly when there is one. -/
theorem loopWrites_wellFormed {poolData : JVal} (wellFormed : detailWellFormed poolData = true)
    (poolId : JVal) :
    ∀ (lbs : List (Row BalancerCols)) (w : Store × Nat),
      loopWrites poolId poolData lbs w = match firstTaker lbs poolId with
        | some lb => (replacePair lb.id poolId poolData w, true)
        | none => (w, false)
  | [], w => rfl
  | lb :: lbs, w => by
    have pair := pairWrites_wellFormed wellFormed lb.id poolId w
    by_cases takes : takesPool lb poolId = true
    · simp [loopWrites, balancerWrites, takes, pair, firstTaker, List.find?_cons]
    · simpa [loopWrites, balancerWrites, takes, firstTaker, List.find?_cons] using
        loopWrites_wellFormed wellFormed poolId lbs w

/-- With well-formed details, the loop over the pool ids writes the plan. -/
theorem poolWrites_wellFormed (detail : JVal → Option JVal) (lbs : List (Row BalancerCols))
    (wellFormed : ∀ poolId poolData, (detail poolId).filter JVal.truthy = some poolData →
      detailWellFormed poolData = true) :
    ∀ (poolIds : List JVal) (w : Store × Nat),
      poolWrites detail lbs poolIds w = planWrites detail lbs poolIds w
  | [], w => rfl
  | poolId :: rest, w => by
    cases fetched : (detail poolId).filter JVal.truthy with
    | none => simp [poolWrites, planWrites, fetched, poolWrites_wellFormed detail lbs wellFormed rest]
    | some poolData =>
      have loop := loopWrites_wellFormed (wellFormed poolId poolData fetched) poolId lbs w
      cases taker : firstTaker lbs poolId <;>
        simp [poolWrites, planWrites, fetched, taker, loop,
          poolWrites_wellFormed detail lbs wellFormed rest]

/-! ## A steady run links each pool once -/

/-- **A run against a steady environment links each pool to the first load balancer that
takes it**, when every detail the provider gives is well formed: it returns, and commits
`linkPlan`. -/
theorem syncPoolsForZone_links {env : Env} (steady : env.Steady)
    (files : String → Option RawConfig) (order : SetOrder) (zoneId : Int) (db : Store)
    (n tick : Nat) (log : List PoolEvent)
    (wellFormed : ∀ req poolData, (env.reply 0 req).result = some poolData →
      poolData.truthy = true → detailWellFormed poolData = true) :
    ∃ t, syncPoolsForZone files order zoneId env (Sys.session db n tick log) = .ok () t ∧
      t.committed = linkPlan files order zoneId env db n := by
  obtain ⟨t, run, committed⟩ := syncPoolsForZone_steady steady files order zoneId db n tick log
  refine ⟨t, run, committed.trans ?_⟩
  simp only [linkerWrites, zoneWrites, linkPlan]
  rcases cfCredentials files with _ | ⟨email, apiKey⟩
  · rfl
  rcases db.zoneWithAccount zoneId with _ | ⟨localZoneId, _, cfAccountId⟩
  · rfl
  have details : ∀ poolId poolData,
      (poolDetail env email apiKey cfAccountId poolId).filter JVal.truthy = some poolData →
        detailWellFormed poolData = true := fun _ _ fetched => by
    obtain ⟨found, truthy⟩ := Option.filter_eq_some.mp fetched
    exact wellFormed _ _ found truthy
  by_cases empty : (db.balancerRows localZoneId).isEmpty = true
  · simp [List.isEmpty_iff.mp empty, collectPoolIds, (order.perm []).eq_nil, planWrites]
  · simp only [empty, poolWrites_wellFormed _ _ details]
    rfl

/-- Load-balancer columns of zone row 2 whose `default_pools` is the JSON value `pools`. -/
def balancerListing (name : String) (pools : JVal) : BalancerCols :=
  ⟨2, .str name, .str name, none, none, .null, some (.parses pools), .null, .null⟩

/-- Zone row 2 of account row 1, with load balancers 3 and 4 that both list pool `p1`. -/
def sharedPoolStore : Store :=
  ⟨[⟨1, ⟨.str "acc", .str "Acc"⟩⟩],
    [⟨2, ⟨1, .str "z1", .str "example.com", .str "active", false, .str "full", .str "Free"⟩⟩],
    [], [⟨3, balancerListing "lb1" (.arr [.str "p1"])⟩, ⟨4, balancerListing "lb2" (.arr [.str "p1"])⟩],
    [], []⟩

/-- A `cloudflare.ini` with an email and a key, and no `mydns.conf`. -/
def poolCredentials (path : String) : Option RawConfig :=
  if path = cloudflareIni then some [("email", "e"), ("api_key", "k")] else none

/-- A provider that answers every request with the detail of a pool `p1` without origins, and a
server that accepts everything. -/
def poolProvider : Env :=
  ⟨fun _ _ => .response 200 "" (some (.obj [("success", .bool true),
    ("result", .obj [("name", .str "p1"), ("origins", .arr [])])])),
    fun _ _ => none, fun _ => 0, fun _ _ _ => none, fun _ => none, 1⟩

theorem poolProvider_steady : poolProvider.Steady :=
  ⟨fun _ _ => rfl, fun _ _ _ => Reply.noConfusion, fun _ _ => rfl⟩

theorem syncPoolsForZone_links_sharedPool :
    ∃ t, syncPoolsForZone poolCredentials SetOrder.insertion 2 poolProvider
      (Sys.session sharedPoolStore 5 0 []) = .ok () t ∧
      t.committed = linkPlan poolCredentials SetOrder.insertion 2 poolProvider sharedPoolStore 5 :=
  syncPoolsForZone_links poolProvider_steady poolCredentials SetOrder.insertion 2 sharedPoolStore
    5 0 [] fun _ _ found _ => by
      cases Option.some.inj found
      decide

/-- Both load balancers list `p1`, and only load balancer 3 gets a pool row. -/
theorem syncPoolsForZone_links_first_only :
    ∃ t, syncPoolsForZone poolCredentials SetOrder.insertion 2 poolProvider
      (Sys.session sharedPoolStore 5 0 []) = .ok () t ∧
      t.committed.pools.map (fun p => (p.cols.lbId, p.cols.cfPoolId)) = [(3, .str "p1")] := by
  obtain ⟨t, run, committed⟩ := syncPoolsForZone_steady poolProvider_steady poolCredentials
    SetOrder.insertion 2 sharedPoolStore 5 0 []
  exact ⟨t, run, by rw [committed]; decide⟩

end CloudflareSync
