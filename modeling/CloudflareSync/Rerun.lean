import CloudflareSync.Integrity
import CloudflareSync.PoolLinking

/-!
# Running the pipeline twice

The pipeline of the two scripts is `sync_accounts`, then `sync_pools_for_zone` for every zone it
wrote. Against a provider that answers every repeated request the same way, a second run of the
pipeline does not leave the tables as the first run left them, for two reasons that hold of
every run:

* no statement of either script deletes a pool row or changes its id, its `lb_id` or its
  `cf_pool_id`, so every schedule of runs keeps every pool row it starts from
  (`Store.KeepsPools`, kept by both scripts);
* a `sync_zone` that returns has deleted the zone's load-balancer rows and inserted the fetched
  ones under ids at or above the AUTO_INCREMENT counter it started from
  (`syncZone_balancers_fresh`).

The second pool pass therefore finds no pool row keyed by the new `lb_id`, and inserts one beside
the first run's row. To run the pipeline on a concrete store, `Job.writes` gives what each job
commits against a steady environment as a function of the store, and `runJobs_writes` proves
that a schedule commits what these functions compute. `rerunPipeline_grows_pools` runs the
pipeline twice from an empty store: the first run leaves one pool row, the second two.
-/

set_option autoImplicit false

namespace CloudflareSync

/-! ## Pool rows are never dropped -/

namespace Store

/-- Every pool row of `rows` is still a row of the store, with its id, its `lb_id` and its
`cf_pool_id`. -/
def KeepsPools (rows : List (Row PoolCols)) (st : Store) : Prop :=
  ∀ p ∈ rows, ∃ q ∈ st.pools,
    q.id = p.id ∧ q.cols.lbId = p.cols.lbId ∧ q.cols.cfPoolId = p.cols.cfPoolId

theorem keepsPools_self (st : Store) : st.KeepsPools st.pools :=
  fun p member => ⟨p, member, rfl, rfl, rfl⟩

end Store

theorem keepsPools_zoneSafe (rows : List (Row PoolCols)) : ZoneSafe (Store.KeepsPools rows) where
  upsertAccount st _ _ _ kept := by
    simpa only [Store.KeepsPools, Store.upsertAccount_pools] using kept
  upsertZone st _ _ kept _ := by simpa only [Store.KeepsPools, Store.upsertZone_pools] using kept
  deleteRecords _ _ kept := kept
  insertRecords _ _ _ kept _ := kept
  deleteBalancers _ _ kept := kept
  insertBalancers _ _ _ kept _ := kept

/-- `UPDATE cloudflare_lb_pools` sets neither `lb_id` nor `cf_pool_id`, and the linker deletes
no pool row. -/
theorem keepsPools_linkerSafe (rows : List (Row PoolCols)) :
    LinkerSafe (Store.KeepsPools rows) where
  updatePool _ _ _ kept p member := by
    obtain ⟨q, qMember, same⟩ := kept p member
    refine ⟨_, List.mem_map_of_mem _ qMember, ?_⟩
    dsimp only
    split <;> exact same
  insertPool _ _ _ kept _ p member :=
    let ⟨q, qMember, same⟩ := kept p member
    ⟨q, List.mem_append_left _ qMember, same⟩
  deleteOrigins _ _ kept := kept
  insertOrigin _ _ _ kept _ := kept

/-! ## A re-synced zone's load balancers get new ids -/

/-- The load-balancer rows that a returning `sync_zone` leaves for its zone have ids at or above
the counter it started from. -/
theorem syncZone_balancers_fresh {c : CloudflareClient} {accountId : Nat} {zone : JVal}
    {env : Env} {s t : Sys Store SyncEvent} {w : ZoneSync}
    (h : syncZone c accountId zone env s = .ok w t) {b : Row BalancerCols}
    (member : b ∈ t.committed.balancers) (own : b.cols.zoneId = w.localId) :
    s.autoInc ≤ b.id := by
  obtain ⟨cols, rows, lbs, -, -, -, localIdEq, committed, -⟩ := syncZone_replaces h
  rw [committed] at member
  exact Store.replaceZone_balancers_fresh cols rows lbs member (own.trans localIdEq)

/-- **What a second run cannot undo.** Every schedule of runs of the two scripts, against any
provider and however each run ends, keeps every pool row of the store it starts from, with its
id, its `lb_id` and its `cf_pool_id`. After a `sync_zone` that returns, every load-balancer row
of the zone row the store then holds under the zone's `id` has an id at or above the counter
the sync started from. -/
theorem runJobs_keeps_pool_rows :
    (∀ (jobs : List Job) (db : Store) (n : Nat), (runJobs jobs (db, n)).1.KeepsPools db.pools) ∧
      ∀ (c : CloudflareClient) (accountId : Nat) (zone : JVal) (env : Env)
        (s t : Sys Store SyncEvent) (w : ZoneSync), syncZone c accountId zone env s = .ok w t →
        ∀ key z, zone.get "id" = .ok key → t.committed.zoneRow key = some z →
        ∀ b ∈ t.committed.balancers, b.cols.zoneId = z.id → s.autoInc ≤ b.id :=
  ⟨fun jobs db _ => runJobs_keeps jobs _
      (fun job _ => Job.run_keeps (keepsPools_zoneSafe db.pools) (keepsPools_linkerSafe db.pools)
        job)
      (Store.keepsPools_self db),
    fun _ _ _ _ _ _ _ h _ _ keyed row _ member own => by
      obtain ⟨_, synced⟩ := syncZone_zoneRow h keyed
      rw [synced, Option.some_inj] at row
      exact syncZone_balancers_fresh h member (own.trans (congrArg Row.id row).symm)⟩

/-- Re-syncing zone `z1` of `resyncStore`, whose counter stands at 7, inserts `lb1` under an id
of at least 7. -/
theorem runJobs_keeps_pool_rows_resync :
    ∃ w t, syncZone resyncClient 1 resyncZone resyncProvider (Sys.session resyncStore 7 0 []) =
      .ok w t ∧ ∀ z, t.committed.zoneRow (.str "z1") = some z →
        ∀ b ∈ t.committed.balancers, b.cols.zoneId = z.id → 7 ≤ b.id := by
  have written : syncZoneWrites resyncProvider.isoTimestamp resyncListings 1 resyncZone
      (resyncStore, 7) = .ok _ := rfl
  obtain ⟨w, t, h, -⟩ := (syncZone_writes resyncProvider_steady resyncListings_answers
    written).returns (s := Sys.session resyncStore 7 0 []) ⟨rfl, rfl, rfl⟩
  exact ⟨w, t, h, fun z => runJobs_keeps_pool_rows.2 _ _ _ _ _ _ _ h _ z rfl⟩

/-! ## A schedule against steady environments -/

namespace Job

/-- What a job commits against a steady environment, as a function of the store and counter it
starts from, with `l` what the provider of a `sync_accounts` job lists: `none` when a row
builder of `sync_accounts` raises. -/
def writes (l : Listings) : Job → Store × Nat → Option (Store × Nat)
  | accounts _ accountIds env, w =>
    match accountLoopWrites env.isoTimestamp l accountIds w with
    | .ok w' => some w'
    | .error _ => none
  | pools files order zoneId env, (db, n) =>
    some (linkerWrites files order zoneId env db n, linkerCounter files order zoneId env db n)

/-- The job's environment is steady, and its provider lists `l` when the job is a run of
`sync_accounts`. -/
def Steady (l : Listings) : Job → Prop
  | accounts c _ env => env.Steady ∧ l.Answers c env
  | pools _ _ _ env => env.Steady

/-- A job against a steady environment commits what `Job.writes` computes. -/
theorem run_writes (l : Listings) :
    ∀ (job : Job) (w w' : Store × Nat), job.Steady l → job.writes l w = some w' → job.run w = w'
  | accounts c accountIds env, (db, n), w', ⟨steady, answers⟩, written => by
    simp only [writes] at written
    split at written
    next loopWritten =>
      cases written
      obtain ⟨_, t, run, committed, autoInc⟩ :=
        syncAccounts_writes steady answers accountIds loopWritten 0 []
      simp only [Job.run, run, Res.world_ok, committed, autoInc]
    next => cases written
  | pools files order zoneId env, (db, n), w', steady, written => by
    simp only [writes, Option.some.injEq] at written
    subst written
    obtain ⟨t, run, committed, autoInc⟩ :=
      syncPoolsForZone_state steady files order zoneId db n 0 []
    simp only [Job.run, run, Res.world_ok, committed, autoInc]

end Job

/-- What a schedule commits against steady environments, job after job. -/
def runJobsWrites (l : Listings) : List Job → Store × Nat → Option (Store × Nat)
  | [], w => some w
  | job :: rest, w => (job.writes l w).bind (runJobsWrites l rest)

/-- A schedule of jobs against steady environments commits what `runJobsWrites` computes. -/
theorem runJobs_writes (l : Listings) :
    ∀ (jobs : List Job) (w w' : Store × Nat), (∀ job ∈ jobs, job.Steady l) →
      runJobsWrites l jobs w = some w' → runJobs jobs w = w'
  | [], _, _, _, written => Option.some.inj written
  | job :: rest, w, w', steady, written => by
    obtain ⟨w1, first, later⟩ := Option.bind_eq_some.mp written
    rw [runJobs, job.run_writes l w w1 (steady job (.head _)) first]
    exact runJobs_writes l rest w1 w' (fun other member => steady other (.tail _ member)) later

/-! ## The pipeline run twice -/

/-- The pipeline against `resyncProvider`: `sync_accounts` for account `acc`, then the linker for
the one zone it writes from an empty store, zone row 2. -/
def rerunPipeline : List Job :=
  [.accounts resyncClient ["acc"] resyncProvider, .pools poolCredentials .insertion 2 resyncProvider]

theorem rerunPipeline_steady : ∀ job ∈ rerunPipeline, job.Steady resyncListings
  | _, .head _ => ⟨resyncProvider_steady, resyncListings_answers⟩
  | _, .tail _ (.head _) => resyncProvider_steady

/-- **A second run of the pipeline adds a pool row.** Against the steady `resyncProvider`, the
pipeline run once from an empty store leaves one pool row. Run again, it re-inserts `lb1` under
a new id and links pool `p1` to it in a second row, beside the first run's row. -/
theorem rerunPipeline_grows_pools :
    resyncProvider.Steady ∧
      (runJobs rerunPipeline (⟨[], [], [], [], [], []⟩, 1)).1.pools.length = 1 ∧
      (runJobs (rerunPipeline ++ rerunPipeline) (⟨[], [], [], [], [], []⟩, 1)).1.pools.length =
        2 := by
  have once : runJobsWrites resyncListings rerunPipeline (⟨[], [], [], [], [], []⟩, 1) =
      some _ := rfl
  have twice : runJobsWrites resyncListings (rerunPipeline ++ rerunPipeline)
      (⟨[], [], [], [], [], []⟩, 1) = some _ := rfl
  rw [runJobs_writes resyncListings _ _ _ rerunPipeline_steady once,
    runJobs_writes resyncListings _ _ _ (fun job member =>
      (List.mem_append.mp member).elim (rerunPipeline_steady job) (rerunPipeline_steady job)) twice]
  exact ⟨resyncProvider_steady, by decide, by decide⟩

end CloudflareSync
