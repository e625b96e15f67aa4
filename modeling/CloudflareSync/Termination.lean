import CloudflareSync.Pagination
import CloudflareSync.HostFailover
import CloudflareSync.Records
import CloudflareSync.UserFrame

/-!
# Every run of the two engines returns

The only loop of the scripts that is not a `for` over a list is the `while True` of
`paginated_get`, which stops at the first page whose `total_pages` is falsy or at most the page
number. The model follows at most `env.fuel` pages and is cut off as diverging past them. A
provider is *paged* (`Env.Paged`) when no page it answers asks for a page at or past `fuel`;
then the page loop stops within its fuel (`pageLoop_ends`), since its invariant ties the page
it is at to the fuel it has left.

Every other statement of the engines ends, and so does every program built from ending ones
(`Py.Ends` in `Runtime`). The account sync of the multi-user engine is in every class of
programs closed under its statements (`syncCloudflareAccount_mem`), and the programs that end
under a paged provider form one (`endsClass`). From these, by one step per loop, every run of
`main` of `sync_cloudflare_records.py` (`main_ends`) and of
`sync_cloudflare_records_multi_user.py` (`userMain_ends`) returns or raises.
-/

set_option autoImplicit false

namespace CloudflareSync

/-- The provider never asks for more pages than the model follows: an answered page whose
reads say that the loop goes on is a page below `fuel`. -/
structure Env.Paged (env : Env) : Prop where
  fuel_pos : 0 < env.fuel
  within : ∀ {tick : Nat} {req : Request} {status : Nat} {text : String} {body : JVal}
    {page : Nat} {batch : List JVal}, env.reply tick req = .response status text (some body) →
    CloudflareClient.readPage body page = .ok (batch, false) → page < env.fuel

variable {env : Env} {σ ε : Type}

/-! ## The listings -/

namespace CloudflareClient

variable (c : CloudflareClient)

theorem request_ends (method path : String) (params : List (String × String)) :
    Py.Ends env (c.request method path params : Py σ ε JVal) := by
  refine Py.Ends.bind (Py.Ends.http _) fun reply => ?_
  rcases reply with _ | ⟨status, text, _ | decoded⟩
  · exact Py.Ends.raise _
  · exact Py.Ends.raise _
  · refine Py.Ends.bind (Py.Ends.lift _) fun bad => ?_
    split
    · exact Py.Ends.bind (Py.Ends.lift _) fun _ => Py.Ends.raise _
    · exact Py.Ends.pure _

variable (paged : env.Paged) (path : String) (params : List (String × String)) (perPage : Nat)

include paged

/-- **The page loop stops within its fuel.** At page `page` with `fuel` passes left, where the
two add up past the provider's bound and the page is within it, the loop returns or raises: a
page that lets it go on is below the bound, so the next page is within it too. -/
theorem pageLoop_ends : ∀ (fuel page : Nat) (results : List JVal),
    env.fuel < page + fuel → page ≤ env.fuel →
      Py.Ends env (c.pageLoop path params perPage fuel page results : Py σ ε (List JVal))
  | 0, _, _, covered, within => absurd covered (by omega)
  | fuel + 1, page, results, covered, within => fun s t => by
    have first := c.request_outcome env "GET" path (pageParams page perPage params) s
    simp only [pageLoop, Py.run_bind]
    revert first
    rcases sent : c.request "GET" path (pageParams page perPage params) env s with
      body | ⟨e, u⟩ | u
    · rintro ⟨rfl, status, text, reply, -⟩
      rcases read : readPage body page with e | ⟨batch, _ | _⟩
      · simp [read]
      · have below := paged.within reply read
        simp only [read, Py.run_lift_ok, Bool.false_eq_true, if_false]
        exact pageLoop_ends fuel (page + 1) _ (by omega) below _ t
      · simp [read]
    · exact fun _ => nofun
    · exact absurd sent (c.request_ends _ _ _ s u)

theorem paginatedGet_ends : Py.Ends env (c.paginatedGet path params perPage : Py σ ε (List JVal)) :=
  fun s t => by
    simp only [paginatedGet, Py.run_bind, Py.run_env]
    exact c.pageLoop_ends paged path params perPage env.fuel 1 [] (by omega) paged.fuel_pos s t

omit path params perPage

theorem listZones_ends (accountId : String) :
    Py.Ends env (c.listZones accountId : Py σ ε (List JVal)) :=
  c.paginatedGet_ends paged _ _ _

theorem listRecords_ends (zoneId : JVal) : Py.Ends env (c.listRecords zoneId : Py σ ε (List JVal)) :=
  c.paginatedGet_ends paged _ _ _

theorem listLoadBalancers_ends (zoneId : JVal) :
    Py.Ends env (c.listLoadBalancers zoneId : Py σ ε (List JVal)) :=
  Py.Ends.tryExcept (c.paginatedGet_ends paged _ _ _) fun _ => Py.Ends.pure _

end CloudflareClient

/-! ## The connection -/

/-- `connect` tries each host once, so it never runs on. -/
theorem DatabaseConfig.connect_ends (config : DatabaseConfig) :
    Py.Ends env (config.connect : Py σ ε Host) := fun s t run => by
  obtain ⟨order, draws, ordered, -⟩ := orderedHosts_run config env s
  have attempted := connectLoop_attempted env order none { s with tick := s.tick + draws }
  simp only [DatabaseConfig.connect, Py.run_bind, ordered] at run
  rw [run] at attempted
  exact attempted

/-! ## `sync_cloudflare_records.py` -/

section Single

variable (paged : env.Paged) (c : CloudflareClient)

theorem replaceZoneRecords_ends (zoneId : Nat) (records : List JVal) :
    Py.Ends env (replaceZoneRecords zoneId records) := by
  refine Py.Ends.bind Py.Ends.execute fun _ => ?_
  split
  · exact Py.Ends.pure _
  · exact Py.Ends.bind Py.Ends.env fun _ => Py.Ends.bind (Py.Ends.lift _) fun _ =>
      Py.Ends.bind Py.Ends.execute fun _ => Py.Ends.pure _

theorem replaceZoneLoadBalancers_ends (zoneId : Nat) (balancers : List JVal) :
    Py.Ends env (replaceZoneLoadBalancers zoneId balancers) := by
  refine Py.Ends.bind Py.Ends.execute fun _ => ?_
  split
  · exact Py.Ends.pure _
  · exact Py.Ends.bind (Py.Ends.lift _) fun _ => Py.Ends.bind Py.Ends.execute fun _ =>
      Py.Ends.pure _

include paged

theorem syncZone_ends (accountId : Nat) (zone : JVal) : Py.Ends env (syncZone c accountId zone) :=
  Py.Ends.bind (Py.Ends.lift _) fun zoneId => Py.Ends.bind Py.Ends.now fun _ =>
    Py.Ends.bind (c.listRecords_ends paged zoneId) fun _ =>
      Py.Ends.bind (c.listLoadBalancers_ends paged zoneId) fun _ =>
        Py.Ends.bind (Py.Ends.bind (Py.Ends.lift _) fun _ => Py.Ends.execute) fun _ =>
          Py.Ends.bind (replaceZoneRecords_ends _ _) fun _ =>
            Py.Ends.bind (replaceZoneLoadBalancers_ends _ _) fun _ =>
              Py.Ends.bind Py.Ends.execute fun _ => Py.Ends.bind Py.Ends.commit fun _ =>
                Py.Ends.pure _

theorem zoneLoop_ends (accountId : String) :
    ∀ zones summary, Py.Ends env (zoneLoop c accountId zones summary)
  | [], _ => Py.Ends.pure _
  | zone :: zones, summary => by
    unfold zoneLoop
    refine Py.Ends.bind (Py.Ends.lift _) fun _ => ?_
    split
    · exact Py.Ends.bind (Py.Ends.emit _) fun _ => zoneLoop_ends accountId zones summary
    refine Py.Ends.bind (Py.Ends.lift _) fun _ => Py.Ends.bind (Py.Ends.lift _) fun _ =>
      Py.Ends.bind (Py.Ends.lift _) fun _ => Py.Ends.bind Py.Ends.execute fun _ =>
        Py.Ends.bind Py.Ends.commit fun _ => Py.Ends.bind (Py.Ends.tryExcept
          (Py.Ends.bind (syncZone_ends paged c _ zone) fun _ => Py.Ends.pure _) fun _ =>
            Py.Ends.bind Py.Ends.rollback fun _ => Py.Ends.bind (Py.Ends.emit _) fun _ =>
              Py.Ends.pure _) fun synced => ?_
    cases synced with
    | none => exact zoneLoop_ends accountId zones summary
    | some _ => exact Py.Ends.bind (Py.Ends.emit _) fun _ => zoneLoop_ends accountId zones _

theorem accountLoop_ends : ∀ accountIds summary, Py.Ends env (accountLoop c accountIds summary)
  | [], _ => Py.Ends.pure _
  | accountId :: rest, summary => by
    unfold accountLoop
    refine Py.Ends.bind (Py.Ends.tryExcept (Py.Ends.bind (c.listZones_ends paged accountId)
      fun _ => Py.Ends.pure _) fun _ => Py.Ends.bind (Py.Ends.emit _) fun _ => Py.Ends.pure _)
      fun listed => ?_
    cases listed with
    | none => exact accountLoop_ends rest summary
    | some zones =>
      refine Py.Ends.bind (Py.Ends.emit _) fun _ => ?_
      split
      · exact accountLoop_ends rest summary
      · exact Py.Ends.bind (zoneLoop_ends paged c accountId zones summary) fun _ =>
          accountLoop_ends rest _

theorem syncAccounts_ends (accountIds : List String) : Py.Ends env (syncAccounts c accountIds) :=
  accountLoop_ends paged c accountIds _

omit c

/-- **Every run of `main` of `sync_cloudflare_records.py` returns or raises** under a paged
provider. -/
theorem main_ends (args : SyncArgs) (files : String → Option RawConfig) :
    Py.Ends env (main args files) := by
  unfold main
  dsimp only
  split
  · split
    · exact Py.Ends.pure _
    · exact Py.Ends.raise _
  · split
    · exact Py.Ends.pure _
    refine Py.Ends.bind (Py.Ends.tryExcept (Py.Ends.bind (DatabaseConfig.connect_ends _)
      fun _ => Py.Ends.pure _) fun _ => Py.Ends.pure _) fun _ => ?_
    split
    · exact Py.Ends.pure _
    · exact Py.Ends.bind (Py.Ends.tryFinally (syncAccounts_ends paged _ _) Py.Ends.close)
        fun _ => Py.Ends.pure _

end Single

/-! ## `sync_cloudflare_records_multi_user.py` -/

section Multi

variable (paged : env.Paged)

theorem updateCredentialSyncStatus_ends (credentialId : Nat) (status : String)
    (error : Option String) : Py.Ends env (updateCredentialSyncStatus credentialId status error) :=
  Py.Ends.bind (Py.Ends.attempt (Py.Ends.bind Py.Ends.execute fun _ => Py.Ends.commit)) fun _ =>
    Py.Ends.pure _

theorem markFailed_ends (credentialId : Option Nat) (e : Exc) :
    Py.Ends env (markFailed credentialId e) := by
  unfold markFailed
  split
  · split
    · exact updateCredentialSyncStatus_ends _ _ _
    · exact Py.Ends.pure _
  · exact Py.Ends.pure _

theorem credentialLoop_ends
    (openGcm : List UInt8 → List UInt8 → List UInt8 → Option (List UInt8)) :
    ∀ rows, Py.Ends env (credentialLoop openGcm rows)
  | [] => Py.Ends.pure _
  | row :: rows => by
    unfold credentialLoop
    split
    · exact Py.Ends.bind (credentialLoop_ends openGcm rows) fun _ => Py.Ends.pure _
    · exact Py.Ends.bind (Py.Ends.emit _) fun _ => credentialLoop_ends openGcm rows

theorem loadUserCredentials_ends : Py.Ends env loadUserCredentials := by
  refine Py.Ends.bind (Py.Ends.attempt Py.Ends.execute) fun rows => ?_
  cases rows with
  | ok rows => exact Py.Ends.bind Py.Ends.env fun _ => credentialLoop_ends _ rows
  | error _ => exact Py.Ends.bind (Py.Ends.emit _) fun _ => Py.Ends.pure _

include paged

/-- The programs of the multi-user engine that end under a paged provider are a class. -/
theorem endsClass : SyncClass fun m => Py.Ends env m where
  pure := Py.Ends.pure
  raise := Py.Ends.raise
  lift := Py.Ends.lift
  bind := Py.Ends.bind
  attempt := Py.Ends.attempt
  listZones c := c.listZones_ends paged
  listRecords c := c.listRecords_ends paged
  query _ _ := Py.Ends.execute
  insertAccount _ _ := Py.Ends.execute
  upsertZone _ := Py.Ends.execute
  writeRecord _ := Py.Ends.bind Py.Ends.execute fun _ => Py.Ends.commit
  commit := Py.Ends.commit

theorem syncCloudflareAccount_ends (c : CloudflareClient) (cfAccountId : String)
    (cfDomain : Option String) (credentialId : Option Nat) :
    Py.Ends env (syncCloudflareAccount c cfAccountId cfDomain credentialId) :=
  syncCloudflareAccount_mem (endsClass paged) c cfAccountId cfDomain credentialId
    (markFailed_ends credentialId)

theorem globalLoop_ends (c : CloudflareClient) :
    ∀ accountIds totals, Py.Ends env (globalLoop c accountIds totals)
  | [], _ => Py.Ends.pure _
  | cfAccountId :: rest, totals => by
    unfold globalLoop
    refine Py.Ends.bind (Py.Ends.emit _) fun _ =>
      Py.Ends.bind (Py.Ends.attempt (syncCloudflareAccount_ends paged c _ _ _)) fun outcome => ?_
    cases outcome with
    | ok _ => exact Py.Ends.bind (Py.Ends.emit _) fun _ => globalLoop_ends c rest _
    | error _ => exact Py.Ends.pure _

theorem globalPhase_ends (path : String) (file : Option RawConfig) (totals : Counts) :
    Py.Ends env (globalPhase path file totals) := by
  have attempted : Py.Ends env (globalAttempt path file totals) := by
    unfold globalAttempt
    split
    · exact globalLoop_ends paged _ _ _
    · exact Py.Ends.pure _
  refine Py.Ends.bind attempted fun ⟨_, raised⟩ => ?_
  cases raised with
  | none => exact Py.Ends.pure _
  | some _ =>
    dsimp only
    split
    · exact Py.Ends.bind (Py.Ends.emit _) fun _ => Py.Ends.pure _
    · exact Py.Ends.raise _

theorem userLoop_ends : ∀ creds totals, Py.Ends env (userLoop creds totals)
  | [], _ => Py.Ends.pure _
  | cred :: creds, totals => by
    unfold userLoop
    have synced : Py.Ends env (syncCredential cred) :=
      Py.Ends.bind (syncCloudflareAccount_ends paged _ _ _ _) fun _ =>
        Py.Ends.bind (updateCredentialSyncStatus_ends _ _ _) fun _ => Py.Ends.pure _
    refine Py.Ends.bind (Py.Ends.emit _) fun _ =>
      Py.Ends.bind (Py.Ends.attempt synced) fun outcome => ?_
    cases outcome with
    | ok _ => exact Py.Ends.bind (Py.Ends.emit _) fun _ => userLoop_ends creds _
    | error _ => exact Py.Ends.bind (Py.Ends.emit _) fun _ =>
        Py.Ends.bind (updateCredentialSyncStatus_ends _ _ _) fun _ => userLoop_ends creds _

/-- **Every run of `main` of `sync_cloudflare_records_multi_user.py` returns** under a paged
provider: `main` catches whatever its `try` body raises. -/
theorem userMain_ends (args : UserSyncArgs) (files : String → Option RawConfig) :
    Py.Ends env (userMain args files) := by
  have globalStaged : Py.Ends env (globalStage args files) := by
    unfold globalStage
    split
    · exact globalPhase_ends paged _ _ _
    · exact Py.Ends.pure _
  have userStaged : ∀ totals, Py.Ends env (userStage args totals) := fun totals => by
    unfold userStage
    split
    · exact Py.Ends.bind loadUserCredentials_ends fun _ => userLoop_ends paged _ _
    · exact Py.Ends.pure _
  have body : Py.Ends env (userMainBody args files) :=
    Py.Ends.bind (Py.Ends.lift _) fun _ => Py.Ends.bind (DatabaseConfig.connect_ends _) fun _ =>
      Py.Ends.bind globalStaged fun _ => Py.Ends.bind (userStaged _) fun _ =>
        Py.Ends.bind Py.Ends.close fun _ => Py.Ends.bind (Py.Ends.emit _) fun _ => Py.Ends.pure _
  refine Py.Ends.bind (Py.Ends.attempt body) fun outcome => ?_
  cases outcome with
  | ok _ => exact Py.Ends.pure _
  | error _ => exact Py.Ends.bind (Py.Ends.emit _) fun _ => Py.Ends.pure _

end Multi

end CloudflareSync
