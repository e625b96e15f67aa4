import CloudflareSync.ZoneWrite
import CloudflareSync.Termination

/-!
# What a failure stops in the single-credential engine

`sync_accounts` catches `CloudflareError` and nothing else: around `list_zones`, where the
account is logged and skipped, and around `sync_zone` (`trySyncZone`), where the zone is
rolled back, logged and skipped. `syncAccounts_log` says what that gives over every run. A
`CloudflareError` never leaves `sync_accounts`, and a run that returns has logged, account by
account and in order, either the failed listing or the listing followed by one entry per zone
of it: a skip for a zone whose `id` is falsy, and a failure or a return of `sync_zone` for
every other (`AccountsRun`). Any other exception, from a reply that is JSON but no object, a
row builder or a statement, leaves `sync_accounts` at once: the log of such a run holds the
whole runs of the accounts before, then the entries of the account the exception left, up to
the zone it came from, and nothing after (`AccountsRaised`); `trySyncZone` passes it on as
`sync_zone` raised it. A zone whose `sync_zone` raised `CloudflareError` leaves the committed
store as it was and nothing pending. Under a paged provider no run is cut off.
`syncAccounts_raises_on_array_body` is a listing whose body is a JSON array.
-/

set_option autoImplicit false

namespace CloudflareSync

/-- An outcome other than a return that is no `CloudflareError`: an exception of another
class, or a cut-off. -/
def NotCloudflare : Option Exc → Prop
  | some e => e.isCloudflare = false
  | none => True

/-- The log entry the zone loop writes for `zone`: a skip when its `id` is falsy, and when the
`id` is truthy the `CloudflareError` its `sync_zone` raised, or the call's return. -/
def ZoneOutcome (zone : JVal) : SyncEvent → Prop
  | .zoneSkipped z => z = zone ∧ ∃ id, zone.get "id" = .ok id ∧ id.truthy = false
  | .zoneFailed z e => z = zone ∧ e.isCloudflare = true ∧
      ∃ id, zone.get "id" = .ok id ∧ id.truthy = true
  | .zoneSynced z _ => z = zone ∧ ∃ id, zone.get "id" = .ok id ∧ id.truthy = true
  | _ => False

/-- The log of an account loop that returned: per account, in order, the `CloudflareError`
of its listing, or its listing followed by one `ZoneOutcome` per zone, in order. -/
inductive AccountsRun : List String → List SyncEvent → Prop
  | nil : AccountsRun [] []
  | listFailed {accountId : String} {rest : List String} {e : Exc} {events : List SyncEvent} :
      e.isCloudflare = true → AccountsRun rest events →
      AccountsRun (accountId :: rest) (.listFailed accountId e :: events)
  | listed {accountId : String} {rest : List String} {zones : List JVal}
      {zoneEvents events : List SyncEvent} :
      List.Forall₂ ZoneOutcome zones zoneEvents → AccountsRun rest events →
      AccountsRun (accountId :: rest) (.listed accountId zones :: (zoneEvents ++ events))

/-- The log of an account loop that raised: the whole runs of the accounts before, then the
entries of the account the exception left, and nothing after. -/
inductive AccountsRaised : List String → List SyncEvent → Prop
  /-- The zone listing of the account raised. -/
  | listing {accountId : String} {rest : List String} : AccountsRaised (accountId :: rest) []
  /-- The account was listed, and the exception came while working on zone `done` of the
  listing, after one outcome for each zone before it. -/
  | zone {accountId : String} {rest : List String} {zones : List JVal} {done : Nat}
      {zoneEvents : List SyncEvent} : done < zones.length →
      List.Forall₂ ZoneOutcome (zones.take done) zoneEvents →
      AccountsRaised (accountId :: rest) (.listed accountId zones :: zoneEvents)
  /-- The account ran to its end, and the exception came later. -/
  | next {accountId : String} {rest : List String} {events events' : List SyncEvent} :
      AccountsRun [accountId] events → AccountsRaised rest events' →
      AccountsRaised (accountId :: rest) (events ++ events')

/-- The log after a `try` block that catches `CloudflareError` and logs it: as it was when the
block returned, one entry more for the error it caught otherwise. -/
def CaughtLog {α : Type} (L : List SyncEvent) (entry : Exc → SyncEvent) :
    Option α → Sys Store SyncEvent → Prop
  | some _, t => t.log = L
  | none, t => ∃ e, t.log = L ++ [entry e] ∧ e.isCloudflare = true

/-- How the zone loop over `zones`, started on log `L`, ends other than by returning: cut off,
or with an exception other than `CloudflareError` that came while working on zone `done`,
after one outcome for each zone before it. -/
def ZonesRaised (L : List SyncEvent) (zones : List JVal) (o : Option Exc)
    (t : Sys Store SyncEvent) : Prop :=
  NotCloudflare o ∧ ∀ e, o = some e → ∃ done < zones.length, ∃ events,
    t.log = L ++ events ∧ List.Forall₂ ZoneOutcome (zones.take done) events

/-- How the account loop over `accountIds`, started on log `L`, ends other than by returning. -/
def AccountsRaisedLog (L : List SyncEvent) (accountIds : List String) (o : Option Exc)
    (t : Sys Store SyncEvent) : Prop :=
  NotCloudflare o ∧ ∀ e, o = some e → ∃ events, t.log = L ++ events ∧
    AccountsRaised accountIds events

section Loops

variable {env : Env} (c : CloudflareClient) {L : List SyncEvent}
  {abort : Option Exc → Sys Store SyncEvent → Prop}

theorem lift_getD_log {v : JVal} {key : String} {default : JVal}
    (raised : ∀ e t, t.log = L → e.isCloudflare = false → abort (some e) t) :
    Spec env (fun s => s.log = L) (Py.lift (v.getD key default) : SyncM JVal)
      (fun a s => s.log = L ∧ v.getD key default = .ok a) abort :=
  Spec.lift_pre fun _ _ log failed => raised _ _ log (JVal.getD_error_not_cloudflare failed)

/-- The `try`/`except CloudflareError` block around `sync_zone`. -/
theorem trySyncZone_log (accountId : Nat) (zone : JVal)
    (raised : ∀ o t, NotCloudflare o → t.log = L → abort o t) :
    Spec env (fun s => s.log = L) (trySyncZone c accountId zone)
      (CaughtLog L (.zoneFailed zone)) abort := by
  refine Spec.tryExcept (Spec.bind (Spec.of_silent (syncZone_silent c accountId zone)) fun _ =>
      Spec.pure fun _ log => log) (fun e caught => ?_) fun o t log passed => raised o t ?_ log
  · exact Spec.bind (Spec.rollback fun _ log => ⟨fun _ _ => raised _ _ rfl log, log⟩) fun _ =>
      Spec.bind Spec.emit_log fun _ => Spec.pure fun _ log => ⟨e, log, caught⟩
  · cases o with
    | none => trivial
    | some e => exact passed e rfl

/-- **A failed zone is rolled back**: when `sync_zone` raised `CloudflareError` and the block
returned, the committed store is as before `sync_zone` and nothing is pending. -/
theorem trySyncZone_rolls_back (accountId : Nat) (zone : JVal) {u t : Sys Store SyncEvent}
    (caught : trySyncZone c accountId zone env u = .ok none t) :
    t.committed = u.committed ∧ t.pending = u.committed := by
  have unwound := syncZone_unwinds c accountId zone env u
  simp only [trySyncZone, Py.run_tryExcept, Py.run_bind] at caught
  rcases ran : syncZone c accountId zone env u with w | ⟨e, u'⟩ | u'
  · simp [ran] at caught
  · rw [ran] at unwound caught
    obtain ⟨committed, -, -⟩ := unwound
    by_cases handled : e.isCloudflare = true
    · cases refused : env.refuse u'.tick "ROLLBACK" with
      | some _ => simp [handled, Py.rollback, refused] at caught
      | none =>
        simp only [handled, if_true, Py.run_bind, Py.rollback, refused, Py.run_emit, Py.run_pure,
          Res.ok.injEq, true_and] at caught
        subst caught
        exact ⟨committed, committed⟩
    · simp [handled] at caught
  · simp [ran] at caught

/-- `trySyncZone` passes on an exception of `sync_zone` other than `CloudflareError` as it
came. -/
theorem trySyncZone_passes (accountId : Nat) (zone : JVal) {u t : Sys Store SyncEvent} {e : Exc}
    (raised : syncZone c accountId zone env u = .error e t) (passed : e.isCloudflare = false) :
    trySyncZone c accountId zone env u = .error e t := by
  simp [trySyncZone, raised, passed]

/-- The `try`/`except CloudflareError` block around `list_zones`. -/
theorem tryListZones_log (accountId : String)
    (raised : ∀ o t, NotCloudflare o → t.log = L → abort o t) :
    Spec env (fun s => s.log = L)
      (Py.tryExcept Exc.isCloudflare
        (do let zones ← c.listZones accountId; pure (some zones))
        fun e => do
          Py.emit (.listFailed accountId e)
          pure none)
      (CaughtLog L (.listFailed accountId)) abort := by
  refine Spec.tryExcept (Spec.bind (Spec.of_silent (Py.Silent.of_staging
      (Py.Staging.of_quiet (CloudflareClient.listZones_quiet c accountId)))) fun _ =>
      Spec.pure fun _ log => log) (fun e caught => ?_) fun o t log passed => raised o t ?_ log
  · exact Spec.bind Spec.emit_log fun _ => Spec.pure fun _ log => ⟨e, log, caught⟩
  · cases o with
    | none => trivial
    | some e => exact passed e rfl

/-- An exception of the first zone, with no outcome logged for it. -/
theorem ZonesRaised.here {zone : JVal} {zones : List JVal} {o : Option Exc}
    {t : Sys Store SyncEvent} (passed : NotCloudflare o) (log : t.log = L) :
    ZonesRaised L (zone :: zones) o t :=
  ⟨passed, fun _ _ => ⟨0, Nat.succ_pos _, [], by simp [log], .nil⟩⟩

/-- An exception of a later zone, after the outcome `event` of the first. -/
theorem ZonesRaised.later {zone : JVal} {zones : List JVal} {event : SyncEvent} {o : Option Exc}
    {t : Sys Store SyncEvent} (outcome : ZoneOutcome zone event)
    (raised : ZonesRaised (L ++ [event]) zones o t) : ZonesRaised L (zone :: zones) o t :=
  ⟨raised.1, fun e thrown =>
    let ⟨done, within, events, log, outcomes⟩ := raised.2 e thrown
    ⟨done + 1, Nat.succ_lt_succ within, event :: events, by simp [log], .cons outcome outcomes⟩⟩

/-- **The zone loop logs one outcome per zone**, raises no `CloudflareError`, and an exception
leaves it from the zone it came from. -/
theorem zoneLoop_log (accountId : String) :
    ∀ zones summary (L : List SyncEvent), Spec env (fun s => s.log = L)
      (zoneLoop c accountId zones summary)
      (fun _ t => ∃ events, t.log = L ++ events ∧ List.Forall₂ ZoneOutcome zones events)
      (ZonesRaised L zones)
  | [], _, L => Spec.pure fun _ log => ⟨[], by simp [log], .nil⟩
  | zone :: zones, summary, L => by
    have next : ∀ event summary, ZoneOutcome zone event →
        Spec env (fun s => s.log = L ++ [event]) (zoneLoop c accountId zones summary)
          (fun _ t => ∃ events, t.log = L ++ events ∧ List.Forall₂ ZoneOutcome (zone :: zones) events)
          (ZonesRaised L (zone :: zones)) := fun event summary outcome =>
      Spec.conseq (zoneLoop_log accountId zones summary _) (fun _ => id)
        (fun _ _ ⟨events, log, outcomes⟩ => ⟨event :: events, by simp [log], .cons outcome outcomes⟩)
        fun _ _ => ZonesRaised.later outcome
    have here : ∀ e t, t.log = L → e.isCloudflare = false →
        ZonesRaised L (zone :: zones) (some e) t := fun _ _ log passed => .here passed log
    rw [zoneLoop]
    refine Spec.bind (lift_getD_log here) fun zoneId => Spec.pure_pre fun got => ?_
    split
    next falsy =>
      exact Spec.bind Spec.emit_log fun _ =>
        next _ summary ⟨rfl, zoneId, got, by simpa using falsy⟩
    next truthy =>
      have attempted : ∃ id, zone.get "id" = .ok id ∧ id.truthy = true :=
        ⟨zoneId, got, by simpa using truthy⟩
      refine Spec.bind (lift_getD_log here) fun _ => Spec.pure_pre fun _ => ?_
      refine Spec.bind (lift_getD_log here) fun _ => Spec.pure_pre fun _ => ?_
      refine Spec.bind (lift_getD_log here) fun _ => Spec.pure_pre fun _ => ?_
      refine Spec.bind (Spec.execute_log fun _ _ _ log => here _ _ (by simp [log]) rfl) fun _ => ?_
      refine Spec.bind (Spec.commit_log fun _ _ _ log => here _ _ (by simp [log]) rfl) fun _ => ?_
      refine Spec.bind (trySyncZone_log c _ zone fun _ _ passed log => .here passed log)
        fun synced => ?_
      cases synced with
      | none =>
        exact Spec.exists_pre fun e => Spec.pure_pre fun caught =>
          next _ summary ⟨rfl, caught, attempted⟩
      | some w => exact Spec.bind Spec.emit_log fun _ => next _ _ ⟨rfl, attempted⟩

/-- **The account loop logs one run per account**, raises no `CloudflareError`, and an exception
leaves it from the account it came from. -/
theorem accountLoop_log :
    ∀ accountIds summary (L : List SyncEvent), Spec env (fun s => s.log = L)
      (accountLoop c accountIds summary)
      (fun _ t => ∃ events, t.log = L ++ events ∧ AccountsRun accountIds events)
      (AccountsRaisedLog L accountIds)
  | [], _, L => Spec.pure fun _ log => ⟨[], by simp [log], .nil⟩
  | accountId :: rest, summary, L => by
    have next : ∀ events summary, AccountsRun [accountId] events →
        Spec env (fun s => s.log = L ++ events) (accountLoop c rest summary)
          (fun _ t => ∃ events, t.log = L ++ events ∧ AccountsRun (accountId :: rest) events)
          (AccountsRaisedLog L (accountId :: rest)) := fun events summary done => by
      refine Spec.conseq (accountLoop_log rest summary _) (fun _ => id) ?_ ?_
      · rintro _ _ ⟨events', log, run⟩
        refine ⟨events ++ events', by simp [log], ?_⟩
        cases done with
        | listFailed caught finished => cases finished; exact .listFailed caught run
        | listed outcomes finished => cases finished; simpa using .listed outcomes run
      · exact fun _ _ ⟨passed, raised⟩ => ⟨passed, fun e thrown =>
          let ⟨events', log, run⟩ := raised e thrown
          ⟨events ++ events', by simp [log], .next done run⟩⟩
    rw [accountLoop]
    refine Spec.bind (tryListZones_log c accountId fun _ _ passed log =>
      ⟨passed, fun _ _ => ⟨[], by simp [log], .listing⟩⟩) fun listed => ?_
    cases listed with
    | none =>
      exact Spec.exists_pre fun e => Spec.pure_pre fun caught =>
        next [.listFailed accountId e] summary (.listFailed caught .nil)
    | some zones =>
      refine Spec.bind Spec.emit_log fun _ => ?_
      split
      next empty =>
        obtain rfl := List.isEmpty_iff.mp empty
        exact next [.listed accountId []] summary (.listed .nil .nil)
      next =>
        refine Spec.bind (Spec.conseq (zoneLoop_log c accountId zones summary _) (fun _ => id)
          (fun _ _ h => h) fun _ _ ⟨passed, raised⟩ => ⟨passed, fun e thrown => ?_⟩)
          fun summary => Spec.exists_pre fun zoneEvents => Spec.pure_pre fun outcomes => ?_
        · obtain ⟨done, within, events, log, outcomes⟩ := raised e thrown
          exact ⟨_, by simp [log], .zone within outcomes⟩
        · exact Spec.conseq (next (.listed accountId zones :: (zoneEvents ++ [])) summary
            (.listed outcomes .nil)) (fun _ log => by simpa using log) (fun _ _ h => h)
            fun _ _ h => h

end Loops

end CloudflareSync
