import CloudflareSync.Termination
import CloudflareSync.Spec
import Mathlib.Algebra.Order.Ring.Nat

/-!
# The runs of the multi-user `main`

`main` of `sync_cloudflare_records_multi_user.py` runs a global phase over the accounts of
the config file and then a user phase over the credential rows. `MainRun` is the grammar of
its log and exit code, built from one grammar per loop: `GlobalRun` for the global accounts,
which stops at the first account whose sync raised, and `UserRun` for the credentials, which
announces every credential and ends each with its counts or its exception. A run either fails
before the phases (`MainRun.setupFailed`), or leaves the global phase with an exception that
`except (ConfigError, CloudflareError)` does not catch, so that the user phase never runs
(`MainRun.globalEscaped`), or completes both phases and exits 0 exactly when the errors the
log counts add up to nothing (`MainRun.completed`).

Beside the log, a run writes the status columns of the credential rows. `statusAfter` applies
the status writes a log stands for to a row; `CredentialsAt` says which rows both stores hold.
Each function of `main` has one spec in the logic of `Spec`, proved from the specs of what it
calls and, for the account syncs, from the frame of `UserFrame`: `globalLoop_log`,
`globalPhase_log`, `credentialLoop_log`, `loadUserCredentials_log`, `syncCredential_log`,
`userLoop_log`. `userMain_run` puts them together: `main` never raises, a run that returns
has a log that `MainRun` accepts, and when the server accepts every write of a status the
credential rows are those of the start with the log's status writes applied. A run that
fails before the phases failed to load the database config or to connect (`SetupFailure`).
`userMain_phases` adds that every run returns under a paged provider (`userMain_ends`).

The global phase is where the script breaks its promise that each credential source is
processed independently: a global account whose sync raises anything but `ConfigError` or
`CloudflareError` ends `main` before the user phase (`userMain_global_escape`).
-/

set_option autoImplicit false

namespace CloudflareSync

/-! ## The log of a run -/

/-- The error count a log line adds to the totals of `main`: the count of a synced account, and
one for a failed global phase or a failed credential. -/
def UserEvent.errors : UserEvent → Nat
  | .globalDone _ counts => counts.errors
  | .globalFailed _ => 1
  | .userDone _ counts => counts.errors
  | .userFailed _ _ => 1
  | _ => 0

/-- The errors the lines of a log count. -/
def countedErrors (events : List UserEvent) : Nat := (events.map UserEvent.errors).sum

@[simp] theorem countedErrors_nil : countedErrors [] = 0 := rfl

@[simp] theorem countedErrors_cons (event : UserEvent) (events : List UserEvent) :
    countedErrors (event :: events) = event.errors + countedErrors events := by
  simp [countedErrors]

@[simp] theorem countedErrors_append (events events' : List UserEvent) :
    countedErrors (events ++ events') = countedErrors events + countedErrors events' := by
  induction events with
  | nil => simp
  | cons event events ih => simp [ih, Nat.add_assoc]

/-- The log of the global loop over the account ids `ids`, and the exception that ended it:
each account in order is announced and then logged as done with its counts, until the first
whose `sync_cloudflare_account` raised. -/
inductive GlobalRun : List String → List UserEvent → Option Exc → Prop
  | finished : GlobalRun [] [] none
  | done {cfAccountId : String} {rest : List String} {events : List UserEvent}
      {raised : Option Exc} (counts : Counts) : GlobalRun rest events raised →
      GlobalRun (cfAccountId :: rest)
        (.globalAccount cfAccountId :: .globalDone cfAccountId counts :: events) raised
  | raised {cfAccountId : String} {rest : List String} (e : Exc) :
      GlobalRun (cfAccountId :: rest) [.globalAccount cfAccountId] (some e)

/-- The log of the `try` body of the global phase and the exception it raised: the global loop
over the accounts of the config file, or the error of loading the file. -/
def GlobalAttemptRun (path : String) (file : Option RawConfig) (events : List UserEvent)
    (raised : Option Exc) : Prop :=
  match loadCloudflareConfig path file with
  | .ok cfConfig => GlobalRun cfConfig.accountIds events raised
  | .error e => events = [] ∧ raised = some e

/-- The log of a global phase that ends inside `main`: its `try` body raised nothing, or a
`ConfigError` or `CloudflareError` that the handler logs. -/
def GlobalCaught (path : String) (file : Option RawConfig) (events : List UserEvent) : Prop :=
  GlobalAttemptRun path file events none ∨
    ∃ attempted e, GlobalAttemptRun path file attempted (some e) ∧
      (e.isConfig || e.isCloudflare) = true ∧ events = attempted ++ [.globalFailed e]

/-- The log of the global phase of a run that reached the user phase: nothing with
`--skip-global` or without the config file. -/
def GlobalPhaseRun (args : UserSyncArgs) (files : String → Option RawConfig)
    (events : List UserEvent) : Prop :=
  if !args.skipGlobal && (files args.cfConfig).isSome then
    GlobalCaught args.cfConfig (files args.cfConfig) events
  else events = []

/-- The credentials `load_user_credentials` builds of the rows it selected: those whose secret
opens, in order. -/
def loadedCredentials (openGcm : List UInt8 → List UInt8 → List UInt8 → Option (List UInt8))
    (rows : List (Row CredentialCols)) : List UserCredential :=
  rows.filterMap fun row => (loadCredential openGcm row).toOption

/-- The lines `load_user_credentials` logs for the selected rows whose secret does not open. -/
def skippedRows (openGcm : List UInt8 → List UInt8 → List UInt8 → Option (List UInt8))
    (rows : List (Row CredentialCols)) : List UserEvent :=
  rows.filterMap fun row =>
    match loadCredential openGcm row with
    | .ok _ => none
    | .error e => some (.credentialSkipped row.id e)

/-- The error of a credentials `SELECT` the server refused at some tick. -/
def SelectRefused (env : Env) (e : Exc) : Prop :=
  ∃ k code message, env.refuse k credentialsTable = some (code, message) ∧
    e = .database code message

/-- The credentials `load_user_credentials` returns and the lines it logs: those of the
selected rows, or none after a refused `SELECT`. -/
def LoadRun (env : Env) (rows : List (Row CredentialCols)) (creds : List UserCredential)
    (events : List UserEvent) : Prop :=
  creds = loadedCredentials env.decryptGcm rows ∧ events = skippedRows env.decryptGcm rows ∨
    creds = [] ∧ ∃ e, SelectRefused env e ∧ events = [.credentialsUnreadable e]

/-- The log of the credential loop over `creds`: each credential in order is announced, then
logged as done with its counts or as failed with the exception its sync raised. -/
inductive UserRun : List UserCredential → List UserEvent → Prop
  | finished : UserRun [] []
  | done {cred : UserCredential} {creds : List UserCredential} {events : List UserEvent}
      (counts : Counts) : UserRun creds events →
      UserRun (cred :: creds)
        (.userCredential cred.id cred.cfAccountId :: .userDone cred.id counts :: events)
  | failed {cred : UserCredential} {creds : List UserCredential} {events : List UserEvent}
      (e : Exc) : UserRun creds events →
      UserRun (cred :: creds)
        (.userCredential cred.id cred.cfAccountId :: .userFailed cred.id e :: events)

/-- The log of the user phase over the selected credential rows `rows`: nothing with
`--skip-users`; otherwise the refused `SELECT`, or the rows skipped at loading followed by the
run of the credentials loaded. -/
def UserPhaseRun (args : UserSyncArgs) (env : Env) (rows : List (Row CredentialCols))
    (events : List UserEvent) : Prop :=
  if args.skipUsers then events = []
  else (∃ e, SelectRefused env e ∧ events = [.credentialsUnreadable e]) ∨
    ∃ synced, events = skippedRows env.decryptGcm rows ++ synced ∧
      UserRun (loadedCredentials env.decryptGcm rows) synced

/-- The exception `connect` raises once every host refused the connection. -/
def ConnectRefused (e : Exc) : Prop :=
  ∃ shown : String, e = .config s!"Unable to connect to any DB host: {shown}"

/-- How the setup of `main` fails: the database config does not load, or it loads and no host
takes the connection. -/
def SetupFailure (args : UserSyncArgs) (files : String → Option RawConfig) (e : Exc) : Prop :=
  loadDbConfig args.mydnsConfig (files args.mydnsConfig) = .error e ∨
    (∃ config, loadDbConfig args.mydnsConfig (files args.mydnsConfig) = .ok config) ∧
      ConnectRefused e

/-- The log of `main` and its exit code in `env`, where `rows` are the credential rows its
`SELECT` finds. -/
inductive MainRun (args : UserSyncArgs) (files : String → Option RawConfig) (env : Env)
    (rows : List (Row CredentialCols)) : List UserEvent → Nat → Prop
  /-- The database config did not load, or no host took the connection. -/
  | setupFailed (e : Exc) : SetupFailure args files e → MainRun args files env rows [.runFailed e] 1
  /-- The global phase raised what its handler does not catch: the user phase never runs. -/
  | globalEscaped {attempted : List UserEvent} (e : Exc) :
      (!args.skipGlobal && (files args.cfConfig).isSome) = true →
      GlobalAttemptRun args.cfConfig (files args.cfConfig) attempted (some e) →
      (e.isConfig || e.isCloudflare) = false →
      MainRun args files env rows (attempted ++ [.runFailed e]) 1
  /-- Both phases ran, and the totals count the errors of their logs. -/
  | completed {globalEvents userEvents : List UserEvent} (totals : Counts) :
      GlobalPhaseRun args files globalEvents → UserPhaseRun args env rows userEvents →
      totals.errors = countedErrors (globalEvents ++ userEvents) →
      MainRun args files env rows (globalEvents ++ userEvents ++ [.syncComplete totals])
        (if totals.errors = 0 then 0 else 1)

/-- How the `try` body of `main` raises: before the phases, with no log line, or out of the
global phase, with the log of its `try` body. -/
def Escaped (args : UserSyncArgs) (files : String → Option RawConfig) (events : List UserEvent)
    (e : Exc) : Prop :=
  events = [] ∧ SetupFailure args files e ∨ (!args.skipGlobal && (files args.cfConfig).isSome) = true ∧
    GlobalAttemptRun args.cfConfig (files args.cfConfig) events (some e) ∧
    (e.isConfig || e.isCloudflare) = false

theorem Escaped.mainRun {args : UserSyncArgs} {files : String → Option RawConfig}
    {events : List UserEvent} {e : Exc} (escaped : Escaped args files events e) (env : Env)
    (rows : List (Row CredentialCols)) :
    MainRun args files env rows (events ++ [.runFailed e]) 1 := by
  rcases escaped with ⟨rfl, failed⟩ | ⟨run, attempted, passed⟩
  · exact .setupFailed e failed
  · exact .globalEscaped e run attempted passed

/-! ## The credential rows a log stands for -/

/-- The status write of `update_credential_sync_status` that a log line stands for: the status
of a credential whose sync returned, or `failed` with the text of the exception its sync
raised. -/
def UserEvent.statusWrite : UserEvent → Option (Nat × String × Option String)
  | .userDone id counts => some (id, if counts.errors = 0 then "success" else "partial", none)
  | .userFailed id e => some (id, "failed", some e.str)
  | _ => none

/-- A credential row after the status write of one log line. -/
def UserEvent.writeRow (event : UserEvent) (row : Row CredentialCols) : Row CredentialCols :=
  match event.statusWrite with
  | some (id, status, error) => UserStore.setStatusRow id status error row
  | none => row

/-- A credential row after the status writes of a log, in order. -/
def statusAfter (events : List UserEvent) (row : Row CredentialCols) : Row CredentialCols :=
  events.foldl (fun row event => event.writeRow row) row

@[simp] theorem statusAfter_nil : statusAfter [] = id := rfl

@[simp] theorem statusAfter_cons (event : UserEvent) (events : List UserEvent)
    (row : Row CredentialCols) : statusAfter (event :: events) row = statusAfter events (event.writeRow row) :=
  rfl

theorem statusAfter_append (events events' : List UserEvent) (row : Row CredentialCols) :
    statusAfter (events ++ events') row = statusAfter events' (statusAfter events row) :=
  List.foldl_append _ _ _ _

/-- A log with no status write. -/
def NoWrites (events : List UserEvent) : Prop := ∀ event ∈ events, event.statusWrite = none

theorem statusAfter_of_noWrites {events : List UserEvent} (none_ : NoWrites events)
    (row : Row CredentialCols) : statusAfter events row = row := by
  induction events generalizing row with
  | nil => rfl
  | cons event events ih =>
    rw [statusAfter_cons, UserEvent.writeRow, none_ event (List.mem_cons_self _ _)]
    exact ih (fun e member => none_ e (List.mem_cons_of_mem _ member)) row

theorem NoWrites.singleton (event : UserEvent) (quiet : event.statusWrite = none) :
    NoWrites [event] := fun _ member => by rw [List.mem_singleton.mp member]; exact quiet

/-- A log with no status write leaves every row as it is. -/
theorem statusAfter_eq_id {events : List UserEvent} (quiet : NoWrites events) :
    statusAfter events = id :=
  funext (statusAfter_of_noWrites quiet)

theorem statusAfter_noWrites_append {events : List UserEvent} (quiet : NoWrites events)
    (events' : List UserEvent) : statusAfter (events ++ events') = statusAfter events' := by
  funext row
  rw [statusAfter_append, statusAfter_of_noWrites quiet]

theorem statusAfter_append_noWrites (events : List UserEvent) {events' : List UserEvent}
    (quiet : NoWrites events') : statusAfter (events ++ events') = statusAfter events := by
  funext row
  rw [statusAfter_append, statusAfter_of_noWrites quiet]

theorem NoWrites.append {events events' : List UserEvent} (first : NoWrites events)
    (second : NoWrites events') : NoWrites (events ++ events') := by
  intro event member
  rcases List.mem_append.mp member with inFirst | inSecond
  · exact first event inFirst
  · exact second event inSecond

theorem GlobalRun.noWrites {ids : List String} {events : List UserEvent} {raised : Option Exc}
    (run : GlobalRun ids events raised) : NoWrites events := by
  induction run with
  | finished => exact fun _ member => absurd member (List.not_mem_nil _)
  | done counts _ ih =>
    intro event member
    rcases List.mem_cons.mp member with rfl | member
    · rfl
    rcases List.mem_cons.mp member with rfl | member
    · rfl
    · exact ih event member
  | raised e => intro event member; rw [List.mem_singleton.mp member]; rfl

theorem GlobalAttemptRun.noWrites {path : String} {file : Option RawConfig}
    {events : List UserEvent} {raised : Option Exc} (run : GlobalAttemptRun path file events raised) :
    NoWrites events := by
  unfold GlobalAttemptRun at run
  split at run
  · exact run.noWrites
  · rw [run.1]
    exact fun _ member => absurd member (List.not_mem_nil _)

theorem countedErrors_skippedRows
    (openGcm : List UInt8 → List UInt8 → List UInt8 → Option (List UInt8)) :
    ∀ rows : List (Row CredentialCols), countedErrors (skippedRows openGcm rows) = 0
  | [] => rfl
  | row :: rows => by
    have rest := countedErrors_skippedRows openGcm rows
    cases loaded : loadCredential openGcm row <;>
      simpa [skippedRows, loaded, UserEvent.errors] using rest

theorem skippedRows_noWrites
    (openGcm : List UInt8 → List UInt8 → List UInt8 → Option (List UInt8))
    (rows : List (Row CredentialCols)) : NoWrites (skippedRows openGcm rows) := by
  intro event member
  obtain ⟨row, -, produced⟩ := List.mem_filterMap.mp member
  split at produced
  · cases produced
  · cases produced
    rfl

theorem GlobalPhaseRun.noWrites {args : UserSyncArgs} {files : String → Option RawConfig}
    {events : List UserEvent} (run : GlobalPhaseRun args files events) : NoWrites events := by
  unfold GlobalPhaseRun at run
  split at run
  · rcases run with attempted | ⟨attempted, e, run, -, rfl⟩
    · exact attempted.noWrites
    · exact run.noWrites.append fun _ member => by rw [List.mem_singleton.mp member]; rfl
  · rw [run]
    exact fun _ member => absurd member (List.not_mem_nil _)

theorem Escaped.noWrites {args : UserSyncArgs} {files : String → Option RawConfig}
    {events : List UserEvent} {e : Exc} (escaped : Escaped args files events e) :
    NoWrites events := by
  rcases escaped with ⟨rfl, -⟩ | ⟨-, run, -⟩
  · exact fun _ member => absurd member (List.not_mem_nil _)
  · exact run.noWrites

/-- Both stores of the world hold the credential rows `rows`. -/
def CredentialsAt (rows : List (Row CredentialCols)) (s : Sys UserStore UserEvent) : Prop :=
  s.committed.credentials = rows ∧ s.pending.credentials = rows

theorem CredentialsAt.of_extends {rows : List (Row CredentialCols)} {s t : Sys UserStore UserEvent}
    (at_ : CredentialsAt rows s)
    (moved : Py.Extends (fun (a b : UserStore) => b.credentials = a.credentials) s t) :
    CredentialsAt rows t := by
  obtain ⟨committed, pending⟩ := moved s.committed rfl (at_.2.trans at_.1.symm)
  exact ⟨committed.trans at_.1, pending.trans at_.1⟩

theorem CredentialsAt.of_reconnects {rows : List (Row CredentialCols)} {s t : Sys UserStore UserEvent}
    (at_ : CredentialsAt rows s) (moved : DatabaseConfig.Reconnects s t) : CredentialsAt rows t := by
  obtain ⟨committed, -, -, pending | fresh⟩ := moved
  · exact ⟨committed ▸ at_.1, pending ▸ at_.2⟩
  · exact ⟨committed ▸ at_.1, fresh ▸ at_.1⟩

/-- The server accepts every statement on the credentials table and every commit. -/
def CredentialWritesSucceed (env : Env) : Prop :=
  ∀ k, env.refuse k credentialsTable = none ∧ env.refuse k "COMMIT" = none

/-- `update_credential_sync_status` returns, logs nothing, and, when the server accepts the
write, both stores hold the written rows. -/
theorem updateCredentialSyncStatus_run (id : Nat) (status : String) (error : Option String)
    (env : Env) (s : Sys UserStore UserEvent) :
    ∃ t, updateCredentialSyncStatus id status error env s = .ok () t ∧ t.log = s.log ∧
      (CredentialWritesSucceed env → ∀ rows, CredentialsAt rows s →
        CredentialsAt (rows.map (UserStore.setStatusRow id status error)) t) := by
  unfold updateCredentialSyncStatus
  simp only [Py.run_bind, Py.run_attempt, Py.update, Py.execute, Py.commit]
  rcases hu : env.refuse s.tick credentialsTable with _ | ⟨code, message⟩
  · rcases hc : env.refuse (s.tick + 1) "COMMIT" with _ | ⟨code, message⟩
    · refine ⟨_, by simp only [hc]; rfl, ?_⟩
      exact ⟨rfl, fun _ rows ⟨_, pending⟩ => by
        simp [CredentialsAt, UserStore.setSyncStatus, pending]⟩
    · refine ⟨_, by simp only [hc]; rfl, ?_⟩
      exact ⟨rfl, fun writes => absurd hc (by simp [(writes _).2])⟩
  · refine ⟨_, rfl, ?_⟩
    exact ⟨rfl, fun writes => absurd hu (by simp [(writes _).1])⟩

/-! ## One spec per function of `main` -/

section Steps

variable {env : Env}

/-- A status write, from rows that may already carry it. -/
theorem updateCredentialSyncStatus_log (credentialId : Nat) (status : String)
    (error : Option String) (L : List UserEvent) (rows : List (Row CredentialCols))
    {abort : Option Exc → Sys UserStore UserEvent → Prop} :
    Spec env (fun s => s.log = L ∧ (CredentialWritesSucceed env → CredentialsAt rows s ∨
        CredentialsAt (rows.map (UserStore.setStatusRow credentialId status error)) s))
      (updateCredentialSyncStatus credentialId status error)
      (fun _ t => t.log = L ∧ (CredentialWritesSucceed env →
        CredentialsAt (rows.map (UserStore.setStatusRow credentialId status error)) t)) abort := by
  intro s ⟨log, at_⟩
  obtain ⟨t, ran, same, written⟩ := updateCredentialSyncStatus_run credentialId status error env s
  rw [ran]
  refine ⟨same.trans log, fun writes => ?_⟩
  rcases at_ writes with before | again
  · exact written writes rows before
  · simpa [List.map_map, Function.comp_def, UserStore.setStatusRow_setStatusRow] using
      written writes _ again

/-- The handler of `sync_cloudflare_account` for a credential: it may write `failed`. -/
theorem markFailed_log (credentialId : Nat) (e : Exc) (L : List UserEvent)
    (rows : List (Row CredentialCols)) {abort : Option Exc → Sys UserStore UserEvent → Prop} :
    Spec env (fun s => s.log = L ∧ (CredentialWritesSucceed env → CredentialsAt rows s))
      (markFailed (some credentialId) e)
      (fun _ t => t.log = L ∧ (CredentialWritesSucceed env → CredentialsAt rows t ∨
        CredentialsAt (rows.map (UserStore.setStatusRow credentialId "failed" (some e.str))) t))
      abort := by
  unfold markFailed
  dsimp only
  split
  · exact Spec.conseq (updateCredentialSyncStatus_log credentialId "failed" (some e.str) L rows)
      (fun _ ⟨log, at_⟩ => ⟨log, fun writes => .inl (at_ writes)⟩)
      (fun _ _ ⟨log, at_⟩ => ⟨log, fun writes => .inr (at_ writes)⟩) fun _ _ => id
  · exact Spec.pure fun _ ⟨log, at_⟩ => ⟨log, fun writes => .inl (at_ writes)⟩

/-- `sync_cloudflare_account` for a credential logs nothing; it keeps the credential rows when
it returns, and may have written `failed` when it raises. -/
theorem syncCloudflareAccount_log (c : CloudflareClient) (cfAccountId : String)
    (cfDomain : Option String) (credentialId : Nat) (L : List UserEvent)
    (rows : List (Row CredentialCols)) :
    Spec env (fun s => s.log = L ∧ (CredentialWritesSucceed env → CredentialsAt rows s))
      (syncCloudflareAccount c cfAccountId cfDomain (some credentialId))
      (fun _ t => t.log = L ∧ (CredentialWritesSucceed env → CredentialsAt rows t))
      fun o t => t.log = L ∧ ∀ e, o = some e → CredentialWritesSucceed env →
        CredentialsAt rows t ∨
          CredentialsAt (rows.map (UserStore.setStatusRow credentialId "failed" (some e.str))) t := by
  unfold syncCloudflareAccount
  refine Spec.bind (Spec.attempt_of_moves
      (syncAccountZones_mem (silent_frame.and credentials_frame).toClass c cfAccountId cfDomain)
      (fun _ _ ⟨log, at_⟩ ⟨same, moved⟩ =>
        ⟨same.trans log, fun writes => (at_ writes).of_extends moved⟩)
      fun _ ⟨log, _⟩ => ⟨log, fun _ cut => nomatch cut⟩) fun outcome => ?_
  cases outcome with
  | ok _ => exact Spec.pure fun _ => id
  | error e =>
    exact Spec.bind (markFailed_log credentialId e L rows) fun _ =>
      Spec.raise fun _ ⟨log, at_⟩ => ⟨log, fun _ raised writes => by cases raised; exact at_ writes⟩

/-- The `try` block of the credential loop returns the counts of the credential with their
status written, or the exception its sync raised, after at most a `failed` write. -/
theorem attemptCredential_log (cred : UserCredential) (L : List UserEvent)
    (rows : List (Row CredentialCols)) :
    Spec env (fun s => s.log = L ∧ (CredentialWritesSucceed env → CredentialsAt rows s))
      (Py.attempt (syncCredential cred))
      (fun outcome t => t.log = L ∧ match outcome with
        | .ok counts => CredentialWritesSucceed env →
          CredentialsAt (rows.map (UserEvent.userDone cred.id counts).writeRow) t
        | .error e => CredentialWritesSucceed env → CredentialsAt rows t ∨
          CredentialsAt (rows.map (UserEvent.userFailed cred.id e).writeRow) t)
      fun o _ => o = none :=
  Spec.conseq (Spec.attempt
    (Spec.bind (syncCloudflareAccount_log _ cred.cfAccountId cred.cfDomain cred.id L rows) fun _ =>
      Spec.bind (Spec.conseq (updateCredentialSyncStatus_log cred.id _ none L rows)
        (fun _ ⟨log, at_⟩ => ⟨log, fun writes => .inl (at_ writes)⟩) (fun _ _ h => h)
        fun _ _ h => h) fun _ => Spec.pure fun _ h => h) fun _ _ => rfl)
    (fun _ h => h) (fun r _ h => by cases r with
      | ok _ => exact h
      | error e => exact ⟨h.1, h.2 e rfl⟩) fun _ _ h => h

/-- **The credential loop logs one run per credential**, counts its errors, and writes the
status of each credential as its log line says. -/
theorem userLoop_log :
    ∀ (creds : List UserCredential) (totals : Counts) (L : List UserEvent)
      (rows : List (Row CredentialCols)),
    Spec env (fun s => s.log = L ∧ (CredentialWritesSucceed env → CredentialsAt rows s))
      (userLoop creds totals)
      (fun totals' t => ∃ events, (t.log = L ++ events ∧ (CredentialWritesSucceed env →
          CredentialsAt (rows.map (statusAfter events)) t)) ∧
        UserRun creds events ∧ totals'.errors = totals.errors + countedErrors events)
      fun o _ => o = none
  | [], _, _, _ => Spec.pure fun _ ⟨log, at_⟩ =>
      ⟨[], ⟨by simp [log], by simpa using at_⟩, .finished, by simp⟩
  | cred :: creds, totals, L, rows => by
    rw [userLoop]
    refine Spec.bind (Spec.emit_and fun _ h => h) fun _ =>
      Spec.bind (attemptCredential_log cred _ rows) fun outcome => ?_
    cases outcome with
    | ok counts =>
      refine Spec.bind (Spec.emit_and fun _ h => h) fun _ =>
        Spec.conseq (userLoop_log creds _ _ _) (fun _ h => h) ?_ fun _ _ h => h
      rintro _ _ ⟨events, ⟨log, at_⟩, run, count⟩
      refine ⟨_ :: _ :: events, ⟨by simp [log], ?_⟩, .done counts run, ?_⟩
      · simpa [List.map_map, Function.comp_def, UserEvent.writeRow, UserEvent.statusWrite] using at_
      · simp [count, Counts.add, UserEvent.errors]
        omega
    | error e =>
      refine Spec.bind (Spec.emit_and fun _ h => h) fun _ =>
        Spec.bind (updateCredentialSyncStatus_log cred.id "failed" (some e.str) _ rows) fun _ =>
          Spec.conseq (userLoop_log creds _ _ _) (fun _ h => h) ?_ fun _ _ h => h
      rintro _ _ ⟨events, ⟨log, at_⟩, run, count⟩
      refine ⟨_ :: _ :: events, ⟨by simp [log], ?_⟩, .failed e run, ?_⟩
      · simpa [List.map_map, Function.comp_def, UserEvent.writeRow, UserEvent.statusWrite] using at_
      · simp [count, Counts.failed, UserEvent.errors]
        omega

/-- The loop of `load_user_credentials` skips the rows whose secret does not open. -/
theorem credentialLoop_log (openGcm : List UInt8 → List UInt8 → List UInt8 → Option (List UInt8)) :
    ∀ (rows : List (Row CredentialCols)) (L : List UserEvent) (C : List (Row CredentialCols)),
    Spec env (fun s => s.log = L ∧ CredentialsAt C s) (credentialLoop openGcm rows)
      (fun creds t => (t.log = L ++ skippedRows openGcm rows ∧ CredentialsAt C t) ∧
        creds = loadedCredentials openGcm rows) fun o _ => o = none
  | [], _, _ => Spec.pure fun _ ⟨log, at_⟩ => ⟨⟨by simp [log, skippedRows], at_⟩, rfl⟩
  | row :: rows, L, C => by
    rw [credentialLoop]
    cases loaded : loadCredential openGcm row with
    | ok cred =>
      exact Spec.bind (credentialLoop_log openGcm rows L C) fun _ =>
        Spec.pure fun _ ⟨⟨log, at_⟩, same⟩ => ⟨⟨by simp [log, skippedRows, loaded], at_⟩,
          by simp [same, loadedCredentials, loaded, Except.toOption]⟩
    | error e =>
      refine Spec.bind (Spec.emit_and fun _ h => h) fun _ =>
        Spec.conseq (credentialLoop_log openGcm rows _ C) (fun _ h => h) ?_ fun _ _ h => h
      rintro _ _ ⟨⟨log, at_⟩, same⟩
      exact ⟨⟨by simp [log, skippedRows, loaded], at_⟩,
        by simp [same, loadedCredentials, loaded, Except.toOption]⟩

/-- A `SELECT` keeps every fact about the world but its tick, returns what `read` reads off the
open transaction, and raises only the error the server refuses it with. -/
theorem query_refused {Q : Sys UserStore UserEvent → Prop} {α : Type} {table : String}
    {read : UserStore → α} (keeps : ∀ s : Sys UserStore UserEvent, Q s → Q { s with tick := s.tick + 1 }) :
    Spec env Q (Py.query table read) (fun a t => Q t ∧ a = read t.pending)
      fun o t => Q t ∧ ∀ e, o = some e → ∃ k code message,
        env.refuse k table = some (code, message) ∧ e = .database code message := by
  intro s hs
  simp only [Py.query, Py.execute]
  split
  next code message refused =>
    exact ⟨keeps s hs, fun _ raised => by cases raised; exact ⟨_, _, _, refused, rfl⟩⟩
  next => exact ⟨keeps s hs, rfl⟩

/-- **`load_user_credentials` never raises**: it returns the credentials of the selected rows
whose secret opens, or none after a `SELECT` the server refused. -/
theorem loadUserCredentials_log (db : UserStore) (L : List UserEvent) :
    Spec env (fun s => s.log = L ∧ CredentialsAt db.credentials s) loadUserCredentials
      (fun creds t => ∃ events, (t.log = L ++ events ∧ CredentialsAt db.credentials t) ∧
        LoadRun env db.selectCredentials creds events) fun o _ => o = none := by
  unfold loadUserCredentials
  refine Spec.bind (Spec.attempt (query_refused fun _ h => h) fun _ _ => rfl) fun rows => ?_
  cases rows with
  | ok rows =>
    refine Spec.conseq (Spec.pure_pre fun (same : rows = db.selectCredentials) =>
        Spec.env' (Spec.conseq (credentialLoop_log env.decryptGcm rows L db.credentials)
          (fun _ h => h) ?_ fun _ _ h => h)) ?_ (fun _ _ h => h) fun _ _ h => h
    · rintro _ _ ⟨⟨log, at_⟩, loaded⟩
      exact ⟨_, ⟨log, at_⟩, .inl ⟨same ▸ loaded, by rw [same]⟩⟩
    · rintro t ⟨⟨log, at_⟩, read⟩
      refine ⟨⟨log, at_⟩, read.trans ?_⟩
      simp [UserStore.selectCredentials, at_.2]
  | error e =>
    exact Spec.pure_pre fun refused => Spec.bind (Spec.emit_and fun _ h => h) fun _ =>
      Spec.pure fun _ ⟨log, at_⟩ => ⟨_, ⟨log, at_⟩, .inr ⟨rfl, e, refused e rfl, rfl⟩⟩

/-- **The global loop logs each account until the first whose sync raised**, and counts the
errors of the accounts it logged. -/
theorem globalLoop_log (c : CloudflareClient) :
    ∀ (ids : List String) (totals : Counts) (L : List UserEvent) (C : List (Row CredentialCols)),
    Spec env (fun s => s.log = L ∧ CredentialsAt C s) (globalLoop c ids totals)
      (fun reached t => ∃ events, (t.log = L ++ events ∧ CredentialsAt C t) ∧
        GlobalRun ids events reached.2 ∧ reached.1.errors = totals.errors + countedErrors events)
      fun o _ => o = none
  | [], _, _, _ => Spec.pure fun _ ⟨log, at_⟩ => ⟨[], ⟨by simp [log], at_⟩, .finished, by simp⟩
  | cfAccountId :: rest, totals, L, C => by
    rw [globalLoop]
    refine Spec.bind (Spec.emit_and fun _ h => h) fun _ => Spec.bind (Spec.attempt_of_moves
      (syncCloudflareAccount_untouched c cfAccountId none)
      (fun _ _ ⟨log, at_⟩ ⟨same, moved⟩ => ⟨same.trans log, at_.of_extends moved⟩) fun _ _ => rfl)
      fun outcome => ?_
    cases outcome with
    | ok counts =>
      refine Spec.bind (Spec.emit_and fun _ h => h) fun _ =>
        Spec.conseq (globalLoop_log c rest _ _ C) (fun _ h => h) ?_ fun _ _ h => h
      rintro _ _ ⟨events, ⟨log, at_⟩, run, count⟩
      refine ⟨_ :: _ :: events, ⟨by simp [log], at_⟩, .done counts run, ?_⟩
      simp [count, Counts.add, UserEvent.errors]
      omega
    | error e =>
      exact Spec.pure fun _ ⟨log, at_⟩ => ⟨[_], ⟨log, at_⟩, .raised e, by simp [UserEvent.errors]⟩

theorem globalAttempt_log (path : String) (file : Option RawConfig) (totals : Counts)
    (L : List UserEvent) (C : List (Row CredentialCols)) :
    Spec env (fun s => s.log = L ∧ CredentialsAt C s) (globalAttempt path file totals)
      (fun reached t => ∃ events, (t.log = L ++ events ∧ CredentialsAt C t) ∧
        GlobalAttemptRun path file events reached.2 ∧
        reached.1.errors = totals.errors + countedErrors events)
      fun o _ => o = none := by
  unfold globalAttempt GlobalAttemptRun
  cases loadCloudflareConfig path file with
  | ok cfConfig => exact globalLoop_log _ _ _ _ _
  | error e => exact Spec.pure fun _ ⟨log, at_⟩ => ⟨[], ⟨by simp [log], at_⟩, ⟨rfl, rfl⟩, by simp⟩

/-- **The global phase ends inside `main`**, with its failure logged and counted, unless its
`try` body raised what `except (ConfigError, CloudflareError)` does not catch. -/
theorem globalPhase_log (path : String) (file : Option RawConfig) (totals : Counts)
    (L : List UserEvent) (C : List (Row CredentialCols)) :
    Spec env (fun s => s.log = L ∧ CredentialsAt C s) (globalPhase path file totals)
      (fun totals' t => ∃ events, (t.log = L ++ events ∧ CredentialsAt C t) ∧
        GlobalCaught path file events ∧ totals'.errors = totals.errors + countedErrors events)
      fun o t => ∀ e, o = some e → ∃ attempted, (t.log = L ++ attempted ∧ CredentialsAt C t) ∧
        GlobalAttemptRun path file attempted (some e) ∧ (e.isConfig || e.isCloudflare) = false := by
  unfold globalPhase
  refine Spec.bind (Spec.conseq (globalAttempt_log path file totals L C) (fun _ h => h)
      (fun _ _ h => h) fun _ _ cut _ raised => by subst cut; cases raised) fun reached =>
    Spec.exists_pre fun events => ?_
  rcases reached with ⟨totals', _ | e⟩
  · exact Spec.pure_pre fun ⟨run, count⟩ => Spec.pure fun _ h => ⟨events, h, .inl run, count⟩
  refine Spec.pure_pre fun ⟨run, count⟩ => ?_
  dsimp only
  split
  next handled =>
    exact Spec.bind (Spec.emit_and fun _ h => h) fun _ => Spec.pure fun _ ⟨log, at_⟩ =>
      ⟨_, ⟨by simp [log], at_⟩, .inr ⟨events, e, run, handled, rfl⟩,
        by dsimp only at count; simp [Counts.failed, count, UserEvent.errors]; omega⟩
  next passed =>
    exact Spec.raise fun _ ⟨log, at_⟩ _ raised => by
      cases raised
      exact ⟨events, ⟨log, at_⟩, run, by simpa using passed⟩

/-- Every exception of the connection loop is the one it raises after the last host. -/
theorem connectLoop_refused : ∀ (order : List Host) (lastError : Option Exc)
    (s t : Sys UserStore UserEvent) (e : Exc),
    (DatabaseConfig.connectLoop order lastError : UserM Host) env s = .error e t → ConnectRefused e
  | [], _, _, _, _, raised => by
    simp only [DatabaseConfig.connectLoop, Py.run_raise, Res.error.injEq] at raised
    exact ⟨_, raised.1.symm⟩
  | host :: rest, _, s, t, e, raised => by
    simp only [DatabaseConfig.connectLoop, Py.run_tryExcept, Py.run_bind, Py.connect] at raised
    cases refused : env.refuse s.tick s!"{host.1}:{host.2}" with
    | none => simp [refused] at raised
    | some err =>
      simp only [refused, if_true] at raised
      exact connectLoop_refused rest _ _ t e raised

/-- `DatabaseConnectionManager.connect` raises only `Unable to connect to any DB host`. -/
theorem connect_refused (config : DatabaseConfig) {pre : Sys UserStore UserEvent → Prop} :
    Spec env pre (config.connect : UserM Host) (fun _ _ => True)
      fun o _ => ∀ e, o = some e → ConnectRefused e := fun s _ => by
  obtain ⟨order, draws, ordered, -⟩ := orderedHosts_run config env s
  simp only [DatabaseConfig.connect, Py.run_bind, ordered]
  cases connected : DatabaseConfig.connectLoop order none env { s with tick := s.tick + draws } with
  | ok => trivial
  | error e t =>
    exact fun _ raised => by cases raised; exact connectLoop_refused order none _ t e connected
  | diverge t => exact fun _ raised => nomatch raised

/-- `DatabaseConnectionManager.connect` logs nothing and keeps the credential rows. -/
theorem connect_log (config : DatabaseConfig) (L : List UserEvent)
    (C : List (Row CredentialCols)) :
    Spec env (fun s => s.log = L ∧ CredentialsAt C s) (config.connect : UserM Host)
      (fun _ t => t.log = L ∧ CredentialsAt C t) fun _ t => t.log = L ∧ CredentialsAt C t :=
  Spec.of_moves (DatabaseConfig.connect_reconnects config)
    (fun _ _ _ ⟨log, at_⟩ moved => ⟨moved.2.2.1.trans log, at_.of_reconnects moved⟩)
    fun _ _ _ ⟨log, at_⟩ moved => ⟨moved.2.2.1.trans log, at_.of_reconnects moved⟩

/-- The global phase as `main` runs it: skipped, ended inside `main`, or escaped. -/
theorem globalStage_log (args : UserSyncArgs) (files : String → Option RawConfig)
    (L : List UserEvent) (C : List (Row CredentialCols)) :
    Spec env (fun s => s.log = L ∧ CredentialsAt C s) (globalStage args files)
      (fun totals t => ∃ events, (t.log = L ++ events ∧ CredentialsAt C t) ∧
        GlobalPhaseRun args files events ∧ totals.errors = countedErrors events)
      fun o t => ∀ e, o = some e → ∃ attempted, (t.log = L ++ attempted ∧ CredentialsAt C t) ∧
        Escaped args files attempted e := by
  unfold globalStage
  by_cases run : (!args.skipGlobal && (files args.cfConfig).isSome) = true
  · rw [if_pos run]
    refine Spec.conseq (globalPhase_log _ _ _ L C) (fun _ h => h) ?_ ?_
    · rintro _ _ ⟨events, at_, caught, count⟩
      exact ⟨events, at_, by rw [GlobalPhaseRun, if_pos run]; exact caught, by simpa using count⟩
    · intro _ _ escaped e raised
      obtain ⟨attempted, at_, attemptedRun, passed⟩ := escaped e raised
      exact ⟨attempted, at_, .inr ⟨run, attemptedRun, passed⟩⟩
  · rw [if_neg run]
    exact Spec.pure fun _ ⟨log, at_⟩ =>
      ⟨[], ⟨by simp [log], at_⟩, by rw [GlobalPhaseRun, if_neg run], rfl⟩

/-- The user phase as `main` runs it: skipped, or the loading and one run per credential
loaded, with the status of each credential written as its log line says. -/
theorem userStage_log (args : UserSyncArgs) (totals : Counts) (db : UserStore)
    (L : List UserEvent) :
    Spec env (fun s => s.log = L ∧ CredentialsAt db.credentials s) (userStage args totals)
      (fun totals' t => ∃ events, (t.log = L ++ events ∧ (CredentialWritesSucceed env →
          CredentialsAt (db.credentials.map (statusAfter events)) t)) ∧
        UserPhaseRun args env db.selectCredentials events ∧
        totals'.errors = totals.errors + countedErrors events)
      fun o _ => o = none := by
  unfold userStage
  by_cases skip : args.skipUsers = true
  · rw [if_neg (by simp [skip])]
    exact Spec.pure fun _ ⟨log, at_⟩ => ⟨[], ⟨by simp [log], fun _ => by simpa using at_⟩,
      by rw [UserPhaseRun, if_pos skip], by simp⟩
  rw [if_pos (by simpa using skip)]
  refine Spec.bind (loadUserCredentials_log db L) fun creds =>
    Spec.exists_pre fun loadEvents => Spec.pure_pre fun loaded => ?_
  refine Spec.conseq (userLoop_log creds totals _ db.credentials)
    (fun _ ⟨log, at_⟩ => ⟨log, fun _ => at_⟩) ?_ fun _ _ h => h
  rintro _ _ ⟨events, ⟨log, at_⟩, run, count⟩
  have quiet : NoWrites loadEvents ∧ countedErrors loadEvents = 0 := by
    rcases loaded with ⟨-, rfl⟩ | ⟨-, e, -, rfl⟩
    · exact ⟨skippedRows_noWrites _ _, countedErrors_skippedRows _ _⟩
    · exact ⟨.singleton _ rfl, rfl⟩
  refine ⟨loadEvents ++ events, ⟨by simp [log], ?_⟩, ?_, by simp [count, quiet.2]⟩
  · rwa [statusAfter_noWrites_append quiet.1]
  rw [UserPhaseRun, if_neg skip]
  rcases loaded with ⟨rfl, rfl⟩ | ⟨rfl, e, refused, rfl⟩
  · exact .inr ⟨events, rfl, run⟩
  · cases run
    exact .inl ⟨e, refused, rfl⟩

/-- The `try` body of `main` returns with a completed run, or raises before the phases or out of
the global phase. -/
theorem userMainBody_log (args : UserSyncArgs) (files : String → Option RawConfig)
    (db : UserStore) (L : List UserEvent) :
    Spec env (fun s => s.log = L ∧ CredentialsAt db.credentials s) (userMainBody args files)
      (fun code t => ∃ events, (t.log = L ++ events ∧ (CredentialWritesSucceed env →
          CredentialsAt (db.credentials.map (statusAfter events)) t)) ∧
        MainRun args files env db.selectCredentials events code)
      fun o t => ∀ e, o = some e → ∃ events, (t.log = L ++ events ∧
        CredentialsAt db.credentials t) ∧ Escaped args files events e := by
  unfold userMainBody
  refine Spec.bind (Spec.lift_pre fun e _ ⟨log, at_⟩ failed _ raised => by
    cases raised; exact ⟨[], ⟨by simp [log], at_⟩, .inl ⟨rfl, .inl failed⟩⟩) fun dbConfig =>
    Spec.pure_pre fun loaded => ?_
  refine Spec.bind (Spec.conseq (Spec.and (connect_log dbConfig L db.credentials)
      (connect_refused dbConfig)) (fun _ h => h) (fun _ _ h => h.1)
    fun _ _ ⟨⟨log, at_⟩, refused⟩ e raised =>
      ⟨[], ⟨by simp [log], at_⟩, .inl ⟨rfl, .inr ⟨⟨dbConfig, loaded⟩, refused e raised⟩⟩⟩) fun _ => ?_
  refine Spec.bind (globalStage_log args files L db.credentials) fun totals =>
    Spec.exists_pre fun globalEvents => Spec.pure_pre fun ⟨globalRun, globalCount⟩ => ?_
  refine Spec.bind (Spec.conseq (userStage_log args totals db _) (fun _ h => h) (fun _ _ h => h)
    fun _ _ cut _ raised => by subst cut; cases raised) fun totals' =>
    Spec.exists_pre fun userEvents => Spec.pure_pre fun ⟨userRun, userCount⟩ => ?_
  refine Spec.bind (Spec.close_and fun _ ⟨log, at_⟩ =>
      ⟨log, fun writes => ⟨(at_ writes).1, (at_ writes).1⟩⟩) fun _ =>
    Spec.bind (Spec.emit_and fun _ h => h) fun _ => Spec.pure ?_
  rintro _ ⟨log, at_⟩
  refine ⟨globalEvents ++ userEvents ++ [.syncComplete totals'], ⟨by simp [log], ?_⟩,
    .completed totals' globalRun userRun (by simp [userCount, globalCount])⟩
  rwa [statusAfter_append_noWrites _ (.singleton (.syncComplete totals') rfl),
    statusAfter_noWrites_append globalRun.noWrites]

end Steps

/-- **The multi-user `main` never raises.** A run that returns has a log and an exit code that
`MainRun` accepts; when the server accepts every write of a status, the committed credential
rows are those of the start with the log's status writes applied. A run is only cut off by a
listing that outruns the pages the model follows, which a paged provider never does
(`userMain_ends`). -/
theorem userMain_run (args : UserSyncArgs) (files : String → Option RawConfig) (env : Env)
    (db : UserStore) (L : List UserEvent) :
    Spec env (fun s => s.log = L ∧ CredentialsAt db.credentials s) (userMain args files)
      (fun code t => ∃ events, t.log = L ++ events ∧
        MainRun args files env db.selectCredentials events code ∧
        (CredentialWritesSucceed env →
          t.committed.credentials = db.credentials.map (statusAfter events)))
      fun o _ => o = none := by
  unfold userMain
  refine Spec.bind (Spec.attempt (userMainBody_log args files db L) fun _ _ => rfl)
    fun outcome => ?_
  cases outcome with
  | ok code =>
    exact Spec.pure fun _ ⟨events, ⟨log, at_⟩, run⟩ => ⟨events, log, run, fun writes => (at_ writes).1⟩
  | error e =>
    refine Spec.conseq (Spec.exists_pre fun events =>
      Spec.pure_pre fun (escaped : Escaped args files events e) =>
        Spec.bind (Spec.emit_and fun _ h => h) fun _ => Spec.pure fun _ ⟨log, at_⟩ =>
          ⟨events ++ [.runFailed e], by simp [log], escaped.mainRun _ _, fun _ => ?_⟩)
      (fun _ h => h e rfl) (fun _ _ h => h) fun _ _ h => h
    rw [at_.1, statusAfter_eq_id (escaped.noWrites.append (.singleton (.runFailed e) rfl)), List.map_id]

/-- **The phases of the multi-user `main`.** From a fresh session, every run of `main` returns
under a paged provider, and its log and exit code are a run of `MainRun` over the credential
rows of the store: a failure to load the database config or to connect; a global phase that
raised what its handler does not catch, after which the user phase never runs; or both phases,
the global loop stopping at the first account whose sync raised, and every credential loaded
announced and then logged as done or failed. -/
theorem userMain_phases (args : UserSyncArgs) (files : String → Option RawConfig) (env : Env)
    (db : UserStore) (autoInc tick : Nat) :
    match userMain args files env (Sys.session db autoInc tick []) with
    | .ok code t => MainRun args files env db.selectCredentials t.log code
    | .error _ _ => False
    | .diverge _ => ¬ env.Paged := by
  have run := userMain_run args files env db [] (Sys.session db autoInc tick []) ⟨rfl, rfl, rfl⟩
  revert run
  cases ran : userMain args files env (Sys.session db autoInc tick []) with
  | ok code t =>
    rintro ⟨events, log, main, -⟩
    show MainRun _ _ _ _ t.log code
    rwa [log, List.nil_append]
  | error e t => exact fun raised => nomatch raised
  | diverge t => exact fun _ paged => userMain_ends paged args files _ t ran

/-- Two global accounts, the first of which gets status 200 with the JSON body `[]` for its
zone listing, and one enabled auto-sync credential. `.get` on the list raises `AttributeError`
out of `request`; `sync_cloudflare_account` re-raises it, and the global phase, which catches
only `ConfigError` and `CloudflareError`, lets it through to the outer handler. `main` returns
1 without announcing the second account, and the user phase never runs: the credential is
never synced and its row keeps its status. -/
theorem userMain_global_escape :
    let files : String → Option RawConfig := fun path =>
      if path = "cloudflare.ini" then some [("cf_account_ids", "a1,a2"), ("api_token", "token")]
      else if path = "mydns.conf" then
        some [("db-user", "mydns"), ("db-password", "secret"), ("database", "mydns")]
      else none
    let db : UserStore := ⟨[], [], [],
      [⟨1, ⟨7, 0, "user@example.com", "00", "u1", none, none, 1, 1, none, none⟩⟩]⟩
    ∃ t, userMain ⟨"cloudflare.ini", "mydns.conf", false, false⟩ files
        ⟨fun _ _ => .response 200 "[]" (some (.arr [])), fun _ _ => none, fun _ => 0,
          fun _ _ _ => none, fun _ => none, 1⟩ (Sys.session db 0 0 []) = .ok 1 t ∧
      t.log = [.globalAccount "a1", .runFailed (Exc.noAttribute (.arr []) "get")] ∧
      t.committed.credentials = db.credentials :=
  ⟨_, rfl, rfl, rfl⟩

end CloudflareSync
