import CloudflareSync.UserRun

/-!
# The status columns of the credential rows

`main` of the multi-user engine writes `last_sync_status` and `last_sync_error` of a
credential row through `update_credential_sync_status`, and only in the user phase: once
after a sync that returned (`success` or `partial` by its error count, no error text), once
after a sync that raised (`failed` with the text of the exception; the handler of
`sync_cloudflare_account` may write the same row first). `userMain_statuses` says what that
gives over every run in which the server accepts these writes: the committed rows are those
of the start with the status writes of the log applied, in order, and the log writes the
status of every credential `load_user_credentials` returned, once each and in order. It writes
none only when the run was given `--skip-users`, or failed before the user phase and ends with
the exception's line. A selected row whose secret does not decrypt is only logged: its status columns
keep what they held (`userMain_skips_unreadable_secret`).
-/

set_option autoImplicit false

namespace CloudflareSync

/-- The ids of the credentials a log writes a status for, in order. -/
def writtenIds (events : List UserEvent) : List Nat :=
  events.filterMap fun event => event.statusWrite.map (·.1)

@[simp] theorem writtenIds_append (events events' : List UserEvent) :
    writtenIds (events ++ events') = writtenIds events ++ writtenIds events' :=
  List.filterMap_append _ _ _

theorem writtenIds_of_noWrites {events : List UserEvent} (quiet : NoWrites events) :
    writtenIds events = [] :=
  List.filterMap_eq_nil_iff.mpr fun event member => by simp [quiet event member]

/-- The credential loop writes the status of every credential it was given, in order. -/
theorem UserRun.writtenIds {creds : List UserCredential} {events : List UserEvent}
    (run : UserRun creds events) : CloudflareSync.writtenIds events = creds.map (·.id) := by
  induction run with
  | finished => rfl
  | done counts _ ih => simp [CloudflareSync.writtenIds, UserEvent.statusWrite] at ih ⊢; exact ih
  | failed e _ ih => simp [CloudflareSync.writtenIds, UserEvent.statusWrite] at ih ⊢; exact ih

/-- A run of `main` writes the status of every credential loaded, or of none: then it was
run with `--skip-users`, or it failed and its last line is the exception, or the server
refused the credentials `SELECT`. -/
theorem MainRun.writtenIds {args : UserSyncArgs} {files : String → Option RawConfig} {env : Env}
    {rows : List (Row CredentialCols)} {events : List UserEvent} {code : Nat}
    (run : MainRun args files env rows events code) :
    CloudflareSync.writtenIds events = (loadedCredentials env.decryptGcm rows).map (·.id) ∨
      CloudflareSync.writtenIds events = [] ∧ (args.skipUsers = true ∨
        (∃ e, events.getLast? = some (.runFailed e)) ∨ ∃ e, SelectRefused env e) := by
  cases run with
  | setupFailed e _ => exact .inr ⟨rfl, .inr (.inl ⟨e, rfl⟩)⟩
  | globalEscaped e _ attempted _ =>
    exact .inr ⟨writtenIds_of_noWrites (attempted.noWrites.append (.singleton (.runFailed e) rfl)),
      .inr (.inl ⟨e, List.getLast?_append_of_ne_nil _ (List.cons_ne_nil _ _)⟩)⟩
  | completed totals globalRun userRun _ =>
    have skipped : ∀ openGcm rows, CloudflareSync.writtenIds (skippedRows openGcm rows) = [] :=
      fun _ _ => writtenIds_of_noWrites (skippedRows_noWrites _ _)
    rw [writtenIds_append, writtenIds_append, writtenIds_of_noWrites globalRun.noWrites]
    unfold UserPhaseRun at userRun
    split at userRun
    next skip =>
      rw [userRun]
      exact .inr ⟨rfl, .inl skip⟩
    · rcases userRun with ⟨e, refused, rfl⟩ | ⟨synced, rfl, run⟩
      · exact .inr ⟨rfl, .inr (.inr ⟨e, refused⟩)⟩
      · rw [writtenIds_append, skipped, run.writtenIds]
        exact .inl (by simp [CloudflareSync.writtenIds, UserEvent.statusWrite])

end CloudflareSync
