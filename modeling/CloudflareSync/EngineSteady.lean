import CloudflareSync.ZoneWrite

/-!
# The single-credential engine against a steady environment

Against a server that accepts every statement and a provider that answers each request the
same way whenever it is made (`Env.Steady`), and whose three listings return the lists of `l`
(`Listings.Answers`), a run of `sync_accounts` in which every row builds returns, and what it
commits is a function of the store and the counter it starts on. This module writes that
function down, statement by statement (`syncZoneWrites`, `zoneLoopWrites`,
`accountLoopWrites`), and proves that the engine computes it (`syncZone_writes` up to
`syncAccounts_writes`).

The functions live in `Except`: a zone or an account field that is read from a value of the
wrong shape, or a row builder that raises, gives the exception, which is no
`CloudflareError`. Only the successful case is stated of the engine.
-/

set_option autoImplicit false

namespace CloudflareSync

/-- What a provider lists: the zones of each account id, and the records and the load
balancers of each zone id. -/
structure Listings where
  zones : String → List JVal
  records : JVal → List JVal
  balancers : JVal → List JVal

/-- The client's three listings return the lists of `l` from every world. -/
structure Listings.Answers (l : Listings) (c : CloudflareClient) (env : Env) : Prop where
  zones : ∀ accountId (s : Sys Store SyncEvent),
    ∃ t, c.listZones accountId env s = .ok (l.zones accountId) t
  records : ∀ zoneId (s : Sys Store SyncEvent),
    ∃ t, c.listRecords zoneId env s = .ok (l.records zoneId) t
  balancers : ∀ zoneId (s : Sys Store SyncEvent),
    ∃ t, c.listLoadBalancers zoneId env s = .ok (l.balancers zoneId) t

/-! ## What the engine writes -/

/-- What `sync_zone` commits for `zone` of account row `accountId`, from the store and counter
`w`: the zone upsert and the replacement of the zone's records and load balancers, with the
counter after them. -/
def syncZoneWrites (iso : String → Option String) (l : Listings) (accountId : Nat) (zone : JVal)
    (w : Store × Nat) : Except Exc (Store × Nat) := do
  let zoneId ← zone.index "id"
  let cols ← zoneColumns accountId zone
  let upserted := w.1.upsertZone cols w.2
  let rows ← (l.records zoneId).mapM (recordColumns iso upserted.2.2)
  let lbs ← (l.balancers zoneId).mapM (balancerColumns upserted.2.2)
  pure (Store.replaceZone cols rows lbs w.1 w.2, upserted.2.1 + rows.length + lbs.length)

/-- The account row the zone loop upserts for `zone` of account id `accountId`: the `id` and
the `name` of the zone's `account`, or of the default account. -/
def zoneAccount (accountId : String) (zone : JVal) : Except Exc (JVal × JVal) := do
  let account ← zone.get "account"
  let accountData := account.orElse (defaultAccount accountId)
  let cfAccountId ← accountData.getD "id" (.str accountId)
  let name ← accountData.get "name"
  pure (cfAccountId, name.orElse (.str "Cloudflare account"))

/-- What the zone loop of account id `accountId` commits over `zones`: a zone whose `id` is
falsy is skipped, every other one has its account upserted and committed, then is synced. -/
def zoneLoopWrites (iso : String → Option String) (l : Listings) (accountId : String) :
    List JVal → Store × Nat → Except Exc (Store × Nat)
  | [], w => .ok w
  | zone :: zones, w => do
    let zoneId ← zone.get "id"
    if !zoneId.truthy then zoneLoopWrites iso l accountId zones w
    else
      let account ← zoneAccount accountId zone
      let upserted := w.1.upsertAccount account.1 account.2 w.2
      let synced ← syncZoneWrites iso l upserted.2.2 zone (upserted.1, upserted.2.1)
      zoneLoopWrites iso l accountId zones synced

/-- What the account loop commits over `accountIds`. -/
def accountLoopWrites (iso : String → Option String) (l : Listings) :
    List String → Store × Nat → Except Exc (Store × Nat)
  | [], w => .ok w
  | accountId :: rest, w => do
    let synced ← zoneLoopWrites iso l accountId (l.zones accountId) w
    accountLoopWrites iso l rest synced

/-! ## The engine computes them -/

/-- The world holds the open transaction and counter `w` over the committed store `c`. -/
def Stored (w : Store × Nat) (c : Store) (s : Sys Store SyncEvent) : Prop :=
  s.pending = w.1 ∧ s.autoInc = w.2 ∧ s.committed = c

/-- A lifted step whose value is known. -/
theorem lift_known {σ ε α : Type} {env : Env} {pre : Sys σ ε → Prop}
    {abort : Option Exc → Sys σ ε → Prop} {x : Except Exc α} {a : α} (known : x = .ok a) :
    Spec env pre (Py.lift x) (fun b s => pre s ∧ b = a) abort := by
  subst known
  exact Spec.lift fun _ h => ⟨h, rfl⟩

section Steady

variable {env : Env} (steady : env.Steady)

/-- A step that touches neither store and returns `v` from every world. -/
theorem listed_stored {α : Type} {m : SyncM α} {v : α} (quiet : Py.Quiet m)
    (listed : ∀ s, ∃ t, m env s = .ok v t) (w : Store × Nat) (c : Store) :
    Spec env (Stored w c) m (fun a t => Stored w c t ∧ a = v) fun _ _ => False := by
  intro s stored
  obtain ⟨t, run⟩ := listed s
  obtain ⟨committed, pending, autoInc, -⟩ := quiet.data_of_ok run
  rw [run]
  exact ⟨⟨pending.trans stored.1, autoInc.trans stored.2.1, committed.trans stored.2.2⟩, rfl⟩

/-- A log line keeps the stores. -/
theorem emit_stored {abort : Option Exc → Sys Store SyncEvent → Prop} (entry : SyncEvent)
    (w : Store × Nat) (c : Store) :
    Spec env (Stored w c) (Py.emit entry) (fun _ => Stored w c) abort :=
  Spec.emit fun _ h => h

include steady

theorem execute_stored {α : Type} (table : String) (stmt : Store → Nat → Store × Nat × α)
    (w : Store × Nat) (c : Store) {abort : Option Exc → Sys Store SyncEvent → Prop} :
    Spec env (Stored w c) (Py.execute table stmt)
      (fun a t => Stored ((stmt w.1 w.2).1, (stmt w.1 w.2).2.1) c t ∧ a = (stmt w.1 w.2).2.2)
      abort :=
  Spec.execute_steady steady fun _ ⟨pending, autoInc, committed⟩ => by
    refine ⟨⟨?_, ?_, committed⟩, ?_⟩ <;> simp only [pending, autoInc]

theorem commit_stored (w : Store × Nat) (c : Store)
    {abort : Option Exc → Sys Store SyncEvent → Prop} :
    Spec env (Stored w c) (Py.commit : SyncM Unit) (fun _ => Stored w w.1) abort :=
  Spec.commit_steady steady fun _ stored => ⟨stored.1, stored.2.1, stored.1⟩

theorem upsertZone_stored {accountId : Nat} {zone : JVal} {cols : ZoneCols}
    (built : zoneColumns accountId zone = .ok cols) (w : Store × Nat) (c : Store) :
    Spec env (Stored w c) (upsertZone accountId zone)
      (fun localId t => Stored ((w.1.upsertZone cols w.2).1, (w.1.upsertZone cols w.2).2.1) c t ∧
        localId = (w.1.upsertZone cols w.2).2.2) fun _ _ => False := by
  unfold upsertZone
  exact Spec.bind_known (lift_known built) (execute_stored steady _ _ w c)

theorem replaceZoneRecords_stored {zoneId : Nat} {records : List JVal} {rows : List RecordCols}
    (built : records.mapM (recordColumns env.isoTimestamp zoneId) = .ok rows) (w : Store × Nat)
    (c : Store) :
    Spec env (Stored w c) (replaceZoneRecords zoneId records)
      (fun _ => Stored ((Store.insertRecords rows (w.1.deleteRecords zoneId) w.2).1,
        w.2 + rows.length) c) fun _ _ => False := by
  unfold replaceZoneRecords
  refine Spec.bind (Spec.conseq (execute_stored steady _ _ w c) (fun _ h => h)
    (fun _ _ h => h.1) fun _ _ h => h) fun _ => ?_
  split
  next empty =>
    obtain rfl : records = [] := List.isEmpty_iff.mp empty
    cases built
    exact Spec.pure fun _ h => by simpa using h
  exact Spec.env' (Spec.bind_known (lift_known built)
    (Spec.bind (execute_stored steady _ _ _ c) fun _ => Spec.pure fun _ h => h.1))

theorem replaceZoneLoadBalancers_stored {zoneId : Nat} {balancers : List JVal}
    {lbs : List BalancerCols} (built : balancers.mapM (balancerColumns zoneId) = .ok lbs)
    (w : Store × Nat) (c : Store) :
    Spec env (Stored w c) (replaceZoneLoadBalancers zoneId balancers)
      (fun _ => Stored ((Store.insertBalancers lbs (w.1.deleteBalancers zoneId) w.2).1,
        w.2 + lbs.length) c) fun _ _ => False := by
  unfold replaceZoneLoadBalancers
  refine Spec.bind (Spec.conseq (execute_stored steady _ _ w c) (fun _ h => h)
    (fun _ _ h => h.1) fun _ _ h => h) fun _ => ?_
  split
  next empty =>
    obtain rfl : balancers = [] := List.isEmpty_iff.mp empty
    cases built
    exact Spec.pure fun _ h => by simpa using h
  exact Spec.bind_known (lift_known built)
    (Spec.bind (execute_stored steady _ _ _ c) fun _ => Spec.pure fun _ h => h.1)

variable {c : CloudflareClient} {l : Listings} (answers : l.Answers c env)

include answers

/-- **`sync_zone` computes `syncZoneWrites`** from a world with nothing pending. -/
theorem syncZone_writes {accountId : Nat} {zone : JVal} {w w' : Store × Nat}
    (written : syncZoneWrites env.isoTimestamp l accountId zone w = .ok w') :
    Spec env (Stored w w.1) (syncZone c accountId zone) (fun _ => Stored w' w'.1)
      fun _ _ => False := by
  obtain ⟨zoneId, indexed, written⟩ := bind_eq_ok written
  obtain ⟨cols, built, written⟩ := bind_eq_ok written
  obtain ⟨rows, rowsBuilt, written⟩ := bind_eq_ok written
  obtain ⟨lbs, lbsBuilt, written⟩ := bind_eq_ok written
  cases written
  unfold syncZone
  refine Spec.bind_known (lift_known indexed) (Spec.bind Spec.now fun _ => ?_)
  refine Spec.bind_known (listed_stored (CloudflareClient.listRecords_quiet c _)
    (answers.records _) w w.1) ?_
  refine Spec.bind_known (listed_stored (CloudflareClient.listLoadBalancers_quiet c _)
    (answers.balancers _) w w.1) ?_
  refine Spec.bind_known (upsertZone_stored steady built w w.1) ?_
  refine Spec.bind (replaceZoneRecords_stored steady rowsBuilt _ w.1) fun _ => ?_
  refine Spec.bind (replaceZoneLoadBalancers_stored steady lbsBuilt _ w.1) fun _ => ?_
  refine Spec.bind (Spec.conseq (execute_stored steady _ _ _ w.1) (fun _ h => h)
    (fun _ _ h => h.1) fun _ _ h => h) fun _ => ?_
  exact Spec.bind (commit_stored steady _ w.1) fun _ => Spec.pure fun _ h => h

/-- The `try` block of the zone loop returns the synced zone, and never reaches its handler. -/
theorem trySyncZone_writes {accountId : Nat} {zone : JVal} {w w' : Store × Nat}
    (written : syncZoneWrites env.isoTimestamp l accountId zone w = .ok w') :
    Spec env (Stored w w.1)
      (Py.tryExcept Exc.isCloudflare
        (do let synced ← syncZone c accountId zone; pure (some synced))
        fun e => do
          Py.rollback
          Py.emit (.zoneFailed zone e)
          pure none)
      (fun r t => r.isSome ∧ Stored w' w'.1 t) fun _ _ => False :=
  Spec.tryExcept (Spec.bind (syncZone_writes steady answers written) fun _ =>
    Spec.pure fun _ h => ⟨rfl, h⟩) (fun _ _ _ h => h.elim) fun _ _ h _ => h

/-- **The zone loop computes `zoneLoopWrites`** from a world with nothing pending. -/
theorem zoneLoop_writes (accountId : String) :
    ∀ (zones : List JVal) (summary : Summary) (w w' : Store × Nat),
      zoneLoopWrites env.isoTimestamp l accountId zones w = .ok w' →
      Spec env (Stored w w.1) (zoneLoop c accountId zones summary) (fun _ => Stored w' w'.1)
        fun _ _ => False
  | [], _, w, w', written => by
    cases written
    exact Spec.pure fun _ h => h
  | zone :: zones, summary, w, w', written => by
    obtain ⟨zoneId, got, written⟩ := bind_eq_ok written
    rw [zoneLoop]
    refine Spec.bind_known (lift_known got) ?_
    split
    next skipped =>
      simp only [skipped, if_true] at written
      exact Spec.bind (emit_stored _ w w.1) fun _ =>
        zoneLoop_writes accountId zones summary w w' written
    next kept =>
      simp only [kept, Bool.false_eq_true, if_false] at written
      obtain ⟨⟨cfAccountId, name⟩, account, afterAccount⟩ := bind_eq_ok written
      obtain ⟨synced, syncedWritten, rest⟩ := bind_eq_ok afterAccount
      obtain ⟨accountValue, gotAccount, account⟩ := bind_eq_ok account
      obtain ⟨cfId, gotId, account⟩ := bind_eq_ok account
      obtain ⟨nameValue, gotName, account⟩ := bind_eq_ok account
      cases account
      refine Spec.bind_known (lift_known gotAccount) ?_
      refine Spec.bind_known (lift_known gotId) ?_
      refine Spec.bind_known (lift_known gotName) ?_
      refine Spec.bind_known (execute_stored steady _ _ w w.1) ?_
      refine Spec.bind (commit_stored steady _ w.1) fun _ => ?_
      refine Spec.bind (trySyncZone_writes steady answers syncedWritten) fun r => ?_
      cases r with
      | none => exact fun _ h => absurd h.1 Bool.false_ne_true
      | some v =>
        exact Spec.conseq (Spec.bind (emit_stored _ synced synced.1) fun _ =>
          zoneLoop_writes accountId zones (summary.add v) synced w' rest) (fun _ h => h.2)
          (fun _ _ h => h) fun _ _ h => h

/-- **The account loop computes `accountLoopWrites`** from a world with nothing pending. -/
theorem accountLoop_writes :
    ∀ (accountIds : List String) (summary : Summary) (w w' : Store × Nat),
      accountLoopWrites env.isoTimestamp l accountIds w = .ok w' →
      Spec env (Stored w w.1) (accountLoop c accountIds summary) (fun _ => Stored w' w'.1)
        fun _ _ => False
  | [], _, w, w', written => by
    cases written
    exact Spec.pure fun _ h => h
  | accountId :: rest, summary, w, w', written => by
    obtain ⟨synced, zonesWritten, restWritten⟩ := bind_eq_ok written
    rw [accountLoop]
    have listing : Spec env (Stored w w.1)
        (Py.tryExcept Exc.isCloudflare
          (do let zones ← c.listZones accountId; pure (some zones))
          fun e => do
            Py.emit (.listFailed accountId e)
            pure none)
        (fun r t => Stored w w.1 t ∧ r = some (l.zones accountId)) fun _ _ => False :=
      Spec.tryExcept (Spec.bind_known (listed_stored (CloudflareClient.listZones_quiet c accountId)
        (answers.zones accountId) w w.1) (Spec.pure fun _ h => ⟨h, rfl⟩))
        (fun _ _ _ h => h.elim) fun _ _ h _ => h
    refine Spec.bind_known listing ?_
    refine Spec.bind (emit_stored _ w w.1) fun _ => ?_
    split
    next empty =>
      rw [List.isEmpty_iff.mp empty] at zonesWritten
      cases zonesWritten
      exact accountLoop_writes rest summary _ w' restWritten
    next =>
      exact Spec.bind (zoneLoop_writes steady answers accountId _ summary w synced zonesWritten)
        fun summary => accountLoop_writes rest summary synced w' restWritten

/-- **Against a steady environment that lists `l`, a run of `sync_accounts` whose rows all
build returns, and commits `accountLoopWrites`.** -/
theorem syncAccounts_writes (accountIds : List String) {db : Store} {n : Nat}
    {w' : Store × Nat} (written : accountLoopWrites env.isoTimestamp l accountIds (db, n) = .ok w')
    (tick : Nat) (log : List SyncEvent) :
    ∃ summary t, syncAccounts c accountIds env (Sys.session db n tick log) = .ok summary t ∧
      t.committed = w'.1 ∧ t.autoInc = w'.2 := by
  obtain ⟨summary, t, run, stored⟩ :=
    (accountLoop_writes steady answers accountIds ⟨0, 0, 0⟩ (db, n) w' written).returns
      (s := Sys.session db n tick log) ⟨rfl, rfl, rfl⟩
  exact ⟨summary, t, run, stored.2.2, stored.2.1⟩

end Steady

end CloudflareSync
