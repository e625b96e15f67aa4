import CloudflareSync.UserEngine
import CloudflareSync.Spec

/-!
# What `sync_cloudflare_account` leaves alone

Every step of `sync_cloudflare_account` is a provider listing, a lookup, the account insert,
a zone upsert, a record upsert with the commit that follows it, or a commit. A property of
programs that holds of each of these steps and is closed under the combinators the function is
written with is a `SyncClass`; the account sync is in every such class
(`syncAccountZones_mem`), and so is the function with its handler when the handler's status
write is (`syncCloudflareAccount_mem`). The facts about the account sync are instances of that
one chain:

* a reflexive and transitive relation between worlds that each step keeps is a `SyncFrame`,
  and the programs that keep it form a class (`SyncFrame.toClass`): the sync writes nothing to
  the log (`silent_frame`), and both stores keep their credential rows (`credentials_frame`),
  so the global phase, which passes no credential, never touches the credentials table;
* every row stays under its id and key (`keeps_frame`): the engine inserts and upserts and
  never deletes, and an upsert of a row that exists rewrites only the columns its
  `ON DUPLICATE KEY UPDATE` names (`UserStore.Keeps`);
* when the server accepts every commit, no record change is ever left uncommitted
  (`settledClass`), since each record upsert is followed by its own commit.

`syncCloudflareAccount_keeps` says the last two of a whole call, whatever the call ends in, so
a record the provider no longer lists keeps its row (`syncCloudflareAccount_keeps_stale_record`).
The termination of the account sync is a third instance, proved where the listings' is.
-/

set_option autoImplicit false

namespace CloudflareSync

/-! ## Classes of programs the account sync belongs to -/

/-- A property of the programs of the multi-user engine that holds of each statement the
account sync makes (the two listings, a lookup, the account insert, the zone upsert, the record
upsert with its commit, a commit) and is closed under the combinators it is written with. -/
structure SyncClass (P : ∀ {α : Type}, UserM α → Prop) : Prop where
  pure : ∀ {α : Type} (a : α), P (pure a : UserM α)
  raise : ∀ {α : Type} (e : Exc), P (Py.raise e : UserM α)
  lift : ∀ {α : Type} (x : Except Exc α), P (Py.lift x : UserM α)
  bind : ∀ {α β : Type} {m : UserM α} {k : α → UserM β}, P m → (∀ a, P (k a)) → P (m >>= k)
  attempt : ∀ {α : Type} {m : UserM α}, P m → P (Py.attempt m)
  listZones : ∀ (c : CloudflareClient) (cfAccountId : String),
    P (c.listZones cfAccountId : UserM (List JVal))
  listRecords : ∀ (c : CloudflareClient) (zoneId : JVal),
    P (c.listRecords zoneId : UserM (List JVal))
  query : ∀ {α : Type} (table : String) (read : UserStore → α), P (Py.query table read : UserM α)
  insertAccount : ∀ cfAccountId name : String,
    P (Py.execute "cloudflare_accounts" (UserStore.insertAccount cfAccountId name))
  upsertZone : ∀ cols : UserZoneCols,
    P (Py.execute "cloudflare_zones" (UserStore.upsertZone cols))
  writeRecord : ∀ cols : UserRecordCols, P (writeRecord cols)
  commit : P (Py.commit : UserM Unit)

section Chain

variable {P : ∀ {α : Type}, UserM α → Prop} (cls : SyncClass P)

include cls

theorem syncUserRecord_mem (zoneId record : JVal) (counts : Counts) :
    P (syncUserRecord zoneId record counts) := by
  unfold syncUserRecord
  refine cls.bind (cls.lift _) fun _ => cls.bind (cls.lift _) fun _ =>
    cls.bind (cls.lift _) fun _ => cls.bind (cls.lift _) fun _ => ?_
  split
  · exact cls.pure _
  refine cls.bind (cls.query _ _) fun zoneRow => ?_
  cases zoneRow with
  | none => exact cls.pure _
  | some _ =>
    exact cls.bind (cls.lift _) fun _ => cls.bind (cls.lift _) fun _ =>
      cls.bind (cls.lift _) fun _ => cls.bind (cls.writeRecord _) fun _ => cls.pure _

theorem userRecordLoop_mem (zoneId : JVal) :
    ∀ records counts, P (userRecordLoop zoneId records counts)
  | [], _ => cls.pure _
  | record :: records, counts => by
    unfold userRecordLoop
    refine cls.bind (cls.attempt (syncUserRecord_mem cls _ _ _)) fun outcome => ?_
    cases outcome with
    | ok counts => exact userRecordLoop_mem zoneId records counts
    | error _ =>
      refine cls.bind (cls.attempt (cls.lift _)) fun shown => ?_
      cases shown with
      | ok _ => exact userRecordLoop_mem zoneId records _
      | error _ => exact cls.pure _

theorem syncUserZone_mem (c : CloudflareClient) (accountDbId : Nat) (zone : JVal)
    (counts : Counts) : P (syncUserZone c accountDbId zone counts) := by
  unfold syncUserZone
  refine cls.bind (cls.attempt ?_) fun written => ?_
  · refine cls.bind (cls.lift _) fun _ => cls.bind (cls.lift _) fun _ => ?_
    split
    · exact cls.pure _
    · exact cls.bind (cls.lift _) fun _ => cls.bind (cls.upsertZone _) fun _ =>
        cls.bind cls.commit fun _ => cls.pure _
  rcases written with _ | _ | zoneId
  · exact cls.pure _
  · exact cls.pure _
  · refine cls.bind (cls.attempt (cls.listRecords c zoneId)) fun listed => ?_
    cases listed with
    | error _ => exact cls.pure _
    | ok records => exact userRecordLoop_mem cls zoneId records _

theorem userZoneLoop_mem (c : CloudflareClient) (accountDbId : Nat) (cfDomain : Option String) :
    ∀ zones counts, P (userZoneLoop c accountDbId cfDomain zones counts)
  | [], _ => cls.pure _
  | zone :: zones, counts => by
    unfold userZoneLoop
    refine cls.bind (cls.lift _) fun filtered => ?_
    split
    · exact userZoneLoop_mem c accountDbId cfDomain zones counts
    refine cls.bind (syncUserZone_mem cls c accountDbId zone counts) fun reached => ?_
    rcases reached with ⟨counts, _ | _⟩
    · exact userZoneLoop_mem c accountDbId cfDomain zones counts
    · exact cls.bind (cls.lift _) fun _ => userZoneLoop_mem c accountDbId cfDomain zones _

theorem accountDbIdFor_mem (cfAccountId : String) : P (accountDbIdFor cfAccountId) := by
  unfold accountDbIdFor
  refine cls.bind (cls.query _ _) fun found => ?_
  cases found with
  | some _ => exact cls.pure _
  | none => exact cls.bind (cls.insertAccount _ _) fun _ => cls.bind cls.commit fun _ => cls.pure _

/-- **The `try` body of `sync_cloudflare_account` is in every class.** -/
theorem syncAccountZones_mem (c : CloudflareClient) (cfAccountId : String)
    (cfDomain : Option String) : P (syncAccountZones c cfAccountId cfDomain) :=
  cls.bind (accountDbIdFor_mem cls cfAccountId) fun accountDbId =>
    cls.bind (cls.listZones c cfAccountId) fun zones =>
      userZoneLoop_mem cls c accountDbId cfDomain zones _

/-- `sync_cloudflare_account` is in every class its handler's status write is in. -/
theorem syncCloudflareAccount_mem (c : CloudflareClient) (cfAccountId : String)
    (cfDomain : Option String) (credentialId : Option Nat)
    (marked : ∀ e, P (markFailed credentialId e)) :
    P (syncCloudflareAccount c cfAccountId cfDomain credentialId) := by
  unfold syncCloudflareAccount
  refine cls.bind (cls.attempt (syncAccountZones_mem cls c cfAccountId cfDomain))
    fun outcome => ?_
  cases outcome with
  | ok _ => exact cls.pure _
  | error e => exact cls.bind (marked e) fun _ => cls.raise e

end Chain

/-! ## Relations the sync keeps -/

/-- A reflexive and transitive relation between worlds that each step of the account sync
keeps: a step that changes no data, a lookup, the account insert, the zone and record upserts
and a commit. -/
structure SyncFrame (R : Sys UserStore UserEvent → Sys UserStore UserEvent → Prop) : Prop where
  quiet : ∀ s t : Sys UserStore UserEvent, t.data = s.data → R s t
  trans : ∀ a b c, R a b → R b c → R a c
  query : ∀ {α : Type} (table : String) (read : UserStore → α),
    Py.Moves R (Py.query table read : UserM α)
  insertAccount : ∀ cfAccountId name : String,
    Py.Moves R (Py.execute "cloudflare_accounts" (UserStore.insertAccount cfAccountId name))
  upsertZone : ∀ cols : UserZoneCols,
    Py.Moves R (Py.execute "cloudflare_zones" (UserStore.upsertZone cols))
  upsertRecord : ∀ cols : UserRecordCols,
    Py.Moves R (Py.execute "cloudflare_records" (UserStore.upsertRecord cols))
  commit : Py.Moves R (Py.commit : UserM Unit)

namespace SyncFrame

variable {R : Sys UserStore UserEvent → Sys UserStore UserEvent → Prop} (frame : SyncFrame R)

include frame

theorem refl (s : Sys UserStore UserEvent) : R s s := frame.quiet s s rfl

theorem of_quiet {α : Type} {m : UserM α} (hq : Py.Quiet m) : Py.Moves R m :=
  fun env s => frame.quiet _ _ (hq env s)

theorem pure {α : Type} (a : α) : Py.Moves R (pure a : UserM α) := Py.Moves.pure frame.refl a

theorem bind {α β : Type} {m : UserM α} {k : α → UserM β} (hm : Py.Moves R m)
    (hk : ∀ a, Py.Moves R (k a)) : Py.Moves R (m >>= k) :=
  Py.Moves.bind frame.trans hm hk

theorem attempt {α : Type} {m : UserM α} (hm : Py.Moves R m) : Py.Moves R (Py.attempt m) :=
  Py.Moves.attempt frame.refl frame.trans hm

/-- The programs that keep a frame form a class. -/
theorem toClass : SyncClass fun m => Py.Moves R m where
  pure := frame.pure
  raise := Py.Moves.raise frame.refl
  lift := Py.Moves.lift frame.refl
  bind := frame.bind
  attempt := frame.attempt
  listZones c cfAccountId := frame.of_quiet (CloudflareClient.listZones_quiet c cfAccountId)
  listRecords c zoneId := frame.of_quiet (CloudflareClient.listRecords_quiet c zoneId)
  query := frame.query
  insertAccount := frame.insertAccount
  upsertZone := frame.upsertZone
  writeRecord cols := frame.bind (frame.upsertRecord cols) fun _ => frame.commit
  commit := frame.commit

/-- Two relations the sync keeps give their conjunction. -/
theorem and {R' : Sys UserStore UserEvent → Sys UserStore UserEvent → Prop}
    (frame' : SyncFrame R') : SyncFrame fun s t => R s t ∧ R' s t where
  quiet s t same := ⟨frame.quiet s t same, frame'.quiet s t same⟩
  trans _ _ _ h h' := ⟨frame.trans _ _ _ h.1 h'.1, frame'.trans _ _ _ h.2 h'.2⟩
  query table read := (frame.query table read).and (frame'.query table read)
  insertAccount cfAccountId name :=
    (frame.insertAccount cfAccountId name).and (frame'.insertAccount cfAccountId name)
  upsertZone cols := (frame.upsertZone cols).and (frame'.upsertZone cols)
  upsertRecord cols := (frame.upsertRecord cols).and (frame'.upsertRecord cols)
  commit := frame.commit.and frame'.commit

end SyncFrame

/-- No step of the sync writes the log. -/
theorem silent_frame : SyncFrame fun (s t : Sys UserStore UserEvent) => t.log = s.log where
  quiet s t same := by simp only [Sys.data, Prod.mk.injEq] at same; exact same.2.2.2
  trans _ _ _ h h' := h'.trans h
  query _ _ := Py.Silent.of_staging (Py.Staging.execute fun _ _ => le_refl _)
  insertAccount _ _ := Py.Silent.of_staging (Py.Staging.execute fun _ _ => Nat.le_succ _)
  upsertZone cols := Py.Silent.of_staging (Py.Staging.execute (UserStore.upsertZone_grows cols))
  upsertRecord cols :=
    Py.Silent.of_staging (Py.Staging.execute (UserStore.upsertRecord_grows cols))
  commit := Py.Silent.commit

/-- A store relation that every statement of the sync extends by gives a frame: both stores
go on extending any base they extended. -/
theorem extends_frame {ext : UserStore → UserStore → Prop}
    (trans : ∀ a b c, ext a b → ext b c → ext a c) (same : ∀ st, ext st st)
    (account : ∀ cfAccountId name st n, ext st (UserStore.insertAccount cfAccountId name st n).1)
    (zone : ∀ cols st n, ext st (UserStore.upsertZone cols st n).1)
    (record : ∀ cols st n, ext st (UserStore.upsertRecord cols st n).1) :
    SyncFrame (Py.Extends ext) where
  quiet _ _ := Py.Extends.of_data
  trans _ _ _ := Py.Extends.trans
  query _ _ := Py.Keeps.execute trans fun st _ => same st
  insertAccount _ _ := Py.Keeps.execute trans (account _ _)
  upsertZone _ := Py.Keeps.execute trans (zone _)
  upsertRecord _ := Py.Keeps.execute trans (record _)
  commit := Py.Keeps.commit

/-- The credential rows of both stores stay as they are. -/
theorem credentials_frame :
    SyncFrame (Py.Extends fun (a b : UserStore) => b.credentials = a.credentials) :=
  extends_frame (fun _ _ _ h h' => h'.trans h) (fun _ => rfl) (fun _ _ _ _ => rfl)
    (fun _ _ _ => UserStore.upsertZone_credentials _ _ _)
    fun _ _ _ => UserStore.upsertRecord_credentials _ _ _

/-- A global account passes no credential: its sync writes no log line and keeps the credential
rows of both stores. -/
theorem syncCloudflareAccount_untouched (c : CloudflareClient) (cfAccountId : String)
    (cfDomain : Option String) :
    Py.Moves (fun s t => t.log = s.log ∧
        Py.Extends (fun (a b : UserStore) => b.credentials = a.credentials) s t)
      (syncCloudflareAccount c cfAccountId cfDomain none) :=
  let frame := silent_frame.and credentials_frame
  syncCloudflareAccount_mem frame.toClass c cfAccountId cfDomain none fun _ => frame.pure ()

/-! ## Rows are never dropped -/

namespace UserStore

/-- Every row of `a` is in `b` under its id: an account row as it was; a zone row with its
`cf_zone_id` and account, where only `name` and `status` may differ; and a record row with its
`cf_record_id` and zone, where only `name`, `type`, `content`, `ttl`, `proxied` and `priority`
may differ. -/
structure Keeps (a b : UserStore) : Prop where
  accounts : ∀ r ∈ a.accounts, r ∈ b.accounts
  zones : ∀ z ∈ a.zones, ∃ name status,
    (⟨z.id, { z.cols with name := name, status := status }⟩ : Row UserZoneCols) ∈ b.zones
  records : ∀ r ∈ a.records, ∃ name recordType content ttl proxied priority,
    (⟨r.id, { r.cols with
      name := name, recordType := recordType, content := content, ttl := ttl, proxied := proxied,
      priority := priority }⟩ : Row UserRecordCols) ∈ b.records

theorem Keeps.refl (a : UserStore) : a.Keeps a :=
  ⟨fun _ member => member, fun _ member => ⟨_, _, member⟩,
    fun _ member => ⟨_, _, _, _, _, _, member⟩⟩

theorem Keeps.trans {a b c : UserStore} (h : a.Keeps b) (h' : b.Keeps c) : a.Keeps c where
  accounts r member := h'.accounts r (h.accounts r member)
  zones z member := by
    obtain ⟨_, _, member⟩ := h.zones z member
    obtain ⟨name, status, member⟩ := h'.zones _ member
    exact ⟨name, status, member⟩
  records r member := by
    obtain ⟨_, _, _, _, _, _, member⟩ := h.records r member
    obtain ⟨name, recordType, content, ttl, proxied, priority, member⟩ := h'.records _ member
    exact ⟨name, recordType, content, ttl, proxied, priority, member⟩

/-- A statement that touches none of the three tables keeps every row. -/
theorem Keeps.of_tables {a b : UserStore} (accounts : b.accounts = a.accounts)
    (zones : b.zones = a.zones) (records : b.records = a.records) : a.Keeps b :=
  ⟨fun _ member => accounts ▸ member, fun _ member => ⟨_, _, zones ▸ member⟩,
    fun _ member => ⟨_, _, _, _, _, _, records ▸ member⟩⟩

theorem insertAccount_keeps (cfAccountId name : String) (st : UserStore) (n : Nat) :
    st.Keeps (insertAccount cfAccountId name st n).1 :=
  ⟨fun _ member => List.mem_append_left _ member, fun _ member => ⟨_, _, member⟩,
    fun _ member => ⟨_, _, _, _, _, _, member⟩⟩

/-- A zone upsert rewrites the `name` and `status` of a row with its `cf_zone_id`, and
otherwise appends. -/
theorem upsertZone_keeps (cols : UserZoneCols) (st : UserStore) (n : Nat) :
    st.Keeps (upsertZone cols st n).1 := by
  unfold upsertZone
  split
  · refine ⟨fun _ member => member, fun z member => ?_, fun _ member => ⟨_, _, _, _, _, _, member⟩⟩
    by_cases same : z.cols.cfZoneId = cols.cfZoneId
    · exact ⟨cols.name, cols.status, List.mem_map.mpr ⟨z, member, by simp [same]⟩⟩
    · exact ⟨z.cols.name, z.cols.status, List.mem_map.mpr ⟨z, member, by simp [same]⟩⟩
  · exact ⟨fun _ member => member, fun _ member => ⟨_, _, List.mem_append_left _ member⟩,
      fun _ member => ⟨_, _, _, _, _, _, member⟩⟩

/-- A record upsert rewrites the six updated columns of a row with its `cf_record_id`, and
otherwise appends. -/
theorem upsertRecord_keeps (cols : UserRecordCols) (st : UserStore) (n : Nat) :
    st.Keeps (upsertRecord cols st n).1 := by
  unfold upsertRecord
  split
  · refine ⟨fun _ member => member, fun _ member => ⟨_, _, member⟩, fun r member => ?_⟩
    by_cases same : r.cols.cfRecordId = cols.cfRecordId
    · exact ⟨cols.name, cols.recordType, cols.content, cols.ttl, cols.proxied, cols.priority,
        List.mem_map.mpr ⟨r, member, by simp [same]⟩⟩
    · exact ⟨r.cols.name, r.cols.recordType, r.cols.content, r.cols.ttl, r.cols.proxied,
        r.cols.priority, List.mem_map.mpr ⟨r, member, by simp [same]⟩⟩
  · exact ⟨fun _ member => member, fun _ member => ⟨_, _, member⟩,
      fun _ member => ⟨_, _, _, _, _, _, List.mem_append_left _ member⟩⟩

end UserStore

/-- Every statement of the sync keeps every row. -/
theorem keeps_frame : SyncFrame (Py.Extends UserStore.Keeps) :=
  extends_frame (fun _ _ _ h h' => h.trans h') UserStore.Keeps.refl
    UserStore.insertAccount_keeps UserStore.upsertZone_keeps UserStore.upsertRecord_keeps

/-- The status write of the handler keeps every row. -/
theorem markFailed_keeps (credentialId : Option Nat) (e : Exc) :
    Py.Moves (Py.Extends UserStore.Keeps) (markFailed credentialId e) := by
  have write : ∀ (id : Nat) status error,
      Py.Moves (Py.Extends UserStore.Keeps) (updateCredentialSyncStatus id status error) := by
    intro id status error
    have statusWrite : Py.Keeps UserStore.Keeps
        (Py.update credentialsTable (UserStore.setSyncStatus id status error) : UserM Unit) :=
      Py.Keeps.execute (fun (a b c : UserStore) (h : a.Keeps b) (h' : b.Keeps c) => h.trans h')
        fun _ _ => UserStore.Keeps.of_tables rfl rfl rfl
    exact keeps_frame.bind (keeps_frame.attempt (keeps_frame.bind statusWrite
      fun _ => keeps_frame.commit)) fun _ => keeps_frame.pure _
  unfold markFailed
  rcases credentialId with _ | id
  · exact keeps_frame.pure _
  · dsimp only
    split
    · exact write _ _ _
    · exact keeps_frame.pure _

/-! ## Every record upsert is committed -/

/-- No record change is pending: the open transaction holds the committed record rows. -/
def RecordsSettled (s : Sys UserStore UserEvent) : Prop := s.pending.records = s.committed.records

section Settled

variable {env : Env} (commits : ∀ k, env.refuse k "COMMIT" = none)

/-- A statement that leaves the record rows of the open transaction as they are keeps them
settled. -/
theorem RecordsSettled.execute {α : Type} {table : String}
    {stmt : UserStore → Nat → UserStore × Nat × α} (same : ∀ st n, (stmt st n).1.records = st.records) :
    Spec env RecordsSettled (Py.execute table stmt) (fun _ => RecordsSettled)
      fun _ => RecordsSettled :=
  Spec.execute fun _ settled => ⟨fun _ _ => settled, (same _ _).trans settled⟩

include commits

/-- An accepted commit leaves nothing pending. -/
theorem RecordsSettled.commit {pre : Sys UserStore UserEvent → Prop}
    {abort : Option Exc → Sys UserStore UserEvent → Prop} :
    Spec env pre (Py.commit : UserM Unit) (fun _ => RecordsSettled) abort := fun _ _ => by
  simp only [Py.commit, commits]
  exact rfl

/-- **When the server accepts every commit, no record change is left pending**: each record
upsert is followed by its own commit. -/
theorem settledClass :
    SyncClass fun m => Spec env RecordsSettled m (fun _ => RecordsSettled)
      fun _ => RecordsSettled where
  pure _ := Spec.pure fun _ => id
  raise _ := Spec.raise fun _ => id
  lift _ := Spec.lift_frame fun _ _ => id
  bind hm hk := Spec.bind hm hk
  attempt hm := Spec.conseq (Spec.attempt hm fun _ => id) (fun _ => id)
    (fun r _ settled => by cases r <;> exact settled) fun _ _ => id
  listZones c cfAccountId := Spec.of_quiet (CloudflareClient.listZones_quiet c cfAccountId)
    (fun _ _ _ settled same => by simp_all [RecordsSettled, Sys.data])
    fun _ _ _ settled same => by simp_all [RecordsSettled, Sys.data]
  listRecords c zoneId := Spec.of_quiet (CloudflareClient.listRecords_quiet c zoneId)
    (fun _ _ _ settled same => by simp_all [RecordsSettled, Sys.data])
    fun _ _ _ settled same => by simp_all [RecordsSettled, Sys.data]
  query _ _ := RecordsSettled.execute fun _ _ => rfl
  insertAccount _ _ := RecordsSettled.execute fun _ _ => rfl
  upsertZone cols := RecordsSettled.execute (UserStore.upsertZone_records cols)
  writeRecord cols := Spec.bind (show Spec env RecordsSettled
      (Py.execute "cloudflare_records" (UserStore.upsertRecord cols)) (fun _ _ => True)
      (fun _ => RecordsSettled) from Spec.execute fun _ settled => ⟨fun _ _ => settled, trivial⟩)
    fun _ => RecordsSettled.commit commits
  commit := RecordsSettled.commit commits

/-- The status write of the handler commits no record change. -/
theorem markFailed_settled (credentialId : Option Nat) (e : Exc) :
    Spec env RecordsSettled (markFailed credentialId e) (fun _ => RecordsSettled)
      fun _ => RecordsSettled := by
  have cls := settledClass commits
  unfold markFailed
  rcases credentialId with _ | id
  · exact cls.pure _
  · dsimp only
    split
    · exact cls.bind (cls.attempt (cls.bind (RecordsSettled.execute fun _ _ => rfl) fun _ =>
        cls.commit)) fun _ => cls.pure _
    · exact cls.pure _

end Settled

/-- **`sync_cloudflare_account` upserts and never deletes.** From any world whose open
transaction keeps every committed row, whatever the call ends in, every account, zone and record
row committed before it is committed after it under its id and key, with only the columns of
the upserts' `ON DUPLICATE KEY UPDATE` changed. When the server accepts every commit and no
record change is pending at the start, none is pending at the end: every record upsert the
call made is committed, each by the commit that follows it. -/
theorem syncCloudflareAccount_keeps (c : CloudflareClient) (cfAccountId : String)
    (cfDomain : Option String) (credentialId : Option Nat) (env : Env)
    (s : Sys UserStore UserEvent) (openKeeps : s.committed.Keeps s.pending) :
    let t := (syncCloudflareAccount c cfAccountId cfDomain credentialId env s).world
    s.committed.Keeps t.committed ∧
      ((∀ k, env.refuse k "COMMIT" = none) → s.pending.records = s.committed.records →
        t.pending.records = t.committed.records) := by
  refine ⟨(syncCloudflareAccount_mem keeps_frame.toClass c cfAccountId cfDomain credentialId
    (markFailed_keeps credentialId) env s s.committed (UserStore.Keeps.refl _) openKeeps).1,
    fun commits settled => ?_⟩
  have run := syncCloudflareAccount_mem (settledClass commits) c cfAccountId cfDomain
    credentialId (markFailed_settled commits credentialId) s settled
  revert run
  cases syncCloudflareAccount c cfAccountId cfDomain credentialId env s <;> exact id

/-- A fresh session of a store holding one zone and one of its records. -/
theorem syncCloudflareAccount_keeps_fresh :
    let db : UserStore := ⟨[], [⟨0, ⟨.str "z1", 0, .str "example.com", .str "active"⟩⟩],
      [⟨1, ⟨.str "r1", 0, .str "www", .str "A", .str "192.0.2.1", .num 1, .bool false, .num 0⟩⟩],
      []⟩
    let s := Sys.session db 2 0 []
    let env : Env := ⟨fun _ _ => .failed "unreachable", fun _ _ => none, fun _ => 0,
      fun _ _ _ => none, fun _ => none, 1⟩
    let t := (syncCloudflareAccount (CloudflareClient.new ⟨defaultCfApi, none, none, some "token",
      ["a1"]⟩) "a1" none none env s).world
    s.committed.Keeps s.pending ∧ s.committed.Keeps t.committed ∧
      (∀ k, env.refuse k "COMMIT" = none) ∧ t.pending.records = t.committed.records :=
  have kept := syncCloudflareAccount_keeps _ _ _ _ _ _ (UserStore.Keeps.refl _)
  ⟨UserStore.Keeps.refl _, kept.1, fun _ => rfl, kept.2 (fun _ => rfl) rfl⟩

/-- A zone whose provider listing no longer holds record `old`, synced without a single
error, keeps the committed row of `old` under its zone. -/
theorem syncCloudflareAccount_keeps_stale_record :
    let old : Row UserRecordCols :=
      ⟨1, ⟨.str "old", 0, .str "www", .str "A", .str "192.0.2.1", .num 1, .bool false, .num 0⟩⟩
    let db : UserStore := ⟨[⟨5, ⟨"a1", "Account a1"⟩⟩],
      [⟨0, ⟨.str "z1", 5, .str "example.com", .str "active"⟩⟩], [old], []⟩
    let zonesPage : JVal := .obj [("success", .bool true),
      ("result", .arr [.obj [("id", .str "z1"), ("name", .str "example.com")]])]
    let recordsPage : JVal := .obj [("success", .bool true), ("result", .arr [])]
    ∃ t, syncCloudflareAccount (CloudflareClient.new ⟨defaultCfApi, none, none, some "token", ["a1"]⟩)
        "a1" none none
        ⟨fun tick _ => .response 200 "" (some (if tick = 1 then zonesPage else recordsPage)),
          fun _ _ => none, fun _ => 0, fun _ _ _ => none, fun _ => none, 1⟩
        (Sys.session db 6 0 []) = .ok ⟨1, 0, 0⟩ t ∧ t.committed.records = [old] :=
  ⟨_, rfl, rfl⟩

end CloudflareSync
