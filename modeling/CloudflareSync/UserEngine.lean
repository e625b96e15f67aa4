import CloudflareSync.Config
import CloudflareSync.Schema

/-!
# `sync_cloudflare_records_multi_user.py`: the multi-user engine

The engine the cron job deploys. It syncs the accounts of the global config file, then one
account per row of `dnsmanager_cloudflare_credentials` that is enabled, set to auto-sync and
whose secret `decrypt_api_key` opens. It writes the tables `cloudflare_accounts`,
`cloudflare_zones` and `cloudflare_records` with other columns than the single-credential
engine (`cf_account_id` of a zone holds the local account id, `cf_zone_id` of a record the
local zone id), so its store is its own: `UserStore`. It never deletes a row and never reads
or writes load balancers; every zone row and every record row is committed by itself.

A Python local such as `errors` keeps its value when an exception leaves a `try` block. A
block whose body counts before it may raise is modelled as a program that returns the
counters it reached with the exception, if any (`syncUserZone`, `userRecordLoop`,
`globalLoop`, built on `Py.attempt`); the `except` clause then reads both, as the source's
does.

The log keeps the lines the theorems read: the global accounts and the credentials as each is
synced, with the counts or the exception it ended in, the credential rows skipped at loading,
and the end of the run.
-/

set_option autoImplicit false

namespace CloudflareSync

/-! ## The tables -/

/-- `cloudflare_accounts` as the multi-user engine writes it. -/
structure UserAccountCols where
  cfAccountId : String
  name : String
  deriving DecidableEq, Repr

/-- `cloudflare_zones` as the multi-user engine writes it: `cf_account_id` holds the local
account id. -/
structure UserZoneCols where
  cfZoneId : JVal
  accountId : Nat
  name : JVal
  status : JVal
  deriving DecidableEq, Repr

/-- `cloudflare_records` as the multi-user engine writes it: `cf_zone_id` holds the local zone
id. -/
structure UserRecordCols where
  cfRecordId : JVal
  zoneId : Nat
  name : JVal
  recordType : JVal
  content : JVal
  ttl : JVal
  proxied : JVal
  priority : JVal
  deriving DecidableEq, Repr

/-- A row of `dnsmanager_cloudflare_credentials`: the columns the `SELECT` reads, and the two
status columns the `UPDATE` writes. -/
structure CredentialCols where
  userId : Nat
  accountId : Nat
  cfEmail : String
  cfApiKey : String
  cfAccountId : String
  cfDomain : Option String
  cfApiUrl : Option String
  enabled : Nat
  autoSync : Nat
  lastSyncStatus : Option String
  lastSyncError : Option String
  deriving DecidableEq, Repr

/-- The tables the multi-user engine reads and writes. -/
structure UserStore where
  accounts : List (Row UserAccountCols)
  zones : List (Row UserZoneCols)
  records : List (Row UserRecordCols)
  credentials : List (Row CredentialCols)
  deriving DecidableEq, Repr

namespace UserStore

/-- `SELECT id FROM cloudflare_accounts WHERE cf_account_id = %s`, `fetchone()`. -/
def selectAccount (cfAccountId : String) (st : UserStore) : Option Nat :=
  (st.accounts.find? (·.cols.cfAccountId == cfAccountId)).map Row.id

/-- `INSERT INTO cloudflare_accounts (cf_account_id, name)`, with its `lastrowid`. -/
def insertAccount (cfAccountId name : String) (st : UserStore) (n : Nat) : UserStore × Nat × Nat :=
  ({ st with accounts := st.accounts ++ [⟨n, ⟨cfAccountId, name⟩⟩] }, n + 1, n)

/-- `INSERT INTO cloudflare_zones ... ON DUPLICATE KEY UPDATE name, status`: keyed by
`cf_zone_id`, a duplicate keeps its id and its `cf_account_id`. -/
def upsertZone (cols : UserZoneCols) (st : UserStore) (n : Nat) : UserStore × Nat × Unit :=
  match st.zones.find? (·.cols.cfZoneId == cols.cfZoneId) with
  | some _ =>
    ({ st with zones := st.zones.map fun z =>
        if z.cols.cfZoneId == cols.cfZoneId then
          ⟨z.id, { z.cols with name := cols.name, status := cols.status }⟩
        else z }, n, ())
  | none => ({ st with zones := st.zones ++ [⟨n, cols⟩] }, n + 1, ())

/-- `SELECT id FROM cloudflare_zones WHERE cf_zone_id = %s`, `fetchone()`. -/
def selectZone (cfZoneId : JVal) (st : UserStore) : Option Nat :=
  (st.zones.find? (·.cols.cfZoneId == cfZoneId)).map Row.id

/-- `INSERT INTO cloudflare_records ... ON DUPLICATE KEY UPDATE name, type, content, ttl,
proxied, priority`: keyed by `cf_record_id`, a duplicate keeps its id and its zone. -/
def upsertRecord (cols : UserRecordCols) (st : UserStore) (n : Nat) : UserStore × Nat × Unit :=
  match st.records.find? (·.cols.cfRecordId == cols.cfRecordId) with
  | some _ =>
    ({ st with records := st.records.map fun r =>
        if r.cols.cfRecordId == cols.cfRecordId then
          ⟨r.id, { cols with cfRecordId := r.cols.cfRecordId, zoneId := r.cols.zoneId }⟩
        else r }, n, ())
  | none => ({ st with records := st.records ++ [⟨n, cols⟩] }, n + 1, ())

theorem upsertZone_grows (cols : UserZoneCols) (st : UserStore) (n : Nat) :
    n ≤ (upsertZone cols st n).2.1 := by
  unfold upsertZone
  split <;> simp

@[simp] theorem upsertZone_records (cols : UserZoneCols) (st : UserStore) (n : Nat) :
    (upsertZone cols st n).1.records = st.records := by
  unfold upsertZone
  split <;> rfl

@[simp] theorem upsertZone_credentials (cols : UserZoneCols) (st : UserStore) (n : Nat) :
    (upsertZone cols st n).1.credentials = st.credentials := by
  unfold upsertZone
  split <;> rfl

theorem upsertRecord_grows (cols : UserRecordCols) (st : UserStore) (n : Nat) :
    n ≤ (upsertRecord cols st n).2.1 := by
  unfold upsertRecord
  split <;> simp

@[simp] theorem upsertRecord_credentials (cols : UserRecordCols) (st : UserStore) (n : Nat) :
    (upsertRecord cols st n).1.credentials = st.credentials := by
  unfold upsertRecord
  split <;> rfl

/-- `SELECT ... FROM dnsmanager_cloudflare_credentials WHERE enabled = 1 AND auto_sync = 1`. -/
def selectCredentials (st : UserStore) : List (Row CredentialCols) :=
  st.credentials.filter fun r => r.cols.enabled == 1 && r.cols.autoSync == 1

/-- A credential row under `SET last_sync_status = %s, last_sync_error = %s WHERE id = %s`. -/
def setStatusRow (credentialId : Nat) (status : String) (error : Option String)
    (r : Row CredentialCols) : Row CredentialCols :=
  if r.id = credentialId then
    ⟨r.id, { r.cols with lastSyncStatus := some status, lastSyncError := error }⟩
  else r

/-- `UPDATE dnsmanager_cloudflare_credentials SET last_sync_status = %s, last_sync_error = %s
WHERE id = %s`. -/
def setSyncStatus (credentialId : Nat) (status : String) (error : Option String)
    (st : UserStore) : UserStore :=
  { st with credentials := st.credentials.map (setStatusRow credentialId status error) }

/-- A second status write to the same id replaces the first. -/
theorem setStatusRow_setStatusRow (credentialId : Nat) (status status' : String)
    (error error' : Option String) (r : Row CredentialCols) :
    setStatusRow credentialId status error (setStatusRow credentialId status' error' r) =
      setStatusRow credentialId status error r := by
  unfold setStatusRow
  split <;> simp_all

end UserStore

/-! ## Opening a stored secret -/

/-- ASCII whitespace, which `bytes.fromhex` skips between pairs of digits. -/
def isAsciiSpace (c : Char) : Bool :=
  c = ' ' || c = '\t' || c = '\n' || c = '\r' || c.toNat = 11 || c.toNat = 12

/-- The value of a hexadecimal digit. -/
def hexDigit (c : Char) : Option Nat :=
  if '0' ≤ c ∧ c ≤ '9' then some (c.toNat - '0'.toNat)
  else if 'a' ≤ c ∧ c ≤ 'f' then some (c.toNat - 'a'.toNat + 10)
  else if 'A' ≤ c ∧ c ≤ 'F' then some (c.toNat - 'A'.toNat + 10)
  else none

/-- The `ValueError` of `bytes.fromhex` at character `position`. -/
def fromHexError (position : Nat) : Exc :=
  .valueError s!"non-hexadecimal number found in fromhex() arg at position {position}"

/-- The scan of `bytes.fromhex` from character `position` on. -/
def fromHexFrom : Nat → List Char → Except Exc (List UInt8)
  | _, [] => .ok []
  | position, c :: cs =>
    if isAsciiSpace c then fromHexFrom (position + 1) cs
    else
      match hexDigit c, cs with
      | none, _ => .error (fromHexError position)
      | some _, [] => .error (fromHexError (position + 1))
      | some high, d :: rest =>
        match hexDigit d with
        | none => .error (fromHexError (position + 1))
        | some low => (UInt8.ofNat (16 * high + low) :: ·) <$> fromHexFrom (position + 2) rest

/-- `bytes.fromhex(s)`. -/
def fromHex (s : String) : Except Exc (List UInt8) := fromHexFrom 0 s.toList

/-- `decrypt_api_key(encrypted_data)`: `iv:authTag:encrypted` in hex, opened by AES-GCM under
the process key (`openGcm`), decoded as UTF-8. -/
def decryptApiKey (openGcm : List UInt8 → List UInt8 → List UInt8 → Option (List UInt8))
    (encryptedData : String) : Except Exc String :=
  match pySplit ':' encryptedData with
  | [ivHex, tagHex, sealedHex] => do
    let iv ← fromHex ivHex
    let authTag ← fromHex tagHex
    let sealed ← fromHex sealedHex
    match openGcm iv authTag sealed with
    | none => .error (.valueError "MAC check failed")
    | some plain =>
      match String.fromUTF8? ⟨plain.toArray⟩ with
      | some text => .ok text
      | none => .error (.valueError "'utf-8' codec can't decode the plaintext")
  | _ => .error (.valueError "Invalid encrypted data format")

/-- `UserCloudflareCredential`: the fields the engine reads. -/
structure UserCredential where
  id : Nat
  userId : Nat
  cfEmail : String
  cfApiKey : String
  cfAccountId : String
  cfDomain : Option String
  cfApiUrl : String
  deriving DecidableEq, Repr

/-- One row of the loop of `load_user_credentials`: the credential, or the exception of
`decrypt_api_key`. `cf_api_url` falls back to `DEFAULT_CF_API` when it is `NULL` or empty. -/
def loadCredential (openGcm : List UInt8 → List UInt8 → List UInt8 → Option (List UInt8))
    (row : Row CredentialCols) : Except Exc UserCredential := do
  let apiKey ← decryptApiKey openGcm row.cols.cfApiKey
  return ⟨row.id, row.cols.userId, row.cols.cfEmail, apiKey, row.cols.cfAccountId,
    row.cols.cfDomain, (orStr row.cols.cfApiUrl (some defaultCfApi)).getD defaultCfApi⟩

/-! ## The engine -/

/-- What `sync_cloudflare_account` returns, `(zones_synced, records_synced, errors)`; also
the totals of `main`. -/
structure Counts where
  zones : Nat
  records : Nat
  errors : Nat
  deriving DecidableEq, Repr

/-- Adding the counts of one account to the totals. -/
def Counts.add (totals counts : Counts) : Counts :=
  ⟨totals.zones + counts.zones, totals.records + counts.records, totals.errors + counts.errors⟩

/-- One more error. -/
def Counts.failed (counts : Counts) : Counts := { counts with errors := counts.errors + 1 }

/-- The log lines of the multi-user engine that its theorems read. -/
inductive UserEvent where
  | globalAccount (cfAccountId : String)
  | globalDone (cfAccountId : String) (counts : Counts)
  | globalFailed (error : Exc)
  | credentialSkipped (credentialId : Nat) (error : Exc)
  | credentialsUnreadable (error : Exc)
  | userCredential (credentialId : Nat) (cfAccountId : String)
  | userDone (credentialId : Nat) (counts : Counts)
  | userFailed (credentialId : Nat) (error : Exc)
  | syncComplete (totals : Counts)
  | runFailed (error : Exc)
  deriving DecidableEq, Repr

/-- The programs of the multi-user engine. -/
abbrev UserM := Py UserStore UserEvent

/-- The table of the credentials. -/
def credentialsTable : String := "dnsmanager_cloudflare_credentials"

/-- `load_user_credentials(db_conn)`, the loop over the rows: a row whose secret does not open
is logged and skipped. -/
def credentialLoop (openGcm : List UInt8 → List UInt8 → List UInt8 → Option (List UInt8)) :
    List (Row CredentialCols) → UserM (List UserCredential)
  | [] => pure []
  | row :: rows =>
    match loadCredential openGcm row with
    | .ok cred => do
      let rest ← credentialLoop openGcm rows
      pure (cred :: rest)
    | .error e => do
      Py.emit (.credentialSkipped row.id e)
      credentialLoop openGcm rows

/-- `load_user_credentials(db_conn)`: a `SELECT` that fails is logged and read as no
credentials. -/
def loadUserCredentials : UserM (List UserCredential) := do
  let rows ← Py.attempt (Py.query credentialsTable UserStore.selectCredentials)
  match rows with
  | .ok rows => do
    let env ← Py.env
    credentialLoop env.decryptGcm rows
  | .error e => do
    Py.emit (.credentialsUnreadable e)
    pure []

/-- `update_credential_sync_status(db_conn, credential_id, status, error)`: a failure is
logged and swallowed. -/
def updateCredentialSyncStatus (credentialId : Nat) (status : String) (error : Option String) :
    UserM Unit := do
  let _ ← Py.attempt do
    Py.update credentialsTable (UserStore.setSyncStatus credentialId status error)
    Py.commit
  pure ()

/-- The record's `INSERT INTO cloudflare_records ... ON DUPLICATE KEY UPDATE` and the
`db_conn.commit()` that follows it: each record is committed by itself. -/
def writeRecord (cols : UserRecordCols) : UserM Unit := do
  Py.execute "cloudflare_records" (UserStore.upsertRecord cols)
  Py.commit

/-- The `try` body of one record of `sync_cloudflare_account`: skipped and counted as an
error when a field is missing or the zone row is gone, otherwise upserted and committed. -/
def syncUserRecord (zoneId : JVal) (record : JVal) (counts : Counts) : UserM Counts := do
  let recordId ← Py.lift (record.get "id")
  let recordName ← Py.lift (record.get "name")
  let recordType ← Py.lift (record.get "type")
  let recordContent ← Py.lift (record.get "content")
  if !(recordId.truthy && recordName.truthy && recordType.truthy && recordContent.truthy) then
    pure counts.failed
  else do
    let zoneRow ← Py.query "cloudflare_zones" (UserStore.selectZone zoneId)
    match zoneRow with
    | none => pure counts.failed
    | some zoneDbId => do
      let ttl ← Py.lift (record.getD "ttl" (.num 1))
      let proxied ← Py.lift (record.getD "proxied" (.bool false))
      let priority ← Py.lift (record.getD "priority" (.num 0))
      writeRecord ⟨recordId, zoneDbId, recordName, recordType, recordContent, ttl, proxied, priority⟩
      pure { counts with records := counts.records + 1 }

/-- The `for record in records` loop. A record whose body raises is counted as an error
after the handler's `record.get('id')`; when that `get` raises too, the loop ends and the
exception goes to the zone's handler, with the counters reached. -/
def userRecordLoop (zoneId : JVal) : List JVal → Counts → UserM (Counts × Option Exc)
  | [], counts => pure (counts, none)
  | record :: records, counts => do
    let outcome ← Py.attempt (syncUserRecord zoneId record counts)
    match outcome with
    | .ok counts => userRecordLoop zoneId records counts
    | .error _ => do
      let shown ← Py.attempt (Py.lift (record.get "id"))
      match shown with
      | .ok _ => userRecordLoop zoneId records counts.failed
      | .error raised => pure (counts, some raised)

/-- The `try` body of one zone of `sync_cloudflare_account`, with the counters it reached and
the exception it raised, if any. -/
def syncUserZone (c : CloudflareClient) (accountDbId : Nat) (zone : JVal) (counts : Counts) :
    UserM (Counts × Option Exc) := do
  let written ← Py.attempt do
    let zoneId ← Py.lift (zone.get "id")
    let zoneName ← Py.lift (zone.get "name")
    if !zoneId.truthy || !zoneName.truthy then pure none
    else do
      let status ← Py.lift (zone.getD "status" (.str "active"))
      Py.execute "cloudflare_zones" (UserStore.upsertZone ⟨zoneId, accountDbId, zoneName, status⟩)
      Py.commit
      pure (some zoneId)
  match written with
  | .error e => pure (counts, some e)
  | .ok none => pure (counts.failed, none)
  | .ok (some zoneId) => do
    let counts := { counts with zones := counts.zones + 1 }
    let listed ← Py.attempt (c.listRecords zoneId)
    match listed with
    | .error e => pure (counts, some e)
    | .ok records => userRecordLoop zoneId records counts

/-- `cf_domain and zone.get("name") != cf_domain`: whether the zone loop passes `zone` over. -/
def filteredOut (cfDomain : Option String) (zone : JVal) : Except Exc Bool :=
  match cfDomain with
  | some domain =>
    if domain.isEmpty then .ok false
    else (fun name => decide (name ≠ .str domain)) <$> zone.get "name"
  | none => .ok false

/-- The `for zone in zones` loop: a zone filtered out by `cf_domain` is passed over; a zone
whose body raised is counted as an error after the handler's `zone.get('name')`, which may
raise itself. -/
def userZoneLoop (c : CloudflareClient) (accountDbId : Nat) (cfDomain : Option String) :
    List JVal → Counts → UserM Counts
  | [], counts => pure counts
  | zone :: zones, counts => do
    let filtered ← Py.lift (filteredOut cfDomain zone)
    if filtered then userZoneLoop c accountDbId cfDomain zones counts
    else do
      let (counts, raised) ← syncUserZone c accountDbId zone counts
      match raised with
      | none => userZoneLoop c accountDbId cfDomain zones counts
      | some _ => do
        let _ ← Py.lift (zone.get "name")
        userZoneLoop c accountDbId cfDomain zones counts.failed

/-- The `cloudflare_accounts` block of `sync_cloudflare_account`: the local id of the account,
inserted and committed when the `SELECT` finds none. -/
def accountDbIdFor (cfAccountId : String) : UserM Nat := do
  let found ← Py.query "cloudflare_accounts" (UserStore.selectAccount cfAccountId)
  match found with
  | some id => pure id
  | none => do
    let id ← Py.execute "cloudflare_accounts"
      (UserStore.insertAccount cfAccountId s!"Account {cfAccountId.take 8}")
    Py.commit
    pure id

/-- `if credential_id: update_credential_sync_status(db_conn, credential_id, "failed",
str(e))`. -/
def markFailed (credentialId : Option Nat) (e : Exc) : UserM Unit :=
  match credentialId with
  | some id => if id ≠ 0 then updateCredentialSyncStatus id "failed" (some e.str) else pure ()
  | none => pure ()

/-- The `try` body of `sync_cloudflare_account`: the account row, the zone listing and the
zone loop. -/
def syncAccountZones (c : CloudflareClient) (cfAccountId : String) (cfDomain : Option String) :
    UserM Counts := do
  let accountDbId ← accountDbIdFor cfAccountId
  let zones ← c.listZones cfAccountId
  userZoneLoop c accountDbId cfDomain zones ⟨0, 0, 0⟩

/-- `sync_cloudflare_account(db_conn, cf_client, cf_account_id, cf_domain, credential_id,
user_id)`. Both `except` clauses mark a credential (one with a truthy id) `failed` and
re-raise. -/
def syncCloudflareAccount (c : CloudflareClient) (cfAccountId : String)
    (cfDomain : Option String) (credentialId : Option Nat) : UserM Counts := do
  let outcome ← Py.attempt (syncAccountZones c cfAccountId cfDomain)
  match outcome with
  | .ok counts => pure counts
  | .error e => do
    markFailed credentialId e
    Py.raise e

/-- The `for cf_account_id in cf_config.account_ids` loop of `main`, with the totals reached
and the exception that ended it, if any. -/
def globalLoop (c : CloudflareClient) : List String → Counts → UserM (Counts × Option Exc)
  | [], totals => pure (totals, none)
  | cfAccountId :: rest, totals => do
    Py.emit (.globalAccount cfAccountId)
    let outcome ← Py.attempt (syncCloudflareAccount c cfAccountId none none)
    match outcome with
    | .ok counts => do
      Py.emit (.globalDone cfAccountId counts)
      globalLoop c rest (totals.add counts)
    | .error e => pure (totals, some e)

/-- The `try` body of the global phase of `main`, with the totals reached and the exception it
raised, if any. -/
def globalAttempt (path : String) (file : Option RawConfig) (totals : Counts) :
    UserM (Counts × Option Exc) :=
  match loadCloudflareConfig path file with
  | .ok cfConfig => globalLoop (CloudflareClient.new cfConfig) cfConfig.accountIds totals
  | .error e => pure (totals, some e)

/-- The global phase of `main`: `except (ConfigError, CloudflareError)` counts one error and
ends the phase; any other exception leaves it. -/
def globalPhase (path : String) (file : Option RawConfig) (totals : Counts) : UserM Counts := do
  let (totals, raised) ← globalAttempt path file totals
  match raised with
  | none => pure totals
  | some e =>
    if e.isConfig || e.isCloudflare then do
      Py.emit (.globalFailed e)
      pure totals.failed
    else Py.raise e

/-- The `try` body of the credential loop of `main`: the account of the credential synced with
a client of its own, then its status written. -/
def syncCredential (cred : UserCredential) : UserM Counts := do
  let client := CloudflareClient.new
    ⟨cred.cfApiUrl, some cred.cfEmail, some cred.cfApiKey, none, [cred.cfAccountId]⟩
  let counts ← syncCloudflareAccount client cred.cfAccountId cred.cfDomain (some cred.id)
  updateCredentialSyncStatus cred.id (if counts.errors = 0 then "success" else "partial") none
  pure counts

/-- The `for cred in user_creds` loop of `main`: each credential is synced and gets its status
written; an exception is logged, written as `failed` and counted. -/
def userLoop : List UserCredential → Counts → UserM Counts
  | [], totals => pure totals
  | cred :: creds, totals => do
    Py.emit (.userCredential cred.id cred.cfAccountId)
    let outcome ← Py.attempt (syncCredential cred)
    match outcome with
    | .ok counts => do
      Py.emit (.userDone cred.id counts)
      userLoop creds (totals.add counts)
    | .error e => do
      Py.emit (.userFailed cred.id e)
      updateCredentialSyncStatus cred.id "failed" (some e.str)
      userLoop creds totals.failed

/-- The command line of the multi-user script. -/
structure UserSyncArgs where
  cfConfig : String
  mydnsConfig : String
  skipGlobal : Bool
  skipUsers : Bool
  deriving DecidableEq, Repr

/-- The global phase of `main`, run only when `--skip-global` is not given and the config
file exists. -/
def globalStage (args : UserSyncArgs) (files : String → Option RawConfig) : UserM Counts :=
  if !args.skipGlobal && (files args.cfConfig).isSome then
    globalPhase args.cfConfig (files args.cfConfig) ⟨0, 0, 0⟩
  else pure ⟨0, 0, 0⟩

/-- The user phase of `main`, run unless `--skip-users` is given. -/
def userStage (args : UserSyncArgs) (totals : Counts) : UserM Counts :=
  if !args.skipUsers then do
    let creds ← loadUserCredentials
    userLoop creds totals
  else pure totals

/-- The `try` body of `main`: the database config and connection, the two phases, and the exit
code of the totals. -/
def userMainBody (args : UserSyncArgs) (files : String → Option RawConfig) : UserM Nat := do
  let dbConfig ← Py.lift (loadDbConfig args.mydnsConfig (files args.mydnsConfig))
  let _ ← dbConfig.connect
  let totals ← globalStage args files
  let totals ← userStage args totals
  Py.close
  Py.emit (.syncComplete totals)
  pure (if totals.errors = 0 then 0 else 1)

/-- `main()` of the multi-user script, with the files it may read (`os.path.isfile` holds of
a path `files` knows): 0 when the run ends with no error counted, 1 otherwise, and 1 for an
exception that reaches the outer handler. -/
def userMain (args : UserSyncArgs) (files : String → Option RawConfig) : UserM Nat := do
  let outcome ← Py.attempt (userMainBody args files)
  match outcome with
  | .ok code => pure code
  | .error e => do
    Py.emit (.runFailed e)
    pure 1

end CloudflareSync
