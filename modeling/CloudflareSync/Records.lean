import CloudflareSync.Config
import CloudflareSync.Schema

/-!
# `sync_cloudflare_records.py`: the single-credential engine

The row builders (`zoneColumns`, `recordColumns`, `balancerColumns`) are the tuples the
source passes to `cursor.execute`, computed with the Python operations of `Value`, so that a
payload of the wrong shape raises where the source raises: a record that is no dict at its
first `get`, a tag list with a non-string item at `",".join`, a `modified_on` that is truthy
but no string at `.strip()`.

`syncZone` is `sync_zone`: two provider listings, the zone upsert, the two delete-then-insert
replacements, the `last_synced` update and one commit; `ZoneSync` keeps the lists the two
listings returned and the tick they started at. `syncAccounts` is the account loop and the zone
loop of `sync_accounts`, where only `CloudflareError` is caught: around `list_zones` (the
account is skipped) and around `sync_zone` (`trySyncZone`: the zone is rolled back and
skipped). `main` loads both configurations in one `try` (`loadConfigs`), picks the account ids
(`accountIdsOf`), connects and runs `sync_accounts`. The log records each step the source logs,
with the data it acted on.
-/

set_option autoImplicit false

namespace CloudflareSync

/-- What `sync_zone` returns, `(record_count, lb_count)`, with what it wrote: the local
account id it was given, the local zone id, the tick its two listings started at, and the two
lists they returned. -/
structure ZoneSync where
  recordCount : Nat
  lbCount : Nat
  accountId : Nat
  localId : Nat
  start : Nat
  records : List JVal
  balancers : List JVal
  deriving DecidableEq, Repr

/-- The entries of the engine's log: a zone listing that failed, a zone listing, a zone
without id, a zone whose sync raised `CloudflareError`, and a zone synced. -/
inductive SyncEvent where
  | listFailed (accountId : String) (error : Exc)
  | listed (accountId : String) (zones : List JVal)
  | zoneSkipped (zone : JVal)
  | zoneFailed (zone : JVal) (error : Exc)
  | zoneSynced (zone : JVal) (sync : ZoneSync)
  deriving DecidableEq, Repr

/-- The programs of the engine. -/
abbrev SyncM := Py Store SyncEvent

/-- The counters `sync_accounts` returns. -/
structure Summary where
  zones : Nat
  records : Nat
  loadBalancers : Nat
  deriving DecidableEq, Repr

/-- `summary["zones"] += 1` and the two counts of a synced zone. -/
def Summary.add (summary : Summary) (w : ZoneSync) : Summary :=
  ⟨summary.zones + 1, summary.records + w.recordCount, summary.loadBalancers + w.lbCount⟩

/-! ## The row builders -/

/-- The columns `upsert_zone` writes for `zone`. -/
def zoneColumns (accountId : Nat) (zone : JVal) : Except Exc ZoneCols := do
  let id ← zone.get "id"
  let name ← zone.get "name"
  let status ← zone.get "status"
  let paused ← zone.get "paused"
  let zoneType ← zone.get "type"
  let plan ← zone.get "plan"
  let planName ← (plan.orElse (.obj [])).get "name"
  return ⟨accountId, id, name, status, paused.truthy, zoneType, planName⟩

/-- `parse_timestamp(value)`, with `datetime.fromisoformat` and `strftime` as `iso`. -/
def parseTimestamp (iso : String → Option String) (value : JVal) : Except Exc (Option String) :=
  if !value.truthy then .ok none
  else
    match value with
    | .str s =>
      let candidate := pyStrip s
      if candidate.isEmpty then .ok none
      else if candidate.endsWith "Z" then .ok (iso (candidate.dropRight 1 ++ "+00:00"))
      else .ok (iso candidate)
    | v => .error (Exc.noAttribute v "strip")

/-- The payload tuple `replace_zone_records` builds for one record. -/
def recordColumns (iso : String → Option String) (zoneId : Nat) (record : JVal) :
    Except Exc RecordCols := do
  let tagsList ← record.getD "tags" (.arr [])
  let tags ← match tagsList with
    | .arr items => some <$> JVal.joinStrings "," items
    | _ => pure none
  let id ← record.get "id"
  let recordType ← record.get "type"
  let name ← record.get "name"
  let content ← record.get "content"
  let ttl ← record.get "ttl"
  let proxied ← record.get "proxied"
  let priority ← record.get "priority"
  let modifiedOn ← record.get "modified_on"
  let modified ← parseTimestamp iso modifiedOn
  let comment ← record.get "comment"
  return ⟨zoneId, id, recordType, name, content, ttl,
    if record.has "proxied" then some proxied.truthy else none, priority, record, modified,
    comment, tags⟩

/-- The payload tuple `replace_zone_load_balancers` builds for one load balancer. -/
def balancerColumns (zoneId : Nat) (balancer : JVal) : Except Exc BalancerCols := do
  let id ← balancer.get "id"
  let name ← balancer.get "name"
  let proxied ← balancer.get "proxied"
  let enabled ← balancer.get "enabled"
  let fallbackPool ← balancer.get "fallback_pool"
  let defaultPools ← balancer.get "default_pools"
  let steeringPolicy ← balancer.get "steering_policy"
  return ⟨zoneId, id, name,
    if balancer.has "proxied" then some proxied.truthy else none,
    if balancer.has "enabled" then some enabled.truthy else none, fallbackPool,
    if defaultPools = .null then none else some (.parses defaultPools), steeringPolicy,
    balancer⟩

/-- The `UPDATE cloudflare_zones SET last_synced = NOW(), updated_at = NOW()` of `sync_zone`:
it writes only timestamp columns, which the model leaves out. -/
def Store.markSynced (_zoneId : Nat) (st : Store) : Store := st

/-! ## The engine -/

/-- `upsert_account(cursor, cf_account_id, name)`. -/
def upsertAccount (cfAccountId name : JVal) : SyncM Nat :=
  Py.execute "cloudflare_accounts" (Store.upsertAccount cfAccountId name)

/-- `upsert_zone(cursor, account_id, zone)`. -/
def upsertZone (accountId : Nat) (zone : JVal) : SyncM Nat := do
  let cols ← Py.lift (zoneColumns accountId zone)
  Py.execute "cloudflare_zones" (Store.upsertZone cols)

/-- `replace_zone_records(cursor, zone_id, records)`. -/
def replaceZoneRecords (zoneId : Nat) (records : List JVal) : SyncM Nat := do
  Py.update "cloudflare_records" (Store.deleteRecords zoneId)
  if records.isEmpty then return 0
  else
    let env ← Py.env
    let payloads ← Py.lift (records.mapM (recordColumns env.isoTimestamp zoneId))
    Py.execute "cloudflare_records" (Store.insertRecords payloads)
    return records.length

/-- `replace_zone_load_balancers(cursor, zone_id, balancers)`. -/
def replaceZoneLoadBalancers (zoneId : Nat) (balancers : List JVal) : SyncM Nat := do
  Py.update "cloudflare_load_balancers" (Store.deleteBalancers zoneId)
  if balancers.isEmpty then return 0
  else
    let payloads ← Py.lift (balancers.mapM (balancerColumns zoneId))
    Py.execute "cloudflare_load_balancers" (Store.insertBalancers payloads)
    return balancers.length

/-- `sync_zone(conn, cf_client, account_id, zone)`. -/
def syncZone (c : CloudflareClient) (accountId : Nat) (zone : JVal) : SyncM ZoneSync := do
  let zoneId ← Py.lift (zone.index "id")
  let start ← Py.now
  let records ← c.listRecords zoneId
  let balancers ← c.listLoadBalancers zoneId
  let localZoneId ← upsertZone accountId zone
  let recordCount ← replaceZoneRecords localZoneId records
  let lbCount ← replaceZoneLoadBalancers localZoneId balancers
  Py.update "cloudflare_zones" (Store.markSynced localZoneId)
  Py.commit
  return ⟨recordCount, lbCount, accountId, localZoneId, start, records, balancers⟩

/-- The account of a zone without an `account` field: `{"id": account_id, "name":
"Cloudflare"}`. -/
def defaultAccount (accountId : String) : JVal :=
  .obj [("id", .str accountId), ("name", .str "Cloudflare")]

/-- The `try`/`except CloudflareError` around `sync_zone` in `sync_accounts`: a failed zone is
rolled back and logged. -/
def trySyncZone (c : CloudflareClient) (accountId : Nat) (zone : JVal) :
    SyncM (Option ZoneSync) :=
  Py.tryExcept Exc.isCloudflare
    (do let w ← syncZone c accountId zone; pure (some w))
    fun e => do
      Py.rollback
      Py.emit (.zoneFailed zone e)
      pure none

/-- The `for zone in zones` loop of `sync_accounts` for account `accountId`. -/
def zoneLoop (c : CloudflareClient) (accountId : String) : List JVal → Summary → SyncM Summary
  | [], summary => pure summary
  | zone :: zones, summary => do
    let zoneId ← Py.lift (zone.get "id")
    if !zoneId.truthy then do
      Py.emit (.zoneSkipped zone)
      zoneLoop c accountId zones summary
    else do
      let account ← Py.lift (zone.get "account")
      let accountData := account.orElse (defaultAccount accountId)
      let cfAccountId ← Py.lift (accountData.getD "id" (.str accountId))
      let name ← Py.lift (accountData.get "name")
      let dbAccountId ← upsertAccount cfAccountId (name.orElse (.str "Cloudflare account"))
      Py.commit
      let synced ← trySyncZone c dbAccountId zone
      match synced with
      | none => zoneLoop c accountId zones summary
      | some w => do
        Py.emit (.zoneSynced zone w)
        zoneLoop c accountId zones (summary.add w)

/-- The `for account_id in account_ids` loop of `sync_accounts`. -/
def accountLoop (c : CloudflareClient) : List String → Summary → SyncM Summary
  | [], summary => pure summary
  | accountId :: rest, summary => do
    let listed ← Py.tryExcept Exc.isCloudflare
      (do let zones ← c.listZones accountId; pure (some zones))
      fun e => do
        Py.emit (.listFailed accountId e)
        pure none
    match listed with
    | none => accountLoop c rest summary
    | some zones => do
      Py.emit (.listed accountId zones)
      if zones.isEmpty then accountLoop c rest summary
      else do
        let summary ← zoneLoop c accountId zones summary
        accountLoop c rest summary

/-- `sync_accounts(conn, cf_client, account_ids)`. -/
def syncAccounts (c : CloudflareClient) (accountIds : List String) : SyncM Summary :=
  accountLoop c accountIds ⟨0, 0, 0⟩

/-- The command line of the script: the two config paths and `--accounts`. -/
structure SyncArgs where
  cloudflareConfig : String
  mydnsConfig : String
  accounts : Option String
  deriving DecidableEq, Repr

/-- The first `try` block of `main`: `load_cloudflare_config` and then `load_db_config`. -/
def loadConfigs (args : SyncArgs) (files : String → Option RawConfig) :
    Except Exc (CloudflareConfig × DatabaseConfig) := do
  let cf ← loadCloudflareConfig args.cloudflareConfig (files args.cloudflareConfig)
  let db ← loadDbConfig args.mydnsConfig (files args.mydnsConfig)
  pure (cf, db)

/-- `parse_account_list(args.accounts) if args.accounts else cf_cfg.account_ids`. -/
def accountIdsOf (args : SyncArgs) (cfConfig : CloudflareConfig) : List String :=
  match args.accounts with
  | some given => if given.isEmpty then cfConfig.accountIds else parseAccountList given
  | none => cfConfig.accountIds

/-- `main()`, with the files it may read: `main` returns 1 for a configuration error, an
empty account list and an unreachable database, and 0 once `sync_accounts` returns; the
connection is closed either way, and an exception out of `sync_accounts` escapes `main`. -/
def main (args : SyncArgs) (files : String → Option RawConfig) : SyncM Nat :=
  match loadConfigs args files with
  | .error e => if e.isConfig then pure 1 else Py.raise e
  | .ok (cfConfig, dbConfig) =>
    let accountIds := accountIdsOf args cfConfig
    if accountIds.isEmpty then pure 1
    else do
      let connected ← Py.tryExcept Exc.isConfig
        (do let _ ← dbConfig.connect; pure true) fun _ => pure false
      if !connected then pure 1
      else do
        let _ ← Py.tryFinally (syncAccounts (CloudflareClient.new cfConfig) accountIds) Py.close
        pure 0

end CloudflareSync
