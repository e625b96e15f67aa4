import CloudflareSync.Config
import CloudflareSync.Schema

/-!
# `sync_pools_direct.py`: the pool linker

`sync_pools_for_zone(zone_id)` reads the load-balancer rows of one zone, gathers the pool ids
their stored `default_pools` lists name into a `set`, fetches each pool's detail from the
provider with its own `cf_request`, and links the pool to a load balancer that names it: an
upsert of the pool row keyed by `(lb_id, cf_pool_id)`, a `DELETE` of the row's origins and one
`INSERT` per origin. Everything is committed once, after the last pool.

Three features of the source decide what the linker can be proved to do, and the model keeps
each of them as written:

* the inner loop over the load balancers ends at `break` after the first one that linked
  the pool, so a pool named by several load balancers is linked to one of them;
* the block of one load balancer runs under a bare `except: pass`, which swallows every
  exception without a rollback, so the statements that ran before it stay in the open
  transaction and are committed with the rest;
* `cf_request` catches nothing around `requests.request`, so a transport failure of any pool
  fetch leaves the function before its commit, and `conn.close()` drops the whole run.

The `in` test of a pool id against the decoded `default_pools` is Python's (`JVal.contains`):
substring on a string, key membership on a dict. The iteration order of the `set` is not
fixed by the language; a `SetOrder` is any order of its elements.
-/

set_option autoImplicit false

namespace CloudflareSync

/-- The order in which a Python `set` yields its elements, given the elements in the order
they were added: CPython's order follows the hashes, which for strings change from process to
process, so the model leaves it open as any permutation. -/
structure SetOrder where
  order : List JVal → List JVal
  perm : ∀ xs, (order xs).Perm xs

/-- A set that yields its elements in the order they were added. -/
def SetOrder.insertion : SetOrder := ⟨id, fun xs => List.Perm.refl xs⟩

/-- The lines the pool linker prints, with the data each one reports: an unreadable config
file, missing credentials, the three refusals `cf_request` prints before returning `None`, a
zone that is not found or has no load balancers, the pools found, a fetch, a fetch that gave
nothing, a pool linked to a load balancer (with the pool row's id and the origin count), and
the final count. -/
inductive PoolEvent where
  | configUnreadable (path : String)
  | credentialsMissing
  | apiError (status : Nat) (text : String)
  | apiFailed (errors : JVal)
  | unreadable (error : Option Exc)
  | zoneMissing (zoneId : Int)
  | zoneFound (name cfAccountId : JVal)
  | noBalancers
  | poolsFound (count : Nat)
  | fetching (poolId : JVal)
  | fetchFailed (poolId : JVal)
  | poolSynced (poolId : JVal) (lbId poolDbId origins : Nat)
  | finished (synced : Nat)
  deriving DecidableEq, Repr

/-- The programs of the pool linker. -/
abbrev PoolM := Py Store PoolEvent

/-! ## The statements of `sync_pools_direct.py` -/

namespace Store

/-- `SELECT z.id, z.name, a.cf_account_id FROM cloudflare_zones z JOIN cloudflare_accounts a
ON a.id = z.account_id WHERE z.id = %s`, and `fetchone()`. -/
def zoneWithAccount (zoneId : Int) (st : Store) : Option (Nat × JVal × JVal) := do
  let z ← st.zones.find? fun z => (z.id : Int) == zoneId
  let a ← st.accounts.find? fun a => a.id == z.cols.accountId
  pure (z.id, z.cols.name, a.cols.cfAccountId)

/-- `SELECT id, cf_lb_id, name, default_pools FROM cloudflare_load_balancers WHERE zone_id =
%s`. -/
def balancerRows (zoneId : Nat) (st : Store) : List (Row BalancerCols) :=
  st.balancers.filter (·.cols.zoneId == zoneId)

/-- `SELECT id FROM cloudflare_lb_pools WHERE lb_id = %s AND cf_pool_id = %s`, and
`fetchone()`. -/
def poolRowId (lbId : Nat) (poolId : JVal) (st : Store) : Option Nat :=
  (st.pools.find? fun p => p.cols.lbId == lbId && p.cols.cfPoolId == poolId).map Row.id

/-- `UPDATE cloudflare_lb_pools SET ... WHERE id = %s`: every column but `lb_id` and
`cf_pool_id`. -/
def updatePool (poolDbId : Nat) (cols : PoolCols) (st : Store) : Store :=
  { st with pools := st.pools.map fun p =>
      if p.id = poolDbId then ⟨p.id, { cols with lbId := p.cols.lbId, cfPoolId := p.cols.cfPoolId }⟩
      else p }

/-- `INSERT INTO cloudflare_lb_pools`, returning `cursor.lastrowid`. -/
def insertPool (cols : PoolCols) (st : Store) (n : Nat) : Store × Nat × Nat :=
  ({ st with pools := st.pools ++ [⟨n, cols⟩] }, n + 1, n)

/-- `DELETE FROM cloudflare_lb_pool_origins WHERE pool_id = %s`. -/
def deleteOrigins (poolDbId : Nat) (st : Store) : Store :=
  { st with origins := st.origins.filter (·.cols.poolId != poolDbId) }

/-- `INSERT INTO cloudflare_lb_pool_origins`. -/
def insertOrigin (cols : OriginCols) (st : Store) (n : Nat) : Store × Nat × Unit :=
  ({ st with origins := st.origins ++ [⟨n, cols⟩] }, n + 1, ())

end Store

/-! ## Configuration and `cf_request` -/

/-- The file `get_cf_credentials` reads. -/
def cloudflareIni : String := "/etc/mydns/cloudflare.ini"

/-- The file `get_db_config` reads. -/
def mydnsConf : String := "/etc/mydns/mydns.conf"

/-- `parse_config_file(filepath)`: the key=value pairs of the file, or `{}` after printing the
error when the file cannot be read. -/
def parseConfigFile (files : String → Option RawConfig) (path : String) : PoolM RawConfig :=
  match files path with
  | some raw => pure raw
  | none => do
    Py.emit (.configUnreadable path)
    pure []

/-- The connection parameters `get_db_config` returns (its `charset` is fixed). -/
structure PoolDbConfig where
  host : String
  user : String
  password : String
  database : String
  deriving DecidableEq, Repr

/-- `get_db_config()` of the pairs read from `mydns.conf`: the host is `db-host` up to its
first colon. -/
def getDbConfig (config : RawConfig) : PoolDbConfig :=
  ⟨(pySplit ':' ((config.lookup "db-host").getD "localhost")).headD "",
    (config.lookup "db-user").getD "", (config.lookup "db-password").getD "",
    (config.lookup "database").getD ""⟩

/-- `CF_API_BASE`. -/
def cfApiBase : String := "https://api.cloudflare.com/client/v4"

/-- The headers `cf_request` sends. -/
def cfHeaders (email apiKey : String) : List (String × String) :=
  [("X-Auth-Email", email), ("X-Auth-Key", apiKey), ("Content-Type", "application/json"),
    ("Accept", "application/json"), ("User-Agent", "MyDNS-NG/1.0")]

/-- What the `try` block of `cf_request` reads off a decoded body: the `errors` of a call whose
`success` is falsy, or its `result`. A body that is no dict raises at the first `get`. -/
def readBody (data : JVal) : Except Exc (Except JVal JVal) := do
  let success ← data.get "success"
  if !success.truthy then
    let errors ← data.get "errors"
    return .error errors
  let result ← data.get "result"
  return .ok result

/-- What `cf_request` makes of a response: the `result` of a successful call, or the line it
prints before it returns `None`. -/
def readResponse (status : Nat) (text : String) (json : Option JVal) : Except PoolEvent JVal :=
  if 400 ≤ status then .error (.apiError status (text.take 200))
  else
    match json with
    | none => .error (.unreadable none)
    | some data =>
      match readBody data with
      | .error e => .error (.unreadable (some e))
      | .ok (.error errors) => .error (.apiFailed errors)
      | .ok (.ok result) => .ok result

/-- The request `cf_request(method, path, email, api_key)` sends. -/
def cfHttpRequest (method path email apiKey : String) : Request :=
  ⟨method, cfApiBase ++ path, cfHeaders email apiKey, []⟩

/-- `cf_request(method, path, email, api_key)`: the `result`, or `None` after a printed
refusal. A transport failure is not caught and raises out of it. -/
def cfRequest (method path email apiKey : String) : PoolM (Option JVal) := do
  let reply ← Py.http (cfHttpRequest method path email apiKey)
  match reply with
  | .failed message => Py.raise (.transport message)
  | .response status text json =>
    match readResponse status text json with
    | .ok result => pure (some result)
    | .error line => do
      Py.emit line
      pure none

/-- The `result` a reply gives `cf_request`, when it gives one. -/
def Reply.result : Reply → Option JVal
  | .failed _ => none
  | .response status text json => (readResponse status text json).toOption

/-! ## Gathering the pool ids -/

/-- `json.loads` of a column's text. -/
def JsonText.loads : JsonText → Except Exc JVal
  | .parses v => .ok v
  | .invalid text => .error (.valueError s!"Expecting value: {text}")

/-- `pool_ids.update(items)`: the items are added in order, a value equal to an element already
there (Python's `==`, which hashing respects) is not added again, and the first unhashable
item raises `TypeError` with the items before it already added. -/
def setUpdate (set : List JVal) : List JVal → List JVal
  | [] => set
  | x :: xs =>
    if x.hashable then setUpdate (if set.any (JVal.looseEq x) then set else set ++ [x]) xs
    else set

/-- What one load-balancer row adds to `pool_ids`: the items of its `default_pools` when that
decodes to a list. A falsy column, text that is no JSON and a value of another kind add
nothing; the `TypeError` of an unhashable item is swallowed after the items before it. -/
def addDefaultPools (set : List JVal) : Option JsonText → List JVal
  | some text =>
    if text.truthy then
      match text.loads with
      | .ok (.arr items) => setUpdate set items
      | _ => set
    else set
  | none => set

/-- The first loop of `sync_pools_for_zone`: the set of pool ids, in the order they were
added. -/
def collectPoolIds (set : List JVal) : List (Row BalancerCols) → List JVal
  | [] => set
  | lb :: lbs => collectPoolIds (addDefaultPools set lb.cols.defaultPools) lbs

/-! ## Linking one pool -/

/-- The columns the pool `INSERT` writes, and the `UPDATE` sets, in the order the source
computes them: `notification_filter` first, then the tuple from left to right. A detail that
is no dict raises `AttributeError` at the first `get`, and so does an `origin_steering` that is
present but no dict, at `.get("policy", "random")`. -/
def poolColumns (lbId : Nat) (poolId poolData : JVal) : Except Exc PoolCols := do
  let notificationFilter ← poolData.get "notification_filter"
  let notificationEnabled :=
    notificationFilter.truthy && notificationFilter.isDict && notificationFilter.has "pool"
  let name ← poolData.get "name"
  let description ← poolData.get "description"
  let enabled ← poolData.getD "enabled" (.bool true)
  let minimumOrigins ← poolData.getD "minimum_origins" (.num 1)
  let monitor ← poolData.get "monitor"
  let steering ← poolData.getD "origin_steering" (.obj [])
  let policy ← steering.getD "policy" (.str "random")
  let notificationEmail ← poolData.get "notification_email"
  return ⟨lbId, poolId, name, description, enabled.truthy, minimumOrigins, monitor, policy,
    notificationEmail, notificationEnabled⟩

/-- The columns of one origin `INSERT`: an origin that is no dict raises `AttributeError` at its
first `get`; the host header is read only from a dict `header`. -/
def originColumns (poolDbId : Nat) (origin : JVal) : Except Exc OriginCols := do
  let name ← origin.get "name"
  let address ← origin.get "address"
  let enabled ← origin.getD "enabled" (.bool true)
  let weight ← origin.getD "weight" (.num 1)
  let port ← origin.get "port"
  let header ← origin.get "header"
  let headerHost ← if header.isDict then header.get "Host" else pure .null
  return ⟨poolDbId, name, address, enabled.truthy, weight, port, headerHost⟩

/-- The `UPDATE` of the row the `SELECT` found, or the `INSERT` of a new one; the pool row's
id either way. -/
def upsertPool (cols : PoolCols) : Option Nat → PoolM Nat
  | some poolDbId => do
    Py.update "cloudflare_lb_pools" (Store.updatePool poolDbId cols)
    pure poolDbId
  | none => Py.execute "cloudflare_lb_pools" (Store.insertPool cols)

/-- The `for origin in origins` loop: one `INSERT` per origin. -/
def insertOrigins (poolDbId : Nat) : List JVal → PoolM Unit
  | [] => pure ()
  | origin :: rest => do
    let cols ← Py.lift (originColumns poolDbId origin)
    Py.execute "cloudflare_lb_pool_origins" (Store.insertOrigin cols)
    insertOrigins poolDbId rest

/-- The statements that link pool `poolId` to load balancer `lbId`: the `SELECT` of the pair's
row, its upsert, the `DELETE` of its origins and the origin loop. It returns the row's id and
`len(origins)`. -/
def linkPool (lbId : Nat) (poolId poolData : JVal) : PoolM (Nat × Nat) := do
  let existing ← Py.query "cloudflare_lb_pools" (Store.poolRowId lbId poolId)
  let cols ← Py.lift (poolColumns lbId poolId poolData)
  let poolDbId ← upsertPool cols existing
  Py.update "cloudflare_lb_pool_origins" (Store.deleteOrigins poolDbId)
  let originsValue ← Py.lift (poolData.getD "origins" (.arr []))
  let origins ← Py.lift originsValue.iter
  insertOrigins poolDbId origins
  pure (poolDbId, origins.length)

/-- The `try` block of the inner loop for load balancer `lbId` with the text `text` of its
`default_pools`: `true` when it linked the pool and reached `break`. -/
def tryLink (poolId poolData : JVal) (lbId : Nat) (text : JsonText) : PoolM Bool := do
  let poolList ← Py.lift text.loads
  let member ← Py.lift (poolList.contains poolId)
  if member then do
    let linked ← linkPool lbId poolId poolData
    Py.emit (.poolSynced poolId lbId linked.1 linked.2)
    pure true
  else pure false

/-- The body of the inner loop for one load-balancer row. Every exception inside the `try` is
swallowed by the bare `except`, whatever statements ran before it. -/
def linkBalancer (poolId poolData : JVal) (lb : Row BalancerCols) : PoolM Bool :=
  match lb.cols.defaultPools with
  | none => pure false
  | some text =>
    if text.truthy then Py.tryExcept (fun _ => true) (tryLink poolId poolData lb.id text)
      fun _ => pure false
    else pure false

/-- The loop over the load balancers for one pool, which stops at the first `break`. -/
def linkLoop (poolId poolData : JVal) : List (Row BalancerCols) → PoolM Bool
  | [] => pure false
  | lb :: lbs => do
    let linked ← linkBalancer poolId poolData lb
    if linked then pure true else linkLoop poolId poolData lbs

/-- The path of a pool's detail. -/
def poolPath (cfAccountId poolId : JVal) : String :=
  s!"/accounts/{cfAccountId.pyStr}/load_balancers/pools/{poolId.pyStr}"

/-- The `for cf_pool_id in pool_ids` loop, with `synced_count`. -/
def poolLoop (cfAccountId : JVal) (email apiKey : String) (lbs : List (Row BalancerCols)) :
    List JVal → Nat → PoolM Nat
  | [], synced => pure synced
  | poolId :: rest, synced => do
    Py.emit (.fetching poolId)
    let poolData ← cfRequest "GET" (poolPath cfAccountId poolId) email apiKey
    match poolData.filter JVal.truthy with
    | none => do
      Py.emit (.fetchFailed poolId)
      poolLoop cfAccountId email apiKey lbs rest synced
    | some data => do
      let linked ← linkLoop poolId data lbs
      poolLoop cfAccountId email apiKey lbs rest (if linked then synced + 1 else synced)

/-- The `try` block of `sync_pools_for_zone`, from the zone lookup to the commit. -/
def poolSync (order : SetOrder) (zoneId : Int) (email apiKey : String) : PoolM Unit := do
  let zoneRow ← Py.query "cloudflare_zones" (Store.zoneWithAccount zoneId)
  match zoneRow with
  | none => Py.emit (.zoneMissing zoneId)
  | some (localZoneId, zoneName, cfAccountId) => do
    Py.emit (.zoneFound zoneName cfAccountId)
    let lbs ← Py.query "cloudflare_load_balancers" (Store.balancerRows localZoneId)
    if lbs.isEmpty then Py.emit .noBalancers
    else do
      let poolIds := order.order (collectPoolIds [] lbs)
      Py.emit (.poolsFound poolIds.length)
      let synced ← poolLoop cfAccountId email apiKey lbs poolIds 0
      Py.commit
      Py.emit (.finished synced)

/-- `sync_pools_for_zone(zone_id)`: without an email and a key it returns at once; otherwise it
connects (a refused connection raises out of it), and closes the connection after the `try`
block however that ends. -/
def syncPoolsForZone (files : String → Option RawConfig) (order : SetOrder) (zoneId : Int) :
    PoolM Unit := do
  let cf ← parseConfigFile files cloudflareIni
  let email := cf.lookup "email"
  let apiKey := cf.lookup "api_key"
  if !strTruthy email || !strTruthy apiKey then Py.emit .credentialsMissing
  else do
    let db ← parseConfigFile files mydnsConf
    Py.connect (getDbConfig db).host
    Py.tryFinally (poolSync order zoneId (email.getD "") (apiKey.getD "")) Py.close

/-- The script's entry: the zone id is the first argument, 3645 without one, and `int()` of an
argument that is no integer raises `ValueError`. -/
def poolsMain (argv : List String) (files : String → Option RawConfig) (order : SetOrder) :
    PoolM Unit :=
  match argv with
  | [] => syncPoolsForZone files order 3645
  | arg :: _ =>
    match JVal.pyIntOfString arg with
    | some zoneId => syncPoolsForZone files order zoneId
    | none => Py.raise (.valueError s!"invalid literal for int() with base 10: '{arg}'")

end CloudflareSync
