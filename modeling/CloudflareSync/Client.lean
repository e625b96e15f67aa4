import CloudflareSync.Runtime

/-!
# The Cloudflare API client

`CloudflareClient` of `sync_cloudflare_records.py`, which the multi-user script imports too.
`request` turns every reply into a decoded body or a `CloudflareError`: a transport failure,
a body that is no JSON, a status of 400 or more and a body whose `success` is false are the
four cases it classifies. A body that is JSON but no dict is not one of them: `decoded.get`
then raises `AttributeError` out of `request` (`request_error_of_not_dict`).

`paginatedGet` requests page after page until the reported `total_pages` is absent, zero or
reached; it reads `result` and `result_info` of every page with the same Python operations
the source uses, so a `result` that is a string is spread into its characters and a
`total_pages` that is no number raises from `int()`.

Every client call touches neither the database nor the log (`paginatedGet_quiet`,
`listLoadBalancers_quiet`): what it changes is only the tick of the outside world.
-/

set_option autoImplicit false

namespace CloudflareSync

/-- The fields of `CloudflareConfig` the client and the engines read. -/
structure CloudflareConfig where
  baseUrl : String
  email : Option String
  apiKey : Option String
  apiToken : Option String
  accountIds : List String
  deriving DecidableEq, Repr

/-- `CloudflareClient`: the base URL with its trailing slashes stripped, and the config. -/
structure CloudflareClient where
  base : String
  config : CloudflareConfig
  deriving DecidableEq, Repr

/-- `CloudflareClient(config)`. -/
def CloudflareClient.new (config : CloudflareConfig) : CloudflareClient :=
  ⟨config.baseUrl.dropRightWhile (· == '/'), config⟩

/-- `dict[key] = value` on a dict of strings: an existing key keeps its place. -/
def dictSet (d : List (String × String)) (key value : String) : List (String × String) :=
  if d.any (·.1 == key) then d.map fun p => if p.1 == key then (key, value) else p
  else d ++ [(key, value)]

/-- `d.update(e)`. -/
def dictUpdate (d e : List (String × String)) : List (String × String) :=
  e.foldl (fun acc p => dictSet acc p.1 p.2) d

namespace CloudflareClient

variable {σ ε : Type}

/-- `headers()`: a bearer token when one is configured, otherwise the email and key pair. -/
def headers (c : CloudflareClient) : List (String × String) :=
  match c.config.apiToken with
  | some token =>
    if token.isEmpty then
      [("Content-Type", "application/json"), ("X-Auth-Email", c.config.email.getD ""),
        ("X-Auth-Key", c.config.apiKey.getD "")]
    else [("Content-Type", "application/json"), ("Authorization", "Bearer " ++ token)]
  | none =>
    [("Content-Type", "application/json"), ("X-Auth-Email", c.config.email.getD ""),
      ("X-Auth-Key", c.config.apiKey.getD "")]

/-- The message of a refused call: `decoded.get("errors") or decoded.get("messages") or
text[:200]`. -/
def refusal (decoded : JVal) (text : String) : Except Exc String := do
  let errors ← decoded.get "errors"
  if errors.truthy then return errors.pyStr
  let messages ← decoded.get "messages"
  if messages.truthy then return messages.pyStr
  return text.take 200

/-- The test that refuses a decoded reply: `resp.status_code >= 400 or not
decoded.get("success", False)`. -/
def refused (status : Nat) (decoded : JVal) : Except Exc Bool :=
  if 400 ≤ status then .ok true
  else do
    let success ← decoded.getD "success" (.bool false)
    return !success.truthy

/-- The HTTP request `request(method, path, params)` sends. -/
def httpRequest (c : CloudflareClient) (method path : String) (params : List (String × String)) :
    Request :=
  ⟨method.toUpper, c.base ++ "/" ++ path.dropWhile (· == '/'), c.headers, params⟩

/-- `request(method, path, params)`. -/
def request (c : CloudflareClient) (method path : String) (params : List (String × String)) :
    Py σ ε JVal := do
  let reply ← Py.http (c.httpRequest method path params)
  match reply with
  | .failed exc => Py.raise (.cloudflare s!"Request failed: {exc}")
  | .response _ text none =>
    let snippet := text.take 200
    Py.raise (.cloudflare s!"Cloudflare invalid response: {snippet}")
  | .response status text (some decoded) => do
    let bad ← Py.lift (refused status decoded)
    if bad then do
      let message ← Py.lift (refusal decoded text)
      Py.raise (.cloudflare s!"Cloudflare API error {status}: {message}")
    else pure decoded

/-- The query of page `page`: `{"page": str(page), "per_page": str(per_page)}`, updated with
the caller's `params` when there are any. -/
def pageParams (page perPage : Nat) (params : List (String × String)) :
    List (String × String) :=
  let first := [("page", toString page), ("per_page", toString perPage)]
  if params.isEmpty then first else dictUpdate first params

/-- What one pass of the `paginated_get` loop reads off the decoded page `page`: the items
`results.extend(batch)` adds, and whether the loop breaks (`not total_pages or page >=
int(total_pages)`). -/
def readPage (decoded : JVal) (page : Nat) : Except Exc (List JVal × Bool) := do
  let result ← decoded.get "result"
  let batch ← (result.orElse (.arr [])).iter
  let resultInfo ← decoded.get "result_info"
  let reported ← (resultInfo.orElse (.obj [])).get "total_pages"
  let totalPages := reported.orElse (.num 0)
  if !totalPages.truthy then return (batch, true)
  let last ← totalPages.toInt
  return (batch, decide (last ≤ (page : Int)))

/-- The `while True` loop of `paginated_get`, from page `page` with `results` gathered so far;
`fuel` bounds the pages the model follows. -/
def pageLoop (c : CloudflareClient) (path : String) (params : List (String × String))
    (perPage : Nat) : Nat → Nat → List JVal → Py σ ε (List JVal)
  | 0, _, _ => Py.diverge
  | fuel + 1, page, results => do
    let decoded ← c.request "GET" path (pageParams page perPage params)
    let step ← Py.lift (readPage decoded page)
    if step.2 then pure (results ++ step.1)
    else pageLoop c path params perPage fuel (page + 1) (results ++ step.1)

/-- `paginated_get(path, params, per_page)`. -/
def paginatedGet (c : CloudflareClient) (path : String) (params : List (String × String))
    (perPage : Nat) : Py σ ε (List JVal) := do
  let env ← Py.env
  c.pageLoop path params perPage env.fuel 1 []

/-- `list_zones(account_id)`. -/
def listZones (c : CloudflareClient) (accountId : String) : Py σ ε (List JVal) :=
  c.paginatedGet "/zones" [("account.id", accountId)] 50

/-- `list_records(zone_id)`. -/
def listRecords (c : CloudflareClient) (zoneId : JVal) : Py σ ε (List JVal) :=
  let zone := zoneId.pyStr
  c.paginatedGet s!"/zones/{zone}/dns_records" [] 100

/-- `list_load_balancers(zone_id)`: a `CloudflareError` is logged as a warning and read as
no load balancers. -/
def listLoadBalancers (c : CloudflareClient) (zoneId : JVal) : Py σ ε (List JVal) :=
  let zone := zoneId.pyStr
  Py.tryExcept Exc.isCloudflare (c.paginatedGet s!"/zones/{zone}/load_balancers" [] 50)
    fun _ => pure []

/-- A reply that is JSON but no dict is not classified: below status 400, `decoded.get`
raises `AttributeError` out of `request`. -/
theorem request_error_of_not_dict (c : CloudflareClient) (method path : String)
    (params : List (String × String)) (env : Env) (s : Sys σ ε) (status : Nat) (text : String)
    (decoded : JVal) (reply : env.reply s.tick (c.httpRequest method path params) =
      .response status text (some decoded))
    (low : status < 400) (notDict : decoded.isDict = false) :
    c.request method path params env s =
      .error (Exc.noAttribute decoded "get") { s with tick := s.tick + 1 } := by
  cases decoded <;> simp_all [request, refused, JVal.getD, JVal.isDict, Py.lift, Nat.not_le.mpr low]

/-! ## Client calls leave the database and the log alone -/

theorem request_quiet (c : CloudflareClient) (method path : String)
    (params : List (String × String)) : Py.Quiet (c.request method path params : Py σ ε JVal) := by
  refine Py.Quiet.bind (Py.Quiet.http _) fun reply => ?_
  rcases reply with _ | ⟨status, text, _ | decoded⟩ <;> dsimp only
  · exact Py.Quiet.raise _
  · exact Py.Quiet.raise _
  · refine Py.Quiet.bind (Py.Quiet.lift _) fun bad => ?_
    split
    · exact Py.Quiet.bind (Py.Quiet.lift _) fun _ => Py.Quiet.raise _
    · exact Py.Quiet.pure _

theorem pageLoop_quiet (c : CloudflareClient) (path : String) (params : List (String × String))
    (perPage : Nat) : ∀ fuel page results,
      Py.Quiet (c.pageLoop path params perPage fuel page results : Py σ ε (List JVal))
  | 0, _, _ => Py.Quiet.diverge
  | fuel + 1, page, results => by
    refine Py.Quiet.bind (request_quiet c _ _ _) fun _ => Py.Quiet.bind (Py.Quiet.lift _) fun _ => ?_
    split
    · exact Py.Quiet.pure _
    · exact pageLoop_quiet c path params perPage fuel _ _

theorem paginatedGet_quiet (c : CloudflareClient) (path : String)
    (params : List (String × String)) (perPage : Nat) :
    Py.Quiet (c.paginatedGet path params perPage : Py σ ε (List JVal)) :=
  Py.Quiet.bind Py.Quiet.env fun _ => pageLoop_quiet c path params perPage _ _ _

theorem listZones_quiet (c : CloudflareClient) (accountId : String) :
    Py.Quiet (c.listZones accountId : Py σ ε (List JVal)) := paginatedGet_quiet c _ _ _

theorem listRecords_quiet (c : CloudflareClient) (zoneId : JVal) :
    Py.Quiet (c.listRecords zoneId : Py σ ε (List JVal)) := paginatedGet_quiet c _ _ _

theorem listLoadBalancers_quiet (c : CloudflareClient) (zoneId : JVal) :
    Py.Quiet (c.listLoadBalancers zoneId : Py σ ε (List JVal)) :=
  Py.Quiet.tryExcept (paginatedGet_quiet c _ _ _) fun _ => Py.Quiet.pure _

end CloudflareClient

end CloudflareSync
