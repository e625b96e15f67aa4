import CloudflareSync.Client

/-!
# Configuration and the database host selector

`load_cloudflare_config`, `load_db_config` and `DatabaseConnectionManager` of
`sync_cloudflare_records.py`. The syntax of the key=value files is out of scope: a file enters
the model as the dict `parse_simple_config` makes of it, or as `none` when it does not exist,
where `parse_simple_config` raises `ConfigError`.

`connect` tries the hosts `orderedHosts` lists, one connection attempt each, and raises
`ConfigError` only after every attempt failed. The random rotation start and the shuffle draw
from the environment, so every rotation and every permutation the source can pick is a run of
the model.
-/

set_option autoImplicit false

namespace CloudflareSync

/-- A key=value file as `parse_simple_config` returns it. -/
abbrev RawConfig := List (String × String)

/-- Python's `a or b` on optional strings: `None` and `""` are false. -/
def orStr (a b : Option String) : Option String :=
  match a with
  | some s => if s.isEmpty then b else a
  | none => b

/-- Whether an optional string is truthy. -/
def strTruthy (a : Option String) : Bool := !(a.getD "").isEmpty

/-- `DEFAULT_CF_API`. -/
def defaultCfApi : String := "https://api.cloudflare.com/client/v4"

/-- `parse_simple_config(path)` of a file that may not exist. -/
def parseSimpleConfig (path : String) (file : Option RawConfig) : Except Exc RawConfig :=
  match file with
  | some raw => .ok raw
  | none => .error (.config s!"Config file not found: {path}")

/-- `parse_account_list(value)`: comma or newline separated ids, stripped, empty ones
dropped. -/
def parseAccountList (value : String) : List String :=
  if value.isEmpty then []
  else (((splitChars ',' (value.toList.map fun c => if c = '\n' then ',' else c)).map
    String.mk).map pyStrip).filter (!·.isEmpty)

/-- `load_cloudflare_config(path)`. -/
def loadCloudflareConfig (path : String) (file : Option RawConfig) :
    Except Exc CloudflareConfig := do
  let raw ← parseSimpleConfig path file
  let accountIds := parseAccountList ((raw.lookup "cf_account_ids").getD "")
  if accountIds.isEmpty then throw (.config s!"cf_account_ids missing in {path}")
  let apiBase := ((raw.lookup "api").getD defaultCfApi).dropRightWhile (· == '/')
  let email := raw.lookup "email"
  let apiKey := raw.lookup "api_key"
  let apiToken := raw.lookup "api_token"
  if !strTruthy apiToken && (!strTruthy email || !strTruthy apiKey) then
    throw (.config s!"Cloudflare credentials incomplete in {path}")
  return ⟨apiBase, email, apiKey, apiToken, accountIds⟩

/-- A database host and port. -/
abbrev Host := String × Int

/-- `parse_host_entry(entry)`: `[v6]:port`, `host:port` or a bare host; a port that `int()`
rejects leaves the default 3306. -/
def parseHostEntry (raw : String) : Host :=
  let entry := pyStrip raw
  let cs := entry.toList
  if cs.head? = some '[' && cs.contains ']' then
    let idx := cs.indexOf ']'
    let host := String.mk ((cs.take idx).drop 1)
    let port :=
      if cs.get? (idx + 1) = some ':' then
        (JVal.pyIntOfString (String.mk (cs.drop (idx + 2)))).getD 3306
      else 3306
    (host, port)
  else if cs.count ':' = 1 then
    let hostPart := String.mk (cs.takeWhile (· != ':'))
    let portPart := String.mk ((cs.dropWhile (· != ':')).drop 1)
    let host := if hostPart.isEmpty then entry else hostPart
    let port := if portPart.isEmpty then 3306 else (JVal.pyIntOfString portPart).getD 3306
    (host, port)
  else (entry, 3306)

/-- The fields of `DatabaseConfig` `connect` reads. -/
structure DatabaseConfig where
  user : String
  password : String
  database : String
  hosts : List Host
  policy : String
  deriving DecidableEq, Repr

/-- `VALID_POLICIES`. -/
def validPolicies : List String :=
  ["sequential", "round-robin", "roundrobin", "rr", "least-used", "least_used", "least"]

/-- `load_db_config(path)`: credentials are required, the hosts come from `db-host` to
`db-host4`, then the legacy keys, then `localhost:3306`, and an unknown policy is read as
`sequential`. -/
def loadDbConfig (path : String) (file : Option RawConfig) : Except Exc DatabaseConfig := do
  let raw ← parseSimpleConfig path file
  let get := fun key => raw.lookup key
  let user := orStr (get "db-user") (get "mysql-user")
  let password := orStr (orStr (get "db-password") (get "mysql-password")) (get "mysql-pass")
  let database := get "database"
  match user, password, database with
  | some user, some password, some database =>
    if user.isEmpty || database.isEmpty then
      throw (.config s!"database connection details missing in {path}")
    let listed := (["db-host", "db-host2", "db-host3", "db-host4"].filterMap fun key =>
      if strTruthy (get key) then get key else none).map parseHostEntry
    let legacy := orStr (get "mysql-host") (get "db-host")
    let hosts :=
      if !listed.isEmpty then listed
      else if strTruthy legacy then [parseHostEntry (legacy.getD "")]
      else [("localhost", 3306)]
    let policy := pyLower (pyStrip ((get "db-host-policy").getD "sequential"))
    let policy := if validPolicies.contains policy then policy else "sequential"
    return ⟨user, password, database, hosts, policy⟩
  | _, _, _ => throw (.config s!"database connection details missing in {path}")

/-- Swap the entries at `i` and `j`. -/
def swapAt {α : Type} (xs : List α) (i j : Nat) : List α :=
  match xs.get? i, xs.get? j with
  | some a, some b => (xs.set i b).set j a
  | _, _ => xs

/-- `random.shuffle(xs)`: for `i` from `len - 1` down to `1`, swap `i` with
`randbelow(i + 1)`. `i` counts the positions still to visit. -/
def shuffleFrom {σ ε α : Type} : Nat → List α → Py σ ε (List α)
  | 0, xs => pure xs
  | i + 1, xs => do
    let j ← Py.randBelow (i + 2)
    shuffleFrom i (swapAt xs (i + 1) j)

/-- `random.shuffle(xs)`. -/
def shuffle {σ ε α : Type} (xs : List α) : Py σ ε (List α) := shuffleFrom (xs.length - 1) xs

namespace DatabaseConfig

variable {σ ε : Type}

/-- `DatabaseConnectionManager.ordered_hosts()`. -/
def orderedHosts (config : DatabaseConfig) : Py σ ε (List Host) :=
  let hosts := config.hosts
  if ["round-robin", "roundrobin", "rr"].contains config.policy && !hosts.isEmpty then do
    let start ← Py.randBelow hosts.length
    pure (hosts.drop start ++ hosts.take start)
  else if ["least-used", "least_used", "least"].contains config.policy then shuffle hosts
  else pure hosts

/-- The `for host, port in ...` loop of `connect`, with the last error seen. -/
def connectLoop : List Host → Option Exc → Py σ ε Host
  | [], lastError =>
    let shown := (lastError.map Exc.str).getD "None"
    Py.raise (.config s!"Unable to connect to any DB host: {shown}")
  | host :: rest, _ =>
    Py.tryExcept (fun _ => true) (do Py.connect s!"{host.1}:{host.2}"; pure host) fun exc =>
      connectLoop rest (some exc)

/-- `DatabaseConnectionManager.connect()`: the host it connected to, with a fresh session
open on the world. -/
def connect (config : DatabaseConfig) : Py σ ε Host := do
  let hosts ← config.orderedHosts
  connectLoop hosts none

/-- What a connection attempt may do to the world: the store, the counter and the log stay,
and the open transaction either stays or is replaced by a fresh session on the store. -/
def Reconnects (s t : Sys σ ε) : Prop :=
  t.committed = s.committed ∧ t.autoInc = s.autoInc ∧ t.log = s.log ∧
    (t.pending = s.pending ∨ t.pending = s.committed)

theorem Reconnects.refl (s : Sys σ ε) : Reconnects s s := ⟨rfl, rfl, rfl, .inl rfl⟩

theorem Reconnects.trans : ∀ a b c : Sys σ ε, Reconnects a b → Reconnects b c → Reconnects a c := by
  intro a b c h h'
  obtain ⟨committed, autoInc, log, pending⟩ := h
  obtain ⟨committed', autoInc', log', pending'⟩ := h'
  refine ⟨committed'.trans committed, autoInc'.trans autoInc, log'.trans log, ?_⟩
  rcases pending' with same | fresh
  · exact same ▸ pending
  · exact .inr (fresh.trans committed)

theorem randBelow_reconnects (bound : Nat) : Py.Moves Reconnects (Py.randBelow bound : Py σ ε Nat) :=
  fun _ _ => ⟨rfl, rfl, rfl, .inl rfl⟩

theorem shuffleFrom_reconnects {α : Type} :
    ∀ (i : Nat) (xs : List α), Py.Moves Reconnects (shuffleFrom i xs : Py σ ε (List α))
  | 0, _ => Py.Moves.pure Reconnects.refl _
  | i + 1, _ => Py.Moves.bind Reconnects.trans (randBelow_reconnects _) fun _ =>
      shuffleFrom_reconnects i _

theorem orderedHosts_reconnects (config : DatabaseConfig) :
    Py.Moves Reconnects (config.orderedHosts : Py σ ε (List Host)) := by
  unfold orderedHosts
  dsimp only
  split
  · exact Py.Moves.bind Reconnects.trans (randBelow_reconnects _) fun _ =>
      Py.Moves.pure Reconnects.refl _
  · split
    · exact shuffleFrom_reconnects _ _
    · exact Py.Moves.pure Reconnects.refl _

theorem connectLoop_reconnects :
    ∀ (hosts : List Host) (lastError : Option Exc),
      Py.Moves Reconnects (connectLoop hosts lastError : Py σ ε Host)
  | [], _ => Py.Moves.raise Reconnects.refl _
  | host :: rest, _ => by
    refine Py.Moves.tryExcept Reconnects.trans (Py.Moves.bind
      Reconnects.trans ?_ fun _ => Py.Moves.pure Reconnects.refl _)
      fun _ => connectLoop_reconnects rest _
    intro env s
    dsimp only [Py.connect]
    split
    · exact ⟨rfl, rfl, rfl, .inl rfl⟩
    · exact ⟨rfl, rfl, rfl, .inr rfl⟩

/-- **A connection keeps the store and the log**, and at most opens a fresh session. -/
theorem connect_reconnects (config : DatabaseConfig) :
    Py.Moves Reconnects (config.connect : Py σ ε Host) :=
  Py.Moves.bind Reconnects.trans (orderedHosts_reconnects config) fun hosts =>
    connectLoop_reconnects hosts none

end DatabaseConfig

end CloudflareSync
