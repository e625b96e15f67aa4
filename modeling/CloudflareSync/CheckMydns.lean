import Mathlib.Data.String.Basic
import CloudflareSync.ConfigText

/-!
# The Nagios check `check_mydns.py`

`check_mydns.py` is an NRPE plugin. It reads `mydns.conf` with its own `parse_config`, pings
every configured database host with `mysqladmin`, looks for the `mydns` process with `pgrep`,
asks the daemon a question with `dig` when `--query-name` is given, prints one line whose first
word names the state, and exits with the state's code. The programs it runs are the machine
(`Machine`): the path `shutil.which` finds for a program, and what `subprocess.run` gives for a
command line.

`mysqladmin_ping` and `dig_query` run their program with `text=True`, so output that is not
valid text makes `subprocess.run` raise `UnicodeDecodeError`, which nothing catches: the plugin
then dies with a traceback, prints no status line and exits with 1, exactly when the output of
a probe it runs does not decode (`probesRaise`). Otherwise the exit status is the largest code a
probe raises (`main_exitStatus`): CRITICAL exactly when a database host, the process or the
query fails (`probesFail`), WARNING when nothing fails and no database host is configured, OK
otherwise. No host is configured only when `mydns.conf` sets `db-host` to the empty string,
because a file without `db-host` means `localhost`. The plugin never exits with
`EXIT_UNKNOWN`: the one line it prints that begins with `UNKNOWN`, for a missing configuration
file, is the message of a `SystemExit`, and Python exits with 1, the code of WARNING
(`main_never_unknown`).
-/

set_option autoImplicit false

namespace CloudflareSync.CheckMydns

/-! ## Exit codes -/

/-- `EXIT_OK`. -/
def exitOk : Nat := 0

/-- `EXIT_WARNING`. -/
def exitWarning : Nat := 1

/-- `EXIT_CRITICAL`. -/
def exitCritical : Nat := 2

/-- `EXIT_UNKNOWN`. -/
def exitUnknown : Nat := 3

/-- `codes` of `main`: the label of each exit code. -/
def codes : List (Nat × String) :=
  [(exitOk, "OK"), (exitWarning, "WARNING"), (exitCritical, "CRITICAL"), (exitUnknown, "UNKNOWN")]

/-- `codes.get(status, 'UNKNOWN')`. -/
def codeLabel (status : Nat) : String := (codes.lookup status).getD "UNKNOWN"

/-! ## The probes -/

/-- What `subprocess.run` returns: the exit code and the captured output. With `text=True` the
captured bytes are decoded in the locale's encoding (UTF-8), and bytes that are not valid in it
make `run` raise `UnicodeDecodeError`: a stream is its decoded text, or `none` for such bytes. -/
structure Completed where
  returncode : Int
  stdout : Option String
  stderr : Option String

/-- The machine the check runs on: the path `shutil.which` finds for a program, and what running
a command line gives. -/
structure Machine where
  which : String → Option String
  run : List String → Completed

/-- `subprocess.run(cmd, ..., text=True)`: the exit code and both streams decoded, or `none`
when one of them is not valid text and `run` raises `UnicodeDecodeError`. -/
def runText (m : Machine) (cmd : List String) : Option (Int × String × String) :=
  let proc := m.run cmd
  match proc.stdout, proc.stderr with
  | some stdout, some stderr => some (proc.returncode, stdout, stderr)
  | _, _ => none

/-- `a or b` for two strings. -/
def strOr (a b : String) : String := if a.isEmpty then b else a

/-- `xs.insert(-1, x)`: `x` before the last element. -/
def insertBeforeLast {α : Type} (xs : List α) (x : α) : List α :=
  xs.dropLast ++ x :: xs.getLast?.toList

/-- `needle in haystack` for two strings. -/
def containsText (needle haystack : String) : Bool :=
  haystack.toList.tails.any fun rest => needle.toList.isPrefixOf rest

/-- `cmd` of `mysqladmin_ping`: the password goes before `ping` when there is one. -/
def mysqladminCommand (mysqladmin host user password : String) (timeout : Nat) : List String :=
  let cmd := [mysqladmin, s!"--connect-timeout={timeout}", "--silent", "--host", host, "--user",
    user, "ping"]
  if password.isEmpty then cmd else insertBeforeLast cmd ("--password=" ++ password)

/-- `mysqladmin_ping(host, user, password, timeout)`; `none` when it raises
`UnicodeDecodeError`. -/
def mysqladminPing (m : Machine) (host user password : String) (timeout : Nat) :
    Option (Bool × String) :=
  match m.which "mysqladmin" with
  | none => some (false, "mysqladmin command not found")
  | some mysqladmin => do
    let (returncode, stdout, stderr) ← runText m (mysqladminCommand mysqladmin host user password timeout)
    if returncode = 0 then some (true, strOr (pyStrip stdout) "mysqld is alive")
    else some (false, strOr (strOr (pyStrip stderr) (pyStrip stdout)) "mysqladmin ping failed")

/-- `check_mydns_process()`. Its `run` has no `text=True`, so nothing is decoded. -/
def checkMydnsProcess (m : Machine) : Bool × String :=
  match m.which "pgrep" with
  | none => (false, "pgrep command not found")
  | some pgrep =>
    if (m.run [pgrep, "-x", "mydns"]).returncode = 0 then (true, "mydns process running")
    else (false, "mydns process not found")

/-- `dig_query(server, name, qtype, timeout)`; `none` when it raises `UnicodeDecodeError`. -/
def digQuery (m : Machine) (server name qtype : String) (timeout : Nat) : Option (Bool × String) :=
  match m.which "dig" with
  | none => some (false, "dig command not found")
  | some dig => do
    let (returncode, stdout, stderr) ← runText m [dig, "@" ++ server, name, qtype,
      s!"+time={timeout}", "+tries=1", "+noall", "+answer"]
    if returncode ≠ 0 then some (false, strOr (pyStrip stderr) "dig command failed")
    else if containsText "connection timed out" (pyLower stdout) then some (false, "dig timed out")
    else some (true, strOr (pyStrip stdout) "dig returned empty answer")

/-! ## `main` -/

/-- The arguments `main` reads. -/
structure Args where
  config : String
  queryName : Option String
  queryType : String
  server : String

/-- What `open(path)` in `parse_config` meets. -/
inductive ConfigFile where
  /-- `open` raises `FileNotFoundError`, whose text is `error`. -/
  | missing (error : String)
  /-- `open` or a read raises another exception, which nothing catches: another `OSError`, or
  `UnicodeDecodeError` for bytes the file's encoding rejects. -/
  | unreadable
  /-- The lines of the file. -/
  | lines (text : List String)

/-- How the script ends. -/
inductive Outcome where
  /-- `print(line)`, then `sys.exit(status)`. -/
  | report (line : String) (status : Nat)
  /-- `raise SystemExit(message)`: the message on stderr, exit status 1. -/
  | exit (message : String)
  /-- An exception nothing catches: a traceback on stderr, exit status 1. -/
  | crash

/-- The exit status of the process. -/
def Outcome.exitStatus : Outcome → Nat
  | report _ status => status
  | exit _ => 1
  | crash => 1

/-- The line the script writes: the report on stdout or the `SystemExit` message on stderr. -/
def Outcome.line : Outcome → Option String
  | report line _ => some line
  | exit message => some message
  | crash => none

/-- `db_user`: `db-user`, then `mysql-user`, then `root`. -/
def dbUser (cfg : RawConfig) : String :=
  strOr ((cfg.lookup "db-user").getD "") (strOr ((cfg.lookup "mysql-user").getD "") "root")

/-- `db_password`: `db-password`, then `mysql-password`, then `mysql-pass`, then empty. -/
def dbPassword (cfg : RawConfig) : String :=
  strOr ((cfg.lookup "db-password").getD "")
    (strOr ((cfg.lookup "mysql-password").getD "") (strOr ((cfg.lookup "mysql-pass").getD "") ""))

/-- `db_hosts`: `db-host`, `localhost` when it is missing, then `db-host2` to `db-host4`, with
the empty ones dropped. -/
def dbHosts (cfg : RawConfig) : List String :=
  [(cfg.lookup "db-host").getD "localhost", (cfg.lookup "db-host2").getD "",
    (cfg.lookup "db-host3").getD "", (cfg.lookup "db-host4").getD ""].filter (!·.isEmpty)

/-- The loop `for host in db_hosts` of `main`, from the messages and the failed hosts so far;
`none` when a ping raises. -/
def pingLoop (m : Machine) (user password : String) :
    List String → List String × List String → Option (List String × List String)
  | [], acc => some acc
  | host :: rest, (messages, failures) => do
    let (ok, msg) ← mysqladminPing m host user password 5
    pingLoop m user password rest
      (if ok then (messages ++ ["DB " ++ host ++ ": OK"], failures)
      else (messages ++ ["DB " ++ host ++ ": " ++ msg], failures ++ [host]))

/-- The database block of `main`: the status and the messages after the loop over the hosts. -/
def dbBlock (m : Machine) (cfg : RawConfig) : Option (Nat × List String) :=
  let hosts := dbHosts cfg
  if hosts.isEmpty then some (max exitOk exitWarning, ["No db-host entries found"])
  else do
    let (messages, failures) ← pingLoop m (dbUser cfg) (dbPassword cfg) hosts ([], [])
    some (if failures.isEmpty then exitOk else max exitOk exitCritical, messages)

/-- The process block of `main`. -/
def processBlock (m : Machine) : Nat × List String → Nat × List String
  | (status, messages) =>
    let (procOk, procMsg) := checkMydnsProcess m
    if procOk then (status, messages ++ ["Process: OK"])
    else (max status exitCritical, messages ++ ["Process: " ++ procMsg])

/-- The query block of `main`. -/
def queryBlock (m : Machine) (args : Args) : Nat × List String → Option (Nat × List String)
  | (status, messages) =>
    if strTruthy args.queryName then do
      let (queryOk, queryMsg) ← digQuery m args.server (args.queryName.getD "") args.queryType 3
      if queryOk then some (status, messages ++ ["Query: OK"])
      else some (max status exitCritical, messages ++ ["Query: " ++ queryMsg])
    else some (status, messages ++ ["Query: skipped (no --query-name)"])

/-- `main()`, on the parsed arguments, what opening the configuration file meets, and the
machine. A probe that raises `UnicodeDecodeError` ends the script with a traceback. -/
def main (args : Args) (file : ConfigFile) (m : Machine) : Outcome :=
  match file with
  | .missing error => .exit ("UNKNOWN - Cannot open config " ++ args.config ++ ": " ++ error)
  | .unreadable => .crash
  | .lines text =>
    match (dbBlock m (parseConfig text)).bind fun acc => queryBlock m args (processBlock m acc) with
    | some (status, messages) =>
      .report (codeLabel status ++ " - " ++ " | ".intercalate messages) status
    | none => .crash

/-! ## The exit status -/

section Probes

variable (args : Args) (m : Machine) (cfg : RawConfig)

/-- Whether a probe `main` runs raises `UnicodeDecodeError`: the ping of a configured database
host, or the query when `--query-name` is given. -/
def probesRaise : Bool :=
  (dbHosts cfg).any (fun host => (mysqladminPing m host (dbUser cfg) (dbPassword cfg) 5).isNone) ||
    (strTruthy args.queryName &&
      (digQuery m args.server (args.queryName.getD "") args.queryType 3).isNone)

/-- Whether one of the probes `main` runs fails: the ping of a configured database host, the
process check, or the query when `--query-name` is given. -/
def probesFail : Bool :=
  (dbHosts cfg).any (fun host =>
      (mysqladminPing m host (dbUser cfg) (dbPassword cfg) 5).any (!·.1)) ||
    !(checkMydnsProcess m).1 ||
    (strTruthy args.queryName &&
      (digQuery m args.server (args.queryName.getD "") args.queryType 3).any (!·.1))

end Probes

/-- The loop raises exactly when the ping of one of its hosts raises; otherwise it adds the hosts
whose ping fails, in order. -/
theorem pingLoop_failures (m : Machine) (user password : String) :
    ∀ (hosts : List String) (acc : List String × List String),
      (pingLoop m user password hosts acc).map Prod.snd =
        if hosts.any (fun host => (mysqladminPing m host user password 5).isNone) then none
        else some (acc.2 ++ hosts.filter fun host => (mysqladminPing m host user password 5).any (!·.1))
  | [], acc => by simp [pingLoop]
  | host :: rest, (messages, failures) => by
    rw [pingLoop]
    cases ping : mysqladminPing m host user password 5 with
    | none => simp [ping]
    | some result =>
      obtain ⟨ok, msg⟩ := result
      cases ok <;> simp [pingLoop_failures m user password rest, ping, List.filter_cons]

theorem dbBlock_status (m : Machine) (cfg : RawConfig) :
    (dbBlock m cfg).map Prod.fst =
      if (dbHosts cfg).any (fun host =>
        (mysqladminPing m host (dbUser cfg) (dbPassword cfg) 5).isNone) then none
      else some (if dbHosts cfg = [] then exitWarning
        else if (dbHosts cfg).any (fun host =>
          (mysqladminPing m host (dbUser cfg) (dbPassword cfg) 5).any (!·.1)) then exitCritical
        else exitOk) := by
  unfold dbBlock
  by_cases noHosts : dbHosts cfg = []
  · simp [noHosts, exitWarning, exitOk]
  have loop := pingLoop_failures m (dbUser cfg) (dbPassword cfg) (dbHosts cfg) ([], [])
  simp only [List.isEmpty_iff, noHosts, if_false, List.nil_append] at loop ⊢
  revert loop
  cases pingLoop m (dbUser cfg) (dbPassword cfg) (dbHosts cfg) ([], []) with
  | none => split <;> simp_all
  | some result =>
    obtain ⟨messages, failures⟩ := result
    by_cases raises : (dbHosts cfg).any (fun host =>
        (mysqladminPing m host (dbUser cfg) (dbPassword cfg) 5).isNone) = true
    · simp [raises]
    simp only [raises, Bool.false_eq_true, if_false, Option.map_some', Option.some.injEq,
      Option.bind_eq_bind, Option.some_bind]
    rintro rfl
    by_cases anyFails : (dbHosts cfg).any (fun host =>
        (mysqladminPing m host (dbUser cfg) (dbPassword cfg) 5).any (!·.1)) = true
    · obtain ⟨host, member, fails⟩ := List.any_eq_true.mp anyFails
      rw [if_pos anyFails, if_neg fun none => List.filter_eq_nil_iff.mp none host member fails]
      rfl
    · rw [if_neg anyFails, if_pos (List.filter_eq_nil_iff.mpr fun host member fails =>
        anyFails (List.any_eq_true.mpr ⟨host, member, fails⟩))]

theorem processBlock_status (m : Machine) (acc : Nat × List String) :
    (processBlock m acc).1 = if (checkMydnsProcess m).1 then acc.1 else max acc.1 exitCritical := by
  obtain ⟨status, messages⟩ := acc
  unfold processBlock
  cases checkMydnsProcess m with
  | mk procOk procMsg => cases procOk <;> rfl

theorem queryBlock_status (m : Machine) (args : Args) (acc : Nat × List String) :
    (queryBlock m args acc).map Prod.fst =
      if strTruthy args.queryName &&
          (digQuery m args.server (args.queryName.getD "") args.queryType 3).isNone then none
      else some (if strTruthy args.queryName &&
          (digQuery m args.server (args.queryName.getD "") args.queryType 3).any (!·.1) then
        max acc.1 exitCritical
      else acc.1) := by
  obtain ⟨status, messages⟩ := acc
  unfold queryBlock
  cases strTruthy args.queryName
  · rfl
  · cases digQuery m args.server (args.queryName.getD "") args.queryType 3 with
    | none => rfl
    | some result => obtain ⟨queryOk, queryMsg⟩ := result; cases queryOk <;> rfl

/-- The three blocks raise the status to the largest code one of them raises. -/
theorem blocks_status (noHosts : Prop) [Decidable noHosts] (anyFails procOk queryFails : Bool)
    (quiet : noHosts → anyFails = false) :
    let afterDb := if noHosts then exitWarning else if anyFails then exitCritical else exitOk
    let afterProc := if procOk then afterDb else max afterDb exitCritical
    (if queryFails then max afterProc exitCritical else afterProc) =
      if anyFails || !procOk || queryFails then exitCritical
      else if noHosts then exitWarning else exitOk := by
  by_cases none : noHosts
  · simp only [none, if_true, quiet none]
    cases procOk <;> cases queryFails <;> rfl
  · simp only [none, if_false]
    cases anyFails <;> cases procOk <;> cases queryFails <;> rfl

/-- The status the three blocks reach on a configuration, or `none` when a probe raises. -/
theorem blocks_eq (args : Args) (m : Machine) (cfg : RawConfig) :
    ((dbBlock m cfg).bind fun acc => queryBlock m args (processBlock m acc)).map Prod.fst =
      if probesRaise args m cfg then none
      else some (if probesFail args m cfg then exitCritical
        else if dbHosts cfg = [] then exitWarning else exitOk) := by
  have db := dbBlock_status m cfg
  by_cases raises : (dbHosts cfg).any (fun host =>
      (mysqladminPing m host (dbUser cfg) (dbPassword cfg) 5).isNone) = true
  · rw [if_pos raises, Option.map_eq_none'] at db
    simp [db, probesRaise, raises]
  rw [if_neg raises] at db
  obtain ⟨acc, ran, status⟩ := Option.map_eq_some'.mp db
  rw [ran, Option.some_bind, queryBlock_status, processBlock_status, status]
  simp only [probesRaise, probesFail, raises, Bool.false_or]
  split
  · rfl
  · exact congrArg some (blocks_status _ _ _ _ fun none => by simp [none])

/-- A run that reads the file dies with a traceback when a probe raises, and otherwise prints
the label of the status the three blocks reach and their messages. -/
theorem main_lines (args : Args) (text : List String) (m : Machine) :
    let status := if probesFail args m (parseConfig text) then exitCritical
      else if dbHosts (parseConfig text) = [] then exitWarning else exitOk
    ∃ messages, main args (.lines text) m =
      if probesRaise args m (parseConfig text) then .crash
      else .report (codeLabel status ++ " - " ++ " | ".intercalate messages) status := by
  have blocks := blocks_eq args m (parseConfig text)
  simp only [main]
  revert blocks
  cases (dbBlock m (parseConfig text)).bind fun acc => queryBlock m args (processBlock m acc) with
  | none =>
    intro blocks
    by_cases raises : probesRaise args m (parseConfig text) = true
    · exact ⟨[], by rw [if_pos raises]⟩
    · simp [raises] at blocks
  | some result =>
    obtain ⟨status, messages⟩ := result
    intro blocks
    by_cases raises : probesRaise args m (parseConfig text) = true
    · simp [raises] at blocks
    · simp only [raises, Bool.false_eq_true, if_false, Option.map_some', Option.some.injEq] at blocks
      subst blocks
      exact ⟨messages, by rw [if_neg raises]⟩

/-- **The state of the check.** On every file it can read and every machine, the plugin dies
with a traceback exactly when the output of a probe it runs does not decode as text; otherwise
it reports CRITICAL exactly when a probe fails, WARNING when none fails and no database host is
configured, and OK otherwise. -/
theorem main_exitStatus (args : Args) (text : List String) (m : Machine) :
    (main args (.lines text) m = .crash ↔ probesRaise args m (parseConfig text) = true) ∧
      (probesRaise args m (parseConfig text) = false → ∃ line,
        main args (.lines text) m = .report line
          (if probesFail args m (parseConfig text) then exitCritical
          else if dbHosts (parseConfig text) = [] then exitWarning else exitOk)) := by
  obtain ⟨messages, run⟩ := main_lines args text m
  rw [run]
  cases probesRaise args m (parseConfig text)
  · exact ⟨by simp, fun _ => ⟨_, rfl⟩⟩
  · exact ⟨by simp, nofun⟩

/-- A machine without `mysqladmin`: the host of a `mydns.conf` that names none is `localhost`,
and its ping fails. -/
example : (main ⟨"/etc/mydns/mydns.conf", none, "SOA", "127.0.0.1"⟩ (.lines ["# no hosts\n"])
    ⟨fun p => if p = "mysqladmin" then none else some ("/usr/bin/" ++ p),
      fun _ => ⟨0, some "", some ""⟩⟩).line =
      some ("CRITICAL - DB localhost: mysqladmin command not found | Process: OK | " ++
        "Query: skipped (no --query-name)") := by
  decide

/-- `mysqladmin` writing bytes that are not UTF-8: the ping raises and the plugin dies. -/
example : main ⟨"/etc/mydns/mydns.conf", none, "SOA", "127.0.0.1"⟩ (.lines [])
    ⟨fun p => some ("/usr/bin/" ++ p), fun _ => ⟨1, none, some ""⟩⟩ = .crash := rfl

/-- **The plugin never reports UNKNOWN to Nagios.** No run exits with `EXIT_UNKNOWN`. A run that
reads the file and whose probes' output decodes prints a line that begins with the label of its
exit status; a probe's output that does not decode ends the run with a traceback and no line; a
run that finds no file prints a line that begins with `UNKNOWN` and exits with 1, which Nagios
shows as WARNING. -/
theorem main_never_unknown (args : Args) (m : Machine) (file : ConfigFile) :
    (main args file m).exitStatus ≠ exitUnknown ∧
      (∀ text, file = .lines text →
        (probesRaise args m (parseConfig text) = true → (main args file m).line = none) ∧
        (probesRaise args m (parseConfig text) = false → ∃ rest,
          (main args file m).line = some (codeLabel (main args file m).exitStatus ++ " - " ++ rest))) ∧
      ∀ error, file = .missing error → (main args file m).exitStatus = exitWarning ∧
        ∃ rest, (main args file m).line = some (codeLabel exitUnknown ++ " - " ++ rest) := by
  cases file with
  | missing error =>
    refine ⟨nofun, nofun, fun _ _ => ⟨rfl, "Cannot open config " ++ args.config ++ ": " ++ error, ?_⟩⟩
    simp only [main, Outcome.line, String.append_assoc]
    rfl
  | unreadable => exact ⟨nofun, nofun, nofun⟩
  | lines text =>
    obtain ⟨messages, run⟩ := main_lines args text m
    refine ⟨?_, fun _ same => ?_, nofun⟩ <;> rw [run]
    · split_ifs <;> simp [Outcome.exitStatus, exitUnknown, exitCritical, exitWarning, exitOk]
    · cases same
      cases probesRaise args m (parseConfig text)
      · exact ⟨nofun, fun _ => ⟨_, rfl⟩⟩
      · exact ⟨fun _ => rfl, nofun⟩

/-- A missing `mydns.conf`. -/
theorem main_never_unknown_missing :
    let args : Args := ⟨"/etc/mydns/mydns.conf", none, "SOA", "127.0.0.1"⟩
    let m : Machine := ⟨fun _ => none, fun _ => ⟨0, some "", some ""⟩⟩
    (main args (.missing "No such file") m).exitStatus = exitWarning ∧
      (main args (.missing "No such file") m).line =
        some "UNKNOWN - Cannot open config /etc/mydns/mydns.conf: No such file" :=
  ⟨((main_never_unknown _ _ _).2.2 "No such file" rfl).1, rfl⟩

end CloudflareSync.CheckMydns
