import CloudflareSync.ApiSensor

/-!
# The API sensor's self-update and its `main`

Before it starts the sensor, `main` of `sensor-api.py` calls `check_for_updates`. It asks the
dnsmanager API for the current script version and, when the API offers another one, downloads
it, copies the running script to `<script>.backup`, runs the prerequisites script the download
may carry, writes the new version over the running script, makes it executable, and
`os.execv`s it. The whole body is
one `try`: once `backup_script` is set, its `except Exception` clause copies the backup, when
that file exists, back over the script, and returns `False`.

The host is given as the outcome of each file and process operation, each of which runs at most
once in a call. Reading a file can raise; a write can raise at `open`, leaving the file as it
was, or part-way, leaving the file `open` truncated with what reached it; the prerequisites can
exit nonzero or fail to start; `os.unlink`, `os.chmod` and `os.execv` can raise. Over every
such host and every reply of the API:

* a call restarts only on a version other than the running one, after a full backup of the
  script, with the downloaded `script_content` in its place (`checkForUpdates_restarted`);
* when the backup is made and the restore succeeds, a call that does not restart leaves the
  script as it was, wherever the install failed (`checkForUpdates_keeps_script`);
* when the backup itself fails, the handler still copies whatever `<script>.backup` then holds
  over the script: a backup left by an older update, or the part of the copy that reached the
  disk, so a backup write cut short empties the running script
  (`checkForUpdates_backup_failed`).
-/

set_option autoImplicit false

namespace CloudflareSync

/-! ## The version check and the download -/

/-- `__version__`, the version of the running script. -/
def version : String := "1.0.0"

/-- `s.rstrip(c)` for a one-character argument. -/
def pyRstripChar (c : Char) (s : String) : String := ⟨(s.toList.reverse.dropWhile (· == c)).reverse⟩

/-- `f'{api_url.rstrip("/")}{path}'`. -/
def endpoint (apiUrl path : String) : String := pyRstripChar '/' apiUrl ++ path

/-- The API as `requests.get` meets it: the response to a GET of a URL with its headers, `none`
when the request raises. -/
structure UpdateServer where
  get : String → List (String × String) → Option Response

/-- The JSON of a reply that `check_for_updates` goes on with: status 200 and a body that
decodes. Another status is a `return False`, and `response.json()` raising is caught before
`backup_script` is set, which ends the call the same way. -/
def okJson : Option Response → Option JVal
  | some ⟨200, some body⟩ => some body
  | _ => none

/-- The first half of `check_for_updates`, which touches no file: the version check, then the
download. The update data when the API offers a version other than the running one and sends it;
`none` for each `return False` and each exception on the way, all of which end the call with
`False` and no file touched. -/
def fetchUpdate (server : UpdateServer) (apiUrl apiKey : String) : Option JVal := do
  let versionInfo ← okJson (server.get (endpoint apiUrl "/api/sensors/script/version") [])
  let remoteVersion ← (versionInfo.get "version").toOption
  if !remoteVersion.truthy then none
  else if remoteVersion = .str version then none
  else okJson (server.get (endpoint apiUrl "/api/sensors/script/download")
    [("Authorization", "Bearer " ++ apiKey)])

/-- The facts a download rests on: a version reply of status 200 whose JSON holds a truthy
`version` other than the running one, then a download reply of status 200 whose JSON decodes. -/
theorem fetchUpdate_eq_some {server : UpdateServer} {apiUrl apiKey : String} {updateData : JVal}
    (fetched : fetchUpdate server apiUrl apiKey = some updateData) :
    ∃ info remoteVersion,
      okJson (server.get (endpoint apiUrl "/api/sensors/script/version") []) = some info ∧
      info.get "version" = .ok remoteVersion ∧ remoteVersion.truthy = true ∧
      remoteVersion ≠ .str version ∧
      okJson (server.get (endpoint apiUrl "/api/sensors/script/download")
        [("Authorization", "Bearer " ++ apiKey)]) = some updateData := by
  simp only [fetchUpdate, bind, Option.bind_eq_some] at fetched
  obtain ⟨info, reply, remoteVersion, read, offered⟩ := fetched
  have truthy : remoteVersion.truthy = true := by
    cases falsy : remoteVersion.truthy
    · simp [falsy] at offered
    · rfl
  have other : remoteVersion ≠ .str version := fun running => by simp [running] at offered
  rw [if_neg (by simp [truthy]), if_neg other] at offered
  refine ⟨info, remoteVersion, reply, ?_, truthy, other, offered⟩
  cases got : info.get "version" <;> simp_all [Except.toOption]

/-! ## The host and the files -/

/-- How `with open(path, 'w') as f: f.write(text)` ends: the file written, `open` raising with
the file untouched, or the write raising once `kept` characters reached the file `open`
truncated. -/
inductive WriteOutcome where
  | written
  | notOpened
  | cut (kept : Nat)
  deriving DecidableEq, Repr

/-- How `subprocess.run(['bash', prereq_script], check=True)` ends: the script exits with 0, exits
otherwise (`CalledProcessError`), or `run` raises another exception. -/
inductive RunOutcome where
  | exitedZero
  | exitedNonzero
  | raised
  deriving DecidableEq, Repr

/-- The host's answer to each operation of `check_for_updates` after the download: reading the
script, writing the backup, writing and running the prerequisites and unlinking them, writing the
new version, `os.chmod`, `os.execv` (which replaces the process when it does not raise), and the
restore's read of the backup and write of the script. A `Bool` says the operation does not
raise. -/
structure UpdateHost where
  readScript : Bool
  writeBackup : WriteOutcome
  writePrerequisites : Bool
  runPrerequisites : RunOutcome
  unlinkPrerequisites : Bool
  writeScript : WriteOutcome
  chmodScript : Bool
  execv : Bool
  readBackup : Bool
  restoreScript : WriteOutcome
  deriving DecidableEq, Repr

/-- The files `check_for_updates` writes: the running script, and `<script>.backup` when there is
one. -/
structure ScriptFiles where
  script : String
  backup : Option String
  deriving DecidableEq, Repr

/-- How the `try` of `check_for_updates` ends once `backup_script` is set: `os.execv` replaced the
process, a `return False`, or an exception, which the `except Exception` clause catches. -/
inductive TryEnd where
  | restarted
  | returnedFalse
  | raised
  deriving DecidableEq, Repr

/-- How a call of `check_for_updates` ends: `os.execv` replaced the process with the new version,
the call returned, or an exception of the restore escaped it. -/
inductive UpdateEnd where
  | restarted
  | returned (value : Bool)
  | raised
  deriving DecidableEq, Repr

/-! ## The install -/

section Install

variable (host : UpdateHost) (updateData : JVal) (files : ScriptFiles)

/-- `# Create backup`: read the script, then write it to `backup_script`. The files after, and
whether it raised. -/
def makeBackup : ScriptFiles × Bool :=
  if host.readScript then
    match host.writeBackup with
    | .written => ({ files with backup := some files.script }, false)
    | .notOpened => (files, true)
    | .cut kept => ({ files with backup := some ⟨files.script.toList.take kept⟩ }, true)
  else (files, true)

/-- `# Run prerequisites if provided`: `none` when the body goes on past it, else how it ends
there. `update_data.get` raises on data that is no dict, and writing a value that is no string
raises `TypeError`. A nonzero exit is the `CalledProcessError` that returns `False`; the
temporary file is unlinked only after a zero exit. -/
def runPrerequisites : Option TryEnd :=
  match updateData.get "prerequisites_script" with
  | .error _ => some .raised
  | .ok prerequisites =>
    if !prerequisites.truthy then none
    else
      match prerequisites, host.writePrerequisites with
      | .str _, true =>
        match host.runPrerequisites with
        | .exitedZero => if host.unlinkPrerequisites then none else some .raised
        | .exitedNonzero => some .returnedFalse
        | .raised => some .raised
      | _, _ => some .raised

/-- `# Write new version`, `os.chmod` and `os.execv`. `open` truncates the script before
`update_data['script_content']` is read, so a missing key or a value that is no string leaves the
script empty. -/
def writeNewVersion : TryEnd × ScriptFiles :=
  match host.writeScript, updateData.index "script_content" with
  | .notOpened, _ => (.raised, files)
  | .written, .ok (.str content) =>
    let files := { files with script := content }
    if host.chmodScript && host.execv then (.restarted, files) else (.raised, files)
  | .cut kept, .ok (.str content) => (.raised, { files with script := ⟨content.toList.take kept⟩ })
  | _, _ => (.raised, { files with script := "" })

/-- The `try` of `check_for_updates` from `backup_script = f'{current_script}.backup'` on. -/
def installUpdate : TryEnd × ScriptFiles :=
  match makeBackup host files with
  | (files, true) => (.raised, files)
  | (files, false) =>
    match runPrerequisites host updateData with
    | some ending => (ending, files)
    | none => writeNewVersion host updateData files

/-- The `except Exception` clause once `backup_script` is set: when the backup exists, read it and
write it over the script, then `return False`. What the copy raises escapes the call. -/
def restoreBackup : UpdateEnd × ScriptFiles :=
  match files.backup with
  | none => (.returned false, files)
  | some saved =>
    if host.readBackup then
      match host.restoreScript with
      | .written => (.returned false, { files with script := saved })
      | .notOpened => (.raised, files)
      | .cut kept => (.raised, { files with script := ⟨saved.toList.take kept⟩ })
    else (.raised, files)

/-! ### What each stage can do -/

/-- The backup stage goes on exactly when the script is read and the backup written in full. -/
theorem makeBackup_made_iff :
    (makeBackup host files).2 = false ↔ host.readScript = true ∧ host.writeBackup = .written := by
  unfold makeBackup
  cases host.readScript <;> cases host.writeBackup <;> simp

/-- A backup stage that goes on has copied the script. -/
theorem makeBackup_made (made : (makeBackup host files).2 = false) :
    (makeBackup host files).1 = { files with backup := some files.script } := by
  obtain ⟨read, backedUp⟩ := (makeBackup_made_iff host files).mp made
  simp only [makeBackup, read, backedUp, if_true]

/-- The backup stage leaves the script alone. -/
theorem makeBackup_script : (makeBackup host files).1.script = files.script := by
  unfold makeBackup
  repeat' split
  all_goals rfl

/-- The prerequisites end the body only by returning `False` or raising. -/
theorem runPrerequisites_ne_restarted : runPrerequisites host updateData ≠ some .restarted := by
  unfold runPrerequisites
  repeat' split
  all_goals simp

/-- Writing the new version leaves the backup alone, never returns, and ends in a restart only
with the downloaded text in place of the script. -/
theorem writeNewVersion_cases :
    (writeNewVersion host updateData files).2.backup = files.backup ∧
      (writeNewVersion host updateData files).1 ≠ .returnedFalse ∧
      ((writeNewVersion host updateData files).1 = .restarted →
        ∃ content, updateData.index "script_content" = .ok (.str content) ∧
          (writeNewVersion host updateData files).2 = { files with script := content }) := by
  unfold writeNewVersion
  split
  next => exact ⟨rfl, by simp, by simp⟩
  next _ _ content _ read =>
    refine ⟨by split <;> rfl, by split <;> simp, fun restarted => ⟨content, read, ?_⟩⟩
    split <;> rfl
  next => exact ⟨rfl, by simp, by simp⟩
  next => exact ⟨rfl, by simp, by simp⟩

/-- **The install, once the backup is made.** The backup holds the old script whatever follows;
a `return False` comes from the prerequisites, before the script is written; and a restart has
put the downloaded text in place of the script. -/
theorem installUpdate_backedUp (made : (makeBackup host files).2 = false) :
    (installUpdate host updateData files).2.backup = some files.script ∧
      ((installUpdate host updateData files).1 = .returnedFalse →
        (installUpdate host updateData files).2.script = files.script) ∧
      ((installUpdate host updateData files).1 = .restarted →
        ∃ content, updateData.index "script_content" = .ok (.str content) ∧
          (installUpdate host updateData files).2 = ⟨content, some files.script⟩) := by
  unfold installUpdate
  rw [show makeBackup host files = ({ files with backup := some files.script }, false) from
    Prod.ext (makeBackup_made host files made) made]
  dsimp only
  cases prerequisites : runPrerequisites host updateData with
  | some ending =>
    have := runPrerequisites_ne_restarted host updateData
    rw [prerequisites] at this
    exact ⟨rfl, fun _ => rfl, fun restarted => absurd (restarted ▸ rfl) this⟩
  | none =>
    obtain ⟨backup, returns, restarts⟩ :=
      writeNewVersion_cases host updateData { files with backup := some files.script }
    exact ⟨backup, fun returned => absurd returned returns, restarts⟩

/-- A failed backup ends the body there. -/
theorem installUpdate_of_failed (failed : (makeBackup host files).2 = true) :
    installUpdate host updateData files = (.raised, (makeBackup host files).1) := by
  unfold installUpdate
  generalize makeBackup host files = made at failed ⊢
  obtain ⟨left, raised⟩ := made
  cases failed
  rfl

/-- A restore that reads the backup and writes it in full puts the backup in place of the
script. -/
theorem restoreBackup_written (reread : host.readBackup = true)
    (restored : host.restoreScript = .written) :
    restoreBackup host files =
      (.returned false, { files with script := files.backup.getD files.script }) := by
  obtain ⟨script, backup⟩ := files
  cases backup <;> simp [restoreBackup, reread, restored]

/-- The restore returns `False` or raises. -/
theorem restoreBackup_ends :
    (restoreBackup host files).1 = .returned false ∨ (restoreBackup host files).1 = .raised := by
  unfold restoreBackup
  repeat' split
  all_goals simp

end Install

/-! ## `check_for_updates` -/

/-- `check_for_updates(api_url, api_key)` on the script's files. -/
def checkForUpdates (server : UpdateServer) (host : UpdateHost) (apiUrl apiKey : String)
    (files : ScriptFiles) : UpdateEnd × ScriptFiles :=
  match fetchUpdate server apiUrl apiKey with
  | none => (.returned false, files)
  | some updateData =>
    match installUpdate host updateData files with
    | (.restarted, files) => (.restarted, files)
    | (.returnedFalse, files) => (.returned false, files)
    | (.raised, files) => restoreBackup host files

/-- An API at `https://dns.example.com` that offers version `1.1.0` and sends `print(2)` as its
script. -/
def offeringServer : UpdateServer where
  get url _ :=
    if url = "https://dns.example.com/api/sensors/script/version" then
      some ⟨200, some (.obj [("version", .str "1.1.0")])⟩
    else if url = "https://dns.example.com/api/sensors/script/download" then
      some ⟨200, some (.obj [("script_content", .str "print(2)")])⟩
    else none

/-- A host on which every operation succeeds. -/
def soundHost : UpdateHost :=
  ⟨true, .written, true, .exitedZero, true, .written, true, true, true, .written⟩

section Runs

variable (server : UpdateServer) (host : UpdateHost) (apiUrl apiKey : String) (files : ScriptFiles)

/-- A call that reaches the install ends as the install and, on an exception, the restore. -/
theorem checkForUpdates_of_fetched {updateData : JVal}
    (fetched : fetchUpdate server apiUrl apiKey = some updateData) :
    checkForUpdates server host apiUrl apiKey files =
      match (installUpdate host updateData files).1 with
      | .restarted => (.restarted, (installUpdate host updateData files).2)
      | .returnedFalse => (.returned false, (installUpdate host updateData files).2)
      | .raised => restoreBackup host (installUpdate host updateData files).2 := by
  unfold checkForUpdates
  rw [fetched]
  dsimp only
  generalize installUpdate host updateData files = run
  obtain ⟨ending, left⟩ := run
  cases ending <;> rfl

/-- **A restart installs a new version over a full backup.** Over every API and every host, a
call that restarts the sensor had a version reply of status 200 offering a truthy version other
than the running one, then a download of status 200 with a string `script_content`; the script
then holds exactly that text, and `<script>.backup` the script as it was. -/
theorem checkForUpdates_restarted
    (restarted : (checkForUpdates server host apiUrl apiKey files).1 = .restarted) :
    ∃ info remoteVersion updateData content,
      okJson (server.get (endpoint apiUrl "/api/sensors/script/version") []) = some info ∧
      info.get "version" = .ok remoteVersion ∧ remoteVersion.truthy = true ∧
      remoteVersion ≠ .str version ∧
      okJson (server.get (endpoint apiUrl "/api/sensors/script/download")
        [("Authorization", "Bearer " ++ apiKey)]) = some updateData ∧
      updateData.index "script_content" = .ok (.str content) ∧
      (checkForUpdates server host apiUrl apiKey files).2 = ⟨content, some files.script⟩ := by
  cases fetched : fetchUpdate server apiUrl apiKey with
  | none => simp [checkForUpdates, fetched] at restarted
  | some updateData =>
    obtain ⟨info, remoteVersion, reply, read, truthy, other, download⟩ :=
      fetchUpdate_eq_some fetched
    rw [checkForUpdates_of_fetched server host apiUrl apiKey files fetched] at restarted ⊢
    cases installed : (installUpdate host updateData files).1 <;>
      simp only [installed] at restarted ⊢
    case restarted =>
      have made : (makeBackup host files).2 = false := by
        cases failed : (makeBackup host files).2
        · rfl
        · rw [installUpdate_of_failed host updateData files failed] at installed
          cases installed
      obtain ⟨content, script, placed⟩ :=
        (installUpdate_backedUp host updateData files made).2.2 installed
      exact ⟨info, remoteVersion, updateData, content, reply, read, truthy, other, download, script,
        placed⟩
    case returnedFalse => cases restarted
    case raised =>
      rcases restoreBackup_ends host (installUpdate host updateData files).2 with ends | ends <;>
        rw [ends] at restarted <;> cases restarted

/-- The offer of `1.1.0` on a sound host: the sensor restarts into `print(2)` over a backup of
`print(1)`. -/
theorem checkForUpdates_restarted_offer :
    (checkForUpdates offeringServer soundHost "https://dns.example.com/" "key"
        ⟨"print(1)", none⟩).1 = .restarted ∧
      ∃ info remoteVersion updateData content,
        okJson (offeringServer.get
          (endpoint "https://dns.example.com/" "/api/sensors/script/version") []) = some info ∧
        info.get "version" = .ok remoteVersion ∧ remoteVersion.truthy = true ∧
        remoteVersion ≠ .str version ∧
        okJson (offeringServer.get
          (endpoint "https://dns.example.com/" "/api/sensors/script/download")
          [("Authorization", "Bearer " ++ "key")]) = some updateData ∧
        updateData.index "script_content" = .ok (.str content) ∧
        (checkForUpdates offeringServer soundHost "https://dns.example.com/" "key"
          ⟨"print(1)", none⟩).2 = ⟨content, some "print(1)"⟩ :=
  ⟨rfl, checkForUpdates_restarted offeringServer soundHost "https://dns.example.com/" "key"
    ⟨"print(1)", none⟩ rfl⟩

/-- **A failed install leaves the script as it was.** Over every API and every host that reads
the script and writes its backup in full, and whose restore reads the backup and writes it back
in full, a call restarts, or returns `False` with the script as it was: whichever step after the
backup raised, and whatever it left in the script. -/
theorem checkForUpdates_keeps_script (read : host.readScript = true)
    (backedUp : host.writeBackup = .written) (reread : host.readBackup = true)
    (restored : host.restoreScript = .written) :
    (checkForUpdates server host apiUrl apiKey files).1 = .restarted ∨
      ((checkForUpdates server host apiUrl apiKey files).1 = .returned false ∧
        (checkForUpdates server host apiUrl apiKey files).2.script = files.script) := by
  cases fetched : fetchUpdate server apiUrl apiKey with
  | none => simp [checkForUpdates, fetched]
  | some updateData =>
    obtain ⟨backup, returned, -⟩ := installUpdate_backedUp host updateData files
      ((makeBackup_made_iff host files).mpr ⟨read, backedUp⟩)
    rw [checkForUpdates_of_fetched server host apiUrl apiKey files fetched]
    cases installed : (installUpdate host updateData files).1 <;> simp only [installed]
    case restarted => exact .inl trivial
    case returnedFalse => exact .inr ⟨trivial, returned installed⟩
    case raised =>
      rw [restoreBackup_written host _ reread restored, backup]
      exact .inr ⟨rfl, rfl⟩

/-- The offer of `1.1.0` on a host where `os.execv` raises: the restore puts `print(1)` back. -/
theorem checkForUpdates_keeps_script_execv :
    (checkForUpdates offeringServer { soundHost with execv := false } "https://dns.example.com/"
        "key" ⟨"print(1)", none⟩).1 = .restarted ∨
      ((checkForUpdates offeringServer { soundHost with execv := false } "https://dns.example.com/"
          "key" ⟨"print(1)", none⟩).1 = .returned false ∧
        (checkForUpdates offeringServer { soundHost with execv := false } "https://dns.example.com/"
          "key" ⟨"print(1)", none⟩).2.script = "print(1)") :=
  checkForUpdates_keeps_script offeringServer { soundHost with execv := false }
    "https://dns.example.com/" "key" ⟨"print(1)", none⟩ rfl rfl rfl rfl

/-- **A failed backup is restored all the same.** Over every API that offers and sends a new
version, and every host that fails to read the script or to write its backup in full but whose
restore succeeds, the call returns `False` with the script replaced by whatever
`<script>.backup` holds after the failed copy: a backup an earlier update left, or the part of the
copy that reached the disk. Only when there is no such file is the script kept. -/
theorem checkForUpdates_backup_failed {updateData : JVal}
    (offered : fetchUpdate server apiUrl apiKey = some updateData)
    (failed : host.readScript = false ∨ host.writeBackup ≠ .written)
    (reread : host.readBackup = true) (restored : host.restoreScript = .written) :
    checkForUpdates server host apiUrl apiKey files =
      (.returned false,
        ⟨(makeBackup host files).1.backup.getD files.script, (makeBackup host files).1.backup⟩) := by
  have raised : (makeBackup host files).2 = true := by
    cases made : (makeBackup host files).2
    · obtain ⟨read, backedUp⟩ := (makeBackup_made_iff host files).mp made
      rcases failed with unread | unwritten
      · rw [read] at unread
        cases unread
      · exact absurd backedUp unwritten
    · rfl
  rw [checkForUpdates_of_fetched server host apiUrl apiKey files offered,
    installUpdate_of_failed host updateData files raised]
  dsimp only
  rw [restoreBackup_written host _ reread restored, makeBackup_script]

/-- The offer of `1.1.0` on a host whose disk fills up before the backup of `print(1)` gets its
first character: the restore copies the empty backup over the script, and the sensor is left
with an empty script. -/
theorem checkForUpdates_backup_failed_empties :
    checkForUpdates offeringServer { soundHost with writeBackup := .cut 0 }
        "https://dns.example.com/" "key" ⟨"print(1)", none⟩ =
      (.returned false, ⟨"", some ""⟩) := by
  rw [@checkForUpdates_backup_failed offeringServer { soundHost with writeBackup := .cut 0 }
    "https://dns.example.com/" "key" ⟨"print(1)", none⟩ (.obj [("script_content", .str "print(2)")])
    rfl (.inr (by decide)) rfl rfl]
  rfl

end Runs


/-! ## `main` -/

/-- How the process of `sensor-api.py` ends: `os.execv` replaced it with the new version, or it
exited with a status. -/
inductive ProcessEnd where
  | restarted
  | exited (status : Nat)
  deriving DecidableEq, Repr

/-- `sensor = GeoSensorAPI(args.location, args.api_url, args.api_key)`, then `run_sync` inside
`try`: the exit status and the batches posted. `api` is the API as the session that sends the
key meets it. -/
def startSensor (api : SensorApi) (resolve : String → String → Option (List String))
    (location apiUrl : String) : ProcessEnd × List Submission :=
  match GeoSensorAPI.registerSensor api (pyRstripChar '/' apiUrl) location with
  | some sensorId =>
    let run := GeoSensorAPI.runSync ⟨location, pyRstripChar '/' apiUrl, sensorId⟩ api resolve
    (.exited (if run.result.isOk then 0 else 1), run.out)
  | none => (.exited 1, [])

/-- `main()` of `sensor-api.py` run once, without `--daemon`: how the process ends, the script
files as it leaves them, and the batches it posted. `check_for_updates` runs first, inside a
`try` whose `except Exception` only logs a warning. -/
def sensorApiMain (server : UpdateServer) (host : UpdateHost) (files : ScriptFiles)
    (api : SensorApi) (resolve : String → String → Option (List String))
    (location apiUrl apiKey : String) : ProcessEnd × ScriptFiles × List Submission :=
  match checkForUpdates server host apiUrl apiKey files with
  | (.restarted, files) => (.restarted, files, [])
  | (_, files) =>
    let started := startSensor api resolve location apiUrl
    (started.1, files, started.2)

end CloudflareSync
