import Mathlib.Data.Nat.Digits
import CloudflareSync.CheckMydns

/-!
# The database settings: host entries and `load_db_config`

`load_db_config` of `sync_cloudflare_records.py` turns the dict of `mydns.conf` into the
credentials, the database hosts and the host policy that `DatabaseConnectionManager` connects
with, and `parse_host_entry` reads one host entry: `host:port`, `[v6]:port`, `[v6]` or a bare
host.

A host written in the syntax the docstring of `parse_host_entry` gives, with a port or without,
reads back as itself (`parseHostEntry_render`); the port is the decimal text that Python's
`str(int)` writes, which `int()` reads back when it has at most 4300 digits and refuses with
`ValueError` otherwise, so that `parse_host_entry` falls back to 3306 (`pyIntOfString_toString`).
Every configuration
`load_db_config` returns has a user, a database, at least one host and a policy from
`VALID_POLICIES`, and its hosts are the entries `db-host` to `db-host4`, or else `mysql-host`,
or else `localhost:3306`: the fallback to `db-host` in the legacy branch is never taken
(`loadDbConfig_ok`). When `db-host` is set, `check_mydns.py` pings the entries the sync connects
to, in the same order, but reads them with their quotes, so the two agree on the entries written
without quotes; without `db-host`, the check pings `localhost` first, whatever the other keys say
(`monitoredHosts`).
-/

set_option autoImplicit false

namespace CloudflareSync

/-! ## Decimal ports -/

/-- One step of the value `int()` gives a run of digits. -/
def decimalStep (n : Nat) (c : Char) : Nat := 10 * n + (c.toNat - '0'.toNat)

theorem digitChar_digit : ∀ d, d < 10 →
    (Nat.digitChar d).isDigit = true ∧ (Nat.digitChar d).toNat - '0'.toNat = d := by
  decide

/-- One step of `Nat.toDigitsCore`: the last digit goes in front of what is written so far. -/
theorem toDigitsCore_succ (fuel n : Nat) (acc : List Char) :
    Nat.toDigitsCore 10 (fuel + 1) n acc =
      if n / 10 = 0 then Nat.digitChar (n % 10) :: acc
      else Nat.toDigitsCore 10 fuel (n / 10) (Nat.digitChar (n % 10) :: acc) := rfl

/-- The digits written for `n` in front of `acc` read as `n` followed by `acc`. -/
theorem toDigitsCore_value : ∀ (fuel n : Nat) (acc : List Char), n < fuel →
    (Nat.toDigitsCore 10 fuel n acc).foldl decimalStep 0 = acc.foldl decimalStep n
  | 0, _, _, enough => absurd enough (Nat.not_lt_zero _)
  | fuel + 1, n, acc, enough => by
    have last := (digitChar_digit (n % 10) (Nat.mod_lt n (by decide))).2
    rw [toDigitsCore_succ]
    split
    next small =>
      rw [List.foldl_cons, decimalStep, last]
      congr 1
      omega
    next large =>
      rw [toDigitsCore_value fuel (n / 10) _ (by omega), List.foldl_cons, decimalStep, last]
      congr 1
      omega

theorem toDigitsCore_isDigit : ∀ (fuel n : Nat) (acc : List Char), (∀ c ∈ acc, c.isDigit) →
    ∀ c ∈ Nat.toDigitsCore 10 fuel n acc, c.isDigit
  | 0, _, _, digits => digits
  | fuel + 1, n, acc, digits => by
    have last := (digitChar_digit (n % 10) (Nat.mod_lt n (by decide))).1
    rw [toDigitsCore_succ]
    have front : ∀ c ∈ Nat.digitChar (n % 10) :: acc, c.isDigit := by
      simpa [last] using digits
    split
    next => exact front
    next => exact toDigitsCore_isDigit fuel (n / 10) _ front

theorem toDigitsCore_ne_nil (fuel n : Nat) (acc : List Char) (enough : 0 < fuel) :
    Nat.toDigitsCore 10 fuel n acc ≠ [] := by
  induction fuel generalizing n acc with
  | zero => omega
  | succ fuel ih =>
    rw [toDigitsCore_succ]
    split
    next => exact List.cons_ne_nil _ _
    next large =>
      cases fuel with
      | zero => exact List.cons_ne_nil _ _
      | succ => exact ih _ _ (Nat.succ_pos _)

/-- A nonempty run of digits is a literal `int()` reads, with the value of its digits, unless it
has more than `maxStrDigits` of them. -/
theorem digitsValue_of_digits {cs : List Char} (nonempty : cs ≠ [])
    (digits : ∀ c ∈ cs, c.isDigit) : JVal.digitsValue cs =
      if cs.length ≤ JVal.maxStrDigits then some (cs.foldl decimalStep 0) else none := by
  have noUnderscore : '_' ∉ cs := fun member => absurd (digits _ member) (by decide)
  unfold JVal.digitsValue
  rw [List.filter_eq_self.mpr digits]
  by_cases few : cs.length ≤ JVal.maxStrDigits
  · rw [if_neg, if_pos few]
    · rfl
    simp only [Bool.or_eq_true, List.isEmpty_iff, nonempty, decide_eq_true_eq, false_or,
      not_or, List.any_eq_true, Bool.and_eq_true, bne_iff_ne, ne_eq, Bool.not_eq_true',
      not_exists, not_and, not_lt]
    exact ⟨⟨⟨⟨fun head => noUnderscore (List.mem_of_mem_head? head),
      fun last => noUnderscore (List.mem_of_mem_getLast? last)⟩,
      fun p member under _ => noUnderscore (under ▸ (List.of_mem_zip member).1)⟩,
      fun c member _ notDigit => by simp [digits c member] at notDigit⟩, few⟩
  · rw [if_pos (by simp [Nat.lt_of_not_le few]), if_neg few]

theorem pyIsSpace_of_isDigit {c : Char} (digit : c.isDigit = true) : pyIsSpace c = false := by
  have range : 48 ≤ c.toNat ∧ c.toNat ≤ 57 := by
    simpa [Char.isDigit, Char.le_def, Char.toNat] using digit
  unfold pyIsSpace
  simp only [Bool.or_eq_false_iff, Bool.and_eq_false_iff, decide_eq_false_iff_not, not_le,
    beq_eq_false_iff_ne, ne_eq]
  omega

/-- **Decimal ports.** `int(str(n))` is `n` for every natural number of at most `maxStrDigits`
digits, and raises `ValueError` for a longer one. -/
theorem pyIntOfString_toString (n : Nat) : JVal.pyIntOfString (toString n) =
    if (toString n).length ≤ JVal.maxStrDigits then some (n : Int) else none := by
  have digits := toDigitsCore_isDigit (n + 1) n [] nofun
  have nonempty := toDigitsCore_ne_nil (n + 1) n [] (Nat.succ_pos n)
  have written : (toString n).toList = Nat.toDigitsCore 10 (n + 1) n [] := rfl
  have stripped : pyStrip (toString n) = toString n := by
    refine String.ext (stripWith_eq_self_iff.mpr ⟨fun c head => ?_, fun c last => ?_⟩)
    · exact pyIsSpace_of_isDigit (digits c (written ▸ List.mem_of_mem_head? head))
    · exact pyIsSpace_of_isDigit (digits c (written ▸ List.mem_of_mem_getLast? last))
  have value := digitsValue_of_digits nonempty digits
  rw [toDigitsCore_value (n + 1) n [] (Nat.lt_succ_self n), List.foldl_nil, ← written] at value
  unfold JVal.pyIntOfString
  rw [stripped]
  obtain ⟨c, rest, split⟩ := List.exists_cons_of_ne_nil nonempty
  have first := digits c (split ▸ List.mem_cons_self c rest)
  rw [← written] at split
  rw [split] at value ⊢
  split
  next same => cases same; exact absurd first (by decide)
  next same => cases same; exact absurd first (by decide)
  next => rw [value, String.length, String.toList] at *; rw [split]; split <;> rfl

/-! ## Host entries -/

/-- A host entry in the syntax the docstring of `parse_host_entry` gives: `host:port`, an IPv6
literal in brackets with or without a port, or a host alone. -/
def renderHost (host : String) (port : Option Nat) : String :=
  let name := if ':' ∈ host.toList then "[" ++ host ++ "]" else host
  match port with
  | some p => name ++ ":" ++ toString p
  | none => name

/-- The decimal text of a port: a nonempty run of digits, which `parse_host_entry` reads as the
port, or as 3306 where `int()` raises `ValueError` on more than `maxStrDigits` digits. -/
theorem portText (p : Nat) :
    (toString p).toList ≠ [] ∧ (∀ c ∈ (toString p).toList, c.isDigit) ∧
      (JVal.pyIntOfString ⟨(toString p).toList⟩).getD 3306 =
        if (toString p).length ≤ JVal.maxStrDigits then (p : Int) else 3306 := by
  refine ⟨toDigitsCore_ne_nil (p + 1) p [] (Nat.succ_pos p), toDigitsCore_isDigit (p + 1) p [] nofun,
    ?_⟩
  rw [show (⟨(toString p).toList⟩ : String) = toString p from rfl, pyIntOfString_toString]
  split <;> rfl

theorem not_mem_of_digits {cs : List Char} (digits : ∀ c ∈ cs, c.isDigit) {c : Char}
    (notDigit : c.isDigit = false) : c ∉ cs :=
  fun member => absurd (digits c member) (by simp [notDigit])

/-- A string that begins and ends with no whitespace is stripped. -/
theorem pyStrip_of_ends {s : String} (front : ∀ c ∈ s.toList.head?, pyIsSpace c = false)
    (back : ∀ c ∈ s.toList.getLast?, pyIsSpace c = false) : pyStrip s = s :=
  String.ext (stripWith_eq_self_iff.mpr ⟨front, back⟩)

theorem getLast?_digits {x : Char} {ds : List Char} (nonempty : ds ≠ [])
    (digits : ∀ c ∈ ds, c.isDigit) : ∀ c ∈ (x :: ds).getLast?, pyIsSpace c = false := by
  obtain ⟨d, rest, rfl⟩ := List.exists_cons_of_ne_nil nonempty
  intro c last
  rw [List.getLast?_cons_cons] at last
  exact pyIsSpace_of_isDigit (digits c (List.mem_of_mem_getLast? last))

/-- A host with no colon, written with a port. -/
theorem parseHostEntry_plain_port {host : String} (named : host ≠ "")
    (stripped : pyStrip host = host) (noBracket : '[' ∉ host.toList) (noColon : ':' ∉ host.toList)
    (p : Nat) : parseHostEntry (host ++ ":" ++ toString p) =
      (host, if (toString p).length ≤ JVal.maxStrDigits then (p : Int) else 3306) := by
  obtain ⟨nonempty, digits, value⟩ := portText p
  have hostChars : host.toList ≠ [] := fun none => named (String.ext none)
  have chars : (host ++ ":" ++ toString p).toList = host.toList ++ ':' :: (toString p).toList := by
    simp [String.toList, String.data_append]
  have entry : pyStrip (host ++ ":" ++ toString p) = host ++ ":" ++ toString p := by
    refine pyStrip_of_ends ?_ ?_ <;> rw [chars]
    · rw [List.head?_append_of_ne_nil _ hostChars]
      exact head_not_of_stripped (congrArg String.toList stripped)
    · rw [List.getLast?_append_cons]
      exact getLast?_digits nonempty digits
  have notBracket : (host.toList ++ ':' :: (toString p).toList).head? ≠ some '[' := by
    rw [List.head?_append_of_ne_nil _ hostChars]
    exact fun head => noBracket (List.mem_of_mem_head? head)
  have countOne : (host.toList ++ ':' :: (toString p).toList).count ':' = 1 := by
    rw [List.count_append, List.count_cons_self, List.count_eq_zero.mpr noColon,
      List.count_eq_zero.mpr (not_mem_of_digits digits (by decide))]
  have hostChar : ∀ c ∈ host.toList, (c != ':') = true :=
    fun c member => bne_iff_ne.mpr fun same => noColon (same ▸ member)
  have hostFull : (⟨host.toList⟩ : String).isEmpty = false :=
    Bool.eq_false_iff.mpr fun empty => named ((String.isEmpty_iff _).mp empty)
  have portFull : (⟨(toString p).toList⟩ : String).isEmpty = false :=
    Bool.eq_false_iff.mpr fun empty => nonempty (congrArg String.data ((String.isEmpty_iff _).mp empty))
  unfold parseHostEntry
  simp only [entry, chars, notBracket, decide_False, Bool.false_and, Bool.false_eq_true, if_false,
    countOne, if_true, List.takeWhile_append_of_pos hostChar, List.dropWhile_append_of_pos hostChar,
    List.takeWhile_cons_of_neg (p := fun c => c != ':') (a := ':') (by simp), List.append_nil,
    List.dropWhile_cons_of_neg (p := fun c => c != ':') (a := ':') (by simp), List.drop_one, List.tail_cons,
    hostFull, portFull, value]
  rfl

/-- A host with no colon, written alone. -/
theorem parseHostEntry_plain {host : String} (stripped : pyStrip host = host)
    (noBracket : '[' ∉ host.toList) (noColon : ':' ∉ host.toList) :
    parseHostEntry host = (host, 3306) := by
  have notBracket : host.toList.head? ≠ some '[' :=
    fun head => noBracket (List.mem_of_mem_head? head)
  unfold parseHostEntry
  simp only [stripped, notBracket, decide_False, Bool.false_and, Bool.false_eq_true, if_false,
    List.count_eq_zero.mpr noColon, Nat.zero_ne_one]

/-- A host in brackets, followed by `rest`: the port is read after a colon. -/
theorem parseHostEntry_bracket {entry : String} {host rest : List Char}
    (chars : entry.toList = '[' :: (host ++ ']' :: rest)) (stripped : pyStrip entry = entry)
    (noClose : ']' ∉ host) :
    parseHostEntry entry = (⟨host⟩,
      if rest.head? = some ':' then (JVal.pyIntOfString ⟨rest.drop 1⟩).getD 3306 else 3306) := by
  have index : ('[' :: (host ++ ']' :: rest)).indexOf ']' = host.length + 1 := by
    rw [List.indexOf_cons_ne _ (by decide), List.indexOf_append_of_not_mem noClose,
      List.indexOf_cons_self]
  unfold parseHostEntry
  simp only [stripped, chars, index, List.head?_cons, decide_True, List.elem_eq_mem,
    List.mem_cons, List.mem_append, true_or, or_true, Bool.true_and, if_true, List.take_succ_cons,
    List.take_left', List.drop_one, List.tail_cons]
  have colon : ('[' :: (host ++ ']' :: rest)).get? (host.length + 1 + 1) = rest.head? := by
    rw [List.get?_eq_getElem?, List.getElem?_cons_succ, List.getElem?_append_right (by omega),
      Nat.add_sub_cancel_left, List.getElem?_cons_succ, List.head?_eq_getElem?]
  have port : List.drop (host.length + 1 + 2) ('[' :: (host ++ ']' :: rest)) = rest.tail := by
    rw [show host.length + 1 + 2 = (host.length + 2) + 1 by omega, List.drop_succ_cons,
      List.drop_append, List.drop_succ_cons, List.drop_one]
  rw [colon, port]

/-- **Host entries read back.** A host that is not empty, not padded and holds no bracket, written
as `host:port`, `[host]:port`, `[host]` or `host` (in brackets when it holds a colon, as an IPv6
literal does), is read by `parse_host_entry` as itself, with its port, or 3306 when none is
written or `int()` refuses a port of more than `maxStrDigits` digits. -/
theorem parseHostEntry_render (host : String) (port : Option Nat) (named : host ≠ "")
    (stripped : pyStrip host = host) (noBracket : '[' ∉ host.toList) (noClose : ']' ∉ host.toList) :
    parseHostEntry (renderHost host port) = (host, port.elim 3306 fun p =>
      if (toString p).length ≤ JVal.maxStrDigits then (p : Int) else 3306) := by
  unfold renderHost
  by_cases colon : ':' ∈ host.toList
  · rw [if_pos colon]
    cases port with
    | none =>
      have chars : ("[" ++ host ++ "]").toList = '[' :: (host.toList ++ ']' :: []) := by
        simp [String.toList, String.data_append]
      have entry : pyStrip ("[" ++ host ++ "]") = "[" ++ host ++ "]" :=
        pyStrip_of_ends (by rw [chars, List.head?_cons]; decide)
          (by rw [chars, ← List.cons_append, List.getLast?_append_cons]; decide)
      rw [parseHostEntry_bracket chars entry noClose]
      rfl
    | some p =>
      obtain ⟨nonempty, digits, value⟩ := portText p
      have chars : ("[" ++ host ++ "]" ++ ":" ++ toString p).toList =
          '[' :: (host.toList ++ ']' :: ':' :: (toString p).toList) := by
        simp [String.toList, String.data_append]
      have entry : pyStrip ("[" ++ host ++ "]" ++ ":" ++ toString p) =
          "[" ++ host ++ "]" ++ ":" ++ toString p :=
        pyStrip_of_ends (by rw [chars, List.head?_cons]; decide)
          (by rw [chars, ← List.cons_append, List.getLast?_append_cons, List.getLast?_cons_cons]
              exact getLast?_digits nonempty digits)
      rw [parseHostEntry_bracket chars entry noClose]
      simp only [List.head?_cons, if_true, List.drop_one, List.tail_cons, value]
      rfl
  · rw [if_neg colon]
    cases port with
    | none => exact parseHostEntry_plain stripped noBracket colon
    | some p => exact parseHostEntry_plain_port named stripped noBracket colon p

/-- The IPv6 entry `[fd00::1]:3307`. -/
theorem parseHostEntry_render_v6 :
    renderHost "fd00::1" (some 3307) = "[fd00::1]:3307" ∧
      parseHostEntry (renderHost "fd00::1" (some 3307)) = ("fd00::1", 3307) :=
  ⟨rfl, (parseHostEntry_render "fd00::1" (some 3307) (by decide) (by decide) (by decide)
    (by decide)).trans rfl⟩

/-! ## `load_db_config` -/

/-- The hosts a configuration names: the entries `db-host` to `db-host4` that are set, or else
the entry `mysql-host`, or else `localhost:3306`. -/
def configuredHosts (raw : RawConfig) : List Host :=
  match ["db-host", "db-host2", "db-host3", "db-host4"].filterMap
      (fun key => (raw.lookup key).filter (!·.isEmpty)) with
  | [] =>
    match (raw.lookup "mysql-host").filter (!·.isEmpty) with
    | some entry => [parseHostEntry entry]
    | none => [("localhost", 3306)]
  | entries => entries.map parseHostEntry

theorem configuredHosts_ne_nil (raw : RawConfig) : configuredHosts raw ≠ [] := by
  unfold configuredHosts
  split
  next => split <;> exact List.cons_ne_nil _ _
  next entries nonempty => exact fun empty => nonempty (List.map_eq_nil_iff.mp empty)

theorem truthy_filter (o : Option String) :
    (if strTruthy o then o else none) = o.filter (!·.isEmpty) := by
  cases o <;> simp [strTruthy, Option.filter]

/-- The hosts `load_db_config` builds are the configured hosts: when no entry `db-host` to
`db-host4` is set, `db-host` is not set either, so `raw.get("mysql-host") or raw.get("db-host")`
is `mysql-host` or nothing. -/
theorem loadHosts_eq (raw : RawConfig) :
    (let listed := (["db-host", "db-host2", "db-host3", "db-host4"].filterMap fun key =>
        if strTruthy (raw.lookup key) then raw.lookup key else none).map parseHostEntry
      let legacy := orStr (raw.lookup "mysql-host") (raw.lookup "db-host")
      if !listed.isEmpty then listed
      else if strTruthy legacy then [parseHostEntry (legacy.getD "")]
      else [("localhost", 3306)]) = configuredHosts raw := by
  simp only [truthy_filter]
  unfold configuredHosts
  generalize listed : ["db-host", "db-host2", "db-host3", "db-host4"].filterMap
    (fun key => (raw.lookup key).filter (!·.isEmpty)) = entries
  cases entries with
  | cons entry rest => rfl
  | nil =>
    have dbHost : (raw.lookup "db-host").filter (!·.isEmpty) = none := by
      rw [List.filterMap_cons] at listed
      split at listed
      next unset => exact unset
      next => cases listed
    have noEntry : "".isEmpty = true := rfl
    have legacy : ((raw.lookup "db-host").getD "").isEmpty = true := by
      cases dbHostSet : raw.lookup "db-host" with
      | none => rfl
      | some entry => simpa [Option.filter, dbHostSet] using dbHost
    simp only [List.map_nil, List.isEmpty_nil, Bool.not_true, Bool.false_eq_true, if_false]
    cases mysqlHost : raw.lookup "mysql-host" with
    | none => simp [orStr, strTruthy, legacy, Option.filter]
    | some entry =>
      by_cases blank : entry.isEmpty
      · cases dbHostSet : raw.lookup "db-host" <;> simp_all [orStr, strTruthy, Option.filter]
      · simp [orStr, strTruthy, Option.filter, blank]

/-- What a configuration that `load_db_config` returns from a dict holds. -/
theorem loadDbConfig_some_ok {path : String} {raw : RawConfig} {config : DatabaseConfig}
    (loaded : loadDbConfig path (some raw) = .ok config) :
    config.user ≠ "" ∧ config.database ≠ "" ∧ config.policy ∈ validPolicies ∧
      config.hosts ≠ [] ∧ config.hosts = configuredHosts raw := by
  simp only [loadDbConfig, parseSimpleConfig, bind, Except.bind, pure, Except.pure] at loaded
  split at loaded
  next user password database _ _ _ =>
    split at loaded
    next => cases loaded
    next named =>
      cases loaded
      dsimp only
      simp only [Bool.or_eq_true, not_or, Bool.not_eq_true] at named
      have full : ∀ s : String, s.isEmpty = false → s ≠ "" := fun s full empty => by
        rw [(String.isEmpty_iff s).mpr empty] at full
        cases full
      refine ⟨full user named.1, full database named.2, ?_, ?_, ?_⟩
      · split
        next valid => exact List.elem_iff.mp valid
        next => decide
      · rw [loadHosts_eq]
        exact configuredHosts_ne_nil raw
      · exact loadHosts_eq raw
  next => cases loaded

/-- **What `load_db_config` returns.** Every configuration it returns comes from a file that
exists, has a user and a database, a policy from `VALID_POLICIES` and at least one host, and
its hosts are the entries `db-host` to `db-host4` that are set, or else `mysql-host`, or else
`localhost:3306`. -/
theorem loadDbConfig_ok {path : String} {file : Option RawConfig} {config : DatabaseConfig}
    (loaded : loadDbConfig path file = .ok config) :
    ∃ raw, file = some raw ∧ config.user ≠ "" ∧ config.database ≠ "" ∧
      config.policy ∈ validPolicies ∧ config.hosts ≠ [] ∧ config.hosts = configuredHosts raw := by
  cases file with
  | none => cases loaded
  | some raw => exact ⟨raw, rfl, loadDbConfig_some_ok loaded⟩

/-- A `mydns.conf` that names its database host with the legacy key `mysql-host`. -/
theorem loadDbConfig_ok_mysqlHost :
    let raw : RawConfig := [("db-user", "mydns"), ("db-password", "secret"), ("database", "mydns"),
      ("mysql-host", "db9:3307")]
    loadDbConfig "/etc/mydns/mydns.conf" (some raw) =
        .ok ⟨"mydns", "secret", "mydns", [("db9", 3307)], "sequential"⟩ ∧
      configuredHosts raw = [("db9", 3307)] := by
  intro raw
  have loaded : loadDbConfig "/etc/mydns/mydns.conf" (some raw) =
      .ok ⟨"mydns", "secret", "mydns", [("db9", 3307)], "sequential"⟩ := rfl
  obtain ⟨_, same, -, -, -, -, hosts⟩ := loadDbConfig_ok loaded
  cases same
  exact ⟨loaded, hosts.symm⟩

/-! ## The hosts the check pings -/

theorem filterMap_filter_lookup (raw : RawConfig) (keys : List String) :
    keys.filterMap (fun key => (raw.lookup key).filter (!·.isEmpty)) =
      (keys.map fun key => (raw.lookup key).getD "").filter (!·.isEmpty) := by
  induction keys with
  | nil => rfl
  | cons key rest ih =>
    rw [List.filterMap_cons, List.map_cons, List.filter_cons, ih]
    cases raw.lookup key with
    | none => rfl
    | some value => by_cases blank : value.isEmpty <;> simp [Option.filter, blank]

/-- Unquoting a value that is set, then dropping the empty ones, keeps what dropping the empty
ones first, then unquoting and dropping again keeps: no quote strip makes an empty value full. -/
theorem filterMap_unquote (cfg : RawConfig) (keys : List String) :
    keys.filterMap (fun key => ((cfg.lookup key).map unquoteValue).filter (!·.isEmpty)) =
      ((keys.filterMap fun key => (cfg.lookup key).filter (!·.isEmpty)).map unquoteValue).filter
        (!·.isEmpty) := by
  induction keys with
  | nil => rfl
  | cons key rest ih =>
    rw [List.filterMap_cons, List.filterMap_cons, ih]
    cases cfg.lookup key with
    | none => rfl
    | some value =>
      by_cases blank : value.isEmpty
      · have empty : value = "" := (String.isEmpty_iff value).mp blank
        subst empty
        rfl
      · by_cases gone : (unquoteValue value).isEmpty <;> simp [Option.filter, blank, gone]

/-- **The check and the sync choose their hosts apart.** Read from the same `mydns.conf`: when
`db-host` is set, `check_mydns.py` pings the entries `db-host` to `db-host4` as its own
`parse_config` reads them, quotes included, and `load_db_config` connects to the same entries in
the same order with their quotes stripped, less those left empty; the two agree on every entry
written without quotes. When `db-host` is not set, the check pings `localhost` first, whatever
`db-host2` to `db-host4` and `mysql-host` name. -/
theorem monitoredHosts {path : String} {text : List String} {config : DatabaseConfig}
    (loaded : loadDbConfig path (some (parseSimpleConfigLines text)) = .ok config) :
    let pinged := CheckMydns.dbHosts (CheckMydns.parseConfig text)
    (strTruthy ((parseSimpleConfigLines text).lookup "db-host") →
      config.hosts = ((pinged.map unquoteValue).filter (!·.isEmpty)).map parseHostEntry) ∧
    ((parseSimpleConfigLines text).lookup "db-host" = none → pinged.head? = some "localhost") := by
  intro pinged
  have lookup (key : String) : (parseSimpleConfigLines text).lookup key =
      ((CheckMydns.parseConfig text).lookup key).map unquoteValue := by
    rw [parseSimpleConfigLines_eq_unquote, lookup_mapValues]
  have named : "localhost".isEmpty = false := rfl
  refine ⟨fun set => ?_, fun unset => ?_⟩
  · obtain ⟨value, present, full⟩ : ∃ value, (CheckMydns.parseConfig text).lookup "db-host" =
        some value ∧ (unquoteValue value).isEmpty = false := by
      rw [lookup] at set
      cases present : (CheckMydns.parseConfig text).lookup "db-host" with
      | none => rw [present] at set; exact absurd set (by decide)
      | some value => exact ⟨value, rfl, by simpa [strTruthy, present] using set⟩
    have written : value.isEmpty = false :=
      Bool.eq_false_iff.mpr fun blank => by
        rw [(String.isEmpty_iff value).mp blank] at full; exact absurd full (by decide)
    have listed : (["db-host", "db-host2", "db-host3", "db-host4"].filterMap fun key =>
        ((CheckMydns.parseConfig text).lookup key).filter (!·.isEmpty)) = pinged := by
      rw [filterMap_filter_lookup]
      simp [pinged, CheckMydns.dbHosts, present]
    rw [(loadDbConfig_some_ok loaded).2.2.2.2, configuredHosts]
    simp only [lookup]
    rw [filterMap_unquote, listed]
    split
    next none =>
      have kept : value ∈ pinged := by simp [pinged, CheckMydns.dbHosts, present, written]
      exact absurd (none ▸ List.mem_filter.mpr ⟨List.mem_map_of_mem _ kept, by simp [full]⟩) nofun
    next => rfl
  · rw [lookup, Option.map_eq_none'] at unset
    simp [pinged, CheckMydns.dbHosts, unset, named]

/-- With `db-host` set, the check pings `db1:3307` and `"db2"` where the sync connects to `db1`
on 3307 and `db2` on 3306; with only `mysql-host = db9` set, the sync connects to `db9` and the
check pings `localhost`. -/
theorem monitoredHosts_mydnsConf :
    let listed := ["db-user = mydns\n", "db-password = pw\n", "database = mydns\n",
      "db-host = db1:3307\n", "db-host2 = \"db2\"\n"]
    let legacy := ["db-user = mydns\n", "db-password = pw\n", "database = mydns\n",
      "mysql-host = db9\n"]
    loadDbConfig "/etc/mydns/mydns.conf" (some (parseSimpleConfigLines listed)) =
        .ok ⟨"mydns", "pw", "mydns", [("db1", 3307), ("db2", 3306)], "sequential"⟩ ∧
      CheckMydns.dbHosts (CheckMydns.parseConfig listed) = ["db1:3307", "\"db2\""] ∧
      strTruthy ((parseSimpleConfigLines listed).lookup "db-host") ∧
      [("db1", 3307), ("db2", 3306)] = (((CheckMydns.dbHosts (CheckMydns.parseConfig listed)).map
        unquoteValue).filter (!·.isEmpty)).map parseHostEntry ∧
      loadDbConfig "/etc/mydns/mydns.conf" (some (parseSimpleConfigLines legacy)) =
        .ok ⟨"mydns", "pw", "mydns", [("db9", 3306)], "sequential"⟩ ∧
      (parseSimpleConfigLines legacy).lookup "db-host" = none ∧
      (CheckMydns.dbHosts (CheckMydns.parseConfig legacy)).head? = some "localhost" := by
  intro listed legacy
  have loadedListed : loadDbConfig "/etc/mydns/mydns.conf" (some (parseSimpleConfigLines listed)) =
      .ok ⟨"mydns", "pw", "mydns", [("db1", 3307), ("db2", 3306)], "sequential"⟩ := rfl
  have loadedLegacy : loadDbConfig "/etc/mydns/mydns.conf" (some (parseSimpleConfigLines legacy)) =
      .ok ⟨"mydns", "pw", "mydns", [("db9", 3306)], "sequential"⟩ := rfl
  have unset : (parseSimpleConfigLines legacy).lookup "db-host" = none := by decide
  exact ⟨loadedListed, by decide, by decide, (monitoredHosts loadedListed).1 (by decide), loadedLegacy,
    unset, (monitoredHosts loadedLegacy).2 unset⟩

end CloudflareSync
