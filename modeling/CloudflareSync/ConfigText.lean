import Mathlib.Data.List.Nodup
import Mathlib.Data.String.Basic
import CloudflareSync.Config

/-!
# The key=value files, from their text

Four functions of the repository read a MyDNS-style configuration file line by line:
`parse_simple_config` of `sync_cloudflare_records.py` (for `mydns.conf` and `cloudflare.ini`),
`parse_config_file` of `sync_pools_direct.py`, `parse_config` of `check_mydns.py` and
`MySQLConfig._parse_config` of `geosensors/sensor.py`. Each strips the line, skips a blank line
and a line that starts with `#`, cuts the line at its first `=`, strips the key and the value,
and stores the pair in a dict, where a later line for a key replaces the earlier value. They
differ in two steps, the two parameters of `configLine`: whether an inline `# comment` is cut
off before the `=` is looked for, and whether the value loses the double and then the single
quotes around it.

`readConfig` is the loop over the lines, for any of the four. What it returns is a dict: its
keys are distinct, and the value of a key is the value of the last line that sets it.
A file is the list of lines that `for line in handle` yields; `fileLines` cuts a file's text so.
A dict written to a file as `key=value` lines reads back as itself when no key holds `=` or `#`,
nothing is padded with whitespace, nothing holds a line break, and no value holds `#` or begins
or ends with a quote (`readConfig_render`). `check_mydns.py` reads the values of
`parse_simple_config` with their quotes kept, and the sensor reads the dict of
`parse_simple_config` from every file without an inline comment (`configReaders_agree`).
-/

set_option autoImplicit false

namespace CloudflareSync

/-! ## Stripping -/

/-- `cs` without the characters that satisfy `p` at either end: `str.strip` on characters. -/
def stripWith (p : Char → Bool) (cs : List Char) : List Char :=
  ((cs.dropWhile p).reverse.dropWhile p).reverse

theorem pyStrip_eq (s : String) : pyStrip s = ⟨stripWith pyIsSpace s.toList⟩ := rfl

/-- `s.strip(c)` for a one-character argument. -/
def pyStripChar (c : Char) (s : String) : String := ⟨stripWith (· == c) s.toList⟩

theorem dropWhile_eq_self_iff {p : Char → Bool} {cs : List Char} :
    cs.dropWhile p = cs ↔ ∀ c ∈ cs.head?, p c = false := by
  cases cs with
  | nil => simp
  | cons c rest =>
    by_cases drops : p c = true
    · have shorter := (List.dropWhile_suffix p (l := rest)).length_le
      simp only [List.dropWhile_cons_of_pos drops, List.head?_cons, Option.mem_def,
        Option.some.injEq, forall_eq', drops, Bool.true_eq_false, iff_false]
      intro same
      have := congrArg List.length same
      simp only [List.length_cons] at this
      omega
    · simp [List.dropWhile_cons_of_neg drops, Bool.eq_false_iff.mpr drops]

/-- A string is stripped exactly when it neither begins nor ends with a character to strip. -/
theorem stripWith_eq_self_iff {p : Char → Bool} {cs : List Char} :
    stripWith p cs = cs ↔ (∀ c ∈ cs.head?, p c = false) ∧ ∀ c ∈ cs.getLast?, p c = false := by
  unfold stripWith
  constructor
  · intro same
    have front : cs.dropWhile p = cs := by
      have le := (List.dropWhile_suffix p (l := (cs.dropWhile p).reverse)).length_le
      have le' := (List.dropWhile_suffix p (l := cs)).length_le
      have lengths := congrArg List.length same
      simp only [List.length_reverse] at le lengths
      exact ((List.dropWhile_suffix p).eq_of_length (by omega))
    rw [front] at same
    have back : cs.reverse.dropWhile p = cs.reverse := by
      rw [← List.reverse_reverse (cs.reverse.dropWhile p), same]
    rw [dropWhile_eq_self_iff, List.head?_reverse] at back
    exact ⟨dropWhile_eq_self_iff.mp front, back⟩
  · rintro ⟨front, back⟩
    rw [dropWhile_eq_self_iff.mpr front, dropWhile_eq_self_iff.mpr (by rwa [List.head?_reverse]),
      List.reverse_reverse]

/-- Stripping keeps a sublist of the characters. -/
theorem stripWith_sublist (p : Char → Bool) (cs : List Char) : (stripWith p cs).Sublist cs := by
  have inner := ((List.dropWhile_suffix p (l := (cs.dropWhile p).reverse)).sublist).reverse
  rw [List.reverse_reverse] at inner
  exact inner.trans (List.dropWhile_suffix p).sublist

/-- A trailing character that is stripped anyway, such as the newline of a line, changes
nothing. -/
theorem stripWith_append_of {p : Char → Bool} {c : Char} (drops : p c = true) (cs : List Char) :
    stripWith p (cs ++ [c]) = stripWith p cs := by
  unfold stripWith
  rw [List.dropWhile_append]
  split
  next gone =>
    rw [List.isEmpty_iff.mp gone]
    simp [List.dropWhile_cons_of_pos drops]
  next => simp [List.dropWhile_cons_of_pos drops]

/-! ## The dict -/

@[simp] theorem lookup_cons_pair (k v key : String) (rest : RawConfig) :
    ((k, v) :: rest).lookup key = if key = k then some v else rest.lookup key := by
  rw [List.lookup_cons]
  by_cases same : key = k
  · simp [same]
  · simp [beq_eq_false_iff_ne.mpr same, same]

theorem lookup_append (xs ys : RawConfig) (key : String) :
    (xs ++ ys).lookup key = (xs.lookup key).or (ys.lookup key) := by
  induction xs with
  | nil => rfl
  | cons entry rest ih =>
    obtain ⟨k, v⟩ := entry
    simp only [List.cons_append, lookup_cons_pair]
    split <;> simp_all

theorem lookup_setEach (d : RawConfig) (key value other : String) :
    (d.map fun p => if p.1 == key then (key, value) else p).lookup other =
      if other = key then (if d.any (·.1 == key) then some value else none)
      else d.lookup other := by
  induction d with
  | nil => simp
  | cons entry rest ih =>
    obtain ⟨k, v⟩ := entry
    by_cases here : k = key
    · subst here
      by_cases same : other = k <;> simp_all
    · by_cases same : other = key
      · subst same
        have differs : (k == other) = false := beq_eq_false_iff_ne.mpr here
        simp only [List.map_cons, List.any_cons, differs, Bool.false_or, Bool.false_eq_true,
          if_false, lookup_cons_pair, if_neg (Ne.symm here), ih, if_true]
      · by_cases hit : other = k <;> simp_all

theorem lookup_eq_none_of_absent {d : RawConfig} {key : String}
    (absent : d.any (·.1 == key) = false) : d.lookup key = none := by
  induction d with
  | nil => rfl
  | cons entry rest ih =>
    obtain ⟨k, v⟩ := entry
    simp only [List.any_cons, Bool.or_eq_false_iff, beq_eq_false_iff_ne] at absent
    simp [Ne.symm absent.1, ih absent.2]

/-- After `d[key] = value`, the key reads `value` and every other key reads as before. -/
theorem dictSet_lookup (d : RawConfig) (key value other : String) :
    (dictSet d key value).lookup other =
      if other = key then some value else d.lookup other := by
  unfold dictSet
  split
  next present => rw [lookup_setEach, if_pos present]
  next absent =>
    rw [lookup_append]
    by_cases same : other = key
    · subst same
      simp [lookup_eq_none_of_absent (Bool.eq_false_iff.mpr absent)]
    · simp [same]

theorem dictSet_keys (d : RawConfig) (key value : String) :
    (dictSet d key value).map Prod.fst =
      if d.any (·.1 == key) then d.map Prod.fst else d.map Prod.fst ++ [key] := by
  unfold dictSet
  split
  next =>
    rw [List.map_map]
    refine List.map_congr_left fun p _ => ?_
    by_cases same : p.1 = key <;> simp [same]
  next => simp

theorem dictSet_nodup {d : RawConfig} (distinct : (d.map Prod.fst).Nodup) (key value : String) :
    ((dictSet d key value).map Prod.fst).Nodup := by
  rw [dictSet_keys]
  split
  next => exact distinct
  next absent =>
    refine List.nodup_append.mpr ⟨distinct, List.nodup_singleton key, ?_⟩
    simpa using absent

theorem mem_dictSet {d : RawConfig} {key value : String} {p : String × String}
    (member : p ∈ dictSet d key value) : p ∈ d ∨ p = (key, value) := by
  unfold dictSet at member
  split at member
  next =>
    obtain ⟨q, qMember, rfl⟩ := List.mem_map.mp member
    split
    next => exact .inr rfl
    next => exact .inl qMember
  next => simpa using member

/-- After the loop `for key, value in e: d[key] = value`, a key reads the value of its last
pair in `e`, or its value in `d` when `e` has no pair for it. -/
theorem dictUpdate_lookup (d e : RawConfig) (key : String) :
    (dictUpdate d e).lookup key = (e.reverse.lookup key).or (d.lookup key) := by
  induction e generalizing d with
  | nil => rfl
  | cons entry rest ih =>
    obtain ⟨k, v⟩ := entry
    show (dictUpdate (dictSet d k v) rest).lookup key = _
    rw [ih, dictSet_lookup, List.reverse_cons, lookup_append, Option.or_assoc]
    by_cases same : key = k <;> simp [same]

theorem dictUpdate_nodup {d : RawConfig} (distinct : (d.map Prod.fst).Nodup) (e : RawConfig) :
    ((dictUpdate d e).map Prod.fst).Nodup := by
  induction e generalizing d with
  | nil => exact distinct
  | cons entry rest ih => exact ih (dictSet_nodup distinct entry.1 entry.2)

theorem mem_dictUpdate {d e : RawConfig} {p : String × String} (member : p ∈ dictUpdate d e) :
    p ∈ d ∨ p ∈ e := by
  induction e generalizing d with
  | nil => exact .inl member
  | cons entry rest ih =>
    rcases ih member with inSet | inRest
    · rcases mem_dictSet inSet with inD | rfl
      · exact .inl inD
      · exact .inr (.head _)
    · exact .inr (.tail _ inRest)

/-- Pairs with keys new to `d` and to each other are appended in their order. -/
theorem dictUpdate_fresh {d e : RawConfig} (distinct : ((d ++ e).map Prod.fst).Nodup) :
    dictUpdate d e = d ++ e := by
  induction e generalizing d with
  | nil => simp [dictUpdate]
  | cons entry rest ih =>
    have fresh : d.any (·.1 == entry.1) = false := by
      rw [List.map_append, List.map_cons, List.nodup_append] at distinct
      simp only [List.any_eq_false, beq_iff_eq]
      exact fun q member same => distinct.2.2 (List.mem_map_of_mem Prod.fst member)
        (by rw [same]; exact .head _)
    show dictUpdate (dictSet d entry.1 entry.2) rest = _
    rw [dictSet, if_neg (by simp [fresh]), ih (by simpa using distinct)]
    simp

/-! ## One line -/

/-- The characters before the first `sep`: `line.split(sep, 1)[0]`. -/
def beforeSep (sep : Char) (cs : List Char) : List Char := cs.takeWhile (· != sep)

/-- The characters after the first `sep`: `line.split(sep, 1)[1]`, of a line that holds `sep`. -/
def afterSep (sep : Char) (cs : List Char) : List Char := (cs.dropWhile (· != sep)).drop 1

/-- `value.strip('"').strip("'")`. -/
def unquoteValue (value : String) : String := pyStripChar '\x27' (pyStripChar '"' value)

/-- `line = line.split("#", 1)[0].strip()` when `"#" in line`. -/
def cutInlineComment (line : String) : String :=
  if '#' ∈ line.toList then pyStrip ⟨beforeSep '#' line.toList⟩ else line

/-- `key, value = line.split("=", 1)` with the key and the value stripped, for a line that
holds `=`; `unquote` is the step `.strip('"').strip("'")` of the value. -/
def splitEntry (unquote : Bool) (line : String) : Option (String × String) :=
  if '=' ∈ line.toList then
    let value := pyStrip ⟨afterSep '=' line.toList⟩
    some (pyStrip ⟨beforeSep '=' line.toList⟩, if unquote then unquoteValue value else value)
  else none

/-- What one line of a file stores, as the body of the readers' loop computes it: `none` for a
line it skips, otherwise the key and the value. `cutComment` says whether the reader cuts an
inline comment. -/
def configLine (cutComment unquote : Bool) (raw : String) : Option (String × String) :=
  let line := pyStrip raw
  if line.toList = [] ∨ line.toList.head? = some '#' then none
  else splitEntry unquote (if cutComment then cutInlineComment line else line)

/-- `data[key] = value` for a line that stores a pair. -/
def storeLine (line : String → Option (String × String)) (d : RawConfig) (raw : String) :
    RawConfig :=
  match line raw with
  | some (key, value) => dictSet d key value
  | none => d

/-- The loop `for raw in handle` of a reader whose loop body is `line`, from `{}`. -/
def readConfig (line : String → Option (String × String)) (lines : List String) : RawConfig :=
  lines.foldl (storeLine line) []

/-- `parse_simple_config` of `sync_cloudflare_records.py`, on the lines of a file that exists. -/
def parseSimpleConfigLines : List String → RawConfig := readConfig (configLine true true)

/-- `parse_config_file` of `sync_pools_direct.py`, on the lines of a file it can read. -/
def parseConfigFileLines : List String → RawConfig := readConfig (configLine true true)

namespace CheckMydns

/-- `parse_config` of `check_mydns.py`, on the lines of a file it can open: the values keep
their quotes. -/
def parseConfig : List String → RawConfig := readConfig (configLine true false)

end CheckMydns

namespace MySQLConfig

/-- `MySQLConfig._parse_config` of `geosensors/sensor.py`, on the lines of a file it can open:
no inline comment is cut off. -/
def parseConfig : List String → RawConfig := readConfig (configLine false true)

end MySQLConfig

/-! ## The loop -/

theorem foldl_storeLine (line : String → Option (String × String)) (lines : List String)
    (d : RawConfig) : lines.foldl (storeLine line) d = dictUpdate d (lines.filterMap line) := by
  induction lines generalizing d with
  | nil => rfl
  | cons raw rest ih =>
    rw [List.foldl_cons, ih, List.filterMap_cons, storeLine]
    cases line raw <;> rfl

/-- A reader stores the pairs of its lines, in order, into an empty dict. -/
theorem readConfig_eq_dictUpdate (line : String → Option (String × String))
    (lines : List String) : readConfig line lines = dictUpdate [] (lines.filterMap line) :=
  foldl_storeLine line lines []

/-! ## What a stored pair can hold -/

theorem pyStrip_sublist (s : String) : (pyStrip s).toList.Sublist s.toList :=
  stripWith_sublist _ _

theorem unquoteValue_sublist (value : String) :
    (unquoteValue value).toList.Sublist value.toList :=
  (stripWith_sublist _ _).trans (stripWith_sublist _ _)

theorem afterSep_sublist (sep : Char) (cs : List Char) : (afterSep sep cs).Sublist cs :=
  (List.drop_sublist 1 _).trans (List.dropWhile_suffix _).sublist

theorem sep_not_mem_beforeSep (sep : Char) (cs : List Char) : sep ∉ beforeSep sep cs :=
  fun member => by simpa using List.mem_takeWhile_imp member

theorem hash_not_mem_cutInlineComment (line : String) :
    '#' ∉ (cutInlineComment line).toList := by
  unfold cutInlineComment
  split
  next => exact fun member => sep_not_mem_beforeSep '#' _ ((pyStrip_sublist _).subset member)
  next absent => exact absent

/-- The key of a split line holds no `=`, and the key and the value hold no character the line
does not hold. -/
theorem splitEntry_sublist {unquote : Bool} {line key value : String}
    (split : splitEntry unquote line = some (key, value)) :
    '=' ∉ key.toList ∧ key.toList.Sublist line.toList ∧ value.toList.Sublist line.toList := by
  unfold splitEntry at split
  split at split
  next =>
    obtain ⟨rfl, rfl⟩ := Prod.mk.inj (Option.some.inj split)
    have fromValue := (pyStrip_sublist _).trans (afterSep_sublist '=' line.toList)
    refine ⟨fun member => sep_not_mem_beforeSep '=' _ ((pyStrip_sublist _).subset member),
      (pyStrip_sublist _).trans (List.takeWhile_sublist _), ?_⟩
    split
    next => exact (unquoteValue_sublist _).trans fromValue
    next => exact fromValue
  next => cases split

/-- No key that a reader stores holds `=`; a reader that cuts inline comments stores no key and
no value that holds `#`. -/
theorem configLine_clean {cutComment unquote : Bool} {raw key value : String}
    (stored : configLine cutComment unquote raw = some (key, value)) :
    '=' ∉ key.toList ∧ (cutComment = true → '#' ∉ key.toList ∧ '#' ∉ value.toList) := by
  unfold configLine at stored
  dsimp only at stored
  by_cases skipped : (pyStrip raw).toList = [] ∨ (pyStrip raw).toList.head? = some '#'
  · rw [if_pos skipped] at stored
    cases stored
  · rw [if_neg skipped] at stored
    cases cutComment
    · exact ⟨(splitEntry_sublist stored).1, nofun⟩
    · rw [if_pos rfl] at stored
      obtain ⟨noEquals, fromKey, fromValue⟩ := splitEntry_sublist stored
      have noHash := hash_not_mem_cutInlineComment (pyStrip raw)
      exact ⟨noEquals, fun _ => ⟨fun member => noHash (fromKey.subset member),
        fun member => noHash (fromValue.subset member)⟩⟩

/-- **What a reader stores.** In the dict a reader returns from any file, no key holds `=`, and
when the reader cuts inline comments, as `parse_simple_config`, `parse_config_file` and
`check_mydns.py` do, no key and no value holds `#`: a password with `#` in it cannot be set. -/
theorem readConfig_clean (cutComment unquote : Bool) (lines : List String) :
    ∀ p ∈ readConfig (configLine cutComment unquote) lines,
      '=' ∉ p.1.toList ∧ (cutComment = true → '#' ∉ p.1.toList ∧ '#' ∉ p.2.toList) := by
  intro p member
  rw [readConfig_eq_dictUpdate] at member
  rcases mem_dictUpdate member with empty | stored
  · cases empty
  · obtain ⟨raw, -, line⟩ := List.mem_filterMap.mp stored
    exact configLine_clean line

/-- The password line `db-password = "p#ss"` stores the value `p`. -/
theorem readConfig_clean_password :
    ("db-password", "p") ∈ parseSimpleConfigLines ["db-password = \"p#ss\"\n"] ∧
      '#' ∉ "p".toList :=
  ⟨by decide, ((readConfig_clean true true ["db-password = \"p#ss\"\n"] ("db-password", "p")
    (by decide)).2 rfl).2⟩

/-! ## Writing a dict back -/

/-- The lines of the characters `cs` as a file opened in text mode yields them, the current
line's characters so far held reversed in `line`. Universal newlines read `\r\n` and a lone
`\r` as `\n` (`afterReturn` tells that the character before was a `\r`), and each line keeps
its `\n`. -/
def linesFrom (afterReturn : Bool) (line : List Char) : List Char → List String
  | [] => if line = [] then [] else [⟨line.reverse⟩]
  | c :: cs =>
    if c = '\n' then
      if afterReturn then linesFrom false [] cs else ⟨('\n' :: line).reverse⟩ :: linesFrom false [] cs
    else if c = '\r' then ⟨('\n' :: line).reverse⟩ :: linesFrom true [] cs
    else linesFrom false (c :: line) cs

/-- `for line in handle` over the file with this text. -/
def fileLines (text : String) : List String := linesFrom false [] text.toList

/-- The line `key=value` that writes one pair. -/
def renderLine (p : String × String) : String := p.1 ++ "=" ++ p.2 ++ "\n"

/-- The text of a file that writes a dict as `key=value` lines. -/
def renderConfig (d : RawConfig) : String := String.join (d.map renderLine)

/-- A string that stays on one line of a file: it holds no `\n` and no `\r`. -/
def OneLine (s : String) : Prop := '\n' ∉ s.toList ∧ '\r' ∉ s.toList

instance (s : String) : Decidable (OneLine s) := inferInstanceAs (Decidable (_ ∧ _))

/-- A pair that its line `key=value` gives back: the key holds no `=` and no `#`, the value no
`#`, neither is padded with whitespace or holds a line break, and the value has no quote at
either end. -/
structure CleanEntry (key value : String) : Prop where
  keyStripped : pyStrip key = key
  valueStripped : pyStrip value = value
  keyNoEquals : '=' ∉ key.toList
  keyNoHash : '#' ∉ key.toList
  valueNoHash : '#' ∉ value.toList
  valueUnquoted : unquoteValue value = value
  keyOneLine : OneLine key
  valueOneLine : OneLine value

instance (key value : String) : Decidable (CleanEntry key value) :=
  decidable_of_iff (pyStrip key = key ∧ pyStrip value = value ∧ '=' ∉ key.toList ∧
      '#' ∉ key.toList ∧ '#' ∉ value.toList ∧ unquoteValue value = value ∧ OneLine key ∧
      OneLine value)
    ⟨fun ⟨a, b, c, d, e, f, g, h⟩ => ⟨a, b, c, d, e, f, g, h⟩,
      fun ⟨a, b, c, d, e, f, g, h⟩ => ⟨a, b, c, d, e, f, g, h⟩⟩

/-- Characters with no line break, then a `\n`, end the current line. -/
theorem linesFrom_line (rest : List Char) :
    ∀ (chars line : List Char), '\n' ∉ chars → '\r' ∉ chars →
      linesFrom false line (chars ++ '\n' :: rest) =
        ⟨line.reverse ++ chars ++ ['\n']⟩ :: linesFrom false [] rest
  | [], line, _, _ => by simp [linesFrom]
  | c :: chars, line, noNewline, noReturn => by
    have newline : c ≠ '\n' := fun same => noNewline (same ▸ .head _)
    have return_ : c ≠ '\r' := fun same => noReturn (same ▸ .head _)
    rw [List.cons_append, linesFrom, if_neg newline, if_neg return_,
      linesFrom_line rest chars (c :: line) (fun mem => noNewline (.tail _ mem))
        fun mem => noReturn (.tail _ mem)]
    simp

/-- The file a dict is written to yields the dict's lines, one per pair. -/
theorem fileLines_renderConfig :
    ∀ d : RawConfig, (∀ p ∈ d, CleanEntry p.1 p.2) → fileLines (renderConfig d) = d.map renderLine
  | [], _ => rfl
  | p :: d, clean => by
    have ⟨⟨keyNewline, keyReturn⟩, valueNewline, valueReturn⟩ :=
      And.intro (clean p (.head _)).keyOneLine (clean p (.head _)).valueOneLine
    have text : (renderConfig (p :: d)).toList =
        (p.1.toList ++ '=' :: p.2.toList) ++ '\n' :: (renderConfig d).toList := by
      simp [renderConfig, renderLine, String.toList]
    have rest : linesFrom false [] (renderConfig d).toList = d.map renderLine :=
      fileLines_renderConfig d fun q mem => clean q (.tail _ mem)
    rw [fileLines, text, linesFrom_line _ _ [] (by simpa using And.intro keyNewline valueNewline)
      (by simpa using And.intro keyReturn valueReturn), rest, List.map_cons]
    congr 1
    simp [renderLine, String.ext_iff, String.toList]

theorem head_not_of_stripped {p : Char → Bool} {cs : List Char} (stripped : stripWith p cs = cs) :
    ∀ c ∈ cs.head?, p c = false :=
  (stripWith_eq_self_iff.mp stripped).1

theorem last_not_of_stripped {p : Char → Bool} {cs : List Char} (stripped : stripWith p cs = cs) :
    ∀ c ∈ cs.getLast?, p c = false :=
  (stripWith_eq_self_iff.mp stripped).2

@[simp] theorem toList_mk (cs : List Char) : (String.mk cs).toList = cs := rfl

/-- The line `key=value` of a clean pair, stripped, is itself without its newline. -/
theorem pyStrip_render {key value : String} (clean : CleanEntry key value) :
    pyStrip (key ++ "=" ++ value ++ "\n") = ⟨key.toList ++ '=' :: value.toList⟩ := by
  have text : (key ++ "=" ++ value ++ "\n").toList =
      (key.toList ++ '=' :: value.toList) ++ ['\n'] := by
    simp [String.toList, String.data_append]
  have keyHead := head_not_of_stripped (congrArg String.toList clean.keyStripped)
  have valueLast := last_not_of_stripped (congrArg String.toList clean.valueStripped)
  rw [pyStrip_eq, text, stripWith_append_of (by decide), stripWith_eq_self_iff.mpr]
  constructor
  · rw [List.head?_append]
    cases keyChars : key.toList with
    | nil => simp [pyIsSpace]
    | cons c _ =>
      rw [keyChars] at keyHead
      simpa using keyHead
  · rw [List.getLast?_append, List.getLast?_cons]
    cases valueEnd : value.toList.getLast? with
    | none => simp [pyIsSpace]
    | some c =>
      rw [valueEnd] at valueLast
      simpa using valueLast

theorem configLine_render (cutComment unquote : Bool) {key value : String}
    (clean : CleanEntry key value) :
    configLine cutComment unquote (key ++ "=" ++ value ++ "\n") = some (key, value) := by
  have keyChar : ∀ c ∈ key.toList, (c != '=') = true :=
    fun c member => bne_iff_ne.mpr fun same => clean.keyNoEquals (same ▸ member)
  have kept : ¬(key.toList ++ '=' :: value.toList = [] ∨
      (key.toList ++ '=' :: value.toList).head? = some '#') := by
    rw [List.head?_append]
    cases keyChars : key.toList with
    | nil => simp
    | cons c _ =>
      have noHash := clean.keyNoHash
      rw [keyChars] at noHash
      simp only [List.head?_cons, Option.or_some, Option.some.injEq, List.cons_append,
        List.cons_ne_nil, false_or]
      exact fun same => noHash (same ▸ .head _)
  have uncut : (if cutComment = true then cutInlineComment ⟨key.toList ++ '=' :: value.toList⟩
      else ⟨key.toList ++ '=' :: value.toList⟩) = ⟨key.toList ++ '=' :: value.toList⟩ := by
    split
    · exact if_neg (by simpa using ⟨clean.keyNoHash, clean.valueNoHash⟩)
    · rfl
  unfold configLine
  dsimp only
  rw [pyStrip_render clean, toList_mk, if_neg kept, uncut, splitEntry, toList_mk,
    if_pos (by simp), beforeSep, List.takeWhile_append_of_pos keyChar,
    List.takeWhile_cons_of_neg (by simp), afterSep, List.dropWhile_append_of_pos keyChar,
    List.dropWhile_cons_of_neg (by simp)]
  simp [clean.keyStripped, clean.valueStripped, clean.valueUnquoted]

/-- **Writing a dict back.** A dict with distinct keys and clean pairs, written to a file as
`key=value` lines, reads back as itself, whichever of the four readers reads it. -/
theorem readConfig_render (cutComment unquote : Bool) (d : RawConfig)
    (distinct : (d.map Prod.fst).Nodup) (clean : ∀ p ∈ d, CleanEntry p.1 p.2) :
    readConfig (configLine cutComment unquote) (fileLines (renderConfig d)) = d := by
  have stored : (d.map renderLine).filterMap (configLine cutComment unquote) = d := by
    rw [List.filterMap_map]
    exact (List.filterMap_congr fun p member =>
      configLine_render cutComment unquote (clean p member)).trans (List.filterMap_some d)
  rw [fileLines_renderConfig d clean, readConfig_eq_dictUpdate, stored]
  exact dictUpdate_fresh distinct

/-- The database lines of a `mydns.conf`, written back and read again by
`parse_simple_config`. -/
theorem readConfig_render_mydnsConf :
    let d : RawConfig := [("db-host", "localhost"), ("db-user", "mydns"), ("db-password", "s3cret")]
    (d.map Prod.fst).Nodup ∧ (∀ p ∈ d, CleanEntry p.1 p.2) ∧
      readConfig (configLine true true) (fileLines (renderConfig d)) = d :=
  ⟨by decide, by decide, readConfig_render true true _ (by decide) (by decide)⟩

/-! ## The four readers -/

section MapValues

variable (f : String → String)

theorem dictSet_mapValues (d : RawConfig) (key value : String) :
    dictSet (d.map fun p => (p.1, f p.2)) key (f value) =
      (dictSet d key value).map fun p => (p.1, f p.2) := by
  have sameKeys : (d.map fun p => (p.1, f p.2)).any (·.1 == key) = d.any (·.1 == key) := by
    rw [List.any_map]
    rfl
  unfold dictSet
  rw [sameKeys]
  split
  next =>
    rw [List.map_map, List.map_map]
    refine List.map_congr_left fun p _ => ?_
    by_cases same : p.1 = key <;> simp [same]
  next => simp

theorem dictUpdate_mapValues (d e : RawConfig) :
    dictUpdate (d.map fun p => (p.1, f p.2)) (e.map fun p => (p.1, f p.2)) =
      (dictUpdate d e).map fun p => (p.1, f p.2) := by
  induction e generalizing d with
  | nil => rfl
  | cons entry rest ih =>
    show dictUpdate (dictSet _ entry.1 (f entry.2)) _ = (dictUpdate (dictSet d entry.1 entry.2) rest).map _
    rw [dictSet_mapValues, ih]

theorem lookup_mapValues (d : RawConfig) (key : String) :
    (d.map fun p => (p.1, f p.2)).lookup key = (d.lookup key).map f := by
  induction d with
  | nil => rfl
  | cons entry rest ih =>
    obtain ⟨k, v⟩ := entry
    simp only [List.map_cons, lookup_cons_pair, ih]
    split <;> rfl

/-- A reader whose loop body maps the value of each pair returns the dict of the reader without
the map, with its values mapped. -/
theorem readConfig_mapValues (line : String → Option (String × String)) (lines : List String) :
    readConfig (fun raw => (line raw).map fun p => (p.1, f p.2)) lines =
      (readConfig line lines).map fun p => (p.1, f p.2) := by
  rw [readConfig_eq_dictUpdate, readConfig_eq_dictUpdate, ← List.map_filterMap]
  exact dictUpdate_mapValues f [] _

end MapValues

theorem splitEntry_unquote (line : String) :
    splitEntry true line = (splitEntry false line).map fun p => (p.1, unquoteValue p.2) := by
  unfold splitEntry
  split <;> rfl

theorem configLine_unquote (cutComment : Bool) (raw : String) :
    configLine cutComment true raw =
      (configLine cutComment false raw).map fun p => (p.1, unquoteValue p.2) := by
  unfold configLine
  dsimp only
  by_cases skipped : (pyStrip raw).toList = [] ∨ (pyStrip raw).toList.head? = some '#'
  · rw [if_pos skipped, if_pos skipped]
    rfl
  · rw [if_neg skipped, if_neg skipped]
    exact splitEntry_unquote _

/-- A line whose only `#` is the one it starts with is read the same with or without the
comment cut. -/
theorem configLine_uncut (unquote : Bool) {raw : String}
    (noInline : '#' ∈ (pyStrip raw).toList → (pyStrip raw).toList.head? = some '#') :
    configLine false unquote raw = configLine true unquote raw := by
  unfold configLine
  dsimp only
  split
  next => rfl
  next kept =>
    rw [if_pos rfl, cutInlineComment, if_neg fun hash => kept (.inr (noInline hash))]
    rfl

/-- `parse_simple_config` reads the dict of `check_mydns.py`'s `parse_config` with its values
unquoted. -/
theorem parseSimpleConfigLines_eq_unquote (lines : List String) :
    parseSimpleConfigLines lines =
      (CheckMydns.parseConfig lines).map (fun p => (p.1, unquoteValue p.2)) := by
  rw [CheckMydns.parseConfig, ← readConfig_mapValues, parseSimpleConfigLines]
  exact congrArg (readConfig · lines) (funext (configLine_unquote true))

/-- **The four readers.** `parse_config_file` reads every file as `parse_simple_config` does;
`check_mydns.py` reads the same keys in the same order, each with the value
`parse_simple_config` reads before it loses its quotes; and the sensor reads the dict of
`parse_simple_config` from every file whose lines hold no `#` but at their head. -/
theorem configReaders_agree (lines : List String) :
    parseConfigFileLines lines = parseSimpleConfigLines lines ∧
      parseSimpleConfigLines lines =
        (CheckMydns.parseConfig lines).map (fun p => (p.1, unquoteValue p.2)) ∧
      ((∀ raw ∈ lines, '#' ∈ (pyStrip raw).toList → (pyStrip raw).toList.head? = some '#') →
        MySQLConfig.parseConfig lines = parseSimpleConfigLines lines) := by
  refine ⟨rfl, parseSimpleConfigLines_eq_unquote lines, fun noInline => ?_⟩
  exact List.foldl_ext _ _ [] fun d raw member => by
      rw [storeLine, storeLine, configLine_uncut true (noInline raw member)]

/-- A `mydns.conf` with a comment line: the sensor reads what `parse_simple_config` reads. -/
theorem configReaders_agree_mydnsConf :
    let lines := ["# MyDNS database\n", "db-host = localhost\n", "db-password = 's3cret'\n"]
    (∀ raw ∈ lines, '#' ∈ (pyStrip raw).toList → (pyStrip raw).toList.head? = some '#') ∧
      MySQLConfig.parseConfig lines = parseSimpleConfigLines lines :=
  ⟨by decide, (configReaders_agree _).2.2 (by decide)⟩

/-- Past a `#`, the sensor keeps what the other readers cut off. -/
example : MySQLConfig.parseConfig ["db-password = s3#cret\n"] = [("db-password", "s3#cret")] ∧
    parseSimpleConfigLines ["db-password = s3#cret\n"] = [("db-password", "s3")] := by
  decide

end CloudflareSync
