import Mathlib.Data.Rat.Defs
import Mathlib.Data.List.Infix

/-!
# Decoded JSON and the Python operations the sync scripts apply to it

Every provider answer reaches the scripts as the value `resp.json()` decodes, and every
column the scripts write is computed from such values by a handful of Python operations:
`d.get(k)`, truthiness in `if` and `or`, iteration in `for` and `list.extend`, the `in`
operator, `isinstance` and `str()` inside f-strings. This module fixes one type `JVal` for
the decoded values and gives each of those operations its Python meaning, including the
exception it raises on a value of the wrong shape (`JVal.get` raises `AttributeError` on a
list, `JVal.iter` raises `TypeError` on a number). The exceptions themselves are `Exc`.

JSON numbers are rationals: Python's `==`, hashing, truthiness and `int()` identify `1` and
`1.0`, and the scripts do nothing else with a number than compare, test and store it.
The non-finite floats `NaN` and `Infinity`, which `json.loads` also accepts, are not values
of this type. An object is the decoded dict, so each key occurs once in its field list.

A Python `set` holds only hashable values, and treats `True` and `1` as one element. The
pool linker collects pool ids in such a set, so `JVal.hashable` and `JVal.looseEq` give
those two facts once.
-/

set_option autoImplicit false

namespace CloudflareSync

/-- A value as `json.loads` decodes it. -/
inductive JVal where
  | null
  | bool (b : Bool)
  | num (q : ℚ)
  | str (s : String)
  | arr (items : List JVal)
  | obj (fields : List (String × JVal))
  deriving Repr, Inhabited

namespace JVal

mutual
/-- Structural equality of decoded values, as a boolean. -/
def beq : JVal → JVal → Bool
  | null, null => true
  | bool x, bool y => x == y
  | num x, num y => x == y
  | str x, str y => x == y
  | arr xs, arr ys => beqItems xs ys
  | obj xs, obj ys => beqFields xs ys
  | _, _ => false

/-- Structural equality of two item lists. -/
def beqItems : List JVal → List JVal → Bool
  | [], [] => true
  | x :: xs, y :: ys => beq x y && beqItems xs ys
  | _, _ => false

/-- Structural equality of two field lists. -/
def beqFields : List (String × JVal) → List (String × JVal) → Bool
  | [], [] => true
  | (k, x) :: xs, (l, y) :: ys => k == l && beq x y && beqFields xs ys
  | _, _ => false
end

mutual
theorem beq_iff : (a b : JVal) → beq a b = true ↔ a = b
  | null, b | bool _, b | num _, b | str _, b => by cases b <;> simp [beq]
  | arr xs, b => by cases b <;> simp [beq, beqItems_iff]
  | obj xs, b => by cases b <;> simp [beq, beqFields_iff]

theorem beqItems_iff : (xs ys : List JVal) → beqItems xs ys = true ↔ xs = ys
  | [], ys => by cases ys <;> simp [beqItems]
  | x :: xs, ys => by cases ys <;> simp [beqItems, beq_iff x, beqItems_iff xs]

theorem beqFields_iff : (xs ys : List (String × JVal)) → beqFields xs ys = true ↔ xs = ys
  | [], ys => by cases ys <;> simp [beqFields]
  | (k, x) :: xs, ys => by
      rcases ys with _ | ⟨⟨l, y⟩, ys⟩ <;>
        simp [beqFields, beq_iff x, beqFields_iff xs, and_assoc]
end

instance : DecidableEq JVal := fun a b => decidable_of_iff _ (beq_iff a b)

/-- Python truthiness: `None`, `False`, zero and empty strings, lists and dicts are false. -/
def truthy : JVal → Bool
  | null => false
  | bool b => b
  | num q => q != 0
  | str s => !s.isEmpty
  | arr xs => !xs.isEmpty
  | obj fs => !fs.isEmpty

/-- `a or b`: the left operand when it is truthy, the right one otherwise. -/
def orElse (a b : JVal) : JVal := if a.truthy then a else b

/-- The name Python gives the type of a decoded value in its error messages. -/
def typeName : JVal → String
  | null => "NoneType"
  | bool _ => "bool"
  | num q => if q.den = 1 then "int" else "float"
  | str _ => "str"
  | arr _ => "list"
  | obj _ => "dict"

/-- `isinstance(v, list)`. -/
def isList : JVal → Bool
  | arr _ => true
  | _ => false

/-- `isinstance(v, dict)`. -/
def isDict : JVal → Bool
  | obj _ => true
  | _ => false

@[simp] theorem truthy_null : null.truthy = false := rfl
@[simp] theorem truthy_str (s : String) : (str s).truthy = !s.isEmpty := rfl
@[simp] theorem truthy_arr (xs : List JVal) : (arr xs).truthy = !xs.isEmpty := rfl
@[simp] theorem truthy_obj (fs : List (String × JVal)) : (obj fs).truthy = !fs.isEmpty := rfl
@[simp] theorem orElse_of_truthy {a : JVal} (b : JVal) (h : a.truthy = true) :
    a.orElse b = a := if_pos h
@[simp] theorem orElse_of_falsy {a : JVal} (b : JVal) (h : a.truthy = false) :
    a.orElse b = b := by simp [orElse, h]

end JVal

/-! ## Python's string methods -/

/-- `c.isspace()`: the characters `str.strip()` and `int()` skip. -/
def pyIsSpace (c : Char) : Bool :=
  let n := c.toNat
  (9 ≤ n && n ≤ 13) || (28 ≤ n && n ≤ 32) || n == 0x85 || n == 0xA0 || n == 0x1680 ||
    (0x2000 ≤ n && n ≤ 0x200A) || n == 0x2028 || n == 0x2029 || n == 0x202F || n == 0x205F ||
    n == 0x3000

/-- `s.strip()`. -/
def pyStrip (s : String) : String :=
  ⟨((s.toList.dropWhile pyIsSpace).reverse.dropWhile pyIsSpace).reverse⟩

/-- `s.lower()` on the ASCII letters; no other character lowers to one, so a comparison with
an ASCII name is decided the same way. -/
def pyLower (s : String) : String := ⟨s.toList.map Char.toLower⟩

/-- `str.split(sep)` for a one-character separator, on the characters of the string: the
pieces between the separators, as many as the separators plus one. -/
def splitChars (sep : Char) : List Char → List (List Char)
  | [] => [[]]
  | c :: cs =>
    match splitChars sep cs with
    | [] => [[c]]
    | piece :: pieces => if c = sep then [] :: piece :: pieces else (c :: piece) :: pieces

/-- `s.split(sep)` for a one-character separator. -/
def pySplit (sep : Char) (s : String) : List String := (splitChars sep s.toList).map String.mk

/-! ## Exceptions -/

/-- The exceptions the scripts raise or let through. `database` is a `pymysql` error with
its code, `transport` a `requests.RequestException`, the last four the built-in errors a
value of the wrong shape raises. -/
inductive Exc where
  | cloudflare (message : String)
  | config (message : String)
  | database (code : Nat) (message : String)
  | transport (message : String)
  | attributeError (message : String)
  | typeError (message : String)
  | valueError (message : String)
  | keyError (message : String)
  deriving DecidableEq, Repr

namespace Exc

/-- `isinstance(e, CloudflareError)`. -/
def isCloudflare : Exc → Bool
  | cloudflare _ => true
  | _ => false

/-- `isinstance(e, ConfigError)`. -/
def isConfig : Exc → Bool
  | config _ => true
  | _ => false

/-- `str(e)`: a `pymysql` error prints as the pair of its code and message. -/
def str : Exc → String
  | cloudflare m | config m | transport m | attributeError m | typeError m | valueError m => m
  | database code m => s!"({code}, '{m}')"
  | keyError m => s!"'{m}'"

/-- The `AttributeError` of calling method `name` on a value that lacks it. -/
def noAttribute (v : JVal) (name : String) : Exc :=
  attributeError s!"'{v.typeName}' object has no attribute '{name}'"

end Exc

namespace JVal

/-- `v.get(key, default)`: a dict gives the key's value or the default, anything else
raises `AttributeError`. -/
def getD (v : JVal) (key : String) (default : JVal) : Except Exc JVal :=
  match v with
  | obj fs => .ok ((fs.lookup key).getD default)
  | _ => .error (Exc.noAttribute v "get")

/-- `v.get(key)`, whose default is `None`. -/
def get (v : JVal) (key : String) : Except Exc JVal := v.getD key null

/-- `key in v` for a value known to be a dict: whether it has the key. -/
def has (v : JVal) (key : String) : Bool :=
  match v with
  | obj fs => (fs.lookup key).isSome
  | _ => false

@[simp] theorem getD_obj (fs : List (String × JVal)) (key : String) (default : JVal) :
    (obj fs).getD key default = .ok ((fs.lookup key).getD default) := rfl

@[simp] theorem get_obj (fs : List (String × JVal)) (key : String) :
    (obj fs).get key = .ok ((fs.lookup key).getD null) := rfl

/-- `get` fails only with `AttributeError`, never with `CloudflareError`. -/
theorem getD_error_not_cloudflare {v : JVal} {key : String} {default : JVal} {e : Exc}
    (failed : v.getD key default = .error e) : e.isCloudflare = false := by
  cases v <;> simp only [getD, reduceCtorEq, Except.error.injEq] at failed <;> subst failed <;> rfl

/-- `v[key]` on a dict: the key's value, `KeyError` when it is missing, `TypeError` on a value
that is no dict. -/
def index (v : JVal) (key : String) : Except Exc JVal :=
  match v with
  | obj fs =>
    match fs.lookup key with
    | some w => .ok w
    | none => .error (.keyError key)
  | _ => .error (.typeError s!"{v.typeName} indices must be integers or slices, not str")

/-- `sep.join(items)`: every item must be a string. -/
def joinStrings (sep : String) (items : List JVal) : Except Exc String := do
  let parts ← items.mapM fun
    | str s => .ok s
    | v => .error (.typeError s!"sequence item: expected str instance, {v.typeName} found")
  return sep.intercalate parts

/-- Iterating a value, as `for x in v` and `list.extend(v)` do: a list gives its items, a
string its characters and a dict its keys; anything else raises `TypeError`. -/
def iter : JVal → Except Exc (List JVal)
  | arr xs => .ok xs
  | str s => .ok (s.toList.map fun c => str (String.singleton c))
  | obj fs => .ok (fs.map fun f => str f.1)
  | v => .error (.typeError s!"'{v.typeName}' object is not iterable")

@[simp] theorem iter_arr (xs : List JVal) : (arr xs).iter = .ok xs := rfl

/-- The values Python can hash, those a `set` can hold: everything but lists and dicts. -/
def hashable : JVal → Bool
  | arr _ | obj _ => false
  | _ => true

/-- The numeric value Python compares a `bool` or a number by (`True == 1`). -/
def asNumber : JVal → Option ℚ
  | bool b => some (if b then 1 else 0)
  | num q => some q
  | _ => none

/-- Python's `==` with a hashable left operand: `True == 1` and `1 == 1.0` hold, and no
hashable value equals a list or a dict. -/
def looseEq (a b : JVal) : Bool :=
  match a, b with
  | null, null => true
  | str s, str t => s == t
  | a, b =>
    match a.asNumber, b.asNumber with
    | some x, some y => x == y
    | _, _ => false

/-- The `in` operator, `x in container`: membership by `==` in a list, substring on a
string (whose left operand must be a string), key membership in a dict (whose left operand
must be hashable), and `TypeError` on anything that is not a container. -/
def contains (container x : JVal) : Except Exc Bool :=
  match container with
  | arr xs => .ok (xs.any (looseEq x))
  | str s =>
    match x with
    | str t => .ok (decide (t.toList <:+: s.toList))
    | _ => .error (.typeError s!"'in <string>' requires string as left operand, not {x.typeName}")
  | obj fs =>
    if x.hashable then .ok (fs.any fun f => looseEq x (str f.1))
    else .error (.typeError s!"unhashable type: '{x.typeName}'")
  | _ => .error (.typeError s!"argument of type '{container.typeName}' is not iterable")

@[simp] theorem contains_arr (xs : List JVal) (x : JVal) :
    (arr xs).contains x = .ok (xs.any (looseEq x)) := rfl

/-- `sys.get_int_max_str_digits()` as CPython sets it: `int()` raises `ValueError` for a
decimal literal of more digits. -/
def maxStrDigits : Nat := 4300

/-- The digits of a base-10 literal as `int()` reads them: ASCII digits, with single
underscores allowed between two digits, and at most `maxStrDigits` digits. -/
def digitsValue (cs : List Char) : Option Nat :=
  if cs.isEmpty || cs.head? = some '_' || cs.getLast? = some '_' ||
      (cs.zip cs.tail).any (fun p => p.1 = '_' && p.2 = '_') ||
      cs.any (fun c => c != '_' && !c.isDigit) ||
      decide (maxStrDigits < (cs.filter Char.isDigit).length) then none
  else some ((cs.filter Char.isDigit).foldl (fun n c => 10 * n + (c.toNat - '0'.toNat)) 0)

/-- `int(s)` of a string: surrounding whitespace, an optional sign, then a base-10 literal.
Only ASCII digits are read, where Python also reads the other Unicode decimal digits. -/
def pyIntOfString (s : String) : Option Int :=
  match (pyStrip s).toList with
  | '-' :: cs => (digitsValue cs).map fun n => -(n : Int)
  | '+' :: cs => (digitsValue cs).map fun n => (n : Int)
  | cs => (digitsValue cs).map fun n => (n : Int)

/-- `int(v)`: a number is truncated toward zero, a `bool` is `0` or `1`, a string is parsed
and raises `ValueError` when it is no literal; `None`, lists and dicts raise `TypeError`. -/
def toInt : JVal → Except Exc Int
  | num q => .ok (q.num.tdiv q.den)
  | bool b => .ok (if b then 1 else 0)
  | str s =>
    match pyIntOfString s with
    | some n => .ok n
    | none => .error (.valueError s!"invalid literal for int() with base 10: '{s}'")
  | v => .error (.typeError
      s!"int() argument must be a string, a bytes-like object or a real number, not '{v.typeName}'")

@[simp] theorem toInt_num_int (n : Int) : (num n).toInt = .ok n := by
  simp [toInt]


mutual
/-- `repr()` of a decoded value, as Python prints it inside a container. -/
def pyRepr : JVal → String
  | str s => "'" ++ s ++ "'"
  | arr xs => "[" ++ reprItems xs ++ "]"
  | obj fs => "\x7b" ++ reprFields fs ++ "\x7d"
  | v => pyScalar v

/-- The items of a list, as `repr()` separates them. -/
def reprItems : List JVal → String
  | [] => ""
  | [x] => pyRepr x
  | x :: xs => pyRepr x ++ ", " ++ reprItems xs

/-- The items of a dict, as `repr()` separates them. -/
def reprFields : List (String × JVal) → String
  | [] => ""
  | [(k, x)] => "'" ++ k ++ "': " ++ pyRepr x
  | (k, x) :: fs => "'" ++ k ++ "': " ++ pyRepr x ++ ", " ++ reprFields fs

/-- `str()` of a scalar. A non-integral number prints as the fraction it stands for. -/
def pyScalar : JVal → String
  | null => "None"
  | bool true => "True"
  | bool false => "False"
  | num q => if q.den = 1 then toString q.num else toString q
  | str s => s
  | _ => ""
end

/-- `str()` of a decoded value, as an f-string formats it: a string prints bare, a
container as its `repr()`. -/
def pyStr : JVal → String
  | str s => s
  | arr xs => pyRepr (arr xs)
  | obj fs => pyRepr (obj fs)
  | v => pyScalar v

end JVal

/-! ## Building one value per item -/

/-- A `do` block in `Except` that returns has returned at its first step. -/
theorem bind_eq_ok {ε α β : Type} {x : Except ε α} {f : α → Except ε β} {b : β}
    (h : (x >>= f) = .ok b) : ∃ a, x = .ok a ∧ f a = .ok b := by
  cases x with
  | error e => cases h
  | ok a => exact ⟨a, rfl, h⟩

/-- Every value a successful `mapM` in `Except` returns is the value of `f` at some item: a
row builder's property of its rows holds of the whole list it builds. -/
theorem mapM_ok_mem {ε α β : Type} {f : α → Except ε β} :
    ∀ {xs : List α} {ys : List β}, xs.mapM f = .ok ys → ∀ y ∈ ys, ∃ x ∈ xs, f x = .ok y
  | [], ys, built => by
    cases built
    simp
  | x :: xs, ys, built => by
    rw [List.mapM_cons] at built
    cases first : f x with
    | error e => rw [first] at built; cases built
    | ok y =>
      cases rest : xs.mapM f with
      | error e => rw [first, rest] at built; cases built
      | ok ys' =>
        rw [first, rest] at built
        cases built
        intro z member
        rcases List.mem_cons.mp member with rfl | member
        · exact ⟨x, List.mem_cons_self _ _, first⟩
        · obtain ⟨x', member', built'⟩ := mapM_ok_mem rest z member
          exact ⟨x', List.mem_cons_of_mem _ member', built'⟩

end CloudflareSync
