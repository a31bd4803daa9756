import Mathlib.Data.List.Infix
import SchemaFederation.Python.Builtins

/-!
# Parsed JSON as Python sees it

`json.loads` turns a schema text into `None`, booleans, integers, strings, lists and dicts; the
Unity Catalog plugin builds its column records from the same kinds of values. This file gives
those values (`JsonValue`) and the Python operations the plugin applies to them, each with the
exception CPython raises when the value has the wrong shape:

* `truthy` (`if x:`), `pyEq` (`==`, where `True == 1` and dict equality ignores key order);
* `getItem` (`x["k"]`: `KeyError`, or `TypeError` on a non-dict), `getD` (`x.get("k", d)`:
  `AttributeError` on a non-dict), `startsWith`, `upper` and `rstrip` (`AttributeError` on a
  non-string), `iter` (`for y in x`: `TypeError` on a scalar), `contains` (`"k" in x`:
  `TypeError` on a scalar) and `setItem` (`x["k"] = w`);
* `hashKey` (a dict key: `TypeError` on a list or dict; `True` and `1` are one key);
* `pyStr` and `pyRepr` (`str(x)` and `repr(x)`, used in messages), and `dumps` (`json.dumps`);
* `toStrList` and `toIntList`: a parsed reply body where the contract declares a list of strings or
  of integers; they read a body of that shape exactly and keep, of any other, the items the
  declared type can hold. `toInt?` and `toInt` do the same for a reply field that a dataclass
  declares `Optional[int]` or `int`.

A fractional JSON number is outside the model; so are duplicate keys in one object, which
`json.loads` never returns (lookups take the first).
-/

namespace SchemaFederation.Python

/-- A value of parsed JSON. -/
inductive JsonValue where
  | null
  | bool (b : Bool)
  | num (n : Int)
  | str (s : String)
  | arr (xs : List JsonValue)
  | obj (kvs : List (String × JsonValue))
  deriving Repr

namespace JsonValue

/-- `type(x).__name__`. -/
def typeName : JsonValue → String
  | null => "NoneType"
  | bool _ => "bool"
  | num _ => "int"
  | str _ => "str"
  | arr _ => "list"
  | obj _ => "dict"

/-- The truth value of `x` in `if x:` or `not x`. -/
def truthy : JsonValue → Bool
  | null => false
  | bool b => b
  | num n => n != 0
  | str s => !s.isEmpty
  | arr xs => !xs.isEmpty
  | obj kvs => !kvs.isEmpty

/-- A boolean as the integer it equals in Python. -/
def boolToInt (b : Bool) : Int := if b then 1 else 0

mutual

/-- Python's `x == y`. -/
def pyEq : JsonValue → JsonValue → Bool
  | null, null => true
  | bool a, bool b => a == b
  | bool a, num n => boolToInt a == n
  | num m, bool b => m == boolToInt b
  | num m, num n => m == n
  | str a, str b => a == b
  | arr xs, arr ys => pyEqList xs ys
  | obj a, obj b => a.length == b.length && pyEqFields a b
  | _, _ => false

/-- `==` on lists: elementwise. -/
def pyEqList : List JsonValue → List JsonValue → Bool
  | [], [] => true
  | x :: xs, y :: ys => pyEq x y && pyEqList xs ys
  | _, _ => false

/-- Every key of the first dict is in the second with an equal value. -/
def pyEqFields : List (String × JsonValue) → List (String × JsonValue) → Bool
  | [], _ => true
  | (k, v) :: rest, b =>
    (match b.lookup k with
      | some w => pyEq v w
      | none => false) && pyEqFields rest b

end

mutual

/-- `repr(x)`. -/
def pyRepr : JsonValue → String
  | null => "None"
  | bool true => "True"
  | bool false => "False"
  | num n => toString n
  | str s => strRepr s
  | arr xs => "[" ++ reprList xs ++ "]"
  | obj kvs => "\x7b" ++ reprFields kvs ++ "\x7d"

/-- The items of a list as `repr` writes them. -/
def reprList : List JsonValue → String
  | [] => ""
  | [x] => pyRepr x
  | x :: xs => pyRepr x ++ ", " ++ reprList xs

/-- The items of a dict as `repr` writes them. -/
def reprFields : List (String × JsonValue) → String
  | [] => ""
  | [(k, v)] => strRepr k ++ ": " ++ pyRepr v
  | (k, v) :: kvs => strRepr k ++ ": " ++ pyRepr v ++ ", " ++ reprFields kvs

end

/-- `str(x)`: a string is itself, anything else its `repr`. -/
def pyStr : JsonValue → String
  | str s => s
  | v => pyRepr v

/-- The `TypeError` of `x["k"]` when `x` is not a dict. -/
def subscriptError : JsonValue → PyException
  | arr _ => ⟨.typeError, "list indices must be integers or slices, not str"⟩
  | str _ => ⟨.typeError, "string indices must be integers, not " ++ strRepr "str"⟩
  | v => ⟨.typeError, strRepr v.typeName ++ " object is not subscriptable"⟩

/-- `x[key]` with a string key. -/
def getItem (v : JsonValue) (key : String) : Except PyException JsonValue :=
  match v with
  | obj kvs =>
    match kvs.lookup key with
    | some w => .ok w
    | none => .error (keyError key)
  | v => .error v.subscriptError

/-- The `AttributeError` of `x.attr` when `x` has no such method. -/
def noAttribute (v : JsonValue) (attr : String) : PyException :=
  ⟨.attributeError, strRepr v.typeName ++ " object has no attribute " ++ strRepr attr⟩

/-- `x.get(key, default)`: only a dict has `get`. -/
def getD (v : JsonValue) (key : String) (default : JsonValue) : Except PyException JsonValue :=
  match v with
  | obj kvs => .ok ((kvs.lookup key).getD default)
  | v => .error (v.noAttribute "get")

/-- The values `for y in x` visits: a list's items, a dict's keys, a string's characters. -/
def iter : JsonValue → Except PyException (List JsonValue)
  | arr xs => .ok xs
  | obj kvs => .ok (kvs.map fun p => str p.1)
  | str s => .ok (s.toList.map fun c => str c.toString)
  | v => .error ⟨.typeError, strRepr v.typeName ++ " object is not iterable"⟩

/-- `x.startswith(prefix)`: only a string has the method. -/
def startsWith (v : JsonValue) (pfx : String) : Except PyException Bool :=
  match v with
  | str s => .ok (pyStartsWith s pfx)
  | v => .error (v.noAttribute "startswith")

/-- `x.upper()`: only a string has the method. -/
def upper (v : JsonValue) : Except PyException String :=
  match v with
  | str s => .ok (pyUpper s)
  | v => .error (v.noAttribute "upper")

/-- `x.rstrip(c)`: only a string has the method. -/
def rstrip (v : JsonValue) (c : Char) : Except PyException String :=
  match v with
  | str s => .ok (pyRstrip s c)
  | v => .error (v.noAttribute "rstrip")

/-- `key in x` for a string key: a key of a dict, an item of a list, a substring of a string; any
other value raises `TypeError`. -/
def contains (v : JsonValue) (key : String) : Except PyException Bool :=
  match v with
  | obj kvs => .ok (kvs.lookup key).isSome
  | arr xs => .ok (xs.any (·.pyEq (str key)))
  | str s => .ok (decide (key.data <:+: s.data))
  | v => .error ⟨.typeError, "argument of type " ++ strRepr v.typeName ++ " is not iterable"⟩

/-- `x[key] = w` for a string key: a dict's item is replaced where it stands, or appended. -/
def setItem (v : JsonValue) (key : String) (w : JsonValue) : Except PyException JsonValue :=
  match v with
  | obj kvs => .ok (obj (if (kvs.lookup key).isSome then
      kvs.map (fun p => if p.1 = key then (key, w) else p) else kvs ++ [(key, w)]))
  | arr _ => .error ⟨.typeError, "list indices must be integers or slices, not str"⟩
  | v => .error ⟨.typeError, strRepr v.typeName ++ " object does not support item assignment"⟩

/-- A reply body handed on where the contract declares `List[str]`: a list's items, each as `str()`
writes it. A list of strings, the shape the registries' APIs answer with, is read exactly. -/
def toStrList : JsonValue → List String
  | arr xs => xs.map pyStr
  | _ => []

@[simp] theorem toStrList_strs (ss : List String) : (arr (ss.map str)).toStrList = ss := by
  induction ss with
  | nil => rfl
  | cons s ss ih => simpa [toStrList, pyStr] using ih

/-- A reply body handed on where the contract declares `List[int]`: a list's integer items. A list
of integers is read exactly. -/
def toIntList : JsonValue → List Int
  | arr xs => xs.filterMap fun | num n => some n | _ => none
  | _ => []

/-- A reply field handed on where a dataclass declares `Optional[int]`: `None` and integers (a
boolean is one) are read exactly, and any other value, which the field cannot hold, as `None`. -/
def toInt? : JsonValue → Option Int
  | num n => some n
  | bool b => some (boolToInt b)
  | _ => none

/-- A reply field handed on where a dataclass declares `int`: integers (a boolean is one) are read
exactly, and any other value, which the field cannot hold, as 0. -/
def toInt : JsonValue → Int
  | num n => n
  | bool b => boolToInt b
  | _ => 0

@[simp] theorem toIntList_nums (ns : List Int) : (arr (ns.map num)).toIntList = ns := by
  induction ns with
  | nil => rfl
  | cons n ns ih => simpa [toIntList] using ih

/-- `x.get(key, default)` on a dict. -/
@[simp] theorem getD_obj (kvs : List (String × JsonValue)) (key : String) (d : JsonValue) :
    (obj kvs).getD key d = .ok ((kvs.lookup key).getD d) := rfl

/-- `x.get(...)` returns exactly on a dict. -/
theorem getD_isOk {v : JsonValue} {key : String} {d : JsonValue} :
    (∃ w, v.getD key d = .ok w) ↔ ∃ kvs, v = obj kvs := by
  cases v <;> simp [getD]

/-- `x.upper()` returns exactly on a string, its upper-cased text. -/
theorem upper_eq_ok {v : JsonValue} {s : String} :
    v.upper = .ok s ↔ ∃ t, v = str t ∧ pyUpper t = s := by
  cases v <;> simp [upper]

/-- `x.rstrip(c)` returns exactly on a string. -/
theorem rstrip_isOk {v : JsonValue} {c : Char} : (∃ s, v.rstrip c = .ok s) ↔ ∃ s, v = str s := by
  cases v <;> simp [rstrip]

/-- `x[key]` on a dict returns exactly when the dict has the key. -/
theorem getItem_obj_eq_ok {kvs : List (String × JsonValue)} {key : String} {w : JsonValue} :
    (obj kvs).getItem key = .ok w ↔ kvs.lookup key = some w := by
  cases h : kvs.lookup key <;> simp [getItem, h]

/-- `x[key]` on a dict that has the key. -/
theorem getItem_obj_of_lookup {kvs : List (String × JsonValue)} {key : String} {w : JsonValue}
    (h : kvs.lookup key = some w) : (obj kvs).getItem key = .ok w := by
  simp [getItem, h]

/-- Four lowercase hexadecimal digits. -/
def hex4 (n : Nat) : String :=
  let ds := Nat.toDigits 16 n
  String.mk (List.replicate (4 - ds.length) '0' ++ ds)

/-- A character of a string as `json.dumps` writes it, with `ensure_ascii`: printable ASCII as it
is, the two-character escapes, and anything else as `\uXXXX` (a surrogate pair above U+FFFF). -/
def jsonChar (c : Char) : String :=
  if c = '"' then "\\\"" else if c = '\\' then "\\\\"
  else if c = '\n' then "\\n" else if c = '\r' then "\\r" else if c = '\t' then "\\t"
  else if c = Char.ofNat 8 then "\\b" else if c = Char.ofNat 12 then "\\f"
  else if 32 ≤ c.toNat ∧ c.toNat ≤ 126 then c.toString
  else if c.toNat < 0x10000 then "\\u" ++ hex4 c.toNat
  else
    let n := c.toNat - 0x10000
    "\\u" ++ hex4 (0xD800 + n / 0x400) ++ "\\u" ++ hex4 (0xDC00 + n % 0x400)

/-- A string as `json.dumps` writes it. -/
def jsonString (s : String) : String := "\"" ++ String.join (s.data.map jsonChar) ++ "\""

mutual

/-- `json.dumps(x)`, with its default separators. -/
def dumps : JsonValue → String
  | null => "null"
  | bool true => "true"
  | bool false => "false"
  | num n => toString n
  | str s => jsonString s
  | arr xs => "[" ++ dumpsList xs ++ "]"
  | obj kvs => "\x7b" ++ dumpsFields kvs ++ "\x7d"

/-- The items of a list as `json.dumps` writes them. -/
def dumpsList : List JsonValue → String
  | [] => ""
  | [x] => dumps x
  | x :: xs => dumps x ++ ", " ++ dumpsList xs

/-- The items of a dict as `json.dumps` writes them. -/
def dumpsFields : List (String × JsonValue) → String
  | [] => ""
  | [(k, v)] => jsonString k ++ ": " ++ dumps v
  | (k, v) :: kvs => jsonString k ++ ": " ++ dumps v ++ ", " ++ dumpsFields kvs

end

end JsonValue

/-! ## Dictionary keys -/

/-- What a hashable value is as a dictionary key: `True` is the key `1` and `False` the key `0`,
as `hash` and `==` make them. -/
inductive HashKey where
  | none
  | num (n : Int)
  | str (s : String)
  deriving DecidableEq, Repr

/-- `repr(k)`, which is also `str(KeyError(k))`. -/
def HashKey.pyRepr : HashKey → String
  | .none => "None"
  | .num n => toString n
  | .str s => strRepr s

/-- The key of `x` in a dict or a set; lists and dicts are unhashable. -/
def JsonValue.hashKey : JsonValue → Except PyException HashKey
  | null => .ok .none
  | bool b => .ok (.num (boolToInt b))
  | num n => .ok (.num n)
  | str s => .ok (.str s)
  | v => .error ⟨.typeError, "unhashable type: " ++ strRepr v.typeName⟩

/-- The truth value of a key: `None`, `0` (which `False` is) and `""` are false. -/
def HashKey.truthy : HashKey → Bool
  | .none => false
  | .num n => n != 0
  | .str s => !s.isEmpty

/-- A value is as truthy as its key. -/
theorem JsonValue.truthy_of_hashKey {v : JsonValue} {k : HashKey} (h : v.hashKey = .ok k) :
    k.truthy = v.truthy := by
  cases v with
  | bool b => cases h; cases b <;> rfl
  | _ => cases h <;> rfl

/-- Only a string has a string key. -/
theorem JsonValue.hashKey_eq_str {v : JsonValue} {s : String} :
    v.hashKey = .ok (.str s) ↔ v = .str s := by
  cases v <;> simp [hashKey]

theorem JsonValue.boolToInt_inj {a b : Bool} : boolToInt a = boolToInt b ↔ a = b := by
  cases a <;> cases b <;> decide

/-- On hashable values, `==` is equality of keys. -/
theorem JsonValue.pyEq_iff_hashKey {a b : JsonValue} {ka kb : HashKey} (ha : a.hashKey = .ok ka)
    (hb : b.hashKey = .ok kb) : a.pyEq b = true ↔ ka = kb := by
  -- `pyEq` on two constructors reduces by its recursor, without its many match equations
  cases a <;> cases b <;> cases ha <;> cases hb <;> delta pyEq <;> dsimp only <;>
    simp [boolToInt_inj]

end SchemaFederation.Python
