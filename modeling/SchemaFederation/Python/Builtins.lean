import Mathlib.Data.List.Nodup
import SchemaFederation.Python.Upper

/-!
# Python built-ins used by the federation core

Exceptions, `repr` of strings, and `dict`, as the source uses them.

* `PyException`: a raised exception, by its class and the text `str(e)` gives. An `except C:`
  clause tests the class (`ExceptionClass.isKeyError`, `ExceptionClass.isHttpError`,
  `ExceptionClass.isRequestException`).
* `truthyOpt`: the truth value of an `Optional[str]`; `pySplit`, `pyRstrip`, `pyStartsWith`,
  `pyEndsWith` and `pyUpper`: the string methods the plugins call.
* `strRepr`: `repr` of a string, which is also `str(KeyError(s))`. Characters outside ASCII are
  written as they are; CPython escapes the non-printable ones among them.
* `Dict`: an insertion-ordered dictionary whose keys are distinct, which is a field of the
  structure. `d[k] = v` (`Dict.insert`) keeps a present key where it stands and appends a new one,
  as CPython does; `del d[k]` is `Dict.erase`. Later proofs use `get?_insert_self`,
  `get?_insert_ne`, `get?_erase_self`, `get?_erase_ne`, `keys_insert_of_not_mem`, `get?_map` and
  `get?_filterMap` instead of unfolding.
-/

namespace SchemaFederation.Python

/-! ## Exceptions -/

/-- The exception classes that the modelled code raises or tells apart. -/
inductive ExceptionClass where
  | keyError
  | valueError
  | typeError
  | attributeError
  | notImplementedError
  /-- `requests.exceptions.HTTPError` from `raise_for_status()`, with the response's status. -/
  | httpError (statusCode : Nat)
  /-- Any other `requests.exceptions.RequestException`: no response was received. -/
  | requestException
  /-- `requests.exceptions.JSONDecodeError` from `response.json()`: a `RequestException` and a
  `ValueError`. -/
  | invalidJson
  /-- `json.JSONDecodeError` from `json.loads`: a `ValueError`. -/
  | jsonDecodeError
  /-- An exception of any other class, by name. -/
  | other (name : String)
  deriving DecidableEq, Repr

namespace ExceptionClass

/-- `except KeyError:` catches it. -/
def isKeyError : ExceptionClass → Bool
  | keyError => true
  | _ => false

/-- `except requests.exceptions.HTTPError:` catches it. -/
def isHttpError : ExceptionClass → Bool
  | httpError _ => true
  | _ => false

/-- `except requests.exceptions.RequestException:` catches it. -/
def isRequestException : ExceptionClass → Bool
  | httpError _ | requestException | invalidJson => true
  | _ => false

end ExceptionClass

/-- A raised exception: its class and the text of `str(e)`. -/
structure PyException where
  cls : ExceptionClass
  str : String
  deriving DecidableEq, Repr

/-- Code after a call that returned goes on with its value. -/
@[simp] theorem ok_bind {ε α β : Type} (a : α) (f : α → Except ε β) :
    (Except.ok a >>= f) = f a := rfl

/-- An exception propagates past the code after the call that raised it. -/
@[simp] theorem error_bind {ε α β : Type} (e : ε) (f : α → Except ε β) :
    (Except.error e >>= f) = .error e := rfl

theorem bind_eq_ok {ε α β : Type} {x : Except ε α} {f : α → Except ε β} {b : β} :
    (x >>= f) = .ok b ↔ ∃ a, x = .ok a ∧ f a = .ok b := by
  cases x <;> simp

@[simp] theorem map_ok {ε α β : Type} (f : α → β) (a : α) :
    (f <$> (Except.ok a : Except ε α)) = .ok (f a) := rfl

@[simp] theorem map_error {ε α β : Type} (f : α → β) (e : ε) :
    (f <$> (Except.error e : Except ε α)) = .error e := rfl

theorem map_eq_ok {ε α β : Type} {f : α → β} {x : Except ε α} {b : β} :
    (f <$> x) = .ok b ↔ ∃ a, x = .ok a ∧ f a = b := by
  cases x <;> simp

/-- `except Exception: pass` keeps exactly the values of the calls that returned. -/
theorem toOption_eq_some {ε α : Type} {x : Except ε α} {a : α} :
    x.toOption = some a ↔ x = .ok a := by
  cases x <;> simp [Except.toOption]

/-- A loop that appends what each call returned, skipping `None`, appends only what one of the
calls gave. -/
theorem mem_reduceOption_mapM {α β ε : Type} {f : α → Except ε (Option β)} {l : List α}
    {r : List (Option β)} (h : l.mapM f = .ok r) {b : β} (hb : b ∈ r.reduceOption) :
    ∃ a ∈ l, f a = .ok (some b) := by
  induction l generalizing r with
  | nil => cases h; simp [List.reduceOption] at hb
  | cons a l ih =>
    simp only [List.mapM_cons, bind_eq_ok, pure, Except.pure, Except.ok.injEq] at h
    obtain ⟨x, hx, xs, hxs, rfl⟩ := h
    simp only [List.reduceOption, List.mem_filterMap, id, List.mem_cons] at hb ih
    obtain ⟨_, rfl | hb, rfl⟩ := hb
    · exact ⟨a, List.mem_cons_self _ _, hx⟩
    · obtain ⟨a', ha', hfa'⟩ := ih hxs ⟨_, hb, rfl⟩
      exact ⟨a', List.mem_cons_of_mem _ ha', hfa'⟩

/-! ## `repr` of a string -/

/-- The quote `repr` puts around a string: an apostrophe, or `"` when the string holds an
apostrophe and no `"`. -/
def reprQuote (s : String) : Char :=
  if s.contains (Char.ofNat 39) && !s.contains '"' then '"' else Char.ofNat 39

/-- Two lowercase hexadecimal digits. -/
def hex2 (n : Nat) : String :=
  let ds := Nat.toDigits 16 n
  String.mk (if ds.length < 2 then '0' :: ds else ds)

/-- One character of a string as `repr` writes it between the quotes `q`. -/
def reprChar (q c : Char) : String :=
  if c = q ∨ c = '\\' then "\\" ++ c.toString
  else if c = '\n' then "\\n"
  else if c = '\r' then "\\r"
  else if c = '\t' then "\\t"
  else if c.toNat < 32 ∨ c.toNat = 127 then "\\x" ++ hex2 c.toNat
  else c.toString

/-- `repr(s)` for a string `s`. -/
def strRepr (s : String) : String :=
  let q := reprQuote s
  q.toString ++ String.join (s.toList.map (reprChar q)) ++ q.toString

/-- `s` between apostrophes, as an f-string such as `f"field '{name}'"` writes it. -/
def singleQuoted (s : String) : String := ⟨Char.ofNat 39 :: s.data ++ [Char.ofNat 39]⟩

/-- `KeyError(key)`: its text is the `repr` of the key. -/
def keyError (key : String) : PyException := ⟨.keyError, strRepr key⟩

/-- `s.split(sep)` for a one-character separator: every occurrence splits, empty parts included. -/
def pySplit (s : String) (sep : Char) : List String := (s.data.splitOn sep).map String.mk

/-- There is one part more than there are separators. -/
theorem length_pySplit (s : String) (sep : Char) :
    (pySplit s sep).length = s.data.count sep + 1 := by
  rw [pySplit, List.length_map]
  induction s.data with
  | nil => rfl
  | cons a l ih =>
    simp only [List.splitOn] at ih ⊢
    rw [List.splitOnP_cons, List.count_cons]
    split <;> simp_all

/-- `s.rstrip(c)` for one character. -/
def pyRstrip (s : String) (c : Char) : String := ⟨(s.data.reverse.dropWhile (· == c)).reverse⟩

/-- `s.startswith(prefix)`. -/
def pyStartsWith (s pre : String) : Bool := pre.data.isPrefixOf s.data

/-- `s.endswith(suffix)`. -/
def pyEndsWith (s suf : String) : Bool := suf.data.isSuffixOf s.data

/-- A string ends with one character when that character is its last. -/
theorem pyEndsWith_singleton (s : String) (c : Char) :
    pyEndsWith s ⟨[c]⟩ = (s.data.getLast? == some c) := by
  rw [pyEndsWith, List.isSuffixOf, List.reverse_singleton, ← List.head?_reverse]
  cases s.data.reverse with
  | nil => rfl
  | cons d l => simp [List.isPrefixOf, eq_comm]

/-- `s.upper()`, character by character (`upperChar`). -/
def pyUpper (s : String) : String := ⟨s.data.flatMap upperChar⟩

/-- The truth value of an `Optional[str]`: `None` and `""` are false. -/
def truthyOpt : Option String → Bool
  | some s => s != ""
  | none => false

/-! ## Dictionaries -/

/-- A Python `dict`: its items in insertion order, with distinct keys. -/
structure Dict (α β : Type) where
  items : List (α × β)
  nodup : (items.map Prod.fst).Nodup

namespace Dict

variable {α β : Type} [DecidableEq α]

/-- The keys, in iteration order. -/
def keys (d : Dict α β) : List α := d.items.map Prod.fst

/-- `{}`. -/
def empty : Dict α β := ⟨[], List.nodup_nil⟩

/-- `d.get(k)`. -/
def get? (d : Dict α β) (k : α) : Option β := d.items.lookup k

/-- `d[k] = v`: a present key keeps its place and takes the new value; a new key goes last. -/
def insert (d : Dict α β) (k : α) (v : β) : Dict α β :=
  if h : k ∈ d.keys then
    ⟨d.items.map (fun p => if p.1 = k then (k, v) else p), by
      rw [List.map_map]
      refine List.map_congr_left (fun p _ => ?_) ▸ d.nodup
      by_cases hp : p.1 = k <;> simp [hp]⟩
  else
    ⟨d.items ++ [(k, v)], by
      simpa [List.nodup_append, keys] using And.intro d.nodup h⟩

/-- `del d[k]`. -/
def erase (d : Dict α β) (k : α) : Dict α β :=
  ⟨d.items.filter (fun p => p.1 ≠ k), d.nodup.sublist ((List.filter_sublist _).map _)⟩

@[simp] theorem lookup_cons_self (k : α) (v : β) (l : List (α × β)) :
    ((k, v) :: l).lookup k = some v := by
  simp [List.lookup_cons]

theorem lookup_cons_ne {k k' : α} (v : β) (l : List (α × β)) (h : k' ≠ k) :
    ((k, v) :: l).lookup k' = l.lookup k' := by
  rw [List.lookup_cons, beq_false_of_ne h]

theorem lookup_isSome_iff {l : List (α × β)} {k : α} :
    (l.lookup k).isSome ↔ k ∈ l.map Prod.fst := by
  induction l with
  | nil => simp
  | cons p l ih =>
    obtain ⟨k', v'⟩ := p
    by_cases h : k = k'
    · subst h; simp
    · simp [lookup_cons_ne _ _ h, ih, h]

theorem lookup_eq_none {l : List (α × β)} {k : α} (h : k ∉ l.map Prod.fst) :
    l.lookup k = none :=
  Option.not_isSome_iff_eq_none.1 (mt lookup_isSome_iff.1 h)

theorem lookup_append_of_not_mem {l : List (α × β)} {k k' : α} (v : β)
    (h : k ∉ l.map Prod.fst) :
    (l ++ [(k, v)]).lookup k' = if k' = k then some v else l.lookup k' := by
  induction l with
  | nil => by_cases h' : k' = k <;> simp [h', lookup_cons_ne]
  | cons p l ih =>
    obtain ⟨k'', v''⟩ := p
    simp only [List.map_cons, List.mem_cons, not_or] at h
    by_cases h' : k' = k''
    · subst h'; simp [Ne.symm h.1]
    · simp [lookup_cons_ne _ _ h', ih h.2]

theorem lookup_map_update_self {l : List (α × β)} {k : α} (v : β) (h : k ∈ l.map Prod.fst) :
    (l.map (fun p => if p.1 = k then (k, v) else p)).lookup k = some v := by
  induction l with
  | nil => simp at h
  | cons p l ih =>
    obtain ⟨k', v'⟩ := p
    by_cases hk : k' = k
    · subst hk; simp
    · simp only [List.map_cons, List.mem_cons] at h
      simp [hk, lookup_cons_ne _ _ (Ne.symm hk), ih (h.resolve_left (Ne.symm hk))]

theorem lookup_map_update_ne {l : List (α × β)} {k k' : α} (v : β) (h : k' ≠ k) :
    (l.map (fun p => if p.1 = k then (k, v) else p)).lookup k' = l.lookup k' := by
  induction l with
  | nil => rfl
  | cons p l ih =>
    obtain ⟨k'', v''⟩ := p
    by_cases hk : k'' = k
    · subst hk; simp [lookup_cons_ne _ _ h, ih]
    · by_cases h' : k' = k''
      · subst h'; simp [hk]
      · simp [hk, lookup_cons_ne _ _ h', ih]

theorem lookup_filter_ne {l : List (α × β)} {k k' : α} (h : k' ≠ k) :
    (l.filter (fun p => p.1 ≠ k)).lookup k' = l.lookup k' := by
  induction l with
  | nil => rfl
  | cons p l ih =>
    obtain ⟨k'', v''⟩ := p
    simp only [ne_eq, decide_not] at ih
    by_cases hk : k'' = k
    · subst hk; simp [lookup_cons_ne _ _ h, ih]
    · by_cases h' : k' = k''
      · subst h'; simp [hk]
      · simp [hk, lookup_cons_ne _ _ h', ih]

theorem lookup_eq_some_of_mem {l : List (α × β)} {k : α} {v : β} (hnd : (l.map Prod.fst).Nodup)
    (h : (k, v) ∈ l) : l.lookup k = some v := by
  induction l with
  | nil => simp at h
  | cons p l ih =>
    obtain ⟨k', v'⟩ := p
    simp only [List.map_cons, List.nodup_cons] at hnd
    rcases List.mem_cons.mp h with h | h
    · cases h; simp
    · have hk : k ≠ k' := fun hk => hnd.1 (hk ▸ List.mem_map_of_mem Prod.fst h)
      rw [lookup_cons_ne _ _ hk, ih hnd.2 h]

/-- Writing back the value a key already has changes nothing. -/
theorem map_update_of_lookup {l : List (α × β)} {k : α} {v : β} (hnd : (l.map Prod.fst).Nodup)
    (h : l.lookup k = some v) : l.map (fun p => if p.1 = k then (k, v) else p) = l := by
  refine (List.map_congr_left fun p hp => ?_).trans (List.map_id l)
  by_cases hk : p.1 = k
  · have hp' := lookup_eq_some_of_mem hnd hp
    rw [hk, h, Option.some.injEq] at hp'
    rw [if_pos hk, ← hk, hp', id]
  · rw [if_neg hk, id]

@[simp] theorem get?_empty (k : α) : (empty : Dict α β).get? k = none := rfl

/-- An item of a dict is what the dict gives for its key. -/
theorem mem_items_iff {d : Dict α β} {k : α} {v : β} : (k, v) ∈ d.items ↔ d.get? k = some v := by
  refine ⟨lookup_eq_some_of_mem d.nodup, fun h => ?_⟩
  obtain ⟨l₁, l₂, hl, -⟩ := List.lookup_eq_some_iff.mp h
  simp [hl]

theorem isSome_get?_iff {d : Dict α β} {k : α} : (d.get? k).isSome ↔ k ∈ d.keys :=
  lookup_isSome_iff

theorem get?_eq_none {d : Dict α β} {k : α} : d.get? k = none ↔ k ∉ d.keys := by
  rw [← isSome_get?_iff, Option.not_isSome_iff_eq_none]

@[simp] theorem get?_insert_self (d : Dict α β) (k : α) (v : β) :
    (d.insert k v).get? k = some v := by
  unfold insert get?
  split
  · next h => exact lookup_map_update_self v h
  · next h => simp [lookup_append_of_not_mem v h]

theorem get?_insert_ne (d : Dict α β) {k k' : α} (v : β) (h : k' ≠ k) :
    (d.insert k v).get? k' = d.get? k' := by
  unfold insert get?
  split
  · exact lookup_map_update_ne v h
  · next hk => simp [lookup_append_of_not_mem v hk, h]

theorem get?_insert {d : Dict α β} {k k' : α} {v : β} :
    (d.insert k v).get? k' = if k' = k then some v else d.get? k' := by
  by_cases h : k' = k
  · subst h; simp
  · simp [get?_insert_ne d v h, h]

/-- A binding after `d[k] = v` is the new one, or one from before under another key. -/
theorem get?_insert_eq_some {d : Dict α β} {k k' : α} {v v' : β} :
    (d.insert k v).get? k' = some v' ↔ (k' = k ∧ v' = v) ∨ (k' ≠ k ∧ d.get? k' = some v') := by
  rw [get?_insert]
  split
  · next h =>
    simp only [h, Option.some.injEq, true_and, ne_eq, not_true_eq_false, false_and, or_false]
    exact eq_comm
  · next h => simp [h]

@[simp] theorem get?_erase_self (d : Dict α β) (k : α) : (d.erase k).get? k = none :=
  lookup_eq_none (by simp [erase])

theorem get?_erase_ne (d : Dict α β) {k k' : α} (h : k' ≠ k) :
    (d.erase k).get? k' = d.get? k' :=
  lookup_filter_ne h

theorem keys_insert_of_mem {d : Dict α β} {k : α} (v : β) (h : k ∈ d.keys) :
    (d.insert k v).keys = d.keys := by
  rw [insert, dif_pos h]
  simp only [keys, List.map_map]
  exact List.map_congr_left fun p _ => by by_cases hp : p.1 = k <;> simp [hp]

theorem keys_insert_of_not_mem {d : Dict α β} {k : α} (v : β) (h : k ∉ d.keys) :
    (d.insert k v).keys = d.keys ++ [k] := by
  rw [insert, dif_neg h]
  simp [keys]

/-- A dict with the same keys, in the same order, whose value at `k` is `f k v`. -/
def map {γ : Type} (f : α → β → γ) (d : Dict α β) : Dict α γ :=
  ⟨d.items.map (fun p => (p.1, f p.1 p.2)),
    by simpa [List.map_map, Function.comp_def] using d.nodup⟩

omit [DecidableEq α] in
theorem filterMap_keys {γ : Type} (f : α → β → Option γ) (l : List (α × β)) :
    (l.filterMap (fun p => (f p.1 p.2).map (p.1, ·))).map Prod.fst =
      (l.filter (fun p => (f p.1 p.2).isSome)).map Prod.fst := by
  induction l with
  | nil => rfl
  | cons p l ih => cases h : f p.1 p.2 <;> simp [h, ih]

/-- A dict with the keys `k` where `f k v` is `some`, in the same order, and those values. -/
def filterMap {γ : Type} (f : α → β → Option γ) (d : Dict α β) : Dict α γ :=
  ⟨d.items.filterMap (fun p => (f p.1 p.2).map (p.1, ·)),
    filterMap_keys f d.items ▸ d.nodup.sublist ((List.filter_sublist _).map _)⟩

omit [DecidableEq α] in
theorem keys_map {γ : Type} (f : α → β → γ) (d : Dict α β) : (d.map f).keys = d.keys := by
  simp [map, keys, Function.comp_def]

theorem lookup_map {γ : Type} (f : α → β → γ) (l : List (α × β)) (k : α) :
    (l.map (fun p => (p.1, f p.1 p.2))).lookup k = (l.lookup k).map (f k) := by
  induction l with
  | nil => rfl
  | cons p l ih =>
    obtain ⟨k', v⟩ := p
    by_cases h : k = k'
    · subst h; simp
    · simp [lookup_cons_ne _ _ h, ih]

theorem lookup_filterMap {γ : Type} (f : α → β → Option γ) {l : List (α × β)}
    (hl : (l.map Prod.fst).Nodup) (k : α) :
    (l.filterMap (fun p => (f p.1 p.2).map (p.1, ·))).lookup k = (l.lookup k).bind (f k) := by
  induction l with
  | nil => rfl
  | cons p l ih =>
    obtain ⟨k', v⟩ := p
    simp only [List.map_cons, List.nodup_cons] at hl
    by_cases h : k = k'
    · subst h
      cases hf : f k v <;> simp [hf, ih hl.2, lookup_eq_none hl.1]
    · cases hf : f k' v <;> simp [hf, lookup_cons_ne _ _ h, ih hl.2]

theorem get?_map {γ : Type} (f : α → β → γ) (d : Dict α β) (k : α) :
    (d.map f).get? k = (d.get? k).map (f k) :=
  lookup_map f d.items k

theorem get?_filterMap {γ : Type} (f : α → β → Option γ) (d : Dict α β) (k : α) :
    (d.filterMap f).get? k = (d.get? k).bind (f k) :=
  lookup_filterMap f d.nodup k

end Dict

end SchemaFederation.Python
