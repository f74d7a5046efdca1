import HistoryQuiz.Base.Series
import HistoryQuiz.Base.Trim
import Mathlib.Data.BitVec
import Mathlib.Data.Rat.Defs
import Mathlib.Algebra.Order.Ring.Rat
import Mathlib.Order.WithBot

/-!
# JavaScript values

What the client uses of the language: `String.prototype.trim`, the values that
`JSON.parse` returns, reading a property of them, and strict equality. Nothing is
assumed about the shape of a value, since the type annotations of the client are not
checked when it runs.

Strings are sequences of Unicode scalar values.
-/

namespace HistoryQuiz

namespace Js

/-! ## Strings -/

/-- The white space and line terminators that `trim` removes. -/
def isWhiteSpace (c : Char) : Bool :=
  c ∈ ['\t', '\n', '\x0b', '\x0c', '\r', ' ', '\u00a0', '\u1680', '\u2028', '\u2029', '\u202f',
    '\u205f', '\u3000', '\ufeff'] || ('\u2000' ≤ c && c ≤ '\u200a')

/-- `String.prototype.trim`. -/
def trim (s : String) : String := String.ofList (Trim.trim isWhiteSpace s.toList)

@[simp] theorem trim_trim (s : String) : trim (trim s) = trim s := by
  unfold trim
  rw [String.toList_ofList, Trim.trim_trim]

theorem trim_eq_self {s : String} (h : ∀ c ∈ s.toList, isWhiteSpace c = false) : trim s = s := by
  unfold trim
  rw [Trim.trim_eq_self h, String.ofList_toList]

/-- `String.prototype.startsWith`. -/
def startsWith (s start : String) : Bool := start.toList.isPrefixOf s.toList

/-- The UTF-16 code units of a string: what `length` counts. -/
def length (s : String) : ℕ := (s.toList.map fun c => if c.toNat < 0x10000 then 1 else 2).sum

/-! ## JSON values -/

/-- A number that `JSON.parse` returns: finite, or an infinity for a literal that is
too large. -/
abbrev Number := WithBot (WithTop ℚ)

inductive Json where
  | null
  | bool (b : Bool)
  | num (n : Number)
  | str (s : String)
  | arr (items : List Json)
  | obj (fields : List (String × Json))

/-- The value of a property: none, a method of the prototype, or what the JSON says. -/
inductive Value where
  | undefined
  | method
  | json (j : Json)

/-- `value.name`, or nothing when reading it throws, as it does for `null`. Of the
properties that the client reads, strings inherit a method `sub` and arrays a method
`keys`. -/
def Json.prop (j : Json) (name : String) : Option Value :=
  match j with
  | .null => none
  | .obj fields => some (match fields.lookup name with
      | some v => .json v
      | none => .undefined)
  | .str _ => some (if name = "sub" then .method else .undefined)
  | .arr _ => some (if name = "keys" then .method else .undefined)
  | _ => some .undefined

/-- The string, if `typeof value === "string"`. -/
def Value.string? : Value → Option String
  | .json (.str s) => some s
  | _ => none

/-- The number, if `typeof value === "number"`. -/
def Value.number? : Value → Option Number
  | .json (.num n) => some n
  | _ => none

/-- Whether a value counts as true in a condition. -/
def Value.truthy : Value → Bool
  | .undefined => false
  | .method => true
  | .json .null => false
  | .json (.bool b) => b
  | .json (.num n) => n ≠ ((0 : ℚ) : WithTop ℚ)
  | .json (.str s) => s ≠ ""
  | .json (.arr _) => true
  | .json (.obj _) => true

/-- `left === right` for values out of two JSON texts: objects and arrays are equal to
nothing but themselves, and they are never the same. -/
def Value.strictEquals : Value → Value → Bool
  | .undefined, .undefined => true
  | .json .null, .json .null => true
  | .json (.bool a), .json (.bool b) => a == b
  | .json (.num a), .json (.num b) => a = b
  | .json (.str a), .json (.str b) => a == b
  | _, _ => false

theorem Value.strictEquals_string {v : Value} {s : String} :
    v.strictEquals (.json (.str s)) = true ↔ v.string? = some s := by
  unfold Value.strictEquals Value.string?
  rcases v with _ | _ | (_ | _ | _ | _ | _ | _) <;> simp

/-- What the platform reads: `JSON.parse` and `atob` (nothing when they throw),
`TextDecoder.decode`, the text of a number, and `String.prototype.toUpperCase`. -/
structure Readers where
  parseJson : String → Option Json
  atob : String → Option (List (BitVec 8))
  decodeUtf8 : List (BitVec 8) → String
  numberText : Number → String
  toUpperCase : String → String

mutual

/-- `String(value)`; nothing when it throws, as it does for an object whose `toString` is
not a function. -/
def Json.text (readers : Readers) : Json → Option String
  | .null => some "null"
  | .bool b => some (if b then "true" else "false")
  | .num n => some (readers.numberText n)
  | .str s => some s
  | .arr items => (Json.texts readers items).map (String.intercalate ",")
  | .obj fields => if (fields.lookup "toString").isSome then none else some "[object Object]"

/-- The texts of the elements of an array, as `join` writes them. -/
def Json.texts (readers : Readers) : List Json → Option (List String)
  | [] => some []
  | .null :: rest => (Json.texts readers rest).map ("" :: ·)
  | item :: rest => do return (← item.text readers) :: (← Json.texts readers rest)

end

/-- `String(value)`. -/
def Value.text (readers : Readers) : Value → Option String
  | .undefined => some "undefined"
  | .method => some "function sub() { [native code] }"
  | .json j => j.text readers

/-- `String.prototype.split` at a character. -/
def split (s : String) (separator : Char) : List String :=
  (s.toList.splitOn separator).map String.ofList

/-- `Array.prototype.join` with a character. -/
def join (parts : List String) (separator : Char) : String :=
  String.intercalate (String.singleton separator) parts

theorem join_split (s : String) (separator : Char) : join (split s separator) separator = s := by
  have hlist : (split s separator).map String.toList = s.toList.splitOn separator := by
    unfold split
    rw [List.map_map]
    exact (List.map_congr_left fun l _ => String.toList_ofList).trans (List.map_id _)
  refine String.toList_inj.mp ?_
  unfold join
  rw [String.toList_intercalate, hlist, String.toList_singleton, List.intercalate_splitOn]

/-- A separator ends the first part. -/
theorem split_append_of_not_mem {a : String} {separator : Char} (h : separator ∉ a.toList)
    (b : String) :
    split (a ++ String.singleton separator ++ b) separator = a :: split b separator := by
  unfold split
  rw [String.toList_append, String.toList_append, String.toList_singleton, List.append_assoc,
    List.singleton_append, List.splitOn_append_cons_self_of_not_mem h, List.map_cons,
    String.ofList_toList]

theorem split_append (a b : String) (separator : Char) :
    split (a ++ String.singleton separator ++ b) separator =
      split a separator ++ split b separator := by
  unfold split
  rw [String.toList_append, String.toList_append, String.toList_singleton, List.append_assoc,
    List.singleton_append, List.splitOn_append_cons_self, List.map_append]

/-! ## Maps -/

/-- A `Map`: its entries in the order in which their keys were first set. -/
structure Map (κ τ : Type) where
  entries : List (κ × τ)
  nodup : (entries.map Prod.fst).Nodup

section Map

variable {κ τ : Type}

/-- `new Map()`. -/
def Map.empty : Map κ τ := ⟨[], List.nodup_nil⟩

variable [DecidableEq κ]

/-- `map.get(key)`. -/
def Map.get (map : Map κ τ) (key : κ) : Option τ := map.entries.lookup key

/-- `map.set(key, value)`: a key that is there keeps its place. -/
def Map.set (map : Map κ τ) (key : κ) (value : τ) : Map κ τ :=
  ⟨Series.upsert (fun _ => value) key map.entries, Series.nodup_upsert map.nodup _ key⟩

/-- To read a value, step it and store it again is a step of the series. -/
theorem Map.entries_set_get (map : Map κ τ) (key : κ) (init : τ) (step : τ → τ) :
    (map.set key (step ((map.get key).getD init))).entries =
      Series.record init step key map.entries := by
  show Series.upsert (fun _ => step ((map.entries.lookup key).getD init)) key map.entries = _
  unfold Series.record Series.upsert
  by_cases hkey : key ∈ map.entries.map Prod.fst
  · rw [if_pos hkey, if_pos hkey]
    refine List.map_congr_left ?_
    intro entry hentry
    by_cases heq : entry.1 = key
    · rw [if_pos heq, if_pos heq,
        (Series.lookup_eq_some map.nodup).mpr (heq ▸ hentry : (key, entry.2) ∈ map.entries)]
    · rw [if_neg heq, if_neg heq]
  · rw [if_neg hkey, if_neg hkey, Series.lookup_eq_none.mpr hkey]

end Map

end Js

end HistoryQuiz
