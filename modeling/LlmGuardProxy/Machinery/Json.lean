import LlmGuardProxy.Machinery.SortedMap
import LlmGuardProxy.Machinery.Utf8

/-!
# Machinery/Json — JSON values

JSON values as a parser for sorted maps holds them: the members of an object are kept in the order
of their keys, so that equal objects are equal values.
-/

namespace Machinery

/-- A JSON number: an unsigned or a negative integer of 64 bits, or the bits of a finite float. -/
inductive JsonNumber where
  | posInt (n : UInt64)
  | negInt (n : Int64)
  | float (bits : UInt64)
  deriving DecidableEq, Repr

/-- A JSON value. -/
inductive Json where
  | null
  | bool (b : Bool)
  | num (n : JsonNumber)
  | str (s : String)
  | arr (items : List Json)
  | obj (members : List (String × Json))

namespace Json

/-- The members of an object. -/
abbrev Members := List (String × Json)

/-- `Map::get`. -/
def Members.get (members : Members) (key : String) : Option Json := members.lookup key

/-- `Map::insert`, at the place of the key. -/
def Members.insert (key : String) (value : Json) (members : Members) : Members :=
  insertSorted key value members

/-- `Map::remove`. -/
def Members.remove (members : Members) (key : String) : Members := members.filter (·.1 ≠ key)

/-- `Value::as_object`. -/
def asObject : Json → Option Members
  | .obj members => some members
  | _ => none

/-- `Value::as_array`. -/
def asArray : Json → Option (List Json)
  | .arr items => some items
  | _ => none

/-- `Value::as_str`. -/
def asStr : Json → Option String
  | .str s => some s
  | _ => none

/-- `Value::as_u64`. -/
def asU64 : Json → Option UInt64
  | .num (.posInt n) => some n
  | _ => none

/-- `Value::get` by key: only objects have members. -/
def get (value : Json) (key : String) : Option Json :=
  match value with
  | .obj members => Members.get members key
  | _ => none

/-- `Value::is_null`. -/
def isNull : Json → Bool
  | .null => true
  | _ => false

/-- `Value::Number(Number::from(n))`. -/
def ofU64 (n : UInt64) : Json := .num (.posInt n)

/-- `Map::from_iter`. -/
def Members.ofEntries (entries : List (String × Json)) : Members := extendSorted [] entries

/-! ## Members in order -/

theorem sorted_ofEntries (entries : List (String × Json)) : Sorted (Members.ofEntries entries) :=
  sorted_nil.extendSorted entries

theorem sorted_insert {members : Members} (h : Sorted members) (key : String) (value : Json) :
    Sorted (Members.insert key value members) := h.insertSorted key value

/-- A member that may be there. -/
theorem sorted_elim_insert {α : Type*} {members : Members} (h : Sorted members) (key : String)
    (value : α → Json) (present : Option α) :
    Sorted (present.elim members fun a => Members.insert key (value a) members) := by
  cases present with
  | none => exact h
  | some a => exact sorted_insert h key (value a)

/-- A member under a condition. -/
theorem sorted_ite_insert {members : Members} (h : Sorted members) (key : String) (value : Json)
    (p : Prop) [Decidable p] : Sorted (if p then Members.insert key value members else members) := by
  split
  · exact sorted_insert h key value
  · exact h

theorem lookup_insert (key : String) (value : Json) (members : Members) (other : String) :
    (Members.insert key value members).lookup other =
      if other = key then some value else members.lookup other := lookup_insertSorted _ _ _ _

theorem lookup_elim_insert {α : Type*} (key : String) (value : α → Json) (present : Option α)
    (members : Members) (other : String) :
    (present.elim members fun a => Members.insert key (value a) members).lookup other =
      if other = key then (present.map value).or (members.lookup other)
      else members.lookup other := by
  cases present with
  | none => simp
  | some a => simp [lookup_insert]

theorem lookup_ite_insert (key : String) (value : Json) (p : Prop) [Decidable p]
    (members : Members) (other : String) :
    (if p then Members.insert key value members else members).lookup other =
      if other = key ∧ p then some value else members.lookup other := by
  by_cases hp : p
  · simp [hp, lookup_insert]
  · simp [hp]

end Json

/-- A JSON parser and printer. -/
structure JsonCodec where
  fromSlice : Bytes → Option Json
  toText : Json → Bytes

end Machinery
