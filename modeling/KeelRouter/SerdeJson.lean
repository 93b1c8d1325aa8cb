import KeelRouter.ExactFloat
import Mathlib.Data.List.Basic

/-!
# JSON values

A JSON value as `serde_json` holds it.  The members of an object are listed in
the order of their keys, and inserting a member replaces the one with its key.
How bytes are parsed and printed is left to a codec.
-/

namespace SerdeJson

inductive Number where
  | posInt (value : UInt64)
  | negInt (value : Int64)
  | float (value : ExactFloat)
deriving DecidableEq

inductive Value where
  | null
  | bool (value : Bool)
  | number (value : Number)
  | string (text : String)
  | array (items : List Value)
  | object (members : List (String × Value))

/-- The parser and the printer of the JSON library.  Errors carry their text. -/
structure Codec where
  fromSlice : List UInt8 → Except String Value
  fromStr : List Char → Except String Value
  toVec : Value → Except String (List UInt8)

/-- The codec of a single body: it parses that body, prints one value, and
rejects everything else. -/
def Codec.single (body : List UInt8) (parsed : Value) (printed : List UInt8) : Codec where
  fromSlice bytes :=
    if bytes = body then .ok parsed else .error "expected value at line 1 column 1"
  fromStr _ := .error "expected value at line 1 column 1"
  toVec _ := .ok printed

def Codec.singleLine (line : List Char) (parsed : Value) : Codec where
  fromSlice _ := .error "expected value at line 1 column 1"
  fromStr text :=
    if text = line then .ok parsed else .error "expected value at line 1 column 1"
  toVec _ := .error "no value to print"

theorem Codec.fromSlice_single (body : List UInt8) (parsed : Value) (printed : List UInt8) :
    (Codec.single body parsed printed).fromSlice body = .ok parsed := if_pos rfl

theorem Codec.fromStr_singleLine (line : List Char) (parsed : Value) :
    (Codec.singleLine line parsed).fromStr line = .ok parsed := if_pos rfl

abbrev Members := List (String × Value)

namespace Members

def get (members : Members) (key : String) : Option Value :=
  members.lookup key

def containsKey (members : Members) (key : String) : Bool :=
  (members.get key).isSome

def insert (key : String) (value : Value) : Members → Members
  | [] => [(key, value)]
  | (other, present) :: members =>
      if key = other then (key, value) :: members
      else if key < other then (key, value) :: (other, present) :: members
      else (other, present) :: insert key value members

theorem get_insert_self (key : String) (value : Value) (members : Members) :
    (members.insert key value).get key = some value := by
  unfold get
  induction members with
  | nil => simp [insert]
  | cons member members ih =>
      obtain ⟨other, present⟩ := member
      rw [insert]
      split
      · simp
      · rename_i differs
        split
        · simp
        · rw [List.lookup_cons, beq_eq_false_iff_ne.mpr differs]
          exact ih

theorem get_insert_of_ne {key other : String} (differs : other ≠ key) (value : Value)
    (members : Members) : (members.insert key value).get other = members.get other := by
  unfold get
  induction members with
  | nil => simp [insert, differs]
  | cons member members ih =>
      obtain ⟨first, present⟩ := member
      rw [insert]
      split
      · rename_i same
        rw [List.lookup_cons, List.lookup_cons, ← same, beq_eq_false_iff_ne.mpr differs]
      · split
        · rw [List.lookup_cons, beq_eq_false_iff_ne.mpr differs]
        · rw [List.lookup_cons, List.lookup_cons, ih]

end Members

namespace Value

def get (value : Value) (key : String) : Option Value :=
  match value with
  | .object members => Members.get members key
  | _ => none

def asStr : Value → Option String
  | .string text => some text
  | _ => none

def asBool : Value → Option Bool
  | .bool value => some value
  | _ => none

def asU64 : Value → Option UInt64
  | .number (.posInt value) => some value
  | _ => none

def asArray : Value → Option (List Value)
  | .array items => some items
  | _ => none

def asObject : Value → Option Members
  | .object members => some members
  | _ => none

theorem asObject_eq_some {value : Value} {members : Members} :
    value.asObject = some members ↔ value = .object members := by
  cases value <;> simp [asObject]

theorem exists_object_of_get {value found : Value} {key : String}
    (present : value.get key = some found) : ∃ members, value = .object members := by
  cases value with
  | object members => exact ⟨members, rfl⟩
  | null => cases present
  | bool _ => cases present
  | number _ => cases present
  | string _ => cases present
  | array _ => cases present

end Value

end SerdeJson
