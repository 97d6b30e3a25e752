import FlightRelay.Json.Value

/-!
# Records in JSON

A record is written as an object, whose members are found by name in any order, or as an array, whose
items are the fields in their declared order.  In an object unknown members are skipped and a known name
may stand only once; in an array fields at the end may be left out but none may be added.

A union of records carries its case under the name `type`, or as the first item of the array.
-/

namespace FlightRelay.Json

/-- The fields of a record, found by name or by place. -/
inductive Fields where
  | named (members : List (String × Value))
  | listed (items : List Value)

/-- The members under one name. -/
def membersNamed (name : String) (members : List (String × Value)) : List (String × Value) :=
  members.filter fun m => m.1 = name

/-- The fields of a record with these field names; in an array more items than fields are refused,
unless the reader lets a `surplus` pass. -/
def Value.fieldsOf? (surplus : Bool) (names : List String) : Value → Option Fields
  | .object members =>
    if names.all fun name => (membersNamed name members).length ≤ 1 then some (.named members)
    else none
  | .array items =>
    if surplus || items.length ≤ names.length then some (.listed items) else none
  | _ => none

/-- The fields of a record with these field names. -/
def Value.fields? (names : List String) (v : Value) : Option Fields := v.fieldsOf? false names

namespace Fields

/-- The field at a place under a name. -/
def get? (f : Fields) (place : Nat) (name : String) : Option Value :=
  match f with
  | .named members => members.lookup name
  | .listed items => items[place]?

/-- A field that must be there. -/
def required {α : Type} (f : Fields) (place : Nat) (name : String) (read : Value → Option α) :
    Option α :=
  (f.get? place name).bind read

/-- A field that stands for `default` when it is missing. -/
def withDefault {α : Type} (f : Fields) (place : Nat) (name : String) (read : Value → Option α)
    (default : α) : Option α :=
  match f.get? place name with
  | none => some default
  | some v => read v

/-- A field that may be missing from an object, but not from an array. -/
def nullable {α : Type} (f : Fields) (place : Nat) (name : String) (read : Value → Option α) :
    Option (Option α) :=
  match f, f.get? place name with
  | .named _, none => some none
  | .listed _, none => none
  | _, some .null => some none
  | _, some v => (read v).map some

end Fields

namespace Value

/-! ## Readers of single values -/

/-- A truth value. -/
def bool? : Value → Option Bool
  | .bool b => some b
  | _ => none

/-- A string. -/
def string? : Value → Option String
  | .string s => some s
  | _ => none

/-- A whole number from zero to below `limit`. -/
def below? (limit : Nat) : Value → Option Nat
  | .number (.integer i) => if 0 ≤ i && i < limit then some i.toNat else none
  | _ => none

/-- A word of 64 bits. -/
def word? (v : Value) : Option UInt64 :=
  (v.below? (Nat.pow 2 64)).map Nat.toUInt64

/-- A word of 32 bits. -/
def halfWord? (v : Value) : Option UInt32 :=
  (v.below? (Nat.pow 2 32)).map Nat.toUInt32

/-- Any number, as a double. -/
def float? : Value → Option Float
  | .number n => some n.toFloat
  | _ => none

/-- An array of values of one kind. -/
def list? {α : Type} (read : Value → Option α) : Value → Option (List α)
  | .array items => items.mapM read
  | _ => none

/-- A value or `null`. -/
def option? {α : Type} (read : Value → Option α) : Value → Option (Option α)
  | .null => some none
  | v => (read v).map some

/-- A name, as a string or as an object with the name as its only key.  The key's value is `null`, or
also `{}` where the reader is `lenient`. -/
def caseName? (lenient : Bool) : Value → Option String
  | .string s => some s
  | .object [(s, .null)] => some s
  | .object [(s, .object [])] => if lenient then some s else none
  | _ => none

/-- The case of a union and the rest of the value. -/
def tagged? : Value → Option (String × Value)
  | .object members =>
    match membersNamed "type" members with
    | [(_, .string tag)] => some (tag, .object (members.filter fun m => m.1 ≠ "type"))
    | _ => none
  | .array (.string tag :: rest) => some (tag, .array rest)
  | _ => none

end Value

end FlightRelay.Json
