import FlightRelay.Decimal.Layout
import FlightRelay.Decimal.Reading

/-!
# JSON values

A value keeps the members of an object in the order they were written, repeated names included: which
repetitions are an error is for the reader of a message to say.  A number written without fraction and
exponent is an integer as long as it fits 64 bits, every other number is a double.
-/

namespace FlightRelay.Json

/-- A JSON number. -/
inductive Number where
  | integer (i : Int)
  | real (x : Float)

namespace Number

/-- Least and greatest whole numbers that are kept exactly: those of 64 bits, signed or not. -/
def fitsWord (i : Int) : Bool :=
  -(Int.pow 2 63) ≤ i && i < Int.pow 2 64

/-- The double nearest to the number. -/
def toFloat : Number → Float
  | .integer i => if i < 0 then -(i.natAbs.toUInt64.toFloat) else i.natAbs.toUInt64.toFloat
  | .real x => x

/-- Splits off the digits at the start. -/
def spanDigits (cs : List Char) : List Char × List Char :=
  cs.span Char.isDigit

/-- The digits before the point: a single zero, or digits that do not start with one. -/
def wholeDigits? (cs : List Char) : Option (List Char × List Char) :=
  match spanDigits cs with
  | ([], _) => none
  | ('0' :: _ :: _, _) => none
  | (ds, rest) => some (ds, rest)

/-- The digits after the point, if there is a point. -/
def fractionDigits? : List Char → Option (List Char × List Char)
  | '.' :: rest =>
    match spanDigits rest with
    | ([], _) => none
    | (ds, rest) => some (ds, rest)
  | cs => some ([], cs)

/-- The exponent, if there is one, when nothing may follow it. -/
def exponent? : List Char → Option (Option Int)
  | [] => some none
  | e :: rest =>
    if e = 'e' || e = 'E' then
      let (negative, rest) : Bool × List Char :=
        match rest with
        | '+' :: ds => (false, ds)
        | '-' :: ds => (true, ds)
        | ds => (false, ds)
      match spanDigits rest with
      | ([], _) => none
      | (ds, []) =>
        let n : Int := Decimal.ofDigits ds
        some (some (if negative then -n else n))
      | (_, _ :: _) => none
    else none

/-- The parts of a literal. -/
structure Literal where
  negative : Bool
  /-- The digits before the point. -/
  whole : List Char
  /-- The digits behind the point. -/
  fraction : List Char
  exponent : Option Int
  deriving Repr, DecidableEq

namespace Literal

/-- Reads a literal. -/
def ofChars? (cs : List Char) : Option Literal := do
  let (negative, cs) : Bool × List Char :=
    match cs with
    | '-' :: cs => (true, cs)
    | cs => (false, cs)
  let (whole, cs) ← wholeDigits? cs
  let (fraction, cs) ← fractionDigits? cs
  let exponent ← exponent? cs
  return ⟨negative, whole, fraction, exponent⟩

/-- The whole number that is written, if there is neither point nor exponent, and no sign before zero. -/
def integer? (l : Literal) : Option Int :=
  let n : Int := Decimal.ofDigits l.whole
  if l.fraction = [] && l.exponent = none && !(l.negative && n = 0) then
    some (if l.negative then -n else n)
  else none

/-- The double nearest to what is written; nothing beyond the doubles. -/
def nearest (l : Literal) : Option Float :=
  Decimal.Binary64.nearest l.negative (Decimal.ofDigits (l.whole ++ l.fraction))
    (l.exponent.getD 0 - l.fraction.length)

/-- The double that is read, the nearest one or a neighbour of it; nothing beyond the doubles. -/
def read (l : Literal) : Option Float :=
  let digits (cs : List Char) : List Nat := cs.map fun c => c.toNat - '0'.toNat
  Decimal.readLiteral l.negative (digits l.whole) (digits l.fraction) (l.exponent.getD 0)

end Literal

/-- The number that a literal denotes; nothing if it is no literal or lies beyond the doubles. -/
def ofLiteral? (cs : List Char) : Option Number := do
  let l ← Literal.ofChars? cs
  match l.integer?.filter fitsWord with
  | some i => return .integer i
  | none => return .real (← l.read)

end Number

/-- A JSON value. -/
inductive Value where
  | null
  | bool (b : Bool)
  | number (n : Number)
  | string (s : String)
  | array (items : List Value)
  | object (members : List (String × Value))

namespace Value

instance : Inhabited Value := ⟨.null⟩

/-- A natural number as a value. -/
def ofNat (n : Nat) : Value := .number (.integer n)

/-- A 64-bit word as a value. -/
def ofWord (n : UInt64) : Value := .ofNat n.toNat

/-- A double as a value. -/
def ofFloat (x : Float) : Value := .number (.real x)

/-- A value that may be missing, with `null` for nothing. -/
def ofOption {α : Type} (f : α → Value) : Option α → Value
  | none => .null
  | some a => f a

/-- A failure of some kind, and its wording. -/
def failure (kind message : String) : Value :=
  .object [("error", .string kind), ("message", .string message)]

end Value

end FlightRelay.Json
