import FlightRelay.Decimal.Binary64

/-!
# Reading literals quickly

A literal is read in two steps.  The leading digits that fit into a word of 64 bits are collected; then
the double nearest to them is multiplied or divided by the double nearest to a power of ten.  So the
result is the nearest double as long as the digits make no more than fifty-three bits and the power is no
greater than 22, and may be a neighbour of it otherwise.
-/

namespace FlightRelay.Decimal

/-- Digits that were collected, as a number, and the power of ten that goes with it. -/
structure Significand where
  digits : Nat
  exponent : Int
  deriving DecidableEq, Repr, Inhabited

namespace Significand

/-- One more digit than a word of 64 bits can hold. -/
def overflows (digits digit : Nat) : Bool := Nat.pow 2 64 ≤ digits * 10 + digit

/-- Digits before the point.  From the first one on that does not fit they only count. -/
def ofWhole : Nat → List Nat → Significand
  | digits, [] => ⟨digits, 0⟩
  | digits, d :: rest =>
    if overflows digits d then ⟨digits, (d :: rest).length⟩ else ofWhole (digits * 10 + d) rest

/-- Digits behind the point.  From the first one on that does not fit they are left out. -/
def addFraction (s : Significand) : List Nat → Significand
  | [] => s
  | d :: rest =>
    if overflows s.digits d then s
    else addFraction ⟨s.digits * 10 + d, s.exponent - 1⟩ rest

/-- The double nearest to a power of ten. -/
def power (n : Nat) : Float := (Binary64.nearest false 1 n).getD 0

/-- Largest power of ten that is a double. -/
def greatestPower : Nat := 308

/-- A double times a power of ten; nothing beyond the doubles.  Two divisions by the largest power leave
nothing of a word of 64 bits, so `fuel` of three is enough. -/
def scale : Nat → Float → Int → Option Float
  | 0, _, _ => some 0
  | fuel + 1, x, exponent =>
    if 0 ≤ exponent then
      if exponent ≤ greatestPower then
        let y := x * power exponent.toNat
        if y.isInf then none else some y
      else if x == 0 then some x
      else none
    else if -exponent ≤ greatestPower then some (x / power (-exponent).toNat)
    else if x == 0 then some x
    else scale fuel (x / power greatestPower) (exponent + greatestPower)

end Significand

/-- The double that a literal is read as; nothing if it lies beyond the doubles. -/
def readLiteral (negative : Bool) (whole fraction : List Nat) (exponent : Int) : Option Float :=
  let s := (Significand.ofWhole 0 whole).addFraction fraction
  let x := Significand.scale 3 s.digits.toUInt64.toFloat (s.exponent + exponent)
  if negative then x.map (- ·) else x

end FlightRelay.Decimal
