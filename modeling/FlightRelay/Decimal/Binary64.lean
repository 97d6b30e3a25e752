import FlightRelay.Decimal.Rounding

/-!
# Doubles as sign, mantissa and exponent

A double is read off its 64 bits: one sign bit, eleven exponent bits, fifty-two fraction bits.  A finite
one is `m * 2 ^ q` with `m < 2 ^ 53` and `q` at least `-1074`.  `Binary64.nearest` goes the other way: it
is the double nearest to a decimal `m * 10 ^ e`, or nothing if that lies beyond the largest finite double.
-/

namespace FlightRelay.Decimal

/-- What a double is, its sign aside. -/
inductive Magnitude where
  /-- The number `mantissa * 2 ^ exponent`. -/
  | finite (mantissa : Nat) (exponent : Int)
  | infinite
  | notANumber
  deriving Repr, DecidableEq

namespace Binary64

/-- Bits of the fraction field. -/
def fractionBits : Nat := 52

/-- Exponent of the smallest positive double. -/
def leastExponent : Int := -1074

/-- Largest exponent of a mantissa of 53 bits. -/
def greatestExponent : Int := 971

/-- Whether the sign bit is set; it is for `-0.0` too. -/
def isNegative (x : Float) : Bool :=
  Nat.pow 2 63 ≤ x.toBits.toNat

/-- The double without its sign. -/
def magnitude (x : Float) : Magnitude :=
  let bits := x.toBits.toNat
  let fraction := bits % Nat.pow 2 fractionBits
  let biased := bits / Nat.pow 2 fractionBits % 2048
  if biased = 2047 then
    if fraction = 0 then .infinite else .notANumber
  else if biased = 0 then .finite fraction leastExponent
  else .finite (Nat.pow 2 fractionBits + fraction) (leastExponent + (biased - 1))

/-! ## The nearest double -/

/-- `num / den` scaled by `2 ^ (-q)` and rounded, a half to even. -/
def scaledMantissa (num den : Nat) (q : Int) : Nat :=
  if 0 ≤ q then roundHalfEven num (den * Nat.pow 2 q.toNat)
  else roundHalfEven (num * Nat.pow 2 (-q).toNat) den

/-- Bits of the double nearest to `num / den`, sign aside; nothing if it is too large for a double. -/
def nearestBits (num den : Nat) : Option Nat :=
  if num = 0 then some 0
  else
    let top : Int := (num.log2 : Int) - den.log2
    let fits (q : Int) : Bool :=
      Nat.pow 2 fractionBits * den * Nat.pow 2 q.toNat ≤ num * Nat.pow 2 (-q).toNat
    let high := top - fractionBits
    let q := if fits high then high else high - 1
    let q := max q leastExponent
    let m := scaledMantissa num den q
    let bits :=
      if m < Nat.pow 2 fractionBits then m
      else (q - leastExponent).toNat * Nat.pow 2 fractionBits + m
    if bits < 2047 * Nat.pow 2 fractionBits then some bits else none

/-- Decimal exponent from which on every number is too large for a double. -/
def decimalCeiling : Int := 310

/-- Decimal exponent below which every number rounds to zero. -/
def decimalFloor : Int := -330

/-- The double nearest to `mantissa * 10 ^ exponent`, negated if asked; nothing beyond the doubles. -/
def nearest (negative : Bool) (mantissa : Nat) (exponent : Int) : Option Float :=
  let signBit := if negative then Nat.pow 2 63 else 0
  let digits : Int := (digitText mantissa).length
  let bits? : Option Nat :=
    if mantissa = 0 || exponent + digits < decimalFloor then some 0
    else if decimalCeiling < exponent + digits then none
    else if 0 ≤ exponent then nearestBits (mantissa * Nat.pow 10 exponent.toNat) 1
    else nearestBits mantissa (Nat.pow 10 (-exponent).toNat)
  bits?.map fun bits => Float.ofBits (bits + signBit).toUInt64

end Binary64

end FlightRelay.Decimal
