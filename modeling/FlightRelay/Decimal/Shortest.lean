import FlightRelay.Decimal.Binary64

/-!
# Shortest decimals

A positive double is the nearest double of a whole interval of numbers.  `shortest` finds the decimal
with the fewest digits in that interval, and of those the one nearest to the double itself.
-/

namespace FlightRelay.Decimal

/-- The decimal `digits * 10 ^ exponent`. -/
structure Numeral where
  digits : Nat
  exponent : Int
  deriving Repr, DecidableEq

/-- Moves zeros at the end of the digits into the exponent; at most `fuel` of them. -/
def Numeral.trim : Nat → Numeral → Numeral
  | 0, d => d
  | fuel + 1, d =>
    if d.digits ≠ 0 && d.digits % 10 = 0 then
      Numeral.trim fuel ⟨d.digits / 10, d.exponent + 1⟩
    else d

/-- The numbers that read back as one double: everything between `low / den` and `high / den`, with the
ends exactly when `closed`.  The double itself is `value / den`. -/
structure ReadInterval where
  low : Nat
  value : Nat
  high : Nat
  den : Nat
  closed : Bool
  deriving Repr

namespace ReadInterval

/-- The interval of the double `m * 2 ^ q`.  Just above a power of two the doubles below are twice as
close as those above. -/
def ofFinite (m : Nat) (q : Int) : ReadInterval :=
  let scale := if 2 ≤ q then Nat.pow 2 (q - 2).toNat else 1
  let den := if 2 ≤ q then 1 else Nat.pow 2 (2 - q).toNat
  let below := if m = Nat.pow 2 Binary64.fractionBits && Binary64.leastExponent < q then 1 else 2
  { low := (4 * m - below) * scale
    value := 4 * m * scale
    high := (4 * m + 2) * scale
    den := den
    closed := m % 2 = 0 }

/-- Whether `num / den'`, given as `num * den` against `bound * den'`, lies in the interval. -/
def contains (i : ReadInterval) (num den' : Nat) : Bool :=
  let x := num * i.den
  if i.closed then i.low * den' ≤ x && x ≤ i.high * den'
  else i.low * den' < x && x < i.high * den'

/-- The best point of the grid of multiples of `10 ^ k` in the interval, if one of the two neighbours of
the double is in it. -/
def onGrid (i : ReadInterval) (k : Int) : Option Nat :=
  let up := if 0 ≤ k then Nat.pow 10 k.toNat else 1
  let down := if 0 ≤ k then 1 else Nat.pow 10 (-k).toNat
  let below := i.value * down / (i.den * up)
  let inside (d : Nat) : Bool := d ≠ 0 && i.contains (d * up) down
  match inside below, inside (below + 1) with
  | true, true => some (roundHalfEven (i.value * down) (i.den * up))
  | true, false => some below
  | false, true => some (below + 1)
  | false, false => none

/-- The first grid with a hit, from `10 ^ k` down through `fuel` finer ones. -/
def search (i : ReadInterval) : Nat → Int → Option Numeral
  | 0, _ => none
  | fuel + 1, k =>
    match i.onGrid k with
    | some d => some ⟨d, k⟩
    | none => search i fuel (k - 1)

/-- A decimal exponent not below that of the double. -/
def topExponent (i : ReadInterval) : Int :=
  let bits : Int := (i.value.log2 : Int) - i.den.log2 + 1
  if 0 ≤ bits then bits * 30103 / 100000 + 1 else bits * 30102 / 100000 + 1

end ReadInterval

/-- The shortest decimal that reads back as the double `m * 2 ^ q`. -/
def shortest (m : Nat) (q : Int) : Numeral :=
  if m = 0 then ⟨0, 0⟩
  else
    let i := ReadInterval.ofFinite m q
    match i.search 24 i.topExponent with
    | some d => d.trim 24
    | none => ⟨m, 0⟩

end FlightRelay.Decimal
