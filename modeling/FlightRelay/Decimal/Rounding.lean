/-!
# Rounding a quotient

Decimals and doubles meet in one step: a quotient of natural numbers
is replaced by a natural number next to it.  `roundHalfEven` takes the nearest one, and of two equally
near the even one.
-/

namespace FlightRelay.Decimal

/-- The natural number nearest to `num / den`; a half goes to the even neighbour. -/
def roundHalfEven (num den : Nat) : Nat :=
  let q := num / den
  let rest := 2 * (num % den)
  if rest < den then q
  else if den < rest then q + 1
  else if q % 2 = 0 then q
  else q + 1

/-- The decimal digits of `n`, most significant first. -/
def digitText (n : Nat) : List Char :=
  Nat.toDigits 10 n

/-- The decimal digits of `n`, filled with zeros on the left up to `width` places. -/
def paddedDigitText (width n : Nat) : List Char :=
  let ds := digitText n
  List.replicate (width - ds.length) '0' ++ ds

/-- The number that a list of decimal digits denotes. -/
def ofDigits (cs : List Char) : Nat :=
  cs.foldl (fun n c => 10 * n + (c.toNat - '0'.toNat)) 0

end FlightRelay.Decimal
