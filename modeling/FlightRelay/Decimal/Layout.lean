import FlightRelay.Decimal.Shortest

/-!
# Decimals as text

The digits of a double are fixed by `shortest`; a `Layout` says how they are set: which exponents are
written positionally, whether a whole number keeps a `.0`, and how the others look.
-/

namespace FlightRelay.Decimal

/-- How the digits of a double are set as text. -/
structure Layout where
  /-- Least exponent of the leading digit that is written positionally, if there is a least one. -/
  positionalFrom : Option Int
  /-- Greatest exponent of the leading digit that is written positionally, if there is a greatest one. -/
  positionalTo : Option Int
  /-- Whole numbers end in `.0`. -/
  keepsPoint : Bool
  deriving Repr, DecidableEq

namespace Layout

/-- Positional text of `digits * 10 ^ exponent`. -/
def positional (l : Layout) (d : Numeral) : List Char :=
  let ds := digitText d.digits
  if 0 ≤ d.exponent then
    ds ++ List.replicate d.exponent.toNat '0' ++ (if l.keepsPoint then ['.', '0'] else [])
  else
    let places := (-d.exponent).toNat
    if ds.length ≤ places then
      '0' :: '.' :: List.replicate (places - ds.length) '0' ++ ds
    else
      ds.take (ds.length - places) ++ '.' :: ds.drop (ds.length - places)

/-- One digit, a point, the other digits, and the exponent with its sign. -/
def scientific (d : Numeral) (leading : Int) : List Char :=
  let point : List Char → List Char
    | c :: rest@(_ :: _) => c :: '.' :: rest
    | cs => cs
  let sign := if 0 ≤ leading then '+' else '-'
  point (digitText d.digits) ++ 'e' :: sign :: digitText leading.natAbs

/-- Text of a finite number without its sign. -/
def unsigned (l : Layout) (d : Numeral) : List Char :=
  let leading : Int := d.exponent + (digitText d.digits).length - 1
  let inside := l.positionalFrom.all (· ≤ leading) && l.positionalTo.all (leading ≤ ·)
  if inside then l.positional d else scientific d leading

/-- Text of a double; one that is not finite is spelt out. -/
def write (l : Layout) (x : Float) : String :=
  let sign : List Char := if Binary64.isNegative x then ['-'] else []
  match Binary64.magnitude x with
  | .notANumber => "NaN"
  | .infinite => String.ofList (sign ++ ['i', 'n', 'f'])
  | .finite m q => String.ofList (sign ++ l.unsigned (shortest m q))

/-- Leading digits from `10 ^ -5` to `10 ^ 15` are set positionally and a whole number keeps its point. -/
def interchange : Layout := ⟨some (-5), some 15, true⟩

/-- Always positional, and a whole number has no point. -/
def plain : Layout := ⟨none, none, false⟩

end Layout

end FlightRelay.Decimal
