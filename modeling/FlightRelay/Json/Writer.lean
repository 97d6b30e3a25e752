import FlightRelay.Json.Value

/-!
# Writing JSON

The text of a value has no spaces and keeps the order of the members.  In a string only the quote, the
backslash and the control characters are escaped.  A double that is not finite is written as `null`.
-/

namespace FlightRelay.Json

/-- The hexadecimal digit of `n`, for `n` below sixteen. -/
def hexDigit (n : Nat) : Char :=
  (Nat.digitChar n).toLower

/-- A character as it stands in a JSON string. -/
def escapeChar (c : Char) : List Char :=
  if c = '"' then ['\\', '"']
  else if c = '\\' then ['\\', '\\']
  else if c = '\n' then ['\\', 'n']
  else if c = '\r' then ['\\', 'r']
  else if c = '\t' then ['\\', 't']
  else if c.toNat = 8 then ['\\', 'b']
  else if c.toNat = 12 then ['\\', 'f']
  else if c.toNat < 32 then
    ['\\', 'u', '0', '0', hexDigit (c.toNat / 16), hexDigit (c.toNat % 16)]
  else [c]

/-- A string in quotes. -/
def quote (s : String) : List Char :=
  '"' :: s.toList.flatMap escapeChar ++ ['"']

/-- Text of a number. -/
def Number.write : Number → List Char
  | .integer i => if i < 0 then '-' :: Decimal.digitText i.natAbs else Decimal.digitText i.natAbs
  | .real x =>
    match Decimal.Binary64.magnitude x with
    | .finite _ _ => (Decimal.Layout.write .interchange x).toList
    | _ => "null".toList

namespace Value

mutual

/-- Text of a value. -/
def chars : Value → List Char
  | .null => "null".toList
  | .bool true => "true".toList
  | .bool false => "false".toList
  | .number n => n.write
  | .string s => quote s
  | .array [] => ['[', ']']
  | .array (v :: vs) => '[' :: chars v ++ itemChars vs
  | .object [] => ['{', '}']
  | .object ((k, v) :: ms) => '{' :: quote k ++ ':' :: chars v ++ memberChars ms

/-- Text of the items after the first and the closing bracket. -/
def itemChars : List Value → List Char
  | [] => [']']
  | v :: vs => ',' :: chars v ++ itemChars vs

/-- Text of the members after the first and the closing brace. -/
def memberChars : List (String × Value) → List Char
  | [] => ['}']
  | (k, v) :: ms => ',' :: quote k ++ ':' :: chars v ++ memberChars ms

end

/-- Compact text of a value. -/
def write (v : Value) : String := String.ofList v.chars

end Value

end FlightRelay.Json
