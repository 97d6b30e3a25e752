import FlightRelay.Json.Lexer

/-!
# The scalars of settings files

Settings files are written in TOML.  Every reader here takes what it needs from the start of a text and
hands back the rest; it fails where the text does not start with what it reads.  A date becomes a record
without any field that settings have, so that no single setting can be read from it.
-/

namespace FlightRelay.Toml

open Json (Value Number)

/-! ## Blanks -/

/-- A blank within a line. -/
def isBlank (c : Char) : Bool := c = ' ' || c = '\t'

/-- Skips blanks within a line. -/
def skipBlanks (cs : List Char) : List Char := cs.dropWhile isBlank

/-- A character that may stand in a comment or, quotes and backslashes apart, in a string. -/
def isText (c : Char) : Bool := c = '\t' || (' ' ≤ c && c ≠ '\x7f')

/-- The end of a line. -/
def newline : List Char → Option (List Char)
  | '\n' :: rest => some rest
  | '\r' :: '\n' :: rest => some rest
  | _ => none

/-- Skips a comment, if there is one; the end of the line stays. -/
def skipComment : List Char → List Char
  | '#' :: rest => rest.dropWhile isText
  | cs => cs

/-- Skips blanks, comments and ends of lines; a comment ends with its line. -/
def skipLines : Nat → List Char → List Char
  | 0, cs => cs
  | fuel + 1, cs =>
    let cs := skipBlanks cs
    match cs with
    | '#' :: _ =>
      match newline (skipComment cs) with
      | some rest => skipLines fuel rest
      | none => cs
    | cs =>
      match newline cs with
      | some rest => skipLines fuel rest
      | none => cs

/-- Skips everything that may stand between two items of an array. -/
def skipGap (cs : List Char) : List Char := skipLines (cs.length + 1) cs

/-! ## Strings -/

/-- A character that is written by so many hexadecimal digits. -/
def codePoint (digits : Nat) (cs : List Char) : Option (Char × List Char) := do
  let ds ← (cs.take digits).mapM Json.Lexer.hexValue?
  if ds.length ≠ digits then none
  else
    let n := ds.foldl (fun n d => 16 * n + d) 0
    if n.isValidChar then some (Char.ofNat n, cs.drop digits) else none

/-- What stands behind a backslash. -/
def escaped : List Char → Option (Char × List Char)
  | 'b' :: rest => some (Char.ofNat 8, rest)
  | 't' :: rest => some ('\t', rest)
  | 'n' :: rest => some ('\n', rest)
  | 'f' :: rest => some (Char.ofNat 12, rest)
  | 'r' :: rest => some ('\r', rest)
  | '"' :: rest => some ('"', rest)
  | '\\' :: rest => some ('\\', rest)
  | 'u' :: rest => codePoint 4 rest
  | 'U' :: rest => codePoint 8 rest
  | _ => none

/-- The rest of a string on one line; `quote` ends it, and only a basic string knows escapes. -/
def lineString (quote : Char) (basic : Bool) :
    Nat → List Char → List Char → Option (List Char × List Char)
  | 0, _, _ => none
  | fuel + 1, done, cs =>
    match cs with
    | [] => none
    | c :: rest =>
      if c = quote then some (done.reverse, rest)
      else if basic && c = '\\' then do
        let (c, rest) ← escaped rest
        lineString quote basic fuel (c :: done) rest
      else if isText c then lineString quote basic fuel (c :: done) rest
      else none

/-- Skips blanks and ends of lines. -/
def skipSpace : Nat → List Char → List Char
  | 0, cs => cs
  | fuel + 1, cs =>
    let cs := skipBlanks cs
    match newline cs with
    | some rest => skipSpace fuel rest
    | none => cs

/-- The rest of a string of several lines.  Three quotes end it, and one or two more just before them
belong to the string; a backslash at the end of a line skips to the next text. -/
def blockString (quote : Char) (basic : Bool) :
    Nat → List Char → List Char → Option (List Char × List Char)
  | 0, _, _ => none
  | fuel + 1, done, cs =>
    match cs with
    | [] => none
    | c :: rest =>
      if c = quote then
        let run := (cs.takeWhile (· = quote)).length
        if 3 ≤ run then
          let extra := min (run - 3) 2
          some ((List.replicate extra quote ++ done).reverse, cs.drop (extra + 3))
        else blockString quote basic fuel (c :: done) rest
      else if basic && c = '\\' then
        match newline (skipBlanks rest) with
        | some next => blockString quote basic fuel done (skipSpace (next.length + 1) next)
        | none => do
          let (c, rest) ← escaped rest
          blockString quote basic fuel (c :: done) rest
      else
        match newline cs with
        | some rest => blockString quote basic fuel ('\n' :: done) rest
        | none => if isText c then blockString quote basic fuel (c :: done) rest else none

/-- A string on one line. -/
def shortString : List Char → Option (String × List Char)
  | '"' :: rest =>
    (lineString '"' true (rest.length + 1) [] rest).map fun (s, rest) => (String.ofList s, rest)
  | '\'' :: rest =>
    (lineString '\'' false (rest.length + 1) [] rest).map fun (s, rest) => (String.ofList s, rest)
  | _ => none

/-- A string of several lines, without the line end just behind its opening quotes. -/
def longString (quote : Char) (cs : List Char) : Option (String × List Char) :=
  let body := (newline cs).getD cs
  (blockString quote (quote = '"') (body.length + 1) [] body).map fun (s, rest) =>
    (String.ofList s, rest)

/-- Any string. -/
def string : List Char → Option (String × List Char)
  | '"' :: '"' :: '"' :: rest => longString '"' rest
  | '\'' :: '\'' :: '\'' :: rest => longString '\'' rest
  | cs => shortString cs

/-! ## Numbers -/

/-- Further digits, each behind at most one underscore. -/
def moreDigits (isDigit : Char → Bool) : List Char → Option (List Char × List Char)
  | '_' :: d :: rest =>
    if isDigit d then (moreDigits isDigit rest).map fun (ds, rest) => (d :: ds, rest) else none
  | ['_'] => none
  | d :: rest =>
    if isDigit d then (moreDigits isDigit rest).map fun (ds, rest) => (d :: ds, rest)
    else some ([], d :: rest)
  | [] => some ([], [])

/-- Digits with single underscores between them. -/
def digits (isDigit : Char → Bool) : List Char → Option (List Char × List Char)
  | [] => none
  | c :: rest =>
    if isDigit c then (moreDigits isDigit rest).map fun (ds, rest) => (c :: ds, rest) else none

/-- A sign, if there is one: the number is negative. -/
def sign : List Char → Bool × List Char
  | '+' :: rest => (false, rest)
  | '-' :: rest => (true, rest)
  | cs => (false, cs)

/-- The digits of a whole number: a single zero, or digits that do not start with one. -/
def wholeDigits : List Char → Option (List Char × List Char)
  | '0' :: rest => some (['0'], rest)
  | cs => digits Char.isDigit cs

/-- A point and digits, if there is a point. -/
def fraction : List Char → Option (List Char × List Char)
  | '.' :: rest => (digits Char.isDigit rest).map fun (ds, rest) => ('.' :: ds, rest)
  | cs => some ([], cs)

/-- An exponent, if there is one. -/
def exponent : List Char → Option (List Char × List Char)
  | c :: rest =>
    if c = 'e' || c = 'E' then
      let (negative, rest) := sign rest
      (digits Char.isDigit rest).map fun (ds, rest) =>
        ('e' :: (if negative then '-' :: ds else ds), rest)
    else some ([], c :: rest)
  | [] => some ([], [])

/-- A whole number of 64 bits with a sign. -/
def integer? (i : Int) : Option Value :=
  if -(Int.pow 2 63) ≤ i && i < Int.pow 2 63 then some (.number (.integer i)) else none

/-- The double nearest to a literal; too small a number becomes minus infinity, too great a one is
refused. -/
def float? (negative : Bool) (literal : List Char) : Option Value := do
  let l ← Number.Literal.ofChars? literal
  match ({ l with negative }).nearest with
  | some x => return .number (.real x)
  | none => if negative then return .number (.real (-1.0 / 0.0)) else none

/-- The value of digits in a base. -/
def ofDigits (base : Nat) (ds : List Char) : Nat :=
  (ds.filterMap Json.Lexer.hexValue?).foldl (fun n d => base * n + d) 0

/-- A whole number in another base than ten. -/
def based (base : Nat) (cs : List Char) : Option (Value × List Char) := do
  let isDigit (c : Char) : Bool := (Json.Lexer.hexValue? c).any (· < base)
  let (ds, rest) ← digits isDigit cs
  let v ← integer? (ofDigits base ds)
  return (v, rest)

/-- Infinity and what is no number. -/
def special (negative : Bool) : List Char → Option (Value × List Char)
  | 'i' :: 'n' :: 'f' :: rest =>
    some (.number (.real (if negative then -1.0 / 0.0 else 1.0 / 0.0)), rest)
  | 'n' :: 'a' :: 'n' :: rest => some (.number (.real (0.0 / 0.0)), rest)
  | _ => none

/-- A number in base ten. -/
def decimal (cs : List Char) : Option (Value × List Char) := do
  let (negative, cs) := sign cs
  match special negative cs with
  | some v => return v
  | none =>
    let (whole, cs) ← wholeDigits cs
    let (point, cs) ← fraction cs
    let (power, cs) ← exponent cs
    if point = [] && power = [] then
      let n : Int := ofDigits 10 whole
      let v ← integer? (if negative then -n else n)
      return (v, cs)
    else
      let v ← float? negative (whole ++ point ++ power)
      return (v, cs)

/-- Any number. -/
def number : List Char → Option (Value × List Char)
  | '0' :: 'x' :: rest => based 16 rest
  | '0' :: 'o' :: rest => based 8 rest
  | '0' :: 'b' :: rest => based 2 rest
  | cs => decimal cs

/-! ## Dates -/

/-- A number of exactly so many digits, from `least` to `greatest`. -/
def field (width least greatest : Nat) (cs : List Char) : Option (Nat × List Char) :=
  let ds := cs.take width
  let n := ofDigits 10 ds
  if ds.length = width && ds.all Char.isDigit && least ≤ n && n ≤ greatest then
    some (n, cs.drop width)
  else none

/-- One given character. -/
def char (c : Char) : List Char → Option (List Char)
  | d :: rest => if c = d then some rest else none
  | [] => none

/-- How many days a month has. -/
def daysOf (year month : Nat) : Nat :=
  let leap := year % 4 = 0 && (year % 100 ≠ 0 || year % 400 = 0)
  if month = 2 then if leap then 29 else 28
  else if [4, 6, 9, 11].contains month then 30
  else 31

/-- A day. -/
def day (cs : List Char) : Option (List Char) := do
  let (year, cs) ← field 4 0 9999 cs
  let (month, cs) ← field 2 1 12 (← char '-' cs)
  let (_, cs) ← field 2 1 (daysOf year month) (← char '-' cs)
  return cs

/-- A fraction of a second, if there is one. -/
def secondFraction : List Char → List Char
  | '.' :: d :: rest => if d.isDigit then rest.dropWhile Char.isDigit else '.' :: d :: rest
  | cs => cs

/-- A time of day. -/
def time (cs : List Char) : Option (List Char) := do
  let (_, cs) ← field 2 0 23 cs
  let (_, cs) ← field 2 0 59 (← char ':' cs)
  let (_, cs) ← field 2 0 60 (← char ':' cs)
  return secondFraction cs

/-- A distance from universal time, if there is one. -/
def zone (cs : List Char) : Option (List Char) :=
  match cs with
  | 'Z' :: rest | 'z' :: rest => some rest
  | '+' :: rest | '-' :: rest => do
    let (_, cs) ← field 2 0 23 rest
    let (_, cs) ← field 2 0 59 (← char ':' cs)
    return cs
  | cs => some cs

/-- The time of day behind a day, if there is one. -/
def timeBehind (cs : List Char) : Option (List Char) :=
  match cs with
  | c :: rest =>
    if c = 'T' || c = 't' || c = ' ' then
      match time rest with
      | some rest => zone rest
      | none => some cs
    else some cs
  | [] => some []

/-- What a date becomes. -/
def dateValue : Value := .object [("$date", .null)]

/-- A day, a time of day, or both. -/
def date (cs : List Char) : Option (Value × List Char) :=
  match day cs with
  | some rest => (timeBehind rest).map fun rest => (dateValue, rest)
  | none => (time cs).map fun rest => (dateValue, rest)

/-! ## Any scalar -/

/-- A word that must stand at the start. -/
def word (w : List Char) (v : Value) (cs : List Char) : Option (Value × List Char) :=
  if cs.take w.length = w then some (v, cs.drop w.length) else none

/-- Any value that holds no other. -/
def scalar (cs : List Char) : Option (Value × List Char) :=
  match cs with
  | [] => none
  | c :: _ =>
    if c = '"' || c = '\'' then (string cs).map fun (s, rest) => (.string s, rest)
    else if c = 't' then word ['t', 'r', 'u', 'e'] (.bool true) cs
    else if c = 'f' then word ['f', 'a', 'l', 's', 'e'] (.bool false) cs
    else if c = 'i' || c = 'n' then special false cs
    else if c = '+' || c = '-' || c.isDigit then (date cs).or (number cs)
    else none

end FlightRelay.Toml
