import FlightRelay.Json.Value

/-!
# The tokens of a JSON text

The lexer reads one character at a time and holds what it has seen of the token it is in.  A token ends
where a character comes that cannot belong to it; two values side by side are refused later, by the
grammar.  `tokens?` is the fold of `Lexer.step` over the text.
-/

namespace FlightRelay.Json

/-- A token of JSON. -/
inductive Token where
  | openBrace
  | closeBrace
  | openBracket
  | closeBracket
  | colon
  | comma
  | null
  | bool (b : Bool)
  | number (n : Number)
  | string (s : String)

namespace Lexer

/-- What is still to come of an escape in a string. -/
inductive Escape where
  /-- Outside an escape. -/
  | none
  /-- Just after the backslash. -/
  | started
  /-- After `\u`, with `left` hexadecimal digits to come. -/
  | unit (left : Nat) (value : Nat)

/-- Where the lexer stands. -/
inductive Position where
  | between
  /-- In a string: characters so far, last first, a leading surrogate that waits for its other half, and
  the escape in progress. -/
  | inString (done : List Char) (high : Option Nat) (escape : Escape)
  /-- In a number: characters so far, last first. -/
  | inNumber (done : List Char)
  /-- In a word: characters so far, last first. -/
  | inWord (done : List Char)

/-- Where the lexer stands and the tokens behind it, last first. -/
structure State where
  position : Position
  done : List Token

/-- The lexer before the text. -/
def State.init : State := ⟨.between, []⟩

/-- The four blanks of JSON. -/
def isBlank (c : Char) : Bool :=
  c = ' ' || c = '\t' || c = '\n' || c = '\r'

/-- Characters of number literals. -/
def isNumberChar (c : Char) : Bool :=
  c.isDigit || c = '-' || c = '+' || c = '.' || c = 'e' || c = 'E'

/-- The word as a token. -/
def word? (cs : List Char) : Option Token :=
  if cs = "null".toList then some .null
  else if cs = "true".toList then some (.bool true)
  else if cs = "false".toList then some (.bool false)
  else none

/-- The tokens once the token in progress has ended; a string ends at its quote only. -/
def State.settle (s : State) : Option (List Token) :=
  match s.position with
  | .between => some s.done
  | .inString _ _ _ => none
  | .inNumber cs => (Number.ofLiteral? cs.reverse).map fun n => .number n :: s.done
  | .inWord cs => (word? cs.reverse).map fun t => t :: s.done

/-- Starts the token that `c` belongs to, after the tokens `done`. -/
def start (done : List Token) (c : Char) : Option State :=
  if isBlank c then some ⟨.between, done⟩
  else if c = '{' then some ⟨.between, .openBrace :: done⟩
  else if c = '}' then some ⟨.between, .closeBrace :: done⟩
  else if c = '[' then some ⟨.between, .openBracket :: done⟩
  else if c = ']' then some ⟨.between, .closeBracket :: done⟩
  else if c = ':' then some ⟨.between, .colon :: done⟩
  else if c = ',' then some ⟨.between, .comma :: done⟩
  else if c = '"' then some ⟨.inString [] none .none, done⟩
  else if c.isDigit || c = '-' then some ⟨.inNumber [c], done⟩
  else if c.isAlpha then some ⟨.inWord [c], done⟩
  else none

/-- The character behind a one-letter escape. -/
def shortEscape? (c : Char) : Option Char :=
  if c = '"' || c = '\\' || c = '/' then some c
  else if c = 'b' then some (Char.ofNat 8)
  else if c = 'f' then some (Char.ofNat 12)
  else if c = 'n' then some '\n'
  else if c = 'r' then some '\r'
  else if c = 't' then some '\t'
  else none

/-- The value of a hexadecimal digit. -/
def hexValue? (c : Char) : Option Nat :=
  if c.isDigit then some (c.toNat - '0'.toNat)
  else if 'a' ≤ c && c ≤ 'f' then some (c.toNat - 'a'.toNat + 10)
  else if 'A' ≤ c && c ≤ 'F' then some (c.toNat - 'A'.toNat + 10)
  else none

/-- Takes in a finished `\u` escape: a leading surrogate waits, a trailing one completes it, and either
alone is refused. -/
def closeUnit (done : List Char) (high : Option Nat) (unit : Nat) : Option Position :=
  match high with
  | some h =>
    if 0xDC00 ≤ unit && unit ≤ 0xDFFF then
      let c := Char.ofNat (0x10000 + (h - 0xD800) * 0x400 + (unit - 0xDC00))
      some (.inString (c :: done) none .none)
    else none
  | none =>
    if 0xD800 ≤ unit && unit ≤ 0xDBFF then some (.inString done (some unit) .none)
    else if 0xDC00 ≤ unit && unit ≤ 0xDFFF then none
    else some (.inString (Char.ofNat unit :: done) none .none)

/-- One character inside a string. -/
def stepString (tokens : List Token) (done : List Char) (high : Option Nat) (escape : Escape)
    (c : Char) : Option State :=
  match escape with
  | .none =>
    if c = '\\' then some ⟨.inString done high .started, tokens⟩
    else if high.isSome then none
    else if c = '"' then some ⟨.between, .string (String.ofList done.reverse) :: tokens⟩
    else if c.toNat < 32 then none
    else some ⟨.inString (c :: done) none .none, tokens⟩
  | .started =>
    if c = 'u' then some ⟨.inString done high (.unit 4 0), tokens⟩
    else if high.isSome then none
    else (shortEscape? c).map fun c => ⟨.inString (c :: done) none .none, tokens⟩
  | .unit left value => do
    let d ← hexValue? c
    let value := 16 * value + d
    if 1 < left then return ⟨.inString done high (.unit (left - 1) value), tokens⟩
    else return ⟨← closeUnit done high value, tokens⟩

/-- One character. -/
def step (s : State) (c : Char) : Option State :=
  match s.position with
  | .inString done high escape => stepString s.done done high escape c
  | .inNumber cs =>
    if isNumberChar c then some { s with position := .inNumber (c :: cs) }
    else s.settle.bind fun done => start done c
  | .inWord cs =>
    if c.isAlpha then some { s with position := .inWord (c :: cs) }
    else s.settle.bind fun done => start done c
  | .between => start s.done c

end Lexer

/-- The tokens of a text. -/
def tokens? (text : List Char) : Option (List Token) := do
  let s ← text.foldlM Lexer.step Lexer.State.init
  return (← s.settle).reverse

end FlightRelay.Json
