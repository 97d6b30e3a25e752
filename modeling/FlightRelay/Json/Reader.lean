import FlightRelay.Json.Lexer

/-!
# Reading JSON

The grammar is a machine over tokens: a stack of the containers that are open and what may come next.
`parse?` runs it over the tokens of a text and accepts exactly one value.  Containers nested deeper than
`maxDepth` are refused.
-/

namespace FlightRelay.Json

/-- Deepest nesting of containers that is read. -/
def maxDepth : Nat := 127

namespace Reader

/-- A container that waits for a value: its items or members so far, last first. -/
inductive Frame where
  | array (done : List Value)
  | member (done : List (String × Value)) (key : String)

/-- What may come next. -/
inductive Expect where
  /-- A value. -/
  | value
  /-- The first item of the array on top, or its end. -/
  | firstItem
  /-- A comma or the end of the array on top. -/
  | afterItem
  /-- The first key of an object, or its end. -/
  | firstKey
  /-- A key, after a comma. -/
  | key (done : List (String × Value))
  /-- The colon after a key. -/
  | colon (done : List (String × Value)) (key : String)
  /-- A comma or the end of an object. -/
  | afterMember (done : List (String × Value))
  /-- Nothing: the value is complete. -/
  | finished (v : Value)

/-- Open containers, innermost first, and what may come next. -/
structure State where
  stack : List Frame
  expect : Expect

/-- The machine before the first token. -/
def State.init : State := ⟨[], .value⟩

/-- Hands a complete value to the innermost container. -/
def deliver (v : Value) : List Frame → State
  | [] => ⟨[], .finished v⟩
  | .array done :: stack => ⟨.array (v :: done) :: stack, .afterItem⟩
  | .member done key :: stack => ⟨stack, .afterMember ((key, v) :: done)⟩

/-- Starts the value that a token begins. -/
def open? (stack : List Frame) : Token → Option State
  | .null => some (deliver .null stack)
  | .bool b => some (deliver (.bool b) stack)
  | .number n => some (deliver (.number n) stack)
  | .string s => some (deliver (.string s) stack)
  | .openBracket =>
    if stack.length < maxDepth then some ⟨.array [] :: stack, .firstItem⟩ else none
  | .openBrace =>
    if stack.length < maxDepth then some ⟨stack, .firstKey⟩ else none
  | _ => none

/-- Closes the array on top. -/
def closeArray? : List Frame → Option State
  | .array done :: stack => some (deliver (.array done.reverse) stack)
  | _ => none

/-- One token. -/
def step (s : State) (t : Token) : Option State :=
  match s.expect, t with
  | .value, t => open? s.stack t
  | .firstItem, .closeBracket => closeArray? s.stack
  | .firstItem, t => open? s.stack t
  | .afterItem, .comma => some { s with expect := .value }
  | .afterItem, .closeBracket => closeArray? s.stack
  | .firstKey, .closeBrace => some (deliver (.object []) s.stack)
  | .firstKey, .string k => some { s with expect := .colon [] k }
  | .key done, .string k => some { s with expect := .colon done k }
  | .colon done k, .colon => some ⟨.member done k :: s.stack, .value⟩
  | .afterMember done, .comma => some { s with expect := .key done }
  | .afterMember done, .closeBrace => some (deliver (.object done.reverse) s.stack)
  | _, _ => none

/-- The value, if it is complete. -/
def State.finish (s : State) : Option Value :=
  match s.expect with
  | .finished v => some v
  | _ => none

end Reader

/-- The value that a list of tokens spells. -/
def ofTokens? (ts : List Token) : Option Value := do
  let s ← ts.foldlM Reader.step Reader.State.init
  s.finish

/-- The one value that a text consists of. -/
def parse? (text : String) : Option Value := do
  ofTokens? (← tokens? text.toList)

/-- The one value that bytes consist of; bytes that are no UTF-8 are no value. -/
def parseBytes? (bytes : ByteArray) : Option Value := do
  parse? (← String.fromUTF8? bytes)

end FlightRelay.Json
