import FlightRelay.Toml.Table

/-!
# Reading settings files

A settings file is a list of lines: blank ones, headers of tables, and keys with values.  `parse?` gives
the whole file as one value, or nothing if a line is no line or does not fit what stands before it.
-/

namespace FlightRelay.Toml

open Json (Value)

/-- How deeply arrays and inline tables may be nested. -/
def maxDepth : Nat := 79

/-- Greatest number of keys in a dotted key. -/
def maxKeys : Nat := 79

/-! ## Keys -/

/-- A character of a bare key. -/
def isKeyChar (c : Char) : Bool := c.isAlphanum || c = '_' || c = '-'

/-- One key, bare or quoted. -/
def simpleKey (cs : List Char) : Option (String × List Char) :=
  match cs with
  | '"' :: _ | '\'' :: _ => shortString cs
  | cs =>
    match cs.span isKeyChar with
    | ([], _) => none
    | (key, rest) => some (String.ofList key, rest)

/-- Keys with points between them, and blanks around each. -/
def dottedKey : Nat → List Char → Option (List String × List Char)
  | 0, _ => none
  | fuel + 1, cs => do
    let (key, cs) ← simpleKey (skipBlanks cs)
    match skipBlanks cs with
    | '.' :: rest => (dottedKey fuel rest).map fun (keys, rest) => (key :: keys, rest)
    | cs => some ([key], cs)

/-- A key as the path to its table and the last key. -/
def keyPath (cs : List Char) : Option ((List String × String) × List Char) := do
  let (keys, rest) ← dottedKey maxKeys cs
  let last ← keys.getLast?
  return ((keys.dropLast, last), rest)

/-! ## Values -/

/-- The items of an array and its closing bracket; `item` reads one. -/
def items (item : List Char → Option (Value × List Char)) :
    Nat → List Value → List Char → Option (List Value × List Char)
  | 0, _, _ => none
  | fuel + 1, done, cs =>
    match skipGap cs with
    | ']' :: rest => some (done.reverse, rest)
    | cs => do
      let (v, cs) ← item cs
      match skipGap cs with
      | ',' :: rest => items item fuel (v :: done) rest
      | ']' :: rest => some ((v :: done).reverse, rest)
      | _ => none

/-- The members of an inline table and its closing brace; `item` reads one value. -/
def inlineMembers (item : List Char → Option (Value × List Char)) :
    Nat → Entries → List Char → Option (Entries × List Char)
  | 0, _, _ => none
  | fuel + 1, entries, cs => do
    let ((path, key), cs) ← keyPath cs
    let (v, cs) ← item (skipBlanks (← char '=' cs))
    let entries ← assign key v path true entries
    match skipBlanks cs with
    | ',' :: rest => inlineMembers item fuel entries rest
    | '}' :: rest => some (entries, rest)
    | _ => none

/-- Any value, with so many more levels of nesting. -/
def value : Nat → List Char → Option (Value × List Char)
  | 0, cs => scalar cs
  | depth + 1, cs =>
    match cs with
    | '[' :: rest =>
      (items (value depth) (rest.length + 1) [] rest).map fun (vs, rest) => (.array vs, rest)
    | '{' :: rest =>
      match skipBlanks rest with
      | '}' :: rest => some (.object [], rest)
      | rest =>
        (inlineMembers (value depth) (rest.length + 1) [] rest).map fun (es, rest) =>
          (.object (entryValues es), rest)
    | cs => scalar cs

/-! ## Lines -/

/-- A table under construction: all tables, and the path of the header that was read last. -/
structure Draft where
  root : Entries
  current : List String

/-- The end of a line behind something: blanks, a comment, and the line end or the end of the text. -/
def lineEnd (cs : List Char) : Option (List Char) :=
  match skipComment (skipBlanks cs) with
  | [] => some []
  | cs => newline cs

/-- A header, without its opening bracket. -/
def header (d : Draft) (cs : List Char) : Option (Draft × List Char) :=
  match cs with
  | '[' :: cs => do
    let ((path, key), cs) ← keyPath cs
    let cs ← char ']' (← char ']' cs)
    let root ← below (openElement key) path d.root
    return (⟨root, path ++ [key]⟩, ← lineEnd cs)
  | cs => do
    let ((path, key), cs) ← keyPath cs
    let cs ← char ']' cs
    let root ← below (openTable key) path d.root
    return (⟨root, path ++ [key]⟩, ← lineEnd cs)

/-- A key with its value. -/
def setting (d : Draft) (cs : List Char) : Option (Draft × List Char) := do
  let ((path, key), cs) ← keyPath cs
  let (v, cs) ← value maxDepth (skipBlanks (← char '=' cs))
  let root ← below (assign key v path path.isEmpty) d.current d.root
  return ({ d with root }, ← lineEnd cs)

/-- All lines. -/
def lines : Nat → Draft → List Char → Option Draft
  | 0, _, _ => none
  | fuel + 1, d, cs =>
    match skipBlanks cs with
    | [] => some d
    | '#' :: rest => do lines fuel d (← lineEnd ('#' :: rest))
    | '[' :: rest => do
      let (d, rest) ← header d rest
      lines fuel d rest
    | cs =>
      match newline cs with
      | some rest => lines fuel d rest
      | none => do
        let (d, rest) ← setting d cs
        lines fuel d rest

/-- The value that a settings file denotes; a mark of the byte order at its start is skipped. -/
def parse? (text : String) : Option Value :=
  let cs :=
    match text.toList with
    | '\uFEFF' :: rest => rest
    | cs => cs
  (lines (cs.length + 1) ⟨[], []⟩ cs).map fun d => .object (entryValues d.root)

end FlightRelay.Toml
