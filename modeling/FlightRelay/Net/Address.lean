import FlightRelay.Decimal.Rounding

/-!
# Internet addresses

Addresses and sockets as text: four decimal octets without leading zeros, or eight hexadecimal groups of
which one run of zeros may be left out and the last two may be written as octets.  Written, an address
of the second kind leaves out its first longest run of at least two zeros.
-/

namespace FlightRelay.Net

/-- An internet address. -/
inductive Address where
  | v4 (bits : BitVec 32)
  | v6 (bits : BitVec 128)
  deriving DecidableEq, Repr

/-- An address and a port; an address of the second kind may carry a scope. -/
structure Socket where
  address : Address
  port : UInt16
  scope : UInt32
  deriving DecidableEq, Repr

/-! ## Writing -/

/-- The four octets of an address of 32 bits. -/
def octets (bits : BitVec 32) : List Nat :=
  [24, 16, 8, 0].map fun shift => bits.toNat / Nat.pow 2 shift % 256

/-- The eight groups of an address of 128 bits. -/
def groups (bits : BitVec 128) : List Nat :=
  [112, 96, 80, 64, 48, 32, 16, 0].map fun shift => bits.toNat / Nat.pow 2 shift % 65536

/-- Octets with points between them. -/
def octetText (bits : BitVec 32) : String :=
  ".".intercalate ((octets bits).map toString)

/-- Groups with colons between them. -/
def groupText (gs : List Nat) : String :=
  ":".intercalate (gs.map fun g => String.ofList (Nat.toDigits 16 g))

/-- The first longest run of zeros: where it starts and how long it is. -/
def longestZeroRun (gs : List Nat) : Nat × Nat :=
  let runs := (List.range gs.length).map fun i => (i, ((gs.drop i).takeWhile (· = 0)).length)
  runs.foldl (fun best run => if best.2 < run.2 then run else best) (0, 0)

/-- Text of an address. -/
def Address.text : Address → String
  | .v4 bits => octetText bits
  | .v6 bits =>
    let gs := groups bits
    if gs.take 6 = [0, 0, 0, 0, 0, 0xFFFF] then
      "::ffff:" ++ octetText (bits.setWidth 32)
    else
      let (start, length) := longestZeroRun gs
      if 1 < length then groupText (gs.take start) ++ "::" ++ groupText (gs.drop (start + length))
      else groupText gs

/-- Text of a socket. -/
def Socket.text (s : Socket) : String :=
  let port := toString s.port.toNat
  match s.address with
  | .v4 _ => s.address.text ++ ":" ++ port
  | .v6 _ =>
    let scope := if s.scope = 0 then "" else "%" ++ toString s.scope.toNat
    "[" ++ s.address.text ++ scope ++ "]:" ++ port

/-! ## Reading

Each reader takes what it needs from the start of a text and hands back the rest. -/

/-- The value of a digit in a base of at most sixteen. -/
def digitValue? (base : Nat) (c : Char) : Option Nat :=
  let v :=
    if c.isDigit then c.toNat - '0'.toNat
    else if 'a' ≤ c && c ≤ 'f' then c.toNat - 'a'.toNat + 10
    else if 'A' ≤ c && c ≤ 'F' then c.toNat - 'A'.toNat + 10
    else base
  if v < base then some v else none

/-- A number of at least one digit, of at most `places` if that is bounded, and below `limit`. -/
def readNumber (base limit : Nat) (places : Option Nat) (leadingZero : Bool) (cs : List Char) :
    Option (Nat × List Char) :=
  let (ds, rest) := cs.span fun c => (digitValue? base c).isSome
  let n := (ds.filterMap (digitValue? base)).foldl (fun n d => base * n + d) 0
  let short := places.all fun p => ds.length ≤ p
  let plain := leadingZero || ds.length ≤ 1 || ds.head? ≠ some '0'
  if ds ≠ [] && short && plain && n < limit then some (n, rest) else none

/-- One given character. -/
def readChar (c : Char) : List Char → Option (List Char)
  | d :: rest => if c = d then some rest else none
  | [] => none

/-- An address of four octets. -/
def readV4 (cs : List Char) : Option (BitVec 32 × List Char) := do
  let octet := readNumber 10 256 (some 3) false
  let (a, cs) ← octet cs
  let (b, cs) ← octet (← readChar '.' cs)
  let (c, cs) ← octet (← readChar '.' cs)
  let (d, cs) ← octet (← readChar '.' cs)
  return (BitVec.ofNat 32 (((a * 256 + b) * 256 + c) * 256 + d), cs)

/-- What a list of groups consists of: the groups, and whether the last two were written as octets. -/
structure GroupList where
  groups : List Nat
  endsInOctets : Bool

/-- Up to `room` groups with colons between them; `first` when no group stands before. -/
def readGroups : Nat → Bool → List Char → GroupList × List Char
  | 0, _, cs => (⟨[], false⟩, cs)
  | room + 1, first, cs =>
    let inner := if first then some cs else readChar ':' cs
    let octets := if 1 ≤ room then inner.bind readV4 else none
    match octets with
    | some (bits, rest) =>
      (⟨[bits.toNat / 65536, bits.toNat % 65536], true⟩, rest)
    | none =>
      match inner.bind (readNumber 16 65536 (some 4) true) with
      | some (g, rest) =>
        let (more, rest) := readGroups room false rest
        ({ more with groups := g :: more.groups }, rest)
      | none => (⟨[], false⟩, cs)

/-- The address of eight groups. -/
def ofGroups (gs : List Nat) : BitVec 128 :=
  BitVec.ofNat 128 (gs.foldl (fun n g => n * 65536 + g) 0)

/-- An address of eight groups. -/
def readV6 (cs : List Char) : Option (BitVec 128 × List Char) := do
  let (head, cs) := readGroups 8 true cs
  if head.groups.length = 8 then
    return (ofGroups head.groups, cs)
  else if head.endsInOctets then
    failure
  else
    let cs ← readChar ':' cs
    let cs ← readChar ':' cs
    let (tail, cs) := readGroups (7 - head.groups.length) true cs
    let gap := 8 - head.groups.length - tail.groups.length
    return (ofGroups (head.groups ++ List.replicate gap 0 ++ tail.groups), cs)

/-- Accepts a reading that leaves nothing over. -/
def complete {α : Type} : Option (α × List Char) → Option α
  | some (a, []) => some a
  | _ => none

/-- The address that a text spells. -/
def Address.ofText? (s : String) : Option Address :=
  match complete (readV4 s.toList) with
  | some bits => some (.v4 bits)
  | none => (complete (readV6 s.toList)).map .v6

/-- A colon and a port. -/
def readPort (cs : List Char) : Option (UInt16 × List Char) := do
  let (port, cs) ← readNumber 10 65536 none true (← readChar ':' cs)
  return (port.toUInt16, cs)

/-- A socket with an address of four octets. -/
def readSocketV4 (cs : List Char) : Option (Socket × List Char) := do
  let (bits, cs) ← readV4 cs
  let (port, cs) ← readPort cs
  return (⟨.v4 bits, port, 0⟩, cs)

/-- A scope, if there is one. -/
def readScope (cs : List Char) : UInt32 × List Char :=
  match (readChar '%' cs).bind (readNumber 10 (Nat.pow 2 32) none true) with
  | some (n, rest) => (n.toUInt32, rest)
  | none => (0, cs)

/-- A socket with an address of eight groups, in brackets. -/
def readSocketV6 (cs : List Char) : Option (Socket × List Char) := do
  let (bits, cs) ← readV6 (← readChar '[' cs)
  let (scope, cs) := readScope cs
  let (port, cs) ← readPort (← readChar ']' cs)
  return (⟨.v6 bits, port, scope⟩, cs)

/-- The socket that a text spells. -/
def Socket.ofText? (s : String) : Option Socket :=
  match complete (readSocketV4 s.toList) with
  | some socket => some socket
  | none => complete (readSocketV6 s.toList)

end FlightRelay.Net
