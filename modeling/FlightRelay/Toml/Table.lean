import FlightRelay.Toml.Scalar

/-!
# Tables of settings files

A table is built piece by piece, by headers and by dotted keys, and how it came about decides what may
still be added: a table with a header of its own has no second one, a value is never opened again, and a
dotted key only reaches into tables that dotted keys or headers further down have made.
-/

namespace FlightRelay.Toml

open Json (Value)

/-- How a table came about. -/
inductive Origin where
  /-- By its own header. -/
  | header
  /-- On the way to a header further down. -/
  | implied
  /-- By a dotted key. -/
  | dotted
  deriving DecidableEq, Repr

/-- What stands under a key. -/
inductive Entry where
  | value (v : Value)
  | table (origin : Origin) (entries : List (String × Entry))
  /-- Tables that share a header, the last one first. -/
  | tables (elements : List (List (String × Entry)))

/-- Keys with what stands under them. -/
abbrev Entries := List (String × Entry)

/-! ## As values -/

mutual

/-- What stands under a key, as a value. -/
def Entry.toValue : Entry → Value
  | .value v => v
  | .table _ entries => .object (entryValues entries)
  | .tables elements => .array (elementValues elements).reverse

/-- A table as members of an object. -/
def entryValues : List (String × Entry) → List (String × Value)
  | [] => []
  | (key, e) :: rest => (key, e.toValue) :: entryValues rest

/-- Tables as objects. -/
def elementValues : List (List (String × Entry)) → List Value
  | [] => []
  | t :: rest => .object (entryValues t) :: elementValues rest

end

/-! ## Building -/

/-- Replaces what stands under a key. -/
def replace (entries : Entries) (key : String) (e : Entry) : Entries :=
  entries.map fun old => if old.1 = key then (key, e) else old

/-- Puts a value under a key that is free, below a path of dotted keys; `within` tells that the table in
hand may take it. -/
def assign (key : String) (v : Value) : List String → Bool → Entries → Option Entries
  | [], within, entries =>
    if within && (entries.lookup key).isNone then some (entries ++ [(key, .value v)]) else none
  | step :: path, _, entries =>
    match entries.lookup step with
    | none => (assign key v path true []).map fun t => entries ++ [(step, .table .dotted t)]
    | some (.table .header _) => none
    | some (.table origin t) =>
      (assign key v path (origin = .dotted) t).map fun t => replace entries step (.table origin t)
    | some (.tables (t :: others)) =>
      (assign key v path false t).map fun t => replace entries step (.tables (t :: others))
    | some (.tables []) => none
    | some (.value _) => none

/-- Changes the table at the end of a path of header keys; tables on the way are made if need be. -/
def below (change : Entries → Option Entries) : List String → Entries → Option Entries
  | [], entries => change entries
  | step :: path, entries =>
    match entries.lookup step with
    | none => (below change path []).map fun t => entries ++ [(step, .table .implied t)]
    | some (.table origin t) =>
      (below change path t).map fun t => replace entries step (.table origin t)
    | some (.tables (t :: others)) =>
      (below change path t).map fun t => replace entries step (.tables (t :: others))
    | some (.tables []) => none
    | some (.value _) => none

/-- Opens a table by its header. -/
def openTable (key : String) (entries : Entries) : Option Entries :=
  match entries.lookup key with
  | none => some (entries ++ [(key, .table .header [])])
  | some (.table .implied t) => some (replace entries key (.table .header t))
  | some _ => none

/-- Opens the next of the tables that share a header. -/
def openElement (key : String) (entries : Entries) : Option Entries :=
  match entries.lookup key with
  | none => some (entries ++ [(key, .tables [[]])])
  | some (.tables elements) => some (replace entries key (.tables ([] :: elements)))
  | some _ => none

end FlightRelay.Toml
