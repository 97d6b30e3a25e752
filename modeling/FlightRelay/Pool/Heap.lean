import FlightRelay.Pool.Overflow

/-!
# Binary heaps

Nothing in a heap is greater than what stands above it, so a greatest entry is on top.  Level entries come
out in the order that the shape of the heap gives.  The tasks that wait in a pool are such entries: while
their numbers are distinct, which those of a pool are, a heap hands them out as an overflow queue does.
-/

namespace FlightRelay.Pool

/-- Ordered entries; those below place `i` are at the places `2 * i + 1` and `2 * i + 2`. -/
structure Heap (α : Type) where
  entries : Array α
  deriving Repr, Inhabited

namespace Heap

variable {α : Type}

/-- Nothing is in the heap. -/
def empty : Heap α := ⟨#[]⟩

/-- How many entries there are. -/
def size (h : Heap α) : Nat := h.entries.size

/-- The entry on top. -/
def peek? (h : Heap α) : Option α := h.entries[0]?

section Order

variable [Ord α]

/-- Puts an entry at a place that is free, or above it: smaller entries make way.  A place is halved at
every step, so `fuel` may be the place. -/
def rise (w : α) : Nat → Nat → Array α → Array α
  | 0, place, entries => entries.setIfInBounds place w
  | fuel + 1, place, entries =>
    if place = 0 then entries.setIfInBounds place w
    else
      match entries[(place - 1) / 2]? with
      | some above =>
        if (compare w above).isLE then entries.setIfInBounds place w
        else rise w fuel ((place - 1) / 2) (entries.setIfInBounds place above)
      | none => entries.setIfInBounds place w

/-- Moves a free place down to the bottom: of the two entries below it the greater one moves up, the right
one if they are level. -/
def sink : Nat → Nat → Array α → Nat × Array α
  | 0, place, entries => (place, entries)
  | fuel + 1, place, entries =>
    match entries[2 * place + 1]?, entries[2 * place + 2]? with
    | some left, some right =>
      if (compare left right).isLE then sink fuel (2 * place + 2) (entries.setIfInBounds place right)
      else sink fuel (2 * place + 1) (entries.setIfInBounds place left)
    | some left, none => (2 * place + 1, entries.setIfInBounds place left)
    | none, _ => (place, entries)

/-- Adds an entry. -/
def push (h : Heap α) (w : α) : Heap α := ⟨rise w h.size h.size (h.entries.push w)⟩

/-- Takes the entry on top.  The last entry is put at the place at the bottom that becomes free, or above
it. -/
def pop? (h : Heap α) : Option (α × Heap α) :=
  match h.entries.back?, h.peek? with
  | some last, some top =>
    let rest := h.entries.pop
    if rest.isEmpty then some (top, ⟨rest⟩)
    else
      let (place, entries) := sink rest.size 0 rest
      some (top, ⟨rise last place place entries⟩)
  | _, _ => none

end Order

end Heap

end FlightRelay.Pool
