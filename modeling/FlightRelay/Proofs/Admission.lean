import FlightRelay.Admission
import FlightRelay.Proofs.Entries

/-!
# Accounts of the admission

Whatever is asked of the admission and in whatever order, its counts are those of the connections that were
admitted and not yet given back, it tracks just the addresses that hold some, and it refuses just whom it
says it refuses.  What one address is answered, the calls about all others do not change.
-/

namespace FlightRelay.Admission

/-! ## Calls and answers -/

/-- What can be asked of the admission. -/
inductive Call where
  | enter (address : Net.Address)
  | release (address : Net.Address)
  | ban (address : Net.Address)
  | unban (address : Net.Address)
  deriving DecidableEq, Repr

/-- The address that a call is about. -/
def Call.address : Call → Net.Address
  | .enter x | .release x | .ban x | .unban x => x

/-- What a call is answered. -/
inductive Answer where
  | entered (outcome : Except AdmissionError Unit)
  | released
  /-- Whether there was no ban before. -/
  | banned (fresh : Bool)
  /-- Whether there was a ban. -/
  | unbanned (lifted : Bool)

/-- A call and its answer. -/
structure Entry where
  call : Call
  answer : Answer

/-- Answers a call. -/
def serve (a : Admission) : Call → Answer × Admission
  | .enter x => (.entered (a.enter x).1, (a.enter x).2)
  | .release x => (.released, a.release x)
  | .ban x => (.banned (a.ban x).1, (a.ban x).2)
  | .unban x => (.unbanned (a.unban x).1, (a.unban x).2)

/-- The admission after calls. -/
def after (a : Admission) (calls : List Call) : Admission :=
  calls.foldl (fun a c => (a.serve c).2) a

/-- The calls with what they are answered, one after another. -/
def log (a : Admission) : List Call → List Entry
  | [] => []
  | c :: calls => ⟨c, (a.serve c).1⟩ :: (a.serve c).2.log calls

/-- The addresses that are tracked. -/
def tracked (a : Admission) : List Net.Address := a.held.map Prod.fst

/-! ## What was asked and answered -/

/-- The number of connections from an address after an entry of the log: one more for one that was admitted,
and one less, though never less than none, for one that was given back. -/
def Entry.tally (x : Net.Address) (n : Nat) : Entry → Nat
  | ⟨.enter y, .entered (.ok ())⟩ => if y = x then n + 1 else n
  | ⟨.release y, _⟩ => if y = x then n - 1 else n
  | _ => n

/-- The number of connections from an address by the log. -/
def heldBy (x : Net.Address) (entries : List Entry) : Nat := entries.foldl (Entry.tally x) 0

/-- Somebody was not admitted. -/
def Entry.isRefusal : Entry → Bool
  | ⟨.enter _, .entered (.error _)⟩ => true
  | _ => false

/-- Whether an address is banned after a call. -/
def Call.rules (x : Net.Address) (banned : Bool) : Call → Bool
  | .ban y => banned || y = x
  | .unban y => banned && y ≠ x
  | _ => banned

/-- Whether an address is banned after calls, if these were banned at first. -/
def bannedBy (x : Net.Address) (banned : List Net.Address) (calls : List Call) : Bool :=
  calls.foldl (Call.rules x) (banned.contains x)

variable {a b : Admission} {address other x : Net.Address} {n : Nat} {c : Call}

/-! ## Counting slots -/

/-- The count of one address is set, and no other. -/
theorem count_setCount :
    (a.setCount address n).count other = if other = address then n else a.count other := by
  unfold setCount count
  dsimp only
  split
  · rename_i hzero
    rw [lookup_remove]
    split
    · exact hzero.symm
    · rfl
  · split
    · rename_i he
      rw [he, List.lookup_cons_self, Option.getD_some]
    · rename_i hne
      rw [lookup_cons_of_ne hne, lookup_remove, if_neg hne]

/-- A release gives one slot of its address back, if there is one. -/
theorem count_release :
    (a.release address).count other = if other = address then a.count other - 1 else a.count other := by
  rw [release, count_setCount]
  split
  · rename_i he
    rw [he]
  · rfl

/-- A slot that is taken and given back at once was never taken. -/
theorem count_undone :
    ((a.setCount address (a.count address + 1)).release address).count other = a.count other := by
  rw [count_release, count_setCount]
  split
  · rename_i he
    rw [he, Nat.add_sub_cancel]
  · rfl

/-- Who is refused and why, and what is noted. -/
theorem enter_eq (a : Admission) (address : Net.Address) :
    (a.isBanned address = true ∧ a.enter address = (.error (.banned address), a.refuse)) ∨
    ((a.isBanned address = false ∧ 0 < a.limit ∧ a.limit ≤ a.count address) ∧
      a.enter address = (.error (.tooMany address), a.refuse)) ∨
    ((a.isBanned address = false ∧ (0 < a.limit → a.count address < a.limit)) ∧
      a.enter address = (.ok (), a.setCount address (a.count address + 1))) := by
  unfold enter
  split
  · rename_i hbanned
    exact .inl ⟨hbanned, rfl⟩
  · rename_i hfree
    rw [Bool.not_eq_true] at hfree
    split
    · rename_i hlimit
      exact .inr (.inl ⟨⟨hfree, by simpa using hlimit⟩, rfl⟩)
    · rename_i hroom
      exact .inr (.inr ⟨⟨hfree, by simpa using hroom⟩, rfl⟩)

/-- Either nothing but a refusal is counted, or there is a slot and it is taken. -/
theorem enter_cases (a : Admission) (address : Net.Address) :
    (∃ e, a.enter address = (.error e, a.refuse)) ∨
      a.enter address = (.ok (), a.setCount address (a.count address + 1)) ∧
        (0 < a.limit → a.count address < a.limit) := by
  rcases enter_eq a address with ⟨-, he⟩ | ⟨-, he⟩ | ⟨⟨-, hroom⟩, he⟩
  · exact .inl ⟨_, he⟩
  · exact .inl ⟨_, he⟩
  · exact .inr ⟨he, hroom⟩

/-- Exactly the banned addresses are turned away as banned. -/
theorem enter_banned_iff : (a.enter x).1 = .error (.banned x) ↔ a.isBanned x = true := by
  rcases enter_eq a x with ⟨hx, he⟩ | ⟨hx, he⟩ | ⟨hx, he⟩
  · simp [hx, he]
  · simp [hx.1, he]
  · simp [hx.1, he]

/-- Exactly the addresses that are not banned and have used up their slots are turned away for it. -/
theorem enter_tooMany_iff : (a.enter x).1 = .error (.tooMany x) ↔
    a.isBanned x = false ∧ 0 < a.limit ∧ a.limit ≤ a.count x := by
  rcases enter_eq a x with ⟨hx, he⟩ | ⟨hx, he⟩ | ⟨hx, he⟩
  · simp [hx, he]
  · simpa [he] using hx
  · simpa [he, hx.1] using hx.2

/-- Nobody is refused for another reason, and nothing but the refusal is noted. -/
theorem enter_failed {e : AdmissionError} (h : (a.enter x).1 = .error e) :
    (e = .banned x ∨ e = .tooMany x) ∧ (a.enter x).2 = a.refuse := by
  rcases enter_eq a x with ⟨-, hx⟩ | ⟨-, hx⟩ | ⟨-, hx⟩
  · rw [hx] at h ⊢
    exact ⟨.inl (Except.error.inj h).symm, rfl⟩
  · rw [hx] at h ⊢
    exact ⟨.inr (Except.error.inj h).symm, rfl⟩
  · rw [hx] at h
    cases h

/-- The admission with an entry for an address, without connections if there was none. -/
def opened (a : Admission) (address : Net.Address) : Admission :=
  if (a.held.lookup address).isSome then a else { a with held := (address, 0) :: a.held }

theorem count_opened : (a.opened address).count address = a.count address := by
  unfold opened
  split
  · rfl
  · rename_i hnone
    rw [Option.not_isSome_iff_eq_none] at hnone
    rw [count, count, List.lookup_cons_self, hnone, Option.getD_some, Option.getD_none]

/-- The entry of an address is made anew, so it does not matter whether there was one. -/
theorem setCount_opened : (a.opened address).setCount address n = a.setCount address n := by
  unfold opened
  split
  · rfl
  · unfold setCount
    simp

/-- Where an address may be given a place, its entry may be made before the limit is looked at: if the limit
is reached there is one already, so none is left without connections. -/
theorem enter_opened (hfree : a.isBanned address = false) :
    (a.opened address).enter address = a.enter address := by
  by_cases hopen : (a.held.lookup address).isSome
  · rw [opened, if_pos hopen]
  · have hnone := Option.not_isSome_iff_eq_none.mp hopen
    have hcount : a.count address = 0 := by rw [count, hnone, Option.getD_none]
    have hlimit : (a.opened address).limit = a.limit := by rw [opened, if_neg hopen]
    have hbanned : (a.opened address).isBanned address = false := by rwa [opened, if_neg hopen]
    have hroom : (decide (0 < a.limit) && decide (a.limit ≤ 0)) = false := by simp [Nat.pos_iff_ne_zero]
    rw [enter, enter, hbanned, hfree, count_opened, hlimit, hcount, hroom, setCount_opened]
    rfl

/-! ## One call -/

/-- What a call may be answered, and the admission after it. -/
inductive Served (a : Admission) : Call → Answer → Admission → Prop
  | refused {x : Net.Address} {e : AdmissionError} : Served a (.enter x) (.entered (.error e)) a.refuse
  | admitted {x : Net.Address} (room : 0 < a.limit → a.count x < a.limit) :
    Served a (.enter x) (.entered (.ok ())) (a.setCount x (a.count x + 1))
  | released {x : Net.Address} : Served a (.release x) .released (a.release x)
  | banned {x : Net.Address} {fresh : Bool} {bans : List Net.Address}
    (now : ∀ y, bans.contains y = (a.isBanned y || x = y)) :
    Served a (.ban x) (.banned fresh) { a with banned := bans }
  | unbanned {x : Net.Address} {lifted : Bool} {bans : List Net.Address}
    (now : ∀ y, bans.contains y = (a.isBanned y && x ≠ y)) :
    Served a (.unban x) (.unbanned lifted) { a with banned := bans }

/-- Every call is served in one of these ways. -/
theorem served (a : Admission) (c : Call) : a.Served c (a.serve c).1 (a.serve c).2 := by
  cases c with
  | enter x =>
    rcases enter_cases a x with ⟨e, he⟩ | ⟨he, hroom⟩
    · rw [serve, he]
      exact .refused
    · rw [serve, he]
      exact .admitted hroom
  | release x => exact .released
  | ban x =>
    rw [serve, ban]
    split
    · rename_i hbanned
      refine .banned fun y => ?_
      by_cases hy : x = y
      · rw [← hy, decide_eq_true rfl, Bool.or_true]
        exact hbanned
      · rw [decide_eq_false hy, Bool.or_false, isBanned]
    · refine .banned fun y => ?_
      rw [List.contains_cons, Bool.or_comm, isBanned, Bool.beq_comm, beq_eq_decide]
  | unban x =>
    refine .unbanned fun y => ?_
    rw [isBanned, List.contains_eq_mem, List.contains_eq_mem, ← Bool.decide_and, decide_eq_decide,
      List.mem_filter, decide_eq_true_iff, ne_comm]

variable {answer : Answer}

theorem limit_served (h : a.Served c answer b) : b.limit = a.limit := by cases h <;> rfl

/-- The count of an address follows the log. -/
theorem count_served (h : a.Served c answer b) :
    b.count x = Entry.tally x (a.count x) ⟨c, answer⟩ := by
  cases h with
  | refused | banned _ | unbanned _ => rfl
  | admitted _ =>
    rw [count_setCount, Entry.tally]
    split
    · rename_i hx
      rw [if_pos hx.symm, hx]
    · rename_i hx
      rw [if_neg (Ne.symm hx)]
  | released =>
    rw [count_release, Entry.tally]
    simp only [eq_comm]

/-- Refusals are counted, and nothing else. -/
theorem refused_served (h : a.Served c answer b) :
    b.refused = a.refused + if Entry.isRefusal ⟨c, answer⟩ then 1 else 0 := by
  cases h <;> rfl

/-- Only a call that bans or clears the address changes whether it is banned. -/
theorem isBanned_served (h : a.Served c answer b) : b.isBanned x = c.rules x (a.isBanned x) := by
  cases h with
  | refused | admitted _ | released => rfl
  | banned now | unbanned now => exact now x

/-! ## The addresses that are tracked -/

/-- Every address that is tracked holds some connection, and has one entry. -/
structure Tidy (a : Admission) : Prop where
  nodup : a.tracked.Nodup
  held : ∀ e ∈ a.held, 0 < e.2

theorem tidy_setCount (h : a.Tidy) : (a.setCount address n).Tidy := by
  have hothers : ((a.held.filter fun e => e.1 ≠ address).map Prod.fst).Nodup :=
    h.nodup.sublist (List.filter_sublist.map Prod.fst)
  have hpos : ∀ e ∈ a.held.filter fun e => e.1 ≠ address, 0 < e.2 := fun e he =>
    h.held e (List.mem_of_mem_filter he)
  by_cases hzero : n = 0
  · subst hzero
    exact ⟨hothers, hpos⟩
  · have hheld : (a.setCount address n).held
        = (address, n) :: a.held.filter fun e => e.1 ≠ address := if_neg hzero
    constructor
    · rw [tracked, hheld, List.map_cons, List.nodup_cons]
      refine ⟨fun hmem => ?_, hothers⟩
      obtain ⟨e, he, hkey⟩ := List.mem_map.mp hmem
      exact of_decide_eq_true (List.mem_filter.mp he).2 hkey
    · rw [hheld]
      rintro e (_ | ⟨_, he⟩)
      · exact Nat.pos_of_ne_zero hzero
      · exact hpos e he

theorem tidy_served (h : a.Tidy) (hserved : a.Served c answer b) : b.Tidy := by
  cases hserved with
  | refused | banned _ | unbanned _ => exact ⟨h.nodup, h.held⟩
  | admitted _ | released => exact tidy_setCount h

/-- An address is tracked exactly as long as it holds connections. -/
theorem mem_tracked (h : a.Tidy) : x ∈ a.tracked ↔ 0 < a.count x := by
  constructor
  · intro hmem
    obtain ⟨e, he, rfl⟩ := List.mem_map.mp hmem
    rw [count, lookup_of_mem h.nodup he, Option.getD_some]
    exact h.held e he
  · intro hcount
    rw [count] at hcount
    cases hlookup : a.held.lookup x with
    | none =>
      rw [hlookup] at hcount
      cases hcount
    | some n => exact List.mem_map.mpr ⟨_, mem_of_lookup hlookup, rfl⟩

/-! ## Call after call -/

theorem limit_after (calls : List Call) : (a.after calls).limit = a.limit := by
  induction calls generalizing a with
  | nil => rfl
  | cons c calls ih => exact ih.trans (limit_served (served a c))

/-- The count of an address is what its own calls come to. -/
theorem count_after (calls : List Call) :
    (a.after calls).count x = (a.log calls).foldl (Entry.tally x) (a.count x) := by
  induction calls generalizing a with
  | nil => rfl
  | cons c calls ih =>
    rw [log, List.foldl_cons, ← count_served (served a c)]
    exact ih

/-- As many refusals are counted as calls were refused. -/
theorem refused_after (calls : List Call) :
    (a.after calls).refused = a.refused + (a.log calls).countP Entry.isRefusal := by
  induction calls generalizing a with
  | nil => rfl
  | cons c calls ih =>
    have hlater : (a.after (c :: calls)).refused = _ := ih (a := (a.serve c).2)
    rw [hlater, refused_served (served a c), log, List.countP_cons, Nat.add_right_comm, Nat.add_assoc]

/-- Whether an address is banned is what the bans come to. -/
theorem isBanned_after (calls : List Call) :
    (a.after calls).isBanned x = calls.foldl (Call.rules x) (a.isBanned x) := by
  induction calls generalizing a with
  | nil => rfl
  | cons c calls ih =>
    rw [List.foldl_cons, ← isBanned_served (served a c)]
    exact ih

/-- The table is always tidy. -/
theorem tidy_after (h : a.Tidy) (calls : List Call) : (a.after calls).Tidy := by
  induction calls generalizing a with
  | nil => exact h
  | cons c calls ih => exact ih (tidy_served h (served a c))

/-- No call takes an address over the limit. -/
theorem bounded_served (h : a.Served c answer b) (hlimit : 0 < a.limit) (hx : a.count x ≤ a.limit) :
    b.count x ≤ a.limit := by
  cases h with
  | refused | banned _ | unbanned _ => exact hx
  | admitted room =>
    rw [count_setCount]
    split
    · exact room hlimit
    · exact hx
  | released =>
    rw [count_release]
    split
    · exact Nat.le_trans (Nat.sub_le _ _) hx
    · exact hx

/-- No address ever has more slots than the limit. -/
theorem bounded_after (hlimit : 0 < a.limit) (hx : a.count x ≤ a.limit) (calls : List Call) :
    (a.after calls).count x ≤ a.limit := by
  induction calls generalizing a with
  | nil => exact hx
  | cons c calls ih =>
    have hsame := limit_served (served a c)
    have hstep := bounded_served (served a c) hlimit hx
    rw [← hsame] at hlimit hstep ⊢
    exact ih hlimit hstep

/-! ## Calls about other addresses -/

/-- Two admissions treat an address alike. -/
structure Alike (x : Net.Address) (a b : Admission) : Prop where
  limit : a.limit = b.limit
  isBanned : a.isBanned x = b.isBanned x
  count : a.count x = b.count x

/-- An address gets the same answer wherever its own affairs are the same. -/
theorem enter_of_alike (h : a.Alike x b) : (a.enter x).1 = (b.enter x).1 := by
  unfold enter
  rw [h.isBanned, h.limit, h.count]
  split
  · rfl
  · split <;> rfl

/-- A ban says whether it is a new one. -/
theorem ban_fresh : (a.ban address).1 = !a.isBanned address := by
  cases hbanned : a.isBanned address with
  | false => simp [ban, hbanned]
  | true => simp [ban, hbanned]

/-- A call is answered alike where its address is treated alike. -/
theorem serve_of_alike (h : a.Alike c.address b) : (a.serve c).1 = (b.serve c).1 := by
  cases c with
  | enter y => exact congrArg Answer.entered (enter_of_alike h)
  | release y => rfl
  | ban y =>
    rw [serve, serve, ban_fresh, ban_fresh]
    exact congrArg (fun known => Answer.banned (!known)) h.isBanned
  | unban y => exact congrArg Answer.unbanned h.isBanned

/-- Once it was answered alike, the address is still treated alike. -/
theorem alike_serve (h : a.Alike x b) (hanswer : (a.serve c).1 = (b.serve c).1) :
    (a.serve c).2.Alike x (b.serve c).2 where
  limit := by rw [limit_served (served a c), limit_served (served b c), h.limit]
  isBanned := by rw [isBanned_served (served a c), isBanned_served (served b c), h.isBanned]
  count := by rw [count_served (served a c), count_served (served b c), h.count, hanswer]

/-- A call of another address bans nobody here. -/
theorem rules_of_ne (hc : c.address ≠ x) (known : Bool) : c.rules x known = known := by
  cases c with
  | enter y | release y => rfl
  | ban y => exact (congrArg _ (decide_eq_false hc)).trans (Bool.or_false _)
  | unban y => exact (congrArg _ (decide_eq_true hc)).trans (Bool.and_true _)

/-- A call of another address takes no slot here. -/
theorem tally_of_ne (hc : c.address ≠ x) : Entry.tally x n ⟨c, answer⟩ = n := by
  unfold Entry.tally
  split
  · rename_i heq
    obtain ⟨rfl, -⟩ := Entry.mk.inj heq
    exact if_neg hc
  · rename_i heq
    obtain ⟨rfl, -⟩ := Entry.mk.inj heq
    exact if_neg hc
  · rfl

/-- A call about another address does not change how this one is treated. -/
theorem alike_of_ne (hc : c.address ≠ x) : (a.serve c).2.Alike x a where
  limit := limit_served (served a c)
  isBanned := (isBanned_served (served a c)).trans (rules_of_ne hc _)
  count := (count_served (served a c)).trans (tally_of_ne hc)

/-- What an address is answered is what it is answered when nobody asks about another. -/
theorem log_filter (h : a.Alike x b) (calls : List Call) :
    (a.log calls).filter (fun e => e.call.address = x)
      = b.log (calls.filter fun c => c.address = x) := by
  induction calls generalizing a b with
  | nil => rfl
  | cons c calls ih =>
    by_cases hc : c.address = x
    · have hanswer : (a.serve c).1 = (b.serve c).1 := by
        subst hc
        exact serve_of_alike h
      rw [log, List.filter_cons, if_pos (decide_eq_true hc), List.filter_cons, if_pos (decide_eq_true hc),
        log, hanswer, ih (alike_serve h hanswer)]
    · have hlimit := (alike_of_ne (a := a) hc).limit.trans h.limit
      have hstill : (a.serve c).2.Alike x b :=
        ⟨hlimit, (alike_of_ne hc).isBanned.trans h.isBanned, (alike_of_ne hc).count.trans h.count⟩
      rw [log, List.filter_cons, if_neg (mt of_decide_eq_true hc), List.filter_cons,
        if_neg (mt of_decide_eq_true hc), ih hstill]

/-! ## The accounts -/

/-- The accounts of an admission that has answered calls. -/
structure Accurate (bans : List Net.Address) (limit : Nat) (calls : List Call) (entries : List Entry)
    (a : Admission) : Prop where
  counted : ∀ x, a.count x = heldBy x entries
  tracked : ∀ x, x ∈ a.tracked ↔ 0 < heldBy x entries
  /-- No address is tracked twice, and what is reported is how many are tracked. -/
  stats : a.tracked.Nodup ∧ a.stats.trackedAddresses = a.tracked.length
  bounded : 0 < limit → ∀ x, heldBy x entries ≤ limit
  refused : a.stats.refused = entries.countP Entry.isRefusal
  /-- Who is banned is told so, -/
  banned : ∀ x, (a.enter x).1 = .error (.banned x) ↔ bannedBy x bans calls = true
  /-- and who is not, but holds as many connections as it may, is told that. -/
  tooMany : ∀ x, (a.enter x).1 = .error (.tooMany x) ↔
    bannedBy x bans calls = false ∧ 0 < limit ∧ limit ≤ heldBy x entries
  /-- Nobody is refused for another reason, and nothing but the refusal is noted. -/
  failed : ∀ x e, (a.enter x).1 = .error e →
    (e = .banned x ∨ e = .tooMany x) ∧ (a.enter x).2 = { a with refused := a.refused + 1 }
  /-- It does not matter whether the entry of an address is made before the limit is looked at. -/
  opened : ∀ x, bannedBy x bans calls = false → (a.opened x).enter x = a.enter x
  /-- What an address is answered is what it would be answered if all other calls were left out. -/
  independent : ∀ x, entries.filter (fun e => e.call.address = x)
    = (start bans limit).log (calls.filter fun c => c.address = x)

theorem isBanned_start (bans : List Net.Address) (limit : Nat) :
    (start bans limit).isBanned x = bans.contains x := by
  rw [isBanned, List.contains_eq_mem, List.contains_eq_mem, decide_eq_decide]
  exact List.mem_eraseDups

theorem tidy_start (bans : List Net.Address) (limit : Nat) : (start bans limit).Tidy :=
  ⟨List.nodup_nil, fun _ he => nomatch he⟩

/-- Whatever is asked of the admission, in whatever order, its accounts are right. -/
theorem accurate_after (bans : List Net.Address) (limit : Nat) (calls : List Call) :
    Accurate bans limit calls ((start bans limit).log calls) ((start bans limit).after calls) := by
  have hlimit : ((start bans limit).after calls).limit = limit := limit_after calls
  have hcounted : ∀ x, ((start bans limit).after calls).count x
      = heldBy x ((start bans limit).log calls) := fun x => count_after calls
  have hbanned : ∀ x, ((start bans limit).after calls).isBanned x = bannedBy x bans calls := by
    intro x
    rw [isBanned_after, isBanned_start, bannedBy]
  have htidy := tidy_after (tidy_start bans limit) calls
  exact {
    counted := hcounted
    tracked := fun x => by rw [mem_tracked htidy, hcounted]
    stats := ⟨htidy.nodup, (List.length_map _).symm⟩
    bounded := fun hpos x => by
      rw [← hcounted]
      exact bounded_after hpos (Nat.zero_le _) calls
    refused := (refused_after calls).trans (Nat.zero_add _)
    banned := fun x => by rw [← hbanned, enter_banned_iff]
    tooMany := fun x => by rw [← hbanned, ← hcounted, enter_tooMany_iff, hlimit]
    failed := fun _ _ => enter_failed
    opened := fun x hfree => enter_opened ((hbanned x).trans hfree)
    independent := fun x => log_filter ⟨rfl, rfl, rfl⟩ calls }

end FlightRelay.Admission
