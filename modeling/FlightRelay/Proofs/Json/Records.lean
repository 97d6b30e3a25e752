import FlightRelay.Json.Fields
import FlightRelay.Proofs.Json.Text
import Mathlib.Data.List.Nodup

/-!
# Restating a record

The members of a record may come in any order, among members that no field is named after, and a field may
be left out where its default says the same.  `Restates` says so of two lists of members; whoever looks
for a field under its name finds the same in both.
-/

namespace FlightRelay.Json

variable {defaults ms ms' : List (String × Value)} {depth : Nat} {same : Value → Value → Prop}
  {name : String} {v : Value} {α : Type} {read : Value → Option α} {a : α} {place : Nat}

/-- The members `ms'` restate the members `ms` of a record: of these some are left out that hold their
default, the values of the others are kept or replaced by the same, and unknown members are added, all in
any order. -/
inductive Restates (defaults : List (String × Value)) (depth : Nat) (same : Value → Value → Prop)
    (ms ms' : List (String × Value)) : Prop
  | intro {kept dropped added : List (String × Value)} {restated : String × Value → Value}
      (split : ms.Perm (kept ++ dropped))
      (omitted : ∀ m ∈ dropped, m ∈ defaults)
      (unknown : ∀ m ∈ added, m.1 ∉ ms.map Prod.fst)
      (legible : ∀ m ∈ added, Legible depth m.2)
      (replaced : ∀ m ∈ kept, same m.2 (restated m))
      (joined : ms'.Perm (kept.map (fun m => (m.1, restated m)) ++ added))

/-- Members restate themselves. -/
theorem Restates.refl (hsame : ∀ v, same v v) : Restates defaults depth same ms ms := by
  refine @Restates.intro _ _ _ _ _ ms [] [] Prod.snd ?_ nofun nofun nofun (fun m _ => hsame m.2) ?_
  · rw [List.append_nil]
  · rw [List.append_nil, List.map_id']

/-! ## Members under a name -/

/-- There are no members of a name that no member has. -/
theorem membersNamed_eq_nil (h : name ∉ ms.map Prod.fst) : membersNamed name ms = [] := by
  rw [membersNamed, List.filter_eq_nil_iff]
  intro m hm hname
  exact h (List.mem_map.mpr ⟨m, hm, of_decide_eq_true hname⟩)

/-- If no name stands twice, each stands once. -/
theorem membersNamed_of_mem (hnd : (ms.map Prod.fst).Nodup) (h : (name, v) ∈ ms) :
    membersNamed name ms = [(name, v)] := by
  obtain ⟨before, after, rfl⟩ := List.append_of_mem h
  rw [List.map_append, List.map_cons, List.nodup_middle, List.nodup_cons, ← List.map_append,
    List.map_append, List.mem_append, not_or] at hnd
  obtain ⟨⟨hbefore, hafter⟩, -⟩ := hnd
  have hsplit : membersNamed name (before ++ (name, v) :: after)
      = membersNamed name before ++ (name, v) :: membersNamed name after := by
    simp only [membersNamed, List.filter_append, List.filter_cons, decide_true, if_true]
  rw [hsplit, membersNamed_eq_nil hbefore, membersNamed_eq_nil hafter, List.nil_append]

/-- The first member under a name is the one that is looked up. -/
theorem lookup_eq_membersNamed : ms.lookup name = (membersNamed name ms).head?.map Prod.snd := by
  induction ms with
  | nil => rfl
  | cons m ms ih =>
    obtain ⟨k, w⟩ := m
    rw [List.lookup_cons, membersNamed, List.filter_cons]
    by_cases hk : k = name
    · subst hk
      simp
    · have hne : (name == k) = false := beq_eq_false_iff_ne.mpr fun h => hk h.symm
      rw [hne, decide_eq_false hk]
      exact ih

/-! ## Fields -/

/-- Among the members, the field `name` says `v`: it stands there once and says the same, or it is left
out and `v` is its default. -/
inductive Field (defaults : List (String × Value)) (same : Value → Value → Prop)
    (ms : List (String × Value)) (name : String) (v : Value) : Prop
  | given {v' : Value} (named : membersNamed name ms = [(name, v')]) (replaced : same v v')
  | omitted (named : membersNamed name ms = []) (byDefault : (name, v) ∈ defaults)

/-- A restatement says in every field what was said before. -/
theorem Restates.field (h : Restates defaults depth same ms ms') (hnd : (ms.map Prod.fst).Nodup)
    (hm : (name, v) ∈ ms) : Field defaults same ms' name v := by
  obtain @⟨kept, dropped, added, restated, hsplit, homitted, hunknown, -, hreplaced, hjoined⟩ := h
  have hadded : membersNamed name added = [] := by
    refine membersNamed_eq_nil fun hname => ?_
    obtain ⟨m, hmem, rfl⟩ := List.mem_map.mp hname
    exact hunknown m hmem (List.mem_map.mpr ⟨_, hm, rfl⟩)
  have hkept : membersNamed name (kept.map fun m => (m.1, restated m))
      = (membersNamed name kept).map fun m => (m.1, restated m) := List.filter_map
  have hperm := hjoined.filter fun m => m.1 = name
  rw [List.filter_append] at hperm
  change (membersNamed name ms').Perm (membersNamed name (kept.map _) ++ membersNamed name added) at hperm
  rw [hadded, List.append_nil, hkept] at hperm
  rw [(hsplit.map Prod.fst).nodup_iff, List.map_append, List.nodup_append] at hnd
  obtain ⟨hndKept, -, hdisjoint⟩ := hnd
  rcases List.mem_append.mp (hsplit.mem_iff.mp hm) with hin | hout
  · rw [membersNamed_of_mem hndKept hin, List.map_singleton, List.perm_singleton] at hperm
    exact .given hperm (hreplaced _ hin)
  · have hnone : name ∉ kept.map Prod.fst := fun hname =>
      hdisjoint name hname name (List.mem_map.mpr ⟨_, hout, rfl⟩) rfl
    rw [membersNamed_eq_nil hnone, List.map_nil, List.perm_nil] at hperm
    exact .omitted hperm (homitted _ hout)

/-- A restatement of legible members is legible. -/
theorem Restates.legible (h : Restates defaults depth same ms ms')
    (hms : ∀ m ∈ ms, Legible depth m.2)
    (hsame : ∀ {v v'}, same v v' → Legible depth v → Legible depth v') :
    Legible (depth + 1) (.object ms') := by
  obtain ⟨hsplit, -, -, hadded, hreplaced, hjoined⟩ := h
  refine .object fun m hm => ?_
  rcases List.mem_append.mp (hjoined.mem_iff.mp hm) with hm | hm
  · obtain ⟨m, hkept, rfl⟩ := List.mem_map.mp hm
    exact hsame (hreplaced m hkept) (hms m (hsplit.mem_iff.mpr (List.mem_append_left _ hkept)))
  · exact hadded m hm

namespace Field

/-- What stands among members whose names differ is said by them. -/
theorem of_mem (hnd : (ms.map Prod.fst).Nodup) (h : (name, v) ∈ ms) : Field defaults Eq ms name v :=
  .given (membersNamed_of_mem hnd h) rfl

/-- The fields of a record are found if each says something. -/
theorem fields? (h : ∀ m ∈ ms, Field defaults same ms' m.1 m.2) :
    Value.fields? (ms.map Prod.fst) (.object ms') = some (.named ms') := by
  have hall : ((ms.map Prod.fst).all fun name => (membersNamed name ms').length ≤ 1) = true := by
    rw [List.all_eq_true]
    intro name hname
    obtain ⟨m, hm, rfl⟩ := List.mem_map.mp hname
    cases h m hm with
    | given hnamed => rw [hnamed]; rfl
    | omitted hnamed => rw [hnamed]; rfl
  exact if_pos hall

/-- A field without a default is read. -/
theorem required (h : Field defaults same ms name v) (hkept : name ∉ defaults.map Prod.fst)
    (back : ∀ v', same v v' → read v' = some a) :
    (Fields.named ms).required place name read = some a := by
  cases h with
  | @given v' hnamed hreplaced =>
    rw [Fields.required, Fields.get?, lookup_eq_membersNamed, hnamed]
    exact back v' hreplaced
  | omitted hnamed hdefault => exact absurd (List.mem_map.mpr ⟨_, hdefault, rfl⟩) hkept

/-- A field with a default, which is written as `w`, is read, or stands for its default where that is what
it says. -/
theorem withDefault (w : Value) (default : α) (h : Field defaults same ms name v)
    (hdefault : ∀ w', (name, w') ∈ defaults → w' = w) (hread : read w = some default)
    (hself : same v v) (back : ∀ v', same v v' → read v' = some a) :
    (Fields.named ms).withDefault place name read default = some a := by
  cases h with
  | @given v' hnamed hreplaced =>
    rw [Fields.withDefault, Fields.get?, lookup_eq_membersNamed, hnamed]
    exact back v' hreplaced
  | omitted hnamed homitted =>
    obtain rfl := hdefault v homitted
    rw [Fields.withDefault, Fields.get?, lookup_eq_membersNamed, hnamed]
    exact hread.symm.trans (back v hself)

/-- A field that may hold nothing is read as a value that may be `null`. -/
theorem nullable {o : Option α} (h : Field defaults same ms name v)
    (hkept : name ∉ defaults.map Prod.fst)
    (back : ∀ v', same v v' → v'.option? read = some o) :
    (Fields.named ms).nullable place name read = some o := by
  cases h with
  | @given v' hnamed hreplaced =>
    have hget : (Fields.named ms).get? place name = some v' := by
      rw [Fields.get?, lookup_eq_membersNamed, hnamed]
      rfl
    have hread := back v' hreplaced
    unfold Fields.nullable
    rw [hget]
    cases v' <;> exact hread
  | omitted hnamed hdefault => exact absurd (List.mem_map.mpr ⟨_, hdefault, rfl⟩) hkept

/-- The members besides the kind of a message say the same in every other field. -/
theorem untagged (h : Field defaults same ms name v) (hname : name ≠ "type") :
    Field defaults same (ms.filter fun m => m.1 ≠ "type") name v := by
  have hsame : membersNamed name (ms.filter fun m => m.1 ≠ "type") = membersNamed name ms := by
    rw [membersNamed, List.filter_filter]
    refine List.filter_congr fun m _ => ?_
    by_cases hm : m.1 = name
    · simp [hm, hname]
    · simp [hm]
  cases h with
  | given hnamed hreplaced => exact .given (hsame.trans hnamed) hreplaced
  | omitted hnamed homitted => exact .omitted (hsame.trans hnamed) homitted

/-- The kind of a message is read from its field. -/
theorem tagged? {tag : String} (h : Field defaults same ms "type" (.string tag))
    (hkept : "type" ∉ defaults.map Prod.fst) (back : ∀ v', same (.string tag) v' → v' = .string tag) :
    (Value.object ms).tagged? = some (tag, .object (ms.filter fun m => m.1 ≠ "type")) := by
  cases h with
  | @given v' hnamed hreplaced =>
    obtain rfl := back v' hreplaced
    unfold Value.tagged?
    simp only [hnamed]
  | omitted hnamed homitted => exact absurd (List.mem_map.mpr ⟨_, homitted, rfl⟩) hkept

end Field

/-! ## Single values -/

theorem back_self (read : Value → Option α) (h : read v = some a) : ∀ v', v = v' → read v' = some a := by
  rintro _ rfl
  exact h

namespace Value

/-- A number below the limit is read from its value. -/
theorem below?_ofNat {n limit : Nat} (h : n < limit) : (ofNat n).below? limit = some n := by
  have hlow : (0 : Int) ≤ n := by omega
  have hhigh : (n : Int) < limit := by omega
  simp [below?, ofNat, hlow, hhigh]

/-- A word is read from its value. -/
theorem word?_ofWord (n : UInt64) : (ofWord n).word? = some n := by
  rw [word?, ofWord, below?_ofNat n.toNat_lt, Option.map_some, Nat.toUInt64_eq, UInt64.ofNat_toNat]

/-- A half word is read from its value. -/
theorem halfWord?_ofNat (n : UInt32) : (ofNat n.toNat).halfWord? = some n := by
  rw [halfWord?, below?_ofNat n.toNat_lt, Option.map_some, Nat.toUInt32_eq, UInt32.ofNat_toNat]

/-- What may be missing is read back if what is there is, and that is not written as nothing. -/
theorem option?_ofOption (write : α → Value) (back : ∀ a, read (write a) = some a)
    (hwrite : ∀ a, write a ≠ .null) (o : Option α) : (ofOption write o).option? read = some o := by
  cases o with
  | none => rfl
  | some a =>
    show (write a).option? read = _
    unfold option?
    split
    · rename_i hnull
      exact absurd hnull (hwrite a)
    · rw [back a]
      rfl

/-- A list is read back if its items are. -/
theorem list?_map (write : α → Value) (back : ∀ a, read (write a) = some a) (as : List α) :
    (array (as.map write)).list? read = some as := by
  show (as.map write).mapM read = some as
  induction as with
  | nil => rfl
  | cons a as ih =>
    rw [List.map_cons, List.mapM_cons, back, ih]
    rfl

end Value

end FlightRelay.Json
