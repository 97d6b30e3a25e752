import FlightRelay.Proofs.Registry.Sections
import FlightRelay.Proofs.Router.Soundness

/-!
# Calls side by side

Calls of different connections run in parallel: their sections are carried out in any order, each section
as a whole.  Whatever the order, whoever follows a pilot when all calls are over is the viewer of that
pilot.  The converse holds as long as no pilot is bound while its viewer is cleared, and is lost
otherwise.
-/

namespace FlightRelay

namespace Registry

open Session

/-- Every pilot is followed by its viewer, and everybody is the viewer of the pilot it follows. -/
def Reciprocal (r : Registry) : Prop :=
  ∀ p v, p ≠ noConnection → v ≠ noConnection → (r.viewerOf p = some v ↔ r.viewingOf v = some p)

/-- The pilot has a viewer, and that is another one. -/
def HasOther (r : Registry) (pilot viewer : ConnectionId) : Prop :=
  ∃ current, r.viewerOf pilot = some current ∧ current ≠ noConnection ∧ current ≠ viewer

/-- In a sound registry, viewing is mutual. -/
theorem Sound.reciprocal {r : Registry} (hs : r.Sound) : r.Reciprocal := by
  intro p v hp hv
  constructor
  · intro hviewer
    obtain ⟨c, hc, rfl⟩ := aspect_eq_some_iff.mp hviewer
    obtain ⟨-, w, hw, -, hback⟩ := hs.viewed hc hv
    exact aspect_eq_some_iff.mpr ⟨w, hw, hback⟩
  · intro hviewing
    obtain ⟨c, hc, rfl⟩ := aspect_eq_some_iff.mp hviewing
    obtain ⟨-, q, hq, -, hback⟩ := hs.viewing hc hp
    exact aspect_eq_some_iff.mpr ⟨q, hq, hback⟩

/-- A section keeps the account of a viewer and the pilot it follows: the pilot has the viewer, or the call
is yet to settle the two, or it is up to the others. -/
theorem Call.Section.accounts {r r' : Registry} {c c' : Call} {p v : ConnectionId} {others : Prop}
    (h : Call.Section r c c' r') (hp : p ≠ noConnection) (hv : v ≠ noConnection)
    (before : r.viewingOf v = some p →
      r.viewerOf p = some v ∨ c.unsettled? = some (p, v) ∨ others)
    (hfollows : r'.viewingOf v = some p) :
    r'.viewerOf p = some v ∨ c'.unsettled? = some (p, v) ∨ others := by
  cases h with
  | refused | held | declined | unbound | finished =>
    rcases before hfollows with hviewed | hmoved | hother
    · exact .inl hviewed
    · cases hmoved
    · exact .inr (.inr hother)
  | @claimed pilot viewer hlive hfree =>
    rw [viewingOf_claim hfree] at hfollows
    split at hfollows
    · -- the call has claimed the viewer, and is to settle this
      rename_i he
      obtain rfl := Option.some.inj hfollows
      exact .inr (.inl (by rw [he]; rfl))
    · rcases before hfollows with hviewed | hmoved | hother
      · exact .inl (viewerOf_claim.trans hviewed)
      · cases hmoved
      · exact .inr (.inr hother)
  | @attached pilot viewer isNew a hfree =>
    rw [viewingOf_attach] at hfollows
    rw [viewerOf_attach hfree]
    rcases before hfollows with hviewed | hmoved | hother
    · left
      rw [if_neg, hviewed]
      rintro rfl
      exact hv (Option.some.inj (hviewed.symm.trans hfree))
    · cases isNew with
      | true =>
        obtain ⟨rfl, rfl⟩ := Prod.mk.inj (Option.some.inj hmoved)
        exact .inl (if_pos rfl)
      | false => cases hmoved
    · exact .inr (.inr hother)
  | @kept pilot viewer isNew a hviewed =>
    rcases before hfollows with hviewed' | hmoved | hother
    · exact .inl hviewed'
    · cases isNew with
      | true =>
        obtain ⟨rfl, rfl⟩ := Prod.mk.inj (Option.some.inj hmoved)
        exact .inl hviewed
      | false => cases hmoved
    · exact .inr (.inr hother)
  | rejected hviewed htaken hother =>
    rcases before hfollows with hviewed' | hmoved | hother
    · exact .inl hviewed'
    · exact .inr (.inl hmoved)
    · exact .inr (.inr hother)
  | released | freed =>
    rw [viewingOf_release] at hfollows
    split at hfollows
    · exact absurd (Option.some.inj hfollows).symm hp
    · rename_i hkept
      rcases before hfollows with hviewed | hmoved | hother
      · exact .inl (viewerOf_release.trans hviewed)
      · -- what this call was to part is parted now
        obtain ⟨rfl, rfl⟩ := Prod.mk.inj (Option.some.inj hmoved)
        exact absurd ⟨rfl, hfollows⟩ hkept
      · exact .inr (.inr hother)
  | @detached pilot viewer expected hviewed =>
    rw [viewingOf_attach] at hfollows
    rw [viewerOf_attach hviewed]
    rcases before hfollows with hviewed' | hmoved | hother
    · by_cases he : p = pilot
      · subst he
        obtain rfl := Option.some.inj (hviewed.symm.trans hviewed')
        exact .inr (.inl rfl)
      · rw [if_neg he]
        exact .inl hviewed'
    · cases hmoved
    · exact .inr (.inr hother)

/-- Calls that share a registry, each as far as it has come. -/
structure Parallel (ι : Type) where
  registry : Registry
  calls : ι → Call

namespace Parallel

variable {ι : Type} [DecidableEq ι] {s : Parallel ι} {i : ι} {p v : ConnectionId}

/-- One call carries out its next section. -/
def advance (s : Parallel ι) (i : ι) : Parallel ι :=
  let (c, r) := (s.calls i).step s.registry
  ⟨r, Function.update s.calls i c⟩

/-- The calls carry out sections in the order of a schedule. -/
def run (s : Parallel ι) (schedule : List ι) : Parallel ι := schedule.foldl advance s

/-- No call is in progress. -/
def AtRest (s : Parallel ι) : Prop := ∀ i, (s.calls i).inProgress = false

/-- No pilot is bound while its viewer is cleared. -/
def Apart (s : Parallel ι) : Prop :=
  ∀ i j, (s.calls i).binding?.isSome → (s.calls j).clearing? ≠ (s.calls i).binding?

omit [DecidableEq ι] in
/-- While a pilot is bound, no call clears it. -/
theorem Apart.not_clearing (h : s.Apart) (j : ι) (binding : (s.calls i).binding? = some p) :
    (s.calls j).clearing? ≠ some p := by
  have hne := h i j
  rw [binding] at hne
  exact hne rfl

omit [DecidableEq ι] in
/-- At rest, no call is between its sections. -/
theorem unsettled?_of_atRest (h : s.AtRest) : (s.calls i).unsettled? = none := by
  have hi := h i
  cases hc : s.calls i <;> rw [hc] at hi <;> first | rfl | cases hi

/-! ## What every order of sections keeps -/

/-- Whoever follows a pilot is its viewer, or some call is yet to bind or to part the two. -/
structure Accounted (s : Parallel ι) : Prop where
  /-- A pilot for whom a viewer is claimed is live. -/
  live : ∀ {i pilot viewer isNew}, s.calls i = .claimed pilot viewer isNew →
    s.registry.contains pilot = true
  viewed : ∀ {p v}, p ≠ noConnection → v ≠ noConnection → s.registry.viewingOf v = some p →
    s.registry.viewerOf p = some v ∨ ∃ i, (s.calls i).unsettled? = some (p, v)

/-- The next step of a call is one of its sections. -/
theorem Accounted.advance_section (h : s.Accounted) (i : ι) :
    ∃ c r, s.advance i = ⟨r, Function.update s.calls i c⟩ ∧
      Call.Section s.registry (s.calls i) c r :=
  ⟨_, _, rfl, Call.section_step h.live⟩

/-- A section that is carried out leaves the accounts in order. -/
theorem Accounted.advance (h : s.Accounted) (i : ι) : (s.advance i).Accounted := by
  obtain ⟨c, r, hadvance, hsection⟩ := h.advance_section i
  rw [hadvance]
  refine ⟨fun {j pilot viewer isNew} hj => ?_, fun {p v} hp hv hfollows => ?_⟩
  · show r.contains pilot = true
    rw [hsection.contains]
    by_cases he : j = i
    · subst he
      obtain rfl : c = .claimed pilot viewer isNew := (Function.update_self j c s.calls).symm.trans hj
      exact hsection.live
    · exact h.live ((Function.update_of_ne he c s.calls).symm.trans hj)
  · show r.viewerOf p = some v ∨ ∃ j, (Function.update s.calls i c j).unsettled? = some (p, v)
    replace hfollows : r.viewingOf v = some p := hfollows
    -- what was accounted for by another call still is
    have before : s.registry.viewingOf v = some p →
        s.registry.viewerOf p = some v ∨ (s.calls i).unsettled? = some (p, v) ∨
          ∃ j, (Function.update s.calls i c j).unsettled? = some (p, v) := by
      intro hfollows
      rcases h.viewed hp hv hfollows with hviewed | ⟨j, hj⟩
      · exact .inl hviewed
      · by_cases he : j = i
        · exact .inr (.inl (he ▸ hj))
        · refine .inr (.inr ⟨j, ?_⟩)
          rw [Function.update_of_ne he]
          exact hj
    rcases hsection.accounts hp hv before hfollows with hviewed | hmoved | hother
    · exact .inl hviewed
    · refine .inr ⟨i, ?_⟩
      rw [Function.update_self]
      exact hmoved
    · exact .inr hother

/-- The accounts are in order all along. -/
theorem Accounted.run (h : s.Accounted) (schedule : List ι) : (s.run schedule).Accounted := by
  induction schedule generalizing s with
  | nil => exact h
  | cons i is ih => exact ih (h.advance i)

/-! ## What is kept while binding and clearing stay apart -/

/-- Every pilot is followed by its viewer, and the calls in progress will leave it so. -/
structure Balanced (s : Parallel ι) : Prop where
  followed : ∀ {p v}, p ≠ noConnection → v ≠ noConnection → s.registry.viewerOf p = some v →
    s.registry.viewingOf v = some p
  /-- A viewer that is claimed follows the pilot, unless the pilot will reject it. -/
  claimed : ∀ {i pilot viewer isNew}, s.calls i = .claimed pilot viewer isNew →
    pilot ≠ noConnection → s.registry.viewingOf viewer = some pilot ∨ s.registry.HasOther pilot viewer
  rejected : ∀ {i pilot viewer current}, s.calls i = .rejected pilot viewer current →
    s.registry.HasOther pilot viewer
  /-- A pilot whose viewer is cleared has no viewer. -/
  detached : ∀ {i pilot viewer}, s.calls i = .detached pilot viewer →
    s.registry.viewerOf pilot = some noConnection

variable {c : Call} {a : Answer} {pilot viewer : ConnectionId} {isNew : Bool}

/-- A call is the one that has moved, or it is where it was. -/
theorem update_cases {calls : ι → Call} {j : ι} {d : Call} (h : Function.update calls i c j = d) :
    (j = i ∧ c = d) ∨ (j ≠ i ∧ calls j = d) := by
  by_cases he : j = i
  · subst he
    exact .inl ⟨rfl, (Function.update_self j c calls).symm.trans h⟩
  · exact .inr ⟨he, (Function.update_of_ne he c calls).symm.trans h⟩

/-- A section that leaves the registry alone. -/
theorem Balanced.stay (h : s.Balanced)
    (claimed : ∀ {pilot viewer isNew}, c = .claimed pilot viewer isNew →
      s.registry.viewingOf viewer = some pilot)
    (rejected : ∀ {pilot viewer current}, c = .rejected pilot viewer current →
      s.registry.HasOther pilot viewer)
    (detached : ∀ {pilot viewer}, c ≠ .detached pilot viewer) :
    Balanced ⟨s.registry, Function.update s.calls i c⟩ := by
  refine ⟨h.followed, fun hj hp => ?_, fun hj => ?_, fun hj => ?_⟩
  · rcases update_cases hj with ⟨-, hc⟩ | ⟨-, hkept⟩
    · exact .inl (claimed hc)
    · exact h.claimed hkept hp
  · rcases update_cases hj with ⟨-, hc⟩ | ⟨-, hkept⟩
    · exact rejected hc
    · exact h.rejected hkept
  · rcases update_cases hj with ⟨-, hc⟩ | ⟨-, hkept⟩
    · exact absurd hc detached
    · exact h.detached hkept

/-- A call that is over and has left the registry alone. -/
theorem Balanced.answer (h : s.Balanced) :
    Balanced ⟨s.registry, Function.update s.calls i (.answered a)⟩ :=
  h.stay (fun hc => by cases hc) (fun hc => by cases hc) fun hc => by cases hc

/-- A viewer who follows nobody is claimed. -/
theorem Balanced.claim (h : s.Balanced) (free : s.registry.viewingOf viewer = some noConnection) :
    Balanced ⟨s.registry.modify viewer (following pilot),
      Function.update s.calls i (.claimed pilot viewer isNew)⟩ := by
  -- whoever followed a pilot is not the viewer that is claimed
  have kept : ∀ {p v}, p ≠ noConnection → s.registry.viewingOf v = some p →
      (s.registry.modify viewer (following pilot)).viewingOf v = some p := by
    intro p v hp hfollows
    rw [viewingOf_claim free, if_neg, hfollows]
    rintro rfl
    exact hp (Option.some.inj (hfollows.symm.trans free))
  refine ⟨fun {p v} hp hv hviewed => ?_, fun {j p v _} hj hp => ?_, fun {j p v current} hj => ?_,
    fun {j p v} hj => ?_⟩
  · exact kept hp (h.followed hp hv (viewerOf_claim.symm.trans hviewed))
  · rcases update_cases hj with ⟨-, hc⟩ | ⟨-, hkept⟩
    · cases hc
      left
      show (s.registry.modify viewer (following pilot)).viewingOf viewer = some pilot
      rw [viewingOf_claim free, if_pos rfl]
    · rcases h.claimed hkept hp with hfollows | ⟨w, hw, hother⟩
      · exact .inl (kept hp hfollows)
      · exact .inr ⟨w, viewerOf_claim.trans hw, hother⟩
  · rcases update_cases hj with ⟨-, hc⟩ | ⟨-, hkept⟩
    · cases hc
    · obtain ⟨w, hw, hother⟩ := h.rejected hkept
      exact ⟨w, viewerOf_claim.trans hw, hother⟩
  · rcases update_cases hj with ⟨-, hc⟩ | ⟨-, hkept⟩
    · cases hc
    · exact viewerOf_claim.trans (h.detached hkept)

/-- A pilot without a viewer takes the one that was claimed for it. -/
theorem Balanced.attach (h : s.Balanced) (apart : s.Apart)
    (call : s.calls i = .claimed pilot viewer isNew)
    (free : s.registry.viewerOf pilot = some noConnection) :
    Balanced ⟨s.registry.modify pilot (followedBy viewer),
      Function.update s.calls i (.answered a)⟩ := by
  -- a pilot that has a viewer is another one
  have other : ∀ {p w}, s.registry.viewerOf p = some w → w ≠ noConnection → p ≠ pilot := by
    rintro p w hviewed hw rfl
    exact hw (Option.some.inj (hviewed.symm.trans free))
  have claimed : ∀ {j v isNew}, s.calls j = .claimed pilot v isNew → pilot ≠ noConnection →
      s.registry.viewingOf v = some pilot := by
    intro j v isNew hj hp
    rcases h.claimed hj hp with hfollows | ⟨w, hw, hne, -⟩
    · exact hfollows
    · exact absurd rfl (other hw hne)
  refine ⟨fun {p v} hp hv hviewed => ?_, fun {j p v _} hj hp => ?_, fun {j p v current} hj => ?_,
    fun {j p v} hj => ?_⟩
  · show (s.registry.modify pilot (followedBy viewer)).viewingOf v = some p
    replace hviewed : (s.registry.modify pilot (followedBy viewer)).viewerOf p = some v := hviewed
    rw [viewingOf_attach]
    rw [viewerOf_attach free] at hviewed
    split at hviewed
    · rename_i he
      subst he
      obtain rfl := Option.some.inj hviewed
      exact claimed call hp
    · exact h.followed hp hv hviewed
  · rcases update_cases hj with ⟨-, hc⟩ | ⟨-, hkept⟩
    · cases hc
    · rcases h.claimed hkept hp with hfollows | ⟨w, hw, hne, hother⟩
      · exact .inl (viewingOf_attach.trans hfollows)
      · refine .inr ⟨w, ?_, hne, hother⟩
        show (s.registry.modify pilot (followedBy viewer)).viewerOf p = some w
        rw [viewerOf_attach free, if_neg (other hw hne), hw]
  · rcases update_cases hj with ⟨-, hc⟩ | ⟨-, hkept⟩
    · cases hc
    · obtain ⟨w, hw, hne, hother⟩ := h.rejected hkept
      refine ⟨w, ?_, hne, hother⟩
      show (s.registry.modify pilot (followedBy viewer)).viewerOf p = some w
      rw [viewerOf_attach free, if_neg (other hw hne), hw]
  · rcases update_cases hj with ⟨-, hc⟩ | ⟨-, hkept⟩
    · cases hc
    · show (s.registry.modify pilot (followedBy viewer)).viewerOf p = some noConnection
      rw [viewerOf_attach free, if_neg, h.detached hkept]
      -- nobody clears the viewer of the pilot for whom this one is bound
      rintro rfl
      exact apart.not_clearing j (by rw [call]; rfl) (by rw [hkept]; rfl)

/-- A viewer is released from a pilot that does not have it. -/
theorem Balanced.release (h : s.Balanced)
    (unviewed : viewer ≠ noConnection → s.registry.viewerOf pilot ≠ some viewer)
    (claimed : ∀ {j isNew}, s.calls j = .claimed pilot viewer isNew →
      s.registry.HasOther pilot viewer) :
    Balanced ⟨s.registry.releaseViewer pilot viewer, Function.update s.calls i (.answered a)⟩ := by
  refine ⟨fun {p v} hp hv hviewed => ?_, fun {j p v _} hj hp => ?_, fun {j p v current} hj => ?_,
    fun {j p v} hj => ?_⟩
  · replace hviewed : s.registry.viewerOf p = some v := viewerOf_release.symm.trans hviewed
    have hfollows := h.followed hp hv hviewed
    show (s.registry.releaseViewer pilot viewer).viewingOf v = some p
    rw [viewingOf_release, if_neg, hfollows]
    rintro ⟨rfl, hheld⟩
    obtain rfl := Option.some.inj (hfollows.symm.trans hheld)
    exact unviewed hv hviewed
  · rcases update_cases hj with ⟨-, hc⟩ | ⟨-, hkept⟩
    · cases hc
    · have taken : s.registry.HasOther p v → (s.registry.releaseViewer pilot viewer).HasOther p v := by
        rintro ⟨w, hw, hother⟩
        exact ⟨w, viewerOf_release.trans hw, hother⟩
      rcases h.claimed hkept hp with hfollows | hother
      -- a claim loses its viewer only to a release for the same pilot, and then the pilot has another one
      · by_cases hsame : v = viewer ∧ s.registry.viewingOf viewer = some pilot
        · obtain ⟨rfl, hheld⟩ := hsame
          obtain rfl := Option.some.inj (hfollows.symm.trans hheld)
          exact .inr (taken (claimed hkept))
        · left
          show (s.registry.releaseViewer pilot viewer).viewingOf v = some p
          rw [viewingOf_release, if_neg hsame, hfollows]
      · exact .inr (taken hother)
  · rcases update_cases hj with ⟨-, hc⟩ | ⟨-, hkept⟩
    · cases hc
    · obtain ⟨w, hw, hother⟩ := h.rejected hkept
      exact ⟨w, viewerOf_release.trans hw, hother⟩
  · rcases update_cases hj with ⟨-, hc⟩ | ⟨-, hkept⟩
    · cases hc
    · exact viewerOf_release.trans (h.detached hkept)

/-- A pilot for whom nobody is bound drops its viewer. -/
theorem Balanced.detach (h : s.Balanced) (viewed : s.registry.viewerOf pilot = some viewer)
    (unbound : ∀ {j}, j ≠ i → (s.calls j).binding? ≠ some pilot) :
    Balanced ⟨s.registry.modify pilot (followedBy noConnection),
      Function.update s.calls i (.detached pilot viewer)⟩ := by
  -- a pilot other than this one keeps the viewer that it has
  have taken : ∀ {p v}, p ≠ pilot → s.registry.HasOther p v →
      (s.registry.modify pilot (followedBy noConnection)).HasOther p v := by
    rintro p v hne ⟨w, hw, hother⟩
    refine ⟨w, ?_, hother⟩
    rw [viewerOf_attach viewed, if_neg hne, hw]
  refine ⟨fun {p v} hp hv hviewed => ?_, fun {j p v isNew} hj hp => ?_, fun {j p v current} hj => ?_,
    fun {j p v} hj => ?_⟩
  · show (s.registry.modify pilot (followedBy noConnection)).viewingOf v = some p
    replace hviewed : (s.registry.modify pilot (followedBy noConnection)).viewerOf p = some v :=
      hviewed
    rw [viewingOf_attach]
    rw [viewerOf_attach viewed] at hviewed
    split at hviewed
    · exact absurd (Option.some.inj hviewed).symm hv
    · exact h.followed hp hv hviewed
  · rcases update_cases hj with ⟨-, hc⟩ | ⟨hmoved, hkept⟩
    · cases hc
    · have hne : p ≠ pilot := by
        rintro rfl
        exact unbound hmoved (by rw [hkept]; rfl)
      rcases h.claimed hkept hp with hfollows | hother
      · exact .inl (viewingOf_attach.trans hfollows)
      · exact .inr (taken hne hother)
  · rcases update_cases hj with ⟨-, hc⟩ | ⟨hmoved, hkept⟩
    · cases hc
    · have hne : p ≠ pilot := by
        rintro rfl
        exact unbound hmoved (by rw [hkept]; rfl)
      exact taken hne (h.rejected hkept)
  · show (s.registry.modify pilot (followedBy noConnection)).viewerOf p = some noConnection
    rw [viewerOf_attach viewed]
    rcases update_cases hj with ⟨-, hc⟩ | ⟨-, hkept⟩
    · cases hc
      exact if_pos rfl
    · split
      · rfl
      · exact h.detached hkept

/-- A section leaves everything balanced if it finds and leaves binding and clearing apart. -/
theorem Balanced.advance (h : s.Balanced) (hs : s.Accounted) (before : s.Apart)
    (after : (s.advance i).Apart) : (s.advance i).Balanced := by
  obtain ⟨c, r, hadvance, hsection⟩ := hs.advance_section i
  rw [hadvance] at after ⊢
  generalize hcall : s.calls i = d at hsection
  cases hsection with
  | refused | kept | declined | unbound | finished => exact h.answer
  | claimed hlive hfree => exact h.claim hfree
  | held hlive hfollows =>
    refine h.stay (fun hc => ?_) (fun hc => by cases hc) fun hc => by cases hc
    cases hc
    exact hfollows
  | attached hfree => exact h.attach before hcall hfree
  | rejected hviewed htaken hother =>
    refine h.stay (fun hc => by cases hc) (fun hc => ?_) fun hc => by cases hc
    cases hc
    exact ⟨_, hviewed, htaken, hother⟩
  | @released pilot viewer current a =>
    have hrejected := h.rejected hcall
    refine h.release (fun _ hviewed => ?_) fun _ => hrejected
    obtain ⟨w, hw, -, hother⟩ := hrejected
    exact hother (Option.some.inj (hw.symm.trans hviewed))
  | @detached pilot viewer expected hviewed =>
    refine h.detach hviewed fun {j} hne hbinds => ?_
    have hbinds' : (Function.update s.calls i (.detached pilot viewer) j).binding? = some pilot := by
      rw [Function.update_of_ne hne]
      exact hbinds
    have hclears : (Function.update s.calls i (.detached pilot viewer) i).clearing? = some pilot := by
      rw [Function.update_self]
      rfl
    exact after.not_clearing i hbinds' hclears
  | @freed pilot viewer a =>
    refine h.release (fun hv hviewed => ?_) fun {j isNew} hj => ?_
    · exact hv (Option.some.inj (hviewed.symm.trans (h.detached hcall)))
    · exact absurd (by rw [hcall]; rfl) (before.not_clearing i (by rw [hj]; rfl))

/-- Along a run, everything stays balanced if binding and clearing are apart all the way. -/
theorem Balanced.run (h : s.Balanced) (hs : s.Accounted) (schedule : List ι)
    (apart : ∀ is, is <+: schedule → (s.run is).Apart) : (s.run schedule).Balanced := by
  induction schedule generalizing s with
  | nil => exact h
  | cons i is ih =>
    have hbefore : s.Apart := apart [] List.nil_prefix
    have hafter : (s.advance i).Apart := apart [i] (List.prefix_append [i] is)
    exact ih (h.advance hs hbefore hafter) (hs.advance i) fun js hjs =>
      apart (i :: js) (List.cons_prefix_cons.mpr ⟨rfl, hjs⟩)

/-! ## When all calls are over -/

omit [DecidableEq ι] in
/-- If viewing is mutual and no call is in progress, everything is accounted for. -/
theorem accounted_of_reciprocal (fair : s.registry.Reciprocal) (idle : s.AtRest) : s.Accounted := by
  refine ⟨fun {i _ _ _} hi => ?_, fun {p v} hp hv hfollows => .inl ((fair p v hp hv).mpr hfollows)⟩
  have hidle := idle i
  rw [hi] at hidle
  cases hidle

omit [DecidableEq ι] in
/-- At rest, what is reciprocal is balanced. -/
theorem balanced_of_reciprocal (fair : s.registry.Reciprocal) (idle : s.AtRest) : s.Balanced := by
  have none : ∀ {i c}, s.calls i = c → c.inProgress = true → False := by
    intro i c hi hc
    have hidle := idle i
    rw [hi, hc] at hidle
    cases hidle
  exact ⟨fun {p v} hp hv hviewed => (fair p v hp hv).mp hviewed, fun hi _ => (none hi rfl).elim,
    fun hi => (none hi rfl).elim, fun hi => (none hi rfl).elim⟩

/-- However the sections of calls that bind and clear are ordered, when no call is in progress any more
whoever follows a pilot is the viewer of that pilot; and viewing is mutual again if no pilot was bound
while its viewer was cleared. -/
theorem reciprocal_when_apart (fair : s.registry.Reciprocal) (idle : s.AtRest) (schedule : List ι)
    (rest : (s.run schedule).AtRest) :
    (∀ p v, p ≠ noConnection → v ≠ noConnection →
      (s.run schedule).registry.viewingOf v = some p →
      (s.run schedule).registry.viewerOf p = some v) ∧
    ((∀ is, is <+: schedule → (s.run is).Apart) → (s.run schedule).registry.Reciprocal) := by
  have hs := accounted_of_reciprocal fair idle
  have hb := balanced_of_reciprocal fair idle
  have hviewed : ∀ p v, p ≠ noConnection → v ≠ noConnection →
      (s.run schedule).registry.viewingOf v = some p →
      (s.run schedule).registry.viewerOf p = some v := by
    intro p v hp hv hfollows
    rcases (hs.run schedule).viewed hp hv hfollows with hviewed | ⟨i, hi⟩
    · exact hviewed
    · -- nothing is unsettled when no call is in progress
      rw [unsettled?_of_atRest rest] at hi
      cases hi
  refine ⟨hviewed, fun apart p v hp hv => ⟨?_, hviewed p v hp hv⟩⟩
  exact (hb.run hs schedule apart).followed hp hv

end Parallel

/-! ## Calls without a break -/

section Alone

variable {r r' : Registry} {c : Call} {pilot viewer : ConnectionId}

/-- The sections of a call that is alone follow each other. -/
theorem Parallel.run_alone : (⟨r, fun _ => c⟩ : Parallel Unit).run [(), (), ()]
    = ⟨(c.finish r).2, fun _ => (c.finish r).1⟩ := by
  have hadvance : ∀ (r : Registry) (c : Call), (⟨r, fun _ => c⟩ : Parallel Unit).advance ()
      = ⟨(c.step r).2, fun _ => (c.step r).1⟩ := by
    intro r c
    unfold Parallel.advance
    congr 1
  simp only [Parallel.run, List.foldl_cons, List.foldl_nil, hadvance]
  rfl

/-- A call that nothing interrupts keeps viewing mutual. -/
theorem Reciprocal.finish (fair : r.Reciprocal) (idle : c.inProgress = false)
    (done : (c.finish r).1.inProgress = false) : (c.finish r).2.Reciprocal := by
  -- one call does not bind and clear at the same time
  have apart : ∀ s : Parallel Unit, s.Apart := by
    intro s i j hbinds
    obtain rfl : i = j := rfl
    cases hcall : s.calls i <;> rw [hcall] at hbinds <;>
      first | exact (Option.some_ne_none _).symm | cases hbinds
  have hs := Parallel.accounted_of_reciprocal (s := ⟨r, fun _ : Unit => c⟩) fair fun _ => idle
  have hb := Parallel.balanced_of_reciprocal (s := ⟨r, fun _ : Unit => c⟩) fair fun _ => idle
  have hs' := hs.run [(), (), ()]
  have hb' := hb.run hs [(), (), ()] fun _ _ => apart _
  rw [Parallel.run_alone] at hs' hb'
  intro p v hp hv
  refine ⟨hb'.followed hp hv, fun hfollows => ?_⟩
  rcases hs'.viewed hp hv hfollows with hviewed | ⟨i, hi⟩
  · exact hviewed
  · rw [Parallel.unsettled?_of_atRest fun _ => done] at hi
    cases hi

/-- A binding without a break leaves the viewings reciprocal. -/
theorem Reciprocal.bindViewer {outcome : ViewerBind} (fair : r.Reciprocal)
    (h : r.bindViewer pilot viewer = .ok (outcome, r')) : r'.Reciprocal := by
  have hfinish := @finish_bind r pilot viewer
  rw [h] at hfinish
  have hfair := fair.finish (c := .bind pilot viewer) rfl (by rw [hfinish]; rfl)
  rwa [hfinish] at hfair

/-- A clearing without a break leaves the viewings reciprocal. -/
theorem Reciprocal.clearViewer {expected : Option ConnectionId} (fair : r.Reciprocal)
    (h : r.clearViewer pilot expected = some (viewer, r')) : r'.Reciprocal := by
  have hfinish := @finish_clear r pilot expected
  rw [h] at hfinish
  have hfair := fair.finish (c := .clear pilot expected) rfl (by rw [hfinish]; rfl)
  rwa [hfinish] at hfair

end Alone

/-! ## Two pilots and one viewer -/

/-- A pilot has a viewer, and a second pilot has logged in. -/
def rivals : Registry :=
  ((Relay.empty .empty).run
    (Event.boarding ++ [.accept none .standard 0, Event.login 4 .pilot])).registry

/-- The registry of the rivals is sound. -/
theorem sound_rivals : rivals.Sound :=
  ((Relay.steady_empty .empty).run
    (Event.boarding ++ [.accept none .standard 0, Event.login 4 .pilot]) (by decide)).sound

namespace Parallel

/-- The viewer leaves its pilot, and then both pilots accept it. -/
def contest : Parallel (Fin 3) := ⟨rivals, ![.clear 1 (some 3), .bind 1 3, .bind 4 3]⟩

/-- The pilots accept the viewer at the same time, and the one who claims it first gets it. -/
theorem reciprocal_when_apart_contest :
    (contest.run [0, 0, 2, 1, 2]).registry.Reciprocal ∧
      (contest.run [0, 0, 2, 1, 2]).registry.viewerOf 4 = some 3 := by
  have hruns := reciprocal_when_apart (s := contest) sound_rivals.reciprocal (by unfold AtRest; decide)
    [0, 0, 2, 1, 2] (by unfold AtRest; decide)
  have apart : ∀ is ∈ List.inits [0, 0, 2, 1, 2], (contest.run is).Apart := by
    unfold Apart
    decide +kernel
  exact ⟨hruns.2 fun is his => apart is ((List.mem_inits _ _).mpr his),
    hruns.1 4 3 (by decide) (by decide) (by decide)⟩

/-- The viewer leaves its pilot while that accepts it again, and then the other pilot accepts it. -/
def crossing : Parallel (Fin 3) := ⟨rivals, ![.bind 1 3, .clear 1 (some 3), .bind 4 3]⟩

/-- The claim of the first pilot finds the viewer still following, and the pilot takes the viewer after
that has been released: so the viewer is free for the second pilot, and both have it. -/
theorem viewer_of_two_pilots :
    crossing.registry.Reciprocal ∧ crossing.AtRest ∧ (crossing.run [0, 1, 1, 0, 2, 2]).AtRest ∧
      (crossing.run [0, 1, 1, 0, 2, 2]).registry.viewerOf 1 = some 3 ∧
      (crossing.run [0, 1, 1, 0, 2, 2]).registry.viewerOf 4 = some 3 ∧
      ¬ (crossing.run [0, 1, 1, 0, 2, 2]).registry.Reciprocal := by
  refine ⟨sound_rivals.reciprocal, by unfold AtRest; decide, by unfold AtRest; decide, by decide,
    by decide, ?_⟩
  intro fair
  exact absurd ((fair 1 3 (by decide) (by decide)).mp (by decide)) (by decide)

end Parallel

end Registry

end FlightRelay
