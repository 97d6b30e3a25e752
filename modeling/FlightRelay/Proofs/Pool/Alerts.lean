import FlightRelay.Pool.Backlog

/-!
# Alerts on a backlog

The monitor remembers two things only: whether an episode is open, and when it last reported.  Here each of
its alerts is told from the whole history instead.  An episode lasts from an escalation for as long as no
fewer tasks wait than the size of the policy; there is one escalation in an episode, and a warning keeps
the interval from every report before it.
-/

namespace FlightRelay.Pool

/-- One look at the backlog. -/
structure Sighting where
  /-- How many tasks wait. -/
  queued : Nat
  /-- How long the oldest of them has waited. -/
  oldest : Nat
  /-- The clock. -/
  now : Nat
  deriving DecidableEq, Repr

/-- A sighting and what was said of it. -/
structure Report where
  sighting : Sighting
  alert : BacklogAlert
  deriving DecidableEq, Repr

/-- Both bounds of the policy are passed. -/
def Sighting.Exceeds (policy : BacklogPolicy) (s : Sighting) : Prop :=
  policy.size < s.queued ∧ policy.wait < s.oldest

instance (policy : BacklogPolicy) (s : Sighting) : Decidable (s.Exceeds policy) :=
  inferInstanceAs (Decidable (_ ∧ _))

/-- The backlog was brought to somebody's notice. -/
def Report.IsNotice (r : Report) : Prop := r.alert = .warn ∨ r.alert = .escalate

namespace BacklogMonitor

/-- What the monitor says of a sighting, and what it remembers of it. -/
def look (policy : BacklogPolicy) (m : BacklogMonitor) (s : Sighting) : BacklogAlert × BacklogMonitor :=
  m.observe policy s.queued s.oldest s.now

/-- What the monitor says of sightings, one after another. -/
def reports (policy : BacklogPolicy) : BacklogMonitor → List Sighting → List Report
  | _, [] => []
  | m, s :: sightings => ⟨s, (m.look policy s).1⟩ :: reports policy (m.look policy s).2 sightings

/-- What the monitor remembers of sightings, one after another. -/
def follow (policy : BacklogPolicy) (m : BacklogMonitor) (sightings : List Sighting) : BacklogMonitor :=
  sightings.foldl (fun m s => (m.look policy s).2) m

end BacklogMonitor

/-! ## The policy -/

section Policy

variable (policy : BacklogPolicy)

/-- An escalation was made, and no fewer tasks waited at any time since. -/
def EpisodeOpen (earlier : List Report) : Prop :=
  ∃ before r since, earlier = before ++ r :: since ∧ r.alert = .escalate ∧
    ∀ t ∈ since, policy.size ≤ t.sighting.queued

/-- A sighting falls into an episode. -/
def InEpisode (earlier : List Report) (s : Sighting) : Prop :=
  EpisodeOpen policy earlier ∧ policy.size ≤ s.queued

/-- A notice was given, and the interval has not passed since. -/
def NoticedLately (earlier : List Report) (now : Nat) : Prop :=
  ∃ r ∈ earlier, r.IsNotice ∧ now < r.sighting.now + policy.interval

/-- What the policy demands of a report, after all earlier ones. -/
structure Conforms (earlier : List Report) (r : Report) : Prop where
  clear_iff : r.alert = .clear ↔ r.sighting.queued = 0
  escalate_iff : r.alert = .escalate ↔
    r.sighting.queued ≠ 0 ∧ r.sighting.Exceeds policy ∧ ¬ InEpisode policy earlier r.sighting
  warn_iff : r.alert = .warn ↔
    r.sighting.queued ≠ 0 ∧ ¬ InEpisode policy earlier r.sighting ∧ ¬ r.sighting.Exceeds policy ∧
      ¬ NoticedLately policy earlier r.sighting.now
  suppressed_iff : r.alert = .suppressed ↔
    r.sighting.queued ≠ 0 ∧ (InEpisode policy earlier r.sighting ∨
      ¬ r.sighting.Exceeds policy ∧ NoticedLately policy earlier r.sighting.now)

end Policy

variable {policy : BacklogPolicy} {m : BacklogMonitor} {s : Sighting} {earlier : List Report}
  {r : Report} {sightings : List Sighting}

/-- An episode is open after an escalation, and until the backlog falls below the size. -/
theorem episodeOpen_concat : EpisodeOpen policy (earlier ++ [r]) ↔
    r.alert = .escalate ∨ InEpisode policy earlier r.sighting := by
  constructor
  · rintro ⟨before, first, since, heq, halert, hsince⟩
    rcases List.eq_nil_or_concat since with rfl | ⟨since, last, rfl⟩
    · obtain ⟨rfl, hlast⟩ := List.append_inj' heq rfl
      obtain rfl := List.singleton_inj.mp hlast
      exact .inl halert
    · have hsplit : earlier ++ [r] = (before ++ first :: since) ++ [last] := by
        rw [heq]
        simp
      obtain ⟨rfl, hlast⟩ := List.append_inj' hsplit rfl
      obtain rfl := List.singleton_inj.mp hlast
      refine .inr ⟨⟨before, first, since, rfl, halert, ?_⟩, hsince r (by simp)⟩
      intro t ht
      exact hsince t (by simp [ht])
  · rintro (halert | ⟨⟨before, first, since, rfl, halert, hsince⟩, hsize⟩)
    · exact ⟨earlier, r, [], rfl, halert, nofun⟩
    · refine ⟨before, first, since ++ [r], by simp, halert, ?_⟩
      intro t ht
      rcases List.mem_append.mp ht with hmem | hlast
      · exact hsince t hmem
      · rw [List.mem_singleton.mp hlast]
        exact hsize

/-! ## One look -/

namespace BacklogMonitor

/-- The monitor holds that the sighting falls into an episode. -/
def HoldsOpen (policy : BacklogPolicy) (m : BacklogMonitor) (s : Sighting) : Prop :=
  m.escalated = true ∧ policy.size ≤ s.queued

/-- All that can come of one look. -/
inductive Looks (policy : BacklogPolicy) (m : BacklogMonitor) (s : Sighting) :
    BacklogAlert → BacklogMonitor → Prop
  /-- Nothing waits.  An episode ends with that, unless no number is below the size. -/
  | clear (escalated : Bool) (nothing : s.queued = 0)
      (stays : escalated = true ↔ m.HoldsOpen policy s) :
      Looks policy m s .clear ⟨escalated, m.lastReport⟩
  | escalate (waits : s.queued ≠ 0) (exceeds : s.Exceeds policy) (closed : ¬ m.HoldsOpen policy s) :
      Looks policy m s .escalate ⟨true, some s.now⟩
  | withheld (waits : s.queued ≠ 0) (isOpen : m.HoldsOpen policy s) :
      Looks policy m s .suppressed ⟨true, m.lastReport⟩
  | warn (waits : s.queued ≠ 0) (within : ¬ s.Exceeds policy) (closed : ¬ m.HoldsOpen policy s)
      (due : m.reportedLately policy s.now = false) :
      Looks policy m s .warn ⟨false, some s.now⟩
  /-- It is too early for another warning. -/
  | spared (waits : s.queued ≠ 0) (within : ¬ s.Exceeds policy) (closed : ¬ m.HoldsOpen policy s)
      (lately : m.reportedLately policy s.now = true) :
      Looks policy m s .suppressed ⟨false, m.lastReport⟩

/-- Every look has one of these results. -/
theorem looks (policy : BacklogPolicy) (m : BacklogMonitor) (s : Sighting) :
    Looks policy m s (m.look policy s).1 (m.look policy s).2 := by
  obtain ⟨isOpen, hopen⟩ : ∃ b, (m.escalated && policy.size ≤ s.queued) = b := ⟨_, rfl⟩
  have hholds : isOpen = true ↔ m.HoldsOpen policy s := by
    rw [← hopen]
    simp [HoldsOpen]
  unfold look observe
  simp only [hopen]
  split
  · rename_i hnothing
    exact .clear isOpen hnothing hholds
  · rename_i hwaits
    split
    · rename_i hexceeds
      have hexceeds : s.Exceeds policy := by simpa [Sighting.Exceeds] using hexceeds
      cases isOpen with
      | true => exact .withheld hwaits (hholds.mp rfl)
      | false => exact .escalate hwaits hexceeds fun h => Bool.false_ne_true (hholds.mpr h)
    · rename_i hwithin
      have hwithin : ¬ s.Exceeds policy := by simpa [Sighting.Exceeds] using hwithin
      cases isOpen with
      | true => exact .withheld hwaits (hholds.mp rfl)
      | false =>
        have hclosed : ¬ m.HoldsOpen policy s := fun h => Bool.false_ne_true (hholds.mpr h)
        have hsame : ({ m with escalated := false } : BacklogMonitor).reportedLately policy s.now
            = m.reportedLately policy s.now := rfl
        rw [Bool.false_or, hsame]
        cases hlately : m.reportedLately policy s.now with
        | true => exact .spared hwaits hwithin hclosed hlately
        | false => exact .warn hwaits hwithin hclosed hlately

end BacklogMonitor

/-! ## What the monitor remembers -/

/-- The monitor remembers of the earlier reports what the policy asks for. -/
structure Recalls (policy : BacklogPolicy) (m : BacklogMonitor) (earlier : List Report) : Prop where
  episode : m.escalated = true ↔ EpisodeOpen policy earlier
  given : ∀ last, m.lastReport = some last → ∃ r ∈ earlier, r.IsNotice ∧ r.sighting.now = last
  /-- No notice is later than the one that is remembered. -/
  latest : ∀ r ∈ earlier, r.IsNotice → ∃ last, m.lastReport = some last ∧ r.sighting.now ≤ last

/-- A new monitor recalls nothing. -/
theorem recalls_start : Recalls policy .start [] where
  episode := by
    constructor
    · nofun
    · rintro ⟨before, r, since, heq, -⟩
      simp at heq
  given := nofun
  latest := nofun

namespace Recalls

/-- The monitor holds an episode open exactly while there is one. -/
theorem holdsOpen_iff (h : Recalls policy m earlier) :
    m.HoldsOpen policy s ↔ InEpisode policy earlier s :=
  and_congr_left' h.episode

/-- Of all notices only the last one matters, as time does not go back. -/
theorem reportedLately_iff (h : Recalls policy m earlier)
    (hnow : ∀ r ∈ earlier, r.sighting.now ≤ s.now) :
    m.reportedLately policy s.now = true ↔ NoticedLately policy earlier s.now := by
  rw [BacklogMonitor.reportedLately, Option.any_eq_true]
  constructor
  · rintro ⟨last, hlast, hwithin⟩
    obtain ⟨r, hr, hnotice, rfl⟩ := h.given last hlast
    have hbefore := hnow r hr
    have hwithin : s.now - r.sighting.now < policy.interval := of_decide_eq_true hwithin
    exact ⟨r, hr, hnotice, by omega⟩
  · rintro ⟨r, hr, hnotice, hwithin⟩
    obtain ⟨last, hlast, hle⟩ := h.latest r hr hnotice
    obtain ⟨t, ht, -, rfl⟩ := h.given last hlast
    have hbefore := hnow t ht
    exact ⟨t.sighting.now, hlast, decide_eq_true (by omega)⟩

/-- A report that is no notice leaves the notices as they are. -/
theorem silent {m' : BacklogMonitor} (h : Recalls policy m earlier) (hquiet : ¬ r.IsNotice)
    (hlast : m'.lastReport = m.lastReport)
    (hepisode : m'.escalated = true ↔ InEpisode policy earlier r.sighting) :
    Recalls policy m' (earlier ++ [r]) where
  episode := by
    rw [episodeOpen_concat, hepisode]
    exact (or_iff_right fun halert => hquiet (.inr halert)).symm
  given last hsome := by
    rw [hlast] at hsome
    obtain ⟨t, ht, hnotice⟩ := h.given last hsome
    exact ⟨t, List.mem_append_left _ ht, hnotice⟩
  latest t ht hnotice := by
    rw [hlast]
    rcases List.mem_append.mp ht with hmem | hlast
    · exact h.latest t hmem hnotice
    · rw [List.mem_singleton.mp hlast] at hnotice
      exact absurd hnotice hquiet

/-- A notice is the last one from now on. -/
theorem noticed {m' : BacklogMonitor} (hnotice : r.IsNotice)
    (hnow : ∀ t ∈ earlier, t.sighting.now ≤ r.sighting.now) (hlast : m'.lastReport = some r.sighting.now)
    (hepisode : m'.escalated = true ↔ EpisodeOpen policy (earlier ++ [r])) :
    Recalls policy m' (earlier ++ [r]) where
  episode := hepisode
  given last hsome := by
    rw [hlast] at hsome
    exact ⟨r, by simp, hnotice, Option.some.inj hsome⟩
  latest t ht _ := by
    refine ⟨r.sighting.now, hlast, ?_⟩
    rcases List.mem_append.mp ht with hmem | hlast
    · exact hnow t hmem
    · exact Nat.le_of_eq (congrArg (·.sighting.now) (List.mem_singleton.mp hlast))

/-- One look is reported as the policy demands, and remembered. -/
theorem look (h : Recalls policy m earlier) (hnow : ∀ r ∈ earlier, r.sighting.now ≤ s.now) :
    Conforms policy earlier ⟨s, (m.look policy s).1⟩ ∧
      Recalls policy (m.look policy s).2 (earlier ++ [⟨s, (m.look policy s).1⟩]) := by
  have hepisode := h.holdsOpen_iff (s := s)
  have hlately := h.reportedLately_iff hnow
  have hlooks := m.looks policy s
  generalize (m.look policy s).1 = alert, (m.look policy s).2 = m' at hlooks ⊢
  -- the monitor's two memories mean what the history says: whether an episode is open, and when the last
  -- notice was
  cases hlooks with
  | clear escalated nothing stays =>
    constructor
    · constructor <;> simp [nothing]
    · exact h.silent (by simp [Report.IsNotice]) rfl (stays.trans hepisode)
  | escalate waits exceeds closed =>
    rw [hepisode] at closed
    constructor
    · constructor <;> simp [waits, exceeds, closed]
    · exact noticed (.inr rfl) hnow rfl (by simp [episodeOpen_concat])
  | withheld waits isOpen =>
    rw [hepisode] at isOpen
    constructor
    · constructor <;> simp [waits, isOpen]
    · exact h.silent (by simp [Report.IsNotice]) rfl (by simp [isOpen])
  | warn waits within closed due =>
    rw [hepisode] at closed
    rw [← Bool.not_eq_true, hlately] at due
    constructor
    · constructor <;> simp [waits, within, closed, due]
    · exact noticed (.inl rfl) hnow rfl (by simp [episodeOpen_concat, closed])
  | spared waits within closed lately =>
    rw [hepisode] at closed
    rw [hlately] at lately
    constructor
    · constructor <;> simp [waits, within, closed, lately]
    · exact h.silent (by simp [Report.IsNotice]) rfl (by simp [closed])

/-- Every report of a run is as the policy demands. -/
theorem reports (h : Recalls policy m earlier)
    (hnow : (earlier.map Report.sighting ++ sightings).Pairwise fun s t => s.now ≤ t.now) :
    ∀ before r after, m.reports policy sightings = before ++ r :: after →
      Conforms policy (earlier ++ before) r := by
  induction sightings generalizing m earlier with
  | nil =>
    intro before r after heq
    simp [BacklogMonitor.reports] at heq
  | cons s sightings ih =>
    have hbefore : ∀ r ∈ earlier, r.sighting.now ≤ s.now := by
      intro r hr
      exact (List.pairwise_append.mp hnow).2.2 r.sighting (List.mem_map_of_mem hr) s List.mem_cons_self
    obtain ⟨hconforms, hrecalls⟩ := h.look hbefore
    intro before r after heq
    rw [BacklogMonitor.reports] at heq
    cases before with
    | nil =>
      obtain ⟨rfl, -⟩ := List.cons_eq_cons.mp heq
      rw [List.append_nil]
      exact hconforms
    | cons first before =>
      obtain ⟨rfl, hrest⟩ := List.cons_eq_cons.mp heq
      have hlater := ih hrecalls (by simpa using hnow) before r after hrest
      simpa using hlater

end Recalls

/-! ## The hysteresis of the alerts -/

/-- As long as time does not go back, the alerts keep to the policy: each is what the history demands,
between two escalations fewer tasks wait than the size at some time, and a warning keeps the interval from
every notice before it. -/
theorem alerts_conform (policy : BacklogPolicy) (sightings : List Sighting)
    (hnow : sightings.Pairwise fun s t => s.now ≤ t.now) :
    (∀ earlier r later, BacklogMonitor.start.reports policy sightings = earlier ++ r :: later →
      Conforms policy earlier r) ∧
    (∀ earlier r between t later,
      BacklogMonitor.start.reports policy sightings = earlier ++ r :: (between ++ t :: later) →
      (r.alert = .escalate → t.alert = .escalate → ∃ u ∈ between, u.sighting.queued < policy.size) ∧
      (r.IsNotice → t.alert = .warn → r.sighting.now + policy.interval ≤ t.sighting.now)) := by
  have hconforms : ∀ earlier r later,
      BacklogMonitor.start.reports policy sightings = earlier ++ r :: later →
        Conforms policy earlier r := by
    intro earlier r later heq
    exact recalls_start.reports hnow earlier r later heq
  refine ⟨hconforms, ?_⟩
  intro earlier r between t later heq
  have ht : Conforms policy (earlier ++ r :: between) t := by
    refine hconforms _ t later ?_
    rw [heq, List.append_assoc, List.cons_append]
  constructor
  · intro hr halert
    obtain ⟨-, hexceeds, hclosed⟩ := ht.escalate_iff.mp halert
    -- with the backlog at the size all the while, the first escalation's episode would still be open
    by_cases hsome : ∃ u ∈ between, u.sighting.queued < policy.size
    · exact hsome
    · have hall : ∀ u ∈ between, policy.size ≤ u.sighting.queued := by simpa using hsome
      exact absurd ⟨⟨earlier, r, between, rfl, hr, hall⟩, Nat.le_of_lt hexceeds.1⟩ hclosed
  · intro hnotice halert
    obtain ⟨-, -, -, hdue⟩ := ht.warn_iff.mp halert
    apply Nat.not_lt.mp
    intro hearly
    exact hdue ⟨r, by simp, hnotice, hearly⟩

/-- A backlog that passes both bounds, holds at the size, goes below it, and is back within no time. -/
def relapse : List Sighting :=
  [⟨3, 9, 0⟩, ⟨2, 9, 5⟩, ⟨1, 0, 6⟩, ⟨1, 0, 10⟩, ⟨3, 9, 10⟩, ⟨0, 0, 12⟩]

/-- What is said between the two escalations of the relapse. -/
def remission : List Report := [⟨⟨2, 9, 5⟩, .suppressed⟩, ⟨⟨1, 0, 6⟩, .suppressed⟩, ⟨⟨1, 0, 10⟩, .warn⟩]

theorem alerts_conform_relapse :
    (relapse.Pairwise fun s t => s.now ≤ t.now) ∧
    BacklogMonitor.start.reports ⟨2, 5, 10⟩ relapse
      = ⟨⟨3, 9, 0⟩, .escalate⟩ :: (remission ++ [⟨⟨3, 9, 10⟩, .escalate⟩, ⟨⟨0, 0, 12⟩, .clear⟩]) ∧
    Conforms ⟨2, 5, 10⟩ (⟨⟨3, 9, 0⟩, .escalate⟩ :: remission) ⟨⟨3, 9, 10⟩, .escalate⟩ ∧
    (∃ u ∈ remission, u.sighting.queued < 2) ∧ 0 + 10 ≤ 10 := by
  have hnow : relapse.Pairwise fun s t => s.now ≤ t.now := by decide
  obtain ⟨hconforms, hspaced⟩ := alerts_conform ⟨2, 5, 10⟩ relapse hnow
  have hagain := hspaced [] ⟨⟨3, 9, 0⟩, .escalate⟩ remission ⟨⟨3, 9, 10⟩, .escalate⟩ _ rfl
  have hwarned := hspaced [] ⟨⟨3, 9, 0⟩, .escalate⟩ (remission.take 2) ⟨⟨1, 0, 10⟩, .warn⟩ _ rfl
  exact ⟨hnow, by decide, hconforms _ _ _ rfl, hagain.1 rfl rfl, hwarned.2 (.inr rfl) rfl⟩

end FlightRelay.Pool
