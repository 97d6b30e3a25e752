import FlightRelay.Bandwidth
import Mathlib.Algebra.Ring.Nat
import Mathlib.Data.List.Induction

/-!
# The meter and all that was sent

A meter forgets samples from the front alone, and only when it is used.  What it reports is nevertheless
told from all that was ever sent: the rate from the samples of the window that ends now, the totals from
every sample.  Sums are words of 64 bits.  Whoever asks the meter changes no later answer.
-/

namespace FlightRelay.BandwidthMeter

/-! ## Uses of a meter -/

/-- A frame is counted, or somebody asks for the rate. -/
inductive Use where
  | record (bytes : UInt64) (now : Nat)
  | query (now : Nat)

/-- When a meter is used. -/
def Use.time : Use → Nat
  | .record _ now => now
  | .query now => now

/-- What is counted, and when. -/
def Use.sample? : Use → Option (Nat × UInt64)
  | .record bytes now => some (now, bytes)
  | .query _ => none

/-- The meter after it was used. -/
def use (m : BandwidthMeter) : Use → BandwidthMeter
  | .record bytes now => m.record bytes now
  | .query now => (m.rate now).2

/-- A meter after all its uses. -/
def after (window : Nat) (past : List Use) : BandwidthMeter := past.foldl use (start window)

/-- One use comes after the other, and now is not before any of them. -/
structure InOrder (past : List Use) (now : Nat) : Prop where
  ascending : past.Pairwise fun u v => u.time ≤ v.time
  le_now : ∀ u ∈ past, u.time ≤ now

/-! ## What was sent -/

/-- All that was ever counted, oldest first. -/
def recorded (past : List Use) : List (Nat × UInt64) := past.filterMap Use.sample?

/-- The samples of a window that ends now, its first moment included. -/
def inWindow (window now : Nat) (samples : List (Nat × UInt64)) : List (Nat × UInt64) :=
  samples.filter fun s => now - s.1 ≤ window

/-- All bytes of some samples. -/
def bytesOf (samples : List (Nat × UInt64)) : Nat := (samples.map fun s => s.2.toNat).sum

/-- What a meter reports, told from all that was sent. -/
structure Recalls (window : Nat) (past : List Use) (now : Nat) (m : BandwidthMeter) : Prop where
  /-- The samples that are kept at a query are those of the window. -/
  samples : (m.rate now).2.samples = inWindow window now (recorded past)
  kept : (m.rate now).2.kept = (bytesOf (inWindow window now (recorded past))).toUInt64
  rate : (m.rate now).1
    = (bytesOf (inWindow window now (recorded past))).toUInt64.toFloat / secondsOfNanos window
  bytes : m.bytes = (bytesOf (recorded past)).toUInt64
  frames : m.frames = (recorded past).length.toUInt64
  /-- All three are what is reported. -/
  stats : (m.stats now).1 = ⟨m.bytes, m.frames, (m.rate now).1⟩
  /-- Whoever has counted the same gives the same report, whatever else was asked. -/
  unmoved : ∀ other, InOrder other now → recorded other = recorded past →
    ((after window other).stats now).1 = (m.stats now).1

variable {window now later : Nat} {past : List Use} {m : BandwidthMeter} {u : Use}
  {samples : List (Nat × UInt64)}

/-! ## Samples leave in turn -/

/-- Of ascending samples, those that have left the window come first. -/
theorem dropWhile_eq_inWindow (h : samples.Pairwise fun s t => s.1 ≤ t.1) :
    (samples.dropWhile fun s => window < now - s.1) = inWindow window now samples := by
  induction samples with
  | nil => rfl
  | cons s samples ih =>
    obtain ⟨hs, hsamples⟩ := List.pairwise_cons.mp h
    rw [List.dropWhile_cons]
    split
    · rename_i hleft
      have hover : ¬ now - s.1 ≤ window := Nat.not_le_of_lt (of_decide_eq_true hleft)
      rw [ih hsamples, inWindow, inWindow, List.filter_cons_of_neg (by simpa using hover)]
    · rename_i hkept
      refine (List.filter_eq_self.mpr fun t ht => decide_eq_true ?_).symm
      -- the first sample is in the window, so all later ones are
      have hfirst : now - s.1 ≤ window := Nat.le_of_not_lt fun hlt => hkept (decide_eq_true hlt)
      rcases List.mem_cons.mp ht with rfl | ht
      · exact hfirst
      · exact Nat.le_trans (Nat.sub_le_sub_left (hs t ht) now) hfirst

/-- Nobody comes back to a window that has gone on. -/
theorem inWindow_inWindow (h : now ≤ later) :
    inWindow window later (inWindow window now samples) = inWindow window later samples := by
  unfold inWindow
  rw [List.filter_filter]
  refine List.filter_congr fun s _ => ?_
  rw [Bool.and_eq_left_iff_imp, decide_eq_true_iff, decide_eq_true_iff]
  exact Nat.le_trans (Nat.sub_le_sub_right h s.1)

/-- What is forgotten now was not in the window, and what was forgotten before is not either. -/
theorem samples_evict (h : now ≤ later) (ascending : samples.Pairwise fun s t => s.1 ≤ t.1)
    (hm : m.samples = inWindow m.window now samples) :
    (m.evict later).samples = inWindow m.window later samples := by
  have hwindow : (inWindow m.window now samples).Pairwise fun s t => s.1 ≤ t.1 := ascending.filter _
  rw [evict, hm, dropWhile_eq_inWindow hwindow, inWindow_inWindow h]

/-! ## Sums of words -/

/-- Words that are added up give the word of the sum. -/
theorem foldl_add (words : List UInt64) (first : UInt64) :
    words.foldl (· + ·) first = first + (words.map UInt64.toNat).sum.toUInt64 := by
  induction words generalizing first with
  | nil => exact (UInt64.add_zero first).symm
  | cons word words ih =>
    rw [List.foldl_cons, ih, List.map_cons, List.sum_cons, UInt64.add_assoc]
    refine congrArg _ ?_
    show word + UInt64.ofNat _ = UInt64.ofNat _
    rw [UInt64.ofNat_add, UInt64.ofNat_toNat]

/-- The bytes that are kept are the word of their sum. -/
theorem kept_eq (m : BandwidthMeter) : m.kept = (bytesOf m.samples).toUInt64 := by
  rw [kept, foldl_add, UInt64.zero_add, List.map_map]
  rfl

/-! ## One use -/

/-- The last use adds its sample, if it has one. -/
theorem recorded_concat : recorded (past ++ [u]) = recorded past ++ u.sample?.toList := by
  rw [recorded, List.filterMap_append]
  cases u <;> rfl

/-- What came before the last use was in order. -/
theorem InOrder.of_concat (h : InOrder (past ++ [u]) now) : InOrder past u.time ∧ u.time ≤ now := by
  obtain ⟨hpast, -, hlast⟩ := List.pairwise_append.mp h.ascending
  refine ⟨⟨hpast, fun v hv => hlast v hv u (List.mem_singleton_self u)⟩, ?_⟩
  exact h.le_now u (List.mem_append_right _ (List.mem_singleton_self u))

/-- What was counted was counted in order. -/
theorem InOrder.recorded (h : InOrder past now) : (recorded past).Pairwise fun s t => s.1 ≤ t.1 := by
  refine List.pairwise_filterMap.mpr (h.ascending.imp fun {u v} huv s hs t ht => ?_)
  cases u <;> cases hs
  cases v <;> cases ht
  exact huv

/-- What a meter holds after uses the last of which was not after `now`. -/
structure Holds (window : Nat) (past : List Use) (now : Nat) (m : BandwidthMeter) : Prop where
  unchanged : m.window = window
  samples : m.samples = inWindow window now (recorded past)
  bytes : m.bytes = (bytesOf (recorded past)).toUInt64
  frames : m.frames = (recorded past).length.toUInt64

/-- Time goes by, and the meter forgets. -/
theorem Holds.evict (h : Holds window past now m)
    (ascending : (recorded past).Pairwise fun s t => s.1 ≤ t.1) (hlater : now ≤ later) :
    Holds window past later (m.evict later) := by
  obtain rfl := h.unchanged
  exact ⟨rfl, samples_evict hlater ascending h.samples, h.bytes, h.frames⟩

/-- A frame is counted. -/
theorem Holds.record {bytes : UInt64} (h : Holds window past now m)
    (ascending : (recorded past ++ [(later, bytes)]).Pairwise fun s t => s.1 ≤ t.1) (hlater : now ≤ later) :
    Holds window (past ++ [.record bytes later]) later (m.record bytes later) := by
  obtain rfl := h.unchanged
  have hrecorded : recorded (past ++ [.record bytes later]) = recorded past ++ [(later, bytes)] :=
    recorded_concat
  have hkept : (inWindow m.window now (recorded past) ++ [(later, bytes)]).Pairwise fun s t => s.1 ≤ t.1 :=
    ascending.sublist (List.filter_sublist.append_right _)
  refine ⟨rfl, ?_, ?_, ?_⟩
  · show (m.samples ++ [(later, bytes)]).dropWhile _ = _
    rw [h.samples, dropWhile_eq_inWindow hkept, hrecorded]
    unfold inWindow
    rw [List.filter_append, List.filter_append]
    exact congrArg (· ++ _) (inWindow_inWindow hlater)
  · show m.bytes + bytes = _
    rw [h.bytes, hrecorded, bytesOf, bytesOf, List.map_append, List.sum_append]
    show UInt64.ofNat _ + bytes = UInt64.ofNat (_ + (bytes.toNat + 0))
    rw [UInt64.ofNat_add, Nat.add_zero, UInt64.ofNat_toNat]
  · show m.frames + 1 = _
    rw [h.frames, hrecorded, List.length_append]
    exact (UInt64.ofNat_add _ 1).symm

/-- Every use leaves the samples of the window. -/
theorem Holds.use (h : Holds window past now m)
    (ascending : (recorded (past ++ [u])).Pairwise fun s t => s.1 ≤ t.1) (hlater : now ≤ u.time) :
    Holds window (past ++ [u]) u.time (m.use u) := by
  rw [recorded_concat] at ascending
  cases u with
  | record bytes later => exact h.record ascending hlater
  | query later =>
    have hrecorded : recorded (past ++ [.query later]) = recorded past :=
      recorded_concat.trans (List.append_nil _)
    have hevict := h.evict (List.pairwise_append.mp ascending).1 hlater
    exact ⟨hevict.unchanged, hrecorded ▸ hevict.samples, hrecorded ▸ hevict.bytes,
      hrecorded ▸ hevict.frames⟩

/-! ## Use after use -/

/-- After every history in order, the samples of the window are there. -/
theorem holds_after (hwindow : shortestWindow ≤ window) (h : InOrder past now) :
    ∃ last ≤ now, Holds window past last (after window past) := by
  induction past using List.reverseRecOn generalizing now with
  | nil => exact ⟨0, Nat.zero_le now, Nat.max_eq_left hwindow, rfl, rfl, rfl⟩
  | append_singleton past u ih =>
    obtain ⟨hpast, hu⟩ := h.of_concat
    obtain ⟨last, hlast, holds⟩ := ih hpast
    refine ⟨u.time, hu, ?_⟩
    rw [after, List.foldl_append]
    exact holds.use h.recorded hlast

/-- A meter that somebody asks has forgotten all that left the window, and nothing else. -/
theorem holds_query (hwindow : shortestWindow ≤ window) (h : InOrder past now) :
    Holds window past now ((after window past).rate now).2 := by
  obtain ⟨last, hlast, holds⟩ := holds_after hwindow h
  exact holds.evict h.recorded hlast

/-- What a meter reports that holds what it should. -/
theorem stats_of_holds (h : Holds window past now (m.rate now).2) :
    (m.stats now).1 = ⟨(bytesOf (recorded past)).toUInt64, (recorded past).length.toUInt64,
      (bytesOf (inWindow window now (recorded past))).toUInt64.toFloat / secondsOfNanos window⟩ := by
  have hkept : (m.rate now).2.kept = _ := kept_eq _
  rw [h.samples] at hkept
  rw [← hkept, ← h.bytes, ← h.frames, ← h.unchanged]
  rfl

/-- Whatever a meter forgets, and whenever it does, at any time it reports what was sent: all bytes and
frames that ever were, and the rate of the window, its first moment included.  No answer depends on what
was asked before. -/
theorem recalls_after (window : Nat) (past : List Use) (now : Nat) (hwindow : shortestWindow ≤ window)
    (h : InOrder past now) : Recalls window past now (after window past) := by
  have holds := holds_query hwindow h
  have hstats := stats_of_holds holds
  have hkept : ((after window past).rate now).2.kept = _ := kept_eq _
  rw [holds.samples] at hkept
  refine ⟨holds.samples, hkept, congrArg BandwidthStats.bytesPerSecond hstats, holds.bytes, holds.frames,
    rfl, fun other hother hsame => ?_⟩
  have hothers := stats_of_holds (holds_query hwindow hother)
  rw [hstats, ← hsame, ← hothers]

/-- Two frames within a second, a question in between, and another one when the first frame has left a
window of two seconds. -/
def glance : List Use := [.record 1000 0, .query 500000000, .record 3000 1000000000]

theorem recalls_after_glance :
    shortestWindow ≤ 2000000000 ∧ InOrder glance 2500000000 ∧
      inWindow 2000000000 2500000000 (recorded glance) = [(1000000000, 3000)] ∧
      Recalls 2000000000 glance 2500000000 (after 2000000000 glance) := by
  have hwindow : shortestWindow ≤ 2000000000 := by decide
  have horder : InOrder glance 2500000000 := ⟨by simp [glance, Use.time], by simp [glance, Use.time]⟩
  exact ⟨hwindow, horder, by decide, recalls_after 2000000000 glance 2500000000 hwindow horder⟩

/-- Sums wrap around: after two frames of `2 ^ 63` bytes within an hour nothing seems to have been sent. -/
theorem recalls_nothing :
    let past : List Use := [.record 9223372036854775808 0, .record 9223372036854775808 0]
    let hour := 3600000000000
    shortestWindow ≤ hour ∧ InOrder past 0 ∧
      bytesOf (inWindow hour 0 (recorded past)) = 18446744073709551616 ∧
      ((after hour past).rate 0).2.kept.toNat = 0 ∧ bytesOf (recorded past) = 18446744073709551616 ∧
      (after hour past).bytes.toNat = 0 :=
  ⟨by decide, ⟨by simp [Use.time], by simp [Use.time]⟩, by decide, by decide, by decide, by decide⟩

end FlightRelay.BandwidthMeter
