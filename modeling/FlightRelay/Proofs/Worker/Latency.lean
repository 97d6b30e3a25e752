import FlightRelay.Worker.Latency
import Mathlib.Algebra.Order.BigOperators.Group.List
import Mathlib.Algebra.Order.Floor.Semifield
import Mathlib.Data.List.DropRight
import Mathlib.Data.List.Induction
import Mathlib.Data.Rat.Floor
import Mathlib.Order.Bounds.Basic

/-!
# Latencies and all that were measured

A ring drops a sample only when it is exactly full, and never holds more.  So what it holds is told from all
samples there ever were: it is their end, and the mean and the greatest sample are those of that end.
-/

namespace FlightRelay.LatencyRing

/-- A ring after some samples, the oldest first. -/
def after (capacity : Nat) (history : List Nat) : LatencyRing := history.foldl record (empty capacity)

/-- The last samples of a history, as many as there is room for. -/
def latest (capacity : Nat) (history : List Nat) : List Nat := history.rtake (max capacity 1)

/-- The least of some samples, their mean, rounded down, and the greatest. -/
structure Figures (samples : List Nat) (least mean most : Nat) : Prop where
  isLeast : IsLeast {s | s ∈ samples} least
  mean_eq : mean = ⌊(samples.sum : ℚ) / samples.length⌋₊
  isGreatest : IsGreatest {s | s ∈ samples} most
  least_le : least ≤ mean
  le_most : mean ≤ most

/-- What a ring says, told from all samples there ever were. -/
structure Recalls (capacity : Nat) (history : List Nat) (r : LatencyRing) : Prop where
  samples : r.samples = latest capacity history
  size : r.size = min history.length (max capacity 1)
  nothing : history = [] → r.average = .ok none ∧ r.greatest = none
  figures : history ≠ [] → ∃ least mean most, Figures (latest capacity history) least mean most ∧
    r.average = .ok (some mean) ∧ r.greatest = some most

variable {capacity room s : Nat} {history samples : List Nat} {r : LatencyRing}

/-! ## The end of a history -/

/-- As many samples are kept as fit. -/
theorem length_latest : (latest capacity history).length = min history.length (max capacity 1) := by
  rw [latest, List.rtake, List.length_drop]
  omega

theorem rtake_rtake_concat : (history.rtake room ++ [s]).rtake room = (history ++ [s]).rtake room := by
  cases room with
  | zero => rw [List.rtake_zero, List.rtake_zero]
  | succ room =>
    rw [List.rtake_concat_succ, List.rtake_concat_succ]
    unfold List.rtake
    rw [List.drop_drop, List.length_drop]
    congr 2
    omega

/-! ## One sample -/

/-- A ring that does not hold more than it has room for drops the oldest sample if it has to. -/
theorem samples_record (hpos : 0 < r.capacity) (hle : r.samples.length ≤ r.capacity) :
    (r.record s).samples = (r.samples ++ [s]).rtake r.capacity := by
  rw [List.rtake, List.length_append, List.length_singleton, record]
  dsimp only
  split
  · rename_i hfull
    rw [hfull, Nat.add_sub_cancel_left, List.drop_append_of_le_length (by omega)]
  · rw [Nat.sub_eq_zero_of_le (by omega), List.drop_zero]

/-- A ring that holds the end of a history. -/
structure Holds (capacity : Nat) (history : List Nat) (r : LatencyRing) : Prop where
  room : r.capacity = max capacity 1
  samples : r.samples = latest capacity history

/-- The size of a ring is the number of its samples. -/
theorem Holds.size_eq (h : Holds capacity history r) : r.size = min history.length (max capacity 1) := by
  rw [size, h.samples, length_latest]

/-- A sample that is recorded displaces the oldest if there is no room. -/
theorem Holds.record (h : Holds capacity history r) (s : Nat) :
    Holds capacity (history ++ [s]) (r.record s) := by
  have hsize : r.samples.length = min history.length (max capacity 1) := h.size_eq
  have hroom := h.room
  refine ⟨hroom, ?_⟩
  rw [samples_record (by omega) (by omega), h.samples, hroom]
  exact rtake_rtake_concat

theorem holds_empty (capacity : Nat) : Holds capacity [] (empty capacity) := ⟨rfl, (List.rtake_nil _).symm⟩

/-- After every history, the ring holds the latest samples. -/
theorem holds_after (capacity : Nat) (history : List Nat) :
    Holds capacity history (after capacity history) := by
  induction history using List.reverseRecOn with
  | nil => exact holds_empty capacity
  | append_singleton history s ih =>
    rw [after, List.foldl_append]
    exact ih.record s

/-! ## What is reported -/

/-- The mean is formed from all samples, as long as their total is a span of time and their count a half
word. -/
theorem average_eq (hsamples : r.samples ≠ []) (hfits : r.samples.sum ≤ longestSpan)
    (hcount : r.samples.length < 4294967296) :
    r.average = .ok (some (r.samples.sum / r.samples.length)) := by
  have htotal : r.total = r.samples.sum := List.sum_eq_foldl_nat.symm
  have hlength : r.samples.length.toUInt32.toNat = r.samples.length := UInt32.toNat_ofNat_of_lt' hcount
  have hpos : r.samples.length ≠ 0 := fun h => hsamples (List.length_eq_zero_iff.mp h)
  unfold average
  rw [htotal, hlength, if_neg (by simpa using hsamples), if_neg (Nat.not_lt.mpr hfits), if_neg hpos]

/-- The greatest sample is the greatest of those that are kept. -/
theorem greatest_eq_some_iff : r.greatest = some s ↔ IsGreatest {t | t ∈ r.samples} s :=
  List.max?_eq_some_iff

theorem exists_isLeast (h : samples ≠ []) : ∃ least, IsLeast {s | s ∈ samples} least := by
  obtain ⟨least, hleast⟩ := Option.ne_none_iff_exists'.mp (mt List.min?_eq_none_iff.mp h)
  exact ⟨least, List.min?_eq_some_iff.mp hleast⟩

theorem exists_isGreatest (h : samples ≠ []) : ∃ most, IsGreatest {s | s ∈ samples} most := by
  obtain ⟨most, hmost⟩ := Option.ne_none_iff_exists'.mp (mt List.max?_eq_none_iff.mp h)
  exact ⟨most, List.max?_eq_some_iff.mp hmost⟩

/-- The mean lies between the least sample and the greatest one. -/
theorem figures_of_ne_nil {least most : Nat} (h : samples ≠ []) (hleast : IsLeast {s | s ∈ samples} least)
    (hmost : IsGreatest {s | s ∈ samples} most) :
    Figures samples least (samples.sum / samples.length) most where
  isLeast := hleast
  mean_eq := (Nat.floor_div_eq_div samples.sum samples.length).symm
  isGreatest := hmost
  least_le := by
    have hlow : samples.length * least ≤ samples.sum := List.card_nsmul_le_sum samples least hleast.2
    rw [Nat.le_div_iff_mul_le (List.length_pos_iff.mpr h), Nat.mul_comm]
    exact hlow
  le_most := by
    have hhigh : samples.sum ≤ samples.length * most := List.sum_le_card_nsmul samples most hmost.2
    exact Nat.div_le_of_le_mul hhigh

/-- A ring holds the end of all samples there ever were, in order: as many as there is room for, and room for
one there always is.  As long as these are few enough to be counted by a half word and together no longer
than a span of time can be, it reports their mean, rounded down, and the greatest of them, and there is
nothing to report only before the first sample. -/
theorem recalls_latest (capacity : Nat) (history : List Nat) (hcapacity : capacity < 4294967296)
    (hfits : (latest capacity history).sum ≤ longestSpan) :
    Recalls capacity history (after capacity history) := by
  have holds := holds_after capacity history
  refine ⟨holds.samples, holds.size_eq, ?_, fun hne => ?_⟩
  · rintro rfl
    exact ⟨rfl, rfl⟩
  · have hlength : (latest capacity history).length = min history.length (max capacity 1) := length_latest
    have hlatest : latest capacity history ≠ [] := by
      have hpos := List.length_pos_iff.mpr hne
      exact List.length_pos_iff.mp (by omega)
    obtain ⟨least, hleast⟩ := exists_isLeast hlatest
    obtain ⟨most, hmost⟩ := exists_isGreatest hlatest
    refine ⟨least, _, most, figures_of_ne_nil hlatest hleast hmost, ?_, ?_⟩
    · rw [← holds.samples] at hlatest hfits hlength ⊢
      exact average_eq hlatest hfits (by omega)
    · rw [greatest_eq_some_iff, holds.samples]
      exact hmost

/-- Four samples of some milliseconds, and room for three. -/
theorem recalls_latest_three :
    let history := [10000000, 20000000, 30000000, 40000000]
    3 < 4294967296 ∧ (latest 3 history).sum ≤ longestSpan ∧
      latest 3 history = [20000000, 30000000, 40000000] ∧
      (after 3 history).average = .ok (some 30000000) ∧ Recalls 3 history (after 3 history) :=
  ⟨by decide, by decide, by decide, rfl,
    recalls_latest 3 [10000000, 20000000, 30000000, 40000000] (by decide) (by decide)⟩

/-- Samples that are too long together have no mean, however few they are. -/
example : (after 2 [longestSpan, longestSpan]).average = .error .totalTooLong := rfl

end FlightRelay.LatencyRing
