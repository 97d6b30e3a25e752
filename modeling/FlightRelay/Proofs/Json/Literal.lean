import FlightRelay.Json.Lexer
import FlightRelay.Json.Writer
import Mathlib.Data.List.TakeDrop
import Mathlib.Data.List.TakeWhile

/-!
# Number literals

A whole number that fits 64 bits is read as it was written.  Whatever is read as a number starts with a
digit or a sign and holds nothing but characters of numbers, so the lexer sees where it ends.
-/

namespace FlightRelay

namespace Decimal

variable {n : Nat} {c : Char} {cs : List Char}

/-- A number is written in digits. -/
theorem isDigit_of_mem_digitText (h : c ∈ digitText n) : c.isDigit = true :=
  Nat.isDigit_of_mem_toDigits (by decide) (by decide) h

/-- The digits of a number denote it. -/
theorem ofDigits_digitText : ofDigits (digitText n) = n := by
  have h := Nat.ofDigitChars_ten_toDigits (n := n)
  rw [Nat.ofDigitChars_eq_foldl] at h
  exact h

/-- Only a single zero starts with a zero. -/
theorem eq_nil_of_digitText (h : digitText n = '0' :: cs) : cs = [] := by
  induction n using Nat.strongRecOn generalizing cs with
  | ind n ih =>
    have hsplit := Nat.toDigits_eq_if (b := 10) (n := n) (by decide)
    rw [digitText, hsplit] at h
    split at h
    · exact (List.cons.inj h).2.symm
    · rename_i hlarge
      -- the digits before the last are those of a tenth, which is not zero
      cases htenth : Nat.toDigits 10 (n / 10) with
      | nil => exact absurd htenth Nat.toDigits_ne_nil
      | cons d ds =>
        rw [htenth, List.cons_append] at h
        obtain ⟨rfl, -⟩ := List.cons.inj h
        obtain rfl := ih (n / 10) (by omega) htenth
        have hzero := ofDigits_digitText (n := n / 10)
        rw [digitText, htenth] at hzero
        have hnone : ofDigits ['0'] = 0 := rfl
        omega

end Decimal

namespace Json

open Decimal

namespace Number

variable {n : Number} {i : Int} {m : Nat} {c : Char} {cs ds rest : List Char}

/-! ## Reading back whole numbers -/

/-- The digits at the front are split off. -/
theorem spanDigits_eq : spanDigits cs = (ds, rest) → cs = ds ++ rest ∧ ∀ c ∈ ds, c.isDigit = true := by
  intro h
  rw [spanDigits, List.span_eq_takeWhile_dropWhile] at h
  obtain ⟨rfl, rfl⟩ := Prod.mk.inj h
  exact ⟨List.takeWhile_append_dropWhile.symm, fun c hc => List.mem_takeWhile_imp hc⟩

/-- Digits alone are all taken. -/
theorem spanDigits_digits (h : ∀ c ∈ ds, c.isDigit = true) : spanDigits ds = (ds, []) := by
  rw [spanDigits, List.span_eq_takeWhile_dropWhile, List.takeWhile_eq_self_iff.mpr h,
    List.dropWhile_eq_nil_iff.mpr h]

/-- A number that is written stands as a whole part, without a leading zero. -/
theorem wholeDigits?_digitText : wholeDigits? (digitText m) = some (digitText m, []) := by
  unfold wholeDigits?
  rw [spanDigits_digits fun c hc => isDigit_of_mem_digitText hc]
  split
  · rename_i hnil
    exact absurd (Prod.mk.inj hnil).1 Nat.toDigits_ne_nil
  · rename_i hzero
    cases eq_nil_of_digitText (Prod.mk.inj hzero).1
  · rename_i heq
    exact congrArg some heq.symm

/-- The digits of a number, with a sign or without, are a literal without fraction and exponent. -/
theorem ofChars?_digitText : Literal.ofChars? (digitText m) = some ⟨false, digitText m, [], none⟩ := by
  unfold Literal.ofChars?
  split
  · rename_i heq
    split at heq
    · -- a sign is no digit
      rename_i cs' hcs
      have hsign : '-' ∈ digitText m := by
        rw [hcs]
        exact List.mem_cons_self
      exact absurd (isDigit_of_mem_digitText hsign) (by decide)
    · obtain ⟨rfl, rfl⟩ := Prod.mk.inj heq
      rw [wholeDigits?_digitText]
      rfl

/-- A number after a minus is read with its sign. -/
theorem ofChars?_neg_digitText :
    Literal.ofChars? ('-' :: digitText m) = some ⟨true, digitText m, [], none⟩ := by
  unfold Literal.ofChars?
  simp only [wholeDigits?_digitText]
  rfl

theorem integer?_digitText : Literal.integer? ⟨false, digitText m, [], none⟩ = some (m : Int) := by
  simp [Literal.integer?, ofDigits_digitText]

/-- A whole part after a minus is an integer, unless it is zero. -/
theorem integer?_neg_digitText (h : m ≠ 0) :
    Literal.integer? ⟨true, digitText m, [], none⟩ = some (-(m : Int)) := by
  simp [Literal.integer?, ofDigits_digitText, h]

/-- A literal whose whole number fits 64 bits is read as that. -/
theorem ofLiteral?_of_integer? {l : Literal} (hl : Literal.ofChars? cs = some l)
    (hi : l.integer? = some i) (h : fitsWord i = true) : ofLiteral? cs = some (.integer i) := by
  unfold ofLiteral?
  simp only [Option.bind_eq_bind, hl, Option.bind_some, hi, Option.filter_some_pos h]
  rfl

/-- A whole number of 64 bits is read as it was written. -/
theorem ofLiteral?_integer (h : fitsWord i = true) :
    ofLiteral? (Number.integer i).write = some (.integer i) := by
  have hwrite : (Number.integer i).write
      = if i < 0 then '-' :: digitText i.natAbs else digitText i.natAbs := rfl
  rw [hwrite]
  split
  · have hi : -(i.natAbs : Int) = i := by omega
    exact ofLiteral?_of_integer? ofChars?_neg_digitText
      ((integer?_neg_digitText (by omega)).trans (congrArg some hi)) h
  · have hi : (i.natAbs : Int) = i := by omega
    exact ofLiteral?_of_integer? ofChars?_digitText (integer?_digitText.trans (congrArg some hi)) h

/-! ## The characters of a literal -/

/-- Digits belong to numbers. -/
theorem isNumberChar_of_isDigit (h : c.isDigit = true) : Lexer.isNumberChar c = true := by
  simp only [Lexer.isNumberChar, h, Bool.true_or]

/-- A whole part consists of digits. -/
theorem wholeDigits?_eq_some (h : wholeDigits? cs = some (ds, rest)) :
    cs = ds ++ rest ∧ ds ≠ [] ∧ ∀ c ∈ ds, c.isDigit = true := by
  unfold wholeDigits? at h
  split at h
  · cases h
  · cases h
  · rename_i ds' rest' hempty hzero hspan
    obtain ⟨rfl, rfl⟩ := Prod.mk.inj (Option.some.inj h)
    obtain ⟨hsplit, hdigits⟩ := spanDigits_eq hspan
    refine ⟨hsplit, fun hnil => ?_, hdigits⟩
    subst hnil
    exact hempty rfl

/-- A fraction consists of characters that belong to numbers. -/
theorem fractionDigits?_eq_some (h : fractionDigits? cs = some (ds, rest)) :
    ∃ before, cs = before ++ rest ∧ ∀ c ∈ before, Lexer.isNumberChar c = true := by
  unfold fractionDigits? at h
  split at h
  · split at h
    · cases h
    · rename_i digits rest' hne hspan
      obtain ⟨rfl, rfl⟩ := Prod.mk.inj (Option.some.inj h)
      obtain ⟨rfl, hdigits⟩ := spanDigits_eq hspan
      refine ⟨'.' :: digits, rfl, fun c hc => ?_⟩
      rcases List.mem_cons.mp hc with rfl | hc
      · rfl
      · exact isNumberChar_of_isDigit (hdigits c hc)
  · obtain ⟨-, rfl⟩ := Prod.mk.inj (Option.some.inj h)
    exact ⟨[], rfl, fun c hc => by cases hc⟩

/-- The sign of an exponent is left out of its digits. -/
theorem isNumberChar_of_exponentDigits {negative : Bool} {tail : List Char}
    (hsign : (match tail with
      | '+' :: ds => (false, ds)
      | '-' :: ds => (true, ds)
      | ds => (false, ds)) = (negative, ds))
    (hdigits : ∀ c ∈ ds, c.isDigit = true) : ∀ c ∈ tail, Lexer.isNumberChar c = true := by
  intro c hc
  split at hsign <;> obtain ⟨-, rfl⟩ := Prod.mk.inj hsign
  · rcases List.mem_cons.mp hc with rfl | hc
    · rfl
    · exact isNumberChar_of_isDigit (hdigits c hc)
  · rcases List.mem_cons.mp hc with rfl | hc
    · rfl
    · exact isNumberChar_of_isDigit (hdigits c hc)
  · exact isNumberChar_of_isDigit (hdigits c hc)

theorem exponent?_eq_some {e : Option Int} (h : exponent? cs = some e) :
    ∀ c ∈ cs, Lexer.isNumberChar c = true := by
  unfold exponent? at h
  split at h
  · intro c hc
    cases hc
  · rename_i first tail
    split at h
    · rename_i hmark
      split at h
      rename_i negative ds hsign
      split at h
      · cases h
      · rename_i ds' hne hspan
        obtain ⟨hsplit, hdigits⟩ := spanDigits_eq hspan
        rw [List.append_nil] at hsplit
        subst hsplit
        intro c hc
        rcases List.mem_cons.mp hc with rfl | hc
        · simp only [Lexer.isNumberChar, Bool.or_assoc, hmark, Bool.or_true]
        · exact isNumberChar_of_exponentDigits hsign hdigits c hc
      · cases h
    · cases h

/-- A literal without its sign. -/
theorem chars_of_unsigned {whole fraction rest' : List Char} {e : Option Int}
    (hwhole : wholeDigits? cs = some (whole, rest)) (hfraction : fractionDigits? rest = some (fraction, rest'))
    (hexponent : exponent? rest' = some e) :
    (∀ c ∈ cs, Lexer.isNumberChar c = true) ∧
      ∃ first tail, cs = first :: tail ∧ first.isDigit = true := by
  obtain ⟨rfl, hne, hdigits⟩ := wholeDigits?_eq_some hwhole
  obtain ⟨before, rfl, hbefore⟩ := fractionDigits?_eq_some hfraction
  constructor
  · intro c hc
    rcases List.mem_append.mp hc with hc | hc
    · exact isNumberChar_of_isDigit (hdigits c hc)
    · rcases List.mem_append.mp hc with hc | hc
      · exact hbefore c hc
      · exact exponent?_eq_some hexponent c hc
  · obtain ⟨first, tail, rfl⟩ := List.exists_cons_of_ne_nil hne
    exact ⟨first, _, rfl, hdigits first List.mem_cons_self⟩

/-- What is read as a number holds nothing but characters of numbers, and the first is a digit or a
sign. -/
theorem chars_of_ofLiteral? (h : ofLiteral? cs = some n) :
    (∀ c ∈ cs, Lexer.isNumberChar c = true) ∧
      ∃ first tail, cs = first :: tail ∧ (first.isDigit = true ∨ first = '-') := by
  obtain ⟨l, hl, -⟩ := Option.bind_eq_some_iff.mp h
  unfold Literal.ofChars? at hl
  split at hl
  rename_i negative unsigned hsign
  obtain ⟨⟨whole, rest⟩, hwhole, hl⟩ := Option.bind_eq_some_iff.mp hl
  obtain ⟨⟨fraction, rest'⟩, hfraction, hl⟩ := Option.bind_eq_some_iff.mp hl
  obtain ⟨e, hexponent, -⟩ := Option.bind_eq_some_iff.mp hl
  obtain ⟨hchars, first, tail, hfirst, hdigit⟩ := chars_of_unsigned hwhole hfraction hexponent
  split at hsign <;> obtain ⟨-, rfl⟩ := Prod.mk.inj hsign
  · refine ⟨fun c hc => ?_, '-', _, rfl, .inr rfl⟩
    rcases List.mem_cons.mp hc with rfl | hc
    · rfl
    · exact hchars c hc
  · exact ⟨hchars, first, tail, hfirst, .inl hdigit⟩

end Number

end Json

end FlightRelay
