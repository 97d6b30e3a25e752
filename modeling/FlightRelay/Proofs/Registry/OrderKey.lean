import Mathlib
import FlightRelay.Registry.Query

/-!
# The order of distances

Distances are sorted by a key that is read off their bits.  On doubles that are numbers it agrees with
their order as numbers, so a list that is sorted by keys is sorted by distances; and different doubles
have different keys.
-/

namespace FlightRelay

namespace Geo

open Float.Model Float.Model.UnpackedFloat

/-- How many doubles there are from zero up to a finite one. -/
def steps (m : Nat) (e : Int) : Int := (e + 1074) * 2 ^ 52 + m

/-- The key of a double so many steps away from the zero of its sign. -/
def keyOf (sign : Sign) (steps : Int) : Int :=
  match sign with
  | .positive => steps
  | .negative => -steps - 1

/-- The significand and the exponent of a finite double. -/
structure Regular (m : Nat) (e : Int) : Prop where
  exponent : 0 ≤ e + 1074
  finite : e + 1074 < 2046
  short : m < 2 ^ 53
  /-- Only the least exponent goes with a significand without its leading one. -/
  normal : 0 < e + 1074 → 2 ^ 52 ≤ m

/-- The keys of the doubles that are numbers. -/
inductive Keyed : Int → UnpackedFloat → Prop
  | infinity (sign : Sign) : Keyed (keyOf sign (2047 * 2 ^ 52)) (.infinity sign)
  | zero (sign : Sign) : Keyed (keyOf sign 0) (.zero sign)
  | finite (sign : Sign) {m : Nat} {e : Int} {pos : 0 < m} (regular : Regular m e) :
      Keyed (keyOf sign (steps m e)) (.finite sign m e pos)

variable {m m' : Nat} {e e' k l : Int} {u v : UnpackedFloat} {x y : Float}

/-! ## Numbers and keys -/

/-- Finite doubles lie between zero and infinity. -/
theorem Regular.steps_mem (h : Regular m e) (pos : 0 < m) :
    0 < steps m e ∧ steps m e < 2047 * 2 ^ 52 := by
  obtain ⟨hexponent, hfinite, hshort, -⟩ := h
  unfold steps
  omega

/-- The greater exponent decides, and then the greater significand. -/
theorem Regular.steps_lt (h : Regular m e) (h' : Regular m' e')
    (hlt : (compare e e').then (compare m m') = .lt) : steps m e < steps m' e' := by
  obtain ⟨hexponent, -, hshort, -⟩ := h
  obtain ⟨-, -, -, hnormal⟩ := h'
  unfold steps
  rw [Ordering.then_eq_lt, compare_lt_iff_lt, compare_eq_iff_eq, compare_lt_iff_lt] at hlt
  rcases hlt with hlt | ⟨rfl, hlt⟩
  · have hleading := hnormal (by omega)
    omega
  · omega

/-- Of two numbers, the lesser one has the lesser key. -/
theorem Keyed.lt (hu : Keyed k u) (hv : Keyed l v) (h : u.compare v = some .lt) : k < l := by
  -- in each case the signs decide, but for two finite numbers of one sign
  cases hu with
  | infinity sign =>
    cases hv with
    | infinity sign' => cases sign <;> cases sign' <;> first | (cases h; done) | decide
    | zero sign' => cases sign <;> cases sign' <;> first | (cases h; done) | decide
    | finite sign' regular =>
      have hmem := regular.steps_mem ‹_›
      cases sign <;> cases sign' <;> first | (cases h; done) | (simp only [keyOf]; omega)
  | zero sign =>
    cases hv with
    | infinity sign' => cases sign <;> cases sign' <;> first | (cases h; done) | decide
    | zero sign' => cases h
    | finite sign' regular =>
      have hmem := regular.steps_mem ‹_›
      cases sign <;> cases sign' <;> first | (cases h; done) | (simp only [keyOf]; omega)
  | finite sign regular =>
    have hmem := regular.steps_mem ‹_›
    cases hv with
    | infinity sign' =>
      cases sign <;> cases sign' <;> first | (cases h; done) | (simp only [keyOf]; omega)
    | zero sign' =>
      cases sign <;> cases sign' <;> first | (cases h; done) | (simp only [keyOf]; omega)
    | finite sign' regular' =>
      have hmem' := regular'.steps_mem ‹_›
      cases sign with
      | positive =>
        cases sign' with
        | positive => exact regular.steps_lt regular' (Option.some.inj h)
        | negative => cases h
      | negative =>
        cases sign' with
        | positive =>
          simp only [keyOf]
          omega
        | negative =>
          have hswap := Option.some.inj h
          rw [Ordering.swap_then, ← Std.OrientedCmp.eq_swap, ← Std.OrientedCmp.eq_swap] at hswap
          have hlt := regular'.steps_lt regular hswap
          simp only [keyOf]
          omega

/-! ## Bits and keys -/

/-- The fields of a double, read off its bits. -/
theorem toNat_fields (b : BitVec 64) :
    (@unpackSign Format.binary64 b).toNat = b.toNat / 2 ^ 63 ∧
      (@unpackExponent Format.binary64 b).toNat = b.toNat / 2 ^ 52 % 2 ^ 11 ∧
      (@unpackMantissa Format.binary64 b).toNat = b.toNat % 2 ^ 52 := by
  have hb := b.isLt
  unfold unpackSign unpackExponent unpackMantissa
  simp [Nat.shiftRight_eq_div_pow]
  omega

/-- The leading bit of a significand counts above all others. -/
theorem toNat_leading (b : BitVec 52) : (1#1 ++ b).toNat = 2 ^ 52 + b.toNat := by
  rw [BitVec.toNat_append, ← Nat.shiftLeft_add_eq_or_of_lt b.isLt]
  simp [Nat.shiftLeft_eq]

/-- The sign is the highest bit, and what lies below it counts the steps. -/
theorem keyOf_sign (b : BitVec 64) :
    keyOf (Sign.ofBitVec (@unpackSign Format.binary64 b)) (b.toNat % 2 ^ 63 : Nat)
      = if b.toNat < 2 ^ 63 then (b.toNat : Int) else 2 ^ 63 - b.toNat - 1 := by
  have hb := b.isLt
  have hsign := (toNat_fields b).1
  by_cases h : b.toNat < 2 ^ 63
  · have hzero : @unpackSign Format.binary64 b = 0#1 := by
      apply BitVec.eq_of_toNat_eq
      rw [hsign, Nat.div_eq_of_lt h]
      rfl
    rw [hzero, if_pos h, Nat.mod_eq_of_lt h]
    rfl
  · have hone : @unpackSign Format.binary64 b = 1#1 := by
      apply BitVec.eq_of_toNat_eq
      rw [hsign]
      show _ = 1
      omega
    rw [hone, if_neg h]
    show -(_ : Int) - 1 = _
    omega

/-- The bits of a number are keyed as the number that they stand for. -/
theorem keyed_unpack (b : BitVec 64) (hb : UnpackedFloat.unpack Format.binary64 b ≠ .notANumber) :
    Keyed (if b.toNat < 2 ^ 63 then (b.toNat : Int) else 2 ^ 63 - b.toNat - 1)
      (UnpackedFloat.unpack Format.binary64 b) := by
  rw [← keyOf_sign]
  obtain ⟨-, hexponent, hmantissa⟩ := toNat_fields b
  have hm := (@unpackMantissa Format.binary64 b).isLt
  have he := (@unpackExponent Format.binary64 b).isLt
  unfold UnpackedFloat.unpack at hb ⊢
  dsimp only at hb ⊢
  split at hb
  next hall =>
    -- the greatest exponent: an infinity, as what is no number is excluded
    rw [if_pos hall]
    rw [hall] at hexponent
    split at hb
    next hnone =>
      rw [if_pos hnone]
      rw [hnone] at hmantissa
      have hsteps : b.toNat % 2 ^ 63 = 2047 * 2 ^ 52 := by
        simp at hexponent hmantissa
        omega
      rw [hsteps]
      exact .infinity _
    next => exact absurd rfl hb
  next hall =>
    rw [if_neg hall]
    have hfinite : (@unpackExponent Format.binary64 b).toNat ≠ 2047 :=
      fun h => hall (BitVec.eq_of_toNat_eq h)
    split
    next hleast =>
      -- the least exponent: zero, or a subnormal double without a leading bit
      rw [hleast] at hexponent
      simp only [BitVec.toNat_ofNat] at hexponent
      split
      next hnone =>
        rw [hnone] at hmantissa
        simp only [BitVec.toNat_ofNat] at hmantissa
        have hsteps : b.toNat % 2 ^ 63 = 0 := by omega
        rw [hsteps]
        exact .zero _
      next hnone =>
        have hsteps : ((b.toNat % 2 ^ 63 : Nat) : Int)
            = steps (@unpackMantissa Format.binary64 b).toNat (-1075 + 1) := by
          unfold steps
          omega
        rw [hsteps, hleast]
        exact .finite _ ⟨by decide, by decide, by omega, by omega⟩
    next hleast =>
      -- a normal double: its leading bit counts as much as the last one of the exponent
      have hnormal : (@unpackExponent Format.binary64 b).toNat ≠ 0 :=
        fun h => hleast (BitVec.eq_of_toNat_eq h)
      have hleading := toNat_leading (@unpackMantissa Format.binary64 b)
      have hsteps : ((b.toNat % 2 ^ 63 : Nat) : Int)
          = steps (1#1 ++ @unpackMantissa Format.binary64 b).toNat
            ((@unpackExponent Format.binary64 b).toNat - 1075) := by
        rw [hleading]
        unfold steps
        omega
      rw [hsteps]
      refine .finite _ ⟨?_, ?_, ?_, fun _ => ?_⟩ <;> simp only [hleading] <;> omega

/-! ## The order -/

/-- Keys are in the order of the numbers. -/
theorem orderKey_lt_of_lt (h : x < y) : orderKey x < orderKey y := by
  have hcompare : x.toModel.unpack.compare y.toModel.unpack = some .lt := by
    have hlt : x.toModel.lt y.toModel = true := by simpa [LT.lt, Float.lt] using h
    simpa [Float.Model.lt, UnpackedFloat.lt] using hlt
  -- what is no number is compared to nothing
  have hx : x.toModel.unpack ≠ .notANumber := by
    intro hnan
    rw [hnan] at hcompare
    cases hcompare
  have hy : y.toModel.unpack ≠ .notANumber := by
    intro hnan
    rw [hnan] at hcompare
    cases hu : x.toModel.unpack <;> rw [hu] at hcompare <;> cases hcompare
  exact (keyed_unpack _ hx).lt (keyed_unpack _ hy) hcompare

/-- Doubles with the same key are the same. -/
theorem orderKey_injective : Function.Injective orderKey := by
  intro x y h
  have hx := x.toBits.toBitVec.isLt
  have hy := y.toBits.toBitVec.isLt
  have hbits : x.toBits.toNat = y.toBits.toNat := by
    show x.toBits.toBitVec.toNat = y.toBits.toBitVec.toNat
    have hkey : (if x.toBits.toBitVec.toNat < 2 ^ 63 then (x.toBits.toBitVec.toNat : Int)
          else 2 ^ 63 - x.toBits.toBitVec.toNat - 1)
        = if y.toBits.toBitVec.toNat < 2 ^ 63 then (y.toBits.toBitVec.toNat : Int)
          else 2 ^ 63 - y.toBits.toBitVec.toNat - 1 := h
    split at hkey <;> split at hkey <;> omega
  have hsame : x.toBits = y.toBits := UInt64.toNat_inj.mp hbits
  cases x with
  | _ model =>
    cases y with
    | _ model' =>
      cases model
      cases model'
      cases hsame
      rfl

end Geo

end FlightRelay
