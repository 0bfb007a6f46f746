import ApiRoutes.Decimal.Numeral
import Mathlib.Tactic.Ring

/-!
# Numbers of a document are finite

A numeral that is beyond the largest number has no value; so a number of a document is never infinite
(`Numeral.isFinite_of_number?`). Magnitudes are measured by their exponent field alone: rounding a
ratio below `2 ^ k` gives an exponent field of at most `k + 1026` (`exponentField_ofRatio_le`), a
number with such a field is below `2 ^ (k + 4)` again (`ratio_lt`), and each division by a large power
of ten takes away more than these four binary digits.
-/

namespace ApiRoutes.Decimal

theorem pow2_eq (n : Nat) : pow2 n = 2 ^ n := rfl

namespace Binary64

/-! ## Exponent fields -/

theorem exponentField_eq (x : Binary64) : x.exponentField = x.bits.toNat / 2 ^ 52 % 2 ^ 11 := by
  unfold exponentField
  rw [UInt64.toNat_and, UInt64.toNat_shiftRight]
  show (x.bits.toNat >>> 52) &&& (2 ^ 11 - 1) = _
  rw [Nat.and_two_pow_sub_one_eq_mod, Nat.shiftRight_eq_div_pow]

theorem fractionField_lt (x : Binary64) : x.fractionField < 2 ^ 52 := by
  unfold fractionField
  rw [UInt64.toNat_and]
  exact lt_of_le_of_lt Nat.and_le_right (by decide)

theorem isFinite_of_exponentField_lt {x : Binary64} (h : x.exponentField < 2047) :
    x.isFinite = true :=
  decide_eq_true h

theorem exponentField_withSign {bits : Nat} (h : bits < 2 ^ 63) :
    (withSign false bits).exponentField = bits / 2 ^ 52 := by
  have hbits : (withSign false bits).bits.toNat = bits := by
    show (UInt64.ofNat bits).toNat = bits
    rw [UInt64.toNat_ofNat']
    exact Nat.mod_eq_of_lt (by omega)
  rw [exponentField_eq, hbits]
  exact Nat.mod_eq_of_lt (by omega)

theorem exponentField_neg (x : Binary64) : x.neg.exponentField = x.exponentField := by
  rw [exponentField_eq, exponentField_eq]
  show (x.bits.toNat ^^^ 2 ^ 63) / 2 ^ 52 % 2 ^ 11 = _
  apply Nat.eq_of_testBit_eq
  intro i
  simp only [Nat.testBit_mod_two_pow, Nat.testBit_div_two_pow, Nat.testBit_xor]
  by_cases hi : i < 11
  · rw [Nat.testBit_two_pow_of_ne (by omega), Bool.xor_false]
  · simp [hi]

theorem isFinite_neg {x : Binary64} (h : x.isFinite = true) : x.neg.isFinite = true := by
  unfold isFinite at h ⊢
  rwa [exponentField_neg]

/-! ## Rounding -/

theorem log2_le_of_lt {num den k : Nat} (hnum : num ≠ 0) (h : num < den * 2 ^ k) :
    num.log2 ≤ den.log2 + k := by
  have hden : den < 2 ^ (den.log2 + 1) := Nat.lt_log2_self
  have hlt : num < 2 ^ (den.log2 + 1 + k) := by
    calc num < den * 2 ^ k := h
      _ ≤ 2 ^ (den.log2 + 1) * 2 ^ k := Nat.mul_le_mul_right _ hden.le
      _ = 2 ^ (den.log2 + 1 + k) := (Nat.pow_add ..).symm
  have hlog := (Nat.log2_lt hnum).mpr hlt
  omega

/-- At the scale that is used there are at most 54 binary digits before the point. -/
theorem roundScaled_le {num den : Nat} {e : Int} (hden : den ≠ 0)
    (he : (num.log2 : Int) - den.log2 - 53 ≤ e) : roundScaled num den e ≤ 2 ^ 54 := by
  have htop : num * 2 ^ (-e).toNat < 2 ^ 54 * (den * 2 ^ e.toNat) := by
    calc num * 2 ^ (-e).toNat < 2 ^ (num.log2 + 1) * 2 ^ (-e).toNat :=
          Nat.mul_lt_mul_of_pos_right Nat.lt_log2_self (Nat.two_pow_pos _)
      _ = 2 ^ (num.log2 + 1 + (-e).toNat) := (Nat.pow_add ..).symm
      _ ≤ 2 ^ (54 + (den.log2 + e.toNat)) := Nat.pow_le_pow_right (by decide) (by omega)
      _ = 2 ^ 54 * (2 ^ den.log2 * 2 ^ e.toNat) := by rw [Nat.pow_add, Nat.pow_add]
      _ ≤ 2 ^ 54 * (den * 2 ^ e.toNat) :=
          Nat.mul_le_mul_left _ (Nat.mul_le_mul_right _ (Nat.log2_self_le hden))
  have hquotient : num * 2 ^ (-e).toNat / (den * 2 ^ e.toNat) < 2 ^ 54 :=
    (Nat.div_lt_iff_lt_mul (Nat.mul_pos (Nat.pos_of_ne_zero hden) (Nat.two_pow_pos _))).mpr htop
  unfold roundScaled
  dsimp only
  split
  · exact hquotient
  · exact hquotient.le

theorem scaleOf_bounds (num den : Nat) : (num.log2 : Int) - den.log2 - 53 ≤ scaleOf num den
    ∧ scaleOf num den ≤ max ((num.log2 : Int) - den.log2 - 52) (-1074) := by
  unfold scaleOf
  dsimp only
  split <;> omega

/-- The bits of a number with a scale and digits, which are at most twice as many as a scale has. -/
theorem exponentField_scaled {e : Int} {digits k : Nat} (he : e ≤ (k : Int) - 52)
    (hdigits : digits ≤ 2 ^ 54) (hk : k ≤ 1000) (bits : Nat)
    (hbits : bits = if digits < pow2 52 then digits else (e + 1074).toNat * pow2 52 + digits) :
    bits < exponentLimit * pow2 52 ∧ bits / 2 ^ 52 ≤ k + 1026 := by
  have hle : bits ≤ (k + 1026) * 2 ^ 52 := by
    rw [pow2_eq] at hbits
    split at hbits <;> omega
  unfold exponentLimit
  rw [pow2_eq]
  omega

theorem exponentField_ofRatio_le {num den k : Nat} (h : num < den * 2 ^ k) (hk : k ≤ 1000) :
    (ofRatio false num den).exponentField ≤ k + 1026 := by
  unfold ofRatio
  split
  case isTrue =>
    rw [exponentField_withSign (by decide)]
    omega
  case isFalse hnum =>
    have hden : den ≠ 0 := by
      rintro rfl
      omega
    obtain ⟨hlow, hhigh⟩ := scaleOf_bounds num den
    have hlog := log2_le_of_lt hnum h
    obtain ⟨hlimit, hfield⟩ := @exponentField_scaled (scaleOf num den) _ k (by omega)
      (roundScaled_le hden hlow) hk _ rfl
    rw [if_neg (not_le.mpr hlimit), exponentField_withSign]
    · exact hfield
    · exact lt_of_lt_of_le hlimit (by decide)

/-! ## Ratios -/

/-- A finite number is as large as its exponent field says. -/
theorem ratio_lt {x : Binary64} {k : Nat} (h : x.exponentField ≤ 1022 + k) :
    x.ratio.1 < x.ratio.2 * 2 ^ k := by
  have hmagnitude : x.magnitude.m < 2 ^ 53 ∧ x.magnitude.q ≤ (k : Int) - 53 := by
    have hfraction := fractionField_lt x
    unfold magnitude
    split
    · exact ⟨by dsimp only; omega, by dsimp only; omega⟩
    · exact ⟨by simp only [pow2_eq]; omega, by dsimp only; omega⟩
  obtain ⟨hm, hq⟩ := hmagnitude
  calc x.magnitude.m * 2 ^ x.magnitude.q.toNat < 2 ^ 53 * 2 ^ x.magnitude.q.toNat :=
        Nat.mul_lt_mul_of_pos_right hm (Nat.two_pow_pos _)
    _ = 2 ^ (53 + x.magnitude.q.toNat) := (Nat.pow_add ..).symm
    _ ≤ 2 ^ ((-x.magnitude.q).toNat + k) := Nat.pow_le_pow_right (by decide) (by omega)
    _ = 2 ^ (-x.magnitude.q).toNat * 2 ^ k := Nat.pow_add ..

/-- Division by a number that is at least `2 ^ j` takes `j` binary digits away. -/
theorem exponentField_divMagnitude_le {x y : Binary64} {j k : Nat} (hx : x.exponentField ≤ 1022 + (k + j))
    (hy : y.ratio.2 * 2 ^ j ≤ y.ratio.1) (hk : k ≤ 1000) :
    (x.divMagnitude y).exponentField ≤ k + 1026 := by
  refine exponentField_ofRatio_le ?_ hk
  have hpos : 0 < y.ratio.2 := Nat.two_pow_pos _
  calc x.ratio.1 * y.ratio.2 < x.ratio.2 * 2 ^ (k + j) * y.ratio.2 :=
        Nat.mul_lt_mul_of_pos_right (ratio_lt hx) hpos
    _ = x.ratio.2 * (y.ratio.2 * 2 ^ j) * 2 ^ k := by rw [Nat.pow_add]; ring
    _ ≤ x.ratio.2 * y.ratio.1 * 2 ^ k := Nat.mul_le_mul_right _ (Nat.mul_le_mul_left _ hy)

end Binary64

open Binary64

/-- Powers of ten are rounded to numbers that are not below one. -/
theorem one_le_powers : ∀ k < 309,
    (ofRatio false (pow10 k) 1).ratio.2 * 2 ^ 0 ≤ (ofRatio false (pow10 k) 1).ratio.1 := by
  decide +kernel

theorem largePower_ge :
    (ofRatio false (pow10 308) 1).ratio.2 * 2 ^ 8 ≤ (ofRatio false (pow10 308) 1).ratio.1 := by
  decide +kernel

/-! ## Numerals -/

theorem isFinite_of_scaleByPower {x y : Binary64} {e : Int} (hx : x.exponentField ≤ 1022 + 72)
    (h : scaleByPower x e = some y) : y.isFinite = true := by
  have hfinite : x.isFinite = true := isFinite_of_exponentField_lt (by omega)
  rw [scaleByPower] at h
  split at h
  case isTrue =>
    split at h
    · cases h
      exact hfinite
    · cases h
  case isFalse hhigh =>
    split at h
    case isTrue =>
      dsimp only at h
      split at h
      case isTrue hy =>
        cases h
        exact hy
      case isFalse => cases h
    case isFalse hnegative =>
      split at h
      case isTrue hlow =>
        cases h
        have hpower := one_le_powers (-e).toNat (by omega)
        have hfield := @exponentField_divMagnitude_le x _ 0 72 hx hpower (by decide)
        exact isFinite_of_exponentField_lt (by omega)
      case isFalse =>
        split at h
        · cases h
          exact hfinite
        · have hfield := @exponentField_divMagnitude_le x _ 8 64 hx largePower_ge (by decide)
          exact isFinite_of_scaleByPower (by omega) h
termination_by (-e).toNat
decreasing_by omega

theorem collect_le {word : Nat} (h : word ≤ wordMax) (digits : List Nat) :
    (collect word digits).1 ≤ wordMax := by
  induction digits generalizing word with
  | nil => exact h
  | cons d ds ih =>
      rw [collect]
      split
      · rename_i hnext
        exact ih hnext
      · exact h

theorem Numeral.isFinite_of_scaled? {n : Numeral} {x : Binary64} (h : n.scaled? = some x) :
    x.isFinite = true := by
  unfold Numeral.scaled? at h
  rcases hwhole : collect 0 n.whole with ⟨leading, lost⟩
  rcases hfraction : collect leading n.fraction with ⟨word, rest⟩
  have hleading : leading ≤ wordMax := by
    have hle := collect_le (Nat.zero_le _) n.whole
    rwa [hwhole] at hle
  have hword : word ≤ wordMax := by
    have hle := collect_le hleading n.fraction
    rwa [hfraction] at hle
  have hstart : (ofRatio false word 1).exponentField ≤ 1022 + 72 := by
    have hlt : word < 1 * 2 ^ 64 := lt_of_le_of_lt hword (by decide)
    have hfield := exponentField_ofRatio_le hlt (by decide)
    omega
  -- the sign is put before a finite number
  have hsigned : ∀ {e : Int}, (scaleByPower (ofRatio false word 1) e).map
      (fun y => if n.negative then y.neg else y) = some x → x.isFinite = true := by
    intro e hscale
    obtain ⟨y, hy, rfl⟩ := Option.map_eq_some_iff.mp hscale
    have hfinite := isFinite_of_scaleByPower hstart hy
    split
    · exact isFinite_neg hfinite
    · exact hfinite
  simp only [hwhole, hfraction] at h
  split at h
  case h_1 => exact hsigned h
  case h_2 =>
    split at h
    case isTrue =>
      split at h
      · cases h
      · cases h
        split <;> decide
    case isFalse => exact hsigned h

/-- A number of a document is an integer or finite. -/
theorem Numeral.isFinite_of_number? {n : Numeral} {x : Binary64} (h : n.number? = some (.float x)) :
    x.isFinite = true := by
  unfold Numeral.number? at h
  dsimp only at h
  split at h
  · cases h
  · split at h
    · cases h
    · obtain ⟨y, hy, heq⟩ := Option.map_eq_some_iff.mp h
      cases heq
      exact isFinite_of_scaled? hy

end ApiRoutes.Decimal
