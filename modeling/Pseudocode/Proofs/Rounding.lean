import Mathlib.Algebra.Order.Field.Power
import Mathlib.Data.Rat.Floor
import Mathlib.Tactic.FieldSimp
import Mathlib.Tactic.GCongr
import Mathlib.Tactic.Linarith
import Mathlib.Tactic.Ring
import Pseudocode.Proofs.Integers

/-!
How far rounding goes. Unless a number is very small or very large, rounding changes it by one part
in `2 ^ 53` at most. So a quotient of whole numbers below `2 ^ 53` is rounded to a number with the
same whole part: what is left to the next whole number is one part of the denominator or more, and
rounding goes less far than that.
-/

namespace Pseudocode.Binary64

variable {negative : Bool} {n d : Nat}

/-! ### Exponents -/

theorem mkRat_eq_mul_zpow (m : Nat) (e : Int) :
    mkRat (m * Nat.pow 2 e.toNat) (Nat.pow 2 (-e).toNat) = m * (2 : ℚ) ^ e := by
  rw [Rat.mkRat_eq_div]
  rcases Int.le_total 0 e with he | he
  · obtain ⟨k, rfl⟩ := Int.eq_ofNat_of_zero_le he
    simp [Nat.pow_eq]
  · obtain ⟨k, hk⟩ := Int.eq_ofNat_of_zero_le (Int.neg_nonneg.mpr he)
    obtain rfl : e = -k := by omega
    simp [Nat.pow_eq, div_eq_mul_inv]

theorem scaled_eq (negative : Bool) (m : Nat) (e : Int) :
    scaled negative m e = (if negative then -1 else 1) * (m * (2 : ℚ) ^ e) := by
  rw [scaled, mkRat_eq_mul_zpow]
  cases negative <;> simp

theorem zpow_log2Quotient_le (hn : n ≠ 0) (hd : d ≠ 0) :
    (2 : ℚ) ^ log2Quotient n d ≤ n / d := by
  have hdpos : (0 : ℚ) < d := by positivity
  rw [le_div_iff₀ hdpos, log2Quotient]
  generalize hk : (n.log2 : Int) - d.log2 = k
  split
  · rename_i h
    have hle : (d * 2 ^ k.toNat : ℚ) ≤ n * 2 ^ (-k).toNat := by exact_mod_cast h
    rcases Int.le_total 0 k with hsign | hsign
    · obtain ⟨j, rfl⟩ := Int.eq_ofNat_of_zero_le hsign
      simpa [mul_comm] using hle
    · obtain ⟨j, hj⟩ := Int.eq_ofNat_of_zero_le (Int.neg_nonneg.mpr hsign)
      obtain rfl : k = -j := by omega
      rw [zpow_neg, zpow_natCast, inv_mul_le_iff₀ (by positivity)]
      simpa [mul_comm] using hle
  · -- The logarithms alone give the power one below.
    have hbelow : (2 : ℚ) ^ n.log2 ≤ n := by exact_mod_cast Nat.log2_self_le hn
    have habove : (d : ℚ) ≤ 2 ^ (d.log2 + 1) := by exact_mod_cast Nat.lt_log2_self.le
    calc (2 : ℚ) ^ (k - 1) * d ≤ (2 : ℚ) ^ (k - 1) * 2 ^ (d.log2 + 1) := by gcongr
      _ = 2 ^ n.log2 := by
          rw [← zpow_natCast, ← zpow_add₀ (by norm_num), ← zpow_natCast]
          congr 1
          push_cast
          omega
      _ ≤ n := hbelow

theorem log2Quotient_le (n d : Nat) : log2Quotient n d ≤ n.log2 := by
  unfold log2Quotient
  dsimp only
  split <;> omega

theorem le_log2Quotient (n d : Nat) : -(d.log2 : Int) - 1 ≤ log2Quotient n d := by
  unfold log2Quotient
  dsimp only
  split <;> omega

/-! ### Rounding -/

theorem abs_nearest_sub_le (n : Nat) (hd : d ≠ 0) :
    |(nearest n d : ℚ) - n / d| ≤ 1 / 2 := by
  have hdpos : (0 : ℚ) < d := by positivity
  have hsplit : (n : ℚ) = d * (n / d : Nat) + (n % d : Nat) := by
    exact_mod_cast (Nat.div_add_mod n d).symm
  have hrest : (n % d : Nat) < (d : ℚ) := by
    exact_mod_cast Nat.mod_lt n (Nat.pos_of_ne_zero hd)
  have hquotient : (n : ℚ) / d = (n / d : Nat) + (n % d : Nat) / d := by
    rw [hsplit]
    field_simp
  have hfraction : (0 : ℚ) ≤ (n % d : Nat) / d := by positivity
  rw [nearest, hquotient, abs_le]
  split
  · rename_i h
    have hhalf : (d : ℚ) ≤ 2 * (n % d : Nat) := by
      have hnat : d ≤ 2 * (n % d) := by
        simp only [Bool.or_eq_true, Bool.and_eq_true, decide_eq_true_eq, beq_iff_eq] at h
        omega
      exact_mod_cast hnat
    have hlow : (1 : ℚ) / 2 ≤ (n % d : Nat) / d := by
      rw [le_div_iff₀ hdpos]
      linarith
    have hhigh : ((n % d : Nat) : ℚ) / d ≤ 1 := (div_le_one hdpos).mpr hrest.le
    push_cast
    constructor <;> linarith
  · rename_i h
    have hhalf : 2 * (n % d : Nat) ≤ (d : ℚ) := by
      have hnat : 2 * (n % d) ≤ d := by
        simp only [Bool.or_eq_true, Bool.and_eq_true, decide_eq_true_eq, beq_iff_eq] at h
        omega
      exact_mod_cast hnat
    have hhigh : ((n % d : Nat) : ℚ) / d ≤ 1 / 2 := by
      rw [div_le_iff₀ hdpos]
      linarith
    constructor <;> linarith

/-- Away from the least and the greatest exponents, a quotient is rounded by one part in `2 ^ 53` at
most. -/
theorem toRat?_ofQuotient (negative : Bool) (hn : n ≠ 0) (hd : d ≠ 0)
    (hlow : minExponent + 52 ≤ log2Quotient n d)
    (hhigh : log2Quotient n d < maxExponent + 52) :
    ∃ v, (ofQuotient negative n d).toRat? = some v ∧
      |v - (if negative then -1 else 1) * (n / d)| ≤ n / d / 2 ^ 53 := by
  obtain ⟨e, he⟩ : ∃ e, log2Quotient n d - 52 = e := ⟨_, rfl⟩
  have hmax : max e minExponent = e := max_eq_left (by omega)
  obtain ⟨m, hm⟩ : ∃ m, nearest (n * Nat.pow 2 (-e).toNat) (d * Nat.pow 2 e.toNat) = m := ⟨_, rfl⟩
  have hpow : (0 : ℚ) < 2 ^ e := zpow_pos (by norm_num) e
  -- The significand is the quotient in units of the last place, to the nearest whole number.
  have hunits : ((n * Nat.pow 2 (-e).toNat : Nat) : ℚ) / (d * Nat.pow 2 e.toNat : Nat) =
      n / d / 2 ^ e := by
    rcases Int.le_total 0 e with hsign | hsign
    · obtain ⟨k, rfl⟩ := Int.eq_ofNat_of_zero_le hsign
      simp [Nat.pow_eq, div_div]
    · obtain ⟨k, hk⟩ := Int.eq_ofNat_of_zero_le (Int.neg_nonneg.mpr hsign)
      obtain rfl : e = -k := by omega
      simp [Nat.pow_eq, div_mul_eq_mul_div]
  have hnearest : |(m : ℚ) - n / d / 2 ^ e| ≤ 1 / 2 := by
    rw [← hm, ← hunits]
    exact abs_nearest_sub_le _ (by simp [Nat.pow_eq, hd])
  have herror : |m * (2 : ℚ) ^ e - n / d| ≤ n / d / 2 ^ 53 := by
    calc |m * (2 : ℚ) ^ e - n / d| = |(m : ℚ) - n / d / 2 ^ e| * 2 ^ e := by
          rw [← abs_of_pos hpow, ← abs_mul, sub_mul, abs_of_pos hpow,
            div_mul_cancel₀ _ hpow.ne']
      _ ≤ 1 / 2 * 2 ^ e := by gcongr
      _ = 2 ^ log2Quotient n d / 2 ^ 53 := by
          rw [← he, zpow_sub₀ (by norm_num)]
          norm_num
          ring
      _ ≤ n / d / 2 ^ 53 := by
          gcongr
          exact zpow_log2Quotient_le hn hd
  have hvalue (m' : Nat) (e' : Int) (h : (m' : ℚ) * 2 ^ e' = m * 2 ^ e) :
      |scaled negative m' e' - (if negative then -1 else 1) * (n / d)| ≤ n / d / 2 ^ 53 := by
    rw [scaled_eq, h]
    cases negative
    · simpa using herror
    · rw [abs_sub_comm] at herror
      simpa [add_comm, ← sub_eq_add_neg] using herror
  have hsome : ¬ (n == 0) = true := by simpa using hn
  simp only [ofQuotient, if_neg hsome, he, hmax, hm]
  split
  · -- All 53 bits are ones and the last one is carried.
    rename_i hcarry
    have hlimit : m = significandLimit := by simpa using hcarry
    have hsmall : ¬ maxExponent < e + 1 := by omega
    rw [if_neg hsmall]
    refine ⟨_, rfl, hvalue _ _ ?_⟩
    rw [hlimit, significandLimit, zpow_add₀ (by norm_num)]
    norm_num
    ring
  · have hsmall : ¬ maxExponent < e := by omega
    rw [if_neg hsmall]
    exact ⟨_, rfl, hvalue _ _ rfl⟩

/-- A rational by its sign and its magnitude. -/
theorem eq_sign_mul_natAbs_div (q : ℚ) :
    q = (if decide (q.num < 0) then -1 else 1) * (q.num.natAbs / q.den) := by
  have hnum : (q.num : ℚ) = (if decide (q.num < 0) then -1 else 1) * (q.num.natAbs : ℚ) := by
    rw [← Int.cast_natCast]
    by_cases h : q.num < 0
    · have habs : (q.num.natAbs : Int) = -q.num := by omega
      simp [h, habs]
    · have habs : (q.num.natAbs : Int) = q.num := by omega
      simp [h, habs]
  conv_lhs => rw [← Rat.num_div_den q, hnum]
  rw [mul_div_assoc]

theorem abs_eq_natAbs_div (q : ℚ) : |q| = q.num.natAbs / q.den := by
  conv_lhs => rw [← Rat.num_div_den q]
  rw [abs_div, Nat.abs_cast, Nat.cast_natAbs, Int.cast_abs]

/-- A quotient of whole numbers below the significand limit is rounded by one part in `2 ^ 53` at
most. -/
theorem toRat?_ofRat (negativeZero : Bool) {q : ℚ} (hnum : q.num.natAbs < significandLimit)
    (hden : q.den < significandLimit) :
    ∃ v, (ofRat negativeZero q).toRat? = some v ∧ |v - q| ≤ |q| / 2 ^ 53 := by
  by_cases hzero : q.num = 0
  · obtain rfl : q = 0 := Rat.zero_of_num_zero hzero
    exact ⟨0, by cases negativeZero <;> simp [ofRat, zero, scaled], by simp⟩
  · have hn : q.num.natAbs ≠ 0 := Int.natAbs_ne_zero.mpr hzero
    have hlognum : q.num.natAbs.log2 < 53 := (Nat.log2_lt hn).mpr hnum
    have hlogden : q.den.log2 < 53 := (Nat.log2_lt q.den_nz).mpr hden
    have hupper := log2Quotient_le q.num.natAbs q.den
    have hlower := le_log2Quotient q.num.natAbs q.den
    obtain ⟨v, hv, herror⟩ := toRat?_ofQuotient (decide (q.num < 0)) hn q.den_nz
      (by rw [minExponent]; omega) (by rw [maxExponent]; omega)
    rw [← eq_sign_mul_natAbs_div q, ← abs_eq_natAbs_div q] at herror
    refine ⟨v, ?_, herror⟩
    rw [ofRat, if_neg (by simpa using hzero)]
    exact hv

/-- Below the significand limit a whole number is not rounded, whatever the sign of zero. -/
theorem toRat?_ofRat_intCast (negativeZero : Bool) {i : Int} (h : i.natAbs < significandLimit) :
    (ofRat negativeZero i).toRat? = some (i : ℚ) := by
  by_cases hzero : i = 0
  · subst hzero
    cases negativeZero <;> simp [ofRat, zero, scaled]
  · have hsame : ofRat negativeZero (i : ℚ) = ofInt i := by
      simp [ofInt, ofRat, hzero]
    rw [hsame]
    exact toRat?_ofInt h

/-! ### Whole parts -/

/-- Above a whole number, a quotient is above it by one part of its denominator or more. -/
theorem intCast_add_le {q : ℚ} {i : Int} (h : (i : ℚ) < q) : (i : ℚ) + 1 / q.den ≤ q := by
  have hden : (0 : ℚ) < q.den := by exact_mod_cast q.den_pos
  have hlt : i * q.den < q.num := by
    rw [← Rat.num_div_den q, lt_div_iff₀ hden] at h
    exact_mod_cast h
  have hle : ((i * q.den + 1 : Int) : ℚ) ≤ q.num := by exact_mod_cast hlt
  calc (i : ℚ) + 1 / q.den = (i * q.den + 1 : Int) / q.den := by
        push_cast
        field_simp
    _ ≤ q.num / q.den := by gcongr
    _ = q := Rat.num_div_den q

/-- Rounding does not change the whole part of a quotient of whole numbers below the significand
limit. -/
theorem floor_toRat?_ofRat (negativeZero : Bool) {q : ℚ} (hnum : q.num.natAbs < significandLimit)
    (hden : q.den < significandLimit) :
    ∃ v, (ofRat negativeZero q).toRat? = some v ∧ ⌊v⌋ = ⌊q⌋ := by
  by_cases hwhole : (⌊q⌋ : ℚ) = q
  · have hfloor : ⌊q⌋ = q.num := by rw [← hwhole, Int.floor_intCast, Rat.num_intCast]
    refine ⟨q, ?_, rfl⟩
    rw [← hwhole]
    exact toRat?_ofRat_intCast negativeZero (hfloor ▸ hnum)
  · obtain ⟨v, hv, herror⟩ := toRat?_ofRat negativeZero hnum hden
    have hdenpos : (0 : ℚ) < q.den := by exact_mod_cast q.den_pos
    -- Rounding goes less far than to the next whole number on either side.
    have hnear : |v - q| < 1 / q.den := by
      have hlimit : (q.num.natAbs : ℚ) < 2 ^ 53 := by
        exact_mod_cast (show q.num.natAbs < 2 ^ 53 from hnum)
      calc |v - q| ≤ |q| / 2 ^ 53 := herror
        _ = q.num.natAbs / 2 ^ 53 / q.den := by rw [abs_eq_natAbs_div, div_right_comm]
        _ < 1 / q.den := by
            gcongr
            exact (div_lt_one (by positivity)).mpr hlimit
    have hbelow : (⌊q⌋ : ℚ) + 1 / q.den ≤ q :=
      intCast_add_le (lt_of_le_of_ne (Int.floor_le q) hwhole)
    have habove : ((-(⌊q⌋ + 1) : Int) : ℚ) + 1 / (-q).den ≤ -q := by
      refine intCast_add_le ?_
      push_cast
      linarith [Int.lt_floor_add_one q]
    rw [Rat.den_neg_eq_den] at habove
    push_cast at habove
    obtain ⟨hlow, hhigh⟩ := abs_lt.mp hnear
    refine ⟨v, hv, Int.floor_eq_iff.mpr ⟨?_, ?_⟩⟩ <;> linarith

end Pseudocode.Binary64
