import Pseudocode.Proofs.Cancellation
import Pseudocode.Proofs.Rounding

/-!
Dividing whole numbers. Of whole numbers below `2 ^ 53`, `div` gives the greatest whole number that
is not above the quotient, although the quotient is rounded before, and `mod` gives what is left
when the quotient is cut to a whole number, with the sign of the dividend. Cutting goes up where the
quotient is negative. So the two belong together unless the signs differ and the division leaves
something, and then they are one divisor apart.
-/

namespace Pseudocode

namespace Binary64

variable {x y : Binary64} {a b : Int}

/-! ### Quotients of whole numbers -/

theorem natAbs_num_div_le (a b : Int) (hb : b ≠ 0) : ((a : ℚ) / b).num.natAbs ≤ a.natAbs := by
  by_cases ha : a = 0
  · simp [ha]
  · have hdvd : ((a : ℚ) / b).num ∣ a := by
      rw [← Rat.divInt_eq_div]
      exact Rat.num_dvd a hb
    exact Nat.le_of_dvd (Int.natAbs_pos.mpr ha) (Int.natAbs_dvd_natAbs.mpr hdvd)

theorem den_div_le (a b : Int) (hb : b ≠ 0) : ((a : ℚ) / b).den ≤ b.natAbs := by
  have hdvd : (((a : ℚ) / b).den : Int) ∣ b := by
    rw [← Rat.divInt_eq_div]
    exact Rat.den_dvd a b
  exact Nat.le_of_dvd (Int.natAbs_pos.mpr hb) (Int.natCast_dvd.mp hdvd)

theorem fdiv_eq_floor (a b : Int) : a.fdiv b = ⌊(a : ℚ) / b⌋ := by
  have hpos (a : Int) (n : Nat) : a.fdiv n = ⌊(a : ℚ) / n⌋ := by
    rw [Int.fdiv_eq_ediv_of_nonneg a (Int.natCast_nonneg n), Rat.floor_intCast_div_natCast]
  rcases Int.le_total 0 b with hb | hb
  · obtain ⟨n, rfl⟩ := Int.eq_ofNat_of_zero_le hb
    exact hpos a n
  · obtain ⟨n, hn⟩ := Int.eq_ofNat_of_zero_le (Int.neg_nonneg.mpr hb)
    obtain rfl : b = -n := by omega
    have hneg := hpos (-a) n
    rw [← Int.neg_fdiv_neg, neg_neg, hneg]
    push_cast
    rw [neg_div, div_neg]

theorem truncatedQuotient_intCast (a b : Int) (hb : b ≠ 0) :
    truncatedQuotient a b = a.tdiv b := by
  obtain ⟨c, ha, hc⟩ := Rat.exists_eq_mul_div_num_and_eq_mul_div_den a hb
  rw [truncatedQuotient]
  generalize ((a : ℚ) / b).num = p at ha ⊢
  generalize (((a : ℚ) / b).den : Int) = q at hc ⊢
  subst ha hc
  rcases Int.lt_trichotomy c 0 with hneg | rfl | hpos
  · rw [← Int.neg_tdiv_neg (c * p), ← Int.neg_mul, ← Int.neg_mul,
      Int.mul_tdiv_mul_of_pos _ _ (Int.neg_pos.mpr hneg)]
  · exact (hb (Int.zero_mul q)).elim
  · rw [Int.mul_tdiv_mul_of_pos _ _ hpos]

/-- The two ways to divide, put together. -/
theorem mul_fdiv_add_tmod (a b : Int) :
    b * a.fdiv b + a.tmod b = if b ∣ a ∨ 0 ≤ a * b then a else a - b := by
  have htogether := Int.mul_tdiv_add_tmod a b
  rw [Int.fdiv_eq_tdiv, Int.mul_sub]
  by_cases hdvd : b ∣ a
  · simp only [hdvd, if_true, true_or]
    omega
  · have ha : a ≠ 0 := by
      rintro rfl
      exact hdvd (Int.dvd_zero b)
    simp only [hdvd, if_false, false_or]
    rcases Int.lt_or_gt_of_ne ha with hneg | hpos <;>
      rcases Int.lt_trichotomy b 0 with hb | rfl | hb
    · have hsign : 0 ≤ a * b := (Int.mul_pos_of_neg_of_neg hneg hb).le
      rw [if_neg (Int.not_le.mpr hneg), if_neg (Int.not_le.mpr hb), if_pos hsign,
        Int.sign_eq_neg_one_of_neg hb]
      omega
    · simp [Int.not_le.mpr hneg]
    · have hsign : ¬ 0 ≤ a * b := Int.not_le.mpr (Int.mul_neg_of_neg_of_pos hneg hb)
      rw [if_neg (Int.not_le.mpr hneg), if_pos hb.le, if_neg hsign, Int.sign_eq_one_of_pos hb]
      omega
    · have hsign : ¬ 0 ≤ a * b := Int.not_le.mpr (Int.mul_neg_of_pos_of_neg hpos hb)
      rw [if_pos hpos.le, if_neg (Int.not_le.mpr hb), if_neg hsign]
      omega
    · simp [hpos.le]
    · have hsign : 0 ≤ a * b := (Int.mul_pos hpos hb).le
      rw [if_pos hpos.le, if_pos hb.le, if_pos hsign]
      omega

/-! ### Numbers -/

theorem significand_ne_zero {negative : Bool} {m : Nat} {e : Int}
    (h : scaled negative m e = (b : ℚ)) (hb : b ≠ 0) : ¬ (m == 0) = true := by
  intro hzero
  rw [beq_iff_eq.mp hzero, scaled_eq] at h
  simp [eq_comm, hb] at h

theorem isZero_eq_false (hy : y.toRat? = some (b : ℚ)) (hb : b ≠ 0) : y.isZero = false := by
  cases y with
  | nan | infinite => cases hy
  | finite t n f =>
      have hvalue : scaled t n f = b := Option.some.inj hy
      have hzero : scaled false 0 minExponent = 0 := by simp [scaled]
      have hcast : (b : ℚ) ≠ 0 := by exact_mod_cast hb
      simp only [isZero, eq, compare?, zero, hvalue, hzero]
      rcases lt_or_gt_of_ne hcast with hneg | hpos
      · simp [hneg]
      · simp [hpos, not_lt.mpr hpos.le]

/-- The whole number that `div` gives. -/
theorem toRat?_floor_div (hx : x.toRat? = some (a : ℚ)) (hy : y.toRat? = some (b : ℚ))
    (ha : a.natAbs < significandLimit) (hb : b.natAbs < significandLimit) (hne : b ≠ 0) :
    (x / y).floor.toRat? = some (a.fdiv b : ℚ) := by
  cases x with
  | nan | infinite => cases hx
  | finite s m e =>
  cases y with
  | nan | infinite => cases hy
  | finite t n f =>
      have hdividend : scaled s m e = a := Option.some.inj hx
      have hdivisor : scaled t n f = b := Option.some.inj hy
      have hn : ¬ (n == 0) = true := significand_ne_zero hdivisor hne
      have hquotient : (finite s m e / finite t n f : Binary64) = ofRat (s != t) (a / b) := by
        show (if n == 0 then _ else ofRat (s != t) (scaled s m e / scaled t n f)) = _
        rw [if_neg hn, hdividend, hdivisor]
      obtain ⟨v, hv, hfloor⟩ := floor_toRat?_ofRat (s != t) (q := (a : ℚ) / b)
        ((natAbs_num_div_le a b hne).trans_lt ha) ((den_div_le a b hne).trans_lt hb)
      have hfits : (a.fdiv b).natAbs < significandLimit :=
        (Int.natAbs_fdiv_le_natAbs a b).trans_lt ha
      rw [hquotient]
      generalize ofRat (s != t) (a / b) = z at hv ⊢
      cases z with
      | nan | infinite => cases hv
      | finite u k g =>
          have hvalue : (scaled u k g).floor = a.fdiv b := by
            rw [Option.some.inj hv, fdiv_eq_floor]
            exact hfloor
          rw [floor, hvalue]
          exact toRat?_ofRat_intCast u hfits

/-- The whole number that `mod` gives. -/
theorem toRat?_mod (hx : x.toRat? = some (a : ℚ)) (hy : y.toRat? = some (b : ℚ))
    (hb : b.natAbs < significandLimit) (hne : b ≠ 0) :
    (x % y).toRat? = some (a.tmod b : ℚ) := by
  cases x with
  | nan | infinite => cases hx
  | finite s m e =>
  cases y with
  | nan | infinite => cases hy
  | finite t n f =>
      have hdividend : scaled s m e = a := Option.some.inj hx
      have hdivisor : scaled t n f = b := Option.some.inj hy
      have hn : ¬ (n == 0) = true := significand_ne_zero hdivisor hne
      have hrest : (finite s m e % finite t n f : Binary64) = ofRat s (a.tmod b : Int) := by
        show (if n == 0 then _ else ofRat s (scaled s m e -
          truncatedQuotient (scaled s m e) (scaled t n f) * scaled t n f)) = _
        rw [if_neg hn, hdividend, hdivisor, truncatedQuotient_intCast a b hne, Int.tmod_def]
        push_cast
        rw [mul_comm]
      rw [hrest]
      refine toRat?_ofRat_intCast s ?_
      rw [Int.natAbs_tmod]
      exact (Nat.mod_lt _ (Int.natAbs_pos.mpr hne)).trans hb

end Binary64

namespace BinaryOp

variable {x y : Binary64}

theorem apply_intDiv (h : y.isZero = false) :
    intDiv.apply (.number x) (.number y) = .ok (.number (x / y).floor) := by
  simp [apply, dividesBy, onNumbers, h]

theorem apply_mod (h : y.isZero = false) :
    mod.apply (.number x) (.number y) = .ok (.number (x % y)) := by
  simp [apply, dividesBy, onNumbers, h]

/-- What `div` and `mod` give for whole numbers below `2 ^ 53` in magnitude, the divisor not zero:
two whole numbers, of which the first is the whole part of the exact quotient, and the second is
less than the divisor in magnitude and has the sign of the dividend. They give back the dividend if
its sign is that of the divisor or the division leaves nothing, and else one divisor less. -/
theorem whole_division {a b : Int} (hx : x.toRat? = some (a : ℚ)) (hy : y.toRat? = some (b : ℚ))
    (ha : a.natAbs < 2 ^ 53) (hb : b.natAbs < 2 ^ 53) (hne : b ≠ 0) :
    ∃ (q r : Int) (u v : Binary64),
      intDiv.apply (.number x) (.number y) = .ok (.number u) ∧ u.toRat? = some (q : ℚ) ∧
      mod.apply (.number x) (.number y) = .ok (.number v) ∧ v.toRat? = some (r : ℚ) ∧
      q = ⌊(a : ℚ) / b⌋ ∧ |r| < |b| ∧ (r = 0 ∨ r.sign = a.sign) ∧
      b * q + r = if b ∣ a ∨ 0 ≤ a * b then a else a - b := by
  have hzero := Binary64.isZero_eq_false hy hne
  refine ⟨a.fdiv b, a.tmod b, _, _, apply_intDiv hzero, Binary64.toRat?_floor_div hx hy ha hb hne,
    apply_mod hzero, Binary64.toRat?_mod hx hy hb hne, Binary64.fdiv_eq_floor a b, ?_, ?_,
    Binary64.mul_fdiv_add_tmod a b⟩
  · rw [Int.abs_eq_natAbs, Int.abs_eq_natAbs, Int.natAbs_tmod]
    exact_mod_cast Nat.mod_lt _ (Int.natAbs_pos.mpr hne)
  · rw [Int.sign_tmod]
    by_cases hdvd : b ∣ a
    · exact .inl (Int.tmod_eq_zero_of_dvd hdvd)
    · exact .inr (if_neg hdvd)

/-- The greatest whole number below the limit and a divisor for which the quotient is rounded. -/
theorem whole_division_greatest :
    (Binary64.ofInt 9007199254740991).toRat? = some ((9007199254740991 : Int) : ℚ) ∧
    (Binary64.ofInt (-3)).toRat? = some ((-3 : Int) : ℚ) ∧
    ∃ (q r : Int) (u v : Binary64),
      intDiv.apply (.number (.ofInt 9007199254740991)) (.number (.ofInt (-3))) =
        .ok (.number u) ∧ u.toRat? = some (q : ℚ) ∧
      mod.apply (.number (.ofInt 9007199254740991)) (.number (.ofInt (-3))) =
        .ok (.number v) ∧ v.toRat? = some (r : ℚ) ∧
      q = -3002399751580331 ∧ r = 1 ∧ -3 * q + r = 9007199254740994 := by
  have hx : (Binary64.ofInt 9007199254740991).toRat? = some ((9007199254740991 : Int) : ℚ) :=
    Binary64.toRat?_ofInt (by decide)
  have hy : (Binary64.ofInt (-3)).toRat? = some ((-3 : Int) : ℚ) :=
    Binary64.toRat?_ofInt (by decide)
  obtain ⟨q, r, u, v, hu, hq, hv, hr, hfloor, -, -, htogether⟩ :=
    whole_division hx hy (by decide) (by decide) (by decide)
  obtain rfl : q = -3002399751580331 := by
    rw [hfloor, ← Binary64.fdiv_eq_floor]
    decide
  rw [if_neg (by decide)] at htogether
  exact ⟨hx, hy, _, r, u, v, hu, hq, hv, hr, rfl, by omega, htogether⟩

/-- Of minus seven and two, `div` and `mod` do not give back minus seven. -/
theorem whole_division_apart :
    (¬∃ (q r : Int) (u v : Binary64),
      intDiv.apply (.number (.ofInt (-7))) (.number (.ofInt 2)) = .ok (.number u) ∧
      u.toRat? = some (q : ℚ) ∧
      mod.apply (.number (.ofInt (-7))) (.number (.ofInt 2)) = .ok (.number v) ∧
      v.toRat? = some (r : ℚ) ∧ 2 * q + r = -7) ∧
    Interpreter.recorded "output 2 * (-7 div 2) + -7 mod 2" (fun _ => "") (fun _ => false) 0 =
      (.finished Interpreter.summary, [.check, .tell "-9"]) := by
  refine ⟨?_, by decide +kernel⟩
  rintro ⟨q, r, u, v, hu, hq, hv, hr, htogether⟩
  have hdiv : intDiv.apply (.number (.ofInt (-7))) (.number (.ofInt 2)) =
      .ok (.number (.ofInt (-4))) := by decide +kernel
  have hmod : mod.apply (.number (.ofInt (-7))) (.number (.ofInt 2)) =
      .ok (.number (.ofInt (-1))) := by decide +kernel
  obtain rfl := Value.number.inj (Except.ok.inj (hu.symm.trans hdiv))
  obtain rfl := Value.number.inj (Except.ok.inj (hv.symm.trans hmod))
  rw [Binary64.toRat?_ofInt (by decide), Option.some.injEq, Int.cast_inj] at hq hr
  omega

end BinaryOp

end Pseudocode
