import Mathlib.Algebra.Order.Field.Rat
import Mathlib.Algebra.Order.Ring.Cast
import Pseudocode.Evaluation

/-!
Whole numbers among the binary ones. Below the significand limit every whole number is a number, so
turning it into one rounds nothing; and a value can bound a counting loop exactly if it is a number
that stands for such a whole number.
-/

namespace Pseudocode

namespace Binary64

/-- The quotient by one needs no rounding. -/
theorem nearest_one (n : Nat) : nearest n 1 = n := by
  simp [nearest, Nat.mod_one]

theorem log2Quotient_one {n : Nat} (h : n ≠ 0) : log2Quotient n 1 = n.log2 := by
  have hone : Nat.log2 1 = 0 := by decide
  simp only [log2Quotient, hone, Nat.cast_zero, sub_zero]
  exact if_pos (by simpa using Nat.log2_self_le h)

/-- A whole number below the significand limit has a form with an exponent of at most zero. -/
theorem ofQuotient_one {n : Nat} (hpos : n ≠ 0) (h : n < significandLimit) (negative : Bool) :
    ∃ t : Nat, ofQuotient negative n 1 = finite negative (n * 2 ^ t) (-t) := by
  have hlog : n.log2 < 53 := (Nat.log2_lt hpos).mpr (by simpa [significandLimit] using h)
  obtain ⟨t, ht⟩ : ∃ t, n.log2 + t = 52 := ⟨52 - n.log2, by omega⟩
  refine ⟨t, ?_⟩
  have hexponent : max (log2Quotient n 1 - 52) minExponent = -(t : Int) := by
    rw [log2Quotient_one hpos, minExponent]
    omega
  have hbound : n * 2 ^ t < significandLimit := by
    calc n * 2 ^ t < 2 ^ (n.log2 + 1) * 2 ^ t :=
          Nat.mul_lt_mul_of_lt_of_le Nat.lt_log2_self (Nat.le_refl _) (Nat.two_pow_pos t)
      _ = 2 ^ 53 := by
          rw [← pow_add]
          congr 1
          omega
      _ = significandLimit := by decide
  have hmax : ¬ maxExponent < -(t : Int) := by
    rw [maxExponent]
    omega
  have hsignificand : nearest (n * Nat.pow 2 (- -(t : Int)).toNat)
      (1 * Nat.pow 2 (-(t : Int)).toNat) = n * 2 ^ t := by
    have hdown : (-(t : Int)).toNat = 0 := by omega
    have hup : (- -(t : Int)).toNat = t := by omega
    rw [hdown, hup]
    exact nearest_one _
  have hsome : ¬ (n == 0) = true := by simpa using hpos
  have hlimit : ¬ (n * 2 ^ t == significandLimit) = true := by
    rw [beq_iff_eq]
    exact Nat.ne_of_lt hbound
  simp only [ofQuotient, hexponent, hsignificand, if_neg hsome, if_neg hlimit, if_neg hmax]

theorem ofInt_eq {i : Int} (h : i ≠ 0)  : ofInt i = ofQuotient (decide (i < 0)) i.natAbs 1 := by
  have hnum : ¬((i : Rat).num == 0) = true := by simpa using h
  rw [ofInt, ofRat, if_neg hnum]
  rfl

/-- Below the significand limit nothing is rounded. -/
theorem toRat?_ofInt {i : Int} (h : i.natAbs < significandLimit) :
    (ofInt i).toRat? = some (i : Rat) := by
  by_cases hzero : i = 0
  · subst hzero
    simp [ofInt, ofRat, zero, scaled]
  · have hpos : i.natAbs ≠ 0 := Int.natAbs_ne_zero.mpr hzero
    obtain ⟨t, ht⟩ := ofQuotient_one hpos h (decide (i < 0))
    have hform : ofInt i = finite (decide (i < 0)) (i.natAbs * 2 ^ t) (-t) :=
      (ofInt_eq hzero).trans ht
    have hdown : (-(t : Int)).toNat = 0 := by omega
    have hup : (- -(t : Int)).toNat = t := by omega
    have hmagnitude : mkRat ((i.natAbs * 2 ^ t : Nat) * Nat.pow 2 0) (Nat.pow 2 t) =
        (i.natAbs : Rat) := by
      have hpow : Nat.pow 2 t ≠ 0 := (Nat.two_pow_pos t).ne'
      have hcancel := Rat.mkRat_mul_right (n := (i.natAbs : Int)) (d := 1) hpow
      rw [Nat.one_mul] at hcancel
      simpa [Rat.mkRat_one] using hcancel
    rw [hform, toRat?_finite, scaled, hdown, hup, hmagnitude, ← Int.cast_natCast]
    by_cases hneg : i < 0
    · have habs : (i.natAbs : Int) = -i := by omega
      rw [if_pos (decide_eq_true hneg), habs, Int.cast_neg, neg_neg]
    · have habs : (i.natAbs : Int) = i := by omega
      rw [if_neg (by simpa using hneg), habs]

/-- A number is a whole one if it stands for an integer. -/
theorem toInt?_eq_some_iff {x : Binary64} {i : Int} :
    x.toInt? = some i ↔ x.toRat? = some (i : Rat) := by
  unfold toInt?
  constructor
  · intro h
    split at h
    · rename_i q hq
      split at h
      · rename_i hden
        obtain rfl := Option.some.inj h
        rw [hq, Rat.coe_int_num_of_den_eq_one (by simpa using hden)]
      · cases h
    · cases h
  · intro h
    rw [h]
    rfl

end Binary64

namespace Value

variable {v : Value} {i : Int}

/-- The limit for a whole number as a limit for the rational that it is. -/
theorem natAbs_lt_two_pow_iff (i : Int) (k : Nat) :
    i.natAbs < 2 ^ k ↔ |(i : Rat)| < 2 ^ k := by
  rw [← Int.cast_abs, Int.abs_eq_natAbs]
  norm_cast

/-- A value bounds a loop with the whole number that it is, if this is below the limit. -/
theorem asBound_eq_ok_iff : v.asBound = .ok i ↔
    ∃ n, v = .number n ∧ n.toRat? = some (i : Rat) ∧ i.natAbs < 2 ^ 53 := by
  cases v with
  | text | truth =>
      constructor
      · rintro ⟨⟩
      · rintro ⟨n, ⟨⟩, -⟩
  | number n =>
      unfold asBound asNumber
      dsimp only [bind, Except.bind]
      constructor
      · intro h
        split at h
        · cases h
        · rename_i j hj
          split at h
          · rename_i hlimit
            cases h
            exact ⟨n, rfl, Binary64.toInt?_eq_some_iff.mp hj, hlimit⟩
          · cases h
      · rintro ⟨n', hn, hrat, hlimit⟩
        obtain rfl := Value.number.inj hn
        rw [Binary64.toInt?_eq_some_iff.mpr hrat]
        exact if_pos hlimit

/-- A value cannot bound a loop if it is no number, or is nan or infinite, or has a fraction or a
magnitude of `2 ^ 53` or more. -/
theorem asBound_eq_error_iff : (∃ cause, v.asBound = .error cause) ↔
    v.kind ≠ .number ∨ v = .number .nan ∨ (∃ negative, v = .number (.infinite negative)) ∨
      ∃ n q, v = .number n ∧ n.toRat? = some q ∧ (q.den ≠ 1 ∨ 2 ^ 53 ≤ |q|) := by
  constructor
  · rintro ⟨cause, hcause⟩
    cases v with
    | text | truth => exact .inl Kind.noConfusion
    | number n =>
        refine .inr ?_
        cases n with
        | nan => exact .inl rfl
        | infinite negative => exact .inr (.inl ⟨negative, rfl⟩)
        | finite negative m e =>
            refine .inr (.inr ⟨_, Binary64.scaled negative m e, rfl, rfl, ?_⟩)
            generalize hq : Binary64.scaled negative m e = q
            by_contra hsmall
            obtain ⟨hden, habs⟩ := not_or.mp hsmall
            have hwhole : q = (q.num : Rat) :=
              (Rat.coe_int_num_of_den_eq_one (not_ne_iff.mp hden)).symm
            have hlimit : q.num.natAbs < 2 ^ 53 := by
              rw [hwhole] at habs
              exact (natAbs_lt_two_pow_iff _ _).mpr (not_le.mp habs)
            have hok := asBound_eq_ok_iff.mpr ⟨.finite negative m e, rfl,
              (congrArg some (hq.trans hwhole)), hlimit⟩
            rw [hok] at hcause
            cases hcause
  · intro h
    cases hbound : v.asBound with
    | error cause => exact ⟨cause, rfl⟩
    | ok i =>
        obtain ⟨n, rfl, hrat, hlimit⟩ := asBound_eq_ok_iff.mp hbound
        rcases h with hkind | hnan | ⟨negative, hinfinite⟩ | ⟨n', q, hn, hq, hbad⟩
        · exact (hkind rfl).elim
        · obtain rfl := Value.number.inj hnan
          cases hrat
        · obtain rfl := Value.number.inj hinfinite
          cases hrat
        · obtain rfl := Value.number.inj hn
          obtain rfl := Option.some.inj (hrat.symm.trans hq)
          rcases hbad with hden | habs
          · exact (hden (Rat.den_intCast i)).elim
          · exact (not_le.mpr ((natAbs_lt_two_pow_iff _ _).mp hlimit) habs).elim

end Value

end Pseudocode
