import Pseudocode.Token.Lexer

/-!
The classes of characters that the lexer tells tokens by exclude each other: what starts a word is
neither a blank nor part of a numeral, and no numeral holds a blank.
-/

namespace Pseudocode

namespace Text

/-- Whether two tables have no code point in common. -/
def Ranges.apart (ranges ranges' : Ranges) : Bool :=
  ranges.all fun (first, last) => ranges'.all fun (first', last') => last < first' || last' < first

theorem Ranges.has_eq_false {ranges ranges' : Ranges} (apart : ranges.apart ranges' = true)
    {c : Char} (h : ranges.has c = true) : ranges'.has c = false := by
  obtain ⟨⟨first, last⟩, hrange, hmem⟩ := List.any_eq_true.mp h
  have hall := List.all_eq_true.mp (List.all_eq_true.mp apart _ hrange)
  refine List.any_eq_false.mpr fun ⟨first', last'⟩ hrange' => ?_
  have hdisjoint := hall _ hrange'
  simp only [Bool.and_eq_true, Bool.or_eq_true, decide_eq_true_eq] at hmem hdisjoint ⊢
  omega

theorem alphabetic_apart_blank : alphabeticRanges.apart blankRanges = true := by
  decide +kernel

theorem numeric_apart_blank : numericRanges.apart blankRanges = true := by
  decide +kernel

variable {c : Char}

theorem toNat_of_isDigit (h : c.isDigit = true) : 48 ≤ c.toNat ∧ c.toNat ≤ 57 :=
  Char.isDigit_iff_toNat.mp h

theorem toNat_of_isAlpha (h : c.isAlpha = true) :
    65 ≤ c.toNat ∧ c.toNat ≤ 90 ∨ 97 ≤ c.toNat ∧ c.toNat ≤ 122 := by
  rcases Bool.or_eq_true_iff.mp h with hupper | hlower
  · exact .inl (of_decide_eq_true hupper)
  · obtain ⟨hfirst, hlast⟩ := Bool.and_eq_true_iff.mp hlower
    exact .inr ⟨of_decide_eq_true hfirst, of_decide_eq_true hlast⟩

theorem isBlank_of_graphic (h : 32 < c.toNat) (ascii : c.toNat < 128) : isBlank c = false := by
  simp only [isBlank, Ranges.has, blankRanges, List.any_cons, List.any_nil, Bool.or_eq_false_iff,
    Bool.and_eq_false_iff, decide_eq_false_iff_not, and_true]
  omega

theorem isBlank_of_isDigit (h : c.isDigit = true) : isBlank c = false := by
  have hcode := toNat_of_isDigit h
  exact isBlank_of_graphic (by omega) (by omega)

theorem isBlank_of_isAlphabetic (h : isAlphabetic c = true) : isBlank c = false := by
  unfold isAlphabetic at h
  split at h
  · have hcode := toNat_of_isAlpha h
    exact isBlank_of_graphic (by omega) (by omega)
  · exact Ranges.has_eq_false alphabetic_apart_blank h

theorem isBlank_of_isNumeric (h : isNumeric c = true) : isBlank c = false := by
  unfold isNumeric at h
  split at h
  · exact isBlank_of_isDigit h
  · exact Ranges.has_eq_false numeric_apart_blank h

theorem isDigit_of_isAlphabetic (h : isAlphabetic c = true) : c.isDigit = false := by
  refine Bool.eq_false_iff.mpr fun hdigit => ?_
  have hcode := toNat_of_isDigit hdigit
  rw [isAlphabetic, if_pos (by omega)] at h
  have halpha := toNat_of_isAlpha h
  omega

end Text

namespace Token

variable {c : Char}

theorem isBlank_of_startsWord (h : startsWord c = true) : Text.isBlank c = false := by
  rcases Bool.or_eq_true_iff.mp h with halphabetic | hunderscore
  · exact Text.isBlank_of_isAlphabetic halphabetic
  · obtain rfl := beq_iff_eq.mp hunderscore
    decide

theorem continuesWord_of_startsWord (h : startsWord c = true) : continuesWord c = true := by
  rcases Bool.or_eq_true_iff.mp h with halphabetic | hunderscore
  · exact Bool.or_eq_true_iff.mpr (.inl (Bool.or_eq_true_iff.mpr (.inl halphabetic)))
  · exact Bool.or_eq_true_iff.mpr (.inr hunderscore)

theorem isBlank_of_continuesWord (h : continuesWord c = true) : Text.isBlank c = false := by
  rcases Bool.or_eq_true_iff.mp h with halphanumeric | hunderscore
  · rcases Bool.or_eq_true_iff.mp halphanumeric with halphabetic | hnumeric
    · exact Text.isBlank_of_isAlphabetic halphabetic
    · exact Text.isBlank_of_isNumeric hnumeric
  · obtain rfl := beq_iff_eq.mp hunderscore
    decide

theorem isNumeralChar_of_startsWord (h : startsWord c = true) : isNumeralChar c = false := by
  rcases Bool.or_eq_true_iff.mp h with halphabetic | hunderscore
  · refine Bool.or_eq_false_iff.mpr ⟨Text.isDigit_of_isAlphabetic halphabetic, ?_⟩
    refine beq_eq_false_iff_ne.mpr ?_
    rintro rfl
    exact absurd halphabetic (by decide)
  · obtain rfl := beq_iff_eq.mp hunderscore
    decide

theorem isBlank_of_isNumeralChar (h : isNumeralChar c = true) : Text.isBlank c = false := by
  rcases Bool.or_eq_true_iff.mp h with hdigit | hpoint
  · exact Text.isBlank_of_isDigit hdigit
  · obtain rfl := beq_iff_eq.mp hpoint
    decide

end Token

end Pseudocode
