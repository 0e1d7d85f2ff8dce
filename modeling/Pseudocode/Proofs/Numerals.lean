import Pseudocode.Proofs.Characters

/-!
The numerals of programs. The lexer takes all digits and points that stand together for one numeral,
and reads it as a decimal. It has a value exactly if there is at least one digit in it and at most
one point.
-/

namespace Pseudocode

namespace Text

variable {α : Type} {p : α → Bool} {front rest : List α}

/-- Whether a list is at its end, or goes on with an element that is not of a class. -/
def Stops (p : α → Bool) (rest : List α) : Prop :=
  ∀ a ∈ rest.head?, p a = false

theorem stops_nil : Stops p [] :=
  fun _ h => nomatch h

theorem stops_cons {a : α} (h : p a = false) (rest : List α) : Stops p (a :: rest) := by
  rintro _ ⟨⟩
  exact h

theorem Stops.append {a : α} (stops : Stops p (a :: rest)) (more : List α) :
    Stops p (a :: rest ++ more) :=
  fun b h => stops b h

theorem Stops.takeWhile (stops : Stops p rest) (h : ∀ a ∈ front, p a = true) :
    (front ++ rest).takeWhile p = front := by
  rw [List.takeWhile_append_of_pos h]
  cases rest with
  | nil => exact List.append_nil front
  | cons a rest => rw [List.takeWhile_cons_of_neg (by simp [stops a rfl]), List.append_nil]

theorem Stops.dropWhile (stops : Stops p rest) (h : ∀ a ∈ front, p a = true) :
    (front ++ rest).dropWhile p = rest := by
  rw [List.dropWhile_append_of_pos h]
  cases rest with
  | nil => rfl
  | cons a rest => exact List.dropWhile_cons_of_neg (by simp [stops a rfl])

theorem stops_dropWhile (p : α → Bool) (as : List α) : Stops p (as.dropWhile p) := by
  intro a h
  have hhead := List.head?_dropWhile_not p as
  rw [Option.mem_def.mp h] at hhead
  exact hhead

/-- A list begins with elements of a class, and then stops. -/
theorem exists_span (p : α → Bool) (as : List α) :
    ∃ front rest, as = front ++ rest ∧ (∀ a ∈ front, p a = true) ∧ Stops p rest :=
  ⟨as.takeWhile p, as.dropWhile p, List.takeWhile_append_dropWhile.symm,
    List.all_eq_true.mp List.all_takeWhile, stops_dropWhile p as⟩

end Text

open Text

/-- Whether a text consists of digits with at most one point and at least one digit. -/
structure IsNumeral (cs : List Char) : Prop where
  chars : ∀ c ∈ cs, Token.isNumeralChar c = true
  points : cs.count '.' ≤ 1
  digit : ∃ c ∈ cs, c.isDigit = true

namespace Decimal

variable {cs whole fraction rest : List Char}

theorem eq_point {c : Char} (h : Token.isNumeralChar c = true) (hdigit : c.isDigit = false) :
    c = '.' := by
  simpa [Token.isNumeralChar, hdigit] using h

theorem isNumeralChar_of_isDigit {c : Char} (h : c.isDigit = true) :
    Token.isNumeralChar c = true :=
  Bool.or_eq_true_iff.mpr (.inl h)

/-- Digits and points are digits up to the first point, if there is one. -/
theorem exists_point (h : ∀ c ∈ cs, Token.isNumeralChar c = true) :
    (∀ c ∈ cs, c.isDigit = true) ∨
      ∃ front rest, cs = front ++ '.' :: rest ∧ ∀ c ∈ front, c.isDigit = true := by
  obtain ⟨front, rest, rfl, hfront, stops⟩ := exists_span Char.isDigit cs
  cases rest with
  | nil => exact .inl (by simpa using hfront)
  | cons c rest =>
      obtain rfl := eq_point (h c (by simp)) (stops c rfl)
      exact .inr ⟨front, rest, rfl, hfront⟩

theorem exists_digit (h : ∀ c ∈ whole, c.isDigit = true) :
    (∃ c ∈ whole, c.isDigit = true) ↔ whole ≠ [] := by
  constructor
  · rintro ⟨c, hmem, -⟩
    exact List.ne_nil_of_mem hmem
  · intro hne
    exact ⟨whole.head hne, List.head_mem hne, h _ (List.head_mem hne)⟩

theorem count_point (h : ∀ c ∈ whole, c.isDigit = true) : whole.count '.' = 0 := by
  refine List.count_eq_zero.mpr fun hmem => ?_
  exact absurd (h '.' hmem) (by decide)

theorem isNumeral_digits (h : ∀ c ∈ whole, c.isDigit = true) :
    IsNumeral whole ↔ whole ≠ [] := by
  rw [← exists_digit h]
  refine ⟨IsNumeral.digit, fun hdigit => ⟨fun c hc => ?_, ?_, hdigit⟩⟩
  · exact isNumeralChar_of_isDigit (h c hc)
  · rw [count_point h]
    exact Nat.zero_le 1

theorem isNumeral_point (hwhole : ∀ c ∈ whole, c.isDigit = true)
    (hfraction : ∀ c ∈ fraction, c.isDigit = true) :
    IsNumeral (whole ++ '.' :: fraction) ↔ whole ≠ [] ∨ fraction ≠ [] := by
  have hdigit : (∃ c ∈ whole ++ '.' :: fraction, c.isDigit = true) ↔
      whole ≠ [] ∨ fraction ≠ [] := by
    rw [← exists_digit hwhole, ← exists_digit hfraction]
    simp [or_and_right, exists_or]
  rw [← hdigit]
  refine ⟨IsNumeral.digit, fun hany => ⟨?_, ?_, hany⟩⟩
  · refine List.forall_mem_append.mpr ⟨fun c hc => isNumeralChar_of_isDigit (hwhole c hc), ?_⟩
    exact List.forall_mem_cons.mpr ⟨rfl, fun c hc => isNumeralChar_of_isDigit (hfraction c hc)⟩
  · have hcount : (whole ++ '.' :: fraction).count '.' = 1 := by
      rw [List.count_append, count_point hwhole, List.count_cons_self, count_point hfraction]
    exact Nat.le_of_eq hcount

theorem not_isNumeral_points (whole fraction rest : List Char) :
    ¬IsNumeral (whole ++ '.' :: (fraction ++ '.' :: rest)) := by
  intro h
  have hfew := h.points
  rw [List.count_append, List.count_cons_self, List.count_append, List.count_cons_self] at hfew
  omega

theorem readDigits_digits (negative : Bool) (h : ∀ c ∈ whole, c.isDigit = true) :
    readDigits negative whole =
      if whole.isEmpty then none else some (toBinary64 negative (value whole) 0) := by
  have htake : whole.takeWhile Char.isDigit = whole := by
    simpa using stops_nil.takeWhile h
  have hdrop : whole.dropWhile Char.isDigit = [] := by
    simpa using stops_nil.dropWhile h
  rw [readDigits, htake, hdrop]
  cases whole <;> simp [readExponent]

theorem isSome_readDigits_digits (negative : Bool) (h : ∀ c ∈ whole, c.isDigit = true) :
    (readDigits negative whole).isSome = true ↔ whole ≠ [] := by
  rw [readDigits_digits negative h]
  cases whole <;> simp

theorem readDigits_point (negative : Bool) (hwhole : ∀ c ∈ whole, c.isDigit = true)
    (hfraction : ∀ c ∈ fraction, c.isDigit = true) (stops : Stops Char.isDigit rest) :
    readDigits negative (whole ++ '.' :: (fraction ++ rest)) =
      if whole.isEmpty && fraction.isEmpty then none
      else (readExponent rest).map fun exponent =>
        toBinary64 negative (value (whole ++ fraction)) (exponent - fraction.length) := by
  have hpoint : Stops Char.isDigit ('.' :: (fraction ++ rest)) := stops_cons (by decide) _
  rw [readDigits, hpoint.takeWhile hwhole, hpoint.dropWhile hwhole]
  simp only [stops.takeWhile hfraction, stops.dropWhile hfraction]

/-- Digits and points are a decimal exactly if they are a numeral. -/
theorem isSome_readDigits (negative : Bool) (h : ∀ c ∈ cs, Token.isNumeralChar c = true) :
    (readDigits negative cs).isSome = true ↔ IsNumeral cs := by
  rcases exists_point h with hdigits | ⟨whole, more, rfl, hwhole⟩
  · rw [isSome_readDigits_digits negative hdigits, isNumeral_digits hdigits]
  have hmore : ∀ c ∈ more, Token.isNumeralChar c = true := fun c hc => h c (by simp [hc])
  rcases exists_point hmore with hfraction | ⟨fraction, rest, rfl, hfraction⟩
  · have hread := readDigits_point negative hwhole hfraction stops_nil
    rw [List.append_nil] at hread
    rw [hread, isNumeral_point hwhole hfraction]
    cases whole <;> cases more <;> simp [readExponent]
  · -- What stands after the second point is no exponent.
    have hexponent : readExponent ('.' :: rest) = none := rfl
    have hnot := not_isNumeral_points whole fraction rest
    rw [readDigits_point negative hwhole hfraction (stops_cons (by decide) rest), hexponent]
    simpa using hnot

theorem splitSign_of_numeralChars (h : ∀ c ∈ cs, Token.isNumeralChar c = true) :
    splitSign cs = (false, cs) := by
  unfold splitSign
  split
  · exact absurd (h '-' List.mem_cons_self) (by decide)
  · exact absurd (h '+' List.mem_cons_self) (by decide)
  · rfl

theorem toLower_of_isNumeralChar {c : Char} (h : Token.isNumeralChar c = true) :
    c.toLower = c := by
  have hcode : c.toNat < 65 := by
    rcases Bool.or_eq_true_iff.mp h with hdigit | hpoint
    · have := toNat_of_isDigit hdigit
      omega
    · obtain rfl := beq_iff_eq.mp hpoint
      decide
  unfold Char.toLower
  split
  · rename_i hupper
    have hletter : 65 ≤ c.toNat := UInt32.le_iff_toNat_le.mp hupper.1
    omega
  · rfl

/-- No word is spelled with digits and points. -/
theorem readWord_of_numeralChars (negative : Bool) (h : ∀ c ∈ cs, Token.isNumeralChar c = true) :
    readWord negative cs = none := by
  have hword {word : String} {c : Char} (hc : c ∈ word.toList)
      (hletter : Token.isNumeralChar c = false) : String.ofList (cs.map Char.toLower) ≠ word := by
    rintro rfl
    rw [String.toList_ofList] at hc
    obtain ⟨d, hd, rfl⟩ := List.mem_map.mp hc
    rw [toLower_of_isNumeralChar (h d hd), h d hd] at hletter
    cases hletter
  unfold readWord
  split
  · exact absurd ‹_› (hword (c := 'i') (by decide) (by decide))
  · exact absurd ‹_› (hword (c := 'i') (by decide) (by decide))
  · exact absurd ‹_› (hword (c := 'n') (by decide) (by decide))
  · rfl

/-- Digits and points have a value exactly if they are a numeral. -/
theorem isSome_read (h : ∀ c ∈ cs, Token.isNumeralChar c = true) :
    (read cs).isSome = true ↔ IsNumeral cs := by
  rw [← isSome_readDigits false h, read, splitSign_of_numeralChars h]
  simp only [readWord_of_numeralChars false h]
  cases readDigits false cs <;> rfl

end Decimal

end Pseudocode
