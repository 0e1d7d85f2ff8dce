import Pseudocode.Proofs.Channel
import Pseudocode.Proofs.Utf8

/-!
What a channel hands over. Of a text the bytes are written that leave room for a zero byte, and
nothing that was there before remains. What is read is made of the characters before the first null
character that were written as a whole, and of one U+FFFD for a character that was cut. So a text
arrives as it is if it is short enough, and also if the character that was cut is U+FFFD itself.
-/

namespace Pseudocode

open Text (Bytes)

namespace Text

variable {n : Nat} {cs : List Char}

/-- The characters before the one that is cut are those within the bytes before the cut. -/
theorem charactersWithin_of_cut {front back : List Char} {c : Char}
    (hbefore : (encodeUtf8 front).length ≤ n)
    (hafter : n < (encodeUtf8 front).length + c.utf8Size) :
    charactersWithin n (front ++ c :: back) = front := by
  induction front generalizing n with
  | nil =>
      rw [encodeUtf8_nil, List.length_nil, Nat.zero_add] at hafter
      exact if_neg (Nat.not_le_of_lt hafter)
  | cons first front ih =>
      rw [length_encodeUtf8_cons] at hbefore hafter
      rw [List.cons_append, charactersWithin, if_pos (by omega), ih (by omega) (by omega)]

theorem not_cutsCharacter_of_length_le (h : (encodeUtf8 cs).length ≤ n) :
    ¬CutsCharacter n cs := by
  rintro ⟨front, c, back, rfl, hbefore, hafter⟩
  have hall := charactersWithin_eq_self_iff.mpr h
  rw [charactersWithin_of_cut (Nat.le_of_lt hbefore) hafter] at hall
  exact List.cons_ne_nil c back (List.self_eq_append_right.mp hall)

/-- What is read of a text when its first `n` bytes were written. -/
def handedOver (n : Nat) (cs : List Char) : List Char :=
  (charactersWithin n cs).takeWhile (· != '\x00') ++
    if CutsCharacter n cs ∧ '\x00' ∉ charactersWithin n cs then ['\uFFFD'] else []

theorem null_not_mem_handedOver (n : Nat) (cs : List Char) : '\x00' ∉ handedOver n cs := by
  rw [handedOver, List.mem_append, not_or]
  constructor
  · intro h
    exact absurd (List.mem_takeWhile_imp h) (by decide)
  · split <;> decide

theorem handedOver_of_not_mem (h : '\x00' ∉ cs) :
    handedOver n cs = charactersWithin n cs ++ if CutsCharacter n cs then ['\uFFFD'] else [] := by
  have hwithin : charactersWithin n cs <+: cs :=
    (prefix_charactersWithin_iff.mp (List.prefix_refl _)).1
  have hnull : '\x00' ∉ charactersWithin n cs := fun hmem => h (hwithin.subset hmem)
  have hall : (charactersWithin n cs).takeWhile (· != '\x00') = charactersWithin n cs := by
    refine List.takeWhile_eq_self_iff.mpr fun c hc => bne_iff_ne.mpr ?_
    rintro rfl
    exact hnull hc
  simp only [handedOver, hall, hnull, not_false_eq_true, and_true]

theorem length_encodeUtf8_concat (cs : List Char) (c : Char) :
    (encodeUtf8 (cs ++ [c])).length = (encodeUtf8 cs).length + c.utf8Size := by
  rw [encodeUtf8, List.flatMap_append, List.length_append, List.flatMap_singleton,
    String.length_utf8EncodeChar]
  rfl

/-- A text arrives as it is if it has no null character and is short enough, or if the character
that is cut is one that stands for a malformed piece. -/
theorem handedOver_eq_self_iff : handedOver n cs = cs ↔ '\x00' ∉ cs ∧
    ((encodeUtf8 cs).length ≤ n ∨
      cs.getLast? = some '\uFFFD' ∧ (encodeUtf8 cs).length ≤ n + 2) := by
  have hsize : '\uFFFD'.utf8Size = 3 := rfl
  constructor
  · intro h
    have hnull : '\x00' ∉ cs := h ▸ null_not_mem_handedOver n cs
    refine ⟨hnull, ?_⟩
    rw [handedOver_of_not_mem hnull] at h
    split at h
    · rename_i hcut
      obtain ⟨front, c, back, rfl, hbefore, hafter⟩ := hcut
      rw [charactersWithin_of_cut (Nat.le_of_lt hbefore) hafter] at h
      obtain ⟨rfl, rfl⟩ := List.cons.inj (List.append_cancel_left h)
      refine .inr ⟨List.getLast?_concat, ?_⟩
      rw [length_encodeUtf8_concat]
      omega
    · rw [List.append_nil] at h
      exact .inl (charactersWithin_eq_self_iff.mp h)
  · rintro ⟨hnull, hshort⟩
    rw [handedOver_of_not_mem hnull]
    by_cases hfits : (encodeUtf8 cs).length ≤ n
    · rw [charactersWithin_eq_self_iff.mpr hfits, if_neg (not_cutsCharacter_of_length_le hfits),
        List.append_nil]
    · obtain ⟨hlast, hslack⟩ := hshort.resolve_left hfits
      obtain ⟨front, rfl⟩ := List.getLast?_eq_some_iff.mp hlast
      rw [length_encodeUtf8_concat] at hfits hslack
      have hafter : n < (encodeUtf8 front).length + '\uFFFD'.utf8Size := Nat.lt_of_not_le hfits
      have hcut : CutsCharacter n (front ++ ['\uFFFD']) :=
        ⟨front, '\uFFFD', [], rfl, by omega, hafter⟩
      rw [if_pos hcut, charactersWithin_of_cut (by omega) hafter]

end Text

namespace Channel

/-- All bytes of the text. -/
def buffer (c : Channel) : Bytes := (List.range c.capacity).map c.textByte

variable (c : Channel) (text : String)

theorem length_encodeUtf8_toList (text : String) :
    (Text.encodeUtf8 text.toList).length = text.utf8ByteSize := by
  have hbytes : text.toByteArray = text.toList.utf8Encode := by simp
  rw [← String.size_toByteArray, hbytes, List.utf8Encode, List.size_toByteArray]
  rfl

theorem written_eq : c.written text = min text.utf8ByteSize (c.capacity - 1) := by
  rw [written, fitting, List.length_take, length_encodeUtf8_toList, Nat.min_comm]

theorem fitting_eq : c.fitting text = (Text.encodeUtf8 text.toList).take (c.written text) := by
  rw [written, fitting, List.length_take, ← List.take_eq_take_min]

theorem written_le : c.written text ≤ c.capacity := by
  rw [written_eq]
  omega

theorem buffer_writeText : (c.writeText text).buffer =
    (Text.encodeUtf8 text.toList).take (c.written text) ++
      List.replicate (c.capacity - c.written text) 0 := by
  have hle := c.written_le text
  rw [← fitting_eq]
  refine List.ext_getElem ?_ fun i hi hi' => ?_
  · simp only [buffer, List.length_map, List.length_range, capacity_writeText, List.length_append,
      List.length_replicate]
    rw [← written]
    omega
  · simp only [buffer, List.length_map, List.length_range, capacity_writeText] at hi
    simp only [buffer, List.getElem_map, List.getElem_range, textByte_writeText c text hi,
      List.getElem_append]
    split
    · rw [List.getElem?_eq_getElem ‹_›]
      rfl
    · rw [List.getElem?_eq_none (by omega), List.getElem_replicate]
      rfl

/-- The zero bytes after the text are not read. -/
theorem readText_writeText_eq : (c.writeText text).readText =
    String.ofList (Text.handedOver (c.written text) text.toList) := by
  have hstored : (c.writeText text).storedText.takeWhile (· != 0) =
      (c.fitting text).takeWhile (· != 0) := by
    refine takeWhile_eq_of_getD_eq fun i => ?_
    rw [getD_storedText, capacity_writeText]
    split
    · exact c.textByte_writeText text ‹_›
    · have hle := c.written_le text
      rw [written] at hle
      rw [List.getElem?_eq_none (by omega)]
      rfl
  rw [readText, hstored, fitting_eq, Text.decodeLenient_take, Text.handedOver]

theorem readText_writeText_eq_self_iff (positive : 1 ≤ c.capacity) :
    (c.writeText text).readText = text ↔ '\x00' ∉ text.toList ∧
      (text.utf8ByteSize < c.capacity ∨
        text.toList.getLast? = some '\uFFFD' ∧ text.utf8ByteSize ≤ c.capacity + 1) := by
  have hread : (c.writeText text).readText = text ↔
      Text.handedOver (c.written text) text.toList = text.toList := by
    rw [readText_writeText_eq, ← String.toList_inj, String.toList_ofList]
  rw [hread, Text.handedOver_eq_self_iff, length_encodeUtf8_toList, written_eq]
  refine and_congr_right fun _ => or_congr ?_ (and_congr_right fun _ => ?_)
  all_goals omega

/-- What a channel hands over, whatever was in it: the first bytes of the text are written, as many
as leave room for a zero byte, and zeros after them. What is read is made of the characters before
the first null character that lie entirely within these bytes, and of one U+FFFD if a character was
cut and no null character comes before it. The text arrives as it is exactly if it has no null
character and is shorter than the capacity, or ends in a U+FFFD that was cut. -/
theorem hands_over (positive : 1 ≤ c.capacity) :
    c.written text = min text.utf8ByteSize (c.capacity - 1) ∧
      (c.writeText text).buffer = (Text.encodeUtf8 text.toList).take (c.written text) ++
        List.replicate (c.capacity - c.written text) 0 ∧
      (c.writeText text).readText = String.ofList
        ((Text.charactersWithin (c.written text) text.toList).takeWhile (· != '\x00') ++
          if Text.CutsCharacter (c.written text) text.toList ∧
            '\x00' ∉ Text.charactersWithin (c.written text) text.toList
          then ['\uFFFD'] else []) ∧
      ((c.writeText text).readText = text ↔ '\x00' ∉ text.toList ∧
        (text.utf8ByteSize < c.capacity ∨
          text.toList.getLast? = some '\uFFFD' ∧ text.utf8ByteSize ≤ c.capacity + 1)) :=
  ⟨c.written_eq text, c.buffer_writeText text, c.readText_writeText_eq text,
    c.readText_writeText_eq_self_iff text positive⟩

/-- A channel of five bytes that has been used before. -/
def usedChannel : Channel := ⟨⟨[1, 0, 0, 0, 120, 121, 122, 120, 121]⟩, 0, 5, true⟩

/-- The last character of the text is cut after its first byte. -/
theorem hands_over_used : 1 ≤ usedChannel.capacity ∧
    usedChannel.written "añ€" = 4 ∧
    (usedChannel.writeText "añ€").buffer = [97, 195, 177, 226, 0] ∧
    (usedChannel.writeText "añ€").readText = "añ\uFFFD" ∧
    (usedChannel.writeText "añ€").readText ≠ "añ€" := by
  obtain ⟨hwritten, hbuffer, hread, hself⟩ := hands_over usedChannel "añ€" (by decide)
  have hfour : usedChannel.written "añ€" = 4 := hwritten.trans (by decide)
  rw [hfour] at hbuffer hread
  refine ⟨by decide, hfour, hbuffer.trans (by decide), hread.trans (by decide), fun h => ?_⟩
  exact absurd (hself.mp h).2 (by decide)

/-- A U+FFFD that is cut arrives as it is, although it is too long. -/
theorem cut_replacement_arrives :
    create 3 = .ok ⟨.zeros, 0, 3, true⟩ ∧
      ¬(((⟨.zeros, 0, 3, true⟩ : Channel).writeText "\uFFFD").readText = "\uFFFD" ↔
        '\x00' ∉ "\uFFFD".toList ∧ "\uFFFD".utf8ByteSize < 3) := by
  refine ⟨rfl, fun h => ?_⟩
  have hread := (readText_writeText_eq_self_iff ⟨.zeros, 0, 3, true⟩ "\uFFFD" (by decide)).mpr
    ⟨by decide, .inr ⟨by decide, by decide⟩⟩
  exact absurd (h.mp hread).2 (by decide)

end Channel

end Pseudocode
