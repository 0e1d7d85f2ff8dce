import Pseudocode.Channel

/-!
What the operations on a channel do to the two things that are read from it: the control word, and
each byte of the text. The word and the text do not touch, and a text that was written is read back
in a way that depends on the capacity alone.
-/

namespace Pseudocode

open Text (Bytes)

/-- Only the bytes before the first zero count, whether or not zeros are stored after them. -/
theorem takeWhile_eq_of_getD_eq {l m : Bytes} (h : ∀ i : Nat, l[i]?.getD 0 = m[i]?.getD 0) :
    l.takeWhile (· != 0) = m.takeWhile (· != 0) := by
  induction l generalizing m with
  | nil =>
      cases m with
      | nil => rfl
      | cons b m =>
          have hb : b = 0 := by simpa using (h 0).symm
          simp [hb]
  | cons a l ih =>
      cases m with
      | nil =>
          have ha : a = 0 := by simpa using h 0
          simp [ha]
      | cons b m =>
          have hab : a = b := by simpa using h 0
          subst b
          rw [List.takeWhile_cons, List.takeWhile_cons, ih fun i => by simpa using h (i + 1)]

namespace Channel

/-! ### The control word -/

theorem word_congr {c d : Channel}
    (h : ∀ i < wordSize, c.memory.byte (c.base + i) = d.memory.byte (d.base + i)) :
    c.word = d.word := by
  have h0 := h 0 (by decide)
  have h1 := h 1 (by decide)
  have h2 := h 2 (by decide)
  have h3 := h 3 (by decide)
  simp only [Nat.add_zero] at h0
  simp only [word, h0, h1, h2, h3]

/-- The word is in four bytes. -/
theorem byte_setState (c : Channel) (a : ChannelState) {address : Nat}
    (h : ¬(c.base ≤ address ∧ address < c.base + 4)) :
    (c.setState a).memory.byte address = c.memory.byte address := by
  rw [setState, Memory.byte_write]
  exact if_neg h

@[simp] theorem word_clear (c : Channel) : c.clear.word = c.word := by
  refine word_congr fun i hi => ?_
  have hbefore : ¬ (c.textBase ≤ c.base + i ∧ c.base + i < c.textBase + c.capacity) := by
    simp only [textBase]
    omega
  simp [clear, Memory.byte_clear, hbefore]

@[simp] theorem word_writeText (c : Channel) (text : String) :
    (c.writeText text).word = c.word := by
  rw [← word_clear c]
  refine word_congr fun i hi => ?_
  have hbefore : ¬ (c.textBase ≤ c.base + i ∧
      c.base + i < c.textBase + (c.fitting text).length) := by
    simp only [textBase]
    omega
  simp [writeText, Memory.byte_write, hbefore, clear]

@[simp] theorem state_clear (c : Channel) : c.clear.state = c.state := by
  simp [state]

@[simp] theorem state_writeText (c : Channel) (text : String) :
    (c.writeText text).state = c.state := by
  simp [state]

/-- Whether the control word is the word of a state, as it is as long as only the operations here
change it. -/
def IsSound (c : Channel) : Prop := c.word = c.state.toWord

theorem isSound_setState (c : Channel) (a : ChannelState) : (c.setState a).IsSound := by
  simp [IsSound]

theorem IsSound.clear {c : Channel} (h : c.IsSound) : c.clear.IsSound := by
  simpa [IsSound] using h

theorem IsSound.writeText {c : Channel} (h : c.IsSound) (text : String) :
    (c.writeText text).IsSound := by
  simpa [IsSound] using h

theorem IsSound.word_eq_iff {c : Channel} (h : c.IsSound) (a : ChannelState) :
    c.word = a.toWord ↔ c.state = a := by
  rw [h]
  exact ⟨ChannelState.toWord_injective, congrArg _⟩

/-- A move of the cycle succeeds exactly in the state that it starts from. -/
theorem IsSound.transition_of_state {c : Channel} (h : c.IsSound) {a b : ChannelState}
    (hmove : a.canMove b = true) (ha : c.state = a) : c.transition a b = .ok (c.setState b) := by
  have hword := (h.word_eq_iff a).mpr ha
  simp [transition, hmove, hword]

theorem IsSound.transition_of_state_ne {c : Channel} (h : c.IsSound) {a b : ChannelState}
    (ha : c.state ≠ a) : c.transition a b = .error c.state := by
  have hword : c.word ≠ a.toWord := fun hw => ha ((h.word_eq_iff a).mp hw)
  simp [transition, hword]

/-! ### The text -/

@[simp] theorem capacity_setState (c : Channel) (a : ChannelState) :
    (c.setState a).capacity = c.capacity := rfl

@[simp] theorem capacity_clear (c : Channel) : c.clear.capacity = c.capacity := rfl

@[simp] theorem capacity_writeText (c : Channel) (text : String) :
    (c.writeText text).capacity = c.capacity := rfl

@[simp] theorem textByte_setState (c : Channel) (a : ChannelState) (i : Nat) :
    (c.setState a).textByte i = c.textByte i := by
  refine c.byte_setState a fun hword => ?_
  rw [textBase, base_setState, wordSize] at hword
  omega

theorem textByte_clear (c : Channel) {i : Nat} (hi : i < c.capacity) : c.clear.textByte i = 0 := by
  simp [textByte, textBase, clear, Memory.byte_clear, hi]

theorem textByte_writeText (c : Channel) (text : String) {i : Nat} (hi : i < c.capacity) :
    (c.writeText text).textByte i = (c.fitting text)[i]?.getD 0 := by
  have hclear := c.textByte_clear hi
  simp only [textByte, textBase, clear] at hclear
  simp only [textByte, textBase, writeText, clear, Memory.byte_write]
  split
  · rw [Nat.add_sub_cancel_left]
  · rename_i h
    rw [hclear, List.getElem?_eq_none (by omega)]
    rfl

theorem getD_storedText (c : Channel) (i : Nat) :
    c.storedText[i]?.getD 0 = if i < c.capacity then c.textByte i else 0 := by
  simp only [storedText, Memory.storedFrom, textByte, Memory.byte, List.getElem?_take]
  split
  · rw [List.getElem?_drop]
  · rfl

/-- What is read depends on the bytes of the text alone. -/
theorem readText_congr {c d : Channel} (hcap : c.capacity = d.capacity)
    (h : ∀ i < c.capacity, c.textByte i = d.textByte i) : c.readText = d.readText := by
  have hstored : c.storedText.takeWhile (· != 0) = d.storedText.takeWhile (· != 0) := by
    refine takeWhile_eq_of_getD_eq fun i => ?_
    rw [getD_storedText, getD_storedText, ← hcap]
    split
    · exact h i ‹_›
    · rfl
  simp only [readText, hstored]

@[simp] theorem readText_setState (c : Channel) (a : ChannelState) :
    (c.setState a).readText = c.readText :=
  readText_congr rfl fun i _ => c.textByte_setState a i

/-- What is read after a text was written to a channel of a given capacity. -/
def readBack (capacity : Nat) (text : String) : String :=
  ((⟨.zeros, 0, capacity, true⟩ : Channel).writeText text).readText

/-- Nothing that was in a channel before shows in what is read back from it. -/
theorem readText_writeText (c : Channel) (text : String) :
    (c.writeText text).readText = readBack c.capacity text :=
  readText_congr rfl fun i hi => by
    have hi : i < c.capacity := hi
    rw [c.textByte_writeText text hi, textByte_writeText _ text (by exact hi)]
    rfl

theorem create_ok {capacity : Nat} {c : Channel} (h : create capacity = .ok c) :
    c = ⟨.zeros, 0, capacity, true⟩ ∧ 0 < capacity := by
  unfold create at h
  split at h
  · cases h
  · split at h
    · cases h
    · split at h
      · cases h
      · cases h
        exact ⟨rfl, by omega⟩

end Channel

end Pseudocode
