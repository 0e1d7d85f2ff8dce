import Mathlib.Logic.Relation
import Pseudocode.Exchange
import Pseudocode.Proofs.Channel

/-!
A channel keeps to its region. Each operation changes bytes of the control word alone or bytes of
the text alone, and the word goes around its cycle or is reset. The two ends of a channel use it by
nothing but these operations, one at a step, so the same holds however their steps are mixed.
-/

namespace Pseudocode

namespace Channel

/-- What can be done with a channel. -/
inductive Operation where
  | transition (a b : ChannelState)
  | reset
  | writeText (text : String)
  | readText
  | clear
  | state
  /-- Wake who waits on the word. -/
  | wake
  deriving DecidableEq, Repr

/-- The channel after an operation. -/
def after (c : Channel) : Operation → Channel
  | .transition a b =>
    match c.transition a b with
    | .ok c => c
    | .error _ => c
  | .reset => c.reset
  | .writeText text => c.writeText text
  | .clear => c.clear
  | .readText | .state | .wake => c

/-- Whether an operation may change the byte at an address, for a region of `size` bytes from `base`
on: a byte of the word or a byte of the text. -/
def Operation.touches (base size address : Nat) : Operation → Prop
  | transition .. | reset => base ≤ address ∧ address < base + 4
  | writeText _ | clear => base + 4 ≤ address ∧ address < base + size
  | readText | state | wake => False

end Channel

/-! ### The two ends -/

open Channel (Operation)

/-- The operation on the channel that a step of a request is. -/
def Asking.operation? : Asking → Option Operation
  | claiming | reclaiming => some (.transition .idle .waiting)
  | recovering | withdrawing => some .reset
  | wakingAfterRecovery | wakingAfterWithdrawal => some .wake
  | watching | dozing | inspecting => some .state
  | reading => some .readText
  | erasing _ => some .clear
  | consuming _ => some (.transition .ready .idle)
  | guarding | sending | asleep | returned _ => none

/-- The operation on the channel that a step of an answer is. -/
def Answering.operation? (text : String) : Answering → Option Operation
  | looking => some .state
  | writing => some (.writeText text)
  | announcing => some (.transition .waiting .ready)
  | waking => some .wake
  | returned _ => none

namespace Channel

/-- One use of a channel, with the operation that it is: it is used directly, or by a step of a
request or of an answer, whatever else there is. -/
inductive Use : Channel → Option Operation → Channel → Prop
  | operation (c : Channel) (op : Operation) : Use c (some op) (c.after op)
  | request (s : Shared) (request : Request) (stage : Asking) :
    Use s.channel stage.operation? (stage.step request s).1.channel
  | answer (s : Shared) (text : String) (stage : Answering) :
    Use s.channel (stage.operation? text) (stage.step text s).1.channel

/-- What becomes of a channel by some uses. -/
def Uses : Channel → Channel → Prop :=
  Relation.ReflTransGen fun c d => ∃ op?, Use c op? d

variable {c d : Channel} {op? : Option Operation}

theorem channel_step_asking (s : Shared) (request : Request) (stage : Asking) :
    (stage.step request s).1.channel =
      (stage.operation?.map s.channel.after).getD s.channel := by
  cases stage with
  | claiming | reclaiming | consuming =>
      simp only [Asking.step, Asking.operation?, Option.map_some, Option.getD_some, after]
      cases s.channel.transition _ _ <;> rfl
  | sending =>
      simp only [Asking.step, Shared.sendEvent?, Shared.send?]
      cases s.listening <;> rfl
  | _ => rfl

theorem channel_step_answering (s : Shared) (text : String) (stage : Answering) :
    (stage.step text s).1.channel =
      ((stage.operation? text).map s.channel.after).getD s.channel := by
  cases stage with
  | announcing =>
      simp only [Answering.step, Answering.operation?, Option.map_some, Option.getD_some, after]
      cases s.channel.transition _ _ <;> rfl
  | _ => rfl

/-- A use is the operation that it is said to be, or leaves the channel alone. -/
theorem Use.eq (h : Use c op? d) : d = (op?.map c.after).getD c := by
  cases h with
  | operation op => rfl
  | request s request stage => exact channel_step_asking s request stage
  | answer s text stage => exact channel_step_answering s text stage

/-! ### Operations -/

theorem transition_eq_ok {a b : ChannelState} (h : c.transition a b = .ok d) :
    b = a.next ∧ c.word = a.toWord ∧ d = c.setState b := by
  unfold transition at h
  split at h
  · rename_i hmoves
    obtain ⟨hmove, hword⟩ := Bool.and_eq_true_iff.mp hmoves
    exact ⟨(beq_iff_eq.mp hmove).symm, beq_iff_eq.mp hword, (Except.ok.inj h).symm⟩
  · cases h

theorem transition_eq_error {a b found : ChannelState} (h : c.transition a b = .error found) :
    found = c.state := by
  unfold transition at h
  split at h
  · cases h
  · exact (Except.error.inj h).symm

/-- The region stays where it is. -/
theorem base_after (c : Channel) (op : Operation) :
    (c.after op).base = c.base ∧ (c.after op).capacity = c.capacity := by
  cases op with
  | transition a b =>
      cases htransition : c.transition a b with
      | error found => simp only [after, htransition, and_self]
      | ok d =>
          obtain ⟨-, -, rfl⟩ := transition_eq_ok htransition
          simp only [after, htransition, base_setState, capacity_setState, and_self]
  | _ => exact ⟨rfl, rfl⟩

theorem byte_clear (c : Channel) {address : Nat}
    (h : ¬(c.base + 4 ≤ address ∧ address < c.base + c.size)) :
    c.clear.memory.byte address = c.memory.byte address := by
  rw [clear, Memory.byte_clear]
  refine if_neg ?_
  rw [textBase, wordSize, Nat.add_assoc]
  exact h

theorem byte_writeText (c : Channel) (text : String) {address : Nat}
    (h : ¬(c.base + 4 ≤ address ∧ address < c.base + c.size)) :
    (c.writeText text).memory.byte address = c.memory.byte address := by
  have hfits : (c.fitting text).length ≤ c.capacity := by
    rw [fitting, List.length_take]
    omega
  have houtside : ¬(c.textBase ≤ address ∧ address < c.textBase + (c.fitting text).length) := by
    rw [size, regionSize, wordSize] at h
    rw [textBase, wordSize]
    omega
  rw [writeText, Memory.byte_write, if_neg houtside, c.byte_clear h]

theorem byte_after (c : Channel) (op : Operation) {address : Nat}
    (h : ¬op.touches c.base c.size address) :
    (c.after op).memory.byte address = c.memory.byte address := by
  cases op with
  | transition a b =>
      cases htransition : c.transition a b with
      | error found => simp only [after, htransition]
      | ok d =>
          obtain ⟨-, -, rfl⟩ := transition_eq_ok htransition
          simp only [after, htransition]
          exact c.byte_setState b h
  | reset => exact c.byte_setState .idle h
  | writeText text => exact c.byte_writeText text h
  | clear => exact c.byte_clear h
  | readText | state | wake => rfl

theorem Operation.touches_inside {op : Operation} {base size address : Nat} (hsize : 4 ≤ size)
    (h : op.touches base size address) : base ≤ address ∧ address < base + size := by
  cases op with
  | transition | reset =>
      obtain ⟨hlow, hhigh⟩ := h
      omega
  | writeText | clear =>
      obtain ⟨hlow, hhigh⟩ := h
      omega
  | readText | state | wake => exact h.elim

/-- How a use may move the word: not at all, along the cycle, or by a reset. -/
inductive Moves : Nat → Option Operation → Nat → Prop
  | stay {word : Nat} {op? : Option Operation} : Moves word op? word
  | cycle (a : ChannelState) : Moves a.toWord (some (.transition a a.next)) a.next.toWord
  | reset {word : Nat} : Moves word (some .reset) 0

theorem moves_after (c : Channel) (op : Operation) : Moves c.word (some op) (c.after op).word := by
  cases op with
  | transition a b =>
      cases htransition : c.transition a b with
      | error found =>
          simp only [after, htransition]
          exact .stay
      | ok d =>
          obtain ⟨rfl, hword, rfl⟩ := transition_eq_ok htransition
          simp only [after, htransition, word_setState, hword]
          exact .cycle a
  | reset =>
      rw [after, Channel.reset, word_setState]
      exact .reset
  | writeText text =>
      rw [after, word_writeText]
      exact .stay
  | clear =>
      rw [after, word_clear]
      exact .stay
  | readText | state | wake => exact .stay

theorem Moves.isSound {word word' : Nat} (h : Moves word op? word')
    (hword : ∃ a : ChannelState, word = a.toWord) : ∃ a : ChannelState, word' = a.toWord := by
  cases h with
  | stay => exact hword
  | cycle a => exact ⟨a.next, rfl⟩
  | reset => exact ⟨.idle, rfl⟩

/-! ### Regions -/

variable {memory : Memory} {address size : Nat}

theorem attach_eq_ok_iff : attach memory (some address) size = .ok c ↔
    address % 4 = 0 ∧ 5 ≤ size ∧ c = reset ⟨memory, address, size - 4, false⟩ := by
  have hleast : regionSize 1 = 5 := rfl
  rw [attach]
  simp only [bne_iff_ne, hleast]
  constructor
  · intro h
    split at h
    · cases h
    split at h
    · cases h
    · rename_i haligned hsize
      exact ⟨Decidable.not_not.mp haligned, Nat.le_of_not_lt hsize, (Except.ok.inj h).symm⟩
  · rintro ⟨haligned, hsize, rfl⟩
    have hmultiple : ¬address % wordSize ≠ 0 := Decidable.not_not.mpr haligned
    rw [if_neg hmultiple, if_neg (Nat.not_lt_of_le hsize)]
    rfl

/-- A channel on a region of a memory. -/
structure KeepsTo (memory : Memory) (address size : Nat) (d : Channel) : Prop where
  outside : ∀ a, ¬(address ≤ a ∧ a < address + size) → d.memory.byte a = memory.byte a
  base : d.base = address
  word : ∃ a : ChannelState, d.word = a.toWord
  size : d.size = size

theorem KeepsTo.of_attach (h : attach memory (some address) size = .ok c) :
    KeepsTo memory address size c := by
  obtain ⟨haligned, hsize, rfl⟩ := attach_eq_ok_iff.mp h
  refine ⟨fun a houtside => ?_, rfl, ⟨.idle, word_setState ..⟩, ?_⟩
  · refine byte_setState _ _ fun hword => houtside ?_
    obtain ⟨hlow, hhigh⟩ := hword
    exact ⟨hlow, Nat.lt_of_lt_of_le hhigh (Nat.add_le_add_left (Nat.le_of_succ_le hsize) _)⟩
  · rw [Channel.size, regionSize, Channel.reset, capacity_setState]
    exact Nat.add_sub_cancel' (Nat.le_of_succ_le hsize)

theorem KeepsTo.after (hsize : 5 ≤ size) (h : KeepsTo memory address size c) (op : Operation) :
    KeepsTo memory address size (c.after op) := by
  obtain ⟨hbase, hcapacity⟩ := c.base_after op
  refine ⟨fun a houtside => ?_, hbase.trans h.base, (c.moves_after op).isSound h.word, ?_⟩
  · rw [← h.outside a houtside]
    refine c.byte_after op fun htouches => houtside ?_
    rw [h.base, h.size] at htouches
    exact Operation.touches_inside (Nat.le_of_succ_le hsize) htouches
  · rw [Channel.size, hcapacity]
    exact h.size

theorem KeepsTo.use (hsize : 5 ≤ size) (h : KeepsTo memory address size c) (use : Use c op? d) :
    KeepsTo memory address size d := by
  rw [use.eq]
  cases op? with
  | none => exact h
  | some op => exact h.after hsize op

theorem KeepsTo.uses (hsize : 5 ≤ size) (h : KeepsTo memory address size c) (uses : c.Uses d) :
    KeepsTo memory address size d := by
  induction uses with
  | refl => exact h
  | tail _ step ih =>
      obtain ⟨op?, use⟩ := step
      exact ih.use hsize use

theorem transition_eq_error_of_sound {a b found : ChannelState}
    (hword : ∃ a : ChannelState, d.word = a.toWord) (h : d.transition a b = .error found) :
    d.after (.transition a b) = d ∧ d.word = found.toWord := by
  obtain ⟨state, hstate⟩ := hword
  constructor
  · simp only [Channel.after, h]
  · rw [transition_eq_error h, Channel.state, hstate, ChannelState.ofWord_toWord]

/-- A channel on a region of a memory: its address is a multiple of four and its size at least five.
Taking it into use changes the four bytes of the word and nothing else. However the channel is used
afterwards, directly or by steps of requests and answers, no byte outside the region is changed and
the word is 0, 1 or 2. One more use changes only bytes that its operation may change, and moves the
word not at all, or along its cycle, or by a reset to 0. A refused move changes nothing and tells
the state that the word holds. -/
theorem keeps_to_region (accepted : attach memory (some address) size = .ok c)
    (uses : c.Uses d) :
    (address % 4 = 0 ∧ 5 ≤ size) ∧
    (∀ a, ¬(address ≤ a ∧ a < address + 4) → c.memory.byte a = memory.byte a) ∧
    (∀ a, ¬(address ≤ a ∧ a < address + size) → d.memory.byte a = memory.byte a) ∧
    (d.word = 0 ∨ d.word = 1 ∨ d.word = 2) ∧
    (∀ op? e, Use d op? e →
      (∀ a, (∀ op ∈ op?, ¬op.touches address size a) → e.memory.byte a = d.memory.byte a) ∧
      Moves d.word op? e.word) ∧
    ∀ a b found, d.transition a b = .error found →
      d.after (.transition a b) = d ∧ d.word = found.toWord := by
  obtain ⟨haligned, hsize, hc⟩ := attach_eq_ok_iff.mp accepted
  have hkeeps := (KeepsTo.of_attach accepted).uses hsize uses
  refine ⟨⟨haligned, hsize⟩, fun a hout => ?_, hkeeps.outside, ?_, fun op? e use => ⟨?_, ?_⟩,
    fun a b found => transition_eq_error_of_sound hkeeps.word⟩
  · rw [hc]
    exact byte_setState _ _ hout
  · obtain ⟨state, hstate⟩ := hkeeps.word
    rw [hstate]
    cases state with
    | idle => exact .inl rfl
    | waiting => exact .inr (.inl rfl)
    | ready => exact .inr (.inr rfl)
  · intro a hfree
    rw [use.eq]
    cases op? with
    | none => rfl
    | some op =>
        refine d.byte_after op ?_
        rw [hkeeps.base, hkeeps.size]
        exact hfree op rfl
  · rw [use.eq]
    cases op? with
    | none => exact .stay
    | some op => exact d.moves_after op

/-! ### Whole requests and answers -/

theorem uses_steps (request : Request) (steps : Nat) (s : Shared) (stage : Asking) :
    s.channel.Uses (Asking.steps request steps (s, stage)).1.channel := by
  induction steps generalizing s stage with
  | zero => exact .refl
  | succ steps ih => exact .head ⟨_, .request s request stage⟩ (ih _ _)

theorem uses_deliver (text : String) (s : Shared) :
    s.channel.Uses (Answering.deliver text s).1.channel := by
  have hstep (x : Shared × Answering) : x.1.channel.Uses (x.2.step text x.1).1.channel :=
    .single ⟨_, .answer x.1 text x.2⟩
  let looked := Answering.looking.step text s
  let written := looked.2.step text looked.1
  let announced := written.2.step text written.1
  have hsteps : s.channel.Uses (announced.2.step text announced.1).1.channel :=
    (((hstep (s, .looking)).trans (hstep looked)).trans (hstep written)).trans (hstep announced)
  unfold Answering.deliver
  dsimp only
  split
  all_goals
    rename_i heq
    rw [heq] at hsteps
    exact hsteps

/-- A request uses the channel, and so does an answer. -/
theorem uses_ask (x : Exchange) (run : Nat) (prompt : String) :
    x.channel.Uses (x.ask run prompt).2.channel := by
  unfold Exchange.ask
  split
  · exact .refl
  · have hsteps := uses_steps ⟨run, x.lastRequest + 1, prompt⟩ Asking.restWithin x.shared .claiming
    dsimp only
    split <;> rename_i heq
    all_goals
      rw [Asking.settle] at heq
      rw [heq] at hsteps
      exact hsteps

theorem uses_submit (x : Exchange) (text : String) :
    x.channel.Uses (x.submit text).2.channel := by
  unfold Exchange.submit
  split
  · exact .refl
  · exact uses_deliver text x.shared

/-- A region with two bytes for the text, between bytes of others. -/
def narrowMemory : Memory := ⟨[7, 7, 7, 7, 9, 9, 9, 9, 120, 121, 7]⟩

def narrowChannel : Channel := reset ⟨narrowMemory, 4, 2, false⟩

/-- A request with an answer that is too long for the region. -/
def narrowExchange : Exchange :=
  (((Exchange.ofChannel narrowChannel 1).ask 1 "Name").2.submit "Ada").2

theorem keeps_to_region_narrow : attach narrowMemory (some 4) 6 = .ok narrowChannel ∧
    narrowChannel.Uses narrowExchange.channel ∧
    narrowExchange.channel.word = 2 ∧ narrowExchange.channel.memory.byte 8 = 65 ∧
    narrowExchange.channel.memory.byte 10 = 7 := by
  have accepted : attach narrowMemory (some 4) 6 = .ok narrowChannel := rfl
  have uses : narrowChannel.Uses narrowExchange.channel :=
    (uses_ask (.ofChannel narrowChannel 1) 1 "Name").trans (uses_submit _ "Ada")
  obtain ⟨-, -, hneighbor, -⟩ := keeps_to_region accepted uses
  exact ⟨accepted, uses, by decide +kernel, by decide +kernel,
    (hneighbor 10 (by decide)).trans (by decide)⟩

end Channel

end Pseudocode
