import Pseudocode.Asking
import Pseudocode.Proofs.Channel

/-!
Requests, stage by stage. `Fits` says in which states a request can find the channel, whatever the
foreground does, and `Turn` what each stage does then. `Settled` says more, for a foreground that
resets the channel only after it has made the current run stale.
-/

namespace Pseudocode

namespace Asking

/-- Whether the channel can be in a state when a request is at a stage. The channel is idle when a
request begins and when it is over, so that it never has to recover a channel. -/
def Fits (state : ChannelState) : Asking → Prop
  | claiming | wakingAfterWithdrawal | returned _ => state = .idle
  | recovering | wakingAfterRecovery | reclaiming => False
  | inspecting | reading | erasing _ | consuming _ => state ≠ .waiting
  | guarding | sending | withdrawing | watching | dozing | asleep => True

/-- Whether a request has told the foreground and can still get an answer. -/
def hasSent : Asking → Bool
  | watching | dozing | asleep | inspecting | reading | erasing _ | consuming _ => true
  | _ => false

/-- Whether a request has still to tell the foreground. -/
def isUnsent : Asking → Bool
  | claiming | recovering | wakingAfterRecovery | reclaiming | guarding | sending => true
  | _ => false

/-- Whether the channel can be in a state when a request of the current run is at a stage. -/
def FitsCurrent (state : ChannelState) : Asking → Prop
  | guarding | sending => state = .waiting
  | watching | dozing | asleep => state ≠ .idle
  | inspecting | reading | erasing _ | consuming _ => state = .ready
  | withdrawing | wakingAfterWithdrawal => False
  | claiming | recovering | wakingAfterRecovery | reclaiming | returned _ => True

/-- Whether the channel can be in a state when a request of an earlier run is at a stage. -/
def FitsStale (state : ChannelState) : Asking → Prop
  | sending | watching | dozing | asleep | inspecting | reading | erasing _ | consuming _ =>
    state = .idle
  | _ => True

structure Settled (isCurrent : Prop) (state : ChannelState) (stage : Asking) : Prop where
  current : isCurrent → stage.FitsCurrent state
  stale : ¬ isCurrent → stage.FitsStale state

/-- One step of a request on a channel that fits. -/
inductive Turn (request : Request) (s : Shared) : Asking → Shared → Asking → Prop
  | claim (idle : s.channel.state = .idle) :
    Turn request s claiming { s with channel := s.channel.setState .waiting } guarding
  | pass (current : request.run = s.generation) :
    Turn request s guarding s sending
  | fail (stale : request.run ≠ s.generation) :
    Turn request s guarding s withdrawing
  | send :
    Turn request s sending (s.post (.event (.requested request))) watching
  | withdraw : Turn request s withdrawing s.resetChannel wakingAfterWithdrawal
  | giveUp : Turn request s wakingAfterWithdrawal s (returned "")
  | watch (waiting : s.channel.state = .waiting) : Turn request s watching s dozing
  | notice (past : s.channel.state ≠ .waiting) : Turn request s watching s inspecting
  | sleep (waiting : s.channel.state = .waiting) : Turn request s dozing s asleep
  | startle (past : s.channel.state ≠ .waiting) : Turn request s dozing s watching
  | find (ready : s.channel.state = .ready) : Turn request s inspecting s reading
  | findNothing (idle : s.channel.state = .idle) :
    Turn request s inspecting s (returned "")
  | read : Turn request s reading s (erasing s.channel.readText)
  | erase {text : String} :
    Turn request s (erasing text) { s with channel := s.channel.clear } (consuming text)
  | consume {text : String} (ready : s.channel.state = .ready) :
    Turn request s (consuming text) { s with channel := s.channel.setState .idle } (returned text)
  | consumeInVain {text : String} (idle : s.channel.state = .idle) :
    Turn request s (consuming text) s (returned text)

theorem turn_step (request : Request) {s : Shared} {stage : Asking}
    (sound : s.channel.IsSound) (listening : s.listening = true)
    (fits : stage.Fits s.channel.state) (moving : stage.isResting = false) :
    Turn request s stage (stage.step request s).1 (stage.step request s).2 := by
  cases stage with
  | claiming =>
      have idle : s.channel.state = .idle := fits
      simp only [step, sound.transition_of_state (b := .waiting) rfl idle]
      exact .claim idle
  | recovering => exact fits.elim
  | wakingAfterRecovery => exact fits.elim
  | reclaiming => exact fits.elim
  | guarding =>
      by_cases current : s.generation = request.run
      · simp only [step, current, if_true]
        exact .pass current.symm
      · simp only [step, current, if_false]
        exact .fail (Ne.symm current)
  | sending =>
      simp only [step, Shared.sendEvent?, Shared.send?, listening, if_true]
      exact .send
  | withdrawing => exact .withdraw
  | wakingAfterWithdrawal => exact .giveUp
  | watching =>
      by_cases waiting : s.channel.state = .waiting
      · simp only [step, (sound.word_eq_iff .waiting).mpr waiting, if_true]
        exact .watch waiting
      · have past := mt (sound.word_eq_iff .waiting).mp waiting
        simp only [step, past, if_false]
        exact .notice waiting
  | dozing =>
      by_cases waiting : s.channel.state = .waiting
      · simp only [step, (sound.word_eq_iff .waiting).mpr waiting, if_true]
        exact .sleep waiting
      · have past := mt (sound.word_eq_iff .waiting).mp waiting
        simp only [step, past, if_false]
        exact .startle waiting
  | asleep => cases moving
  | inspecting =>
      have past : s.channel.state ≠ .waiting := fits
      cases hstate : s.channel.state with
      | idle =>
          simp only [step, hstate, reduceCtorEq, if_false]
          exact .findNothing hstate
      | waiting => exact (past hstate).elim
      | ready =>
          simp only [step, hstate, if_true]
          exact .find hstate
  | reading => exact .read
  | erasing text => exact .erase
  | consuming text =>
      have past : s.channel.state ≠ .waiting := fits
      cases hstate : s.channel.state with
      | idle =>
          have hready : s.channel.state ≠ .ready := by simp [hstate]
          simp only [step, sound.transition_of_state_ne (b := .idle) hready]
          exact .consumeInVain hstate
      | waiting => exact (past hstate).elim
      | ready =>
          simp only [step, sound.transition_of_state (b := .idle) rfl hstate]
          exact .consume hstate
  | returned text => cases moving

variable {request : Request} {s s' : Shared} {stage stage' : Asking} {state : ChannelState}
  {current : Prop}

theorem Turn.fits (turn : Turn request s stage s' stage') (fits : stage.Fits s.channel.state) :
    stage'.Fits s'.channel.state := by
  cases turn with
  | claim | pass | fail | send | watch | sleep | startle => exact trivial
  | withdraw => simp [Fits, Shared.resetChannel, Channel.reset]
  | giveUp => exact fits
  | notice past => exact past
  | find ready => simp [Fits, ready]
  | findNothing idle => exact idle
  | read => exact fits
  | erase => simpa [Fits] using fits
  | consume => simp [Fits]
  | consumeInVain idle => exact idle

theorem Turn.generation (turn : Turn request s stage s' stage') :
    s'.generation = s.generation := by
  cases turn <;> rfl

theorem Turn.capacity (turn : Turn request s stage s' stage') :
    s'.channel.capacity = s.channel.capacity := by
  cases turn <;> rfl

theorem Turn.commands (turn : Turn request s stage s' stage') : s'.commands = s.commands := by
  cases turn <;> rfl

/-- Whoever resets the channel finds a fitting one afterwards, as no stage needs it to wait. -/
theorem Fits.idle (fits : stage.Fits state) : stage.Fits .idle := by
  cases stage <;> simp_all [Fits]

/-- An answer is announced only on a channel that waits. -/
theorem Fits.ready (fits : stage.Fits .waiting) : stage.Fits .ready := by
  cases stage <;> simp_all [Fits]

theorem Fits.woken (fits : stage.Fits state) : stage.woken.Fits state := by
  cases stage <;> exact fits

theorem settled_idle (stale : ¬ current) : stage.Settled current .idle :=
  ⟨fun h => (stale h).elim, fun _ => by cases stage <;> simp [FitsStale]⟩

theorem Turn.fitsCurrent (turn : Turn request s stage s' stage')
    (fits : stage.FitsCurrent s.channel.state) (current : request.run = s.generation) :
    stage'.FitsCurrent s'.channel.state := by
  cases turn with
  | claim => simp [FitsCurrent]
  | pass => exact fits
  | fail stale => exact (stale current).elim
  | send =>
      have waiting : s.channel.state = .waiting := fits
      simp [FitsCurrent, Shared.post, waiting]
  | withdraw => exact fits.elim
  | notice past =>
      have heard : s.channel.state ≠ .idle := fits
      show s.channel.state = .ready
      cases hstate : s.channel.state with
      | idle => exact (heard hstate).elim
      | waiting => exact (past hstate).elim
      | ready => rfl
  | watch | sleep | startle | find | read => exact fits
  | erase => simpa [FitsCurrent] using fits
  | giveUp | findNothing | consume | consumeInVain => exact trivial

theorem Turn.fitsStale (turn : Turn request s stage s' stage')
    (fits : stage.FitsStale s.channel.state) (stale : request.run ≠ s.generation) :
    stage'.FitsStale s'.channel.state := by
  cases turn with
  | pass current => exact (stale current).elim
  | claim | fail | withdraw | giveUp | findNothing | consume | consumeInVain => exact trivial
  | send | watch | notice | sleep | startle | find | read => exact fits
  | erase => simpa [FitsStale] using fits

theorem Settled.turn (settled : stage.Settled (request.run = s.generation) s.channel.state)
    (turn : Turn request s stage s' stage') :
    stage'.Settled (request.run = s'.generation) s'.channel.state := by
  rw [turn.generation]
  exact ⟨fun current => turn.fitsCurrent (settled.current current) current,
    fun stale => turn.fitsStale (settled.stale stale) stale⟩

theorem FitsCurrent.ready (fits : stage.FitsCurrent .waiting) (sent : stage.hasSent = true) :
    stage.FitsCurrent .ready := by
  cases stage <;> simp_all [FitsCurrent, hasSent]

/-- Nothing happens to a request that has told the foreground and waits. -/
theorem Turn.still_waiting (turn : Turn request s stage s' stage') (sent : stage.hasSent = true)
    (fits : stage.Fits s.channel.state) (waiting : s.channel.state = .waiting) :
    s' = s ∧ stage'.hasSent = true := by
  cases turn with
  | watch | sleep => exact ⟨rfl, rfl⟩
  | notice past | startle past => exact (past waiting).elim
  | find | findNothing | read | erase | consume | consumeInVain => exact (fits waiting).elim
  | claim | pass | fail | send | withdraw | giveUp => cases sent

@[simp] theorem hasSent_woken (stage : Asking) : stage.woken.hasSent = stage.hasSent := by
  cases stage <;> rfl

@[simp] theorem isUnsent_woken (stage : Asking) : stage.woken.isUnsent = stage.isUnsent := by
  cases stage <;> rfl

theorem Settled.woken (settled : stage.Settled current state) :
    stage.woken.Settled current state := by
  cases stage with
  | asleep => exact ⟨settled.current, settled.stale⟩
  | _ => exact settled

end Asking

end Pseudocode
