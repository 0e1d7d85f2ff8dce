import Mathlib.Logic.Relation
import Pseudocode.Proofs.Channel
import Pseudocode.Worker

/-!
A request from its beginning to its return, on whatever channel it finds. It makes the word wait,
also a word that was left over, and either gives up at once or tells the foreground and falls asleep;
so far it touches nothing but the word. When it is woken it takes the answer and erases it, or finds
that the channel was reset and leaves everything as it is. It always leaves an idle word behind, so
the next request does not find out how the one before it went.
-/

namespace Pseudocode

/-! ### Channels -/

namespace Channel

/-- Whether two channels have the same place, and the same bytes but for those of the word. -/
structure AgreeOnText (c d : Channel) : Prop where
  base : d.base = c.base
  capacity : d.capacity = c.capacity
  byte : ∀ address, address < c.base ∨ c.textBase ≤ address →
    d.memory.byte address = c.memory.byte address

theorem AgreeOnText.trans {c d e : Channel} (h : AgreeOnText c d) (h' : AgreeOnText d e) :
    AgreeOnText c e := by
  refine ⟨h'.base.trans h.base, h'.capacity.trans h.capacity, fun address hout => ?_⟩
  rw [h'.byte address (by rwa [textBase, h.base]), h.byte address hout]

theorem agreeOnText_setState (c : Channel) (a : ChannelState) : AgreeOnText c (c.setState a) := by
  refine ⟨rfl, rfl, fun address hout => c.byte_setState a fun hword => ?_⟩
  rw [textBase, wordSize] at hout
  omega

/-- A channel whose word waits, whatever the word was; one that is left over is reset first. -/
def claimed (c : Channel) : Channel :=
  if c.word = ChannelState.idle.toWord then c.setState .waiting else c.reset.setState .waiting

theorem agreeOnText_claimed (c : Channel) : AgreeOnText c c.claimed := by
  unfold claimed
  split
  · exact agreeOnText_setState c _
  · exact (agreeOnText_setState c _).trans (agreeOnText_setState c.reset _)

@[simp] theorem word_claimed (c : Channel) : c.claimed.word = ChannelState.waiting.toWord := by
  unfold claimed
  split <;> exact word_setState ..

theorem transition_of_word {c : Channel} {a b : ChannelState} (hmove : a.canMove b = true)
    (hword : c.word = a.toWord) : c.transition a b = .ok (c.setState b) := by
  rw [transition, hmove, hword, beq_self_eq_true, Bool.and_self, if_pos rfl]

theorem transition_of_word_ne {c : Channel} {a b : ChannelState} (hword : c.word ≠ a.toWord) :
    c.transition a b = .error c.state := by
  rw [transition, beq_eq_false_iff_ne.mpr hword, Bool.and_false, if_neg Bool.false_ne_true]

theorem state_of_word {c : Channel} {a : ChannelState} (hword : c.word = a.toWord) :
    c.state = a := by
  rw [state, hword, ChannelState.ofWord_toWord]

end Channel

/-! ### Stages -/

namespace Asking

variable {request : Request} {s : Shared}

/-- Whether a request gets somewhere by steps of its own. -/
def Goes (request : Request) : Shared × Asking → Shared × Asking → Prop :=
  Relation.ReflTransGen fun x y => x.2.isResting = false ∧ x.2.step request x.1 = y

theorem Goes.step {x y : Shared × Asking} (moving : x.2.isResting = false)
    (h : Goes request (x.2.step request x.1) y) : Goes request x y :=
  .head ⟨moving, rfl⟩ h

theorem goes_claimed (request : Request) (s : Shared) :
    Goes request (s, claiming) ({ s with channel := s.channel.claimed }, guarding) := by
  by_cases hidle : s.channel.word = ChannelState.idle.toWord
  · refine .step rfl ?_
    simp only [step, Channel.transition_of_word (b := .waiting) rfl hidle, Channel.claimed, hidle,
      if_true]
    exact .refl
  · -- The word is left over. It is reset, and with nobody else there the second try succeeds.
    have hreset : s.channel.reset.word = ChannelState.idle.toWord := Channel.word_setState ..
    refine .step rfl ?_
    simp only [step, Channel.transition_of_word_ne (b := .waiting) hidle]
    refine .step rfl (.step rfl (.step rfl ?_))
    simp only [step, Shared.resetChannel, Channel.transition_of_word (b := .waiting) rfl hreset,
      Channel.claimed, hidle, if_false]
    exact .refl

theorem goes_withdrawn (request : Request) (s : Shared) :
    Goes request (s, withdrawing) (s.resetChannel, returned "") :=
  .step rfl (.step rfl .refl)

theorem goes_unsent (request : Request) (s : Shared)
    (h : s.generation ≠ request.run ∨ s.listening = false) :
    Goes request (s, guarding) (s.resetChannel, returned "") := by
  refine .step rfl ?_
  by_cases hcurrent : s.generation = request.run
  · have hlistening : s.listening = false := h.resolve_left fun hstale => hstale hcurrent
    simp only [step, hcurrent, if_true]
    refine .step rfl ?_
    simp only [step, Shared.sendEvent?, Shared.send?, hlistening, Bool.false_eq_true, if_false]
    exact goes_withdrawn request s
  · simp only [step, hcurrent, if_false]
    exact goes_withdrawn request s

theorem goes_asleep (h : s.channel.word = ChannelState.waiting.toWord) :
    Goes request (s, watching) (s, asleep) := by
  refine .step rfl ?_
  simp only [step, h, if_true]
  refine .step rfl ?_
  simp only [step, h, if_true]
  exact .refl

theorem goes_sent (request : Request) (s : Shared) (hcurrent : s.generation = request.run)
    (hlistening : s.listening = true)
    (hwaiting : s.channel.word = ChannelState.waiting.toWord) :
    Goes request (s, guarding) (s.post (.event (.requested request)), asleep) := by
  refine .step rfl ?_
  simp only [step, hcurrent, if_true]
  refine .step rfl ?_
  simp only [step, Shared.sendEvent?, Shared.send?, hlistening, if_true]
  exact goes_asleep hwaiting

theorem goes_answered (h : s.channel.word = ChannelState.ready.toWord) :
    Goes request (s, watching)
      ({ s with channel := s.channel.clear.setState .idle }, returned s.channel.readText) := by
  have hpast : s.channel.word ≠ ChannelState.waiting.toWord := by rw [h]; decide
  have hclear : s.channel.clear.word = ChannelState.ready.toWord := (s.channel.word_clear).trans h
  refine .step rfl ?_
  simp only [step, hpast, if_false]
  refine .step rfl ?_
  simp only [step, Channel.state_of_word h, if_true]
  refine .step rfl (.step rfl (.step rfl ?_))
  simp only [step, Channel.transition_of_word (b := .idle) rfl hclear]
  exact .refl

theorem goes_reset (h : s.channel.word = ChannelState.idle.toWord) :
    Goes request (s, watching) (s, returned "") := by
  have hpast : s.channel.word ≠ ChannelState.waiting.toWord := by rw [h]; decide
  refine .step rfl ?_
  simp only [step, hpast, if_false]
  refine .step rfl ?_
  simp only [step, Channel.state_of_word h, reduceCtorEq, if_false]
  exact .refl

/-- What a request that nobody disturbs knows of the channel, whatever it found there. -/
def Knows (c : Channel) : Asking → Prop
  | claiming | recovering | withdrawing => True
  | wakingAfterRecovery | reclaiming | wakingAfterWithdrawal | returned _ =>
    c.word = ChannelState.idle.toWord
  | guarding | sending => c.word = ChannelState.waiting.toWord
  | watching | dozing | asleep => c.IsSound
  | inspecting => c.IsSound ∧ c.state ≠ .waiting
  | reading | erasing _ | consuming _ => c.word = ChannelState.ready.toWord

theorem Knows.step {stage : Asking} (h : stage.Knows s.channel) (request : Request) :
    (stage.step request s).2.Knows (stage.step request s).1.channel := by
  cases stage with
  | claiming =>
      rw [Asking.step]
      by_cases hidle : s.channel.word = ChannelState.idle.toWord
      · rw [Channel.transition_of_word rfl hidle]
        exact Channel.word_setState ..
      · rw [Channel.transition_of_word_ne hidle]
        exact trivial
  | recovering => exact Channel.word_setState ..
  | wakingAfterRecovery => exact h
  | reclaiming =>
      rw [Asking.step, Channel.transition_of_word rfl h]
      exact Channel.word_setState ..
  | guarding =>
      rw [Asking.step]
      split
      · exact h
      · exact trivial
  | sending =>
      have hsound : s.channel.IsSound := by
        rw [Channel.IsSound, Channel.state_of_word h]
        exact h
      simp only [Asking.step, Shared.sendEvent?, Shared.send?]
      cases s.listening with
      | true => exact hsound
      | false => exact trivial
  | withdrawing => exact Channel.word_setState ..
  | wakingAfterWithdrawal => exact h
  | watching =>
      rw [Asking.step]
      split
      · exact h
      · rename_i hpast
        exact ⟨h, mt (Channel.IsSound.word_eq_iff h .waiting).mpr hpast⟩
  | dozing =>
      rw [Asking.step]
      split <;> exact h
  | asleep => exact h
  | inspecting =>
      obtain ⟨hsound, hpast⟩ := h
      rw [Asking.step]
      cases hstate : s.channel.state with
      | idle => exact (hsound.word_eq_iff .idle).mpr hstate
      | waiting => exact (hpast hstate).elim
      | ready => exact (hsound.word_eq_iff .ready).mpr hstate
  | reading => exact h
  | erasing text => exact (s.channel.word_clear).trans h
  | consuming text =>
      rw [Asking.step, Channel.transition_of_word rfl h]
      exact Channel.word_setState ..
  | returned text => exact h

end Asking

/-! ### Workers -/

namespace Worker

variable {interpreter : Interpreter} {s s' : Shared} {w w' : Worker} {request : Request}
  {stage : Asking} {next : String → Dialogue Ending}

/-- Whether a worker gets somewhere by steps of its own, with nobody else moving. -/
def Goes (interpreter : Interpreter) : Shared × Worker → Shared × Worker → Prop :=
  Relation.ReflTransGen fun x y => x.2.step? interpreter x.1 = some y

theorem step?_asking (phase : w.phase = .asking request stage next)
    (moving : stage.isResting = false) :
    w.step? interpreter s = some ((stage.step request s).1,
      { w with phase := .asking request (stage.step request s).2 next }) := by
  rw [step?, phase]
  cases stage <;> first | rfl | cases moving

/-- With an answer the program goes on. Else the request makes a step, and stays the same one. -/
theorem step?_asking_cases (phase : w.phase = .asking request stage next)
    (h : w.step? interpreter s = some (s', w')) :
    (∃ text, stage = .returned text ∧ w' = { w with phase := .running request.run (next text) }) ∨
      (stage.isResting = false ∧
        w' = { w with phase := .asking request (stage.step request s).2 next }) := by
  cases stage with
  | asleep =>
      rw [step?, phase] at h
      cases h
  | returned text =>
      rw [step?, phase] at h
      cases h
      exact .inl ⟨text, rfl, rfl⟩
  | _ =>
      rw [step?_asking phase rfl] at h
      cases h
      exact .inr ⟨rfl, rfl⟩

theorem goes_asking {x : Shared × Asking} (h : Asking.Goes request (s, stage) x)
    (phase : w.phase = .asking request stage next) :
    Goes interpreter (s, w) (x.1, { w with phase := .asking request x.2 next }) := by
  induction h with
  | refl => rw [← phase]; exact .refl
  | tail _ hstep ih =>
      obtain ⟨moving, rfl⟩ := hstep
      exact ih.tail (step?_asking rfl moving)

/-- A request that returns gives its text to the program. -/
theorem goes_returned {text : String} (h : Asking.Goes request (s, stage) (s', .returned text))
    (phase : w.phase = .asking request stage next) :
    Goes interpreter (s, w) (s', { w with phase := .running request.run (next text) }) :=
  (goes_asking h phase).tail rfl

/-- A program that asks begins a request. -/
theorem goes_claimed (interpreter : Interpreter) (s : Shared) {run : Nat} {prompt : String}
    (phase : w.phase = .running run (.ask prompt next)) :
    Goes interpreter (s, w) ({ s with channel := s.channel.claimed },
      ⟨.asking ⟨run, w.lastRequest?.getD 0 + 1, prompt⟩ .guarding next,
        some (w.lastRequest?.getD 0 + 1), w.disconnected⟩) := by
  have hbegun : w.step? interpreter s = some (s,
      ⟨.asking ⟨run, w.lastRequest?.getD 0 + 1, prompt⟩ .claiming next,
        some (w.lastRequest?.getD 0 + 1), w.disconnected⟩) := by
    rw [step?, phase]
    rfl
  exact .head hbegun (goes_asking (Asking.goes_claimed _ s) rfl)

/-- What can become of a worker that nobody disturbs in a request. Others act before a request begins
and while it sleeps, and they have put one of the three words in place when they wake it. -/
inductive Tended (interpreter : Interpreter) (w₀ : Worker) : Shared → Worker → Prop
  | start (s : Shared) : Tended interpreter w₀ s w₀
  | own {s s' : Shared} {w w' : Worker} (h : Tended interpreter w₀ s w)
    (hstep : w.step? interpreter s = some (s', w')) : Tended interpreter w₀ s' w'
  | between {s : Shared} {w : Worker} (h : Tended interpreter w₀ s w)
    (free : ∀ request stage next, w.phase ≠ .asking request stage next) (s' : Shared) :
    Tended interpreter w₀ s' w
  | release {s : Shared} {w : Worker} {request : Request} {next : String → Dialogue Ending}
    (h : Tended interpreter w₀ s w) (phase : w.phase = .asking request .asleep next) {s' : Shared}
    (sound : s'.channel.IsSound) : Tended interpreter w₀ s' w.woken

theorem phase_report_ne {event : Event} :
    (w.report s event).2.phase ≠ .asking request stage next := by
  unfold report
  cases s.sendEvent? event <;> exact Phase.noConfusion

theorem phase_obey_ne {command : Command} : (w.obey command).phase ≠ .asking request stage next := by
  cases command <;> exact Phase.noConfusion

/-- A program gets its worker to no other stage of a request than the first. -/
theorem claiming_of_advance {run : Nat} {program : Dialogue Ending}
    (hstep : w.advance s run program = some (s', w'))
    (phase : w'.phase = .asking request stage next) : stage = .claiming := by
  cases program with
  | check next' =>
      cases hstep
      cases phase
  | tell text next' =>
      rw [advance] at hstep
      split at hstep <;> cases hstep <;> cases phase
  | ask prompt next' =>
      cases hstep
      cases phase
      rfl
  | done ending =>
      cases ending with
      | exhausted =>
          rw [advance] at hstep
          split at hstep <;> cases hstep
          cases phase
      | _ =>
          cases hstep
          cases phase

/-- A worker gets to a stage of a request from the stage before it, or by beginning the request. -/
theorem claiming_or_asking_of_step? (hstep : w.step? interpreter s = some (s', w'))
    (phase : w'.phase = .asking request stage next) :
    stage = .claiming ∨ ∃ before, w.phase = .asking request before next ∧
      before.step request s = (s', stage) := by
  have hreport {event : Event} (h : some (w.report s event) = some (s', w')) : False := by
    obtain rfl : (w.report s event).2 = w' := congrArg Prod.snd (Option.some.inj h)
    exact phase_report_ne phase
  cases hphase : w.phase with
  | idle =>
      rw [step?, hphase] at hstep
      cases hcommands : s.commands with
      | nil =>
          simp only [hcommands] at hstep
          split at hstep <;> cases hstep
          cases phase
      | cons command commands =>
          simp only [hcommands] at hstep
          cases hstep
          exact (phase_obey_ne phase).elim
  | announcing =>
      rw [step?, hphase] at hstep
      exact (hreport hstep).elim
  | starting run source =>
      rw [step?, hphase] at hstep
      dsimp only at hstep
      split at hstep
      · cases hstep
        cases phase
      · split at hstep <;> cases hstep <;> cases phase
  | refusing run =>
      rw [step?, hphase] at hstep
      exact (hreport hstep).elim
  | running run program =>
      rw [step?, hphase] at hstep
      exact .inl (claiming_of_advance hstep phase)
  | asking other before next' =>
      rw [step?, hphase] at hstep
      cases before with
      | asleep => cases hstep
      | returned text =>
          cases hstep
          cases phase
      | _ =>
          cases hstep
          cases phase
          exact .inr ⟨_, rfl, rfl⟩
  | reporting event =>
      rw [step?, hphase] at hstep
      exact (hreport hstep).elim
  | stopped crashed =>
      rw [step?, hphase] at hstep
      cases hstep

theorem Tended.knows {w₀ : Worker} (h : Tended interpreter w₀ s w)
    (free : ∀ request stage next, w₀.phase ≠ .asking request stage next)
    (phase : w.phase = .asking request stage next) : stage.Knows s.channel := by
  induction h generalizing request stage next with
  | start s => exact (free _ _ _ phase).elim
  | own h hstep ih =>
      rcases claiming_or_asking_of_step? hstep phase with rfl | ⟨before, hphase, hbefore⟩
      · trivial
      · have hknows := (ih hphase).step request
        rwa [hbefore] at hknows
  | between h hfree s' ih => exact (hfree _ _ _ phase).elim
  -- Once woken, a request knows no more than that the word is one of the three.
  | @release s w other next' h hphase s' sound ih =>
      rw [woken, hphase] at phase
      obtain ⟨-, rfl, -⟩ := Phase.asking.inj phase
      exact sound

/-- A request that cannot be made or sent returns at once, and another one sleeps until it is woken;
both have touched nothing but the word. -/
theorem goes_begun (interpreter : Interpreter) (s : Shared) {run : Nat} {prompt : String}
    (phase : w.phase = .running run (.ask prompt next)) :
    (s.generation ≠ run ∨ s.listening = false →
      ∃ channel, channel.word = ChannelState.idle.toWord ∧ s.channel.AgreeOnText channel ∧
        Goes interpreter (s, w) ({ s with channel },
          ⟨.running run (next ""), some (w.lastRequest?.getD 0 + 1), w.disconnected⟩)) ∧
    (s.generation = run → s.listening = true →
      ∃ channel, channel.word = ChannelState.waiting.toWord ∧ s.channel.AgreeOnText channel ∧
        Goes interpreter (s, w)
          ({ s with
              channel
              inbox := s.inbox ++ [.event (.requested ⟨run, w.lastRequest?.getD 0 + 1, prompt⟩)] },
          ⟨.asking ⟨run, w.lastRequest?.getD 0 + 1, prompt⟩ .asleep next,
            some (w.lastRequest?.getD 0 + 1), w.disconnected⟩)) := by
  have hclaimed := goes_claimed interpreter s phase
  constructor
  · intro hvain
    have hunsent := Asking.goes_unsent ⟨run, w.lastRequest?.getD 0 + 1, prompt⟩
      { s with channel := s.channel.claimed } hvain
    exact ⟨s.channel.claimed.reset, Channel.word_setState ..,
      s.channel.agreeOnText_claimed.trans (Channel.agreeOnText_setState _ _),
      hclaimed.trans (goes_returned hunsent rfl)⟩
  · intro hcurrent hlistening
    have hsent := Asking.goes_sent ⟨run, w.lastRequest?.getD 0 + 1, prompt⟩
      { s with channel := s.channel.claimed } hcurrent hlistening s.channel.word_claimed
    exact ⟨s.channel.claimed, s.channel.word_claimed, s.channel.agreeOnText_claimed,
      hclaimed.trans (goes_asking hsent rfl)⟩

/-- A request that sleeps makes no step. Woken, it takes an answer and erases it, or finds that the
channel was reset and leaves it as it is, or falls asleep again. -/
theorem goes_woken (interpreter : Interpreter) (s : Shared)
    (phase : w.phase = .asking request .asleep next) :
    w.step? interpreter s = none ∧
    (s.channel.word = ChannelState.ready.toWord →
      ∃ channel, channel.word = ChannelState.idle.toWord ∧ channel.capacity = s.channel.capacity ∧
        (∀ i < channel.capacity, channel.textByte i = 0) ∧
        Goes interpreter (s, w.woken) ({ s with channel },
          { w with phase := .running request.run (next s.channel.readText) })) ∧
    (s.channel.word = ChannelState.idle.toWord →
      Goes interpreter (s, w.woken) (s, { w with phase := .running request.run (next "") })) ∧
    (s.channel.word = ChannelState.waiting.toWord → Goes interpreter (s, w.woken) (s, w)) := by
  have hwoken : w.woken = { w with phase := .asking request .watching next } := by
    rw [woken, phase]
    rfl
  have hasleep : w = { w with phase := .asking request .asleep next } := by rw [← phase]
  rw [hwoken]
  refine ⟨by rw [step?, phase], fun hready => ?_, fun hidle => ?_, fun hwaiting => ?_⟩
  · refine ⟨s.channel.clear.setState .idle, Channel.word_setState .., rfl, fun i hi => ?_, ?_⟩
    · rw [Channel.textByte_setState]
      exact s.channel.textByte_clear hi
    · exact goes_returned (Asking.goes_answered hready) rfl
  · exact goes_returned (Asking.goes_reset hidle) rfl
  · have hagain : Goes interpreter (s, { w with phase := .asking request .watching next })
        (s, { w with phase := .asking request .asleep next }) :=
      goes_asking (Asking.goes_asleep hwaiting) rfl
    rwa [← hasleep] at hagain

/-- A request for input from its beginning to its return. It has the number after that of the last
request, whatever becomes of it. If its run is not the current one or nobody listens, it returns the
empty text, with no event sent, an idle word and all else as it was; otherwise exactly one event is
sent, the word waits, all else is as it was and the worker sleeps. Once woken, it returns the answer
that is there, leaves nothing of it and an idle word; or, if the word is idle, it returns the empty
text and leaves everything as it is. And however many requests there are, whatever each of them finds
and whatever happens while it sleeps, the word is idle when it returns. -/
theorem request_round_trip (interpreter : Interpreter) (s : Shared) {run : Nat} {prompt : String}
    (phase : w.phase = .running run (.ask prompt next)) :
    (s.generation ≠ run ∨ s.listening = false →
      ∃ channel, channel.word = ChannelState.idle.toWord ∧ s.channel.AgreeOnText channel ∧
        Goes interpreter (s, w) ({ s with channel },
          ⟨.running run (next ""), some (w.lastRequest?.getD 0 + 1), w.disconnected⟩)) ∧
    (s.generation = run → s.listening = true →
      ∃ channel, channel.word = ChannelState.waiting.toWord ∧ s.channel.AgreeOnText channel ∧
        Goes interpreter (s, w)
          ({ s with
              channel
              inbox := s.inbox ++ [.event (.requested ⟨run, w.lastRequest?.getD 0 + 1, prompt⟩)] },
          ⟨.asking ⟨run, w.lastRequest?.getD 0 + 1, prompt⟩ .asleep next,
            some (w.lastRequest?.getD 0 + 1), w.disconnected⟩)) ∧
    (∀ request (w : Worker) (s : Shared), w.phase = .asking request .asleep next →
      w.step? interpreter s = none ∧
      (s.channel.word = ChannelState.ready.toWord →
        ∃ channel, channel.word = ChannelState.idle.toWord ∧
          channel.capacity = s.channel.capacity ∧
          (∀ i < channel.capacity, channel.textByte i = 0) ∧
          Goes interpreter (s, w.woken) ({ s with channel },
            { w with phase := .running request.run (next s.channel.readText) })) ∧
      (s.channel.word = ChannelState.idle.toWord →
        Goes interpreter (s, w.woken) (s, { w with phase := .running request.run (next "") })) ∧
      (s.channel.word = ChannelState.waiting.toWord → Goes interpreter (s, w.woken) (s, w))) ∧
    (∀ w₀ : Worker, (∀ request stage next, w₀.phase ≠ .asking request stage next) →
      ∀ s (w : Worker) request text next, Tended interpreter w₀ s w →
        w.phase = .asking request (.returned text) next →
          s.channel.word = ChannelState.idle.toWord) := by
  obtain ⟨hvain, hsent⟩ := goes_begun interpreter s phase
  refine ⟨hvain, hsent, fun request w s hasleep => goes_woken interpreter s hasleep, ?_⟩
  intro w₀ free s w request text next htended hreturned
  exact htended.knows free hreturned

/-- A channel on which an answer was left over. -/
def leftOver : Shared :=
  .ofChannel (((⟨.zeros, 0, 8, true⟩ : Channel).writeText "stale").setState .ready) 1

/-- A worker that is about to make its fifth request. -/
def curious : Worker := ⟨.running 1 (.ask "X" fun _ => .done .canceled), some 4, false⟩

theorem request_round_trip_leftOver :
    leftOver.channel.word = ChannelState.ready.toWord ∧
    ∃ channel, channel.word = ChannelState.waiting.toWord ∧
      leftOver.channel.AgreeOnText channel ∧
      Goes (Interpreter.script 0) (leftOver, curious)
        ({ leftOver with
            channel
            inbox := leftOver.inbox ++ [.event (.requested ⟨1, 5, "X"⟩)] },
          ⟨.asking ⟨1, 5, "X"⟩ .asleep fun _ => .done .canceled, some 5, false⟩) := by
  obtain ⟨-, hsent, -, -⟩ :=
    request_round_trip (Interpreter.script 0) leftOver (w := curious) rfl
  exact ⟨Channel.word_setState .., hsent rfl rfl⟩

end Worker

end Pseudocode
