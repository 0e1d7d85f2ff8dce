import Pseudocode.Proofs.Session

/-!
What the loop of a session does when a call has returned: it receives again, or answers the request
that is pending, or the run has ended and so has the session. Each time it shows the next part of
the transcript.
-/

namespace Pseudocode

namespace Session

/-- A session that has ended with its run. -/
structure Ended (interpreter : Interpreter) (capacity : Nat) (source : String) (lines : List String)
    (x : Session) : Prop where
  returned : x.runner.foreground.reply? ≠ none
  last : ∃ last ∈ (interpreter source).remarks capacity lines, ∃ success,
    last.success? = some success ∧ x.outcome? = some (.ok success)
  shown : x.shown = transcript lines ((interpreter source).remarks capacity lines)
  tally : Tally lines none x.submitted x.shown

/-- What a turn of the loop leads to. -/
inductive Turned (interpreter : Interpreter) (capacity : Nat) (source : String)
    (lines answers : List String) (rest : List Remark) (x y : Session) : Prop
  | receiving (going : Going interpreter capacity source lines answers rest y)
    (runner : y.runner = x.runner.begin .receive)
  | answering (going : Going interpreter capacity source lines answers.tail rest y) {text : String}
    (runner : y.runner = x.runner.begin (.submit text))
    (pending : x.runner.foreground.pending.isSome = true)
  | ended (ended : Ended interpreter capacity source lines y)

/-- What the reader has to say and no call has returned yet. -/
def arriving (x : Session) : List Message :=
  x.runner.shared.inbox.filter Message.isTyped ++ x.unread

theorem typed_eq (x : Session) :
    x.typed = x.runner.foreground.received?.toList.filter Message.isTyped ++ x.arriving := by
  simp [typed, arriving]

variable {interpreter : Interpreter} {capacity : Nat} {source : String}
  {lines answers : List String} {rest : List Remark} {x : Session} {request : Request}
  {text : String} {message : Message}

theorem Going.remark?_of_event (going : Going interpreter capacity source lines answers rest x)
    {event : Event} (received : x.runner.foreground.received? = some (.event event)) :
    x.remark? = event.remark? := by
  rw [remark?, received, going.underway.current, ← going.orderly.named event received]
  rfl

/-- When something is said of the run that is no prompt, no request is pending. -/
theorem Going.pending_eq_none (going : Going interpreter capacity source lines answers rest x)
    {event : Event} (received : x.runner.foreground.received? = some (.event event))
    (named : event.remark? ≠ none) (other : ∀ request, event ≠ .requested request) :
    x.runner.foreground.pending = none := by
  refine Option.eq_none_iff_forall_ne_some.mpr fun request hpending => ?_
  rcases going.asked request hpending with hrequest | ⟨hremark, _⟩
  · rw [received] at hrequest
    cases hrequest
    exact other request rfl
  · exact named (going.remark?_of_event received ▸ hremark)

/-- A request that is pending when something else is received waits for a line that comes now. -/
theorem Going.waiting (going : Going interpreter capacity source lines answers rest x)
    (received : x.runner.foreground.received? = some message)
    (plain : ∀ event, message ≠ .event event)
    (pending : x.runner.foreground.pending = some request) :
    x.remark? = none ∧ x.frontend.queued = [] := by
  rcases going.asked request pending with hrequest | ⟨hremark, hqueued, _⟩
  · exact (plain _ (Option.some.inj (received.symm.trans hrequest))).elim
  · exact ⟨hremark, hqueued⟩

theorem Going.tally_silent (going : Going interpreter capacity source lines answers rest x)
    (silent : x.remark? = none) :
    Tally lines x.runner.foreground.pending x.submitted (x.shown ++ []) := by
  have htally := going.tally
  rw [waiting?, silent] at htally
  rw [List.append_nil]
  exact htally

theorem Going.tally_told (going : Going interpreter capacity source lines answers rest x)
    {remark : Remark} (told : x.remark? = some remark) : Tally lines none x.submitted x.shown := by
  have htally := going.tally
  rw [waiting?, told] at htally
  exact htally

/-- What the loop has reacted to is heard, if it is not the end of the run. -/
theorem Going.heard_all (going : Going interpreter capacity source lines answers rest x)
    (unended : ∀ remark, x.remark? = some remark → remark.isTerminal = false) :
    ∃ heard : List Remark, (∀ remark ∈ heard, remark.isTerminal = false) ∧
      (interpreter source).remarks capacity lines = heard ++ rest := by
  obtain ⟨heard, hheard, hremarks⟩ := going.heard
  refine ⟨heard ++ x.remark?.toList, fun remark hremark => ?_, ?_⟩
  · rcases List.mem_append.mp hremark with hremark | hremark
    · exact hheard remark hremark
    · exact unended remark (Option.mem_toList.mp hremark)
  · rw [hremarks, List.append_assoc]

section

variable (sturdy : ∀ source, (interpreter source).Ends (fun _ => True) (· ≠ .crashed))

include sturdy

theorem Going.underway_receive (going : Going interpreter capacity source lines answers rest x)
    (free : x.runner.foreground.isFree = true) :
    (x.runner.begin .receive).Underway interpreter capacity 1 answers rest := by
  have hnone : Deed.submissions [.called x.runner.foreground.pending .receive] = [] := by
    cases x.runner.foreground.pending <;> rfl
  have move : Runner.Move interpreter x.runner [.called x.runner.foreground.pending .receive]
      (x.runner.begin .receive) := .call .receive free
  obtain ⟨rest', rfl, hunderway⟩ := going.underway.move sturdy move
    (by simp [Deed.Calls, Call.isAttending, Deed.Honest]) (Deed.gives_of_submissions_eq_nil hnone)
  rw [hnone] at hunderway
  exact hunderway

theorem Going.underway_submit (going : Going interpreter capacity source lines answers rest x)
    (free : x.runner.foreground.isFree = true)
    (pending : x.runner.foreground.pending = some request) :
    (x.runner.begin (.submit (answers.headD ""))).Underway interpreter capacity 1 answers.tail
      rest := by
  have move : Runner.Move interpreter x.runner _ _ := .call (.submit (answers.headD "")) free
  have hdeeds : (x.runner.begin (.submit (answers.headD ""))).foreground.deeds = [] := by
    simp [Runner.begin, Foreground.begin, pending, Foreground.deeds, Foreground.reply?]
  rw [hdeeds, pending] at move
  have gives : Deed.Gives answers [.called (some request) (.submit (answers.headD ""))] :=
    (Deed.gives_append.mp (Deed.gives_submit request)).1
  obtain ⟨rest', rfl, hunderway⟩ := going.underway.move sturdy move
    (by simp [Deed.Calls, Call.isAttending, Deed.Honest]) gives
  rw [← List.drop_one]
  exact hunderway

/-- After a reaction that lets a request wait, or none is pending, the loop receives again. -/
theorem Going.receive (going : Going interpreter capacity source lines answers rest x)
    (free : x.runner.foreground.isFree = true) {frontend : Frontend} {shown : List Shown}
    (fed : frontend.Fed x.arriving answers)
    (asked : x.runner.foreground.pending ≠ none →
      frontend.queued = [] ∧ frontend.inputClosed = false)
    (unended : ∀ remark, x.remark? = some remark → remark.isTerminal = false)
    (tally : Tally lines x.runner.foreground.pending x.submitted (x.shown ++ shown))
    (hshown : x.upcoming answers rest =
      shown ++ outstanding x.runner.foreground.pending answers rest) :
    Going interpreter capacity source lines answers rest
      { x with
        runner := x.runner.begin .receive
        frontend
        shown := x.shown ++ shown } := by
  refine ⟨going.going, going.underway_receive sturdy free, going.hushed.begin _,
    .of_silent rfl (by rintro _ ⟨⟩) (by simp [Runner.begin, Foreground.begin]), fed, going.left, tally,
    fun request hrequest => .inr ⟨rfl, asked ?_⟩, ?_, ?_⟩
  · rw [show x.runner.foreground.pending = _ from hrequest]
    simp
  · exact going.heard_all unended
  · rw [going.shown, hshown, List.append_assoc]
    rfl

/-- After a reaction that answers the pending request nothing waits for a line. -/
theorem Going.submit (going : Going interpreter capacity source lines answers rest x)
    (free : x.runner.foreground.isFree = true)
    (pending : x.runner.foreground.pending = some request) (answer : answers.headD "" = text)
    {frontend : Frontend} {shown : List Shown} (fed : frontend.Fed x.arriving answers.tail)
    (unended : ∀ remark, x.remark? = some remark → remark.isTerminal = false)
    (tally : Tally lines (some request) x.submitted (x.shown ++ shown))
    (hshown : x.upcoming answers rest = shown ++ [.echo text] ++ transcript answers.tail rest) :
    Going interpreter capacity source lines answers.tail rest
      { x with
        runner := x.runner.begin (.submit text)
        frontend
        shown := x.shown ++ (shown ++ [.echo text])
        submitted := x.submitted ++ x.runner.foreground.pending.toList.map (·, text) } := by
  subst answer
  have hunderway := going.underway_submit sturdy free pending
  rw [Runner.begin_submit_of_some pending] at hunderway ⊢
  rw [pending]
  refine ⟨going.going, hunderway, going.hushed, .of_silent rfl (by rintro _ ⟨⟩) (by simp), fed,
    ?_, ?_, by rintro _ ⟨⟩,
    going.heard_all unended, ?_⟩
  · show answers.tail = lines.drop (x.submitted ++ [_]).length
    rw [List.length_append, List.length_singleton, ← List.drop_drop, ← going.left, List.drop_one]
  · rw [← List.append_assoc]
    exact tally.answer (going.left ▸ rfl)
  · show _ = x.shown ++ (shown ++ [_]) ++ transcript answers.tail rest
    rw [going.shown, hshown]
    simp only [List.append_assoc]

/-- The reaction to what the reader says: it answers the request that waits for it, or it waits for a
request. -/
theorem Going.carryOut_typed (going : Going interpreter capacity source lines answers rest x)
    (free : x.runner.foreground.isFree = true)
    (received : x.runner.foreground.received? = some message)
    (plain : ∀ event, message ≠ .event event) :
    Turned interpreter capacity source lines answers rest x
      (x.carryOut (x.frontend.react x.runner.foreground.pending.isSome message)) := by
  have hremark : x.remark? = none := by
    rw [remark?, received]
    exact Message.remark?_of_plain plain
  have unended : ∀ remark, x.remark? = some remark → remark.isTerminal = false := by simp [hremark]
  have fed := going.fed
  rw [x.typed_eq, received, Option.toList_some,
    List.filter_cons_of_pos (Message.isTyped_iff.mpr plain)] at fed
  replace fed : x.frontend.Fed (message :: x.arriving) answers := fed
  cases hpending : x.runner.foreground.pending with
  | none =>
      obtain ⟨frontend, hreact, hfed⟩ := fed.react_unasked
      rw [Option.isSome_none, hreact]
      refine .receiving (going.receive sturdy free hfed (absurd hpending) unended
        (going.tally_silent hremark) ?_) rfl
      rw [upcoming, hremark]
      rfl
  | some request =>
      obtain ⟨_, hqueued⟩ := going.waiting received plain hpending
      obtain ⟨frontend, hreact, hfed⟩ := fed.react_asked hqueued
      have htally := going.tally_silent hremark
      rw [hpending] at htally
      rw [Option.isSome_some, hreact]
      refine .answering (going.submit sturdy free hpending rfl hfed unended htally ?_) rfl ?_
      · rw [upcoming, hremark, hpending]
        rfl
      · rw [hpending]
        rfl

/-- The reaction to a request: it gets the line that has waited the longest, or an empty answer if
the lines are over, or it waits. -/
theorem Going.carryOut_requested (going : Going interpreter capacity source lines answers rest x)
    (free : x.runner.foreground.isFree = true)
    (received : x.runner.foreground.received? = some (.event (.requested request))) :
    Turned interpreter capacity source lines answers rest x (x.carryOut (x.frontend.react
      x.runner.foreground.pending.isSome (.event (.requested request)))) := by
  have hremark : x.remark? = some (.prompt request.prompt) := going.remark?_of_event received
  have unended : ∀ remark, x.remark? = some remark → remark.isTerminal = false := by
    rw [hremark]
    rintro _ ⟨⟩
    rfl
  have hpending := going.orderly.requested request received
  have fed := going.fed
  rw [x.typed_eq, received] at fed
  replace fed : x.frontend.Fed x.arriving answers := fed
  have htally := (going.tally_told hremark).ask request
  have hshown : x.upcoming answers rest =
      [.prompt request.prompt] ++ [.echo (answers.headD "")] ++ transcript answers.tail rest := by
    rw [upcoming, hremark]
    rfl
  have hsome : x.runner.foreground.pending.isSome = true := by rw [hpending]; rfl
  cases hqueued : x.frontend.queued with
  | cons answer queued =>
      obtain ⟨hanswer, hfed⟩ := fed.dequeue hqueued
      rw [hanswer] at hshown
      rw [show x.frontend.react _ _ = _ from Frontend.react_requested_cons hqueued]
      exact .answering (going.submit sturdy free hpending hanswer hfed unended htally hshown) rfl
        hsome
  | nil =>
      cases hclosed : x.frontend.inputClosed with
      | true =>
          obtain ⟨hanswer, hfed⟩ := fed.usedUp hqueued hclosed
          rw [hanswer] at hshown
          rw [show x.frontend.react _ _ = _ from Frontend.react_requested_closed hqueued hclosed]
          exact .answering (going.submit sturdy free hpending hanswer hfed unended htally hshown) rfl
            hsome
      | false =>
          rw [show x.frontend.react _ _ = _ from Frontend.react_requested_open hqueued hclosed]
          refine .receiving (going.receive sturdy free fed (fun _ => ⟨hqueued, hclosed⟩) unended
            (hpending.symm ▸ htally) ?_) rfl
          rw [hshown, hpending]
          rfl

/-- The reaction to what says nothing of the run. -/
theorem Going.carryOut_ready (going : Going interpreter capacity source lines answers rest x)
    (free : x.runner.foreground.isFree = true)
    (received : x.runner.foreground.received? = some (.event .ready)) :
    Turned interpreter capacity source lines answers rest x
      (x.carryOut (x.frontend.react x.runner.foreground.pending.isSome (.event .ready))) := by
  have hremark : x.remark? = none := going.remark?_of_event received
  have fed := going.fed
  rw [x.typed_eq, received] at fed
  refine .receiving (going.receive sturdy free fed (fun hpending => ?_) (by simp [hremark])
    (going.tally_silent hremark) ?_) rfl
  · obtain ⟨request, hpending⟩ := Option.ne_none_iff_exists'.mp hpending
    rcases going.asked request hpending with hrequest | ⟨_, hasked⟩
    · cases received.symm.trans hrequest
    · exact hasked
  · rw [upcoming, hremark]
    rfl

/-- The reaction to an output: it is shown. -/
theorem Going.carryOut_produced (going : Going interpreter capacity source lines answers rest x)
    (free : x.runner.foreground.isFree = true) {run : Nat}
    (received : x.runner.foreground.received? = some (.event (.produced run text))) :
    Turned interpreter capacity source lines answers rest x (x.carryOut (x.frontend.react
      x.runner.foreground.pending.isSome (.event (.produced run text)))) := by
  have hremark : x.remark? = some (.output text) := going.remark?_of_event received
  have hpending := going.pending_eq_none received (by simp [Event.remark?]) (by simp)
  have fed := going.fed
  rw [x.typed_eq, received] at fed
  refine .receiving (going.receive sturdy free fed (absurd hpending) ?_ ?_ ?_) rfl
  · rw [hremark]
    rintro _ ⟨⟩
    rfl
  · rw [hpending]
    exact (going.tally_told hremark).display rfl rfl
  · rw [upcoming, hremark, hpending]
    rfl

omit sturdy in
/-- The reaction to the end of the run: it is shown, and the session is over. -/
theorem Going.carryOut_terminal (going : Going interpreter capacity source lines answers rest x)
    {event : Event} {last : Remark} {success : Bool}
    (received : x.runner.foreground.received? = some (.event event))
    (told : event.remark? = some last) (ending : last.success? = some success)
    {shown : Shown} (hshown : transcript answers [last] = [shown]) (prompt : shown.prompt? = none)
    (echo : shown.echo? = none) :
    Ended interpreter capacity source lines
      (x.carryOut ⟨x.frontend, [shown], none, some success⟩) := by
  have hremark : x.remark? = some last := (going.remark?_of_event received).trans told
  obtain ⟨heard, _, hremarks⟩ := going.heard
  rw [hremark, Option.toList_some, List.singleton_append] at hremarks
  have hlast : last ∈ (interpreter source).remarks capacity lines := by simp [hremarks]
  obtain rfl : rest = [] := by
    have hpairwise := (interpreter source).pairwise_remarks capacity lines
    rw [hremarks, List.pairwise_append, List.pairwise_cons] at hpairwise
    refine List.eq_nil_iff_forall_not_mem.mpr fun remark hmem => ?_
    cases (hpairwise.2.1.1 remark hmem).symm.trans (Remark.isTerminal_of_success? ending)
  refine ⟨?_, ⟨last, hlast, success, ending, rfl⟩, ?_,
    (going.tally_told hremark).display prompt echo⟩
  · intro hreply
    replace hreply : x.runner.foreground.reply? = none := hreply
    simp [Foreground.received?, hreply] at received
  · rw [going.shown, upcoming, hremark]
    exact congrArg (x.shown ++ ·) hshown.symm

/-- A turn of the loop shows the next part of the transcript. -/
theorem Going.turn (going : Going interpreter capacity source lines answers rest x)
    (free : x.runner.foreground.isFree = true) :
    Turned interpreter capacity source lines answers rest x x.turn := by
  have hagain (silent : x.runner.foreground.received? = none) :
      Turned interpreter capacity source lines answers rest x
        { x with runner := x.runner.begin .receive } := by
    refine .receiving (going.quiet (going.underway_receive sturdy free) (going.hushed.begin _)
      (.of_silent rfl (by rintro _ ⟨⟩) (by simp [Runner.begin, Foreground.begin])) ?_ ?_ rfl ?_) rfl
    · rw [silent]
      rfl
    · simp [silent]
    · rw [typed_eq, typed_eq, silent]
      rfl
  cases hreply : x.runner.foreground.reply? with
  | none =>
      rw [Session.turn, hreply]
      exact hagain (by simp [Foreground.received?, hreply])
  | some reply =>
      rw [Session.turn, hreply]
      cases reply with
      | started | answered | nothing | done =>
          exact hagain (by simp [Foreground.received?, hreply])
      | failed error => exact (going.orderly.unfailed error hreply).elim
      | received message =>
          have received : x.runner.foreground.received? = some message := by
            simp [Foreground.received?, hreply]
          cases message with
          | line | closed => exact going.carryOut_typed sturdy free received (by simp)
          | event event =>
              cases event with
              | ready => exact going.carryOut_ready sturdy free received
              | requested request => exact going.carryOut_requested sturdy free received
              | produced run text => exact going.carryOut_produced sturdy free received
              | finished run summary =>
                  exact .ended (going.carryOut_terminal received rfl rfl rfl rfl rfl)
              | failed run message =>
                  exact .ended (going.carryOut_terminal received rfl rfl rfl rfl rfl)

end

end Session

end Pseudocode
