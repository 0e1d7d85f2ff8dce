import Mathlib.Logic.Relation
import Pseudocode.Proofs.Runner.Filtering
import Pseudocode.Proofs.Runner.Hushed
import Pseudocode.Proofs.Runner.Refinement

/-!
Sessions: a program runs while a reader sends the lines that a user types, and a loop receives what
the two have to say. Who comes first is a matter of chance, but what is shown and what is still to
be shown are together always the transcript of the program with the lines as its answers.
-/

namespace Pseudocode

structure Session where
  runner : Runner
  frontend : Frontend
  /-- Messages that the reader has still to send. -/
  unread : List Message
  /-- What the user was shown, the oldest first. -/
  shown : List Shown
  /-- The answers that were given to pending requests, the oldest first. -/
  submitted : List (Request × String)
  /-- How the loop ended. -/
  outcome? : Option (Except RunnerError Bool)

namespace Session

/-- The start of a program is called, and the reader is about to read lines. -/
def start (s : Runner) (source : String) (lines : List String) : Session :=
  ⟨s.begin (.start source), .start, lines.map .line ++ [.closed], [], [], none⟩

/-- Carries out a reaction; if it neither answers nor ends anything, the loop receives again. -/
def carryOut (x : Session) (reaction : Reaction) : Session :=
  let x := { x with frontend := reaction.frontend, shown := x.shown ++ reaction.shown }
  match reaction.answer?, reaction.success? with
  | some answer, _ =>
    { x with
      runner := x.runner.begin (.submit answer)
      submitted := x.submitted ++ x.runner.foreground.pending.toList.map (·, answer) }
  | none, some success => { x with outcome? := some (.ok success) }
  | none, none => { x with runner := x.runner.begin .receive }

/-- What the loop does when a call has returned. -/
def turn (x : Session) : Session :=
  match x.runner.foreground.reply? with
  | some (.received message) =>
    x.carryOut (x.frontend.react x.runner.foreground.pending.isSome message)
  | some (.failed error) => { x with outcome? := some (.error error) }
  | _ => { x with runner := x.runner.begin .receive }

/-- One step of a session: the reader sends its next message, one of the two sides of the runner
moves, the worker wakes for no reason, or the loop goes on after a call. -/
inductive Step (interpreter : Interpreter) : Session → Session → Prop
  | read {x : Session} {message : Message} {messages : List Message}
    (first : x.unread = message :: messages) :
    Step interpreter x { x with runner := x.runner.post message, unread := messages }
  | worker {x : Session} {t : Runner} (h : x.runner.workerStep? interpreter = some t) :
    Step interpreter x { x with runner := t }
  | foreground {x : Session} {t : Runner} (h : x.runner.foregroundStep? = some t) :
    Step interpreter x { x with runner := t }
  | spurious (x : Session) :
    Step interpreter x { x with runner := { x.runner with worker := x.runner.worker.woken } }
  | turn {x : Session} (going : x.outcome? = none) (free : x.runner.foreground.isFree = true) :
    Step interpreter x x.turn

end Session

/-- The message that a call has just returned. -/
def Foreground.received? (c : Foreground) : Option Message :=
  match c.reply? with
  | some (.received message) => some message
  | _ => none

/-- Whether the foreground returns only what the loop expects: no failure, and events of the given
run and of none. -/
structure Foreground.Orderly (run : Nat) (c : Foreground) : Prop where
  unfailed : ∀ error, c.reply? ≠ some (.failed error)
  named : ∀ event, c.received? = some (.event event) →
    Message.remark? run (.event event) = event.remark?
  requested : ∀ request, c.received? = some (.event (.requested request)) →
    c.pending = some request
  /-- No request is pending when a run starts. -/
  starting : ∀ errand, c.activity = .resetting errand ∨ c.activity = .waking errand →
    c.pending = none

/-- A foreground in which no call has returned a message or failed. -/
theorem Foreground.Orderly.of_silent {run : Nat} {c : Foreground} (silent : c.received? = none)
    (unfailed : ∀ error, c.reply? ≠ some (.failed error))
    (starting : ∀ errand, c.activity = .resetting errand ∨ c.activity = .waking errand →
      c.pending = none) : c.Orderly run := by
  refine ⟨unfailed, fun event hreceived => ?_, fun request hreceived => ?_, starting⟩
  · cases silent.symm.trans hreceived
  · cases silent.symm.trans hreceived

/-- A foreground in which a call has just returned a message. -/
theorem Foreground.Orderly.of_received {run : Nat} {c : Foreground} {message : Message}
    (returned : c.activity = .returned (.received message))
    (named : ∀ event, message = .event event → Message.remark? run message = event.remark?)
    (requested : ∀ request, message = .event (.requested request) → c.pending = some request) :
    c.Orderly run := by
  have hreply : c.reply? = some (.received message) := by simp [reply?, returned]
  have hreceived : c.received? = some message := by simp [received?, hreply]
  refine ⟨by simp [hreply], fun event h => ?_, fun request h => ?_, by simp [returned]⟩
  · obtain rfl := Option.some.inj (hreceived.symm.trans h)
    exact named event rfl
  · exact requested request (Option.some.inj (hreceived.symm.trans h))

namespace Session

/-- The messages of the reader that the loop has still to react to. -/
def typed (x : Session) : List Message :=
  (x.runner.foreground.received?.toList ++ x.runner.shared.inbox).filter Message.isTyped ++ x.unread

/-- What was said of the current run in the message that a call has just returned. -/
def remark? (x : Session) : Option Remark :=
  x.runner.foreground.received?.bind (Message.remark? x.runner.shared.generation)

/-- What is still to be shown when the loop has reacted to all that it has received: the answer to
the request that waits for one, if there is one, and what comes after it. -/
def outstanding (pending : Option Request) (answers : List String) (rest : List Remark) :
    List Shown :=
  match pending with
  | some _ => .echo (answers.headD "") :: transcript answers.tail rest
  | none => transcript answers rest

/-- What is still to be shown. -/
def upcoming (x : Session) (answers : List String) (rest : List Remark) : List Shown :=
  match x.remark? with
  | some remark => transcript answers (remark :: rest)
  | none => outstanding x.runner.foreground.pending answers rest

/-- The request that waits for a line. -/
def waiting? (x : Session) : Option Request :=
  match x.remark? with
  | some _ => none
  | none => x.runner.foreground.pending

/-- The session of a run of which `rest` is still to be heard. -/
structure Going (interpreter : Interpreter) (capacity : Nat) (source : String)
    (lines answers : List String) (rest : List Remark) (x : Session) : Prop where
  going : x.outcome? = none
  underway : x.runner.Underway interpreter capacity 1 answers rest
  hushed : x.runner.Hushed
  orderly : x.runner.foreground.Orderly 1
  fed : x.frontend.Fed x.typed answers
  left : answers = lines.drop x.submitted.length
  tally : Tally lines x.waiting? x.submitted x.shown
  /-- A request that the loop has reacted to waits only for a line that is still to come. -/
  asked : ∀ request, x.runner.foreground.pending = some request →
    x.runner.foreground.received? = some (.event (.requested request)) ∨
      (x.remark? = none ∧ x.frontend.queued = [] ∧ x.frontend.inputClosed = false)
  /-- The loop has not reacted to the end of the run. -/
  heard : ∃ heard : List Remark, (∀ remark ∈ heard, remark.isTerminal = false) ∧
    (interpreter source).remarks capacity lines = heard ++ (x.remark?.toList ++ rest)
  shown : transcript lines ((interpreter source).remarks capacity lines) =
    x.shown ++ x.upcoming answers rest

variable {interpreter : Interpreter} {capacity : Nat} {source : String}
  {lines answers : List String} {rest : List Remark} {x : Session} {t : Runner}

theorem remarks_foreground_deeds (run : Nat) (c : Foreground) :
    Deed.remarks run c.deeds = (c.received?.bind (Message.remark? run)).toList := by
  obtain ⟨activity, active, ready, pending⟩ := c
  cases activity with
  | returned reply =>
      cases reply with
      | received message => exact Deed.remarks_received run message
      | _ => rfl
  | _ => rfl

/-- A step that tells the loop of nothing that is said of the run keeps the session going. -/
theorem Going.quiet (going : Going interpreter capacity source lines answers rest x)
    (underway : t.Underway interpreter capacity 1 answers rest) (hushed : t.Hushed)
    (orderly : t.foreground.Orderly 1)
    (remark : t.foreground.received?.bind (Message.remark? 1) =
      x.runner.foreground.received?.bind (Message.remark? 1))
    (requested : ∀ request, x.runner.foreground.received? = some (.event (.requested request)) →
      t.foreground.received? = some (.event (.requested request)))
    (pending : t.foreground.pending = x.runner.foreground.pending) {unread : List Message}
    (typed : ({ x with runner := t, unread } : Session).typed = x.typed) :
    Going interpreter capacity source lines answers rest { x with runner := t, unread } := by
  have hremark : ({ x with runner := t, unread } : Session).remark? = x.remark? := by
    simp [remark?, remark, underway.current, going.underway.current]
  refine ⟨going.going, underway, hushed, orderly, typed ▸ going.fed, going.left, ?_,
    fun request hrequest => ?_, ?_, ?_⟩
  · have hwaiting : ({ x with runner := t, unread } : Session).waiting? = x.waiting? := by
      simp [waiting?, hremark, pending]
    rw [hwaiting]
    exact going.tally
  · rw [show Foreground.pending _ = _ from pending] at hrequest
    rw [hremark]
    exact (going.asked request hrequest).imp_left (requested request)
  · rw [hremark]
    exact going.heard
  · have hupcoming : ({ x with runner := t, unread } : Session).upcoming answers rest =
        x.upcoming answers rest := by
      simp [upcoming, hremark, pending]
    rw [hupcoming]
    exact going.shown

/-- What is said of the run is what the loop reacts to next. -/
theorem Going.tell {remark : Remark}
    (going : Going interpreter capacity source lines answers (remark :: rest) x)
    (underway : t.Underway interpreter capacity 1 answers rest) (hushed : t.Hushed)
    (orderly : t.foreground.Orderly 1) {event : Event}
    (silent : x.runner.foreground.received? = none)
    (unasked : x.runner.foreground.pending = none)
    (received : t.foreground.received? = some (.event event))
    (told : Message.remark? 1 (.event event) = some remark)
    (pending : ∀ request, t.foreground.pending = some request → event = .requested request)
    (typed : ({ x with runner := t } : Session).typed = x.typed) :
    Going interpreter capacity source lines answers rest { x with runner := t } := by
  have hremark : x.remark? = none := by simp [remark?, silent]
  have hremark' : ({ x with runner := t } : Session).remark? = some remark := by
    simp [remark?, received, underway.current, told]
  refine ⟨going.going, underway, hushed, orderly, typed ▸ going.fed, going.left, ?_,
    fun request hrequest => ?_, ?_, ?_⟩
  · have htally := going.tally
    rw [waiting?, hremark, unasked] at htally
    rw [waiting?, hremark']
    exact htally
  · rw [pending request hrequest] at received
    exact .inl received
  · have hheard := going.heard
    rw [hremark] at hheard
    rw [hremark']
    exact hheard
  · have hshown := going.shown
    simp only [upcoming, hremark, unasked] at hshown
    simp only [upcoming, hremark']
    exact hshown

section

variable (sturdy : ∀ source, (interpreter source).Ends (fun _ => True) (· ≠ .crashed))

include sturdy

theorem Going.worker (going : Going interpreter capacity source lines answers rest x)
    (h : x.runner.workerStep? interpreter = some t) :
    Going interpreter capacity source lines answers rest { x with runner := t } := by
  have haside := Runner.isAside_worker_deeds x.runner.worker
  have hnone : Deed.submissions x.runner.worker.deeds = [] := Deed.submissions_worker _
  obtain ⟨rest', hrest, hunderway⟩ := going.underway.move sturdy (.worker h)
    (fun deed hdeed => ⟨(haside deed hdeed).1.obliges.calls, (haside deed hdeed).2.honest⟩)
    (Deed.gives_of_submissions_eq_nil hnone)
  rw [Deed.remarks_of_isAside 1 fun deed hdeed => (haside deed hdeed).1, List.nil_append] at hrest
  rw [hnone] at hunderway
  subst hrest
  have hsound := going.underway.sound
  obtain ⟨shared, worker, turn, rfl⟩ := hsound.turn_of_workerStep? h
  refine going.quiet hunderway (going.hushed.turn hsound turn) going.orderly rfl (fun _ => id) rfl
    ?_
  simp only [Session.typed, List.filter_append, turn.typed]

theorem Going.spurious (going : Going interpreter capacity source lines answers rest x) :
    Going interpreter capacity source lines answers rest
      { x with runner := { x.runner with worker := x.runner.worker.woken } } := by
  obtain ⟨rest', rfl, hunderway⟩ := going.underway.move sturdy (.spurious x.runner)
    (by simp [Deed.Calls, Deed.Honest]) (Deed.gives_of_submissions_eq_nil rfl)
  exact going.quiet hunderway going.hushed.woken going.orderly rfl (fun _ => id) rfl rfl

/-- A message that the reader sends is one that is still to come. -/
theorem Going.read (going : Going interpreter capacity source lines answers rest x)
    {message : Message} {messages : List Message} (first : x.unread = message :: messages) :
    Going interpreter capacity source lines answers rest
      { x with runner := x.runner.post message, unread := messages } := by
  have hplain : ∀ event, message ≠ .event event :=
    going.fed.plain (List.mem_append_right _ (first ▸ List.mem_cons_self))
  have hhonest : (Deed.posted message).Honest := Deed.honest_posted.mpr hplain
  obtain ⟨rest', rfl, hunderway⟩ := going.underway.move sturdy (.post x.runner message)
    (by simp [Deed.Calls, hhonest]) (Deed.gives_of_submissions_eq_nil rfl)
  refine going.quiet hunderway (going.hushed.post hplain) going.orderly rfl (fun _ => id) rfl ?_
  have htyped : message.isTyped = true := Message.isTyped_iff.mpr hplain
  simp [Session.typed, Runner.post, Shared.post, first, htyped]

theorem Going.foreground (going : Going interpreter capacity source lines answers rest x)
    (h : x.runner.foregroundStep? = some t) :
    ∃ rest', rest = Deed.remarks 1 t.foreground.deeds ++ rest' ∧
      Going interpreter capacity source lines answers rest' { x with runner := t } := by
  have hnone : Deed.submissions t.foreground.deeds = [] := Deed.submissions_foreground _
  obtain ⟨rest', hrest, hunderway⟩ := going.underway.move sturdy (.foreground h)
    (by simp [Foreground.deeds, Deed.Calls, Deed.Honest]) (Deed.gives_of_submissions_eq_nil hnone)
  refine ⟨rest', hrest, ?_⟩
  rw [hnone] at hunderway
  rw [remarks_foreground_deeds] at hrest
  have sound := going.underway.sound
  have agreed := going.underway.agreed
  have act := Runner.act_of_foregroundStep? sound.shared.channel h
  have hushed := going.hushed.act sound act
  have hattending := going.underway.prospect.attending
  have there := going.underway.there
  obtain ⟨s, f, unread, shown, submitted, outcome?⟩ := x
  cases act with
  | supersede | depart | shutDown | shutDownInVain | join | wakeToRelease | wakeToShutDown
  | orderRelease => cases hattending
  | orderInVain s w c gone | probeInVain s w c gone => cases gone.symm.trans there
  | reset s w c =>
      subst hrest
      have unasked : c.pending = none := going.orderly.starting _ (.inl rfl)
      exact going.quiet hunderway hushed (.of_silent rfl (by rintro _ ⟨⟩) fun _ _ => unasked) rfl
        (fun _ => id) rfl rfl
  | order | look | lookInVain | write | announce | announceInVain | wakeToRead
  | answered | takeNothing | retry | giveUp =>
      subst hrest
      exact going.quiet hunderway hushed (.of_silent rfl (by rintro _ ⟨⟩) (by simp)) rfl
        (fun _ => id) rfl rfl
  | wakeToStart s w c =>
      subst hrest
      have unasked : c.pending = none := going.orderly.starting _ (.inr rfl)
      exact going.quiet hunderway hushed (.of_silent rfl (by rintro _ ⟨⟩) (by simp)) rfl
        (fun _ => id) unasked.symm rfl
  | drop s w c first =>
      subst hrest
      refine going.quiet hunderway hushed (.of_silent rfl (by rintro _ ⟨⟩) (by simp)) rfl
        (fun _ => id) rfl ?_
      simp [Session.typed, Foreground.received?, Foreground.reply?, show s.inbox = _ from first,
        Message.isTyped]
  | hear s w c first admitted =>
      rename_i patient event inbox
      have hcurrent : s.generation = 1 := going.underway.current
      have htyped : Session.typed ⟨⟨{ s with inbox }, w, { c.observe event with
            activity := .returned (.received (.event event)) }⟩, f, unread, shown, submitted, outcome?⟩ =
          Session.typed ⟨⟨s, w, { c with activity := .taking patient }⟩, f, unread, shown,
            submitted, outcome?⟩ := by
        simp [Session.typed, Foreground.received?, Foreground.reply?, show s.inbox = _ from first,
        Message.isTyped]
      cases htold : Message.remark? 1 (.event event) with
      | none =>
          obtain rfl : event = .ready := agreed.ready_of_remark? rfl admitted (hcurrent ▸ htold)
          subst hrest
          exact going.quiet hunderway hushed
            (.of_received rfl (by rintro _ ⟨⟩; rfl) (by rintro _ ⟨⟩)) rfl (by rintro _ ⟨⟩) rfl htyped
      | some remark =>
          have unasked : c.pending = none :=
            going.hushed.pending_eq_none agreed rfl first (hcurrent ▸ htold)
          replace hrest : rest = (Message.remark? 1 (.event event)).toList ++ rest' := hrest
          rw [htold] at hrest
          subst hrest
          refine going.tell hunderway hushed (.of_received rfl ?_ ?_) rfl unasked rfl htold ?_ htyped
          · rintro _ ⟨⟩
            obtain ⟨_, heq, _, hevent⟩ := Message.remark?_eq_some htold
            cases heq
            rw [htold, hevent]
          · rintro request ⟨⟩
            rfl
          · intro request hrequest
            cases event <;> simp_all [Foreground.observe]
  | readLine s w c first plain =>
      rename_i message _
      have hsilent : Message.remark? 1 message = none := Message.remark?_of_plain plain
      replace hrest : rest = (Message.remark? 1 message).toList ++ rest' := hrest
      rw [hsilent] at hrest
      subst hrest
      have htyped : message.isTyped = true := Message.isTyped_iff.mpr plain
      refine going.quiet hunderway hushed (.of_received rfl ?_ ?_) hsilent (by rintro _ ⟨⟩) rfl ?_
      · exact fun event hevent => (plain event hevent).elim
      · exact fun request hevent => (plain _ hevent).elim
      · simp [Session.typed, Foreground.received?, Foreground.reply?, show s.inbox = _ from first,
          htyped]

end

end Session

end Pseudocode
