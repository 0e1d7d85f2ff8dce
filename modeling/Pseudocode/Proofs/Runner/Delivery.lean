import Mathlib.Data.List.Nodup
import Pseudocode.Proofs.Runner.Agreement

/-!
What becomes of an answer: it is handed to the program that made the request which was pending when
the answer was given, to no other and only once, and as the channel's capacity lets it be read. A
request of a run that was superseded may get the empty text instead.

`Recorded` ties the history of a runner to where the runner stands.
-/

namespace Pseudocode

namespace Asking

/-- Whether the answer to a request, if there is one, is still to be found in the channel. -/
def isExpecting : Asking → Bool
  | watching | dozing | asleep | inspecting => true
  | _ => false

/-- The answer to a request, once the request has found that there is one. -/
def taken? (text : String) : Asking → Option String
  | reading => some text
  | erasing answer | consuming answer => some answer
  | _ => none

/-- The text that a request is going to return if it goes on alone, once it is not to wait. -/
def outcome? (c : Channel) : Asking → Option String
  | watching | dozing | inspecting => some (if c.state = .ready then c.readText else "")
  | reading => some c.readText
  | erasing answer | consuming answer | returned answer => some answer
  | _ => none

theorem outcome?_woken {stage : Asking} {c : Channel} {text : String}
    (outcome : stage.outcome? c = some text) : stage.woken.outcome? c = some text := by
  cases stage with
  | asleep => cases outcome
  | _ => exact outcome

/-- A request that waited when its answer was announced is going to return it. -/
theorem outcome?_ready {stage : Asking} {c : Channel} (sent : stage.hasSent = true)
    (fits : stage.Fits .waiting) (ready : c.state = .ready) :
    stage.woken.outcome? c = some c.readText := by
  cases stage with
  | watching | dozing | asleep => exact congrArg some (if_pos ready)
  | inspecting | reading | erasing | consuming => exact (fits rfl).elim
  | _ => cases sent

/-- How many steps a request has left, once it is not to wait. -/
def stepsLeft : Asking → Nat
  | dozing => 6
  | watching => 5
  | inspecting => 4
  | reading => 3
  | erasing _ => 2
  | consuming _ => 1
  | _ => 0

/-- A request that is not to wait goes on to its end. -/
theorem Turn.outcome {request : Request} {s s' : Shared} {stage stage' : Asking} {text : String}
    (turn : Turn request s stage s' stage') (outcome : stage.outcome? s.channel = some text)
    (past : s.channel.state ≠ .waiting) :
    stage'.outcome? s'.channel = some text ∧ s'.channel.state ≠ .waiting ∧
      stage'.stepsLeft < stage.stepsLeft := by
  cases turn with
  | claim | pass | fail | send | withdraw | giveUp => cases outcome
  | watch waiting | sleep waiting => exact (past waiting).elim
  | notice | startle => exact ⟨outcome, past, by decide⟩
  | find ready =>
      refine ⟨?_, past, by decide⟩
      rw [outcome?, if_pos ready] at outcome
      exact outcome
  | findNothing idle =>
      refine ⟨?_, past, by decide⟩
      rw [outcome?, if_neg (by simp [idle])] at outcome
      exact outcome
  | read => exact ⟨outcome, past, by simp [stepsLeft]⟩
  | erase => exact ⟨outcome, by simpa using past, by simp [stepsLeft]⟩
  | consume => exact ⟨outcome, by simp, by simp [stepsLeft]⟩
  | consumeInVain => exact ⟨outcome, past, by simp [stepsLeft]⟩

end Asking

namespace Worker

/-- The request in which the program is. -/
def request? (w : Worker) : Option Request :=
  match w.phase with
  | .asking request _ _ => some request
  | _ => none

/-- The request in which the program is, if the foreground was not told of it yet. -/
def unsent? (w : Worker) : Option Request :=
  match w.phase with
  | .asking request stage _ => if stage.isUnsent then some request else none
  | _ => none

end Worker

/-- How many steps a call has left that is an answer which succeeds. -/
def Activity.answerSteps? : Activity → Option Nat
  | answering _ _ .looking => some 4
  | answering _ _ .writing => some 3
  | answering _ _ .announcing => some 2
  | answering _ _ .waking => some 1
  | returned (.answered true) => some 0
  | _ => none

/-- Whether a text is what can be read of an answer to a request. -/
def Submitted (capacity : Nat) (h : List Deed) (request : Request) (text : String) : Prop :=
  ∃ answer, (request, answer) ∈ Deed.submissions h ∧ text = Channel.readBack capacity answer

/-- Whether a request may get a text when the current run has a given number. -/
def Deserved (capacity : Nat) (h : List Deed) (generation : Nat) (request : Request)
    (text : String) : Prop :=
  Submitted capacity h request text ∨ (text = "" ∧ request.run < generation)

section

variable {capacity generation : Nat} {h h' : List Deed} {request : Request}
  {text : String}

theorem Submitted.append (submitted : Submitted capacity h request text) :
    Submitted capacity (h ++ h') request text := by
  obtain ⟨answer, hanswer, htext⟩ := submitted
  exact ⟨answer, by simp [hanswer], htext⟩

theorem Deserved.append (deserved : Deserved capacity h generation request text) :
    Deserved capacity (h ++ h') generation request text :=
  deserved.imp_left Submitted.append

theorem Deserved.later (deserved : Deserved capacity h generation request text) :
    Deserved capacity h (generation + 1) request text :=
  deserved.imp_right (And.imp_right Nat.lt_succ_of_lt)

end

namespace Runner

structure Recorded (capacity : Nat) (h : List Deed) (s : Runner) : Prop where
  /-- All requests but the open one have returned. -/
  asked : Deed.requests h = (Deed.returns h).map Prod.fst ++ s.worker.request?.toList
  numbered : (Deed.requests h).Pairwise fun a b => a.id < b.id
  last : ∀ request ∈ Deed.requests h, request.id ≤ s.worker.lastRequest?.getD 0
  /-- A request is sent, received and answered once at most, and in this order. -/
  offered : ((Deed.submissions h).map Prod.fst ++ (s.foreground.pending.toList ++
    (s.shared.inbox.filterMap Message.request? ++ s.worker.unsent?.toList))).Sublist
      (Deed.requests h)
  answering : ∀ request text stage, s.foreground.activity = .answering request text stage →
    (request, text) ∈ Deed.submissions h
  ready : s.shared.channel.state = .ready → ∃ request stage next,
    s.worker.phase = .asking request stage next ∧ stage.hasSent = true ∧
      (stage.isExpecting = true → Submitted capacity h request s.shared.channel.readText)
  taken : ∀ request stage next text, s.worker.phase = .asking request stage next →
    stage.taken? s.shared.channel.readText = some text → Submitted capacity h request text
  returned : ∀ request text next, s.worker.phase = .asking request (.returned text) next →
    Deserved capacity h s.shared.generation request text
  handed : ∀ request text, (request, text) ∈ Deed.returns h →
    Deserved capacity h s.shared.generation request text

variable {interpreter : Interpreter} {capacity : Nat} {s t : Runner} {h deeds : List Deed}
  {shared : Shared} {worker : Worker} {request : Request} {text : String}

/-! ### Steps of the worker -/

/-- A worker that is in no request before and after a step has nothing to do with the record. -/
theorem Recorded.quiet (recorded : Recorded capacity h s) (hnone : s.worker.request? = none)
    (hnone' : worker.request? = none)
    (hlast : worker.lastRequest?.getD 0 = s.worker.lastRequest?.getD 0)
    (hrequests : shared.inbox.filterMap Message.request? =
      s.shared.inbox.filterMap Message.request?)
    (hchannel : shared.channel = s.shared.channel)
    (hgeneration : shared.generation = s.shared.generation) :
    Recorded capacity h { s with shared, worker } := by
  have hphase {request : Request} {stage : Asking} {next : String → Dialogue Ending} :
      worker.phase ≠ .asking request stage next := by
    intro h
    simp [Worker.request?, h] at hnone'
  have hunsent : worker.unsent? = none := by
    unfold Worker.unsent?
    split
    · exact (hphase ‹_›).elim
    · rfl
  have hunsent' : s.worker.unsent? = none := by
    unfold Worker.unsent?
    split
    · simp [Worker.request?, *] at hnone
    · rfl
  exact
    { asked := by simpa [hnone, hnone'] using recorded.asked
      numbered := recorded.numbered
      last := by simpa [hlast] using recorded.last
      offered := by simpa [hunsent, hunsent', hrequests] using recorded.offered
      answering := recorded.answering
      ready := fun hready => by
        obtain ⟨request, stage, next, hasking, _⟩ := recorded.ready (hchannel ▸ hready)
        simp [Worker.request?, hasking] at hnone
      taken := fun _ _ _ _ h => (hphase h).elim
      returned := fun _ _ _ h => (hphase h).elim
      handed := by simpa [hgeneration] using recorded.handed }

/-- A program makes a request with a new number. -/
theorem Recorded.ask (recorded : Recorded capacity h s) {run : Nat} {prompt : String}
    {next : String → Dialogue Ending} (phase : s.worker.phase = .running run (.ask prompt next)) :
    Recorded capacity (h ++ [.asked (s.worker.newRequest run prompt)]) { s with
      worker := { s.worker with
        phase := .asking (s.worker.newRequest run prompt) .claiming next
        lastRequest? := some (s.worker.newRequest run prompt).id } } := by
  have hnone : s.worker.request? = none := by simp [Worker.request?, phase]
  have hunsent : s.worker.unsent? = none := by simp [Worker.unsent?, phase]
  have hasked := recorded.asked
  have hoffered := recorded.offered
  rw [hnone, Option.toList_none, List.append_nil] at hasked
  rw [hunsent, Option.toList_none, List.append_nil] at hoffered
  have hnew : ∀ request ∈ Deed.requests h, request.id < (s.worker.newRequest run prompt).id :=
    fun request hrequest => Nat.lt_succ_of_le (recorded.last request hrequest)
  exact
    { asked := by simp [hasked, Worker.request?]
      numbered := by
        rw [Deed.requests_append]
        refine List.pairwise_append.mpr ⟨recorded.numbered, List.pairwise_singleton _ _, ?_⟩
        intro request hrequest new hmem
        obtain rfl := List.mem_singleton.mp hmem
        exact hnew request hrequest
      last := fun request hrequest => by
        rw [Deed.requests_append] at hrequest
        rcases List.mem_append.mp hrequest with hrequest | hrequest
        · exact Nat.le_of_lt (hnew request hrequest)
        · exact Nat.le_of_eq (congrArg Request.id (List.mem_singleton.mp hrequest))
      offered := by
        have hmore := hoffered.append (List.Sublist.refl [s.worker.newRequest run prompt])
        simpa [Worker.unsent?, Asking.isUnsent] using hmore
      answering := fun request text stage hactivity => by
        simpa using recorded.answering request text stage hactivity
      ready := fun hready => by
        obtain ⟨request, stage, next, hasking, _⟩ := recorded.ready hready
        simp [phase] at hasking
      taken := fun _ _ _ _ hphase htaken => by
        cases hphase
        cases htaken
      returned := by simp
      handed := fun request text hreturn => by
        rw [Deed.returns_append] at hreturn
        refine (recorded.handed request text ?_).append
        simpa using hreturn }

/-- A request returns a text that it may get. -/
theorem Recorded.resume (recorded : Recorded capacity h s) {request : Request} {text : String}
    {next : String → Dialogue Ending}
    (phase : s.worker.phase = .asking request (.returned text) next) :
    Recorded capacity (h ++ [.handed request text])
      { s with worker := { s.worker with phase := .running request.run (next text) } } := by
  have hrequest : s.worker.request? = some request := by simp [Worker.request?, phase]
  have hunsent : s.worker.unsent? = none := by simp [Worker.unsent?, phase, Asking.isUnsent]
  have hasked := recorded.asked
  have hoffered := recorded.offered
  rw [hrequest] at hasked
  rw [hunsent] at hoffered
  exact
    { asked := by simp [hasked, Worker.request?]
      numbered := by simpa using recorded.numbered
      last := by simpa using recorded.last
      offered := by simpa [Worker.unsent?] using hoffered
      answering := fun request text stage hactivity => by
        simpa using recorded.answering request text stage hactivity
      ready := fun hready => by
        obtain ⟨_, stage, _, hasking, sent, _⟩ := recorded.ready hready
        rw [phase] at hasking
        cases hasking
        cases sent
      taken := by simp
      returned := by simp
      handed := fun request' text' hreturn => by
        rw [Deed.returns_append] at hreturn
        rcases List.mem_append.mp hreturn with hreturn | hreturn
        · exact (recorded.handed request' text' hreturn).append
        · cases List.mem_singleton.mp hreturn
          exact (recorded.returned request text next phase).append }

theorem Agreed.fitsCurrent (agreed : s.Agreed) {stage : Asking} {next : String → Dialogue Ending}
    (phase : s.worker.phase = .asking request stage next)
    (current : request.run = s.shared.generation) : stage.FitsCurrent s.shared.channel.state := by
  have hreset : s.foreground.activity.isResetting = false := by
    refine Bool.eq_false_iff.mpr fun hreset => agreed.cleared (.inl hreset) ?_
    simp [tasks, Worker.run?, phase, current]
  have hsettled := agreed.settled hreset
  rw [Worker.Settled, phase] at hsettled
  exact hsettled.current current

/-- A request that the channel does not fit, if it were one of the current run, is one of an earlier
run. -/
theorem Agreed.run_lt (agreed : s.Agreed) (sound : Sound capacity s) {stage : Asking}
    {next : String → Dialogue Ending} (phase : s.worker.phase = .asking request stage next)
    (unfit : ¬ stage.FitsCurrent s.shared.channel.state) : request.run < s.shared.generation := by
  have hrun : s.worker.run? = some request.run := by simp [Worker.run?, phase]
  have hle : request.run ≤ s.shared.generation := sound.bounded _ (by simp [jobs, tasks, hrun])
  exact Nat.lt_of_le_of_ne hle fun current => unfit (agreed.fitsCurrent phase current)

theorem Recorded.stage (recorded : Recorded capacity h s) (sound : Sound capacity s)
    (agreed : s.Agreed) {stage stage' : Asking} {next : String → Dialogue Ending}
    (phase : s.worker.phase = .asking request stage next)
    (turn : Asking.Turn request s.shared stage shared stage') :
    Recorded capacity h
      { s with shared, worker := { s.worker with phase := .asking request stage' next } } := by
  have hrequest : s.worker.request? = some request := by simp [Worker.request?, phase]
  have hunsent : s.worker.unsent? = if stage.isUnsent then some request else none := by
    simp [Worker.unsent?, phase]
  have hready : s.shared.channel.state = .ready → stage.hasSent = true ∧
      (stage.isExpecting = true → Submitted capacity h request s.shared.channel.readText) := by
    intro hready
    obtain ⟨_, _, _, hasking, hsent⟩ := recorded.ready hready
    rw [phase] at hasking
    cases hasking
    exact hsent
  have hstale := agreed.run_lt sound phase
  have hasked := recorded.asked
  have hoffered := recorded.offered
  rw [hrequest] at hasked
  rw [hunsent] at hoffered
  refine
    { asked := by simpa [Worker.request?] using hasked
      numbered := recorded.numbered
      last := recorded.last
      offered := ?_
      answering := recorded.answering
      ready := fun hnow => ⟨request, stage', next, rfl, ?_⟩
      taken := fun request' stage'' next' text hphase htaken => ?_
      returned := fun request' text next' hphase => ?_
      handed := by simpa [turn.generation] using recorded.handed }
  · cases turn with
    | send => simpa [Worker.unsent?, Asking.isUnsent, Shared.post, Message.request?] using hoffered
    | fail =>
        refine List.Sublist.trans ?_ hoffered
        simp [Worker.unsent?, Asking.isUnsent]
    | _ => simpa [Worker.unsent?, Asking.isUnsent, Shared.resetChannel] using hoffered
  · cases turn with
    | claim | withdraw | consume => simp [Shared.resetChannel, Channel.reset] at hnow
    | pass | fail | send | giveUp => cases (hready hnow).1
    | watch | notice | sleep | startle => exact ⟨rfl, fun _ => (hready hnow).2 rfl⟩
    | find | read | erase => exact ⟨rfl, by rintro ⟨⟩⟩
    | findNothing idle | consumeInVain idle => cases idle.symm.trans hnow
  · cases hphase
    cases turn with
    | find ready =>
        cases htaken
        exact (hready ready).2 rfl
    | read =>
        cases htaken
        exact recorded.taken _ _ _ _ phase rfl
    | erase =>
        cases htaken
        exact recorded.taken _ _ _ _ phase rfl
    | _ => cases htaken
  · cases hphase
    cases turn with
    | giveUp => exact .inr ⟨rfl, hstale id⟩
    | findNothing idle =>
        refine .inr ⟨rfl, hstale fun (ready : s.shared.channel.state = .ready) => ?_⟩
        rw [idle] at ready
        cases ready
    | consume | consumeInVain => exact .inl (recorded.taken _ _ _ _ phase rfl)

theorem Recorded.turn (recorded : Recorded capacity h s) (sound : Sound capacity s)
    (agreed : s.Agreed) (turn : Worker.Turn interpreter s.shared s.worker shared worker) :
    Recorded capacity (h ++ s.worker.deeds) { s with shared, worker } := by
  obtain ⟨s, w, c⟩ := s
  cases turn with
  | prepare w queued =>
      have hlast : w.lastRequest?.getD 0 = 0 := by
        rcases sound.worker.prepared with ⟨_, hinit⟩ | ⟨_, hnone, _⟩
        · rw [queued] at hinit
          exact (hinit List.mem_cons_self).elim
        · exact congrArg (Option.getD · 0) hnone
      show Recorded capacity (h ++ []) _
      rw [List.append_nil]
      exact recorded.quiet rfl rfl hlast.symm rfl rfl rfl
  | report w =>
      rename_i event
      have hrequest : (Message.event event).request? = none := by
        have hterminal := sound.worker.telling event rfl
        cases event with
        | requested => cases hterminal
        | _ => rfl
      show Recorded capacity (h ++ []) _
      rw [List.append_nil]
      exact recorded.quiet rfl rfl rfl (by simp [Shared.post, hrequest]) rfl rfl
  | ask w => exact recorded.ask rfl
  | resume w => exact recorded.resume rfl
  | stage w turn =>
      rename_i request stage stage' next
      have hdeeds : (Worker.deeds { w with phase := .asking request stage next }) = [] := by
        cases turn <;> rfl
      rw [hdeeds, List.append_nil]
      exact recorded.stage sound agreed rfl turn
  | greet | reject | tell =>
      show Recorded capacity (h ++ []) _
      rw [List.append_nil]
      exact recorded.quiet rfl rfl rfl (by simp [Shared.post, Message.request?]) rfl rfl
  | _ =>
      show Recorded capacity (h ++ []) _
      rw [List.append_nil]
      exact recorded.quiet rfl rfl rfl rfl rfl rfl

/-- A wake changes nothing that is recorded. -/
theorem Recorded.woken (recorded : Recorded capacity h s) :
    Recorded capacity h { s with worker := s.worker.woken } := by
  obtain ⟨shared, ⟨phase, last?, disconnected⟩, c⟩ := s
  cases phase with
  | asking request stage next =>
      cases stage with
      | asleep =>
          refine ⟨recorded.asked, recorded.numbered, recorded.last, recorded.offered,
            recorded.answering, fun hready => ?_, ?_, by rintro _ _ _ ⟨⟩, recorded.handed⟩
          · obtain ⟨_, _, _, hphase, _, hsubmitted⟩ := recorded.ready hready
            cases hphase
            exact ⟨request, .watching, next, rfl, rfl, fun _ => hsubmitted rfl⟩
          · intro _ _ _ _ hphase htaken
            cases hphase
            cases htaken
      | _ => exact recorded
  | _ => exact recorded

/-! ### Steps of the foreground -/

/-- An answer is written and announced while the request expects it. -/
theorem Agreed.expecting (agreed : s.Agreed) (sound : Sound capacity s)
    (answered : s.foreground.activity.answered? = some request) :
    s.shared.channel.state = .waiting ∧ ∃ stage next,
      s.worker.phase = .asking request stage next ∧ stage.hasSent = true ∧
        ∀ text, stage.taken? text = none := by
  have hmem := agreed.mem_awaited_of_answered answered
  obtain ⟨stage, next, hphase, sent, waiting, _⟩ := mem_awaited.mp hmem
  refine ⟨waiting, stage, next, hphase, sent, fun text => ?_⟩
  have hfits := sound.worker.fits
  rw [Worker.Fits, hphase, waiting] at hfits
  cases stage <;> simp_all [Asking.Fits, Asking.taken?]

theorem Recorded.setActivity (recorded : Recorded capacity h s) {activity : Activity}
    (other : ∀ request text stage, activity ≠ .answering request text stage) :
    Recorded capacity h (s.setActivity activity) :=
  ⟨recorded.asked, recorded.numbered, recorded.last, recorded.offered,
    fun request text stage hactivity => (other request text stage hactivity).elim, recorded.ready,
    recorded.taken, recorded.returned, recorded.handed⟩

/-- With the first message at most a request goes that was still on offer. -/
theorem Recorded.dropFirst (recorded : Recorded capacity h s) {message : Message}
    {inbox : List Message} (first : s.shared.inbox = message :: inbox) :
    Recorded capacity h (s.dropFirst inbox) := by
  refine ⟨recorded.asked, recorded.numbered, recorded.last, ?_, recorded.answering,
    recorded.ready, recorded.taken, recorded.returned, recorded.handed⟩
  refine List.Sublist.trans ?_ recorded.offered
  refine List.Sublist.append_left ?_ _
  refine List.Sublist.append_left (List.Sublist.append_right ?_ _) _
  rw [first]
  exact (List.sublist_cons_self _ _).filterMap _

theorem Recorded.act (recorded : Recorded capacity h s) (sound : Sound capacity s)
    (agreed : s.Agreed) (act : Act s t) : Recorded capacity h t := by
  cases act with
  | supersede | depart =>
      exact ⟨recorded.asked, recorded.numbered, recorded.last, recorded.offered, by simp,
        recorded.ready, recorded.taken,
        fun request text next hphase => (recorded.returned request text next hphase).later,
        fun request text hreturn => (recorded.handed request text hreturn).later⟩
  | reset s w c =>
      refine ⟨recorded.asked, recorded.numbered, recorded.last, recorded.offered, by simp, ?_, ?_,
        recorded.returned, recorded.handed⟩
      · intro hready
        simp [Shared.resetChannel, Channel.reset] at hready
      · simpa [Shared.resetChannel, Channel.reset] using recorded.taken
  | wakeToStart =>
      have recorded := recorded.woken
      refine ⟨recorded.asked, recorded.numbered, recorded.last, ?_, by simp, recorded.ready,
        recorded.taken, recorded.returned, recorded.handed⟩
      refine List.Sublist.trans ?_ recorded.offered
      exact (List.sublist_append_right _ _).append_left _
  | wakeToRelease | wakeToShutDown | wakeToRead => exact recorded.woken.setActivity (by simp)
  | look =>
      refine ⟨recorded.asked, recorded.numbered, recorded.last, recorded.offered, ?_,
        recorded.ready, recorded.taken, recorded.returned, recorded.handed⟩
      intro request text stage hactivity
      cases hactivity
      exact recorded.answering _ _ _ rfl
  | write s w c =>
      obtain ⟨waiting, stage, next, hphase, _, htaken⟩ := agreed.expecting sound rfl
      refine ⟨recorded.asked, recorded.numbered, recorded.last, recorded.offered, ?_, ?_, ?_,
        recorded.returned, recorded.handed⟩
      · intro request text stage hactivity
        cases hactivity
        exact recorded.answering _ _ _ rfl
      · intro hready
        rw [Channel.state_writeText, waiting] at hready
        cases hready
      · intro request' stage' next' text hphase' htaken'
        cases hphase.symm.trans hphase'
        rw [htaken] at htaken'
        cases htaken'
  | announce s w c =>
      rename_i request text _
      obtain ⟨waiting, stage, next, hphase, sent, htaken⟩ := agreed.expecting sound rfl
      refine ⟨recorded.asked, recorded.numbered, recorded.last, recorded.offered, ?_, ?_, ?_,
        recorded.returned, recorded.handed⟩
      · intro request text stage hactivity
        cases hactivity
        exact recorded.answering _ _ _ rfl
      · refine fun _ => ⟨request, stage, next, hphase, sent, fun _ => ?_⟩
        refine ⟨text, recorded.answering _ _ _ rfl, ?_⟩
        have hwritten := agreed.written request text rfl
        rw [sound.shared.capacity] at hwritten
        rw [Channel.readText_setState]
        exact hwritten
      · intro request' stage' next' text hphase' htaken'
        cases hphase.symm.trans hphase'
        rw [htaken] at htaken'
        cases htaken'
  | drop s w c first => exact recorded.dropFirst first
  | readLine s w c first => exact (recorded.dropFirst first).setActivity (by simp)
  | hear s w c first =>
      rename_i event inbox _
      refine ⟨recorded.asked, recorded.numbered, recorded.last, ?_, by simp,
        recorded.ready, recorded.taken, recorded.returned, recorded.handed⟩
      refine List.Sublist.trans (List.Sublist.append_left ?_ _) recorded.offered
      rw [first]
      cases event with
      | ready | produced => exact List.Sublist.refl _
      | requested => exact List.sublist_append_right _ _
      | finished | failed => exact List.sublist_append_right _ _
  | order | shutDown =>
      exact ⟨recorded.asked, recorded.numbered, recorded.last, recorded.offered, by simp,
        recorded.ready, recorded.taken, recorded.returned, recorded.handed⟩
  | orderInVain | orderRelease | shutDownInVain | join | lookInVain | announceInVain | answered
  | takeNothing | probeInVain | retry | giveUp => exact recorded.setActivity (by simp)

/-! ### All steps -/

/-- Deeds that are neither requests nor texts for them leave the record as it is. -/
theorem Recorded.append (recorded : Recorded capacity h s)
    (submissions : Deed.submissions deeds = [])
    (requests : Deed.requests deeds = []) (returns : Deed.returns deeds = []) :
    Recorded capacity (h ++ deeds) s where
  asked := by simpa [requests, returns] using recorded.asked
  numbered := by simpa [requests] using recorded.numbered
  last := by simpa [requests] using recorded.last
  offered := by simpa [requests, submissions] using recorded.offered
  answering := by simpa [submissions] using recorded.answering
  ready := fun hready => by
    obtain ⟨request, stage, next, hphase, sent, hsubmitted⟩ := recorded.ready hready
    exact ⟨request, stage, next, hphase, sent, fun h => (hsubmitted h).append⟩
  taken := fun request stage next text hphase htaken =>
    (recorded.taken request stage next text hphase htaken).append
  returned := fun request text next hphase =>
    (recorded.returned request text next hphase).append
  handed := fun request text hreturn =>
    (recorded.handed request text (by simpa [returns] using hreturn)).append

/-- An answer to the pending request takes its place. -/
theorem Recorded.submit (recorded : Recorded capacity h s)
    (pending : s.foreground.pending = some request) (text : String) :
    Recorded capacity (h ++ [.called (some request) (.submit text)]) { s with
      foreground := { s.foreground with
        activity := .answering request text .looking, pending := none } } := by
  have hsubmissions : Deed.submissions (h ++ [.called (some request) (.submit text)]) =
      Deed.submissions h ++ [(request, text)] := Deed.submissions_append _ _
  have hrequests : Deed.requests [.called (some request) (.submit text)] = [] := rfl
  have hreturns : Deed.returns [.called (some request) (.submit text)] = [] := rfl
  have hoffered := recorded.offered
  rw [pending] at hoffered
  exact
    { asked := by simpa [hrequests, hreturns] using recorded.asked
      numbered := by simpa [hrequests] using recorded.numbered
      last := by simpa [hrequests] using recorded.last
      offered := by simpa [hsubmissions, hrequests] using hoffered
      answering := fun request' text' stage hactivity => by
        cases hactivity
        simp [hsubmissions]
      ready := fun hready => by
        obtain ⟨request, stage, next, hphase, sent, hsubmitted⟩ := recorded.ready hready
        exact ⟨request, stage, next, hphase, sent, fun h => (hsubmitted h).append⟩
      taken := fun request stage next text hphase htaken =>
        (recorded.taken request stage next text hphase htaken).append
      returned := fun request text next hphase =>
        (recorded.returned request text next hphase).append
      handed := fun request text hreturn =>
        (recorded.handed request text (by simpa [hreturns] using hreturn)).append }

theorem Recorded.begin (recorded : Recorded capacity h s) (call : Call) :
    Recorded capacity (h ++ .called s.foreground.pending call :: (s.begin call).foreground.deeds)
      (s.begin call) := by
  cases call with
  | submit text =>
      cases hpending : s.foreground.pending with
      | none =>
          rw [begin_submit_of_none hpending]
          exact (recorded.setActivity (by simp)).append rfl rfl rfl
      | some request =>
          rw [begin_submit_of_some hpending]
          exact recorded.submit hpending text
  | start | receive | poll | reset | close =>
      refine (recorded.setActivity ?_).append ?_ rfl rfl
      · simp
      · cases s.foreground.pending <;> rfl

theorem Recorded.post (recorded : Recorded capacity h s) {message : Message}
    (plain : ∀ event, message ≠ .event event) : Recorded capacity h (s.post message) := by
  have hrequest := Message.request?_of_plain plain
  refine ⟨recorded.asked, recorded.numbered, recorded.last, ?_, recorded.answering, recorded.ready,
    recorded.taken, recorded.returned, recorded.handed⟩
  simpa [Runner.post, Shared.post, hrequest] using recorded.offered

theorem Recorded.move (recorded : Recorded capacity h s) (sound : Sound capacity s)
    (agreed : s.Agreed) (move : Move interpreter s deeds t)
    (honest : ∀ deed ∈ deeds, deed.Honest) : Recorded capacity (h ++ deeds) t := by
  cases move with
  | call call free => exact recorded.begin call
  | foreground hstep =>
      have act := act_of_foregroundStep? sound.shared.channel hstep
      exact (recorded.act sound agreed act).append (by simp) (by simp) (by simp)
  | worker hstep =>
      obtain ⟨shared, worker, turn, rfl⟩ := sound.turn_of_workerStep? hstep
      exact recorded.turn sound agreed turn
  | spurious => exact recorded.woken.append rfl rfl rfl
  | post message =>
      have plain := Deed.honest_posted.mp (honest (.posted message) (by simp))
      exact (recorded.post plain).append rfl rfl rfl

theorem recorded_of_spawn (hspawn : spawn capacity = .ok s) : Recorded capacity [] s := by
  obtain rfl := eq_of_spawn hspawn
  exact
    { asked := rfl
      numbered := .nil
      last := by rintro _ ⟨⟩
      offered := List.Sublist.refl _
      answering := by rintro _ _ _ ⟨⟩
      ready := by rintro ⟨⟩
      taken := by rintro _ _ _ _ ⟨⟩
      returned := by rintro _ _ _ ⟨⟩
      handed := by rintro _ _ ⟨⟩ }

theorem recorded_of_course {s₀ : Runner} (hspawn : spawn capacity = .ok s₀)
    (course : Course interpreter s₀ h s)
    (hdeeds : ∀ deed ∈ h, deed.Calls (· ≠ .reset) ∧ deed.Honest) :
    Sound capacity s ∧ s.Agreed ∧ Recorded capacity h s := by
  refine course.invariant (P := fun h t => Sound capacity t ∧ t.Agreed ∧ Recorded capacity h t)
    hdeeds
    ⟨sound_of_spawn hspawn, agreed_of_spawn hspawn, recorded_of_spawn hspawn⟩ ?_
  rintro h t deeds u ⟨sound, agreed, recorded⟩ move hdeeds
  have honest : ∀ deed ∈ deeds, deed.Honest := fun deed hdeed => (hdeeds deed hdeed).2
  exact ⟨sound.move move honest, agreed.move sound move hdeeds,
    recorded.move sound agreed move honest⟩

/-! ### Answers that are given while a request is pending -/

/-- While two sides agree, an answer is never refused. -/
theorem Agreed.answerSteps_succ (agreed : s.Agreed) (sound : Sound capacity s) {n : Nat}
    (h : s.foreground.activity.answerSteps? = some (n + 1)) :
    ∃ t, s.foregroundStep? = some t ∧ t.foreground.activity.answerSteps? = some n := by
  obtain ⟨shared, w, activity, active, ready, pending⟩ := s
  cases activity with
  | answering request text stage =>
      refine ⟨_, rfl, ?_⟩
      have act := act_of_foregroundStep? sound.shared.channel
        (show foregroundStep? ⟨shared, w, .answering request text stage, active, ready, pending⟩ =
          some _ from rfl)
      generalize answer _ request text stage = t at act ⊢
      cases act with
      | look | write | announce | wakeToRead =>
          cases h
          rfl
      | lookInVain s w c late | announceInVain s w c late =>
          exact (late (agreed.waiting_of_answered rfl)).elim
      | answered => cases h
  | returned reply =>
      simp only [Activity.answerSteps?] at h
      split at h <;> simp_all
  | _ => cases h

theorem Agreed.conclude (agreed : s.Agreed) (sound : Sound capacity s) {n fuel : Nat}
    (h : s.foreground.activity.answerSteps? = some n) (enough : n ≤ fuel) :
    (s.conclude fuel).foreground.reply? = some (.answered true) := by
  have hreturned {s : Runner} (h : s.foreground.activity.answerSteps? = some 0) :
      s.foreground.activity = .returned (.answered true) := by
    unfold Activity.answerSteps? at h
    split at h <;> simp_all
  induction fuel generalizing s n with
  | zero =>
      obtain rfl : n = 0 := by omega
      simp [Runner.conclude, Foreground.reply?, hreturned h]
  | succ fuel ih =>
      cases n with
      | zero =>
          simp [Runner.conclude, foregroundStep?, Foreground.reply?, hreturned h]
      | succ n =>
          obtain ⟨t, hstep, ht⟩ := agreed.answerSteps_succ sound h
          have act := act_of_foregroundStep? sound.shared.channel hstep
          rw [Runner.conclude, hstep]
          exact ih (agreed.act sound act) (sound.act act) ht (by omega)

/-- A call that is an answer is one until it has succeeded, whatever else happens. -/
theorem Agreed.answerSteps_move (agreed : s.Agreed) (sound : Sound capacity s)
    (h : s.foreground.activity.answerSteps?.isSome = true) (move : Move interpreter s deeds t)
    (uncalled : ∀ deed ∈ deeds, deed.Calls fun _ => False) :
    t.foreground.activity.answerSteps?.isSome = true := by
  cases move with
  | call call => exact (uncalled _ List.mem_cons_self).elim
  | foreground hstep =>
      obtain ⟨n, hn⟩ := Option.isSome_iff_exists.mp h
      cases n with
      | zero =>
          unfold Activity.answerSteps? at hn
          split at hn <;> simp_all [foregroundStep?]
      | succ n =>
          obtain ⟨u, hstep', hu⟩ := agreed.answerSteps_succ sound hn
          cases hstep.symm.trans hstep'
          rw [hu]
          rfl
  | worker hstep =>
      obtain ⟨_, _, _, rfl⟩ := sound.turn_of_workerStep? hstep
      exact h
  | spurious | post => exact h

/-- An answer to the pending request succeeds, in at most four steps of the foreground. -/
theorem Agreed.submit_accepted (agreed : s.Agreed) (sound : Sound capacity s)
    (free : s.foreground.isFree = true) (pending : s.foreground.pending = some request)
    (course : Course interpreter (s.begin (.submit text)) h t)
    (hdeeds : ∀ deed ∈ h, deed.Calls (fun _ => False) ∧ deed.Honest) :
    (t.conclude 4).foreground.reply? = some (.answered true) := by
  have hbegin : (s.begin (.submit text)).foreground.activity.answerSteps?.isSome = true := by
    rw [begin_submit_of_some pending]
    rfl
  obtain ⟨sound, agreed, hsteps⟩ : Sound capacity t ∧ t.Agreed ∧
      t.foreground.activity.answerSteps?.isSome = true := by
    refine course.invariant (P := fun _ t => Sound capacity t ∧ t.Agreed ∧
      t.foreground.activity.answerSteps?.isSome = true) hdeeds
      ⟨sound.begin free _, agreed.begin free (by simp), hbegin⟩ ?_
    rintro h t deeds u ⟨sound, agreed, hsteps⟩ move hdeeds
    refine ⟨sound.move move fun deed hdeed => (hdeeds deed hdeed).2,
      agreed.move sound move fun deed hdeed => ⟨?_, (hdeeds deed hdeed).2⟩,
      agreed.answerSteps_move sound hsteps move fun deed hdeed => (hdeeds deed hdeed).1⟩
    exact (hdeeds deed hdeed).1.mono fun _ h => h.elim
  obtain ⟨n, hn⟩ := Option.isSome_iff_exists.mp hsteps
  refine agreed.conclude sound hn ?_
  unfold Activity.answerSteps? at hn
  split at hn <;> simp at hn <;> omega

/-! ### Answers that are there -/

theorem workerStep?_asking (interpreter : Interpreter) {stage : Asking}
    {next : String → Dialogue Ending}
    (phase : s.worker.phase = .asking request stage next) (moving : stage.isResting = false) :
    s.workerStep? interpreter = some { s with
      shared := (stage.step request s.shared).1
      worker := { s.worker with phase := .asking request (stage.step request s.shared).2 next } } := by
  cases stage <;> simp_all [workerStep?, Worker.step?, Asking.isResting]

/-- A request that is not to wait returns by steps of the worker. -/
theorem Sound.deliver (sound : Sound capacity s) {stage : Asking} {next : String → Dialogue Ending}
    (phase : s.worker.phase = .asking request stage next)
    (outcome : stage.outcome? s.shared.channel = some text)
    (past : s.shared.channel.state ≠ .waiting) :
    ∃ t, Course interpreter s [.handed request text] t ∧
      t.worker.phase = .running request.run (next text) := by
  induction hn : stage.stepsLeft using Nat.strongRecOn generalizing s stage with
  | _ n ih =>
      by_cases moving : stage.isResting = false
      · have hstep := workerStep?_asking interpreter phase moving
        have hfits := sound.worker.fits
        rw [Worker.Fits, phase] at hfits
        have turn := Asking.turn_step request sound.shared.channel sound.shared.listening hfits moving
        obtain ⟨outcome, past, hless⟩ := turn.outcome outcome past
        have move := Move.worker hstep
        have hdeeds : s.worker.deeds = [] := by
          cases stage <;> simp_all [Worker.deeds, Asking.isResting]
        rw [hdeeds] at move
        obtain ⟨t, course, ht⟩ := ih _ (hn ▸ hless) (sound.move move (by simp)) rfl outcome past rfl
        exact ⟨t, course.cons move, ht⟩
      · cases stage with
        | returned text' =>
            cases outcome
            have hstep : s.workerStep? interpreter = some { s with
                worker := { s.worker with phase := .running request.run (next text) } } := by
              simp [workerStep?, Worker.step?, phase]
            have move := Move.worker hstep
            rw [show s.worker.deeds = [.handed request text] by simp [Worker.deeds, phase]] at move
            exact ⟨_, Course.single move, rfl⟩
        | asleep => cases outcome
        | _ => exact (moving rfl).elim

theorem Recorded.nodup (recorded : Recorded capacity h s) : (Deed.requests h).Nodup :=
  recorded.numbered.imp fun hlt heq => Nat.ne_of_lt hlt (congrArg Request.id heq)

/-- A request is answered once at most. -/
theorem Recorded.submission_unique (recorded : Recorded capacity h s) {answer answer' : String}
    (first : (request, answer) ∈ Deed.submissions h)
    (second : (request, answer') ∈ Deed.submissions h) : answer = answer' := by
  have hnodup : ((Deed.submissions h).map Prod.fst).Nodup :=
    ((List.sublist_append_left _ _).trans recorded.offered).nodup recorded.nodup
  have hinjective := List.inj_on_of_nodup_map hnodup first second rfl
  exact congrArg Prod.snd hinjective

/-- A request that was answered waits nowhere any more. -/
theorem Recorded.not_mem_of_submitted (recorded : Recorded capacity h s) {answer : String}
    (submitted : (request, answer) ∈ Deed.submissions h) :
    request ∉ s.foreground.pending.toList ++
      (s.shared.inbox.filterMap Message.request? ++ s.worker.unsent?.toList) := by
  intro hmem
  have hnodup := recorded.offered.nodup recorded.nodup
  rw [List.nodup_append] at hnodup
  exact hnodup.2.2 request (List.mem_map.mpr ⟨_, submitted, rfl⟩) request hmem rfl

/-- A request of the current run that is open and waits nowhere for an answer has got one. -/
theorem Recorded.answered_of_open (recorded : Recorded capacity h s) (sound : Sound capacity s)
    (agreed : s.Agreed) (free : s.foreground.isFree = true)
    (nowhere : request ∉ s.foreground.pending.toList ++
      (s.shared.inbox.filterMap Message.request? ++ s.worker.unsent?.toList))
    {stage : Asking} {next : String → Dialogue Ending}
    (phase : s.worker.phase = .asking request stage next)
    (current : request.run = s.shared.generation) :
    ∃ text, stage.outcome? s.shared.channel = some text ∧
      Deserved capacity h s.shared.generation request text ∧
      s.shared.channel.state ≠ .waiting := by
  have hunsent : stage.isUnsent = false := by
    refine Bool.eq_false_iff.mpr fun hunsent => nowhere ?_
    simp [Worker.unsent?, phase, hunsent]
  have hwaiting : stage.hasSent = true → s.shared.channel.state ≠ .waiting := by
    intro sent waiting
    have hmem := mem_awaited.mpr ⟨stage, next, phase, sent, waiting, current⟩
    rw [← agreed.held, held, Foreground.answered?_of_isFree free] at hmem
    have hmem := (List.mem_filter.mp hmem).1
    refine nowhere ?_
    simp only [List.mem_append] at hmem ⊢
    tauto
  have hfits := sound.worker.fits
  have hcurrent := agreed.fitsCurrent phase current
  rw [Worker.Fits, phase] at hfits
  have hready (sent : stage.hasSent = true) : s.shared.channel.state = .ready := by
    cases hstate : s.shared.channel.state with
    | idle =>
        rw [hstate] at hcurrent
        cases stage <;> simp_all [Asking.FitsCurrent, Asking.hasSent]
    | waiting => exact (hwaiting sent hstate).elim
    | ready => rfl
  have hsubmitted (sent : stage.hasSent = true) (expecting : stage.isExpecting = true) :
      Submitted capacity h request s.shared.channel.readText := by
    obtain ⟨_, _, _, hphase, _, hsubmitted⟩ := recorded.ready (hready sent)
    cases phase.symm.trans hphase
    exact hsubmitted expecting
  cases stage with
  | claiming | guarding | sending | recovering | wakingAfterRecovery | reclaiming => cases hunsent
  | withdrawing | wakingAfterWithdrawal => exact hcurrent.elim
  | asleep =>
      have hroused := sound.roused (by simp [Worker.isAsleep, phase]) (hwaiting rfl)
      rw [Foreground.isRousing_of_isFree free] at hroused
      cases hroused
  | watching | dozing | inspecting =>
      refine ⟨_, ?_, .inl (hsubmitted rfl rfl), hwaiting rfl⟩
      rw [Asking.outcome?, if_pos (hready rfl)]
  | reading | erasing | consuming =>
      exact ⟨_, rfl, .inl (recorded.taken _ _ _ _ phase rfl), hwaiting rfl⟩
  | returned text =>
      have idle : s.shared.channel.state = .idle := hfits
      exact ⟨_, rfl, recorded.returned _ _ _ phase, by simp [idle]⟩

/-- An answer to a request of the current run has been handed to the program, or will be when the
worker goes on. -/
theorem Recorded.not_lost (recorded : Recorded capacity h s) (sound : Sound capacity s)
    (agreed : s.Agreed) (free : s.foreground.isFree = true) {answer : String}
    (submitted : (request, answer) ∈ Deed.submissions h)
    (current : request.run = s.shared.generation) :
    (request, Channel.readBack capacity answer) ∈ Deed.returns h ∨
      ∃ t, Course interpreter s [.handed request (Channel.readBack capacity answer)] t := by
  have hthis {text : String} (h : Submitted capacity h request text) :
      text = Channel.readBack capacity answer := by
    obtain ⟨answer', hanswer', rfl⟩ := h
    rw [recorded.submission_unique submitted hanswer']
  have hdeserved {text : String} (h : Deserved capacity h s.shared.generation request text) :
      text = Channel.readBack capacity answer := by
    rcases h with h | ⟨_, hlt⟩
    · exact hthis h
    · exact (Nat.ne_of_lt hlt current).elim
  have hasked : request ∈ Deed.requests h :=
    ((List.sublist_append_left _ _).trans recorded.offered).subset
      (List.mem_map.mpr ⟨_, submitted, rfl⟩)
  rw [recorded.asked] at hasked
  rcases List.mem_append.mp hasked with hreturned | hopen
  · obtain ⟨⟨_, text⟩, hreturn, rfl⟩ := List.mem_map.mp hreturned
    rw [← hdeserved (recorded.handed _ _ hreturn)]
    exact .inl hreturn
  · obtain ⟨stage, next, hphase⟩ : ∃ stage next, s.worker.phase = .asking request stage next := by
      rw [Option.mem_toList, Worker.request?] at hopen
      split at hopen
      · cases hopen
        exact ⟨_, _, ‹_›⟩
      · cases hopen
    obtain ⟨text, houtcome, htext, past⟩ := recorded.answered_of_open sound agreed free
      (recorded.not_mem_of_submitted submitted) hphase current
    rw [hdeserved htext] at houtcome
    obtain ⟨t, course, _⟩ := sound.deliver hphase houtcome past
    exact .inr ⟨t, course⟩

/-- The pending request is the one in which the worker waits. -/
theorem Agreed.mem_awaited_of_pending (agreed : s.Agreed) (free : s.foreground.isFree = true)
    (pending : s.foreground.pending = some request) : request ∈ s.awaited := by
  have current : request.run = s.shared.generation := by
    simpa [Foreground.isRestarting_of_isFree free, Foreground.isDeparting_of_isFree free] using
      agreed.pending request pending
  rw [← agreed.held]
  simp [Runner.held, pending, Request.isOf, current]

/-- The worker waits in a request only for the run that is active. -/
theorem Agreed.active_of_mem_awaited (agreed : s.Agreed) (h : request ∈ s.awaited) :
    s.foreground.active = some request.run ∧ request.run = s.shared.generation := by
  have current := run_of_mem_awaited h
  have hbusy := agreed.busy (List.mem_append_left _ (mem_tasks_of_mem_awaited h))
  exact ⟨current ▸ hbusy.1, current⟩

/-- Answers are agreed on, and delivered exactly once. Whatever the order of all steps, as long as
the channel is left to the calls and the runner is not closed: a request that is pending while no
call is under way is the one in which the worker waits, and an answer to it succeeds. Each request
has its own number, is answered once at most, and returns once at most, with what can be read of
the answer that was given to it while it was pending, or with nothing if its run was superseded.
And an answer that was given is not lost while its run is current. -/
theorem answers_exactly_once {s₀ : Runner} (hspawn : spawn capacity = .ok s₀)
    (course : Course interpreter s₀ h s)
    (hdeeds : ∀ deed ∈ h, deed.Calls (fun call => call ≠ .reset ∧ call ≠ .close) ∧ deed.Honest) :
    (∀ request, s.foreground.isFree = true → s.foreground.pending = some request →
      s.foreground.active = some request.run ∧ request.run = s.shared.generation ∧
      s.shared.channel.state = .waiting ∧
      (∃ stage next, s.worker.phase = .asking request stage next ∧
        (stage = .watching ∨ stage = .dozing ∨ stage = .asleep)) ∧
      ∀ text h' t, Course interpreter (s.begin (.submit text)) h' t →
        (∀ deed ∈ h', deed.Calls (fun _ => False) ∧ deed.Honest) →
        (t.conclude 4).foreground.reply? = some (.answered true)) ∧
    (Deed.requests h).Pairwise (fun a b => a.id < b.id) ∧
    ((Deed.returns h).map Prod.fst).IsPrefix (Deed.requests h) ∧
    ((Deed.submissions h).map Prod.fst).Sublist (Deed.requests h) ∧
    (∀ request text, (request, text) ∈ Deed.returns h →
      (∃ answer, (request, answer) ∈ Deed.submissions h ∧
        text = Channel.readBack capacity answer) ∨
      (text = "" ∧ request.run < s.shared.generation)) ∧
    (∀ request answer, s.foreground.isFree = true → (request, answer) ∈ Deed.submissions h →
      request.run = s.shared.generation →
      (request, Channel.readBack capacity answer) ∈ Deed.returns h ∨
        ∃ t, Course interpreter s [.handed request (Channel.readBack capacity answer)] t) := by
  obtain ⟨sound, agreed, recorded⟩ := recorded_of_course hspawn course fun deed hdeed =>
    ⟨(hdeeds deed hdeed).1.mono fun _ h => h.1, (hdeeds deed hdeed).2⟩
  refine ⟨?_, recorded.numbered, ?_, (List.sublist_append_left _ _).trans recorded.offered,
    recorded.handed, ?_⟩
  · intro request free pending
    have hmem := agreed.mem_awaited_of_pending free pending
    obtain ⟨hactive, current⟩ := agreed.active_of_mem_awaited hmem
    obtain ⟨stage, next, hphase, sent, waiting, _⟩ := mem_awaited.mp hmem
    refine ⟨hactive, current, waiting, ⟨stage, next, hphase, ?_⟩, ?_⟩
    · have hfits := sound.worker.fits
      rw [Worker.Fits, hphase, waiting] at hfits
      cases stage <;> simp_all [Asking.Fits, Asking.hasSent]
    · intro text h' t course hdeeds
      exact agreed.submit_accepted sound free pending course hdeeds
  · rw [recorded.asked]
    exact List.prefix_append _ _
  · intro request answer free submitted current
    exact recorded.not_lost sound agreed free submitted current

/-- A survey of two lines gets its first answer and makes its second request. -/
def interview : List Choice :=
  [.worker, .worker, .call (.start "name\nage"),
    .foreground, .foreground, .foreground, .foreground] ++
    List.replicate 7 .worker ++
    [.call .receive, .foreground, .call .receive, .foreground, .call (.submit "Anna"),
      .foreground, .foreground, .foreground, .foreground] ++
    List.replicate 14 .worker ++ [.call .receive, .foreground, .call .receive, .foreground]

theorem answers_exactly_once_interview :
    ∃ s₀ h s, spawn 3 = .ok s₀ ∧ Course Interpreter.survey s₀ h s ∧
      s.foreground.pending = some ⟨1, 2, "age"⟩ ∧ s.foreground.active = some 1 ∧
      s.shared.channel.state = .waiting ∧
      ((⟨1, 1, "name"⟩, "Anna") ∈ Deed.submissions h ∧
        (⟨1, 1, "name"⟩, Channel.readBack 3 "Anna") ∈ Deed.returns h) := by
  have hseen : ((spawn 3).toOption.bind (follow? Interpreter.survey interview)).map
      (fun p => (p.1, p.2.foreground, p.2.shared.generation)) =
      some ([.called none (.start "name\nage"), .replied (.started 1), .asked ⟨1, 1, "name"⟩,
          .called none .receive, .replied (.received (.event .ready)),
          .called none .receive, .replied (.received (.event (.requested ⟨1, 1, "name"⟩))),
          .called (some ⟨1, 1, "name"⟩) (.submit "Anna"), .replied (.answered true),
          .handed ⟨1, 1, "name"⟩ "An", .asked ⟨1, 2, "age"⟩,
          .called none .receive, .replied (.received (.event (.produced 1 "got An"))),
          .called none .receive, .replied (.received (.event (.requested ⟨1, 2, "age"⟩)))],
        ⟨.returned (.received (.event (.requested ⟨1, 2, "age"⟩))), some 1, true,
          some ⟨1, 2, "age"⟩⟩, 1) := by
    decide +kernel
  obtain ⟨s₀, h, s, hspawn, course, hview⟩ := course_of_spawn hseen
  simp only [Prod.mk.injEq] at hview
  obtain ⟨rfl, hforeground, hgeneration⟩ := hview
  have hagree := answers_exactly_once hspawn course (by simp [Deed.Calls, Deed.Honest])
  have hpending : s.foreground.pending = some ⟨1, 2, "age"⟩ := by rw [hforeground]
  have hfree : s.foreground.isFree = true := by
    rw [hforeground]
    rfl
  obtain ⟨hactive, _, waiting, _⟩ := hagree.1 _ hfree hpending
  exact ⟨s₀, _, s, hspawn, course, hpending, hactive, waiting, by decide, by decide +kernel⟩

end Runner

end Pseudocode
