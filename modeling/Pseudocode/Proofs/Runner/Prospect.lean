import Pseudocode.Proofs.Runner.Delivery
import Pseudocode.Proofs.Runner.Lasting

/-!
What is still to be heard of the current run. The messages in the inbox, and what the worker will
say from where it stands when it gets the answers of a list, are together what the run says that is
not heard yet; and no step changes this, whoever makes it. So what is heard of a run depends only on
its program and its answers.
-/

namespace Pseudocode

/-- The run and the source that a call is about to order. -/
def Activity.order? : Activity → Option (Nat × String)
  | .resetting (.start run source) | .waking (.start run source)
  | .ordering (.start run source) => some (run, source)
  | _ => none

/-- The answer that is being given, until it is announced. -/
def Activity.answer? : Activity → Option (Request × String)
  | .answering request text .looking | .answering request text .writing
  | .answering request text .announcing => some (request, text)
  | _ => none

/-- Whether a call is under way that starts a run, receives or answers, or none is. -/
def Activity.isAttending : Activity → Bool
  | .idle | .returned _ | .answering .. | .taking _ | .probing _ => true
  | .resetting errand | .waking errand | .ordering errand => errand.run?.isSome
  | .superseding _ | .joining | .closed => false

theorem Activity.stays_of_isAttending {activity : Activity} (h : activity.isAttending = true) :
    activity.isLeaving = false ∧ activity.isDeparting = false := by
  cases activity with
  | resetting errand | waking errand | ordering errand =>
      cases errand with
      | start => exact ⟨rfl, rfl⟩
      | release | shutdown => cases h
  | superseding | joining | closed => cases h
  | idle | returned | answering | taking | probing => exact ⟨rfl, rfl⟩

theorem Activity.run?_of_order? {activity : Activity} {run : Nat} {source : String}
    (h : activity.order? = some (run, source)) : activity.run? = some run := by
  unfold order? at h
  split at h <;> simp_all [run?, Errand.run?]

theorem Activity.answered?_of_answer? {activity : Activity} {request : Request} {text : String}
    (h : activity.answer? = some (request, text)) : activity.answered? = some request := by
  unfold answer? at h
  split at h <;> simp_all [answered?]

/-- What a message says of a run. -/
def Message.remark? (run : Nat) : Message → Option Remark
  | .event e => if e.run? = some run then e.remark? else none
  | .line _ | .closed => none

/-- What is heard of a run. -/
def Deed.remarks (run : Nat) (h : List Deed) : List Remark :=
  h.filterMap fun deed => deed.heard?.bind fun event => Message.remark? run (.event event)

theorem Message.remark?_eq_some {run : Nat} {message : Message} {remark : Remark}
    (h : message.remark? run = some remark) :
    ∃ event, message = .event event ∧ event.run? = some run ∧ event.remark? = some remark := by
  cases message with
  | event event =>
      simp only [remark?] at h
      split at h
      · exact ⟨event, rfl, ‹_›, h⟩
      · cases h
  | line | closed => cases h

theorem Message.remark?_of_plain {run : Nat} {message : Message}
    (plain : ∀ event, message ≠ .event event) : message.remark? run = none :=
  eq_of_plain (remark? run) plain fun _ => rfl

@[simp] theorem Deed.remarks_append (run : Nat) (h h' : List Deed) :
    remarks run (h ++ h') = remarks run h ++ remarks run h' := List.filterMap_append

@[simp] theorem Deed.remarks_received (run : Nat) (message : Message) :
    remarks run [.replied (.received message)] = (message.remark? run).toList := by
  cases message with
  | event event =>
      simp only [remarks, List.filterMap_cons, heard?, Option.bind_some]
      cases Message.remark? run (.event event) <;> rfl
  | line | closed => rfl

theorem Event.isTerminal_of_remark? {event : Event} {remark : Remark}
    (h : event.remark? = some remark) : remark.isTerminal = event.isTerminal := by
  cases event <;> cases h <;> rfl

/-- Whether the answers that are given are those of a list, in order and empty ones when they are
used up. -/
def Deed.Gives (answers : List String) (h : List Deed) : Prop :=
  ∀ i request text, (submissions h)[i]? = some (request, text) → text = answers.getD i ""

theorem Deed.gives_append {answers : List String} {h h' : List Deed} :
    Gives answers (h ++ h') ↔
      Gives answers h ∧ Gives (answers.drop (submissions h).length) h' := by
  simp only [Gives, submissions_append]
  constructor
  · refine fun hgives => ⟨fun i request text hi => ?_, fun i request text hi => ?_⟩
    · refine hgives i request text ?_
      rw [List.getElem?_append_left (List.getElem?_eq_some_iff.mp hi).1, hi]
    · have htext := hgives ((submissions h).length + i) request text (by
        rwa [List.getElem?_append_right (Nat.le_add_right ..), Nat.add_sub_cancel_left])
      simpa using htext
  · rintro ⟨hbefore, hafter⟩ i request text hi
    rw [List.getElem?_append] at hi
    split at hi
    · exact hbefore i request text hi
    · rename_i hlast
      obtain ⟨j, rfl⟩ := Nat.exists_eq_add_of_le (Nat.le_of_not_lt hlast)
      have htext := hafter j request text (by simpa using hi)
      simpa using htext

/-- Whether a call neither starts nor ends a run. -/
def Call.isAttending : Call → Bool
  | .submit _ | .receive | .poll => true
  | .start _ | .reset | .close => false

namespace Runner

/-- What it depends on how a run goes on. -/
structure Scene where
  generation : Nat
  commands : List Command
  channel : Channel
  worker : Worker
  order? : Option (Nat × String)
  answer? : Option (Request × String)

/-- What the worker is going to say of the current run, where it gets the given answers from its
next request on. -/
inductive Outlook (interpreter : Interpreter) (capacity : Nat) (answers : List String) (s : Scene) :
    List Remark → Prop
  | ordering {source : String} (order : s.order? = some (s.generation, source)) :
    Outlook interpreter capacity answers s ((interpreter source).remarks capacity answers)
  | queued {source : String} (queued : .run s.generation source ∈ s.commands) :
    Outlook interpreter capacity answers s ((interpreter source).remarks capacity answers)
  | starting {source : String} (phase : s.worker.phase = .starting s.generation source) :
    Outlook interpreter capacity answers s ((interpreter source).remarks capacity answers)
  | running {program : Dialogue Ending} (phase : s.worker.phase = .running s.generation program) :
    Outlook interpreter capacity answers s (program.remarks capacity answers)
  | unsent {request : Request} {stage : Asking} {next : String → Dialogue Ending}
    (phase : s.worker.phase = .asking request stage next) (current : request.run = s.generation)
    (unsent : stage.isUnsent = true) :
    Outlook interpreter capacity answers s (.prompt request.prompt ::
      (next (Channel.readBack capacity (answers.headD ""))).remarks capacity answers.tail)
  | waiting {request : Request} {stage : Asking} {next : String → Dialogue Ending}
    (phase : s.worker.phase = .asking request stage next) (current : request.run = s.generation)
    (sent : stage.hasSent = true) (waiting : s.channel.state = .waiting)
    (unanswered : s.answer? = none) :
    Outlook interpreter capacity answers s
      ((next (Channel.readBack capacity (answers.headD ""))).remarks capacity answers.tail)
  | answering {request : Request} {stage : Asking} {next : String → Dialogue Ending} {text : String}
    (phase : s.worker.phase = .asking request stage next) (current : request.run = s.generation)
    (sent : stage.hasSent = true) (waiting : s.channel.state = .waiting)
    (answer : s.answer? = some (request, text)) :
    Outlook interpreter capacity answers s
      ((next (Channel.readBack capacity text)).remarks capacity answers)
  | answered {request : Request} {stage : Asking} {next : String → Dialogue Ending} {text : String}
    (phase : s.worker.phase = .asking request stage next) (current : request.run = s.generation)
    (past : s.channel.state ≠ .waiting) (outcome : stage.woken.outcome? s.channel = some text) :
    Outlook interpreter capacity answers s ((next text).remarks capacity answers)
  | reporting {event : Event} {remark : Remark} (phase : s.worker.phase = .reporting event)
    (current : event.run? = some s.generation) (named : event.remark? = some remark) :
    Outlook interpreter capacity answers s [remark]
  | silent (idle : s.generation ∉ s.worker.run?.toList ++ s.commands.filterMap Command.run?)
    (unordered : ∀ source, s.order? ≠ some (s.generation, source)) :
    Outlook interpreter capacity answers s []

def scene (s : Runner) : Scene :=
  ⟨s.shared.generation, s.shared.commands, s.shared.channel, s.worker,
    s.foreground.activity.order?, s.foreground.activity.answer?⟩

/-- What the inbox says of the current run. -/
def news (s : Runner) : List Remark :=
  s.shared.inbox.filterMap (Message.remark? s.shared.generation)

/-- `rest` is still to be heard of the current run, where its next requests get the given
answers. -/
structure Prospect (interpreter : Interpreter) (capacity : Nat) (answers : List String) (s : Runner)
    (rest : List Remark) : Prop where
  attending : s.foreground.activity.isAttending = true
  ahead : ∃ ahead, Outlook interpreter capacity answers s.scene ahead ∧ rest = s.news ++ ahead
  /-- The run is active until all is heard. -/
  active : s.foreground.active = some s.shared.generation ∨ rest = []
  /-- Nothing comes after the end. -/
  ended : rest.Pairwise fun a _ => a.isTerminal = false

variable {interpreter : Interpreter} {capacity : Nat} {answers : List String} {s t : Runner}
  {deeds : List Deed} {rest ahead : List Remark} {request : Request} {text : String}

/-! ### Steps of the worker -/

section

variable {shared : Shared} {worker : Worker}

/-- The worker says nothing of a run that it is not busy with. -/
theorem news_turn_of_ne (sound : Sound capacity s)
    (turn : Worker.Turn interpreter s.shared s.worker shared worker)
    (other : s.worker.run? ≠ some s.shared.generation) :
    ({ s with shared, worker } : Runner).news = s.news := by
  obtain ⟨news, hinbox, hnews⟩ := turn.news sound.worker
  have hnone : news.filterMap (Message.remark? s.shared.generation) = [] := by
    refine List.filterMap_eq_nil_iff.mpr fun message hmessage => ?_
    have hrun := hnews message hmessage
    cases message with
    | event event =>
        have hother : event.run? ≠ some s.shared.generation := fun h => other (hrun ▸ h)
        simp [Message.remark?, hother]
    | line | closed => rfl
  simp [Runner.news, turn.generation, hinbox, hnone]

/-- A run that the worker is busy with is not to come any more. -/
theorem Sound.not_to_come (sound : Sound capacity s) {run : Nat} (busy : s.worker.run? = some run) :
    run ∉ s.shared.commands.filterMap Command.run? ∧
      ∀ source, s.foreground.activity.order? ≠ some (run, source) := by
  have hsorted := sound.sorted
  rw [jobs, tasks, busy, Option.toList_some, List.append_assoc, List.singleton_append,
    List.pairwise_cons] at hsorted
  refine ⟨fun hmem => ?_, fun source horder => ?_⟩
  · exact Nat.lt_irrefl _ (hsorted.1 run (List.mem_append_left _ hmem))
  · have hrun : run ∈ s.foreground.activity.run?.toList :=
      Option.mem_toList.mpr (Activity.run?_of_order? horder)
    exact Nat.lt_irrefl _ (hsorted.1 run (List.mem_append_right _ hrun))

/-- When the worker leaves the current run, nothing more is said of it. -/
theorem Outlook.left (sound : Sound capacity s) (busy : s.worker.run? = some s.shared.generation)
    (hgeneration : shared.generation = s.shared.generation)
    (hcommands : shared.commands = s.shared.commands) (idle : worker.run? = none) :
    Outlook interpreter capacity answers ({ s with shared, worker } : Runner).scene [] := by
  obtain ⟨unqueued, unordered⟩ := sound.not_to_come busy
  refine .silent ?_ ?_
  · show shared.generation ∉ worker.run?.toList ++ shared.commands.filterMap Command.run?
    rwa [hgeneration, hcommands, idle, Option.toList_none, List.nil_append]
  · show ∀ source, s.foreground.activity.order? ≠ some (shared.generation, source)
    rwa [hgeneration]

/-- What the worker says of a run that it is running. -/
theorem Outlook.advance (sound : Sound capacity s)
    (turn : Worker.Turn interpreter s.shared s.worker shared worker) {program : Dialogue Ending}
    (phase : s.worker.phase = .running s.shared.generation program) :
    ∃ said ahead, Outlook interpreter capacity answers
      ({ s with shared, worker } : Runner).scene ahead ∧
      ({ s with shared, worker } : Runner).news = s.news ++ said ∧
      program.remarks capacity answers = said ++ ahead := by
  have hbusy : s.worker.run? = some s.shared.generation := by simp [Worker.run?, phase]
  have hcanceled : s.worker.isCanceled s.shared s.shared.generation = false := by
    simp [Worker.isCanceled, sound.worker.connected]
  have hleft {worker : Worker} (idle : worker.run? = none) :
      Outlook interpreter capacity answers ({ s with worker } : Runner).scene [] :=
    .left sound hbusy rfl rfl idle
  obtain ⟨s, w, c⟩ := s
  replace phase : w.phase = .running s.generation program := phase
  cases turn with
  | check w =>
      rename_i next
      obtain ⟨rfl, rfl⟩ := Phase.running.inj phase
      have hnext := congrArg (fun canceled => Phase.running s.generation (next canceled)) hcanceled
      exact ⟨[], _, .running hnext, by simp [Runner.news], rfl⟩
  | tell w =>
      obtain ⟨rfl, rfl⟩ := Phase.running.inj phase
      refine ⟨[.output _], _, .running rfl, ?_, rfl⟩
      simp [Runner.news, Shared.post, Message.remark?, Event.run?, Event.remark?]
  | ask w =>
      obtain ⟨rfl, rfl⟩ := Phase.running.inj phase
      exact ⟨[], _, .unsent rfl rfl rfl, by simp [Runner.news], rfl⟩
  | conclude w told =>
      rename_i ending event
      obtain ⟨rfl, rfl⟩ := Phase.running.inj phase
      cases ending with
      | finished | failed =>
          cases told
          exact ⟨[], _, .reporting rfl rfl rfl, by simp [Runner.news], rfl⟩
      | canceled | crashed | exhausted => cases told
  | leave w silent =>
      rename_i ending
      obtain ⟨rfl, rfl⟩ := Phase.running.inj phase
      refine ⟨[], [], hleft rfl, by simp [Runner.news], ?_⟩
      cases ending with
      | canceled | exhausted => rfl
      | finished | failed | crashed => exact silent.elim
  | crash w =>
      obtain ⟨rfl, rfl⟩ := Phase.running.inj phase
      exact ⟨[], [], hleft rfl, by simp [Runner.news], rfl⟩
  | _ => cases phase

/-- What the worker says while the current run makes a request. -/
theorem Outlook.ask (sound : Sound capacity s) (agreed : s.Agreed)
    (turn : Worker.Turn interpreter s.shared s.worker shared worker) {stage : Asking}
    {next : String → Dialogue Ending} (phase : s.worker.phase = .asking request stage next)
    (current : request.run = s.shared.generation) (unsent : stage.isUnsent = true) :
    ∃ said ahead, Outlook interpreter capacity answers
      ({ s with shared, worker } : Runner).scene ahead ∧
      ({ s with shared, worker } : Runner).news = s.news ++ said ∧
      .prompt request.prompt ::
        (next (Channel.readBack capacity (answers.headD ""))).remarks capacity answers.tail =
          said ++ ahead := by
  have hfits := agreed.fitsCurrent phase current
  have hanswer : s.foreground.activity.answer? = none := by
    refine Option.eq_none_iff_forall_ne_some.mpr fun answer hanswer => ?_
    obtain ⟨request', text⟩ := answer
    have hmem := agreed.mem_awaited_of_answered (Activity.answered?_of_answer? hanswer)
    obtain ⟨_, _, hasking, sent, _⟩ := mem_awaited.mp hmem
    cases phase.symm.trans hasking
    cases stage <;> simp_all [Asking.isUnsent, Asking.hasSent]
  obtain ⟨s, w, c⟩ := s
  replace current : request.run = s.generation := current
  replace phase : w.phase = .asking request stage next := phase
  cases turn with
  | stage w turn =>
      obtain ⟨rfl, rfl, rfl⟩ := Phase.asking.inj phase.symm
      cases turn with
      | claim | pass => exact ⟨[], _, .unsent rfl current rfl, by simp [Runner.news], rfl⟩
      | fail stale => exact (stale current).elim
      | send =>
          refine ⟨[.prompt request.prompt], _, .waiting rfl current rfl hfits hanswer, ?_, rfl⟩
          simp [Runner.news, Shared.post, Message.remark?, Event.run?, Event.remark?, current]
      | _ => cases unsent
  | resume w =>
      obtain ⟨rfl, rfl, rfl⟩ := Phase.asking.inj phase.symm
      cases unsent
  | _ => cases phase

/-- The worker says nothing while the current run waits for an answer. -/
theorem Sound.still_waiting (sound : Sound capacity s)
    (turn : Worker.Turn interpreter s.shared s.worker shared worker) {stage : Asking}
    {next : String → Dialogue Ending} (phase : s.worker.phase = .asking request stage next)
    (sent : stage.hasSent = true) (waiting : s.shared.channel.state = .waiting) :
    shared = s.shared ∧ ∃ stage, worker.phase = .asking request stage next ∧
      stage.hasSent = true := by
  have hfits := sound.worker.fits
  rw [Worker.Fits, phase] at hfits
  obtain ⟨s, w, c⟩ := s
  replace phase : w.phase = .asking request stage next := phase
  cases turn with
  | stage w turn =>
      obtain ⟨rfl, rfl, rfl⟩ := Phase.asking.inj phase.symm
      obtain ⟨hshared, hsent⟩ := turn.still_waiting sent hfits waiting
      exact ⟨hshared, _, rfl, hsent⟩
  | resume w =>
      obtain ⟨rfl, rfl, rfl⟩ := Phase.asking.inj phase.symm
      cases sent
  | _ => cases phase

/-- The worker says nothing while the current run takes its answer. -/
theorem Outlook.takeAnswer
    (turn : Worker.Turn interpreter s.shared s.worker shared worker) {stage : Asking}
    {next : String → Dialogue Ending} (phase : s.worker.phase = .asking request stage next)
    (current : request.run = s.shared.generation) (past : s.shared.channel.state ≠ .waiting)
    (outcome : stage.woken.outcome? s.shared.channel = some text) :
    Outlook interpreter capacity answers ({ s with shared, worker } : Runner).scene
      ((next text).remarks capacity answers) ∧ shared.inbox = s.shared.inbox := by
  obtain ⟨s, w, c⟩ := s
  replace current : request.run = s.generation := current
  replace phase : w.phase = .asking request stage next := phase
  cases turn with
  | stage w turn =>
      obtain ⟨rfl, rfl, rfl⟩ := Phase.asking.inj phase.symm
      have houtcome : stage.outcome? s.channel = some text := by
        cases turn <;> exact outcome
      obtain ⟨hnext, hover, _⟩ := turn.outcome houtcome past
      refine ⟨.answered rfl ?_ hover (Asking.outcome?_woken hnext), ?_⟩
      · exact current.trans turn.generation.symm
      · cases turn with
        | send => cases houtcome
        | _ => rfl
  | resume w =>
      obtain ⟨rfl, rfl, rfl⟩ := Phase.asking.inj phase.symm
      cases outcome
      exact ⟨.running (congrArg (Phase.running · _) current), rfl⟩
  | _ => cases phase

theorem Outlook.turn (outlook : Outlook interpreter capacity answers s.scene ahead)
    (sound : Sound capacity s) (agreed : s.Agreed)
    (turn : Worker.Turn interpreter s.shared s.worker shared worker) :
    ∃ said ahead', Outlook interpreter capacity answers
      ({ s with shared, worker } : Runner).scene ahead' ∧
      ({ s with shared, worker } : Runner).news = s.news ++ said ∧ ahead = said ++ ahead' := by
  have hgeneration := turn.generation
  cases outlook with
  | ordering order =>
      rename_i source
      have hother : s.worker.run? ≠ some s.shared.generation := fun busy =>
        (sound.not_to_come busy).2 source order
      have horder : ({ s with shared, worker } : Runner).scene.order? =
          some (shared.generation, source) := by
        rw [hgeneration]
        exact order
      refine ⟨[], _, .ordering horder, ?_, rfl⟩
      rw [List.append_nil]
      exact news_turn_of_ne sound turn hother
  | queued queued =>
      rename_i source
      have hother : s.worker.run? ≠ some s.shared.generation := fun busy =>
        (sound.not_to_come busy).1 (List.mem_filterMap.mpr ⟨_, queued, rfl⟩)
      have hnews := news_turn_of_ne sound turn hother
      refine ⟨[], (interpreter source).remarks capacity answers, ?_, by rwa [List.append_nil], rfl⟩
      obtain ⟨s, w, c⟩ := s
      replace queued : Command.run s.generation source ∈ s.commands := queued
      cases turn with
      | prepare w first | retire w first =>
          rw [first] at queued
          exact .queued ((List.mem_cons.mp queued).resolve_left Command.noConfusion)
      | accept w first =>
          rw [first] at queued
          rcases List.mem_cons.mp queued with heq | hlater
          · obtain ⟨rfl, rfl⟩ := Command.run.inj heq
            exact .starting rfl
          · exact .queued hlater
      | stage w turn =>
          refine .queued ?_
          show Command.run shared.generation source ∈ shared.commands
          rwa [hgeneration, turn.commands]
      | _ => exact .queued queued
  | silent idle unordered =>
      have hidle : shared.generation ∉ worker.run?.toList ++
          shared.commands.filterMap Command.run? := by
        rw [hgeneration]
        exact fun hmem => idle ((turn.runs sound.worker).subset hmem)
      have hunordered : ∀ source, s.foreground.activity.order? ≠ some (shared.generation, source) := by
        rw [hgeneration]
        exact unordered
      have hother : s.worker.run? ≠ some s.shared.generation := fun busy =>
        idle (List.mem_append_left _ (Option.mem_toList.mpr busy))
      refine ⟨[], [], .silent hidle hunordered, ?_, rfl⟩
      rw [List.append_nil]
      exact news_turn_of_ne sound turn hother
  | starting phase =>
      obtain ⟨s, w, c⟩ := s
      cases turn with
      | skip w stale =>
          simp only [scene, Phase.starting.injEq] at phase
          exact (stale phase.1.symm).elim
      | refuse w current early =>
          have hprepared := sound.worker.prepared.of_busy (by simp)
          simp [show w.lastRequest? = none from early] at hprepared
      | commence w =>
          simp only [scene, Phase.starting.injEq] at phase
          obtain ⟨rfl, rfl⟩ := phase
          exact ⟨[], _, .running rfl, by simp [Runner.news], rfl⟩
      | _ => cases phase
  | running phase => exact Outlook.advance sound turn phase
  | unsent phase current unsent => exact Outlook.ask sound agreed turn phase current unsent
  | waiting phase current sent waiting unanswered =>
      obtain ⟨rfl, stage, hphase, hsent⟩ := sound.still_waiting turn phase sent waiting
      refine ⟨[], _, .waiting hphase current hsent waiting unanswered, ?_, rfl⟩
      rw [List.append_nil]
      rfl
  | answering phase current sent waiting answer =>
      obtain ⟨rfl, stage, hphase, hsent⟩ := sound.still_waiting turn phase sent waiting
      refine ⟨[], _, .answering hphase current hsent waiting answer, ?_, rfl⟩
      rw [List.append_nil]
      rfl
  | answered phase current past outcome =>
      obtain ⟨houtlook, hinbox⟩ := Outlook.takeAnswer turn phase current past outcome
      refine ⟨[], _, houtlook, ?_, rfl⟩
      simp [Runner.news, hinbox, hgeneration]
  | reporting phase current named =>
      have hbusy : s.worker.run? = some s.shared.generation := by
        rw [Worker.run?, show s.worker.phase = _ from phase]
        exact current
      have hleft (idle : worker.run? = none) (hcommands : shared.commands = s.shared.commands) :
          Outlook interpreter capacity answers ({ s with shared, worker } : Runner).scene [] :=
        .left sound hbusy hgeneration hcommands idle
      obtain ⟨s, w, c⟩ := s
      cases turn with
      | report w =>
          rename_i event remark _
          cases phase
          replace current : event.run? = some s.generation := current
          refine ⟨[remark], [], hleft rfl rfl, ?_, rfl⟩
          simp [Runner.news, Shared.post, Message.remark?, current, named]
      | _ => cases phase

theorem Prospect.turn (prospect : Prospect interpreter capacity answers s rest)
    (sound : Sound capacity s) (agreed : s.Agreed)
    (turn : Worker.Turn interpreter s.shared s.worker shared worker) :
    Prospect interpreter capacity answers { s with shared, worker } rest := by
  obtain ⟨ahead, outlook, hrest⟩ := prospect.ahead
  obtain ⟨said, ahead', houtlook, hnews, rfl⟩ := outlook.turn sound agreed turn
  refine ⟨prospect.attending, ⟨ahead', houtlook, ?_⟩, ?_, prospect.ended⟩
  · rw [hrest, hnews, List.append_assoc]
  · rw [show (Runner.shared { s with shared, worker }).generation = _ from turn.generation]
    exact prospect.active

end

/-! ### Steps of the foreground -/

/-- A wake makes no difference to what the worker is going to say. -/
theorem Outlook.woken (outlook : Outlook interpreter capacity answers s.scene ahead) :
    Outlook interpreter capacity answers
      ({ s with worker := s.worker.woken } : Runner).scene ahead := by
  cases outlook with
  | ordering order => exact .ordering order
  | queued queued => exact .queued queued
  | starting phase => exact .starting ((Worker.phase_woken_of_ne (phase ▸ by simp)).trans phase)
  | running phase => exact .running ((Worker.phase_woken_of_ne (phase ▸ by simp)).trans phase)
  | unsent phase current unsent =>
      exact .unsent (Worker.phase_woken phase) current (by rwa [Asking.isUnsent_woken])
  | waiting phase current sent waiting unanswered =>
      exact .waiting (Worker.phase_woken phase) current (by rwa [Asking.hasSent_woken]) waiting
        unanswered
  | answering phase current sent waiting answer =>
      exact .answering (Worker.phase_woken phase) current (by rwa [Asking.hasSent_woken]) waiting
        answer
  | answered phase current past outcome =>
      exact .answered (Worker.phase_woken phase) current past (Asking.outcome?_woken outcome)
  | reporting phase current named =>
      exact .reporting ((Worker.phase_woken_of_ne (phase ▸ by simp)).trans phase) current named
  | silent idle unordered =>
      refine .silent ?_ unordered
      show s.shared.generation ∉ s.worker.woken.run?.toList ++ _
      rwa [Worker.run?_woken]

/-- A request that is awaited is the one that the program is in, and its answer comes next. -/
theorem Outlook.awaiting (outlook : Outlook interpreter capacity answers s.scene ahead)
    (sound : Sound capacity s) (waits : request ∈ s.awaited) :
    ∃ stage next, s.worker.phase = .asking request stage next ∧ stage.hasSent = true ∧
      s.shared.channel.state = .waiting ∧ request.run = s.shared.generation ∧
      ((s.foreground.activity.answer? = none ∧
        ahead = (next (Channel.readBack capacity (answers.headD ""))).remarks capacity
          answers.tail) ∨
      ∃ text, s.foreground.activity.answer? = some (request, text) ∧
        ahead = (next (Channel.readBack capacity text)).remarks capacity answers) := by
  obtain ⟨stage, next, hphase, sent, waiting, current⟩ := mem_awaited.mp waits
  have hbusy : s.worker.run? = some s.shared.generation := by
    simp [Worker.run?, hphase, current]
  refine ⟨stage, next, hphase, sent, waiting, current, ?_⟩
  cases outlook with
  | ordering order => exact ((sound.not_to_come hbusy).2 _ order).elim
  | queued queued =>
      exact ((sound.not_to_come hbusy).1 (List.mem_filterMap.mpr ⟨_, queued, rfl⟩)).elim
  | silent idle => exact (idle (List.mem_append_left _ (Option.mem_toList.mpr hbusy))).elim
  | unsent phase _ unsent =>
      cases hphase.symm.trans phase
      cases stage <;> simp_all [Asking.isUnsent, Asking.hasSent]
  | waiting phase _ _ _ unanswered =>
      cases hphase.symm.trans phase
      exact .inl ⟨unanswered, rfl⟩
  | answering phase _ _ _ answer =>
      cases hphase.symm.trans phase
      exact .inr ⟨_, answer, rfl⟩
  | answered _ _ past => exact (past waiting).elim
  | starting phase | running phase | reporting phase => cases hphase.symm.trans phase

/-- The request that is being answered gets the answer, whatever happens to the text meanwhile. -/
theorem Outlook.answering_of_answer? (outlook : Outlook interpreter capacity answers s.scene ahead)
    (sound : Sound capacity s) (agreed : s.Agreed)
    (answer : s.foreground.activity.answer? = some (request, text)) :
    ∃ stage next, s.worker.phase = .asking request stage next ∧ stage.hasSent = true ∧
      s.shared.channel.state = .waiting ∧ request.run = s.shared.generation ∧
      ahead = (next (Channel.readBack capacity text)).remarks capacity answers := by
  have waits := agreed.mem_awaited_of_answered (Activity.answered?_of_answer? answer)
  obtain ⟨stage, next, hphase, sent, waiting, current, hahead⟩ := outlook.awaiting sound waits
  refine ⟨stage, next, hphase, sent, waiting, current, ?_⟩
  rcases hahead with ⟨unanswered, _⟩ | ⟨text', answer', rfl⟩
  · cases unanswered.symm.trans answer
  · cases answer'.symm.trans answer
    rfl

/-- A run that is about to be ordered is going to say all that its program says. -/
theorem Outlook.of_order? (outlook : Outlook interpreter capacity answers s.scene ahead)
    (sound : Sound capacity s) (agreed : s.Agreed) {source : String}
    (order : s.foreground.activity.order? = some (s.shared.generation, source)) :
    ahead = (interpreter source).remarks capacity answers := by
  have htasks := agreed.not_mem_tasks sound (Activity.run?_of_order? order)
  have hother {run : Nat} (busy : s.worker.run? = some run) : run ≠ s.shared.generation := by
    rintro rfl
    exact htasks (List.mem_append_left _ (Option.mem_toList.mpr busy))
  cases outlook with
  | ordering order' =>
      cases order.symm.trans order'
      rfl
  | queued queued =>
      exact (htasks (List.mem_append_right _ (List.mem_filterMap.mpr ⟨_, queued, rfl⟩))).elim
  | silent _ unordered => exact (unordered source order).elim
  | starting phase | running phase =>
      refine (hother ?_ rfl).elim
      rw [Worker.run?, show s.worker.phase = _ from phase]
      rfl
  | unsent phase current | waiting phase current | answering phase current
  | answered phase current =>
      refine (hother ?_ current).elim
      rw [Worker.run?, show s.worker.phase = _ from phase]
  | reporting phase current =>
      refine (hother ?_ rfl).elim
      rw [Worker.run?, show s.worker.phase = _ from phase]
      exact current

theorem news_cons {message : Message} {inbox : List Message}
    (first : s.shared.inbox = message :: inbox) :
    s.news = (message.remark? s.shared.generation).toList ++ (s.dropFirst inbox).news := by
  simp only [Runner.news, Runner.dropFirst, first, List.filterMap_cons]
  cases message.remark? s.shared.generation <;> rfl

/-- What is dropped is nothing that is still to be heard. -/
theorem Prospect.dropped (prospect : Prospect interpreter capacity answers s rest) {event : Event}
    {inbox : List Message} {run : Nat} (first : s.shared.inbox = .event event :: inbox)
    (named : event.run? = some run) (other : s.foreground.active ≠ some run) :
    Message.remark? s.shared.generation (.event event) = none := by
  refine Option.eq_none_iff_forall_ne_some.mpr fun remark hremark => ?_
  obtain ⟨_, heq, hrun, _⟩ := Message.remark?_eq_some hremark
  cases heq
  rcases prospect.active with hactive | hnil
  · exact other (hactive.trans (hrun.symm.trans named))
  · obtain ⟨ahead, _, hrest⟩ := prospect.ahead
    rw [hnil, news_cons first, hremark] at hrest
    cases hrest

/-- What is heard of the current run is the next of what is still to be heard. -/
theorem Prospect.hear {s : Shared} {w : Worker} {c : Foreground} {patient : Bool} {event : Event}
    {inbox : List Message}
    (prospect : Prospect interpreter capacity answers ⟨s, w, { c with activity := .taking patient }⟩
      rest)
    (agreed : Agreed ⟨s, w, { c with activity := .taking patient }⟩)
    (first : s.inbox = .event event :: inbox)
    (admitted : ∀ run, event.run? = some run → c.active = some run) :
    ∃ rest', rest = (Message.remark? s.generation (.event event)).toList ++ rest' ∧
      Prospect interpreter capacity answers
        ⟨{ s with inbox }, w,
          { c.observe event with activity := .returned (.received (.event event)) }⟩ rest' := by
  obtain ⟨ahead, outlook, hrest⟩ := prospect.ahead
  rw [news_cons first, List.append_assoc] at hrest
  refine ⟨_, hrest, ⟨rfl, ⟨ahead, outlook, rfl⟩, ?_, ?_⟩⟩
  · cases hterminal : event.isTerminal with
    | false =>
        rcases prospect.active with hactive | hnil
        · exact .inl ((c.active_observe_of_not_terminal hterminal).trans hactive)
        · exact .inr (List.append_eq_nil_iff.mp (hrest.symm.trans hnil)).2
    | true =>
        -- Nothing is to be heard after the end, which is one of the current run.
        obtain ⟨run, remark, hrun, hremark⟩ : ∃ run remark, event.run? = some run ∧
            event.remark? = some remark := by
          cases event with
          | ready | requested | produced => cases hterminal
          | finished | failed => exact ⟨_, _, rfl, rfl⟩
        have current : run = s.generation := by
          refine (agreed.active run (admitted run hrun)).resolve_right (by rintro ⟨⟩)
        have hhead : Message.remark? s.generation (.event event) = some remark := by
          rw [Message.remark?, if_pos (current ▸ hrun), hremark]
        have hended := prospect.ended
        rw [hrest, show Message.remark? _ _ = some remark from hhead, Option.toList_some,
          List.singleton_append, List.pairwise_cons] at hended
        refine .inr (List.eq_nil_iff_forall_not_mem.mpr fun later hlater => ?_)
        have hnot := hended.1 later hlater
        rw [Event.isTerminal_of_remark? hremark, hterminal] at hnot
        cases hnot
  · exact (List.pairwise_append.mp (hrest ▸ prospect.ended)).2.1

/-- The foreground hears what is still to be heard, in order. -/
theorem Prospect.act (prospect : Prospect interpreter capacity answers s rest)
    (sound : Sound capacity s) (agreed : s.Agreed) (there : s.worker.hasStopped = false)
    (act : Act s t) :
    ∃ rest', rest = Deed.remarks s.shared.generation t.foreground.deeds ++ rest' ∧
      Prospect interpreter capacity answers t rest' ∧
      t.shared.generation = s.shared.generation := by
  have hattending := prospect.attending
  obtain ⟨ahead, outlook, hrest⟩ := prospect.ahead
  cases act with
  | supersede | depart | shutDown | shutDownInVain | join | wakeToRelease | wakeToShutDown
  | orderRelease => cases hattending
  | reset s w c =>
      rename_i errand
      cases errand with
      | start run source =>
          obtain rfl : run = s.generation := agreed.ordered run rfl
          obtain rfl := outlook.of_order? sound agreed rfl
          exact ⟨rest, rfl, ⟨rfl, ⟨_, .ordering rfl, hrest⟩, prospect.active, prospect.ended⟩, rfl⟩
      | release | shutdown => cases hattending
  | wakeToStart s w c =>
      exact ⟨rest, rfl, ⟨rfl, ⟨_, outlook.woken, hrest⟩, prospect.active, prospect.ended⟩, rfl⟩
  | order s w c =>
      rename_i run source _
      obtain rfl : run = s.generation := agreed.ordered run rfl
      obtain rfl := outlook.of_order? sound agreed rfl
      refine ⟨rest, rfl, ⟨rfl, ⟨_, .queued ?_, hrest⟩, prospect.active, prospect.ended⟩, rfl⟩
      exact List.mem_append_right _ List.mem_cons_self
  | orderInVain s w c gone => cases gone.symm.trans there
  | look | answered | takeNothing | probeInVain | retry | giveUp =>
      exact ⟨rest, rfl, ⟨rfl, ⟨ahead, outlook, hrest⟩, prospect.active, prospect.ended⟩, rfl⟩
  | lookInVain s w c late | announceInVain s w c late =>
      obtain ⟨_, _, _, _, waiting, _⟩ := outlook.answering_of_answer? sound agreed rfl
      exact (late waiting).elim
  | write s w c =>
      obtain ⟨stage, next, hphase, sent, waiting, current, rfl⟩ :=
        outlook.answering_of_answer? sound agreed rfl
      refine ⟨rest, rfl, ⟨rfl, ⟨_, .answering hphase current sent ?_ rfl, hrest⟩, prospect.active,
        prospect.ended⟩, rfl⟩
      exact (s.channel.state_writeText _).trans waiting
  | announce s w c =>
      obtain ⟨stage, next, hphase, sent, waiting, current, rfl⟩ :=
        outlook.answering_of_answer? sound agreed rfl
      have hfits : stage.Fits .waiting := by
        have hfits := sound.worker.fits
        rw [Worker.Fits, hphase, waiting] at hfits
        exact hfits
      rename_i request text _
      have hread : (s.channel.setState .ready).readText = Channel.readBack capacity text := by
        rw [Channel.readText_setState, agreed.written _ _ rfl, sound.shared.capacity]
      refine ⟨rest, rfl, ⟨rfl, ⟨_, .answered hphase current ?_ ?_, hrest⟩, prospect.active,
        prospect.ended⟩, rfl⟩
      · rw [show Scene.channel _ = s.channel.setState .ready from rfl, Channel.state_setState]
        simp
      · rw [show Scene.channel _ = s.channel.setState .ready from rfl, ← hread]
        exact Asking.outcome?_ready sent hfits (Channel.state_setState _ _)
  | wakeToRead s w c =>
      exact ⟨rest, rfl, ⟨rfl, ⟨ahead, outlook.woken, hrest⟩, prospect.active, prospect.ended⟩, rfl⟩
  | drop s w c first named other =>
      have hnone := prospect.dropped first named other
      refine ⟨rest, rfl, ⟨rfl, ⟨ahead, outlook, ?_⟩, prospect.active, prospect.ended⟩, rfl⟩
      rw [hrest, news_cons first, hnone]
      rfl
  | hear s w c first admitted =>
      obtain ⟨rest', hheard, hprospect⟩ := prospect.hear agreed first admitted
      refine ⟨rest', ?_, hprospect, rfl⟩
      rw [hheard, ← Deed.remarks_received]
      rfl
  | readLine s w c first plain =>
      rw [news_cons first, Message.remark?_of_plain plain] at hrest
      refine ⟨rest, ?_, ⟨rfl, ⟨ahead, outlook, hrest⟩, prospect.active, prospect.ended⟩, rfl⟩
      show rest = Deed.remarks _ [.replied (.received _)] ++ rest
      rw [Deed.remarks_received, Message.remark?_of_plain plain]
      rfl

/-! ### All steps -/

/-- The pending request gets the next answer. -/
theorem Prospect.submit (prospect : Prospect interpreter capacity answers s rest)
    (sound : Sound capacity s) (agreed : s.Agreed) (free : s.foreground.isFree = true)
    (pending : s.foreground.pending = some request) :
    Prospect interpreter capacity answers.tail (s.begin (.submit (answers.headD ""))) rest := by
  obtain ⟨ahead, outlook, hrest⟩ := prospect.ahead
  have hanswered := Foreground.answered?_of_isFree free
  obtain ⟨stage, next, phase, sent, waiting, current, hahead⟩ :=
    outlook.awaiting sound (agreed.mem_awaited_of_pending free pending)
  rw [begin_submit_of_some pending]
  rcases hahead with ⟨_, rfl⟩ | ⟨text, answer, _⟩
  · exact ⟨rfl, ⟨_, .answering phase current sent waiting rfl, hrest⟩, prospect.active,
      prospect.ended⟩
  · cases hanswered.symm.trans (Activity.answered?_of_answer? answer)

/-- Calls by themselves change nothing of what is to be heard, if they do not answer. -/
theorem Prospect.begin_of_ne (prospect : Prospect interpreter capacity answers s rest)
    (free : s.foreground.isFree = true) {call : Call} (attending : call.isAttending = true)
    (other : s.foreground.pending = none ∨ ∀ text, call ≠ .submit text) :
    Prospect interpreter capacity answers (s.begin call) rest := by
  obtain ⟨ahead, outlook, hrest⟩ := prospect.ahead
  obtain ⟨shared, w, activity, active, ready, pending⟩ := s
  cases activity with
  | idle | returned =>
      cases call with
      | receive | poll => exact ⟨rfl, ⟨ahead, outlook, hrest⟩, prospect.active, prospect.ended⟩
      | submit text =>
          obtain rfl : pending = none := other.resolve_right fun h => h text rfl
          exact ⟨rfl, ⟨ahead, outlook, hrest⟩, prospect.active, prospect.ended⟩
      | start | reset | close => cases attending
  | _ => cases free

theorem remarks_begin (s : Runner) (call : Call) (run : Nat) :
    Deed.remarks run
      (.called s.foreground.pending call :: (s.begin call).foreground.deeds) = [] := by
  cases call with
  | submit text =>
      cases hpending : s.foreground.pending <;>
        simp [Runner.begin, Foreground.begin, Foreground.deeds, Foreground.reply?, Deed.remarks,
          Deed.heard?, hpending]
  | start | receive | poll | reset | close => rfl

/-- No step of a runner changes what is heard of the current run in the end, as long as the
foreground attends to it and gives the answers. -/
theorem Prospect.move (prospect : Prospect interpreter capacity answers s rest)
    (sound : Sound capacity s) (agreed : s.Agreed) (there : s.worker.hasStopped = false)
    (move : Move interpreter s deeds t)
    (hdeeds : ∀ deed ∈ deeds, deed.Calls (·.isAttending = true) ∧ deed.Honest)
    (gives : Deed.Gives answers deeds) :
    ∃ rest', rest = Deed.remarks s.shared.generation deeds ++ rest' ∧
      Prospect interpreter capacity (answers.drop (Deed.submissions deeds).length) t rest' ∧
      t.shared.generation = s.shared.generation := by
  cases move with
  | call call free =>
      have hcall := (hdeeds _ List.mem_cons_self).1
      rw [← List.singleton_append, Deed.gives_append] at gives
      refine ⟨rest, by rw [remarks_begin]; rfl, ?_, rfl⟩
      rw [← List.singleton_append, Deed.submissions_append, Deed.submissions_foreground, List.append_nil]
      cases hpending : s.foreground.pending with
      | none => exact prospect.begin_of_ne free hcall (.inl hpending)
      | some request =>
          rw [hpending] at gives
          cases call with
          | submit text =>
              have htext : text = answers.headD "" := by
                rw [gives.1 0 request text rfl]
                cases answers <;> rfl
              subst htext
              rw [show Deed.submissions _ = [(request, answers.headD "")] from rfl,
                List.length_singleton, List.drop_one]
              exact prospect.submit sound agreed free hpending
          | receive | poll => exact prospect.begin_of_ne free hcall (.inr (by simp))
          | start | reset | close => cases hcall
  | foreground h =>
      rw [Deed.submissions_foreground]
      exact prospect.act sound agreed there (act_of_foregroundStep? sound.shared.channel h)
  | worker h =>
      obtain ⟨shared, worker, turn, rfl⟩ := sound.turn_of_workerStep? h
      rw [Deed.submissions_worker]
      refine ⟨rest, ?_, prospect.turn sound agreed turn, turn.generation⟩
      have hnone : Deed.remarks s.shared.generation s.worker.deeds = [] :=
        List.filterMap_eq_nil_iff.mpr (s.worker.forall_mem_deeds (fun _ => rfl) fun _ _ => rfl)
      rw [hnone]
      rfl
  | spurious =>
      obtain ⟨ahead, outlook, hrest⟩ := prospect.ahead
      exact ⟨rest, rfl, ⟨prospect.attending, ⟨ahead, outlook.woken, hrest⟩, prospect.active,
        prospect.ended⟩, rfl⟩
  | post message =>
      have hhonest := (hdeeds (.posted message) (by simp)).2
      have hnone : message.remark? s.shared.generation = none :=
        Message.remark?_of_plain (Deed.honest_posted.mp hhonest)
      have hnews : (s.post message).news = s.news := by
        simp [Runner.news, Runner.post, Shared.post, hnone]
      obtain ⟨ahead, outlook, hrest⟩ := prospect.ahead
      exact ⟨rest, rfl, ⟨prospect.attending, ⟨ahead, outlook, hnews ▸ hrest⟩, prospect.active,
        prospect.ended⟩, rfl⟩

end Runner

end Pseudocode
