import Mathlib.Algebra.Group.Nat.Defs
import Mathlib.Data.List.Basic
import Pseudocode.Answering
import Pseudocode.Interpreter
import Pseudocode.Proofs.Asking
import Pseudocode.Proofs.Requests
import Pseudocode.Worker.Batch

/-!
The numbers of requests over the whole life of a worker. It counts the requests that it makes, also
those of which nobody is told, and begins again from one when it is given a channel. So between two
channels the numbers that are sent rise, and a worker that is given one channel never uses a number
twice; a worker that is given another channel does.

A life is followed by what the worker does that others can tell, while others do what they like to
what is shared.
-/

namespace Pseudocode

/-- What a worker does: it takes a command, its program makes a request, or it sends an event. -/
inductive Act where
  | took (command : Command)
  | asked (request : Request)
  | sent (event : Event)
  deriving DecidableEq, Repr

namespace Act

def isInit : Act → Bool
  | took .init => true
  | _ => false

/-- The number of a request that is made. -/
def askedId? : Act → Option Nat
  | asked request => some request.id
  | _ => none

/-- The number of a request that the foreground is told of. -/
def sentId? : Act → Option Nat
  | sent (.requested request) => some request.id
  | _ => none

/-- The command that is taken. -/
def command? : Act → Option Command
  | took command => some command
  | _ => none

/-- The event that is sent. -/
def event? : Act → Option Event
  | sent event => some event
  | _ => none

/-- Whether an act has nothing to do with the numbers of requests. -/
def IsAside (act : Act) : Prop :=
  act.isInit = false ∧ act.askedId? = none ∧ act.sentId? = none

/-- What was done since a channel was given last. -/
def recent (log : List Act) : List Act := (log.reverse.takeWhile (!·.isInit)).reverse

variable {log after : List Act} {act : Act}

theorem recent_append (before : List Act) (h : ∀ act ∈ after, act.isInit = false) :
    recent (before ++ after) = recent before ++ after := by
  rw [recent, recent, List.reverse_append, List.takeWhile_append_of_pos, List.reverse_append,
    List.reverse_reverse]
  intro act hact
  rw [h act (List.mem_reverse.mp hact), Bool.not_false]

theorem recent_concat_of_isInit (h : act.isInit = true) : recent (log ++ [act]) = [] := by
  rw [recent, List.reverse_concat, List.takeWhile_cons_of_neg (by simp [h]), List.reverse_nil]

theorem recent_eq_self (h : ∀ act ∈ log, act.isInit = false) : recent log = log := by
  simpa [recent] using recent_append [] h

theorem isInit_eq_false (h : took .init ∉ log) : ∀ act ∈ log, act.isInit = false := by
  intro act hact
  rw [Bool.eq_false_iff]
  intro hinit
  cases act with
  | took command =>
      cases command with
      | init => exact h hact
      | _ => cases hinit
  | _ => cases hinit

end Act

/-- A request that has still to tell the foreground had to before, and it was not at telling it. -/
theorem Asking.isUnsent_of_step {request : Request} {s : Shared} {stage : Asking}
    (h : (stage.step request s).2.isUnsent = true) : stage.isUnsent = true ∧ stage ≠ sending := by
  have hnot {a : Prop} (h : false = true) : a := absurd h Bool.false_ne_true
  cases stage with
  | claiming | recovering | wakingAfterRecovery | reclaiming | guarding =>
      exact ⟨rfl, Asking.noConfusion⟩
  | sending =>
      simp only [step, Shared.sendEvent?, Shared.send?] at h
      cases hlistening : s.listening with
      | true | false =>
          rw [hlistening] at h
          exact hnot h
  | watching | dozing | inspecting =>
      simp only [step] at h
      split at h <;> exact hnot h
  | consuming text =>
      simp only [step] at h
      split at h <;> exact hnot h
  | _ => exact hnot h

/-- A request leaves the queues alone, but for the event that tells of it. -/
theorem Asking.queues_step (request : Request) (s : Shared) (stage : Asking) :
    (stage.step request s).1.commands = s.commands ∧
      (stage.step request s).1.inbox = s.inbox ++
        if stage = .sending ∧ s.listening = true then [.event (.requested request)] else [] := by
  cases stage with
  | claiming | reclaiming | consuming =>
      simp only [step]
      split <;> simp
  | sending =>
      cases hlistening : s.listening <;>
        simp [step, Shared.sendEvent?, Shared.send?, Shared.post, hlistening]
  | _ => simp [step, Shared.resetChannel]

namespace Phase

/-- Whether a program is being run. -/
def isBusy : Phase → Bool
  | running .. | asking .. => true
  | _ => false

/-- The request of which the foreground has still to be told. -/
def untold? : Phase → Option Request
  | asking request stage _ => if stage.isUnsent then some request else none
  | reporting (.requested request) => some request
  | _ => none

end Phase

namespace Worker

open Act

/-- What the next step of a worker does, if others can tell. -/
def act? (s : Shared) (w : Worker) : Option Act :=
  let told (event : Event) : Option Act := if s.listening then some (.sent event) else none
  match w.phase with
  | .idle => s.commands.head?.map .took
  | .announcing => told .ready
  | .refusing run => told (.failed run "worker has not been initialized")
  | .running run (.ask prompt _) => some (.asked (w.newRequest run prompt))
  | .running run (.tell text _) => told (.produced run text)
  | .asking request .sending _ => told (.requested request)
  | .reporting event => told event
  | _ => none

/-- What can become of a worker from its beginning on, with what it has done. Between two of its
steps others may change all that is shared, also the channel, and wake it; and it may take up each
program with an interpreter of its own. -/
inductive Life : List Act → Shared → Worker → Prop
  | start (s : Shared) : Life [] s .start
  | step {interpreter : Interpreter} {log : List Act} {s s' : Shared} {w w' : Worker}
    (h : Life log s w) (hstep : w.step? interpreter s = some (s', w')) :
    Life (log ++ (w.act? s).toList) s' w'
  | change {log : List Act} {s : Shared} {w : Worker} (h : Life log s w) (s' : Shared) :
    Life log s' w
  | wake {log : List Act} {s : Shared} {w : Worker} (h : Life log s w) : Life log s w.woken

/-- What a step does to the numbering of requests. -/
inductive Counts (w w' : Worker) : Option Act → Prop
  | init (number : w'.lastRequest? = some 0) (free : w'.phase.isBusy = false)
    (untold : w'.phase.untold? = none) : Counts w w' (some (.took .init))
  | ask {request : Request} {next : String → Dialogue Ending} (busy : w.phase.isBusy = true)
    (number : request.id = w.lastRequest?.getD 0 + 1) (last : w'.lastRequest? = some request.id)
    (phase : w'.phase = .asking request .claiming next) : Counts w w' (some (.asked request))
  | send {request : Request} (about : w.phase.untold? = some request)
    (same : w'.lastRequest? = w.lastRequest?) (untold : w'.phase.untold? = none) :
    Counts w w' (some (.sent (.requested request)))
  | other {act? : Option Act} (same : w'.lastRequest? = w.lastRequest?)
    (busy : w'.phase.isBusy = true → w.phase.isBusy = true ∨ w.lastRequest?.isSome = true)
    (untold : ∀ request ∈ w'.phase.untold?, w.phase.untold? = some request)
    (aside : ∀ act ∈ act?, act.IsAside) : Counts w w' act?

variable {interpreter : Interpreter} {log : List Act} {s s' : Shared} {w w' : Worker}

/-- A step that ends outside of a program and leaves the count as it is. -/
theorem Counts.free {act? : Option Act} (same : w'.lastRequest? = w.lastRequest?)
    (free : w'.phase.isBusy = false) (untold : w'.phase.untold? = none)
    (aside : ∀ act ∈ act?, act.IsAside) : Counts w w' act? :=
  .other same (fun busy => absurd (free.symm.trans busy) Bool.false_ne_true)
    (fun _ h => nomatch untold.symm.trans h) aside

/-- A step that goes on with a program, and not with a request. -/
theorem Counts.running {act? : Option Act} {run : Nat} {program : Dialogue Ending}
    (same : w'.lastRequest? = w.lastRequest?) (phase : w'.phase = .running run program)
    (busy : w.phase.isBusy = true ∨ w.lastRequest?.isSome = true)
    (aside : ∀ act ∈ act?, act.IsAside) : Counts w w' act? :=
  .other same (fun _ => busy) (fun _ h => by rw [phase] at h; cases h) aside

/-- Doing nothing that others can tell. -/
theorem aside_none : ∀ act ∈ (none : Option Act), act.IsAside :=
  fun _ h => nomatch h

/-- Sending an event that is no request. -/
theorem aside_told {event : Event} (hevent : (Act.sent event).sentId? = none) (listening : Bool) :
    ∀ act ∈ (if listening then some (Act.sent event) else none), act.IsAside := by
  cases listening with
  | true =>
      rintro _ ⟨⟩
      exact ⟨rfl, rfl, hevent⟩
  | false => exact aside_none

theorem counts_obey (command : Command) : Counts w (w.obey command) (some (.took command)) := by
  cases command with
  | init => exact .init rfl rfl rfl
  | run | shutdown =>
      refine .free rfl rfl rfl ?_
      rintro _ ⟨⟩
      exact ⟨rfl, rfl, rfl⟩

theorem counts_report {event : Event}
    (hevent : ∀ request, event = .requested request → w.phase.untold? = some request)
    (hact : w.act? s = if s.listening then some (.sent event) else none)
    (hstep : w.report s event = (s', w')) : Counts w w' (w.act? s) := by
  rw [hact]
  unfold report Shared.sendEvent? Shared.send? at hstep
  cases hlistening : s.listening with
  | true =>
      rw [hlistening] at hstep
      obtain ⟨-, rfl⟩ := Prod.mk.inj hstep
      cases event with
      | requested request => exact .send (hevent request rfl) rfl rfl
      | _ => exact .free rfl rfl rfl (aside_told rfl true)
  | false =>
      rw [hlistening] at hstep
      obtain ⟨-, rfl⟩ := Prod.mk.inj hstep
      exact .free rfl rfl rfl aside_none

theorem Counts.of_step_running {run : Nat} {program : Dialogue Ending}
    (phase : w.phase = .running run program)
    (hstep : w.step? interpreter s = some (s', w')) : Counts w w' (w.act? s) := by
  have busy : w.phase.isBusy = true := by rw [phase]; rfl
  rw [step?, phase] at hstep
  cases program with
  | check next =>
      obtain ⟨-, rfl⟩ := Prod.mk.inj (Option.some.inj hstep)
      rw [act?, phase]
      exact .running rfl rfl (.inl busy) aside_none
  | tell text next =>
      rw [act?, phase]
      simp only [advance, Shared.sendEvent?, Shared.send?] at hstep
      cases hlistening : s.listening with
      | true =>
          rw [hlistening] at hstep
          obtain ⟨-, rfl⟩ := Prod.mk.inj (Option.some.inj hstep)
          exact .running rfl rfl (.inl busy) (aside_told rfl true)
      | false =>
          rw [hlistening] at hstep
          obtain ⟨-, rfl⟩ := Prod.mk.inj (Option.some.inj hstep)
          exact .running rfl rfl (.inl busy) (aside_told rfl false)
  | ask prompt next =>
      obtain ⟨-, rfl⟩ := Prod.mk.inj (Option.some.inj hstep)
      rw [act?, phase]
      exact .ask busy rfl rfl rfl
  | done ending =>
      rw [act?, phase]
      cases ending with
      | finished | failed | canceled | crashed =>
          obtain ⟨-, rfl⟩ := Prod.mk.inj (Option.some.inj hstep)
          exact .free rfl rfl rfl aside_none
      | exhausted =>
          simp only [advance] at hstep
          split at hstep
          · obtain ⟨-, rfl⟩ := Prod.mk.inj (Option.some.inj hstep)
            exact .free rfl rfl rfl aside_none
          · cases hstep

theorem Counts.of_step_asking {request : Request} {stage : Asking}
    {next : String → Dialogue Ending} (phase : w.phase = .asking request stage next)
    (hstep : w.step? interpreter s = some (s', w')) : Counts w w' (w.act? s) := by
  have busy : w.phase.isBusy = true := by rw [phase]; rfl
  obtain ⟨text, rfl, rfl⟩ | ⟨moving, hw'⟩ := step?_asking_cases phase hstep
  · rw [act?, phase]
    exact .running rfl rfl (.inl busy) aside_none
  have same : w'.lastRequest? = w.lastRequest? := by rw [hw']
  have huntold (other : Request) (h : other ∈ w'.phase.untold?) :
      other = request ∧ stage.isUnsent = true ∧ stage ≠ .sending := by
    rw [hw', Phase.untold?] at h
    split at h
    · rename_i hunsent
      obtain rfl := Option.some.inj h
      exact ⟨rfl, Asking.isUnsent_of_step hunsent⟩
    · cases h
  have hother (other : Request) (h : other ∈ w'.phase.untold?) : w.phase.untold? = some other := by
    obtain ⟨rfl, hstage, -⟩ := huntold other h
    rw [phase, Phase.untold?, if_pos hstage]
  cases stage with
  | sending =>
      rw [act?, phase]
      dsimp only
      split
      · exact .send (by rw [phase]; rfl) same
          (Option.eq_none_iff_forall_not_mem.mpr fun other h => (huntold other h).2.2 rfl)
      · exact .other same (fun _ => .inl busy) hother aside_none
  | returned text => cases moving
  | _ =>
      rw [act?, phase]
      exact .other same (fun _ => .inl busy) hother aside_none

/-- Each step makes a request, tells of one, is given a channel, or leaves the count alone. -/
theorem Counts.of_step (hstep : w.step? interpreter s = some (s', w')) :
    Counts w w' (w.act? s) := by
  cases phase : w.phase with
  | idle =>
      rw [step?, phase] at hstep
      rw [act?, phase]
      cases hcommands : s.commands with
      | nil =>
          simp only [hcommands] at hstep
          split at hstep
          · cases hstep
          · obtain ⟨-, rfl⟩ := Prod.mk.inj (Option.some.inj hstep)
            exact .free rfl rfl rfl aside_none
      | cons command commands =>
          simp only [hcommands] at hstep
          obtain ⟨-, rfl⟩ := Prod.mk.inj (Option.some.inj hstep)
          exact counts_obey command
  | announcing =>
      have hact : w.act? s = if s.listening then some (.sent .ready) else none := by
        rw [act?, phase]
      rw [step?, phase] at hstep
      exact counts_report (fun _ => Event.noConfusion) hact (Option.some.inj hstep)
  | starting run source =>
      rw [step?, phase] at hstep
      rw [act?, phase]
      dsimp only at hstep
      split at hstep
      · obtain ⟨-, rfl⟩ := Prod.mk.inj (Option.some.inj hstep)
        exact .free rfl rfl rfl aside_none
      split at hstep
      · obtain ⟨-, rfl⟩ := Prod.mk.inj (Option.some.inj hstep)
        exact .free rfl rfl rfl aside_none
      · rename_i hsome
        obtain ⟨-, rfl⟩ := Prod.mk.inj (Option.some.inj hstep)
        exact .running rfl rfl (.inr (by simpa [Option.isSome_iff_ne_none] using hsome)) aside_none
  | refusing run =>
      have hact : w.act? s =
          if s.listening then some (.sent (.failed run "worker has not been initialized"))
          else none := by
        rw [act?, phase]
      rw [step?, phase] at hstep
      exact counts_report (fun _ => Event.noConfusion) hact (Option.some.inj hstep)
  | running run program => exact .of_step_running phase hstep
  | asking request stage next => exact .of_step_asking phase hstep
  | reporting event =>
      have hact : w.act? s = if s.listening then some (.sent event) else none := by
        rw [act?, phase]
      rw [step?, phase] at hstep
      exact counts_report (fun request h => by rw [phase, h]; rfl) hact (Option.some.inj hstep)
  | stopped crashed =>
      rw [step?, phase] at hstep
      cases hstep

/-- How the count of a worker stands to what it has done: it has counted the requests made since a
channel was given last, and a request that it is about to tell of is the last of them. -/
structure Numbered (log : List Act) (w : Worker) : Prop where
  busy : w.phase.isBusy = true → w.lastRequest?.isSome = true
  given : w.lastRequest?.isSome = true → Act.took .init ∈ log
  asked : (recent log).filterMap askedId? = List.range' 1 (w.lastRequest?.getD 0)
  sent : ((recent log).filterMap sentId?).Sublist (List.range' 1 (w.lastRequest?.getD 0))
  untold : ∀ request ∈ w.phase.untold?, ∃ n, request.id = n + 1 ∧
    w.lastRequest? = some (n + 1) ∧ ((recent log).filterMap sentId?).Sublist (List.range' 1 n)

theorem numbered_start : Numbered [] start where
  busy := fun h => nomatch h
  given := fun h => nomatch h
  asked := rfl
  sent := .refl _
  untold := fun _ h => nomatch h

theorem Numbered.init (number : w'.lastRequest? = some 0) (free : w'.phase.isBusy = false)
    (untold : w'.phase.untold? = none) : Numbered (log ++ [.took .init]) w' where
  busy := fun h => absurd (free.symm.trans h) Bool.false_ne_true
  given := fun _ => List.mem_append_right _ (List.mem_singleton_self _)
  asked := by rw [recent_concat_of_isInit rfl, number]; rfl
  sent := by rw [recent_concat_of_isInit rfl]; exact List.nil_sublist _
  untold := fun _ h => nomatch untold.symm.trans h

theorem Numbered.ask {request : Request} {next : String → Dialogue Ending} (h : Numbered log w)
    (busy : w.phase.isBusy = true) (number : request.id = w.lastRequest?.getD 0 + 1)
    (last : w'.lastRequest? = some request.id) (phase : w'.phase = .asking request .claiming next) :
    Numbered (log ++ [.asked request]) w' := by
  have hrecent : recent (log ++ [.asked request]) = recent log ++ [.asked request] :=
    recent_append log (by simp [isInit])
  have hsent : (recent (log ++ [.asked request])).filterMap sentId? =
      (recent log).filterMap sentId? := by
    rw [hrecent, List.filterMap_append]
    exact List.append_nil _
  refine ⟨fun _ => by rw [last]; rfl, fun _ => List.mem_append_left _ (h.given (h.busy busy)), ?_,
    ?_, ?_⟩
  · rw [hrecent, List.filterMap_append, h.asked, last, Option.getD_some, number,
      List.range'_1_concat, Nat.add_comm 1, ← number]
    rfl
  · rw [hsent, last, Option.getD_some, number, List.range'_1_concat]
    exact h.sent.trans (List.sublist_append_left ..)
  · intro other hother
    rw [phase] at hother
    obtain rfl := Option.some.inj hother
    exact ⟨w.lastRequest?.getD 0, number, by rw [last, number], by rw [hsent]; exact h.sent⟩

theorem Numbered.send {request : Request} (h : Numbered log w)
    (about : w.phase.untold? = some request) (same : w'.lastRequest? = w.lastRequest?)
    (untold : w'.phase.untold? = none) : Numbered (log ++ [.sent (.requested request)]) w' := by
  obtain ⟨n, hid, hlast, hbelow⟩ := h.untold request about
  have hrecent : recent (log ++ [.sent (.requested request)]) =
      recent log ++ [.sent (.requested request)] := recent_append log (by simp [isInit])
  have hsome : w.lastRequest?.isSome = true := by rw [hlast]; rfl
  refine ⟨fun _ => by rw [same]; exact hsome, fun _ => List.mem_append_left _ (h.given hsome), ?_,
    ?_, fun _ h => nomatch untold.symm.trans h⟩
  · rw [hrecent, List.filterMap_append, same, ← h.asked]
    exact List.append_nil _
  · rw [hrecent, List.filterMap_append, same, hlast, Option.getD_some, List.range'_1_concat,
      Nat.add_comm 1, ← hid]
    exact hbelow.append (.refl _)

theorem Numbered.other {acts : List Act} (h : Numbered log w)
    (same : w'.lastRequest? = w.lastRequest?)
    (busy : w'.phase.isBusy = true → w.phase.isBusy = true ∨ w.lastRequest?.isSome = true)
    (untold : ∀ request ∈ w'.phase.untold?, w.phase.untold? = some request)
    (aside : ∀ act ∈ acts, act.IsAside) :
    Numbered (log ++ acts) w' := by
  have hrecent : recent (log ++ acts) = recent log ++ acts :=
    recent_append log fun act hact => (aside act hact).1
  have hasked : (recent (log ++ acts)).filterMap askedId? = (recent log).filterMap askedId? := by
    rw [hrecent, List.filterMap_append,
      List.filterMap_eq_nil_iff.mpr fun act hact => (aside act hact).2.1, List.append_nil]
  have hsent : (recent (log ++ acts)).filterMap sentId? = (recent log).filterMap sentId? := by
    rw [hrecent, List.filterMap_append,
      List.filterMap_eq_nil_iff.mpr fun act hact => (aside act hact).2.2, List.append_nil]
  refine ⟨fun hbusy => ?_, fun hsome => List.mem_append_left _ (h.given (same ▸ hsome)), ?_, ?_,
    fun request hrequest => ?_⟩
  · rw [same]
    exact (busy hbusy).elim h.busy id
  · rw [hasked, same]
    exact h.asked
  · rw [hsent, same]
    exact h.sent
  · rw [hsent, same]
    exact h.untold request (untold request hrequest)

theorem Numbered.of_counts {act? : Option Act} (h : Numbered log w) (counts : Counts w w' act?) :
    Numbered (log ++ act?.toList) w' := by
  cases counts with
  | init number free untold => exact .init number free untold
  | ask busy number last phase => exact h.ask busy number last phase
  | send about same untold => exact h.send about same untold
  | other same busy untold aside =>
      exact h.other same busy untold fun act hact => aside act (Option.mem_toList.mp hact)

theorem Numbered.wake (h : Numbered log w) : Numbered log w.woken := by
  have huntold : w.woken.phase.untold? = w.phase.untold? := by
    unfold woken
    split
    · rename_i phase
      rw [phase, Phase.untold?, Phase.untold?, Asking.isUnsent_woken]
    · rfl
  have hbusy : w.woken.phase.isBusy = w.phase.isBusy := by
    unfold woken
    split
    · rename_i phase
      rw [phase]
      rfl
    · rfl
  have hlast : w.woken.lastRequest? = w.lastRequest? := by
    unfold woken
    split <;> rfl
  have hwoken : Numbered (log ++ []) w.woken :=
    h.other hlast (fun busy => .inl (hbusy ▸ busy)) (fun _ hrequest => huntold ▸ hrequest)
      (fun _ hact => nomatch hact)
  rwa [List.append_nil] at hwoken

theorem Life.numbered (life : Life log s w) : Numbered log w := by
  induction life with
  | start => exact numbered_start
  | step _ hstep ih => exact ih.of_counts (.of_step hstep)
  | change _ _ ih => exact ih
  | wake _ ih => exact ih.wake

/-- Of what a worker has done it had done any beginning at an earlier time. -/
theorem Life.of_prefix {before : List Act} (life : Life log s w)
    (hbefore : before <+: log) : ∃ s' w', Life before s' w' := by
  induction life with
  | start s =>
      rw [List.prefix_nil.mp hbefore]
      exact ⟨s, .start, .start s⟩
  | @step _ log s s' w w' life hstep ih =>
      cases hact : w.act? s with
      | none =>
          rw [hact, Option.toList_none, List.append_nil] at hbefore
          exact ih hbefore
      | some act =>
          rw [hact, Option.toList_some, List.prefix_concat_iff] at hbefore
          obtain rfl | hbefore := hbefore
          · refine ⟨s', w', ?_⟩
            simpa [hact] using life.step hstep
          · exact ih hbefore
  | change _ _ ih | wake _ ih => exact ih hbefore

/-- Before it is given a channel a worker tells of no request. -/
theorem Life.sent_eq_nil (life : Life log s w) (h : Act.took .init ∉ log) :
    log.filterMap sentId? = [] := by
  have hlast : w.lastRequest? = none :=
    Option.not_isSome_iff_eq_none.mp fun hsome => h (life.numbered.given hsome)
  have hsent := life.numbered.sent
  rw [recent_eq_self (isInit_eq_false h), hlast] at hsent
  exact List.sublist_nil.mp hsent

/-- What a step of the worker does to the queues is what it is said to do. -/
theorem queues_of_step (hstep : w.step? interpreter s = some (s', w')) :
    s.commands = (w.act? s).toList.filterMap command? ++ s'.commands ∧
      s'.inbox = s.inbox ++ ((w.act? s).toList.filterMap event?).map .event := by
  rw [step?] at hstep
  rw [act?]
  cases phase : w.phase with
  | idle =>
      rw [phase] at hstep
      cases hcommands : s.commands with
      | nil =>
          simp only [hcommands] at hstep
          grind
      | cons command commands =>
          simp only [hcommands] at hstep
          grind [command?, event?]
  | announcing | refusing | reporting =>
      rw [phase] at hstep
      grind [report, command?, event?, Shared.sendEvent?, Shared.send?, Shared.post]
  | starting run source =>
      rw [phase] at hstep
      grind
  | asking request stage next =>
      rw [phase] at hstep
      have hqueues := Asking.queues_step request s stage
      cases stage <;> grind [command?, event?]
  | running run program =>
      rw [phase] at hstep
      cases program with
      | done ending =>
          cases ending <;> grind [advance]
      | _ => grind [advance, command?, event?, Shared.sendEvent?, Shared.send?, Shared.post]
  | stopped crashed =>
      rw [phase] at hstep
      cases hstep

/-- Goes on for a number of steps, or until there is none. -/
def goOn (interpreter : Interpreter) :
    Nat → List Act × Shared × Worker → List Act × Shared × Worker
  | 0, life => life
  | patience + 1, (log, s, w) =>
    match w.step? interpreter s with
    | some (s', w') => goOn interpreter patience (log ++ (w.act? s).toList, s', w')
    | none => (log, s, w)

/-- Makes some changes, and goes on after each of them. -/
def lead (interpreter : Interpreter) (patience : Nat) :
    List (Shared → Shared) → List Act × Shared × Worker → List Act × Shared × Worker
  | [], life => life
  | change :: changes, (log, s, w) =>
    lead interpreter patience changes (goOn interpreter patience (log, change s, w.woken))

theorem Life.goOn {life : List Act × Shared × Worker} (h : Life life.1 life.2.1 life.2.2)
    (patience : Nat) :
    let life' := Worker.goOn interpreter patience life
    Life life'.1 life'.2.1 life'.2.2 := by
  induction patience generalizing life with
  | zero => exact h
  | succ patience ih =>
      obtain ⟨log, s, w⟩ := life
      rw [Worker.goOn]
      split
      · rename_i hstep
        exact ih (h.step hstep)
      · exact h

theorem Life.lead (life : List Act × Shared × Worker) (h : Life life.1 life.2.1 life.2.2)
    (patience : Nat) (changes : List (Shared → Shared)) :
    let life' := Worker.lead interpreter patience changes life
    Life life'.1 life'.2.1 life'.2.2 := by
  induction changes generalizing life with
  | nil => exact h
  | cons change changes ih => exact ih _ ((h.wake.change _).goOn patience)

/-- What is done to a worker that asks once: it is given a run, and its request an answer. -/
def askOnce : List (Shared → Shared) :=
  [(Order.run 1 "input A").issue, fun s => (Answering.deliver "x" s).1]

/-- A channel for the lives below. -/
def smallChannel : Channel := ⟨.zeros, 0, 8, true⟩

/-- A worker that is given a channel and asks twice. -/
def givenOnce : List Act × Shared × Worker :=
  lead (.script 0) 40 ((Order.init smallChannel).issue :: askOnce ++ askOnce)
    ([], .ofChannel smallChannel 1, start)

/-- A worker that is given a channel and asks, is given another channel and asks once more. -/
def givenTwice : List Act × Shared × Worker :=
  lead (.script 0) 40
    ((Order.init smallChannel).issue :: askOnce ++ (Order.init smallChannel).issue :: askOnce)
    ([], .ofChannel smallChannel 1, start)

theorem life_givenOnce : Life givenOnce.1 givenOnce.2.1 givenOnce.2.2 :=
  Life.lead ([], .ofChannel smallChannel 1, start) (.start _) 40 _

theorem life_givenTwice : Life givenTwice.1 givenTwice.2.1 givenTwice.2.2 :=
  Life.lead ([], .ofChannel smallChannel 1, start) (.start _) 40 _

/-- The numbers of the requests that a worker tells of rise from one channel that it is given to the
next, across runs, answers, resets and changes of the current run; so do they all its life if it is
given one channel at most. They are among the numbers of the requests that it makes, which are
counted from one on. What it is said to do is what leaves and enters the queues. -/
theorem numbers_rise_per_channel (life : Life log s w) :
    (∀ before between after, log = before ++ between ++ after →
      (∀ act ∈ between, act.isInit = false) →
        (between.filterMap sentId?).Pairwise (· < ·)) ∧
    (log.count (.took .init) ≤ 1 → (log.filterMap sentId?).Pairwise (· < ·)) ∧
    (recent log).filterMap askedId? = List.range' 1 (w.lastRequest?.getD 0) ∧
    ((recent log).filterMap sentId?).Sublist ((recent log).filterMap askedId?) ∧
    ∀ (interpreter : Interpreter) (s' : Shared) (w' : Worker),
      w.step? interpreter s = some (s', w') →
        s.commands = (w.act? s).toList.filterMap command? ++ s'.commands ∧
          s'.inbox = s.inbox ++ ((w.act? s).toList.filterMap event?).map .event := by
  have hstretch (before between after : List Act) (hlog : log = before ++ between ++ after)
      (hbetween : ∀ act ∈ between, act.isInit = false) :
      (between.filterMap sentId?).Pairwise (· < ·) := by
    obtain ⟨s', w', life'⟩ := life.of_prefix ⟨after, hlog.symm⟩
    have hsent := life'.numbered.sent
    rw [recent_append before hbetween, List.filterMap_append] at hsent
    refine (List.pairwise_lt_range' 1 Nat.one_pos).sublist (.trans ?_ hsent)
    exact List.sublist_append_right ..
  refine ⟨hstretch, fun honce => ?_, life.numbered.asked, ?_, fun _ _ _ => queues_of_step⟩
  · -- What comes before the only channel tells of no request, and what comes after it is a stretch.
    by_cases hinit : Act.took .init ∈ log
    · obtain ⟨before, after, hlog, hbefore⟩ := List.eq_append_cons_of_mem hinit
      have hafter : Act.took .init ∉ after := by
        rw [hlog, List.count_append, List.count_cons_self] at honce
        exact List.count_eq_zero.mp (by omega)
      obtain ⟨_, _, life'⟩ := life.of_prefix ⟨_, hlog.symm⟩
      rw [hlog, List.filterMap_append, life'.sent_eq_nil hbefore]
      exact hstretch (before ++ [.took .init]) after [] (by simp [hlog]) (isInit_eq_false hafter)
    · exact hstretch [] log [] (by simp) (isInit_eq_false hinit)
  · rw [life.numbered.asked]
    exact life.numbered.sent

/-- Two runs of one life on one channel, whose requests are numbered one after the other. -/
theorem numbers_rise_givenOnce :
    givenOnce.1.count (.took .init) ≤ 1 ∧ givenOnce.1.filterMap sentId? = [1, 2] ∧
      ((givenOnce.1.drop 1).filterMap sentId?).Pairwise (· < ·) ∧
      (givenOnce.1.filterMap sentId?).Pairwise (· < ·) ∧
      (recent givenOnce.1).filterMap askedId? = List.range' 1 2 := by
  obtain ⟨hstretch, honce, hasked, -⟩ := numbers_rise_per_channel life_givenOnce
  have hcount : givenOnce.1.count (.took .init) ≤ 1 := by decide +kernel
  have hlast : givenOnce.2.2.lastRequest? = some 2 := by decide +kernel
  refine ⟨hcount, by decide +kernel, ?_, honce hcount, by rw [hasked, hlast]; rfl⟩
  exact hstretch (givenOnce.1.take 1) _ [] (by rw [List.append_nil, List.take_append_drop])
    (by decide +kernel)

/-- The numbers of the requests that a worker tells of do not rise all its life: given another
channel, it begins again. -/
theorem numbers_repeat_across_channels :
    ¬∀ (log : List Act) (s : Shared) (w : Worker), Life log s w →
      (log.filterMap askedId?).length < 2 ^ 64 → (log.filterMap sentId?).Pairwise (· < ·) := by
  intro h
  have hsent : givenTwice.1.filterMap sentId? = [1, 1] := by decide +kernel
  have hasked : givenTwice.1.filterMap askedId? = [1, 1] := by decide +kernel
  have hrise := h _ _ _ life_givenTwice (by rw [hasked]; decide)
  rw [hsent] at hrise
  exact absurd hrise (by decide)

end Worker

end Pseudocode
