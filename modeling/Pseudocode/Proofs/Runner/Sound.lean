import Pseudocode.Proofs.History
import Pseudocode.Proofs.Runner.Steps

/-!
What holds of a runner at all times, whatever the foreground does: the channel is in a state that
fits where the worker stands, the runs that are still to be carried out are in the order of their
numbers, and no part of a runner names a run that was not started yet.
-/

namespace Pseudocode

def Message.run? : Message → Option Nat
  | .event e => e.run?
  | .line _ | .closed => none

/-- What is read of a message that is no event is read of the end of input, if a line makes no
difference. -/
theorem Message.eq_of_plain {α : Type} (read : Message → α) {message : Message}
    (plain : ∀ event, message ≠ .event event) (same : ∀ text, read (.line text) = read .closed) :
    read message = read .closed := by
  cases message with
  | event event => exact (plain event rfl).elim
  | line text => exact same text
  | closed => rfl

theorem Message.run?_of_plain {message : Message} (plain : ∀ event, message ≠ .event event) :
    message.run? = none :=
  eq_of_plain run? plain fun _ => rfl

def Command.run? : Command → Option Nat
  | .run number _ => some number
  | .init | .shutdown => none

def Errand.run? : Errand → Option Nat
  | .start run _ => some run
  | .release | .shutdown => none

namespace Activity

/-- The run that a call is about to order. -/
def run? : Activity → Option Nat
  | resetting errand | waking errand | ordering errand => errand.run?
  | _ => none

/-- Whether the next step wakes the worker. -/
def isRousing : Activity → Bool
  | waking _ | answering _ _ .waking => true
  | _ => false

end Activity

namespace Worker

/-- The run that the worker is busy with. -/
def run? (w : Worker) : Option Nat :=
  match w.phase with
  | .starting run _ | .refusing run | .running run _ => some run
  | .asking request _ _ => some request.run
  | .reporting event => event.run?
  | .idle | .announcing | .stopped _ => none

def isAsleep (w : Worker) : Bool :=
  match w.phase with
  | .asking _ .asleep _ => true
  | _ => false

/-- Whether the worker knows of the channel, and is told of it only once, before any run. -/
def Prepared (w : Worker) (commands : List Command) : Prop :=
  (w.lastRequest?.isSome = true ∧ .init ∉ commands) ∨
    (w.phase = .idle ∧ w.lastRequest? = none ∧ ∃ orders, commands = .init :: orders ∧ .init ∉ orders)

structure Sound (state : ChannelState) (commands : List Command) (w : Worker) : Prop where
  fits : w.Fits state
  prepared : w.Prepared commands
  accepting : ∀ run, w.phase ≠ .refusing run
  connected : w.disconnected = false
  telling : ∀ event, w.phase = .reporting event → event.isTerminal = true

/-- What is read of a woken worker is read of it as it was, if sleep makes no difference. -/
theorem eq_woken {α : Type} (read : Worker → α) (w : Worker)
    (same : ∀ request next last? disconnected,
      read ⟨.asking request .watching next, last?, disconnected⟩ =
        read ⟨.asking request .asleep next, last?, disconnected⟩) : read w.woken = read w := by
  obtain ⟨phase, last?, disconnected⟩ := w
  cases phase with
  | asking request stage next =>
      cases stage with
      | asleep => exact same request next last? disconnected
      | _ => rfl
  | _ => rfl

@[simp] theorem run?_woken (w : Worker) : w.woken.run? = w.run? :=
  eq_woken run? w fun _ _ _ _ => rfl

@[simp] theorem lastRequest?_woken (w : Worker) : w.woken.lastRequest? = w.lastRequest? :=
  eq_woken lastRequest? w fun _ _ _ _ => rfl

@[simp] theorem disconnected_woken (w : Worker) : w.woken.disconnected = w.disconnected :=
  eq_woken disconnected w fun _ _ _ _ => rfl

@[simp] theorem isAsleep_woken (w : Worker) : w.woken.isAsleep = false := by
  obtain ⟨phase, last?, disconnected⟩ := w
  cases phase with
  | asking request stage next => cases stage <;> rfl
  | _ => rfl

theorem exists_of_isAsleep {w : Worker} (asleep : w.isAsleep = true) :
    ∃ request next, w.phase = .asking request .asleep next := by
  unfold isAsleep at asleep
  split at asleep
  · exact ⟨_, _, ‹_›⟩
  · cases asleep

theorem phase_woken {w : Worker} {request : Request} {stage : Asking}
    {next : String → Dialogue Ending} (h : w.phase = .asking request stage next) :
    w.woken.phase = .asking request stage.woken next := by
  simp [woken, h]

theorem phase_woken_of_ne {w : Worker}
    (h : ∀ request stage next, w.phase ≠ .asking request stage next) :
    w.woken.phase = w.phase := by
  unfold woken
  split
  · exact (h _ _ _ ‹_›).elim
  · rfl

theorem Prepared.of_busy {w : Worker} {commands : List Command} (h : w.Prepared commands)
    (busy : w.phase ≠ .idle) : w.lastRequest?.isSome = true ∧ .init ∉ commands := by
  rcases h with h | ⟨idle, _⟩
  · exact h
  · exact (busy idle).elim

section

variable {state : ChannelState} {commands : List Command} {w : Worker}

theorem Sound.woken (sound : w.Sound state commands) : w.woken.Sound state commands := by
  obtain ⟨phase, last?, disconnected⟩ := w
  cases phase with
  | asking request stage next =>
      refine ⟨?_, ?_, by simp [Worker.woken], sound.connected, by simp [Worker.woken]⟩
      · exact Asking.Fits.woken sound.fits
      · exact .inl (sound.prepared.of_busy (by simp))
  | _ => exact sound

theorem Sound.idle (sound : w.Sound state commands) : w.Sound .idle commands := by
  refine ⟨?_, sound.prepared, sound.accepting, sound.connected, sound.telling⟩
  have hfits := sound.fits
  unfold Fits at hfits ⊢
  split at hfits
  · exact hfits.idle
  · rfl

/-- Only a request makes the channel wait, so only a request can find it ready. -/
theorem Sound.ready (sound : w.Sound .waiting commands) : w.Sound .ready commands := by
  refine ⟨?_, sound.prepared, sound.accepting, sound.connected, sound.telling⟩
  have hfits := sound.fits
  unfold Fits at hfits ⊢
  split at hfits
  · exact hfits.ready
  · cases hfits

theorem Sound.command (sound : w.Sound state commands) {command : Command}
    (plain : command ≠ .init) : w.Sound state (commands ++ [command]) := by
  refine ⟨sound.fits, ?_, sound.accepting, sound.connected, sound.telling⟩
  rcases sound.prepared with ⟨hlast, hinit⟩ | ⟨idle, hlast, orders, rfl, hinit⟩
  · exact .inl ⟨hlast, by simp [hinit, plain.symm]⟩
  · exact .inr ⟨idle, hlast, orders ++ [command], rfl, by simp [hinit, plain.symm]⟩

end

namespace Turn

variable {interpreter : Interpreter} {s s' : Shared} {w w' : Worker}

theorem fits (turn : Turn interpreter s w s' w') (sound : w.Sound s.channel.state s.commands) :
    w'.Fits s'.channel.state := by
  have hfits := sound.fits
  cases turn with
  | stage w turn => exact turn.fits hfits
  | _ => exact hfits

theorem prepared (turn : Turn interpreter s w s' w') (sound : w.Sound s.channel.state s.commands) :
    w'.Prepared s'.commands := by
  cases turn with
  | prepare w queued =>
      rcases sound.prepared with ⟨_, hinit⟩ | ⟨_, _, orders, horders, hinit⟩
      · simp [queued] at hinit
      · rw [queued] at horders
        cases horders
        exact .inl ⟨rfl, hinit⟩
  | accept w queued | retire w queued =>
      rcases sound.prepared with ⟨hlast, hinit⟩ | ⟨_, _, orders, horders, hinit⟩
      · exact .inl ⟨hlast, by simpa [queued] using hinit⟩
      · simp [queued] at horders
  | ask w =>
      have hprepared := sound.prepared.of_busy (by simp)
      exact .inl ⟨rfl, hprepared.2⟩
  | stage w turn =>
      have hprepared := sound.prepared.of_busy (by simp)
      exact .inl ⟨hprepared.1, by rw [turn.commands]; exact hprepared.2⟩
  | _ => exact .inl (sound.prepared.of_busy (by simp))

theorem sound (turn : Turn interpreter s w s' w') (sound : w.Sound s.channel.state s.commands) :
    w'.Sound s'.channel.state s'.commands := by
  refine ⟨turn.fits sound, turn.prepared sound, ?_, ?_, ?_⟩
  · cases turn with
    | refuse w current early =>
        have hprepared := sound.prepared.of_busy (by simp)
        simp [early] at hprepared
    | _ => simp
  · cases turn with
    | commence => rfl
    | _ => exact sound.connected
  · cases turn with
    | conclude w told =>
        rename_i ending _
        intro event hevent
        cases hevent
        cases ending <;> simp_all [Ending.event?, Event.isTerminal] <;> subst told <;> rfl
    | _ => simp

/-- The worker takes up commands in their order. -/
theorem runs (turn : Turn interpreter s w s' w') (sound : w.Sound s.channel.state s.commands) :
    (w'.run?.toList ++ s'.commands.filterMap Command.run?).Sublist
      (w.run?.toList ++ s.commands.filterMap Command.run?) := by
  cases turn with
  | prepare w queued | accept w queued | retire w queued =>
      simp [run?, queued, List.filterMap_cons, Command.run?]
  | stage w turn => simp [run?, turn.commands]
  | conclude w told =>
      rename_i ending _
      cases ending <;> simp_all [Ending.event?, run?] <;> subst told <;> simp [Event.run?]
  | _ => simp [run?, newRequest, Shared.post]

/-- What the worker sends is about the run that it is busy with. -/
theorem news (turn : Turn interpreter s w s' w') (sound : w.Sound s.channel.state s.commands) :
    ∃ news : List Message, s'.inbox = s.inbox ++ news ∧
      ∀ message ∈ news, message.run? = w.run? := by
  cases turn with
  | greet | reject | tell | report => exact ⟨[_], rfl, by simp [run?, Message.run?, Event.run?]⟩
  | stage w turn =>
      cases turn with
      | send => exact ⟨[_], rfl, by simp [run?, Message.run?, Event.run?]⟩
      | _ => exact ⟨[], by simp [Shared.resetChannel], by simp⟩
  | _ => exact ⟨[], by simp, by simp⟩

end Turn

end Worker

namespace Foreground

theorem pending_observe (c : Foreground) {event : Event} {request : Request}
    (h : (c.observe event).pending = some request) :
    event = .requested request ∨ c.pending = some request := by
  cases event with
  | requested other =>
      cases h
      exact .inl rfl
  | finished | failed => cases h
  | ready | produced => exact .inr h

theorem active_observe (c : Foreground) {event : Event} {run : Nat}
    (h : (c.observe event).active = some run) : c.active = some run := by
  cases event with
  | finished | failed => cases h
  | ready | requested | produced => exact h

theorem active_observe_of_not_terminal (c : Foreground) {event : Event}
    (going : event.isTerminal = false) : (c.observe event).active = c.active := by
  cases event with
  | ready | requested | produced => rfl
  | finished | failed => cases going

theorem idle_or_returned {c : Foreground} (free : c.isFree = true) :
    c.activity = .idle ∨ ∃ reply, c.activity = .returned reply := by
  unfold isFree at free
  split at free
  · exact .inl ‹_›
  · exact .inr ⟨_, ‹_›⟩
  · cases free

/-- What is read of a free foreground is read of an idle one, if a reply makes no difference. -/
theorem eq_of_isFree {α : Type} (read : Activity → α) {c : Foreground} (free : c.isFree = true)
    (same : ∀ reply, read (.returned reply) = read .idle) : read c.activity = read .idle := by
  rcases idle_or_returned free with hidle | ⟨reply, hreturned⟩
  · rw [hidle]
  · rw [hreturned, same]

theorem run?_of_isFree {c : Foreground} (free : c.isFree = true) : c.activity.run? = none :=
  eq_of_isFree Activity.run? free fun _ => rfl

theorem isRousing_of_isFree {c : Foreground} (free : c.isFree = true) :
    c.activity.isRousing = false :=
  eq_of_isFree Activity.isRousing free fun _ => rfl

theorem run?_begin (c : Foreground) (call : Call) : (c.begin call).activity.run? = none := by
  unfold begin
  split
  · rfl
  · split <;> rfl
  · rfl
  · rfl
  · rfl
  · rfl

theorem active_begin (c : Foreground) (call : Call) : (c.begin call).active = c.active := by
  unfold begin
  split
  · rfl
  · split <;> rfl
  · rfl
  · rfl
  · rfl
  · rfl

theorem pending_of_pending_begin {c : Foreground} {call : Call} {request : Request}
    (h : (c.begin call).pending = some request) : c.pending = some request := by
  unfold begin at h
  split at h
  · exact h
  · split at h
    · exact h
    · cases h
  · exact h
  · exact h
  · exact h
  · exact h

end Foreground

structure Shared.Sound (capacity : Nat) (s : Shared) : Prop where
  channel : s.channel.IsSound
  capacity : s.channel.capacity = capacity
  listening : s.listening = true
  commanding : s.commanding = true

namespace Runner

/-- The runs that the worker was told to carry out, in the order in which it comes to them. -/
def tasks (s : Runner) : List Nat :=
  s.worker.run?.toList ++ s.shared.commands.filterMap Command.run?

/-- The tasks, and the run that is about to become one. -/
def jobs (s : Runner) : List Nat := s.tasks ++ s.foreground.activity.run?.toList

/-- The runs that messages and the foreground know of. -/
def known (s : Runner) : List Nat :=
  s.shared.inbox.filterMap Message.run? ++
    ((s.foreground.pending.map Request.run).toList ++ s.foreground.active.toList)

/-- Whether the two sides can work. Nothing that comes into the inbox changes this, not even an
event that the worker never told. -/
structure Intact (capacity : Nat) (s : Runner) : Prop where
  shared : s.shared.Sound capacity
  worker : s.worker.Sound s.shared.channel.state s.shared.commands

/-- Whether the two sides can work as long as the worker has not stopped. A worker that breaks down
leaves the channel in any state. -/
structure Upheld (capacity : Nat) (s : Runner) : Prop where
  shared : s.shared.Sound capacity
  worker : s.worker.hasStopped = false → s.worker.Sound s.shared.channel.state s.shared.commands

structure Sound (capacity : Nat) (s : Runner) : Prop where
  shared : s.shared.Sound capacity
  worker : s.worker.Sound s.shared.channel.state s.shared.commands
  sorted : s.jobs.Pairwise (· < ·)
  bounded : ∀ run ∈ s.jobs ++ s.known, run ≤ s.shared.generation
  roused : s.worker.isAsleep = true → s.shared.channel.state ≠ .waiting →
    s.foreground.activity.isRousing = true

variable {interpreter : Interpreter} {capacity : Nat} {s t : Runner} {h : List Deed}

theorem Sound.intact (sound : Sound capacity s) : Intact capacity s :=
  ⟨sound.shared, sound.worker⟩

theorem Intact.upheld (intact : Intact capacity s) : Upheld capacity s :=
  ⟨intact.shared, fun _ => intact.worker⟩

theorem Upheld.intact (upheld : Upheld capacity s) (going : s.worker.hasStopped = false) :
    Intact capacity s :=
  ⟨upheld.shared, upheld.worker going⟩

/-! ### Steps of the foreground -/

namespace Act

theorem shared_sound (act : Act s t) (sound : s.shared.Sound capacity) :
    t.shared.Sound capacity := by
  obtain ⟨channel, hcapacity, listening, commanding⟩ := sound
  cases act with
  | reset => exact ⟨Channel.isSound_setState _ _, hcapacity, listening, commanding⟩
  | write => exact ⟨channel.writeText _, hcapacity, listening, commanding⟩
  | announce => exact ⟨Channel.isSound_setState _ _, hcapacity, listening, commanding⟩
  | _ => exact ⟨channel, hcapacity, listening, commanding⟩

theorem worker_sound (act : Act s t)
    (sound : s.worker.Sound s.shared.channel.state s.shared.commands) :
    t.worker.Sound t.shared.channel.state t.shared.commands := by
  cases act with
  | reset => simpa [Shared.resetChannel, Channel.reset] using sound.idle
  | wakeToStart | wakeToRelease | wakeToShutDown | wakeToRead => exact sound.woken
  | order | shutDown => exact sound.command (by simp)
  | write => simpa using sound
  | announce s w c waiting =>
      rw [show (Runner.shared ⟨s, w, _⟩).channel.state = .waiting from waiting] at sound
      simpa using sound.ready
  | _ => exact sound

theorem generation_le (act : Act s t) : s.shared.generation ≤ t.shared.generation := by
  cases act with
  | supersede | depart => exact Nat.le_succ _
  | _ => exact Nat.le_refl _

/-- The only run that becomes a job is one with a new number. -/
theorem jobs (act : Act s t) : t.jobs.Sublist s.jobs ∨
    (t.jobs = s.jobs ++ [t.shared.generation] ∧ s.shared.generation < t.shared.generation) := by
  cases act with
  | supersede =>
      refine .inr ⟨?_, Nat.lt_succ_self _⟩
      simp [Runner.jobs, tasks, Activity.run?, Errand.run?]
  | _ => exact .inl (by simp [Runner.jobs, tasks, Activity.run?, Errand.run?, Command.run?, Shared.command,
      Shared.resetChannel])

theorem known (act : Act s t) : ∀ run ∈ t.known, run ∈ s.known ∨ run = t.shared.generation := by
  cases act with
  | supersede =>
      intro run hrun
      simp only [Runner.known, List.mem_append, Option.mem_toList] at hrun ⊢
      rcases hrun with hrun | hrun | hrun
      · exact .inl (.inl hrun)
      · exact .inl (.inr (.inl hrun))
      · exact .inr (Option.some.inj hrun).symm
  | wakeToStart =>
      intro run hrun
      simp only [Runner.known, List.mem_append, Option.mem_toList] at hrun ⊢
      rcases hrun with hrun | hrun | hrun
      · exact .inl (.inl hrun)
      · cases hrun
      · exact .inl (.inr (.inr hrun))
  | drop s w c first | readLine s w c first =>
      intro run hrun
      simp only [Runner.known, first, List.filterMap_cons, List.mem_append] at hrun ⊢
      refine .inl (hrun.imp_left fun hrun => ?_)
      split
      · exact hrun
      · exact List.mem_cons_of_mem _ hrun
  | hear s w c first =>
      intro run hrun
      simp only [Runner.known, first, List.filterMap_cons, List.mem_append, Option.mem_toList,
        Option.map_eq_some_iff] at hrun ⊢
      rcases hrun with hrun | ⟨request, hpending, hrequest⟩ | hrun
      · refine .inl (.inl ?_)
        split
        · exact hrun
        · exact List.mem_cons_of_mem _ hrun
      · rcases c.pending_observe hpending with rfl | hpending
        · simp [Message.run?, Event.run?, hrequest]
        · exact .inl (.inr (.inl ⟨request, hpending, hrequest⟩))
      · exact .inl (.inr (.inr (c.active_observe hrun)))
  | _ => exact fun run hrun => .inl hrun

/-- An act that leaves a sleeping worker with nothing to wait for goes on to wake it. -/
theorem roused (act : Act s t) (hs : s.worker.isAsleep = true → s.shared.channel.state ≠ .waiting →
    s.foreground.activity.isRousing = true) (asleep : t.worker.isAsleep = true)
    (late : t.shared.channel.state ≠ .waiting) : t.foreground.activity.isRousing = true := by
  cases act with
  | reset => rfl
  | announce => rfl
  | wakeToStart | wakeToRelease | wakeToShutDown | wakeToRead => simp at asleep
  | write => cases hs asleep (by simpa using late)
  | _ => cases hs asleep late

end Act

theorem Sound.act (sound : Sound capacity s) (act : Act s t) : Sound capacity t := by
  refine ⟨act.shared_sound sound.shared, act.worker_sound sound.worker, ?_, ?_,
    act.roused sound.roused⟩
  · rcases act.jobs with hjobs | ⟨hjobs, hnew⟩
    · exact sound.sorted.sublist hjobs
    · rw [hjobs, List.pairwise_append]
      refine ⟨sound.sorted, List.pairwise_singleton _ _, fun run hrun new hmem => ?_⟩
      obtain rfl := List.mem_singleton.mp hmem
      have hle := sound.bounded run (List.mem_append_left _ hrun)
      exact Nat.lt_of_le_of_lt hle hnew
  · intro run hrun
    have hbefore : run ∈ s.jobs ++ s.known ∨ run = t.shared.generation := by
      rcases List.mem_append.mp hrun with hrun | hrun
      · rcases act.jobs with hjobs | ⟨hjobs, _⟩
        · exact .inl (List.mem_append_left _ (hjobs.subset hrun))
        · rw [hjobs, List.mem_append, List.mem_singleton] at hrun
          exact hrun.imp_left (List.mem_append_left _)
      · exact (act.known run hrun).imp_left (List.mem_append_right _)
    rcases hbefore with hbefore | rfl
    · exact Nat.le_trans (sound.bounded run hbefore) act.generation_le
    · exact Nat.le_refl _

/-! ### Steps of the worker -/

theorem Intact.turn_of_workerStep? (intact : Intact capacity s)
    (h : s.workerStep? interpreter = some t) :
    ∃ shared worker, Worker.Turn interpreter s.shared s.worker shared worker ∧
      t = { s with shared, worker } := by
  simp only [workerStep?, Option.map_eq_some_iff, Prod.exists] at h
  obtain ⟨shared, worker, hstep, rfl⟩ := h
  exact ⟨shared, worker, Worker.turn_of_step? intact.shared.channel intact.shared.listening
    intact.shared.commanding intact.worker.fits hstep, rfl⟩

/-- A worker that has stopped makes no step. -/
theorem going_of_workerStep? (h : s.workerStep? interpreter = some t) :
    s.worker.hasStopped = false := by
  rw [Bool.eq_false_iff]
  intro stopped
  obtain ⟨shared, ⟨phase, last?, disconnected⟩, c⟩ := s
  cases phase with
  | stopped => cases h
  | _ => cases stopped

theorem Upheld.turn_of_workerStep? (upheld : Upheld capacity s)
    (h : s.workerStep? interpreter = some t) :
    ∃ shared worker, Worker.Turn interpreter s.shared s.worker shared worker ∧
      t = { s with shared, worker } :=
  (upheld.intact (going_of_workerStep? h)).turn_of_workerStep? h

theorem Sound.turn_of_workerStep? (sound : Sound capacity s)
    (h : s.workerStep? interpreter = some t) :
    ∃ shared worker, Worker.Turn interpreter s.shared s.worker shared worker ∧
      t = { s with shared, worker } :=
  sound.intact.turn_of_workerStep? h

end Runner

namespace Worker.Turn

variable {interpreter : Interpreter} {capacity : Nat} {s s' : Shared} {w w' : Worker}

theorem shared_sound (turn : Turn interpreter s w s' w') (sound : s.Sound capacity) :
    s'.Sound capacity := by
  obtain ⟨channel, hcapacity, listening, commanding⟩ := sound
  cases turn with
  | stage w turn =>
      cases turn with
      | claim | withdraw | consume =>
          exact ⟨Channel.isSound_setState _ _, hcapacity, listening, commanding⟩
      | erase => exact ⟨channel.clear, hcapacity, listening, commanding⟩
      | _ => exact ⟨channel, hcapacity, listening, commanding⟩
  | _ => exact ⟨channel, hcapacity, listening, commanding⟩

theorem generation (turn : Turn interpreter s w s' w') : s'.generation = s.generation := by
  cases turn with
  | stage w turn => exact turn.generation
  | _ => rfl

/-- The worker falls asleep only on a channel that waits. -/
theorem not_isAsleep (turn : Turn interpreter s w s' w') (late : s'.channel.state ≠ .waiting) :
    w'.isAsleep = false := by
  cases turn with
  | stage w turn =>
      cases turn with
      | sleep waiting => exact (late waiting).elim
      | _ => rfl
  | _ => rfl

end Worker.Turn

namespace Runner

variable {interpreter : Interpreter} {capacity : Nat} {s t : Runner} {h deeds : List Deed}

theorem Sound.turn (sound : Sound capacity s) {shared : Shared} {worker : Worker}
    (turn : Worker.Turn interpreter s.shared s.worker shared worker) :
    Sound capacity { s with shared, worker } := by
  have hjobs : ({ s with shared, worker } : Runner).jobs.Sublist s.jobs := by
    have hruns := turn.runs sound.worker
    simpa [jobs, tasks] using hruns.append_right s.foreground.activity.run?.toList
  obtain ⟨news, hinbox, hnews⟩ := turn.news sound.worker
  refine ⟨turn.shared_sound sound.shared, turn.sound sound.worker, sound.sorted.sublist hjobs,
    ?_, ?_⟩
  · intro run hrun
    show run ≤ shared.generation
    rw [turn.generation]
    refine sound.bounded run ?_
    rcases List.mem_append.mp hrun with hrun | hrun
    · exact List.mem_append_left _ (hjobs.subset hrun)
    · simp only [known, hinbox, List.filterMap_append, List.append_assoc] at hrun
      simp only [known, List.mem_append] at hrun ⊢
      rcases hrun with hrun | hrun | hrun
      · exact .inr (.inl hrun)
      · obtain ⟨message, hmessage, hrun⟩ := List.mem_filterMap.mp hrun
        rw [hnews message hmessage] at hrun
        exact .inl (by simp [jobs, tasks, hrun])
      · exact .inr (.inr hrun)
  · intro asleep late
    rw [show worker.isAsleep = false from turn.not_isAsleep late] at asleep
    cases asleep

theorem Sound.woken (sound : Sound capacity s) :
    Sound capacity { s with worker := s.worker.woken } := by
  refine ⟨sound.shared, sound.worker.woken, ?_, ?_, by simp⟩
  · simpa [jobs, tasks] using sound.sorted
  · simpa [jobs, tasks, known] using sound.bounded

theorem Sound.post (sound : Sound capacity s) {message : Message}
    (plain : ∀ event, message ≠ .event event) : Sound capacity (s.post message) := by
  refine ⟨⟨sound.shared.channel, sound.shared.capacity, sound.shared.listening,
    sound.shared.commanding⟩, sound.worker, sound.sorted, ?_, sound.roused⟩
  have hknown : (s.post message).known = s.known := by
    simp [known, Runner.post, Shared.post, Message.run?_of_plain plain]
  intro run hrun
  rw [hknown] at hrun
  exact sound.bounded run hrun

theorem Sound.begin (sound : Sound capacity s) (free : s.foreground.isFree = true) (call : Call) :
    Sound capacity (s.begin call) := by
  have hjobs : (s.begin call).jobs = s.jobs := by
    simp [jobs, tasks, Runner.begin, Foreground.run?_begin, Foreground.run?_of_isFree free]
  refine ⟨sound.shared, sound.worker, by simpa [hjobs] using sound.sorted, ?_, ?_⟩
  · intro run hrun
    refine sound.bounded run ?_
    rw [hjobs] at hrun
    rcases List.mem_append.mp hrun with hrun | hrun
    · exact List.mem_append_left _ hrun
    · refine List.mem_append_right _ ?_
      simp only [known, Runner.begin, Foreground.active_begin, List.mem_append, Option.mem_toList,
        Option.map_eq_some_iff] at hrun ⊢
      rcases hrun with hrun | ⟨request, hpending, hrequest⟩ | hrun
      · exact .inl hrun
      · exact .inr (.inl ⟨request, Foreground.pending_of_pending_begin hpending, hrequest⟩)
      · exact .inr (.inr hrun)
  · intro asleep late
    have hroused := sound.roused asleep late
    rw [Foreground.isRousing_of_isFree free] at hroused
    cases hroused

theorem Sound.move (sound : Sound capacity s) (move : Move interpreter s deeds t)
    (honest : ∀ deed ∈ deeds, deed.Honest) : Sound capacity t := by
  cases move with
  | call call free => exact sound.begin free call
  | foreground h => exact sound.act (act_of_foregroundStep? sound.shared.channel h)
  | worker h =>
      obtain ⟨shared, worker, turn, rfl⟩ := sound.turn_of_workerStep? h
      exact sound.turn turn
  | spurious => exact sound.woken
  | post message => exact sound.post (Deed.honest_posted.mp (honest _ (by simp)))

theorem Intact.move (intact : Intact capacity s) (move : Move interpreter s deeds t) :
    Intact capacity t := by
  cases move with
  | call => exact ⟨intact.shared, intact.worker⟩
  | foreground h =>
      have act := act_of_foregroundStep? intact.shared.channel h
      exact ⟨act.shared_sound intact.shared, act.worker_sound intact.worker⟩
  | worker h =>
      obtain ⟨shared, worker, turn, rfl⟩ := intact.turn_of_workerStep? h
      exact ⟨turn.shared_sound intact.shared, turn.sound intact.worker⟩
  | spurious => exact ⟨intact.shared, intact.worker.woken⟩
  | post message =>
      obtain ⟨channel, hcapacity, listening, commanding⟩ := intact.shared
      exact ⟨⟨channel, hcapacity, listening, commanding⟩, intact.worker⟩

theorem Intact.course (intact : Intact capacity s) (course : Course interpreter s h t) :
    Intact capacity t := by
  induction course with
  | rest => exact intact
  | move _ move ih => exact ih.move move

/-- What every step keeps as long as both sides can work, whole courses keep. -/
theorem Intact.invariant {P : Runner → Prop} (intact : Intact capacity s) (hs : P s)
    (hstep : ∀ t deeds u, Intact capacity t → P t → Move interpreter t deeds u → P u)
    (course : Course interpreter s h t) : P t := by
  induction course with
  | rest => exact hs
  | move course move ih => exact hstep _ _ _ (intact.course course) ih move

theorem eq_of_spawn (h : spawn capacity = .ok s) :
    s = ⟨(Shared.ofChannel ⟨.zeros, 0, capacity, true⟩ 0).command .init, .start, .start⟩ := by
  unfold spawn at h
  split at h
  · cases h
  · obtain ⟨rfl, _⟩ := Channel.create_ok ‹_›
    exact (Except.ok.inj h).symm

theorem sound_of_spawn (h : spawn capacity = .ok s) : Sound capacity s := by
  obtain rfl := eq_of_spawn h
  refine ⟨⟨rfl, rfl, rfl, rfl⟩, ⟨rfl, ?_, ?_, rfl, ?_⟩, ?_, ?_, ?_⟩
  · exact .inr ⟨rfl, rfl, [], rfl, List.not_mem_nil⟩
  · exact fun run h => nomatch h
  · exact fun event h => nomatch h
  · exact List.Pairwise.nil
  · exact fun run hrun => (List.not_mem_nil hrun).elim
  · exact fun asleep => nomatch asleep

theorem Sound.course (sound : Sound capacity s) (course : Course interpreter s h t)
    (honest : ∀ deed ∈ h, deed.Honest) : Sound capacity t :=
  course.invariant (P := fun _ t => Sound capacity t) honest sound
    fun _ _ _ _ sound move honest => sound.move move honest

end Runner

end Pseudocode
