import Pseudocode.Proofs.Runner.Sound

/-!
The two sides of a runner agree about who waits for whom, as long as nobody resets the channel of a
run that is still the current one. The requests of the current run on their way to an answer, in the
inbox, with the foreground, or just being answered, are exactly the one that the worker waits in, if
it waits. `Agreed` is what every step keeps; the start of another run brings it about, whatever was
before.
-/

namespace Pseudocode

def Request.isOf (run : Nat) (request : Request) : Bool := request.run == run

theorem Request.isOf_iff {run : Nat} {request : Request} :
    isOf run request = true ↔ request.run = run :=
  beq_iff_eq

def Message.request? : Message → Option Request
  | .event (.requested request) => some request
  | _ => none

theorem Message.request?_eq_some {message : Message} {request : Request} :
    message.request? = some request ↔ message = .event (.requested request) := by
  unfold Message.request?
  split <;> simp_all

theorem Message.request?_of_plain {message : Message} (plain : ∀ event, message ≠ .event event) :
    message.request? = none :=
  eq_of_plain request? plain fun _ => rfl

namespace Activity

/-- The request that is being answered, until the answer is announced. -/
def answered? : Activity → Option Request
  | answering request _ .looking | answering request _ .writing
  | answering request _ .announcing => some request
  | _ => none

def isResetting : Activity → Bool
  | resetting _ => true
  | _ => false

/-- Whether a new run was started, and the request of the earlier one was not dropped yet. -/
def isRestarting : Activity → Bool
  | resetting (.start ..) | waking (.start ..) => true
  | _ => false

/-- Whether the foreground has given up the current run for good. -/
def isDeparting : Activity → Bool
  | resetting .shutdown | waking .shutdown | ordering .shutdown | joining | closed => true
  | _ => false

/-- All that two sides have to agree on about what the foreground does. -/
def standing (a : Activity) : Option Request × Option Nat × Bool × Bool × Bool :=
  (a.answered?, a.run?, a.isResetting, a.isRestarting, a.isDeparting)

end Activity

namespace Foreground

theorem answered?_of_isFree {c : Foreground} (free : c.isFree = true) :
    c.activity.answered? = none :=
  eq_of_isFree Activity.answered? free fun _ => rfl

theorem isResetting_of_isFree {c : Foreground} (free : c.isFree = true) :
    c.activity.isResetting = false :=
  eq_of_isFree Activity.isResetting free fun _ => rfl

theorem isRestarting_of_isFree {c : Foreground} (free : c.isFree = true) :
    c.activity.isRestarting = false :=
  eq_of_isFree Activity.isRestarting free fun _ => rfl

theorem isDeparting_of_isFree {c : Foreground} (free : c.isFree = true) :
    c.activity.isDeparting = false :=
  eq_of_isFree Activity.isDeparting free fun _ => rfl

end Foreground

namespace Worker

/-- The request in which the worker waits for an answer, if the channel is in the given state. -/
def awaited? (w : Worker) (state : ChannelState) : Option Request :=
  match w.phase with
  | .asking request stage _ => if stage.hasSent ∧ state = .waiting then some request else none
  | _ => none

/-- Whether the channel can be in a state when the run of a number is the current one. -/
def Settled (w : Worker) (generation : Nat) (state : ChannelState) : Prop :=
  match w.phase with
  | .asking request stage _ => stage.Settled (request.run = generation) state
  | _ => True

end Worker

namespace Runner

/-- The requests of the current run that are on their way to an answer. -/
def held (s : Runner) : List Request :=
  (s.foreground.activity.answered?.toList ++ (s.foreground.pending.toList ++
    s.shared.inbox.filterMap Message.request?)).filter (Request.isOf s.shared.generation)

/-- The request of the current run in which the worker waits for an answer. -/
def awaited (s : Runner) : List Request :=
  (s.worker.awaited? s.shared.channel.state).toList.filter (Request.isOf s.shared.generation)

structure Agreed (s : Runner) : Prop where
  settled : s.foreground.activity.isResetting = false →
    s.worker.Settled s.shared.generation s.shared.channel.state
  held : s.held = s.awaited
  pending : ∀ request, s.foreground.pending = some request →
    request.run = s.shared.generation ∨ s.foreground.activity.isRestarting = true ∨
      s.foreground.activity.isDeparting = true
  answered : ∀ request, s.foreground.activity.answered? = some request →
    request.run = s.shared.generation
  active : ∀ run, s.foreground.active = some run →
    run = s.shared.generation ∨ s.foreground.activity.isDeparting = true
  ordered : ∀ run, s.foreground.activity.run? = some run → run = s.shared.generation
  /-- The run that the foreground gave up, or is about to reset the channel for, is no task. -/
  cleared : s.foreground.activity.isResetting = true ∨ s.foreground.activity.isDeparting = true →
    s.shared.generation ∉ s.tasks
  /-- The current run is active until its end is heard. -/
  busy : s.shared.generation ∈ s.jobs → s.foreground.active = some s.shared.generation ∧
    ∀ event, .event event ∈ s.shared.inbox → event.isTerminal = true →
      event.run? ≠ some s.shared.generation
  /-- The answer that is about to be announced can be read. -/
  written : ∀ request text, s.foreground.activity = .answering request text .announcing →
    s.shared.channel.readText = Channel.readBack s.shared.channel.capacity text

variable {s : Runner} {h : List Deed} {request : Request}

/-! ### What is awaited -/

theorem mem_awaited : request ∈ s.awaited ↔ ∃ stage next,
    s.worker.phase = .asking request stage next ∧ stage.hasSent = true ∧
      s.shared.channel.state = .waiting ∧ request.run = s.shared.generation := by
  simp only [awaited, List.mem_filter, Option.mem_toList, Worker.awaited?, Request.isOf, beq_iff_eq]
  constructor
  · rintro ⟨hawaited, current⟩
    split at hawaited
    · split at hawaited
      · cases hawaited
        exact ⟨_, _, ‹_›, by simp_all, by simp_all, current⟩
      · cases hawaited
    · cases hawaited
  · rintro ⟨stage, next, hphase, sent, waiting, current⟩
    exact ⟨by simp [hphase, sent, waiting], current⟩

theorem length_awaited_le (s : Runner) : s.awaited.length ≤ 1 := by
  refine Nat.le_trans (List.length_filter_le _ _) ?_
  cases s.worker.awaited? s.shared.channel.state <;> simp

theorem awaited_eq_of_mem (h : request ∈ s.awaited) : s.awaited = [request] := by
  have hlength := s.length_awaited_le
  cases hawaited : s.awaited with
  | nil => simp [hawaited] at h
  | cons other rest =>
      rw [hawaited, List.length_cons] at hlength
      obtain rfl : rest = [] := List.length_eq_zero_iff.mp (by omega)
      rw [hawaited] at h
      rw [List.mem_singleton.mp h]

theorem run_of_mem_awaited (h : request ∈ s.awaited) : request.run = s.shared.generation := by
  obtain ⟨_, _, _, _, _, current⟩ := mem_awaited.mp h
  exact current

theorem waiting_of_mem_awaited (h : request ∈ s.awaited) :
    s.shared.channel.state = .waiting := by
  obtain ⟨_, _, _, _, waiting, _⟩ := mem_awaited.mp h
  exact waiting

theorem mem_tasks_of_mem_awaited (h : request ∈ s.awaited) : s.shared.generation ∈ s.tasks := by
  obtain ⟨stage, next, hphase, _, _, current⟩ := mem_awaited.mp h
  simp [tasks, Worker.run?, hphase, current]

theorem awaited_eq_nil_of_not_mem_tasks (h : s.shared.generation ∉ s.tasks) : s.awaited = [] := by
  refine List.eq_nil_iff_forall_not_mem.mpr fun request hrequest => ?_
  exact h (mem_tasks_of_mem_awaited hrequest)

theorem awaited_eq_nil_of_not_waiting (late : s.shared.channel.state ≠ .waiting) :
    s.awaited = [] := by
  refine List.eq_nil_iff_forall_not_mem.mpr fun request hrequest => ?_
  exact late (waiting_of_mem_awaited hrequest)

end Runner

/-! ### Steps of the worker -/

namespace Worker

@[simp] theorem awaited?_woken (w : Worker) (state : ChannelState) :
    w.woken.awaited? state = w.awaited? state :=
  eq_woken (·.awaited? state) w fun _ _ _ _ => rfl

theorem Settled.woken {w : Worker} {generation : Nat} {state : ChannelState}
    (settled : w.Settled generation state) : w.woken.Settled generation state := by
  obtain ⟨phase, last?, disconnected⟩ := w
  cases phase with
  | asking request stage next => exact Asking.Settled.woken settled
  | _ => exact trivial

/-- A worker that is busy with no request of the current run can find the channel idle. -/
theorem settled_idle {w : Worker} {generation : Nat} (other : w.run? ≠ some generation) :
    w.Settled generation .idle := by
  unfold Settled
  split
  · rename_i request stage next hphase
    exact Asking.settled_idle fun current => other (by simp [run?, hphase, current])
  · trivial

/-- A worker that is busy with another run waits for nobody. -/
theorem Settled.ready {w : Worker} {generation : Nat} (settled : w.Settled generation .waiting)
    {request : Request} {stage : Asking} {next : String → Dialogue Ending}
    (phase : w.phase = .asking request stage next) (sent : stage.hasSent = true)
    (current : request.run = generation) : w.Settled generation .ready := by
  unfold Settled at settled ⊢
  rw [phase] at settled ⊢
  have fits := settled.current current
  exact ⟨fun _ => fits.ready sent, fun stale => (stale current).elim⟩

namespace Turn

variable {interpreter : Interpreter} {s s' : Shared} {w w' : Worker}

theorem settled (turn : Turn interpreter s w s' w')
    (settled : w.Settled s.generation s.channel.state) :
    w'.Settled s'.generation s'.channel.state := by
  cases turn with
  | stage w turn => exact settled.turn turn
  | ask => exact ⟨fun _ => trivial, fun _ => trivial⟩
  | _ => exact trivial

/-- The worker begins to wait for an answer when it tells the foreground, and only then. -/
theorem awaited? (turn : Turn interpreter s w s' w')
    (sound : w.Sound s.channel.state s.commands) :
    (w'.awaited? s'.channel.state = w.awaited? s.channel.state ∧
      s'.inbox.filterMap Message.request? = s.inbox.filterMap Message.request?) ∨
    ∃ request next, w.phase = .asking request .sending next ∧
      w'.phase = .asking request .watching next ∧ s' = s.post (.event (.requested request)) := by
  cases turn with
  | stage w turn =>
      cases turn with
      | send => exact .inr ⟨_, _, rfl, rfl, rfl⟩
      | claim | pass | fail | withdraw | giveUp | watch | notice | sleep | startle | find | read =>
          exact .inl ⟨rfl, rfl⟩
      | findNothing idle | consumeInVain idle =>
          exact .inl ⟨by simp [Worker.awaited?, Asking.hasSent, idle], rfl⟩
      | erase => exact .inl ⟨by simp [Worker.awaited?, Asking.hasSent], rfl⟩
      | consume ready => exact .inl ⟨by simp [Worker.awaited?, Asking.hasSent, ready], rfl⟩
  | report w =>
      rename_i event
      have hterminal := sound.telling event rfl
      refine .inl ⟨rfl, ?_⟩
      cases event <;> simp_all [Event.isTerminal, Shared.post, Message.request?]
  | greet | reject | tell => exact .inl ⟨rfl, by simp [Shared.post, Message.request?]⟩
  | _ => exact .inl ⟨rfl, rfl⟩

/-- The worker tells of the end of the run that it is busy with, and then has no run. -/
theorem terminal (turn : Turn interpreter s w s' w') {event : Event}
    (hevent : .event event ∈ s'.inbox) (terminal : event.isTerminal = true) :
    .event event ∈ s.inbox ∨ (w.run? = event.run? ∧ w'.run? = none ∧ s'.commands = s.commands) := by
  cases turn with
  | report | reject =>
      rcases List.mem_append.mp hevent with hevent | hevent
      · exact .inl hevent
      · obtain rfl := Message.event.inj (List.mem_singleton.mp hevent)
        exact .inr ⟨rfl, rfl, rfl⟩
  | greet | tell =>
      rcases List.mem_append.mp hevent with hevent | hevent
      · exact .inl hevent
      · obtain rfl := Message.event.inj (List.mem_singleton.mp hevent)
        cases terminal
  | stage w turn =>
      cases turn with
      | send =>
          rcases List.mem_append.mp hevent with hevent | hevent
          · exact .inl hevent
          · obtain rfl := Message.event.inj (List.mem_singleton.mp hevent)
            cases terminal
      | _ => exact .inl hevent
  | _ => exact .inl hevent

/-- While the channel waits for an answer, the text is left alone. -/
theorem readText (turn : Turn interpreter s w s' w')
    (sound : w.Sound s.channel.state s.commands) (waiting : s.channel.state = .waiting) :
    s'.channel.readText = s.channel.readText := by
  cases turn with
  | stage w turn =>
      cases turn with
      | erase => exact (sound.fits waiting).elim
      | claim | withdraw | consume => simp [Shared.resetChannel, Channel.reset]
      | _ => rfl
  | _ => rfl

theorem capacity (turn : Turn interpreter s w s' w') :
    s'.channel.capacity = s.channel.capacity := by
  cases turn with
  | stage w turn => exact turn.capacity
  | _ => rfl

end Turn

end Worker

namespace Runner

variable {interpreter : Interpreter} {capacity : Nat} {s t : Runner} {h deeds : List Deed}
  {request : Request}

section

variable {shared : Shared} {worker : Worker}

theorem Agreed.held_turn (agreed : s.Agreed) (sound : Sound capacity s)
    (turn : Worker.Turn interpreter s.shared s.worker shared worker) :
    ({ s with shared, worker } : Runner).held = ({ s with shared, worker } : Runner).awaited := by
  have hheld := agreed.held
  rcases turn.awaited? sound.worker with
    ⟨hawaited, hrequests⟩ | ⟨request, next, hphase, hphase', rfl⟩
  · simpa only [Runner.held, Runner.awaited, turn.generation, hawaited, hrequests] using hheld
  · have hnone : s.awaited = [] := by
      simp [Runner.awaited, Worker.awaited?, hphase, Asking.hasSent]
    rw [hnone] at hheld
    have hposted : ({ s with shared := s.shared.post (.event (.requested request)), worker } :
        Runner).held = s.held ++ [request].filter (Request.isOf s.shared.generation) := by
      simp [Runner.held, Shared.post, Message.request?, List.filter_append]
    rw [hposted, hheld, List.nil_append]
    by_cases current : request.run = s.shared.generation
    · have htask : s.shared.generation ∈ s.tasks := by
        simp [tasks, Worker.run?, hphase, current]
      have hreset : s.foreground.activity.isResetting = false := by
        refine Bool.eq_false_iff.mpr fun hreset => ?_
        exact agreed.cleared (.inl hreset) htask
      have hsettled := agreed.settled hreset
      rw [Worker.Settled, hphase] at hsettled
      have waiting : s.shared.channel.state = .waiting := hsettled.current current
      simp [Runner.awaited, Worker.awaited?, hphase', Asking.hasSent, Shared.post, waiting]
    · simp only [Runner.awaited, Worker.awaited?, hphase', Shared.post]
      by_cases waiting : s.shared.channel.state = .waiting <;> simp [Request.isOf, current, waiting]

theorem Agreed.mem_awaited_of_answered (agreed : s.Agreed)
    (h : s.foreground.activity.answered? = some request) : request ∈ s.awaited := by
  have current := agreed.answered request h
  rw [← agreed.held]
  simp [Runner.held, h, Request.isOf, current]

theorem Agreed.waiting_of_answered (agreed : s.Agreed)
    (h : s.foreground.activity.answered? = some request) : s.shared.channel.state = .waiting :=
  waiting_of_mem_awaited (agreed.mem_awaited_of_answered h)

theorem Agreed.turn (agreed : s.Agreed) (sound : Sound capacity s)
    (turn : Worker.Turn interpreter s.shared s.worker shared worker) :
    ({ s with shared, worker } : Runner).Agreed := by
  have hgeneration := turn.generation
  have htasks : ({ s with shared, worker } : Runner).tasks.Sublist s.tasks :=
    turn.runs sound.worker
  refine
    { settled := fun hreset => turn.settled (agreed.settled hreset)
      held := agreed.held_turn sound turn
      pending := fun request hrequest => by rw [hgeneration]; exact agreed.pending request hrequest
      answered := fun request hrequest => by
        rw [hgeneration]
        exact agreed.answered request hrequest
      active := fun run hrun => by rw [hgeneration]; exact agreed.active run hrun
      ordered := fun run hrun => by rw [hgeneration]; exact agreed.ordered run hrun
      cleared := fun h hmem => agreed.cleared h (htasks.subset (by rwa [hgeneration] at hmem))
      busy := fun hmem => ?_
      written := fun request text hactivity => ?_ }
  · rw [hgeneration] at hmem ⊢
    have hjobs : s.shared.generation ∈ s.jobs :=
      (htasks.append_right s.foreground.activity.run?.toList).subset hmem
    obtain ⟨hactive, hterminal⟩ := agreed.busy hjobs
    refine ⟨hactive, fun event hevent terminal hrun => ?_⟩
    rcases turn.terminal hevent terminal with hbefore | ⟨hworker, hworker', hcommands⟩
    · exact hterminal event hbefore terminal hrun
    · have hsorted := sound.sorted
      rw [hrun] at hworker
      simp only [jobs, tasks, hworker, Option.toList, List.cons_append, List.nil_append,
        List.pairwise_cons] at hsorted
      simp only [jobs, tasks, hworker', hcommands, Option.toList, List.nil_append] at hmem
      exact Nat.lt_irrefl _ (hsorted.1 _ hmem)
  · have hanswered : s.foreground.activity.answered? = some request := by
      rw [show s.foreground.activity = _ from hactivity]
      rfl
    have waiting := agreed.waiting_of_answered hanswered
    rw [show ({ s with shared, worker } : Runner).shared = shared from rfl,
      turn.readText sound.worker waiting, turn.capacity]
    exact agreed.written request text hactivity

end

theorem Agreed.woken (agreed : s.Agreed) :
    ({ s with worker := s.worker.woken } : Runner).Agreed where
  settled := fun hreset => (agreed.settled hreset).woken
  held := by simpa [Runner.held, Runner.awaited] using agreed.held
  pending := agreed.pending
  answered := agreed.answered
  active := agreed.active
  ordered := agreed.ordered
  cleared := by simpa [tasks] using agreed.cleared
  busy := by simpa [jobs, tasks] using agreed.busy
  written := agreed.written

/-! ### Steps of the foreground -/

/-- Nothing changes with a step that writes no answer and leaves the foreground's standing. -/
theorem Agreed.of_standing (agreed : s.Agreed) {activity : Activity}
    (same : activity.standing = s.foreground.activity.standing)
    (unwritten : ∀ request text, activity ≠ .answering request text .announcing) :
    (s.setActivity activity).Agreed := by
  simp only [Activity.standing, Prod.mk.injEq] at same
  obtain ⟨hanswered, hrun, hresetting, hrestarting, hdeparting⟩ := same
  have hjobs : (s.setActivity activity).jobs = s.jobs := by
    rw [jobs, setActivity, hrun]
    rfl
  exact
    { settled := fun h => agreed.settled (hresetting ▸ h)
      held := by
        have hheld := agreed.held
        rwa [Runner.held, ← hanswered] at hheld
      pending := fun request h => by
        rw [setActivity, hrestarting, hdeparting]
        exact agreed.pending request h
      answered := fun request h => agreed.answered request (hanswered ▸ h)
      active := fun run h => by
        rw [setActivity, hdeparting]
        exact agreed.active run h
      ordered := fun run h => agreed.ordered run (hrun ▸ h)
      cleared := fun h => agreed.cleared (by rwa [← hresetting, ← hdeparting])
      busy := fun hmem => agreed.busy (hjobs ▸ hmem)
      written := fun request text h => (unwritten request text h).elim }

/-- A run that is about to be ordered is no task yet. -/
theorem Agreed.not_mem_tasks (agreed : s.Agreed) (sound : Sound capacity s) {run : Nat}
    (h : s.foreground.activity.run? = some run) : s.shared.generation ∉ s.tasks := by
  intro hmem
  have hrun := agreed.ordered run h
  have hsorted := sound.sorted
  rw [jobs, h, List.pairwise_append] at hsorted
  have hlt := hsorted.2.2 _ hmem run (by simp)
  exact Nat.ne_of_gt hlt hrun

theorem run_mem_known (h : request ∈ s.foreground.pending.toList ++
    s.shared.inbox.filterMap Message.request?) : request.run ∈ s.known := by
  rcases List.mem_append.mp h with h | h
  · simp [known, Option.mem_toList.mp h]
  · obtain ⟨message, hmessage, h⟩ := List.mem_filterMap.mp h
    obtain rfl := Message.request?_eq_some.mp h
    exact List.mem_append_left _ (List.mem_filterMap.mpr ⟨_, hmessage, rfl⟩)

/-- Nothing is held of a run that is newer than all that messages and the foreground know of. -/
theorem held_eq_nil (answered : s.foreground.activity.answered? = none)
    (newer : ∀ request ∈ s.foreground.pending.toList ++
      s.shared.inbox.filterMap Message.request?, request.run ≠ s.shared.generation) :
    s.held = [] := by
  refine List.filter_eq_nil_iff.mpr fun request hrequest => ?_
  rw [answered, Option.toList_none, List.nil_append] at hrequest
  exact mt Request.isOf_iff.mp (newer request hrequest)

theorem Sound.known_ne_succ (sound : Sound capacity s) :
    ∀ run ∈ s.jobs ++ s.known, run ≠ s.shared.generation + 1 := fun run hrun =>
  Nat.ne_of_lt (Nat.lt_succ_of_le (sound.bounded run hrun))

/-- A new run is agreed on, whatever was before. -/
theorem Sound.agreed_supersede (sound : Sound capacity s) (source? : Option String) :
    (s.supersede source?).Agreed := by
  have hnew := sound.known_ne_succ
  have htasks : s.shared.generation + 1 ∉ s.tasks := fun hmem =>
    hnew _ (by simp [jobs, hmem]) rfl
  have hinbox : ∀ event, .event event ∈ s.shared.inbox →
      event.run? ≠ some (s.shared.generation + 1) := by
    intro event hevent hrun
    refine hnew _ (List.mem_append_right _ (List.mem_append_left _ ?_)) rfl
    exact List.mem_filterMap.mpr ⟨_, hevent, hrun⟩
  have hrequest : ∀ request ∈ s.foreground.pending.toList ++
      s.shared.inbox.filterMap Message.request?, request.run ≠ s.shared.generation + 1 :=
    fun request hrequest => hnew _ (List.mem_append_right _ (run_mem_known hrequest))
  cases source? with
  | some source =>
      exact
        { settled := by rintro ⟨⟩
          held := by
            rw [awaited_eq_nil_of_not_mem_tasks htasks]
            exact held_eq_nil rfl hrequest
          pending := fun _ _ => .inr (.inl rfl)
          answered := by rintro _ ⟨⟩
          active := fun run hrun => .inl (Option.some.inj hrun).symm
          ordered := fun run hrun => (Option.some.inj hrun).symm
          cleared := fun _ => htasks
          busy := fun _ => ⟨rfl, fun event hevent _ => hinbox event hevent⟩
          written := by rintro _ _ ⟨⟩ }
  | none =>
      exact
        { settled := by rintro ⟨⟩
          held := by
            rw [awaited_eq_nil_of_not_mem_tasks htasks]
            exact held_eq_nil rfl hrequest
          pending := fun _ _ => .inr (.inr rfl)
          answered := by rintro _ ⟨⟩
          active := fun _ _ => .inr rfl
          ordered := by rintro _ ⟨⟩
          cleared := fun _ => htasks
          busy := fun hmem => by
            rw [show (s.supersede none).jobs = s.tasks from List.append_nil _] at hmem
            exact (htasks hmem).elim
          written := by rintro _ _ ⟨⟩ }

section

variable {message : Message} {inbox : List Message} {patient : Bool}

/-- The runner without the first message of the inbox. -/
def dropFirst (s : Runner) (inbox : List Message) : Runner :=
  { s with shared := { s.shared with inbox } }

/-- Nothing is lost with a message that is no request of the current run. -/
theorem Agreed.dropFirst (agreed : s.Agreed) (first : s.shared.inbox = message :: inbox)
    (other : ∀ request, message.request? = some request → request.run ≠ s.shared.generation) :
    (s.dropFirst inbox).Agreed := by
  have hheld : (s.dropFirst inbox).held = s.held := by
    simp only [Runner.held, Runner.dropFirst, first, List.filterMap_cons]
    split
    · rfl
    · rename_i request hrequest
      simp [Request.isOf, other request hrequest]
  exact
    { settled := agreed.settled
      held := hheld.trans agreed.held
      pending := agreed.pending
      answered := agreed.answered
      active := agreed.active
      ordered := agreed.ordered
      cleared := agreed.cleared
      busy := fun hmem => (agreed.busy hmem).imp_right fun hterminal event hevent =>
        hterminal event (first ▸ List.mem_cons_of_mem _ hevent)
      written := agreed.written }

/-- A request of the current run in the inbox is the one that is awaited. -/
theorem Agreed.mem_awaited_of_mem_inbox (agreed : s.Agreed)
    (h : .event (.requested request) ∈ s.shared.inbox)
    (current : request.run = s.shared.generation) : request ∈ s.awaited := by
  rw [← agreed.held]
  refine List.mem_filter.mpr ⟨?_, Request.isOf_iff.mpr current⟩
  refine List.mem_append_right _ (List.mem_append_right _ ?_)
  exact List.mem_filterMap.mpr ⟨_, h, rfl⟩

/-- Messages are taken for the current run only. -/
theorem Agreed.run_of_taking (agreed : s.Agreed) (taking : s.foreground.activity = .taking patient)
    {run : Nat} (active : s.foreground.active = some run) : run = s.shared.generation := by
  rcases agreed.active run active with current | departing
  · exact current
  · rw [taking] at departing
    cases departing

/-- No other request of the current run is on its way when one is pending. -/
theorem Agreed.alone_of_pending (agreed : s.Agreed) (pending : s.foreground.pending = some request)
    (current : request.run = s.shared.generation) :
    s.awaited = [request] ∧ (s.shared.inbox.filterMap Message.request?).filter
      (Request.isOf s.shared.generation) = [] := by
  have hisOf := Request.isOf_iff.mpr current
  have hawaited : s.awaited = [request] := by
    refine awaited_eq_of_mem (agreed.held ▸ ?_)
    simp [Runner.held, pending, hisOf]
  have hlength := congrArg List.length (agreed.held.trans hawaited)
  rw [Runner.held, List.filter_append, List.filter_append, List.length_append, List.length_append,
    pending, Option.toList_some, List.filter_cons_of_pos hisOf] at hlength
  simp only [List.filter_nil, List.length_cons, List.length_nil] at hlength
  exact ⟨hawaited, List.length_eq_zero_iff.mp (by omega)⟩

/-- An event that is dropped is none of the current run, or of no importance. -/
theorem Agreed.drop (agreed : s.Agreed) {event : Event} {run : Nat}
    (first : s.shared.inbox = .event event :: inbox) (named : event.run? = some run)
    (other : s.foreground.active ≠ some run) : (s.dropFirst inbox).Agreed := by
  refine agreed.dropFirst first fun request hrequest current => other ?_
  obtain rfl : event = .requested request := by
    cases event <;> cases hrequest
    rfl
  have hmem := agreed.mem_awaited_of_mem_inbox (by simp [first]) current
  have hjobs : s.shared.generation ∈ s.jobs :=
    List.mem_append_left _ (mem_tasks_of_mem_awaited hmem)
  rw [(agreed.busy hjobs).1, ← named, ← current]
  rfl

/-- A request that is heard becomes the pending one, and no other was. -/
theorem Agreed.hear_requested (agreed : s.Agreed)
    (first : s.shared.inbox = .event (.requested request) :: inbox)
    (taking : s.foreground.activity = .taking patient)
    (active : s.foreground.active = some request.run) :
    ({ s.dropFirst inbox with
      foreground := { s.foreground with
        pending := some request
        activity := .returned (.received (.event (.requested request))) } } : Runner).Agreed := by
  have current : request.run = s.shared.generation := agreed.run_of_taking taking active
  have hmem := agreed.mem_awaited_of_mem_inbox (by simp [first]) current
  have hawaited := awaited_eq_of_mem hmem
  have hisOf := Request.isOf_iff.mpr current
  have hrest : (inbox.filterMap Message.request?).filter
      (Request.isOf s.shared.generation) = [] := by
    have hheld := agreed.held.trans hawaited
    have hcons : s.shared.inbox.filterMap Message.request? =
        request :: inbox.filterMap Message.request? := by
      rw [first]
      rfl
    rw [Runner.held, taking, hcons] at hheld
    have hlength := congrArg List.length hheld
    simp only [Activity.answered?, Option.toList_none, List.nil_append, List.filter_append,
      List.filter_cons_of_pos hisOf, List.length_append, List.length_cons,
      List.length_nil] at hlength
    exact List.length_eq_zero_iff.mp (by omega)
  exact
    { settled := fun _ => agreed.settled (by rw [taking]; rfl)
      held := by
        refine Eq.trans ?_ hawaited.symm
        refine (List.filter_cons_of_pos hisOf).trans ?_
        exact congrArg (request :: ·) hrest
      pending := fun other hother => by
        cases hother
        exact .inl current
      answered := by rintro _ ⟨⟩
      active := fun run hrun => .inl (agreed.run_of_taking taking hrun)
      ordered := by rintro _ ⟨⟩
      cleared := by simp [Activity.isResetting, Activity.isDeparting]
      busy := fun hmem => by
        have hjobs := List.mem_append_left s.foreground.activity.run?.toList
          ((List.mem_append.mp hmem).resolve_right List.not_mem_nil)
        exact (agreed.busy hjobs).imp_right fun hterminal event hevent =>
          hterminal event (first ▸ List.mem_cons_of_mem _ hevent)
      written := by simp }

/-- When the end of the current run is heard, nobody waits. -/
theorem Agreed.hear_terminal (agreed : s.Agreed) {event : Event} {run : Nat}
    (first : s.shared.inbox = .event event :: inbox) (named : event.run? = some run)
    (terminal : event.isTerminal = true) (taking : s.foreground.activity = .taking patient)
    (active : s.foreground.active = some run) {reply : Reply} :
    ({ s.dropFirst inbox with
      foreground := { s.foreground with
        active := none, pending := none, activity := .returned reply } } : Runner).Agreed := by
  have current : run = s.shared.generation := agreed.run_of_taking taking active
  have hjobs : s.shared.generation ∉ s.jobs := fun hmem =>
    (agreed.busy hmem).2 event (by simp [first]) terminal (by rw [named, current])
  have htasks : s.shared.generation ∉ s.tasks := fun hmem => hjobs (List.mem_append_left _ hmem)
  have hnone := awaited_eq_nil_of_not_mem_tasks htasks
  exact
    { settled := fun _ => agreed.settled (by rw [taking]; rfl)
      held := by
        refine Eq.trans ?_ hnone.symm
        refine List.filter_eq_nil_iff.mpr fun request hrequest => ?_
        refine List.filter_eq_nil_iff.mp (agreed.held.trans hnone) request ?_
        refine List.mem_append_right _ (List.mem_append_right _ ?_)
        rw [first]
        exact List.mem_filterMap.mpr ((List.mem_filterMap.mp hrequest).imp fun message h =>
          ⟨List.mem_cons_of_mem _ h.1, h.2⟩)
      pending := by simp
      answered := by rintro _ ⟨⟩
      active := by simp
      ordered := by rintro _ ⟨⟩
      cleared := by simp [Activity.isResetting, Activity.isDeparting]
      busy := fun hmem => (htasks ((List.mem_append.mp hmem).resolve_right List.not_mem_nil)).elim
      written := by simp }

end

section

variable {shared : Shared} {worker : Worker} {c : Foreground}

/-- The channel is reset for a run that is no task, so nobody waits in it. -/
theorem Agreed.reset {errand : Errand}
    (agreed : (⟨shared, worker, { c with activity := .resetting errand }⟩ : Runner).Agreed) :
    (⟨shared.resetChannel, worker, { c with activity := .waking errand }⟩ : Runner).Agreed := by
  have htasks := agreed.cleared (.inl rfl)
  have hnone := awaited_eq_nil_of_not_mem_tasks htasks
  have hidle : shared.resetChannel.channel.state = .idle := shared.channel.state_setState .idle
  have hother : worker.run? ≠ some shared.generation := fun h => htasks (by simp [tasks, h])
  exact
    { settled := fun _ => by
        rw [hidle]
        exact Worker.settled_idle hother
      held := (agreed.held.trans hnone).trans
        (awaited_eq_nil_of_not_mem_tasks (by exact htasks)).symm
      pending := by cases errand <;> exact agreed.pending
      answered := by rintro _ ⟨⟩
      active := by cases errand <;> exact agreed.active
      ordered := agreed.ordered
      cleared := fun _ => htasks
      busy := agreed.busy
      written := by simp }

/-- The request that is dropped for a new run is none of that run, which is no task yet. -/
theorem Agreed.wakeToStart {run : Nat} {source : String}
    (agreed : (⟨shared, worker, { c with activity := .waking (.start run source) }⟩ :
      Runner).Agreed)
    (htasks : shared.generation ∉ (⟨shared, worker, c⟩ : Runner).tasks) :
    (⟨shared, worker, { c with activity := .ordering (.start run source), pending := none }⟩ :
      Runner).Agreed where
  settled := agreed.settled
  held := by
    have hheld := agreed.held.trans (awaited_eq_nil_of_not_mem_tasks htasks)
    refine Eq.trans ?_ (awaited_eq_nil_of_not_mem_tasks htasks).symm
    exact List.filter_eq_nil_iff.mpr fun request hrequest =>
      List.filter_eq_nil_iff.mp hheld request (List.mem_append_right _
        (List.mem_append_right _ hrequest))
  pending := by simp
  answered := by rintro _ ⟨⟩
  active := agreed.active
  ordered := agreed.ordered
  cleared := agreed.cleared
  busy := agreed.busy
  written := by simp

/-- The request that is answered is the only one on its way, and is awaited no more. -/
theorem Agreed.announce {text : String}
    (agreed : (⟨shared, worker, { c with activity := .answering request text .announcing }⟩ :
      Runner).Agreed) :
    (⟨{ shared with channel := shared.channel.setState .ready }, worker,
      { c with activity := .answering request text .waking }⟩ : Runner).Agreed := by
  have hmem := agreed.mem_awaited_of_answered rfl
  obtain ⟨stage, next, hphase, sent, waiting, current⟩ := mem_awaited.mp hmem
  have hsettled : worker.Settled shared.generation .waiting := by
    rw [← show shared.channel.state = .waiting from waiting]
    exact agreed.settled rfl
  have hready : (shared.channel.setState .ready).state = .ready :=
    shared.channel.state_setState .ready
  exact
    { settled := fun _ => by
        rw [hready]
        exact hsettled.ready hphase sent current
      held := by
        have hheld := agreed.held.trans (awaited_eq_of_mem hmem)
        have hrest := (List.cons.inj ((List.filter_cons_of_pos
          (Request.isOf_iff.mpr current)).symm.trans hheld)).2
        refine hrest.trans (awaited_eq_nil_of_not_waiting ?_).symm
        rw [hready]
        simp
      pending := agreed.pending
      answered := by rintro _ ⟨⟩
      active := agreed.active
      ordered := agreed.ordered
      cleared := agreed.cleared
      busy := agreed.busy
      written := by simp }

end

theorem Agreed.act (agreed : s.Agreed) (sound : Sound capacity s) (act : Act s t) : t.Agreed := by
  cases act with
  | supersede => exact sound.agreed_supersede (some _)
  | depart => exact sound.agreed_supersede none
  | reset => exact agreed.reset
  | wakeToStart =>
      have htasks := agreed.not_mem_tasks sound rfl
      exact agreed.woken.wakeToStart (by simpa [tasks] using htasks)
  | wakeToRelease | wakeToShutDown | wakeToRead => exact agreed.woken.of_standing rfl (by simp)
  | order s w c =>
      rename_i run source _
      have hjobs :
          (⟨s.command (.run run source), w, { c with activity := .returned (.started run) }⟩ :
            Runner).jobs =
          (⟨s, w, { c with activity := .ordering (.start run source) }⟩ : Runner).jobs := by
        simp [jobs, tasks, Shared.command, Command.run?, Activity.run?, Errand.run?]
      exact ⟨agreed.settled, agreed.held, agreed.pending, agreed.answered, agreed.active,
        by rintro _ ⟨⟩, by simp [Activity.isResetting, Activity.isDeparting],
        fun hmem => agreed.busy (by rwa [hjobs] at hmem), by simp⟩
  | orderInVain s w c =>
      exact ⟨agreed.settled, agreed.held, agreed.pending, agreed.answered, agreed.active,
        by rintro _ ⟨⟩, agreed.cleared, fun hmem => agreed.busy (List.mem_append_left _
          ((List.mem_append.mp hmem).resolve_right List.not_mem_nil)), by simp⟩
  | shutDown s w c =>
      have htasks : (⟨s.command .shutdown, w, { c with activity := .joining }⟩ : Runner).tasks =
          (⟨s, w, { c with activity := .ordering .shutdown }⟩ : Runner).tasks := by
        simp [tasks, Shared.command, Command.run?]
      exact ⟨agreed.settled, agreed.held, agreed.pending, agreed.answered, agreed.active,
        by rintro _ ⟨⟩, fun h => by rw [htasks]; exact agreed.cleared h,
        fun hmem => agreed.busy (by rwa [jobs, htasks] at hmem), by simp⟩
  | orderRelease | shutDownInVain | join | look | answered | takeNothing | probeInVain | retry
  | giveUp => exact agreed.of_standing rfl (by simp)
  | lookInVain s w c late | announceInVain s w c late =>
      exact (late (agreed.waiting_of_answered rfl)).elim
  | write s w c =>
      rename_i request text
      exact
        { settled := fun h => by
            have hsettled := agreed.settled h
            simpa using hsettled
          held := agreed.held.trans (by simp [Runner.awaited])
          pending := agreed.pending
          answered := agreed.answered
          active := agreed.active
          ordered := agreed.ordered
          cleared := agreed.cleared
          busy := agreed.busy
          written := fun _ _ h => by
            cases h
            exact s.channel.readText_writeText text }
  | announce => exact agreed.announce
  | drop s w c first named other => exact agreed.drop first named other
  | hear s w c first admitted =>
      rename_i event inbox
      cases event with
      | ready =>
          -- That the channel is there is noted as well, which nothing here is about.
          have agreed := agreed.dropFirst first (by simp [Message.request?])
          exact ⟨agreed.settled, agreed.held, agreed.pending, agreed.answered, agreed.active,
            agreed.ordered, agreed.cleared, agreed.busy, by simp⟩
      | produced run text =>
          exact (agreed.dropFirst first (by simp [Message.request?])).of_standing rfl (by simp)
      | requested request => exact agreed.hear_requested first rfl (admitted _ rfl)
      | finished run text | failed run text =>
          exact agreed.hear_terminal first rfl rfl rfl (admitted _ rfl)
  | readLine s w c first plain =>
      have agreed := agreed.dropFirst first fun request hrequest => by
        rw [Message.request?_of_plain plain] at hrequest
        cases hrequest
      exact agreed.of_standing rfl (by simp)

/-! ### All steps -/

theorem Agreed.begin (agreed : s.Agreed) (free : s.foreground.isFree = true) {call : Call}
    (kept : call ≠ .reset) : (s.begin call).Agreed := by
  obtain ⟨shared, w, activity, active, ready, pending⟩ := s
  cases activity with
  | idle | returned =>
      cases call with
      | start | receive | poll | close => exact agreed.of_standing rfl (by simp)
      | reset => exact (kept rfl).elim
      | submit text =>
          cases pending with
          | none => exact agreed.of_standing rfl (by simp)
          | some request =>
              have hcurrent :
                  ∀ other, some request = some other → other.run = shared.generation := by
                intro other hother
                cases hother
                simpa [Activity.isRestarting, Activity.isDeparting] using agreed.pending request rfl
              exact ⟨agreed.settled, agreed.held, by rintro _ ⟨⟩, hcurrent, agreed.active,
                agreed.ordered, agreed.cleared, agreed.busy, by rintro _ _ ⟨⟩⟩
  | _ => cases free

theorem Agreed.post (agreed : s.Agreed) {message : Message}
    (plain : ∀ event, message ≠ .event event) : (s.post message).Agreed := by
  have hrequest := Message.request?_of_plain plain
  have hheld : (s.post message).held = s.held := by
    simp [Runner.held, Runner.post, Shared.post, hrequest]
  exact
    { settled := agreed.settled
      held := hheld.trans agreed.held
      pending := agreed.pending
      answered := agreed.answered
      active := agreed.active
      ordered := agreed.ordered
      cleared := agreed.cleared
      busy := fun hmem => (agreed.busy hmem).imp_right fun hterminal event hevent => by
        rcases List.mem_append.mp hevent with hevent | hevent
        · exact hterminal event hevent
        · exact (plain event (List.mem_singleton.mp hevent).symm).elim
      written := agreed.written }

theorem Agreed.move (agreed : s.Agreed) (sound : Sound capacity s)
    (move : Move interpreter s deeds t)
    (hdeeds : ∀ deed ∈ deeds, deed.Calls (· ≠ .reset) ∧ deed.Honest) : t.Agreed := by
  cases move with
  | call call free => exact agreed.begin free (hdeeds _ List.mem_cons_self).1
  | foreground h => exact agreed.act sound (act_of_foregroundStep? sound.shared.channel h)
  | worker h =>
      obtain ⟨shared, worker, turn, rfl⟩ := sound.turn_of_workerStep? h
      exact agreed.turn sound turn
  | spurious => exact agreed.woken
  | post message => exact agreed.post (Deed.honest_posted.mp (hdeeds _ (by simp)).2)

theorem agreed_of_spawn (h : spawn capacity = .ok s) : s.Agreed := by
  obtain rfl := eq_of_spawn h
  exact
    { settled := fun _ => trivial
      held := rfl
      pending := by rintro _ ⟨⟩
      answered := by rintro _ ⟨⟩
      active := by rintro _ ⟨⟩
      ordered := by rintro _ ⟨⟩
      cleared := by simp [Foreground.start, Activity.isResetting, Activity.isDeparting]
      busy := fun hmem => (List.not_mem_nil hmem).elim
      written := by rintro _ _ ⟨⟩ }

/-- As long as the channel is not reset by itself, two sides that agree go on to do so. -/
theorem Agreed.course (agreed : s.Agreed) (sound : Sound capacity s)
    (course : Course interpreter s h t)
    (hdeeds : ∀ deed ∈ h, deed.Calls (· ≠ .reset) ∧ deed.Honest) : Sound capacity t ∧ t.Agreed := by
  refine course.invariant (P := fun _ t => Sound capacity t ∧ t.Agreed) hdeeds ⟨sound, agreed⟩ ?_
  rintro _ _ _ _ ⟨sound, agreed⟩ move hdeeds
  exact ⟨sound.move move fun deed hdeed => (hdeeds deed hdeed).2, agreed.move sound move hdeeds⟩

end Runner

end Pseudocode
