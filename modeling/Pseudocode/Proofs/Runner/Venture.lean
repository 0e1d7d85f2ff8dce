import Pseudocode.Proofs.Runner.Filtering

/-!
Ventures: courses of a runner whose worker may break down at any moment, wherever it stands, and
not only where its program does. Beside its history a venture tells which commands went into the
queue of the worker. A worker that has stopped leaves the channel in any state, but it makes no step
any more, so the two sides still move as they do in a course.
-/

namespace Pseudocode

namespace Worker

@[simp] theorem hasStopped_woken (w : Worker) : w.woken.hasStopped = w.hasStopped :=
  eq_woken hasStopped w fun _ _ _ _ => rfl

/-- The worker takes its commands from the front of the queue, and adds none. -/
theorem Turn.commands_suffix {interpreter : Interpreter} {s s' : Shared} {w w' : Worker}
    (turn : Turn interpreter s w s' w') : s'.commands <:+ s.commands := by
  cases turn with
  | prepare w queued | accept w queued | retire w queued => exact ⟨[_], queued.symm⟩
  | stage w turn => exact turn.commands ▸ List.suffix_refl _
  | _ => exact List.suffix_refl _

end Worker

namespace Runner

/-- The worker breaks down. -/
def breakDown (s : Runner) : Runner := { s with worker := s.worker.stop true }

/-- The commands that a step adds to the queue of the worker. -/
def added (s t : Runner) : List Command := t.shared.commands.drop s.shared.commands.length

/-- One step of a runner with its deeds, or a breakdown of its worker. -/
inductive Hazard (interpreter : Interpreter) : Runner → List Deed → Runner → Prop
  | move {s t : Runner} {deeds : List Deed} (move : Move interpreter s deeds t) :
    Hazard interpreter s deeds t
  | breakdown (s : Runner) : Hazard interpreter s [] s.breakDown

/-- What can become of a runner whose worker may break down, with all that happens on the way and
all commands that go into the queue. -/
inductive Venture (interpreter : Interpreter) (s : Runner) :
    List Deed → List Command → Runner → Prop
  | rest : Venture interpreter s [] [] s
  | step {h deeds : List Deed} {log : List Command} {t u : Runner}
    (venture : Venture interpreter s h log t) (hazard : Hazard interpreter t deeds u) :
    Venture interpreter s (h ++ deeds) (log ++ t.added u) u

variable {interpreter : Interpreter} {capacity : Nat} {s t u : Runner} {h h' deeds : List Deed}
  {log log' : List Command}

/-! ### The queue of the worker -/

theorem added_eq {commands : List Command}
    (hcommands : t.shared.commands = s.shared.commands ++ commands) : s.added t = commands := by
  rw [added, hcommands, List.drop_left]

theorem added_eq_nil (hcommands : t.shared.commands = s.shared.commands) : s.added t = [] :=
  added_eq (by rw [hcommands, List.append_nil])

theorem added_turn {shared : Shared} {worker : Worker}
    (turn : Worker.Turn interpreter s.shared s.worker shared worker) :
    s.added { s with shared, worker } = [] :=
  List.drop_eq_nil_of_le turn.commands_suffix.length_le

namespace Act

theorem commands (act : Act s t) : t.shared.commands = s.shared.commands ++ s.added t := by
  cases act with
  | order | shutDown => simp [added, Shared.command]
  | _ => simp [added, Shared.resetChannel]

theorem hasStopped (act : Act s t) : t.worker.hasStopped = s.worker.hasStopped := by
  cases act with
  | wakeToStart | wakeToRelease | wakeToShutDown | wakeToRead => exact Worker.hasStopped_woken _
  | _ => rfl

/-- The worker comes to have what it has been given. -/
theorem tasks (act : Act s t) : t.tasks = s.tasks ++ (s.added t).filterMap Command.run? := by
  have hrun : t.worker.run? = s.worker.run? := by
    cases act with
    | wakeToStart | wakeToRelease | wakeToShutDown | wakeToRead => exact Worker.run?_woken _
    | _ => rfl
  rw [Runner.tasks, Runner.tasks, act.commands, hrun, List.filterMap_append, List.append_assoc]

end Act

/-! ### What holds as long as the worker has not stopped -/

theorem Upheld.move (upheld : Upheld capacity s) (move : Move interpreter s deeds t) :
    Upheld capacity t := by
  cases move with
  | call => exact ⟨upheld.shared, upheld.worker⟩
  | foreground h =>
      have act := act_of_foregroundStep? upheld.shared.channel h
      refine ⟨act.shared_sound upheld.shared, fun going => act.worker_sound ?_⟩
      exact upheld.worker (act.hasStopped ▸ going)
  | worker h => exact ((upheld.intact (going_of_workerStep? h)).move (.worker h)).upheld
  | spurious =>
      refine ⟨upheld.shared, fun going => (upheld.worker ?_).woken⟩
      exact (s.worker.hasStopped_woken).symm.trans going
  | post message =>
      obtain ⟨channel, hcapacity, listening, commanding⟩ := upheld.shared
      exact ⟨⟨channel, hcapacity, listening, commanding⟩, upheld.worker⟩

theorem Upheld.hazard (upheld : Upheld capacity s) (hazard : Hazard interpreter s deeds t) :
    Upheld capacity t := by
  cases hazard with
  | move move => exact upheld.move move
  | breakdown => exact ⟨upheld.shared, fun going => nomatch going⟩

/-- What the foreground passes on does not depend on whether the worker is still there. -/
theorem Filters.hazard (filters : Filters h s) (upheld : Upheld capacity s)
    (hazard : Hazard interpreter s deeds t) : Filters (h ++ deeds) t := by
  cases hazard with
  | move move => exact filters.move upheld move
  | breakdown =>
      rw [List.append_nil]
      exact ⟨filters.numbered, filters.active, filters.ordered, filters.pending, filters.ended,
        filters.told, filters.typed⟩

/-! ### Schedules -/

theorem Venture.trans (first : Venture interpreter s h log t)
    (second : Venture interpreter t h' log' u) :
    Venture interpreter s (h ++ h') (log ++ log') u := by
  induction second with
  | rest => simpa using first
  | step _ hazard ih =>
      rw [← List.append_assoc, ← List.append_assoc]
      exact ih.step hazard

/-- The step that is chosen, if there is one; without a choice the worker breaks down. -/
def hazard? (interpreter : Interpreter) (s : Runner) : Option Choice → Option (List Deed × Runner)
  | some choice => s.choose? interpreter choice
  | none => some ([], s.breakDown)

/-- Follows a schedule with breakdowns to its end, if all the steps are there. -/
def venture? (interpreter : Interpreter) :
    List (Option Choice) → Runner → Option (List Deed × List Command × Runner)
  | [], s => some ([], [], s)
  | choice? :: choices, s => do
    let (deeds, t) ← s.hazard? interpreter choice?
    let (h, log, u) ← venture? interpreter choices t
    return (deeds ++ h, s.added t ++ log, u)

theorem hazard_of_hazard? {choice? : Option Choice}
    (hchoose : s.hazard? interpreter choice? = some (deeds, t)) : Hazard interpreter s deeds t := by
  cases choice? with
  | none =>
      cases hchoose
      exact .breakdown s
  | some choice => exact .move (move_of_choose? hchoose)

theorem venture_of_venture? {choices : List (Option Choice)}
    (hventure : s.venture? interpreter choices = some (h, log, t)) :
    Venture interpreter s h log t := by
  induction choices generalizing s h log with
  | nil =>
      cases hventure
      exact .rest
  | cons choice? choices ih =>
      simp only [venture?, Option.bind_eq_bind, Option.bind_eq_some_iff, Prod.exists] at hventure
      obtain ⟨deeds, u, hchoose, h', log', t', hrest, hpair⟩ := hventure
      cases hpair
      exact (Venture.rest.step (hazard_of_hazard? hchoose)).trans (ih hrest)

/-- Without breakdowns a schedule is followed along a course. -/
theorem course_of_venture? {choices : List Choice}
    (hventure : s.venture? interpreter (choices.map some) = some (h, log, t)) :
    Course interpreter s h t := by
  induction choices generalizing s h log with
  | nil =>
      cases hventure
      exact .rest
  | cons choice choices ih =>
      simp only [List.map_cons, venture?, hazard?, Option.bind_eq_bind, Option.bind_eq_some_iff,
        Prod.exists] at hventure
      obtain ⟨deeds, u, hchoose, h', log', t', hrest, hpair⟩ := hventure
      cases hpair
      exact (ih hrest).cons (move_of_choose? hchoose)

/-- What is seen of a new runner when a schedule is followed is seen of one of its ventures. -/
theorem venture_of_spawn {α : Type} {choices : List (Option Choice)}
    {view : List Deed × List Command × Runner → α} {seen : α}
    (hview : ((spawn capacity).toOption.bind (venture? interpreter choices)).map view =
      some seen) :
    ∃ s₀ h log t, spawn capacity = .ok s₀ ∧
      s₀.venture? interpreter choices = some (h, log, t) ∧ view (h, log, t) = seen := by
  cases hspawn : spawn capacity with
  | error error =>
      rw [hspawn] at hview
      cases hview
  | ok s₀ =>
      rw [hspawn] at hview
      obtain ⟨⟨h, log, t⟩, hventure, hseen⟩ := Option.map_eq_some_iff.mp hview
      exact ⟨s₀, h, log, t, rfl, hventure, hseen⟩

end Runner

end Pseudocode
