import Pseudocode.Proofs.Runner.Venture

/-!
Starts that are refused. A call that starts a run makes it the active one before the worker is given
it, and leaves it the active one if the worker has stopped and nothing can be given to it any more.
So the active run is the one that was started last, until its end is heard, and it need not be one
that the worker was ever given: it is not if the call was refused, and it is in every other case.
-/

namespace Pseudocode

theorem Event.exists_run_of_isTerminal {event : Event} (hend : event.isTerminal = true) :
    ∃ run, event.run? = some run := by
  cases event with
  | finished run | failed run => exact ⟨run, rfl⟩
  | ready | requested | produced => cases hend

namespace Deed

/-- What a call returns. -/
def reply? : Deed → Option Reply
  | replied reply => some reply
  | _ => none

/-- What was returned first. -/
def firstReply? (h : List Deed) : Option Reply := h.findSome? reply?

/-- Whether the call that started a run last was refused. -/
def Refused (h : List Deed) : Prop :=
  ∃ before pending source after, h = before ++ .called pending (.start source) :: after ∧
    starts after = 0 ∧ firstReply? after = some (.failed .workerGone)

variable {h deeds : List Deed}

theorem firstReply?_append_of_none (silent : firstReply? h = none) :
    firstReply? (h ++ deeds) = firstReply? deeds := by
  rw [firstReply?, List.findSome?_append, ← firstReply?, silent, Option.none_or, firstReply?]

theorem firstReply?_append_of_some {reply : Reply} (replied : firstReply? h = some reply) :
    firstReply? (h ++ deeds) = some reply := by
  rw [firstReply?, List.findSome?_append, ← firstReply?, replied, Option.some_or]

theorem firstReply?_eq_none (hnone : ∀ deed ∈ h, deed.reply? = none) : firstReply? h = none :=
  List.findSome?_eq_none_iff.mpr hnone

/-- The worker neither calls nor returns. -/
theorem plain_worker_deeds (w : Worker) :
    ∀ deed ∈ w.deeds, deed.isStart = false ∧ deed.reply? = none :=
  w.forall_mem_deeds (fun _ => ⟨rfl, rfl⟩) fun _ _ => ⟨rfl, rfl⟩

theorem starts_start (before after : List Deed) (pending : Option Request) (source : String) :
    starts (before ++ .called pending (.start source) :: after) =
      starts before + 1 + starts after := by
  rw [starts_append, starts, starts, starts, List.countP_cons_of_pos rfl, Nat.add_assoc,
    Nat.add_comm 1]

theorem exists_of_isStart {deed : Deed} (hstart : deed.isStart = true) :
    ∃ pending source, deed = .called pending (.start source) := by
  unfold isStart at hstart
  split at hstart
  · exact ⟨_, _, rfl⟩
  · cases hstart

/-- If runs were started, one was started last. -/
theorem exists_last_start (hstarts : 0 < starts h) : ∃ before pending source after,
    h = before ++ .called pending (.start source) :: after ∧ starts after = 0 := by
  induction h with
  | nil => cases hstarts
  | cons deed h ih =>
      by_cases hlater : 0 < starts h
      · obtain ⟨before, pending, source, after, rfl, hlast⟩ := ih hlater
        exact ⟨deed :: before, pending, source, after, rfl, hlast⟩
      · have hlast : starts h = 0 := Nat.eq_zero_of_not_pos hlater
        cases hfirst : deed.isStart with
        | false =>
            rw [starts, List.countP_cons_of_neg (by simp [hfirst]), ← starts] at hstarts
            exact (hlater hstarts).elim
        | true =>
            obtain ⟨pending, source, rfl⟩ := exists_of_isStart hfirst
            exact ⟨[], pending, source, h, rfl, hlast⟩

theorem Over.append (hover : Over h) (unstarted : starts deeds = 0) : Over (h ++ deeds) := by
  obtain ⟨before, event, after, rfl, hend, hnone⟩ := hover
  refine ⟨before, event, after ++ deeds, by simp, hend, ?_⟩
  rw [starts_append, hnone, unstarted]

end Deed

/-- The source of the run that a call is about to start. -/
def Activity.source? : Activity → Option String
  | superseding (some source) | resetting (.start _ source) | waking (.start _ source)
  | ordering (.start _ source) => some source
  | _ => none

theorem Activity.isSuperseding_of_source? {activity : Activity} (idle : activity.source? = none) :
    activity.isSuperseding = false := by
  unfold isSuperseding
  split
  · cases idle
  · rfl

theorem Foreground.source?_of_isFree {c : Foreground} (free : c.isFree = true) :
    c.activity.source? = none :=
  eq_of_isFree Activity.source? free fun _ => rfl

theorem Foreground.source?_begin (c : Foreground) {call : Call}
    (other : ∀ source, call ≠ .start source) : (c.begin call).activity.source? = none := by
  cases call with
  | start source => exact (other source rfl).elim
  | submit text => cases hpending : c.pending <;> simp [begin, hpending, Activity.source?]
  | receive | poll | reset | close => rfl

/-- A call that begins has received nothing yet. -/
theorem Foreground.not_received_begin (c : Foreground) (call : Call) (message : Message) :
    .replied (.received message) ∉ (c.begin call).deeds := by
  cases call with
  | submit text => cases hpending : c.pending <;> simp [begin, hpending, deeds, reply?]
  | _ => simp [begin, deeds, reply?]

namespace Runner

open Deed

variable {interpreter : Interpreter} {capacity : Nat} {s s₀ t : Runner} {h deeds after : List Deed}
  {log commands : List Command} {run : Nat} {source : String}

/-! ### What becomes of a start -/

/-- What has become of a call that started a run, as the deeds after it tell: it is under way, or
the worker was given the run, or it has stopped before that and will never be given it. -/
inductive Fate (log : List Command) (s : Runner) (run : Nat) (source : String)
    (after : List Deed) : Prop
  | underway (silent : firstReply? after = none) (last : starts after = 0)
    (going : s.foreground.activity.source? = some source)
    (ungiven : run ∉ log.filterMap Command.run?)
  | given (replied : firstReply? after = some (.started run)) (ordered : .run run source ∈ log)
  | refused (replied : firstReply? after = some (.failed .workerGone))
    (gone : s.worker.hasStopped = true) (ungiven : run ∉ log.filterMap Command.run?)

/-- A call that has returned stays as it is: a worker that has stopped is given nothing more. -/
theorem Fate.next (fate : Fate log s run source after)
    (gone : s.worker.hasStopped = true →
      t.worker.hasStopped = true ∧ commands.filterMap Command.run? = [])
    (underway : firstReply? after = none → starts after = 0 →
      s.foreground.activity.source? = some source → run ∉ log.filterMap Command.run? →
        Fate (log ++ commands) t run source (after ++ deeds)) :
    Fate (log ++ commands) t run source (after ++ deeds) := by
  cases fate with
  | underway silent last going ungiven => exact underway silent last going ungiven
  | given replied ordered =>
      exact .given (firstReply?_append_of_some replied) (List.mem_append_left _ ordered)
  | refused replied hgone ungiven =>
      obtain ⟨hstill, hnone⟩ := gone hgone
      refine .refused (firstReply?_append_of_some replied) hstill ?_
      rwa [List.filterMap_append, hnone, List.append_nil]

/-- What a step does to the start that is under way, if one is. -/
inductive Progress (s : Runner) (deeds : List Deed) (commands : List Command) (t : Runner) : Prop
  | begin {pending : Option Request} {source : String}
    (idle : s.foreground.activity.source? = none)
    (called : deeds = [.called pending (.start source)])
    (going : t.foreground.activity.source? = some source) (ungiven : commands = [])
  | aside (unstarted : starts deeds = 0)
    (same : t.foreground.activity.source? = s.foreground.activity.source?)
    (silent : s.foreground.activity.source? = none ∨ firstReply? deeds = none)
    (ungiven : commands.filterMap Command.run? = [])
  | give {run : Nat} {source : String}
    (activity : s.foreground.activity = .ordering (.start run source))
    (there : s.worker.hasStopped = false) (returned : deeds = [.replied (.started run)])
    (ended : t.foreground.activity.source? = none) (given : commands = [.run run source])
  | refuse {run : Nat} {source : String}
    (activity : s.foreground.activity = .ordering (.start run source))
    (gone : s.worker.hasStopped = true) (returned : deeds = [.replied (.failed .workerGone)])
    (ended : t.foreground.activity.source? = none) (ungiven : commands = [])

theorem starts_foreground (c : Foreground) : starts c.deeds = 0 :=
  List.countP_eq_zero.mpr (c.forall_mem_deeds fun _ => Bool.false_ne_true)

theorem Act.progress (act : Act s t) : Progress s t.foreground.deeds (s.added t) t := by
  have ungiven (hcommands : t.shared.commands = s.shared.commands) :
      (s.added t).filterMap Command.run? = [] := by
    rw [added_eq_nil hcommands, List.filterMap_nil]
  cases act with
  | order s w c there => exact .give rfl there rfl rfl (added_eq rfl)
  | orderInVain s w c gone => exact .refuse rfl gone rfl rfl (added_eq_nil rfl)
  | shutDown s w c =>
      exact .aside (starts_foreground _) rfl (.inl rfl)
        (by simp [added, Shared.command, Command.run?])
  | reset s w c =>
      rename_i errand
      cases errand <;> exact .aside (starts_foreground _) rfl (.inr rfl) (ungiven rfl)
  | supersede | wakeToStart => exact .aside (starts_foreground _) rfl (.inr rfl) (ungiven rfl)
  | _ => exact .aside (starts_foreground _) rfl (.inl rfl) (ungiven rfl)

/-- A step that leaves the foreground alone, and the queue but for what is taken from it. -/
theorem progress_of_foreground (foreground : t.foreground = s.foreground)
    (plain : ∀ deed ∈ deeds, deed.isStart = false ∧ deed.reply? = none)
    (ungiven : s.added t = []) : Progress s deeds (s.added t) t :=
  .aside (starts_eq_zero fun deed hdeed => (plain deed hdeed).1) (by rw [foreground])
    (.inr (firstReply?_eq_none fun deed hdeed => (plain deed hdeed).2))
    (by rw [ungiven, List.filterMap_nil])

theorem progress_begin (free : s.foreground.isFree = true) (call : Call) :
    Progress s (.called s.foreground.pending call :: (s.begin call).foreground.deeds)
      (s.added (s.begin call)) (s.begin call) := by
  have hidle := Foreground.source?_of_isFree free
  by_cases hstart : ∃ source, call = .start source
  · obtain ⟨source, rfl⟩ := hstart
    exact .begin hidle rfl rfl (added_eq_nil rfl)
  · have hother : ∀ source, call ≠ .start source := fun source h => hstart ⟨source, h⟩
    refine .aside ?_ ((s.foreground.source?_begin hother).trans hidle.symm) (.inl hidle) ?_
    · rw [← List.singleton_append, starts_append, starts_foreground]
      cases call with
      | start source => exact (hother source rfl).elim
      | _ => rfl
    · exact congrArg (List.filterMap Command.run?) (added_eq_nil rfl)

theorem Upheld.progress (upheld : Upheld capacity s) (hazard : Hazard interpreter s deeds t) :
    Progress s deeds (s.added t) t := by
  cases hazard with
  | breakdown => exact progress_of_foreground rfl (by simp) (added_eq_nil rfl)
  | move move =>
      cases move with
      | call call free => exact progress_begin free call
      | foreground hstep =>
          exact (act_of_foregroundStep? upheld.shared.channel hstep).progress
      | worker hstep =>
          obtain ⟨shared, worker, turn, rfl⟩ := upheld.turn_of_workerStep? hstep
          exact progress_of_foreground rfl (plain_worker_deeds _) (added_turn turn)
      | spurious | post =>
          exact progress_of_foreground rfl (by simp [isStart, reply?]) (added_eq_nil rfl)

theorem Upheld.gone (upheld : Upheld capacity s) (hazard : Hazard interpreter s deeds t)
    (gone : s.worker.hasStopped = true) : t.worker.hasStopped = true := by
  cases hazard with
  | breakdown => rfl
  | move move =>
      cases move with
      | call | post => exact gone
      | foreground hstep =>
          exact (act_of_foregroundStep? upheld.shared.channel hstep).hasStopped.trans gone
      | worker hstep => cases (going_of_workerStep? hstep).symm.trans gone
      | spurious => exact s.worker.hasStopped_woken.trans gone

/-! ### Starts and the commands that come of them -/

/-- How the starts of a history and the commands that the worker was given belong together. -/
structure Accounted (h : List Deed) (log : List Command) (s : Runner) : Prop where
  fates : ∀ before pending source after, h = before ++ .called pending (.start source) :: after →
    Fate log s (starts before + 1) source after
  /-- A start that is under way is the last one. -/
  begun : ∀ source, s.foreground.activity.source? = some source → ∃ before pending after,
    h = before ++ .called pending (.start source) :: after ∧ starts after = 0
  ordered : ∀ run source, .run run source ∈ log → ∃ before pending after,
    h = before ++ .called pending (.start source) :: after ∧ run = starts before + 1

theorem accounted_of_spawn (hspawn : spawn capacity = .ok s) : Accounted [] [] s := by
  obtain rfl := eq_of_spawn hspawn
  refine ⟨?_, by rintro _ ⟨⟩, by simp⟩
  intro before pending source after heq
  simp at heq

/-- The worker was given no run but those that were started. -/
theorem Accounted.not_given (accounted : Accounted h log s) (later : starts h < run) :
    run ∉ log.filterMap Command.run? := by
  intro hrun
  obtain ⟨command, hmem, hcommand⟩ := List.mem_filterMap.mp hrun
  cases command with
  | run number source =>
      cases hcommand
      obtain ⟨before, pending, after, rfl, rfl⟩ := accounted.ordered _ _ hmem
      rw [starts_start] at later
      omega
  | init | shutdown => cases hcommand

/-- A step that begins no start. -/
theorem Accounted.next (accounted : Accounted h log s) (unstarted : starts deeds = 0)
    (fates : ∀ run source after, run + starts after = starts h → Fate log s run source after →
      Fate (log ++ commands) t run source (after ++ deeds))
    (going : ∀ source, t.foreground.activity.source? = some source →
      s.foreground.activity.source? = some source)
    (given : ∀ run source, .run run source ∈ commands →
      run = starts h ∧ s.foreground.activity.source? = some source) :
    Accounted (h ++ deeds) (log ++ commands) t := by
  have hextend : ∀ {before pending source after},
      h = before ++ .called pending (.start source) :: after →
        h ++ deeds = before ++ .called pending (.start source) :: (after ++ deeds) := by
    rintro before pending source after rfl
    simp
  refine ⟨fun before pending source after heq => ?_, fun source hsource => ?_,
    fun run source hmem => ?_⟩
  · rcases cut_append heq with ⟨front, -, rfl⟩ | ⟨back, hh, rfl⟩
    · rw [starts_start] at unstarted
      omega
    · refine fates _ _ _ ?_ (accounted.fates before pending source back hh)
      rw [hh, starts_start]
  · obtain ⟨before, pending, after, hh, hlast⟩ := accounted.begun source (going source hsource)
    refine ⟨before, pending, after ++ deeds, hextend hh, ?_⟩
    rw [starts_append, hlast, unstarted]
  · rcases List.mem_append.mp hmem with hmem | hmem
    · obtain ⟨before, pending, after, hh, hrun⟩ := accounted.ordered run source hmem
      exact ⟨before, pending, after ++ deeds, hextend hh, hrun⟩
    · obtain ⟨rfl, hsource⟩ := given run source hmem
      obtain ⟨before, pending, after, hh, hlast⟩ := accounted.begun source hsource
      refine ⟨before, pending, after ++ deeds, hextend hh, ?_⟩
      rw [hh, starts_start, hlast]

/-- A start begins, while none is under way. -/
theorem Accounted.begin (accounted : Accounted h log s) {pending : Option Request}
    (idle : s.foreground.activity.source? = none)
    (going : t.foreground.activity.source? = some source)
    (gone : s.worker.hasStopped = true → t.worker.hasStopped = true) :
    Accounted (h ++ [.called pending (.start source)]) log t := by
  refine ⟨fun before pending' source' after heq => ?_, fun source' hsource => ?_,
    fun run source' hmem => ?_⟩
  · rcases cut_append heq with ⟨front, rfl, hfront⟩ | ⟨back, hh, rfl⟩
    · obtain ⟨rfl, hcalled⟩ := (List.singleton_eq_append_iff.mp hfront).resolve_right (by simp)
      cases hcalled
      rw [List.append_nil]
      exact .underway rfl rfl going (accounted.not_given (Nat.lt_succ_self _))
    · have hfate := accounted.fates before pending' source' back hh
      rw [← List.append_nil log]
      refine hfate.next (fun hgone => ⟨gone hgone, rfl⟩) fun _ _ hgoing _ => ?_
      cases idle.symm.trans hgoing
  · cases going.symm.trans hsource
    exact ⟨h, pending, [], rfl, rfl⟩
  · obtain ⟨before, pending', after, rfl, hrun⟩ := accounted.ordered run source' hmem
    exact ⟨before, pending', after ++ [.called pending (.start source)], by simp, hrun⟩

/-- Any step: the fates of the starts are decided one at a time, when their calls return. -/
theorem Accounted.step (accounted : Accounted h log s) (filters : Filters h s)
    (progress : Progress s deeds commands t)
    (gone : s.worker.hasStopped = true → t.worker.hasStopped = true) :
    Accounted (h ++ deeds) (log ++ commands) t := by
  cases progress with
  | begin idle called going ungiven =>
      subst called ungiven
      rw [List.append_nil]
      exact accounted.begin idle going gone
  | aside unstarted same silent ungiven =>
      refine accounted.next unstarted (fun run source after _ fate => ?_)
        (fun source hsource => same ▸ hsource) (fun run source hmem => ?_)
      · refine fate.next (fun hgone => ⟨gone hgone, ungiven⟩)
          fun hsilent hlast hgoing hungiven => ?_
        have hdeeds := silent.resolve_left (by simp [hgoing])
        refine .underway ?_ ?_ (same.trans hgoing) ?_
        · rw [firstReply?_append_of_none hsilent, hdeeds]
        · rw [starts_append, hlast, unstarted]
        · rwa [List.filterMap_append, ungiven, List.append_nil]
      · have hrun : run ∈ commands.filterMap Command.run? := List.mem_filterMap.mpr ⟨_, hmem, rfl⟩
        rw [ungiven] at hrun
        cases hrun
  | give activity there returned ended given =>
      rename_i number order
      subst returned given
      have hnumber : number = starts h := filters.ordered number (by rw [activity]; rfl)
      have hsource : s.foreground.activity.source? = some order := by rw [activity]; rfl
      refine accounted.next rfl (fun run source after hrun fate => ?_)
        (fun source hgoing => by rw [ended] at hgoing; cases hgoing) (fun run source hmem => ?_)
      -- The start under way is the last one, so what is told and given is the number it has here.
      · refine fate.next (fun hgone => ?_) fun hsilent hlast hgoing _ => ?_
        · cases there.symm.trans hgone
        · rw [hlast, Nat.add_zero] at hrun
          cases hgoing.symm.trans hsource
          obtain rfl : run = number := hrun.trans hnumber.symm
          refine .given ?_ (List.mem_append_right _ (List.mem_singleton_self _))
          exact firstReply?_append_of_none hsilent
      · cases List.mem_singleton.mp hmem
        exact ⟨hnumber, hsource⟩
  | refuse activity hgone returned ended ungiven =>
      subst returned ungiven
      refine accounted.next rfl (fun run source after _ fate => ?_)
        (fun source hgoing => by rw [ended] at hgoing; cases hgoing) (by simp)
      refine fate.next (fun hgone => ⟨gone hgone, rfl⟩) fun hsilent _ _ hungiven => ?_
      refine .refused ?_ (gone hgone) (by rwa [List.append_nil])
      exact firstReply?_append_of_none hsilent

/-! ### The active run -/

/-- Whether the run that was started last is the active one, as long as its end was not heard. -/
structure Lasts (h : List Deed) (s : Runner) : Prop where
  unstarted : starts h = 0 → s.foreground.active = none
  active : s.foreground.activity.isSuperseding = false → 0 < starts h → ¬Over h →
    s.foreground.active = some (starts h)

theorem lasts_of_spawn (hspawn : spawn capacity = .ok s) : Lasts [] s := by
  obtain rfl := eq_of_spawn hspawn
  exact ⟨fun _ => rfl, fun _ hstarts => nomatch hstarts⟩

/-- A step that begins no start and leaves the active run as it is. -/
theorem Lasts.next (lasts : Lasts h s) (unstarted : starts deeds = 0)
    (active : t.foreground.active = s.foreground.active)
    (same : t.foreground.activity.isSuperseding = s.foreground.activity.isSuperseding) :
    Lasts (h ++ deeds) t := by
  have hstarts : starts (h ++ deeds) = starts h := by
    rw [starts_append, unstarted, Nat.add_zero]
  refine ⟨fun hnone => ?_, fun superseded hsome going => ?_⟩
  · rw [active]
    exact lasts.unstarted (hstarts.symm.trans hnone)
  · rw [hstarts] at hsome ⊢
    rw [active]
    exact lasts.active (same.symm.trans superseded) hsome fun hover =>
      going (hover.append unstarted)

/-- Superseding makes the run that was started last active; only hearing of its end changes it. -/
theorem Lasts.act (lasts : Lasts h s) (act : Act s t) (filters : Filters h s) :
    Lasts (h ++ t.foreground.deeds) t := by
  have hnone := starts_foreground t.foreground
  cases act with
  | supersede s w c =>
      have hnumber : s.generation + 1 = starts h := filters.numbered.symm
      show Lasts (h ++ []) _
      rw [List.append_nil]
      refine ⟨fun hstarts => ?_, fun _ _ _ => congrArg some hnumber⟩
      cases hnumber.trans hstarts
  | hear s w c first admitted =>
      rename_i patient event inbox
      cases hend : event.isTerminal with
      | false => exact lasts.next hnone (c.active_observe_of_not_terminal hend) rfl
      | true =>
          refine ⟨fun _ => ?_, fun _ _ going => (going ⟨h, event, [], rfl, hend, rfl⟩).elim⟩
          cases event with
          | finished | failed => rfl
          | ready | requested | produced => cases hend
  | _ => exact lasts.next hnone rfl rfl

theorem Lasts.hazard (lasts : Lasts h s) (upheld : Upheld capacity s) (filters : Filters h s)
    (hazard : Hazard interpreter s deeds t) : Lasts (h ++ deeds) t := by
  cases hazard with
  | breakdown => exact lasts.next rfl rfl rfl
  | move move =>
      cases move with
      | call call free =>
          cases call with
          | start source =>
              refine ⟨fun hnone => ?_, by rintro ⟨⟩⟩
              rw [starts_start] at hnone
              omega
          | _ =>
              refine lasts.next (starts_foreground _) (s.foreground.active_begin _) ?_
              rw [isSuperseding_of_isFree free]
              exact Activity.isSuperseding_of_source? (s.foreground.source?_begin (by simp))
      | foreground hstep =>
          exact lasts.act (act_of_foregroundStep? upheld.shared.channel hstep) filters
      | worker hstep =>
          obtain ⟨shared, worker, turn, rfl⟩ := upheld.turn_of_workerStep? hstep
          exact lasts.next (starts_eq_zero fun _ hdeed => (plain_worker_deeds _ _ hdeed).1) rfl rfl
      | spurious | post => exact lasts.next rfl rfl rfl

/-! ### Events of a run that was never given -/

/-- Whether only of runs that the worker was given there is anything to do, to say or to hear. -/
structure Genuine (h : List Deed) (log : List Command) (s : Runner) : Prop where
  tasks : ∀ run ∈ s.tasks, run ∈ log.filterMap Command.run?
  sent : ∀ run ∈ s.shared.inbox.filterMap Message.run?, run ∈ log.filterMap Command.run?
  heard : ∀ event run, .replied (.received (.event event)) ∈ h → event.run? = some run →
    run ∈ log.filterMap Command.run?

theorem genuine_of_spawn (hspawn : spawn capacity = .ok s) : Genuine [] [] s := by
  obtain rfl := eq_of_spawn hspawn
  exact ⟨fun _ hrun => hrun, fun _ hrun => hrun, fun _ _ hmem => nomatch hmem⟩

/-- A run comes from the queue to the worker, from the worker into the inbox, and from there to the
foreground. -/
theorem Genuine.next (genuine : Genuine h log s)
    (tasks : ∀ run ∈ t.tasks, run ∈ s.tasks ∨ run ∈ commands.filterMap Command.run?)
    (sent : ∀ run ∈ t.shared.inbox.filterMap Message.run?,
      run ∈ s.shared.inbox.filterMap Message.run? ∨ run ∈ s.tasks)
    (heard : ∀ event, .replied (.received (.event event)) ∈ deeds →
      .event event ∈ s.shared.inbox) : Genuine (h ++ deeds) (log ++ commands) t := by
  have hlog {run : Nat} (hrun : run ∈ log.filterMap Command.run?) :
      run ∈ (log ++ commands).filterMap Command.run? := by
    rw [List.filterMap_append]
    exact List.mem_append_left _ hrun
  refine ⟨fun run hrun => ?_, fun run hrun => ?_, fun event run hmem hrun => ?_⟩
  · rcases tasks run hrun with hbefore | hgiven
    · exact hlog (genuine.tasks run hbefore)
    · rw [List.filterMap_append]
      exact List.mem_append_right _ hgiven
  · rcases sent run hrun with hbefore | htask
    · exact hlog (genuine.sent run hbefore)
    · exact hlog (genuine.tasks run htask)
  · rcases List.mem_append.mp hmem with hbefore | hnow
    · exact hlog (genuine.heard event run hbefore hrun)
    · exact hlog (genuine.sent run (List.mem_filterMap.mpr ⟨_, heard event hnow, hrun⟩))

theorem Act.inbox_suffix (act : Act s t) : t.shared.inbox <:+ s.shared.inbox := by
  cases act with
  | drop s w c first | hear s w c first | readLine s w c first => exact ⟨[_], first.symm⟩
  | _ => exact List.suffix_refl _

theorem Act.mem_inbox_of_heard (act : Act s t) {event : Event}
    (heard : .replied (.received (.event event)) ∈ t.foreground.deeds) :
    .event event ∈ s.shared.inbox := by
  cases act with
  | hear s w c first =>
      cases List.mem_singleton.mp heard
      exact first ▸ List.mem_cons_self
  | readLine s w c first plain =>
      have hreply := List.mem_singleton.mp heard
      cases hreply
      exact (plain event rfl).elim
  | _ => simp [Foreground.deeds, Foreground.reply?] at heard

theorem Genuine.hazard (genuine : Genuine h log s) (upheld : Upheld capacity s)
    (hazard : Hazard interpreter s deeds t) (honest : ∀ deed ∈ deeds, deed.Honest) :
    Genuine (h ++ deeds) (log ++ s.added t) t := by
  cases hazard with
  | breakdown =>
      refine genuine.next (fun run hrun => .inl ?_) (fun _ hrun => .inl hrun) (by simp)
      exact List.mem_append_right _ hrun
  | move move =>
      cases move with
      | call call free =>
          refine genuine.next (fun _ hrun => .inl hrun) (fun _ hrun => .inl hrun)
            fun event hheard => ?_
          refine (s.foreground.not_received_begin call (.event event) ?_).elim
          exact List.mem_of_ne_of_mem (by simp) hheard
      | foreground hstep =>
          have act := act_of_foregroundStep? upheld.shared.channel hstep
          refine genuine.next (fun run hrun => ?_) (fun run hrun => .inl ?_)
            fun event => act.mem_inbox_of_heard
          · exact List.mem_append.mp (act.tasks ▸ hrun)
          · exact (act.inbox_suffix.sublist.filterMap _).subset hrun
      | worker hstep =>
          have sound := (upheld.intact (going_of_workerStep? hstep)).worker
          obtain ⟨shared, worker, turn, rfl⟩ := upheld.turn_of_workerStep? hstep
          obtain ⟨news, hinbox, hnews⟩ := turn.news sound
          refine genuine.next (fun run hrun => .inl ((turn.runs sound).subset hrun))
            (fun run hrun => ?_) fun event hheard => ?_
          · rw [hinbox, List.filterMap_append] at hrun
            refine (List.mem_append.mp hrun).imp_right fun hrun => ?_
            obtain ⟨message, hmessage, hrun⟩ := List.mem_filterMap.mp hrun
            rw [hnews message hmessage] at hrun
            exact List.mem_append_left _ (Option.mem_toList.mpr hrun)
          · cases (plain_worker_deeds _ _ hheard).2
      | spurious =>
          refine genuine.next (fun run hrun => .inl ?_) (fun _ hrun => .inl hrun) (by simp)
          simpa [Runner.tasks] using hrun
      | post message =>
          refine genuine.next (fun _ hrun => .inl hrun) (fun run hrun => .inl ?_) (by simp)
          have hplain : message.run? = none := by
            cases message with
            | event event => exact (honest (.posted (.event event)) List.mem_cons_self).elim
            | line | closed => rfl
          simpa [Runner.post, Shared.post, hplain] using hrun

/-! ### The whole of a venture -/

theorem Venture.accounted (hspawn : spawn capacity = .ok s₀)
    (venture : Venture interpreter s₀ h log t) :
    Upheld capacity t ∧ Filters h t ∧ Accounted h log t ∧ Lasts h t := by
  induction venture with
  | rest =>
      exact ⟨(sound_of_spawn hspawn).intact.upheld, filters_of_spawn hspawn,
        accounted_of_spawn hspawn, lasts_of_spawn hspawn⟩
  | step _ hazard ih =>
      obtain ⟨upheld, filters, accounted, lasts⟩ := ih
      exact ⟨upheld.hazard hazard, filters.hazard upheld hazard,
        accounted.step filters (upheld.progress hazard) (upheld.gone hazard),
        lasts.hazard upheld filters hazard⟩

theorem Venture.genuine (hspawn : spawn capacity = .ok s₀)
    (venture : Venture interpreter s₀ h log t) (honest : ∀ deed ∈ h, deed.Honest) :
    Genuine h log t := by
  induction venture with
  | rest => exact genuine_of_spawn hspawn
  | step venture hazard ih =>
      obtain ⟨hbefore, hnow⟩ := List.forall_mem_append.mp honest
      exact (ih hbefore).hazard (venture.accounted hspawn).1 hazard hnow

/-- Between calls a start is not under way any more. -/
theorem Fate.given_or_refused (fate : Fate log t run source after)
    (free : t.foreground.isFree = true) :
    (firstReply? after = some (.started run) ∧ .run run source ∈ log) ∨
      (firstReply? after = some (.failed .workerGone) ∧ t.worker.hasStopped = true ∧
        run ∉ log.filterMap Command.run?) := by
  cases fate with
  | underway silent last going => cases going.symm.trans (Foreground.source?_of_isFree free)
  | given replied ordered => exact .inl ⟨replied, ordered⟩
  | refused replied gone ungiven => exact .inr ⟨replied, gone, ungiven⟩

/-- The run of a start that was refused is one that the worker was never given. -/
theorem Accounted.ungiven_of_refused (accounted : Accounted h log s) (refused : Refused h) :
    starts h ∉ log.filterMap Command.run? := by
  obtain ⟨before, pending, source, after, hh, hlast, hreply⟩ := refused
  have hstarts : starts h = starts before + 1 := by rw [hh, starts_start, hlast]
  rw [hstarts]
  cases accounted.fates before pending source after hh with
  | underway silent => cases silent.symm.trans hreply
  | given replied => cases replied.symm.trans hreply
  | refused _ _ ungiven => exact ungiven

theorem Accounted.given_of_granted (accounted : Accounted h log s)
    (free : s.foreground.isFree = true) (hstarts : 0 < starts h) (granted : ¬Refused h) :
    starts h ∈ log.filterMap Command.run? := by
  obtain ⟨before, pending, source, after, hh, hlast⟩ := exists_last_start hstarts
  rcases (accounted.fates before pending source after hh).given_or_refused free with
    ⟨-, ordered⟩ | ⟨hreply, -⟩
  · rw [hh, starts_start, hlast]
    exact List.mem_filterMap.mpr ⟨_, ordered, rfl⟩
  · exact (granted ⟨before, pending, source, after, hh, hlast, hreply⟩).elim

theorem Lasts.active_iff (lasts : Lasts h s) (filters : Filters h s)
    (free : s.foreground.isFree = true) :
    s.foreground.active = some run ↔ run = starts h ∧ 0 < run ∧ ¬Over h := by
  have superseded := isSuperseding_of_isFree free
  constructor
  · intro hrun
    obtain rfl := (filters.active run hrun).resolve_right (by simp [superseded])
    have hgoing : ¬Over h := fun hover => by cases (filters.ended hover).1.symm.trans hrun
    refine ⟨rfl, Nat.pos_of_ne_zero fun hnone => ?_, hgoing⟩
    cases (lasts.unstarted hnone).symm.trans hrun
  · rintro ⟨rfl, hstarts, hgoing⟩
    exact lasts.active superseded hstarts hgoing

/-- An end that was heard is that of a run that the worker was given. -/
theorem Genuine.not_over (genuine : Genuine h log s) (filters : Filters h s)
    (ungiven : starts h ∉ log.filterMap Command.run?) : ¬Over h := by
  rintro ⟨before, event, after, hh, hend, hlast⟩
  obtain ⟨run, hrun⟩ := Event.exists_run_of_isTerminal hend
  have hstarts : starts h = starts before := by
    rw [hh, ← List.singleton_append, starts_append, starts_append, hlast]
    rfl
  obtain ⟨hnumber, -⟩ := filters.told.heard before event after run hh hrun
  rw [hstarts, ← hnumber] at ungiven
  exact ungiven (genuine.heard event run (by simp [hh]) hrun)

/-- The active run and the runs that the worker was given, whatever the foreground is asked to do,
whatever comes into the inbox, and wherever the worker breaks down.

* Between calls the active run is the one that was started last, until its end is heard.
* Each call that started a run is still under way; or it has told the number of the run, and the
  worker was given the run; or it was refused, and then the worker has stopped and is never given
  the run.
* The worker was given no other runs.
* So it was given the active run just if the call that started it was not refused.
* A refused call leaves its own run active, and until the next start this does not change unless
  somebody else tells of events: nothing is ever heard of that run. -/
theorem given_unless_refused (hspawn : spawn capacity = .ok s₀)
    (venture : Venture interpreter s₀ h log t) :
    (t.foreground.isFree = true →
      ∀ run, t.foreground.active = some run ↔ run = starts h ∧ 0 < run ∧ ¬Over h) ∧
    (∀ before pending source after, h = before ++ .called pending (.start source) :: after →
      (firstReply? after = none ∧ t.foreground.isFree = false) ∨
      (firstReply? after = some (.started (starts before + 1)) ∧
        .run (starts before + 1) source ∈ log) ∨
      (firstReply? after = some (.failed .workerGone) ∧ t.worker.hasStopped = true ∧
        starts before + 1 ∉ log.filterMap Command.run?)) ∧
    (∀ run source, .run run source ∈ log → ∃ before pending after,
      h = before ++ .called pending (.start source) :: after ∧ run = starts before + 1) ∧
    (t.foreground.isFree = true → ∀ run, t.foreground.active = some run →
      (run ∈ log.filterMap Command.run? ↔ ¬Refused h)) ∧
    (t.foreground.isFree = true → Refused h → (∀ deed ∈ h, deed.Honest) →
      t.foreground.active = some (starts h)) := by
  obtain ⟨-, filters, accounted, lasts⟩ := venture.accounted hspawn
  refine ⟨fun free run => lasts.active_iff filters free,
    fun before pending source after hh => ?_, accounted.ordered, fun free run hrun => ?_,
    fun free refused honest => ?_⟩
  · cases hfree : t.foreground.isFree with
    | true => exact .inr ((accounted.fates before pending source after hh).given_or_refused hfree)
    | false =>
        cases accounted.fates before pending source after hh with
        | underway silent => exact .inl ⟨silent, rfl⟩
        | given replied ordered => exact .inr (.inl ⟨replied, ordered⟩)
        | refused replied gone ungiven => exact .inr (.inr ⟨replied, gone, ungiven⟩)
  · obtain ⟨rfl, hstarts, -⟩ := (lasts.active_iff filters free).mp hrun
    exact ⟨fun hgiven refused => accounted.ungiven_of_refused refused hgiven,
      accounted.given_of_granted free hstarts⟩
  · have ungiven := accounted.ungiven_of_refused refused
    obtain ⟨before, pending, source, after, hh, -⟩ := refused
    have hstarts : 0 < starts h := by
      rw [hh, starts_start]
      omega
    have going := (venture.genuine hspawn honest).not_over filters ungiven
    exact (lasts.active_iff filters free).mpr ⟨rfl, hstarts, going⟩

/-- The worker breaks down while it waits for an answer. The question is still received and
answered, and then another run is started in vain. -/
def deadEnd : List (Option Choice) :=
  List.flatten
    [[some .worker, some .worker, some (.call (.start "input X"))],
      List.replicate 4 (some .foreground), List.replicate 9 (some .worker), [none],
      [some (.call .receive), some .foreground, some (.call .receive), some .foreground,
        some (.call (.submit "1"))],
      List.replicate 4 (some .foreground), [some (.call (.start "output 1"))],
      List.replicate 4 (some .foreground)]

theorem given_unless_refused_deadEnd :
    ∃ s₀ h log t, spawn 16 = .ok s₀ ∧ Venture (.script 4) s₀ h log t ∧
      t.foreground.isFree = true ∧ Refused h ∧ (∀ deed ∈ h, deed.Honest) ∧
      log = [.run 1 "input X"] ∧ t.foreground.active = some 2 ∧ ¬Over h ∧
      t.worker.hasStopped = true ∧ 2 ∉ log.filterMap Command.run? := by
  have hseen : ((spawn 16).toOption.bind (venture? (.script 4) deadEnd)).map
      (fun p => (p.1, p.2.1, p.2.2.foreground.activity)) =
      some ([.called none (.start "input X"), .replied (.started 1), .asked ⟨1, 1, "X"⟩,
          .called none .receive, .replied (.received (.event .ready)),
          .called none .receive, .replied (.received (.event (.requested ⟨1, 1, "X"⟩))),
          .called (some ⟨1, 1, "X"⟩) (.submit "1"), .replied (.answered true),
          .called none (.start "output 1"), .replied (.failed .workerGone)],
        [.run 1 "input X"], .returned (.failed .workerGone)) := by
    decide +kernel
  obtain ⟨s₀, h, log, t, hspawn, hventure, hview⟩ := venture_of_spawn hseen
  simp only [Prod.mk.injEq] at hview
  obtain ⟨hh, hlog, hactivity⟩ := hview
  have venture := venture_of_venture? hventure
  have hfree : t.foreground.isFree = true := by rw [Foreground.isFree, hactivity]
  have refused : Refused h :=
    ⟨[.called none (.start "input X"), .replied (.started 1), .asked ⟨1, 1, "X"⟩,
        .called none .receive, .replied (.received (.event .ready)),
        .called none .receive, .replied (.received (.event (.requested ⟨1, 1, "X"⟩))),
        .called (some ⟨1, 1, "X"⟩) (.submit "1"), .replied (.answered true)],
      none, "output 1", [.replied (.failed .workerGone)], hh, rfl, rfl⟩
  have honest : ∀ deed ∈ h, deed.Honest := by simp [hh, Deed.Honest]
  obtain ⟨hactive, hfates, -, hgiven, hleft⟩ := given_unless_refused hspawn venture
  have hrun : t.foreground.active = some 2 := by
    rw [hleft hfree refused honest, hh]
    rfl
  have hgone : t.worker.hasStopped = true := by
    obtain ⟨before, pending, source, after, heq, -, hreply⟩ := refused
    rcases hfates before pending source after heq with ⟨hnone, -⟩ | ⟨hstarted, -⟩ | ⟨-, hgone, -⟩
    · cases hnone.symm.trans hreply
    · cases hstarted.symm.trans hreply
    · exact hgone
  exact ⟨s₀, h, log, t, hspawn, venture, hfree, refused, honest, hlog, hrun,
    ((hactive hfree 2).mp hrun).2.2, hgone, fun hmem => (hgiven hfree 2 hrun).mp hmem refused⟩

/-- A program breaks down, which a call that receives finds out, and another run is started. -/
def afterlife : List Choice :=
  List.flatten
    [[.call .receive, .worker, .worker, .foreground, .call (.start "x")],
      List.replicate 4 .foreground, [.call .receive], List.replicate 3 .worker,
      [.foreground, .foreground, .call (.start "y")], List.replicate 4 .foreground]

/-- The active run need not be one that the worker was given: a call that is refused leaves its own
run active, not the one that it has found. -/
theorem refused_run_is_active :
    ∃ s₀ h log t, spawn 3 = .ok s₀ ∧ Course .broken s₀ h t ∧ Venture .broken s₀ h log t ∧
      h = [.called none .receive, .replied (.received (.event .ready)),
        .called none (.start "x"), .replied (.started 1),
        .called none .receive, .replied (.failed .workerGone),
        .called none (.start "y"), .replied (.failed .workerGone)] ∧
      log = [.run 1 "x"] ∧ t.foreground.isFree = true ∧ t.foreground.active = some 2 := by
  have hseen : ((spawn 3).toOption.bind (venture? .broken (afterlife.map some))).map
      (fun p => (p.1, p.2.1, p.2.2.foreground.isFree, p.2.2.foreground.active)) =
      some ([.called none .receive, .replied (.received (.event .ready)),
          .called none (.start "x"), .replied (.started 1),
          .called none .receive, .replied (.failed .workerGone),
          .called none (.start "y"), .replied (.failed .workerGone)],
        [.run 1 "x"], true, some 2) := by
    decide +kernel
  obtain ⟨s₀, h, log, t, hspawn, hventure, hview⟩ := venture_of_spawn hseen
  simp only [Prod.mk.injEq] at hview
  exact ⟨s₀, h, log, t, hspawn, course_of_venture? hventure, venture_of_venture? hventure, hview⟩

end Runner

end Pseudocode
