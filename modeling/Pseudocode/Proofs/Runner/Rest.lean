import Pseudocode.Proofs.Runner.Prospect
import Pseudocode.Proofs.Runner.Release

/-!
A worker that is left alone comes to rest: it takes all its commands and goes on with its programs
until it waits for an answer, or for a command, or is at a loop that was cut off. Requests, programs
and queues are all finite.
-/

namespace Pseudocode

namespace Asking

/-- How many steps a request can have left if nobody else moves. -/
def effort (state : ChannelState) : Asking → Nat
  | claiming | recovering | wakingAfterRecovery | reclaiming => 13
  | guarding => 12
  | sending => 11
  | withdrawing => 2
  | wakingAfterWithdrawal => 1
  | watching => if state = .waiting then 10 else 5
  | dozing => if state = .waiting then 9 else 6
  | stage => stage.stepsLeft

theorem Turn.effort_lt {request : Request} {s s' : Shared} {stage stage' : Asking}
    (turn : Turn request s stage s' stage') :
    stage'.effort s'.channel.state < stage.effort s.channel.state := by
  cases turn with
  | send =>
      simp only [effort]
      split <;> decide
  | watch waiting | sleep waiting => simp [effort, stepsLeft, waiting]
  | notice past | startle past => simp [effort, stepsLeft, past]
  | claim | pass | fail | withdraw | giveUp | find | findNothing | read | erase | consume
  | consumeInVain => simp [effort, stepsLeft]

end Asking

/-- Whether a call is under way that can only receive, or none is. -/
def Activity.isQuiet : Activity → Bool
  | .idle | .returned _ | .taking _ | .probing _ => true
  | _ => false

theorem Foreground.isQuiet_of_isFree {c : Foreground} (free : c.isFree = true) :
    c.activity.isQuiet = true :=
  eq_of_isFree Activity.isQuiet free fun _ => rfl

/-- Whether the deed is none of the foreground. -/
def Deed.IsAside : Deed → Prop
  | called .. | replied _ => False
  | _ => True

namespace Runner

/-- Whether the worker gets by steps of its own to where it has none. -/
def ComesToRest (interpreter : Interpreter) (s : Runner) : Prop :=
  ∃ h t, Course interpreter s h t ∧ (∀ deed ∈ h, deed.IsAside ∧ deed.Unaided) ∧
    t.foreground = s.foreground ∧ t.workerStep? interpreter = none

variable {interpreter : Interpreter} {capacity : Nat} {s : Runner}

theorem isAside_worker_deeds (w : Worker) : ∀ deed ∈ w.deeds, deed.IsAside ∧ deed.Unaided :=
  w.forall_mem_deeds (fun _ => ⟨trivial, trivial⟩) fun _ _ => ⟨trivial, trivial⟩

/-- A worker comes to rest if it does so after each step that it can make. -/
theorem Sound.comesToRest (sound : Sound capacity s)
    (hturn : ∀ shared worker, Worker.Turn interpreter s.shared s.worker shared worker →
      ComesToRest interpreter { s with shared, worker }) : ComesToRest interpreter s := by
  cases hstep : s.workerStep? interpreter with
  | none => exact ⟨[], s, .rest, by simp, rfl, hstep⟩
  | some t =>
      obtain ⟨shared, worker, turn, rfl⟩ := sound.turn_of_workerStep? hstep
      obtain ⟨h, u, course, hdeeds, hforeground, hrest⟩ := hturn shared worker turn
      exact ⟨_, u, course.cons (.worker hstep),
        List.forall_mem_append.mpr ⟨isAside_worker_deeds _, hdeeds⟩, hforeground, hrest⟩

theorem comesToRest_of_asking {n : Nat} {request : Request} {next : String → Dialogue Ending}
    (hnext : ∀ text s, Sound capacity s → s.shared.commands.length ≤ n →
      s.worker.phase = .running request.run (next text) → ComesToRest interpreter s)
    {stage : Asking} (sound : Sound capacity s) (few : s.shared.commands.length ≤ n)
    (phase : s.worker.phase = .asking request stage next) : ComesToRest interpreter s := by
  induction heffort : stage.effort s.shared.channel.state using Nat.strongRecOn
    generalizing s stage with
  | ind effort ih =>
      refine sound.comesToRest fun shared worker turn => ?_
      have hsound := sound.turn turn
      obtain ⟨s, w, c⟩ := s
      replace phase : w.phase = .asking request stage next := phase
      cases turn with
      | stage w turn =>
          obtain ⟨rfl, rfl, rfl⟩ := Phase.asking.inj phase.symm
          refine ih _ (heffort ▸ turn.effort_lt) hsound ?_ rfl rfl
          show shared.commands.length ≤ n
          rwa [turn.commands]
      | resume w =>
          obtain ⟨rfl, rfl, rfl⟩ := Phase.asking.inj phase.symm
          exact hnext _ _ hsound few rfl
      | _ => cases phase

section

variable {n : Nat} (shorter : ∀ s, Sound capacity s → s.shared.commands.length < n →
  ComesToRest interpreter s)

include shorter

theorem comesToRest_of_idle (sound : Sound capacity s) (few : s.shared.commands.length ≤ n)
    (phase : s.worker.phase = .idle) : ComesToRest interpreter s := by
  refine sound.comesToRest fun shared worker turn => shorter _ (sound.turn turn) ?_
  refine Nat.lt_of_lt_of_le ?_ few
  obtain ⟨s, w, c⟩ := s
  cases turn with
  | prepare w first | accept w first | retire w first =>
      rw [show s.commands = _ from first]
      exact Nat.lt_succ_self _
  | _ => cases phase

theorem comesToRest_of_telling (sound : Sound capacity s) (few : s.shared.commands.length ≤ n)
    (phase : s.worker.phase = .announcing ∨ (∃ run, s.worker.phase = .refusing run) ∨
      ∃ event, s.worker.phase = .reporting event) : ComesToRest interpreter s := by
  refine sound.comesToRest fun shared worker turn => ?_
  have hsound := sound.turn turn
  obtain ⟨s, w, c⟩ := s
  cases turn with
  | greet | reject | report => exact comesToRest_of_idle shorter hsound few rfl
  | _ => rcases phase with phase | ⟨run, phase⟩ | ⟨event, phase⟩ <;> cases phase

theorem comesToRest_of_running {run : Nat} {program : Dialogue Ending} (sound : Sound capacity s)
    (few : s.shared.commands.length ≤ n) (phase : s.worker.phase = .running run program) :
    ComesToRest interpreter s := by
  induction program generalizing s with
  | done ending =>
      refine sound.comesToRest fun shared worker turn => ?_
      have hsound := sound.turn turn
      obtain ⟨s, w, c⟩ := s
      cases turn with
      | conclude => exact comesToRest_of_telling shorter hsound few (.inr (.inr ⟨_, rfl⟩))
      | leave => exact comesToRest_of_idle shorter hsound few rfl
      | crash => exact ⟨[], _, .rest, by simp, rfl, rfl⟩
      | _ => cases phase
  | check next ih =>
      refine sound.comesToRest fun shared worker turn => ?_
      have hsound := sound.turn turn
      obtain ⟨s, w, c⟩ := s
      cases turn with
      | check w =>
          cases phase
          exact ih _ hsound few rfl
      | _ => cases phase
  | ask prompt next ih =>
      refine sound.comesToRest fun shared worker turn => ?_
      have hsound := sound.turn turn
      obtain ⟨s, w, c⟩ := s
      cases turn with
      | ask w =>
          cases phase
          exact comesToRest_of_asking (fun text _ sound few phase => ih text sound few phase) hsound
            few rfl
      | _ => cases phase
  | tell text next ih =>
      refine sound.comesToRest fun shared worker turn => ?_
      have hsound := sound.turn turn
      obtain ⟨s, w, c⟩ := s
      cases turn with
      | tell w =>
          cases phase
          exact ih () hsound few rfl
      | _ => cases phase

theorem comesToRest_of_starting {run : Nat} {source : String} (sound : Sound capacity s)
    (few : s.shared.commands.length ≤ n) (phase : s.worker.phase = .starting run source) :
    ComesToRest interpreter s := by
  refine sound.comesToRest fun shared worker turn => ?_
  have hsound := sound.turn turn
  obtain ⟨s, w, c⟩ := s
  cases turn with
  | skip => exact comesToRest_of_idle shorter hsound few rfl
  | refuse => exact comesToRest_of_telling shorter hsound few (.inr (.inl ⟨_, rfl⟩))
  | commence => exact comesToRest_of_running shorter hsound few rfl
  | _ => cases phase

end

/-- The worker always comes to rest if it is left alone. -/
theorem Sound.worker_comesToRest (sound : Sound capacity s) : ComesToRest interpreter s := by
  induction hlength : s.shared.commands.length using Nat.strongRecOn generalizing s with
  | ind n ih =>
      have shorter (s : Runner) (sound : Sound capacity s) (h : s.shared.commands.length < n) :
          ComesToRest interpreter s := ih _ h sound rfl
      have few := Nat.le_of_eq hlength
      cases phase : s.worker.phase with
      | idle => exact comesToRest_of_idle shorter sound few phase
      | announcing => exact comesToRest_of_telling shorter sound few (.inl phase)
      | starting => exact comesToRest_of_starting shorter sound few phase
      | refusing run => exact comesToRest_of_telling shorter sound few (.inr (.inl ⟨run, phase⟩))
      | running => exact comesToRest_of_running shorter sound few phase
      | asking request stage next =>
          refine comesToRest_of_asking ?_ sound few phase
          exact fun _ _ sound few phase => comesToRest_of_running shorter sound few phase
      | reporting event =>
          exact comesToRest_of_telling shorter sound few (.inr (.inr ⟨event, phase⟩))
      | stopped crashed =>
          exact ⟨[], s, .rest, by simp, rfl, by simp [workerStep?, Worker.step?, phase]⟩

/-! ### At rest -/

/-- It makes no difference to a worker at rest what is in the inbox. -/
theorem workerStep?_of_inbox {shared : Shared} {w : Worker} {c c' : Foreground}
    (rest : (⟨shared, w, c⟩ : Runner).workerStep? interpreter = none) (inbox : List Message) :
    (⟨{ shared with inbox }, w, c'⟩ : Runner).workerStep? interpreter = none := by
  rw [workerStep?, Option.map_eq_none_iff] at rest ⊢
  obtain ⟨phase, last?, disconnected⟩ := w
  cases phase with
  | idle =>
      cases hcommands : shared.commands with
      | nil => simpa [Worker.step?, hcommands] using rest
      | cons => simp [Worker.step?, hcommands] at rest
  | starting run source =>
      simp only [Worker.step?] at rest
      split at rest
      · cases rest
      · split at rest <;> cases rest
  | running run program =>
      cases program with
      | done ending =>
          cases ending with
          | exhausted => simpa [Worker.step?, Worker.advance, Worker.isCanceled] using rest
          | _ => simp [Worker.step?, Worker.advance] at rest
      | tell text next =>
          simp only [Worker.step?, Worker.advance] at rest
          split at rest <;> cases rest
      | check | ask => simp [Worker.step?, Worker.advance] at rest
  | asking request stage next =>
      cases stage with
      | asleep => rfl
      | _ => simp [Worker.step?] at rest
  | stopped crashed => rfl
  | announcing | refusing | reporting => simp [Worker.step?] at rest

/-- Where a worker is at rest. -/
theorem phase_of_rest (rest : s.workerStep? interpreter = none) :
    (s.worker.phase = .idle ∧ s.shared.commands = []) ∨
      (∃ request next, s.worker.phase = .asking request .asleep next) ∨
      s.worker.phase = .running s.shared.generation (.done .exhausted) ∨
      ∃ crashed, s.worker.phase = .stopped crashed := by
  rw [workerStep?, Option.map_eq_none_iff] at rest
  cases phase : s.worker.phase with
  | idle =>
      cases hcommands : s.shared.commands with
      | nil => exact .inl ⟨rfl, rfl⟩
      | cons => simp [Worker.step?, phase, hcommands] at rest
  | running run program =>
      cases program with
      | done ending =>
          cases ending with
          | exhausted =>
              simp only [Worker.step?, Worker.advance, phase] at rest
              split at rest
              · cases rest
              · rename_i hcanceled
                obtain ⟨_, rfl⟩ : s.worker.disconnected = false ∧ s.shared.generation = run := by
                  simpa [Worker.isCanceled] using hcanceled
                exact .inr (.inr (.inl rfl))
          | _ => simp [Worker.step?, Worker.advance, phase] at rest
      | tell text next =>
          simp only [Worker.step?, phase, Worker.advance] at rest
          split at rest <;> cases rest
      | _ => simp [Worker.step?, Worker.advance, phase] at rest
  | asking request stage next =>
      cases stage with
      | asleep => exact .inr (.inl ⟨request, next, rfl⟩)
      | _ => simp [Worker.step?, phase] at rest
  | starting run source =>
      simp only [Worker.step?, phase] at rest
      split at rest
      · cases rest
      · split at rest <;> cases rest
  | stopped crashed => exact .inr (.inr (.inr ⟨crashed, rfl⟩))
  | _ => simp [Worker.step?, phase] at rest

/-- A request that is awaited is on its way to a foreground that has not received it. -/
theorem Agreed.sent_of_quiet (agreed : s.Agreed) (quiet : s.foreground.activity.isQuiet = true)
    (pending : s.foreground.pending = none) {request : Request} (waits : request ∈ s.awaited) :
    .event (.requested request) ∈ s.shared.inbox := by
  have hanswered : s.foreground.activity.answered? = none := by
    cases hactivity : s.foreground.activity <;> simp_all [Activity.answered?, Activity.isQuiet]
  rw [← agreed.held, Runner.held, hanswered, pending] at waits
  obtain ⟨message, hmessage, hrequest⟩ := List.mem_filterMap.mp (List.mem_filter.mp waits).1
  exact Message.request?_eq_some.mp hrequest ▸ hmessage

/-- When the worker is at rest and no call is about to move it, all that is still to be heard has
been said, unless a request is awaited. -/
theorem Prospect.said_or_awaited {answers : List String} {rest : List Remark}
    (prospect : Prospect interpreter capacity answers s rest) (sound : Sound capacity s)
    (agreed : s.Agreed) (lasting : s.Lasting) (quiet : s.foreground.activity.isQuiet = true)
    (resting : s.workerStep? interpreter = none) :
    rest = s.news ∨ ∃ request, request ∈ s.awaited := by
  obtain ⟨ahead, outlook, hrest⟩ := prospect.ahead
  have horder : s.foreground.activity.order? = none := by
    cases hactivity : s.foreground.activity <;> simp_all [Activity.order?, Activity.isQuiet]
  have hordered : ∀ source, s.foreground.activity.order? ≠ some (s.shared.generation, source) := by
    rw [horder]
    simp
  have hdone (h : ahead = []) : rest = s.news := by rw [hrest, h, List.append_nil]
  rcases phase_of_rest resting with ⟨hidle, hcommands⟩ | ⟨request, next, hasleep⟩ | hcut |
    ⟨crashed, hstopped⟩
  · left
    refine hdone ?_
    cases outlook with
    | silent => rfl
    | ordering order => exact (hordered _ order).elim
    | queued queued =>
        rw [show Scene.commands _ = _ from hcommands] at queued
        cases queued
    | starting phase | running phase | unsent phase | waiting phase | answering phase
    | answered phase | reporting phase => cases hidle.symm.trans phase
  · right
    have waiting : s.shared.channel.state = .waiting := by
      by_contra late
      have hrousing := sound.roused (by simp [Worker.isAsleep, hasleep]) late
      cases hactivity : s.foreground.activity <;>
        simp_all [Activity.isRousing, Activity.isQuiet]
    have hreset : s.foreground.activity.isResetting = false := by
      cases hactivity : s.foreground.activity <;> simp_all [Activity.isResetting, Activity.isQuiet]
    refine ⟨request, mem_awaited.mpr ⟨.asleep, next, hasleep, rfl, waiting, ?_⟩⟩
    by_contra stale
    cases waiting.symm.trans (agreed.idle_of_stale hreset hasleep rfl stale)
  · left
    refine hdone ?_
    have hbusy : s.worker.run? = some s.shared.generation := by simp [Worker.run?, hcut]
    cases outlook with
    | silent => rfl
    | ordering order => exact (hordered _ order).elim
    | queued queued =>
        exact ((sound.not_to_come hbusy).1 (List.mem_filterMap.mpr ⟨_, queued, rfl⟩)).elim
    | running phase =>
        cases hcut.symm.trans phase
        rfl
    | starting phase | unsent phase | waiting phase | answering phase | answered phase
    | reporting phase => cases hcut.symm.trans phase
  · have hleaving : s.foreground.activity.isLeaving = false := by
      cases hactivity : s.foreground.activity <;> simp_all [Activity.isLeaving, Activity.isQuiet]
    rcases lasting with leaving | ⟨hlasting, _⟩
    · cases hleaving.symm.trans leaving
    · have hstays := hlasting.hasStopped
      simp [Worker.hasStopped, hstopped] at hstays

end Runner

end Pseudocode
