import Mathlib.Tactic.ByContra
import Pseudocode.Proofs.Runner.Filtering

/-!
The two sides never have the text of the channel at the same time. The foreground has it from where
it finds the worker waiting until it announces the answer, the worker from where it finds an answer
until it gives the channel back; and no step outside these spans changes the text.

A reset may make the channel idle at any time, and the worker may make it wait again. That does no
harm: while the foreground has the text nobody else can announce an answer, so the worker finds
none.
If all events come from the worker, the channel even goes on to wait for as long as the foreground
has the text: the request that is answered is one of the current run, and so is every request that
the worker can make in the meantime, so it withdraws none.
-/

namespace Pseudocode

/-- Whether an answer has found the worker waiting and is not announced yet. -/
def Activity.isWriting : Activity → Bool
  | answering _ _ .writing | answering _ _ .announcing => true
  | _ => false

theorem Activity.answered?_of_isWriting {activity : Activity}
    (writing : activity.isWriting = true) : ∃ request, activity.answered? = some request := by
  unfold isWriting at writing
  split at writing
  · exact ⟨_, rfl⟩
  · exact ⟨_, rfl⟩
  · cases writing

namespace Asking

/-- Whether a request has found an answer and did not give the channel back yet. -/
def isReading : Asking → Bool
  | reading | erasing _ | consuming _ => true
  | _ => false

/-- Whether a request has claimed the channel, and neither found its wait over nor given up. -/
def isHolding : Asking → Bool
  | guarding | sending | watching | dozing | asleep => true
  | _ => false

variable {request : Request} {s s' : Shared} {stage stage' : Asking}

/-- An answer is found only where there is one, and only the foreground brings one. -/
theorem Turn.isReading (turn : Turn request s stage s' stage') (none : s.channel.state ≠ .ready)
    (reading : stage.isReading = false) : stage'.isReading = false ∧ s'.channel.state ≠ .ready := by
  cases turn with
  | claim | withdraw => exact ⟨rfl, by simp [Shared.resetChannel, Channel.reset]⟩
  | find ready => exact (none ready).elim
  | read | erase | consume | consumeInVain => cases reading
  | pass | fail | send | giveUp | watch | notice | sleep | startle | findNothing =>
      exact ⟨rfl, none⟩

/-- The worker takes the word away from `waiting` only when it withdraws a request. -/
theorem Turn.waiting (turn : Turn request s stage s' stage')
    (waiting : s.channel.state = .waiting) :
    s'.channel.state = .waiting ∨ stage = withdrawing := by
  cases turn with
  | withdraw => exact .inr rfl
  | claim => exact .inl (by simp)
  | erase => exact .inl (by simpa using waiting)
  | consume ready => cases waiting.symm.trans ready
  | _ => exact .inl waiting

/-- A request is withdrawn only if its run is not the current one. -/
theorem Turn.eq_withdrawing (turn : Turn request s stage s' stage')
    (hstage : stage' = withdrawing) : request.run ≠ s.generation := by
  cases turn with
  | fail stale => exact stale
  | _ => cases hstage

theorem Turn.textByte (turn : Turn request s stage s' stage') (reading : stage.isReading = false)
    (i : Nat) : s'.channel.textByte i = s.channel.textByte i := by
  cases turn with
  | claim | withdraw | consume => simp [Shared.resetChannel, Channel.reset]
  | erase => cases reading
  | _ => rfl

end Asking

namespace Worker

/-- Whether the worker has found an answer and did not give the channel back yet. -/
def isReading (w : Worker) : Bool :=
  match w.phase with
  | .asking _ stage _ => stage.isReading
  | _ => false

@[simp] theorem isReading_woken (w : Worker) : w.woken.isReading = w.isReading :=
  eq_woken isReading w fun _ _ _ _ => rfl

/-- A worker that reads an answer has a channel that does not wait. -/
theorem Fits.not_isReading {w : Worker} (fits : w.Fits .waiting) : w.isReading = false := by
  unfold Fits at fits
  unfold isReading
  split
  · rename_i request stage next hphase
    rw [hphase] at fits
    cases stage with
    | reading | erasing | consuming => exact (fits rfl).elim
    | _ => rfl
  · rfl

namespace Turn

variable {interpreter : Interpreter} {s s' : Shared} {w w' : Worker}

theorem isReading (turn : Turn interpreter s w s' w') (none : s.channel.state ≠ .ready)
    (reading : w.isReading = false) : w'.isReading = false ∧ s'.channel.state ≠ .ready := by
  cases turn with
  | stage w turn => exact turn.isReading none reading
  | _ => exact ⟨rfl, none⟩

theorem textByte (turn : Turn interpreter s w s' w') (reading : w.isReading = false) (i : Nat) :
    s'.channel.textByte i = s.channel.textByte i := by
  cases turn with
  | stage w turn => exact turn.textByte reading i
  | _ => rfl

end Turn

end Worker

namespace Runner

variable {interpreter : Interpreter} {capacity : Nat} {s s₀ t : Runner} {h deeds : List Deed}
  {shared : Shared} {worker : Worker} {request : Request} {next : String → Dialogue Ending}

/-! ### Whoever sends the events -/

/-- Whether the worker has no answer while the foreground has the text. -/
def Apart (s : Runner) : Prop :=
  s.foreground.activity.isWriting = true →
    s.worker.isReading = false ∧ s.shared.channel.state ≠ .ready

theorem isWriting_begin (free : s.foreground.isFree = true) (call : Call) :
    (s.begin call).foreground.activity.isWriting = false := by
  obtain ⟨shared, w, activity, active, ready, pending⟩ := s
  cases call with
  | submit text => cases pending <;> rfl
  | _ => rfl

theorem Intact.apart_act (intact : Intact capacity s) (apart : s.Apart) (act : Act s t) :
    t.Apart := by
  cases act with
  | look s w c waiting =>
      intro _
      have hfits : w.Fits s.channel.state := intact.worker.fits
      rw [waiting] at hfits
      exact ⟨hfits.not_isReading, fun ready => nomatch waiting.symm.trans ready⟩
  | write s w c =>
      intro _
      exact ⟨(apart rfl).1, by simpa using (apart rfl).2⟩
  | _ => exact fun writing => nomatch writing

theorem Intact.apart_move (intact : Intact capacity s) (apart : s.Apart)
    (move : Move interpreter s deeds t) : t.Apart := by
  cases move with
  | call call free =>
      intro writing
      rw [isWriting_begin free call] at writing
      cases writing
  | foreground hstep =>
      exact intact.apart_act apart (act_of_foregroundStep? intact.shared.channel hstep)
  | worker hstep =>
      obtain ⟨shared, worker, turn, rfl⟩ := intact.turn_of_workerStep? hstep
      intro writing
      obtain ⟨reading, none⟩ := apart writing
      exact turn.isReading none reading
  | spurious =>
      intro writing
      obtain ⟨reading, none⟩ := apart writing
      exact ⟨by rw [Worker.isReading_woken, reading], none⟩
  | post => exact apart

/-- Only who has the text changes it. -/
theorem Intact.textByte_move (intact : Intact capacity s) (move : Move interpreter s deeds t)
    (writing : s.foreground.activity.isWriting = false) (reading : s.worker.isReading = false)
    (i : Nat) : t.shared.channel.textByte i = s.shared.channel.textByte i := by
  cases move with
  | call | spurious | post => rfl
  | foreground hstep =>
      have act := act_of_foregroundStep? intact.shared.channel hstep
      cases act with
      | reset | announce => simp [Shared.resetChannel, Channel.reset]
      | write => cases writing
      | _ => rfl
  | worker hstep =>
      obtain ⟨shared, worker, turn, rfl⟩ := intact.turn_of_workerStep? hstep
      exact turn.textByte reading i

/-! ### If the worker alone sends events -/

/-- The runs that are named to the foreground, by events on their way and by the pending request. -/
def named (s : Runner) : List Nat :=
  s.shared.inbox.filterMap Message.run? ++ (s.foreground.pending.map Request.run).toList

/-- Whether the foreground answers requests only of a run that the worker did not leave behind, and
the worker withdraws requests only of runs that were given up. -/
structure Current (s : Runner) : Prop where
  told : ∀ run ∈ s.named, ∀ job ∈ s.jobs, run ≤ job
  answered : ∀ request, s.foreground.activity.answered? = some request →
    ∀ job ∈ s.jobs, s.shared.generation ≤ job
  withdrawn : ∀ request next, s.worker.phase = .asking request .withdrawing next →
    request.run < s.shared.generation
  waiting : s.foreground.activity.isWriting = true → s.shared.channel.state = .waiting

theorem named_subset_known (s : Runner) : s.named ⊆ s.known := by
  intro run hrun
  rw [named, List.mem_append] at hrun
  rw [known, List.mem_append, List.mem_append]
  exact hrun.imp_right .inl

theorem run_mem_jobs (h : s.worker.run? = some request.run) : request.run ∈ s.jobs := by
  simp [jobs, tasks, h]

/-- What the worker tells of is the job that it is busy with, which is the first of all. -/
theorem Current.told_turn (current : s.Current) (sound : Sound capacity s)
    (turn : Worker.Turn interpreter s.shared s.worker shared worker) :
    ∀ run ∈ ({ s with shared, worker } : Runner).named,
      ∀ job ∈ ({ s with shared, worker } : Runner).jobs, run ≤ job := by
  intro run hrun job hjob
  have hjobs : ({ s with shared, worker } : Runner).jobs.Sublist s.jobs :=
    (turn.runs sound.worker).append_right _
  have hjob := hjobs.subset hjob
  obtain ⟨news, hinbox, hnews⟩ := turn.news sound.worker
  simp only [named, hinbox, List.filterMap_append, List.append_assoc, List.mem_append] at hrun
  rcases hrun with hrun | hrun | hrun
  · exact current.told run (List.mem_append_left _ hrun) job hjob
  · obtain ⟨message, hmessage, hrun⟩ := List.mem_filterMap.mp hrun
    rw [hnews message hmessage] at hrun
    have hsorted := sound.sorted
    simp only [jobs, tasks, hrun, Option.toList_some, List.cons_append, List.nil_append,
      List.pairwise_cons] at hsorted hjob
    rcases List.mem_cons.mp hjob with rfl | hjob
    · exact Nat.le_refl _
    · exact Nat.le_of_lt (hsorted.1 job hjob)
  · exact current.told run (List.mem_append_right _ hrun) job hjob

/-- While the foreground answers a request, the worker withdraws none. -/
theorem Current.not_withdrawing (current : s.Current)
    (answering : s.foreground.activity.answered? = some request) {other : Request}
    (phase : s.worker.phase = .asking other .withdrawing next) : False := by
  have hrun : s.worker.run? = some other.run := by simp [Worker.run?, phase]
  have hge := current.answered request answering other.run (run_mem_jobs hrun)
  have hlt := current.withdrawn other next phase
  omega

theorem Current.turn (current : s.Current) (sound : Sound capacity s)
    (turn : Worker.Turn interpreter s.shared s.worker shared worker) :
    ({ s with shared, worker } : Runner).Current where
  told := current.told_turn sound turn
  answered := fun request hrequest job hjob => by
    rw [turn.generation]
    exact current.answered request hrequest job
      (((turn.runs sound.worker).append_right _).subset hjob)
  withdrawn := fun request next hphase => by
    rw [turn.generation]
    have hbounded := sound.bounded
    obtain ⟨s, w, c⟩ := s
    cases turn with
    | stage w turn =>
        cases hphase
        have hle : request.run ≤ s.generation :=
          hbounded _ (List.mem_append_left _ (run_mem_jobs rfl))
        exact Nat.lt_of_le_of_ne hle (turn.eq_withdrawing rfl)
    | _ => cases hphase
  waiting := fun writing => by
    have hwaiting : s.shared.channel.state = .waiting := current.waiting writing
    obtain ⟨request, answering⟩ := Activity.answered?_of_isWriting writing
    have hkeeps : ∀ other next, s.worker.phase = .asking other .withdrawing next → False :=
      fun _ _ => current.not_withdrawing answering
    obtain ⟨s, w, c⟩ := s
    cases turn with
    | stage w turn =>
        rcases turn.waiting hwaiting with hwaiting | rfl
        · exact hwaiting
        · exact (hkeeps _ _ rfl).elim
    | _ => exact hwaiting

theorem Current.woken (current : s.Current) :
    ({ s with worker := s.worker.woken } : Runner).Current where
  told := by simpa [named, jobs, tasks] using current.told
  answered := by simpa [jobs, tasks] using current.answered
  withdrawn := fun request next hphase => by
    have hphase : s.worker.woken.phase = .asking request .withdrawing next := hphase
    refine current.withdrawn request next ?_
    by_cases hasking : ∃ request stage next, s.worker.phase = .asking request stage next
    · obtain ⟨other, stage, next', hother⟩ := hasking
      rw [Worker.phase_woken hother] at hphase
      cases stage with
      | withdrawing =>
          cases hphase
          exact hother
      | _ => cases hphase
    · rw [← hphase, Worker.phase_woken_of_ne fun request stage next h =>
        hasking ⟨request, stage, next, h⟩]
  waiting := current.waiting

/-- A step in which no run is started, and the foreground has the text only if it had it before. -/
theorem Current.later (current : s.Current) (named : t.named ⊆ s.named) (jobs : t.jobs ⊆ s.jobs)
    (generation : t.shared.generation = s.shared.generation)
    (phase : t.worker.phase = s.worker.phase)
    (answered : ∀ request, t.foreground.activity.answered? = some request →
      s.foreground.activity.answered? = some request)
    (waiting : t.foreground.activity.isWriting = true → t.shared.channel.state = .waiting) :
    t.Current where
  told := fun run hrun job hjob => current.told run (named hrun) job (jobs hjob)
  answered := fun request hrequest job hjob => by
    rw [generation]
    exact current.answered request (answered request hrequest) job (jobs hjob)
  withdrawn := fun request next hphase => by
    rw [generation]
    exact current.withdrawn request next (phase ▸ hphase)
  waiting := waiting

theorem named_subset_of_inbox {message : Message} {inbox : List Message}
    (first : s.shared.inbox = message :: inbox) (hinbox : t.shared.inbox = inbox)
    (pending : ∀ request, t.foreground.pending = some request →
      s.foreground.pending = some request ∨ message.run? = some request.run) :
    t.named ⊆ s.named := by
  intro run hrun
  simp only [named, first, hinbox, List.mem_append, List.mem_filterMap, Option.mem_toList,
    Option.map_eq_some_iff] at hrun ⊢
  rcases hrun with ⟨other, hother, hrun⟩ | ⟨request, hrequest, rfl⟩
  · exact .inl ⟨other, List.mem_cons_of_mem _ hother, hrun⟩
  · rcases pending request hrequest with hrequest | hmessage
    · exact .inr ⟨request, hrequest, rfl⟩
    · exact .inl ⟨message, List.mem_cons_self, hmessage⟩

theorem Current.supersede (current : s.Current) (sound : Sound capacity s)
    (source? : Option String) : (s.supersede source?).Current := by
  have htold : ∀ run ∈ s.named, ∀ job ∈ s.tasks ++ [s.shared.generation + 1], run ≤ job := by
    intro run hrun job hjob
    rcases List.mem_append.mp hjob with hjob | hjob
    · exact current.told run hrun job (List.mem_append_left _ hjob)
    · have hle := sound.bounded run (List.mem_append_right _ (named_subset_known _ hrun))
      rw [List.mem_singleton.mp hjob]
      exact Nat.le_succ_of_le hle
  have hwithdrawn : ∀ request next, s.worker.phase = .asking request .withdrawing next →
      request.run < s.shared.generation + 1 := fun request next hphase =>
    Nat.lt_succ_of_lt (current.withdrawn request next hphase)
  cases source? with
  | some source => exact ⟨htold, by rintro _ ⟨⟩, hwithdrawn, by rintro ⟨⟩⟩
  | none =>
      refine ⟨fun run hrun job hjob => htold run hrun job (List.mem_append_left _ ?_),
        by rintro _ ⟨⟩, hwithdrawn, by rintro ⟨⟩⟩
      rwa [show (s.supersede none).jobs = s.tasks from List.append_nil _] at hjob

theorem Current.act (current : s.Current) (sound : Sound capacity s) (act : Act s t) :
    t.Current := by
  cases act with
  | supersede => exact current.supersede sound (some _)
  | depart => exact current.supersede sound none
  | wakeToStart s w c =>
      exact current.woken.later (fun run hrun => List.mem_append_left _ (by
        simpa [named] using hrun)) (fun _ => id) rfl rfl (by rintro _ ⟨⟩) (by rintro ⟨⟩)
  | wakeToRelease | wakeToShutDown | wakeToRead =>
      exact current.woken.later (fun _ => id) (fun _ => id) rfl rfl (by rintro _ ⟨⟩)
        (by rintro ⟨⟩)
  | order | shutDown =>
      refine current.later (fun _ => id) (fun job hjob => ?_) rfl rfl (by rintro _ ⟨⟩)
        (by rintro ⟨⟩)
      simpa [jobs, tasks, Shared.command, Command.run?, Activity.run?, Errand.run?] using hjob
  | orderInVain =>
      refine current.later (fun _ => id) (fun job hjob => ?_) rfl rfl (by rintro _ ⟨⟩)
        (by rintro ⟨⟩)
      exact List.mem_append_left _ ((List.mem_append.mp hjob).resolve_right List.not_mem_nil)
  | reset | orderRelease | shutDownInVain | join | lookInVain | announce | announceInVain
  | answered | takeNothing | probeInVain | retry | giveUp =>
      exact current.later (fun _ => id) (fun _ => id) rfl rfl (by rintro _ ⟨⟩) (by rintro ⟨⟩)
  | look s w c waiting =>
      exact current.later (fun _ => id) (fun _ => id) rfl rfl (fun _ => id) fun _ => waiting
  | write s w c =>
      refine current.later (fun _ => id) (fun _ => id) rfl rfl (fun _ => id) fun _ => ?_
      simpa using current.waiting rfl
  | drop s w c first =>
      exact current.later (named_subset_of_inbox first rfl fun _ => .inl) (fun _ => id) rfl rfl
        (by rintro _ ⟨⟩) (by rintro ⟨⟩)
  | readLine s w c first =>
      exact current.later (named_subset_of_inbox first rfl fun _ => .inl) (fun _ => id) rfl rfl
        (by rintro _ ⟨⟩) (by rintro ⟨⟩)
  | hear s w c first =>
      refine current.later (named_subset_of_inbox first rfl fun request hrequest => ?_)
        (fun _ => id) rfl rfl (by rintro _ ⟨⟩) (by rintro ⟨⟩)
      rcases c.pending_observe hrequest with rfl | hpending
      · exact .inr rfl
      · exact .inl hpending

theorem Filters.run_of_pending (filters : Filters h s) (free : s.foreground.isFree = true)
    (pending : s.foreground.pending = some request) : request.run = s.shared.generation := by
  have superseding := isSuperseding_of_isFree free
  have hnumbered := filters.numbered
  rw [Foreground.isDeparting_of_isFree free, superseding] at hnumbered
  have hactive : s.foreground.active = some request.run := by
    simpa [superseding, Foreground.isRestarting_of_isFree free] using
      filters.pending request pending
  have hstarts : request.run = Deed.starts h := by
    simpa [superseding] using filters.active request.run hactive
  rw [hstarts]
  exact hnumbered

theorem Current.begin (current : s.Current) (filters : Filters h s)
    (free : s.foreground.isFree = true) (call : Call) : (s.begin call).Current := by
  have hjobs : (s.begin call).jobs = s.jobs := by
    simp [jobs, tasks, Runner.begin, Foreground.run?_begin, Foreground.run?_of_isFree free]
  refine
    { told := fun run hrun job hjob => current.told run ?_ job (hjobs ▸ hjob)
      answered := fun request hrequest job hjob => ?_
      withdrawn := current.withdrawn
      waiting := fun writing => ?_ }
  · simp only [named, List.mem_append, Option.mem_toList, Option.map_eq_some_iff] at hrun ⊢
    rcases hrun with hrun | ⟨request, hpending, hrequest⟩
    · exact .inl hrun
    · exact .inr ⟨request, Foreground.pending_of_pending_begin hpending, hrequest⟩
  · -- The request that is answered was pending, so the foreground was told of its run.
    have hpending : s.foreground.pending = some request := by
      cases call with
      | submit text =>
          simp only [Runner.begin, Foreground.begin] at hrequest
          split at hrequest
          · cases hrequest
          · cases hrequest
            assumption
      | _ => cases hrequest
    rw [hjobs] at hjob
    rw [show (s.begin call).shared.generation = s.shared.generation from rfl,
      ← filters.run_of_pending free hpending]
    exact current.told request.run (by simp [named, hpending]) job hjob
  · rw [isWriting_begin free call] at writing
    cases writing

theorem Current.post (current : s.Current) {message : Message}
    (plain : ∀ event, message ≠ .event event) : (s.post message).Current := by
  have hmessage : message.run? = none := Message.run?_of_plain plain
  refine current.later (fun run hrun => ?_) (fun _ => id) rfl rfl (fun _ => id) current.waiting
  simpa [named, Runner.post, Shared.post, hmessage] using hrun

theorem Current.move (current : s.Current) (sound : Sound capacity s) (filters : Filters h s)
    (move : Move interpreter s deeds t) (honest : ∀ deed ∈ deeds, deed.Honest) : t.Current := by
  cases move with
  | call call free => exact current.begin filters free call
  | foreground hstep => exact current.act sound (act_of_foregroundStep? sound.shared.channel hstep)
  | worker hstep =>
      obtain ⟨shared, worker, turn, rfl⟩ := sound.turn_of_workerStep? hstep
      exact current.turn sound turn
  | spurious => exact current.woken
  | post message => exact current.post (Deed.honest_posted.mp (honest _ (by simp)))

theorem current_of_spawn (hspawn : spawn capacity = .ok s) : s.Current := by
  obtain rfl := eq_of_spawn hspawn
  exact ⟨fun run hrun => (List.not_mem_nil hrun).elim, by rintro _ ⟨⟩, by rintro _ _ ⟨⟩,
    by rintro ⟨⟩⟩

theorem current_of_course (hspawn : spawn capacity = .ok s₀) (course : Course interpreter s₀ h s)
    (honest : ∀ deed ∈ h, deed.Honest) : Sound capacity s ∧ s.Current := by
  have hall : Sound capacity s ∧ Filters h s ∧ s.Current := by
    refine course.invariant (P := fun h s => Sound capacity s ∧ Filters h s ∧ s.Current) honest
      ⟨sound_of_spawn hspawn, filters_of_spawn hspawn, current_of_spawn hspawn⟩ ?_
    rintro h s deeds t ⟨sound, filters, current⟩ move honest
    exact ⟨sound.move move honest, filters.move sound.intact.upheld move,
      current.move sound filters move honest⟩
  exact ⟨hall.1, hall.2.2⟩

/-- While the foreground has the text, the worker is in a request that it does not leave. -/
theorem Current.holding (current : s.Current) (sound : Sound capacity s)
    (writing : s.foreground.activity.isWriting = true) :
    ∃ request stage next, s.worker.phase = .asking request stage next ∧
      stage.isHolding = true := by
  have waiting := current.waiting writing
  obtain ⟨answered, answering⟩ := Activity.answered?_of_isWriting writing
  have hfits := sound.worker.fits
  rw [Worker.Fits, waiting] at hfits
  split at hfits
  · rename_i request stage next hphase
    refine ⟨request, stage, next, hphase, ?_⟩
    cases stage with
    | guarding | sending | watching | dozing | asleep => rfl
    | withdrawing => exact (current.not_withdrawing answering hphase).elim
    | inspecting | reading | erasing | consuming => exact (hfits rfl).elim
    | _ => cases hfits
  · cases hfits

/-- The two sides use the text of the channel one at a time, whatever the order of all steps,
whoever resets the channel, and whatever comes into the inbox.

* The foreground is not between finding the worker waiting and announcing its answer while the
  worker is between finding an answer and giving the channel back.
* No step but one of these spans changes a byte of the text.
* If the worker alone sends events, the channel goes on to wait for as long as the foreground has
  the text, and the worker is in a request that it does not leave. -/
theorem text_used_by_one (hspawn : spawn capacity = .ok s₀) (course : Course interpreter s₀ h s) :
    ¬ (s.foreground.activity.isWriting = true ∧ s.worker.isReading = true) ∧
    (∀ deeds t i, Move interpreter s deeds t →
      t.shared.channel.textByte i ≠ s.shared.channel.textByte i →
      s.foreground.activity.isWriting = true ∨ s.worker.isReading = true) ∧
    ((∀ deed ∈ h, deed.Honest) → s.foreground.activity.isWriting = true →
      s.shared.channel.state = .waiting ∧
      ∃ request stage next, s.worker.phase = .asking request stage next ∧
        stage.isHolding = true) := by
  have hstart : s₀.Apart := by
    obtain rfl := eq_of_spawn hspawn
    exact fun writing => nomatch writing
  have hintact := (sound_of_spawn hspawn).intact
  have apart : s.Apart := hintact.invariant hstart (fun _ _ _ => Intact.apart_move) course
  have intact := hintact.course course
  refine ⟨?_, ?_, ?_⟩
  · rintro ⟨writing, reading⟩
    rw [(apart writing).1] at reading
    cases reading
  · intro deeds t i move changed
    by_contra hnobody
    rw [not_or, Bool.not_eq_true, Bool.not_eq_true] at hnobody
    exact changed (intact.textByte_move move hnobody.1 hnobody.2 i)
  · intro honest writing
    obtain ⟨sound, current⟩ := current_of_course hspawn course honest
    exact ⟨current.waiting writing, current.holding sound writing⟩

/-- The channel is reset while a request is pending, and the worker goes on to its next request.
Then the earlier one is answered: the text is there, and not announced yet. -/
def lateAnswer : List Choice :=
  List.flatten
    [[.worker, .worker, .call (.start "name\nage")], List.replicate 4 .foreground,
      List.replicate 6 .worker,
      [.call .receive, .foreground, .call .receive, .foreground],
      [.call .reset, .foreground, .foreground], List.replicate 8 .worker,
      [.call (.submit "x"), .foreground, .foreground]]

theorem text_used_by_one_lateAnswer :
    ∃ s₀ h s, spawn 16 = .ok s₀ ∧ Course Interpreter.survey s₀ h s ∧
      Deed.asked ⟨1, 2, "age"⟩ ∈ h ∧
      s.foreground.activity = .answering ⟨1, 1, "name"⟩ "x" .announcing ∧
      s.worker.isReading = false ∧ s.shared.channel.state = .waiting ∧
      ∃ request stage next, s.worker.phase = .asking request stage next ∧
        stage.isHolding = true := by
  have hseen : ((spawn 16).toOption.bind (follow? Interpreter.survey lateAnswer)).map
      (fun p => (p.1, p.2.foreground.activity)) =
      some ([.called none (.start "name\nage"), .replied (.started 1), .asked ⟨1, 1, "name"⟩,
          .called none .receive, .replied (.received (.event .ready)),
          .called none .receive, .replied (.received (.event (.requested ⟨1, 1, "name"⟩))),
          .called (some ⟨1, 1, "name"⟩) .reset, .replied .done, .handed ⟨1, 1, "name"⟩ "",
          .asked ⟨1, 2, "age"⟩, .called (some ⟨1, 1, "name"⟩) (.submit "x")],
        .answering ⟨1, 1, "name"⟩ "x" .announcing) := by
    decide +kernel
  obtain ⟨s₀, h, s, hspawn, course, hview⟩ := course_of_spawn hseen
  obtain ⟨rfl, hactivity⟩ := Prod.mk.inj hview
  have writing : s.foreground.activity.isWriting = true := by
    rw [hactivity]
    rfl
  obtain ⟨hapart, -, hhonest⟩ := text_used_by_one hspawn course
  obtain ⟨waiting, hholding⟩ := hhonest (by simp [Deed.Honest]) writing
  have reading : s.worker.isReading = false :=
    Bool.eq_false_iff.mpr fun reading => hapart ⟨writing, reading⟩
  exact ⟨s₀, _, s, hspawn, course, by simp, hactivity, reading, waiting, hholding⟩

end Runner

end Pseudocode
