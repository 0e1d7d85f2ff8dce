import Mathlib.Tactic.ByContra
import Pseudocode.Proofs.Runner.Sound

/-!
No wake of the worker is lost. A wait loads the word, falls asleep only on the word that it expects,
and loads again after each wake; so the wakes may be as many as they like, and may find nobody
asleep. The worker waits in this way, and whoever takes the word away from `waiting` while it sleeps
goes on to wake it.
-/

namespace Pseudocode

/-! ### Waits -/

/-- Where a wait for a word to change stands, named for what comes next. -/
inductive Wait where
  /-- See whether the word is still the expected one. -/
  | loading
  /-- Fall asleep, if the word is still the expected one. -/
  | parking
  | parked
  | done
  deriving DecidableEq, Repr

namespace Wait

/-- One step of a wait, which finds `word`. Asleep and at the end there is none. -/
def step? (expected word : Nat) : Wait → Option Wait
  | loading => some (if word = expected then parking else done)
  | parking => some (if word = expected then parked else loading)
  | parked | done => none

/-- What a wake does, whoever it is meant for: it rouses who is asleep. -/
def woken : Wait → Wait
  | parked => loading
  | wait => wait

/-- A wait with the words that its steps find; whatever changes the word and whoever wakes the
sleeper may come between them. -/
inductive Run (expected : Nat) (first : Wait) : List Nat → Wait → Prop
  | rest : Run expected first [] first
  | step {words : List Nat} {wait next : Wait} (run : Run expected first words wait) (word : Nat)
    (hstep : wait.step? expected word = some next) : Run expected first (words ++ [word]) next
  | woken {words : List Nat} {wait : Wait} (run : Run expected first words wait) :
    Run expected first words wait.woken

variable {expected : Nat} {first wait : Wait} {words : List Nat}

theorem woken_ne_done (going : wait ≠ done) : wait.woken ≠ done := by
  cases wait with
  | parked => exact fun h => nomatch h
  | loading | parking | done => exact going

theorem step?_done {word : Nat} (hstep : wait.step? expected word = some done) :
    wait = loading ∧ word ≠ expected := by
  cases wait with
  | loading =>
      refine ⟨rfl, fun heq => ?_⟩
      simp [step?, heq] at hstep
  | parking =>
      by_cases heq : word = expected
      · simp [step?, heq] at hstep
      · simp [step?, heq] at hstep
  | parked | done => cases hstep

/-- A wait is over only after a load that found another word than the expected one. -/
theorem Run.found_other (run : Run expected first words wait) (going : first ≠ done)
    (hdone : wait = done) : ∃ earlier word, words = earlier ++ [word] ∧ word ≠ expected := by
  induction run with
  | rest => exact (going hdone).elim
  | @step words wait next run word hstep ih =>
      subst hdone
      exact ⟨words, word, rfl, (step?_done hstep).2⟩
  | @woken words wait run ih =>
      refine ih ?_
      by_contra going'
      exact woken_ne_done going' hdone

end Wait

/-! ### The wait of a request -/

namespace Asking

/-- Where a request stands in its wait. -/
def wait? : Asking → Option Wait
  | watching => some .loading
  | dozing => some .parking
  | asleep => some .parked
  | inspecting => some .done
  | _ => none

variable {request : Request} {s s' : Shared} {stage stage' : Asking} {wait : Wait}

theorem wait?_woken (stage : Asking) : stage.woken.wait? = stage.wait?.map Wait.woken := by
  cases stage <;> rfl

theorem eq_inspecting_of_wait? (hwait : stage.wait? = some .done) : stage = inspecting := by
  cases stage with
  | inspecting => rfl
  | _ => cases hwait

/-- A request waits for another word than that of `waiting`, and changes nothing while it does. -/
theorem Turn.wait? (turn : Turn request s stage s' stage') (sound : s.channel.IsSound)
    (hwait : stage.wait? = some wait) (going : wait ≠ .done) :
    s' = s ∧ ∃ next, wait.step? ChannelState.waiting.toWord s.channel.word = some next ∧
      stage'.wait? = some next := by
  cases turn with
  | watch waiting | sleep waiting =>
      cases hwait
      exact ⟨rfl, _, congrArg some (if_pos ((sound.word_eq_iff .waiting).mpr waiting)), rfl⟩
  | notice past | startle past =>
      cases hwait
      exact ⟨rfl, _, congrArg some (if_neg (mt (sound.word_eq_iff .waiting).mp past)), rfl⟩
  | find | findNothing =>
      cases hwait
      exact (going rfl).elim
  | _ => cases hwait

end Asking

namespace Runner

variable {interpreter : Interpreter} {capacity : Nat} {s s₀ t u : Runner} {h deeds : List Deed}
  {request : Request} {stage : Asking} {next : String → Dialogue Ending} {first wait : Wait}

/-- Whether the worker is in the wait of a request, and the words that it has found in it. -/
structure Waits (request : Request) (next : String → Dialogue Ending) (first : Wait)
    (words : List Nat) (wait : Wait) (s : Runner) : Prop where
  phase : ∃ stage, s.worker.phase = .asking request stage next ∧ stage.wait? = some wait
  run : Wait.Run ChannelState.waiting.toWord first words wait

variable {words : List Nat}

/-- A step of any side goes on with the wait, or leaves it where it is. If the wait is over, the
last word that it found is still there. -/
theorem Waits.move (waits : Waits request next first words wait s) (going : wait ≠ .done)
    (intact : Intact capacity s) (move : Move interpreter s deeds t) :
    ∃ words' wait', Waits request next first words' wait' t ∧
      (wait' = .done → words' = words ++ [t.shared.channel.word]) := by
  obtain ⟨⟨stage, hphase, hwait⟩, hrun⟩ := waits
  have hkeep {t : Runner} (hworker : t.worker = s.worker) :
      ∃ words' wait', Waits request next first words' wait' t ∧
        (wait' = .done → words' = words ++ [t.shared.channel.word]) :=
    ⟨words, wait, ⟨⟨stage, by rw [hworker, hphase], hwait⟩, hrun⟩, fun h => (going h).elim⟩
  have hwake {t : Runner} (hworker : t.worker = s.worker.woken) :
      ∃ words' wait', Waits request next first words' wait' t ∧
        (wait' = .done → words' = words ++ [t.shared.channel.word]) := by
    refine ⟨words, wait.woken, ⟨⟨stage.woken, ?_, ?_⟩, hrun.woken⟩, fun h => ?_⟩
    · rw [hworker, Worker.phase_woken hphase]
    · rw [Asking.wait?_woken, hwait]
      rfl
    · exact (Wait.woken_ne_done going h).elim
  cases move with
  | call => exact hkeep rfl
  | spurious => exact hwake rfl
  | post => exact hkeep rfl
  | foreground hstep =>
      -- The foreground has no hold on the worker but to wake it.
      have act := act_of_foregroundStep? intact.shared.channel hstep
      cases act with
      | wakeToStart | wakeToRelease | wakeToShutDown | wakeToRead => exact hwake rfl
      | _ => exact hkeep rfl
  | worker hstep =>
      obtain ⟨shared, worker, turn, rfl⟩ := intact.turn_of_workerStep? hstep
      generalize s.worker = w at turn hphase
      cases turn with
      | stage w turn =>
          cases hphase
          obtain ⟨rfl, wait', hstep', hwait'⟩ := turn.wait? intact.shared.channel hwait going
          exact ⟨_, wait', ⟨⟨_, rfl, hwait'⟩, hrun.step _ hstep'⟩, fun _ => rfl⟩
      | resume w =>
          cases hphase
          cases hwait
      | _ => cases hphase

/-- How the wait of the worker in a request ends: the last word that it found is the one that is
there. -/
def Leaves (interpreter : Interpreter) (s : Runner) (request : Request)
    (next : String → Dialogue Ending) (first : Wait) (h : List Deed) (t : Runner) : Prop :=
  Course interpreter s h t ∧
    ∃ words, Waits request next first (words ++ [t.shared.channel.word]) .done t

/-- A worker that waits goes on to wait until its wait is over. -/
theorem Waits.until (waits : Waits request next first [] first s) (going : first ≠ .done)
    (intact : Intact capacity s) (course : Course interpreter s h t) :
    (∃ words wait, Waits request next first words wait t ∧ wait ≠ .done) ∨
      ∃ before after u, h = before ++ after ∧ Leaves interpreter s request next first before u ∧
        Course interpreter u after t := by
  induction course with
  | rest => exact .inl ⟨[], first, waits, going⟩
  | @move h deeds t u course move ih =>
      rcases ih with ⟨words, wait, hwaits, hgoing⟩ | ⟨before, after, left, rfl, hleaves, hrest⟩
      · -- The sides are still able to work, so the step can be classified.
        have hintact : Intact capacity t := intact.course course
        obtain ⟨words', wait', hwaits', hdone⟩ := hwaits.move hgoing hintact move
        by_cases hend : wait' = .done
        · subst hend
          obtain rfl := hdone rfl
          exact .inr ⟨h ++ deeds, [], u, (List.append_nil _).symm,
            ⟨course.move move, words, hwaits'⟩, .rest⟩
        · exact .inl ⟨words', wait', hwaits', hend⟩
      · exact .inr ⟨before, after ++ deeds, left, List.append_assoc .., hleaves, hrest.move move⟩

/-- The wait of a worker is over only where its load finds another word than that of `waiting`. -/
theorem Leaves.found_other (leaves : Leaves interpreter s request next first h t)
    (going : first ≠ .done) : t.worker.phase = .asking request .inspecting next ∧
      t.shared.channel.word ≠ ChannelState.waiting.toWord := by
  obtain ⟨-, words, ⟨⟨stage, hphase, hwait⟩, hrun⟩⟩ := leaves
  obtain ⟨earlier, word, hwords, hother⟩ := hrun.found_other going rfl
  obtain ⟨-, hword⟩ := List.append_inj' hwords rfl
  rw [Asking.eq_inspecting_of_wait? hwait] at hphase
  rw [List.singleton_inj.mp hword]
  exact ⟨hphase, hother⟩

/-! ### Falling asleep -/

/-- Whether a sleeping worker has the word that it waits on, or is about to be woken. -/
def Roused (s : Runner) : Prop :=
  s.worker.isAsleep = true → s.shared.channel.state ≠ .waiting →
    s.foreground.activity.isRousing = true

theorem Intact.roused_move (intact : Intact capacity s) (roused : s.Roused)
    (move : Move interpreter s deeds t) : t.Roused := by
  cases move with
  | call call free =>
      intro asleep late
      have hrousing := roused asleep late
      rw [Foreground.isRousing_of_isFree free] at hrousing
      cases hrousing
  | foreground hstep => exact (act_of_foregroundStep? intact.shared.channel hstep).roused roused
  | worker hstep =>
      obtain ⟨shared, worker, turn, rfl⟩ := intact.turn_of_workerStep? hstep
      intro asleep late
      rw [show worker.isAsleep = false from turn.not_isAsleep late] at asleep
      cases asleep
  | spurious =>
      intro asleep
      simp at asleep
  | post => exact roused

/-- Whoever is about to wake the worker does so in the next step. -/
theorem wakes_of_isRousing (rousing : s.foreground.activity.isRousing = true) :
    ∃ t, s.foregroundStep? = some t ∧ t.worker.isAsleep = false := by
  obtain ⟨shared, w, activity, active, ready, pending⟩ := s
  cases activity with
  | waking errand => cases errand <;> exact ⟨_, rfl, w.isAsleep_woken⟩
  | answering request text stage =>
      cases stage with
      | waking => exact ⟨_, rfl, w.isAsleep_woken⟩
      | _ => cases rousing
  | _ => cases rousing

/-- No wake is lost, whatever the order of all steps, whoever resets the channel, and however often
the worker wakes for no reason.

* The worker sleeps only while the word says to wait, unless the foreground has just changed the
  word and wakes the worker in its next step.
* A wait, whichever word it expects, is over only after a load that found another one.
* The wait of the worker in a request is such a wait, for another word than that of `waiting`. The
  worker stays in it until it has found one. -/
theorem no_wake_lost (hspawn : spawn capacity = .ok s₀) (course : Course interpreter s₀ h s) :
    (s.worker.isAsleep = true → s.foreground.activity.isRousing = false →
      s.shared.channel.word = ChannelState.waiting.toWord) ∧
    (s.foreground.activity.isRousing = true →
      ∃ t, s.foregroundStep? = some t ∧ t.worker.isAsleep = false) ∧
    (∀ expected words, Wait.Run expected .loading words .done →
      ∃ earlier word, words = earlier ++ [word] ∧ word ≠ expected) ∧
    (∀ request stage next first h' t, s.worker.phase = .asking request stage next →
      stage.wait? = some first → first ≠ .done → Course interpreter s h' t →
      (∃ words wait, Waits request next first words wait t ∧ wait ≠ .done) ∨
        ∃ before after u, h' = before ++ after ∧
          Leaves interpreter s request next first before u ∧
          u.worker.phase = .asking request .inspecting next ∧
          u.shared.channel.word ≠ ChannelState.waiting.toWord ∧
          Course interpreter u after t) := by
  have hstart : s₀.Roused := (sound_of_spawn hspawn).roused
  have hintact := (sound_of_spawn hspawn).intact
  have roused : s.Roused := hintact.invariant hstart (fun _ _ _ => Intact.roused_move) course
  have intact := hintact.course course
  refine ⟨fun asleep quiet => ?_, wakes_of_isRousing,
    fun _ _ run => run.found_other (fun h => nomatch h) rfl, ?_⟩
  · rw [intact.shared.channel.word_eq_iff]
    by_contra late
    have hrousing := roused asleep late
    rw [quiet] at hrousing
    cases hrousing
  · intro request stage next first h' t phase hwait going course'
    have waits : Waits request next first [] first s := ⟨⟨stage, phase, hwait⟩, .rest⟩
    rcases waits.until going intact course' with hwaits | ⟨before, after, u, rfl, leaves, hrest⟩
    · exact .inl hwaits
    · obtain ⟨hphase, hother⟩ := leaves.found_other going
      exact .inr ⟨before, after, u, rfl, leaves, hphase, hother, hrest⟩

/-- The sleeper wakes for no reason and falls asleep again. Then the channel is reset, and the
survey goes on to its end. -/
def rising : List Choice :=
  [.spurious, .worker, .worker, .call .reset, .foreground, .foreground] ++
    List.replicate 7 .worker

theorem no_wake_lost_nap :
    ∃ s₀ h s h' t, spawn 16 = .ok s₀ ∧ Course Interpreter.survey s₀ h s ∧
      s.worker.isAsleep = true ∧ s.shared.channel.word = ChannelState.waiting.toWord ∧
      Course Interpreter.survey s h' t ∧ t.worker.run? = none ∧
      ∃ request next before after u, h' = before ++ after ∧
        Leaves Interpreter.survey s request next .parked before u ∧
        u.shared.channel.word ≠ ChannelState.waiting.toWord := by
  have hseen : ((spawn 16).toOption.bind (follow? Interpreter.survey question)).map
      (fun p => (p.2.worker.isAsleep, p.2.foreground.activity.isRousing,
        (p.2.follow? Interpreter.survey rising).map fun q => (q.1, q.2.worker.run?))) =
      some (true, false, some ([.stirred, .called none .reset, .replied .done,
        .handed ⟨1, 1, "name"⟩ ""], none)) := by
    decide +kernel
  obtain ⟨s₀, h, s, hspawn, course, hview⟩ := course_of_spawn hseen
  simp only [Prod.mk.injEq] at hview
  obtain ⟨asleep, quiet, hrest⟩ := hview
  obtain ⟨⟨h', t⟩, hfollow, hend⟩ := Option.map_eq_some_iff.mp hrest
  obtain ⟨-, hgone⟩ := Prod.mk.inj hend
  have course' := course_of_follow? hfollow
  obtain ⟨hword, -, -, hwaits⟩ := no_wake_lost hspawn course
  obtain ⟨request, next, hphase⟩ := Worker.exists_of_isAsleep asleep
  refine ⟨s₀, h, s, h', t, hspawn, course, asleep, hword asleep quiet, course', hgone, request,
    next, ?_⟩
  rcases hwaits request .asleep next .parked h' t hphase rfl (by simp) course' with
    ⟨_, _, ⟨⟨stage, hwaiting, -⟩, -⟩, -⟩ | ⟨before, after, u, hdeeds, leaves, -, hother, -⟩
  · simp [Worker.run?, hwaiting] at hgone
  · exact ⟨before, after, u, hdeeds, leaves, hother⟩

end Runner

end Pseudocode
