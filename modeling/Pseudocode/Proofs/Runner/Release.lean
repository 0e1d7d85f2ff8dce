import Mathlib.Logic.Basic
import Pseudocode.Proofs.Runner.Delivery

/-!
No request waits for an answer that nobody will give. A request that waits is one of the current
run, and the foreground has it or is going to receive it; so a foreground that receives and answers
can always release the worker. A request of a run that was given up does not wait.
-/

namespace Pseudocode

namespace Runner

variable {interpreter : Interpreter} {capacity : Nat} {s t : Runner} {h : List Deed}
  {request : Request} {text : String}

/-! ### Requests of the current run -/

/-- The request that waits is on its way to the foreground, or pending there, and not both. -/
theorem Agreed.sent_or_pending (agreed : s.Agreed) (free : s.foreground.isFree = true)
    (waits : request ∈ s.awaited) :
    Xor (.event (.requested request) ∈ s.shared.inbox) (s.foreground.pending = some request) := by
  have hheld := agreed.held.trans (awaited_eq_of_mem waits)
  rw [Runner.held, Foreground.answered?_of_isFree free, Option.toList_none, List.nil_append,
    List.filter_append] at hheld
  cases hpending : s.foreground.pending with
  | none =>
      rw [hpending, Option.toList_none, List.filter_nil, List.nil_append] at hheld
      have hmem : request ∈ s.shared.inbox.filterMap Message.request? :=
        (List.mem_filter.mp (hheld ▸ List.mem_singleton_self request)).1
      obtain ⟨message, hmessage, hrequest⟩ := List.mem_filterMap.mp hmem
      exact .inl ⟨Message.request?_eq_some.mp hrequest ▸ hmessage, by simp⟩
  | some other =>
      have hother := agreed.mem_awaited_of_pending free hpending
      have current := run_of_mem_awaited hother
      rw [awaited_eq_of_mem waits] at hother
      obtain rfl := List.mem_singleton.mp hother
      refine .inr ⟨rfl, fun hmem => ?_⟩
      refine List.filter_eq_nil_iff.mp (agreed.alone_of_pending hpending current).2 other ?_
        (Request.isOf_iff.mpr current)
      exact List.mem_filterMap.mpr ⟨_, hmem, rfl⟩

/-! ### Requests of runs that were given up -/

/-- A request of an earlier run does not wait once it has told the foreground. -/
theorem Agreed.idle_of_stale (agreed : s.Agreed) (reset : s.foreground.activity.isResetting = false)
    {stage : Asking} {next : String → Dialogue Ending}
    (phase : s.worker.phase = .asking request stage next) (sent : stage.hasSent = true)
    (stale : request.run ≠ s.shared.generation) : s.shared.channel.state = .idle := by
  have hsettled := agreed.settled reset
  rw [Worker.Settled, phase] at hsettled
  have hfits := hsettled.stale stale
  cases stage <;> simp_all [Asking.FitsStale, Asking.hasSent]

/-- The worker leaves a request that is not to wait by itself, unless it is about to be woken. -/
theorem Sound.leave (sound : Sound capacity s) {stage : Asking} {next : String → Dialogue Ending}
    (phase : s.worker.phase = .asking request stage next) (sent : stage.hasSent = true)
    (past : s.shared.channel.state ≠ .waiting)
    (quiet : s.foreground.activity.isRousing = false) :
    ∃ text t, Course interpreter s [.handed request text] t := by
  obtain ⟨text, houtcome⟩ : ∃ text, stage.outcome? s.shared.channel = some text := by
    cases stage with
    | asleep =>
        have hroused := sound.roused (by simp [Worker.isAsleep, phase]) past
        rw [quiet] at hroused
        cases hroused
    | watching | dozing | inspecting | reading | erasing | consuming => exact ⟨_, rfl⟩
    | _ => cases sent
  obtain ⟨t, course, _⟩ := sound.deliver phase houtcome past
  exact ⟨text, t, course⟩

/-! ### How a worker is released -/

/-- Whoever keeps receiving gets the request in which the worker waits. -/
theorem Agreed.receive_awaited (agreed : s.Agreed) (sound : Sound capacity s)
    {inbox : List Message} (hinbox : s.shared.inbox = inbox)
    (taking : s.foreground.activity = .taking true)
    (sent : .event (.requested request) ∈ inbox) (current : request.run = s.shared.generation) :
    ∃ h t, Course interpreter s h t ∧ (∀ deed ∈ h, deed.Unaided ∧ deed.Calls (· = .receive)) ∧
      Deed.returns h = [] ∧ t.foreground.isFree = true ∧ t.foreground.pending = some request ∧
      t.worker = s.worker ∧ t.shared.channel = s.shared.channel := by
  induction inbox generalizing s with
  | nil => cases sent
  | cons message inbox ih =>
      have hstep : s.foregroundStep? = some (s.take true) := by simp [foregroundStep?, taking]
      have act := act_of_foregroundStep? sound.shared.channel hstep
      have move : Move interpreter s _ _ := .foreground hstep
      have hagreed := agreed.act sound act
      have hsound := sound.act act
      have hactive := (agreed.active_of_mem_awaited
        (agreed.mem_awaited_of_mem_inbox (hinbox ▸ sent) current)).1
      -- After any other message the foreground begins to receive again.
      have hagain {t : Runner} (agreed : t.Agreed) (sound : Sound capacity t)
          (free : t.foreground.isFree = true) (hrest : t.shared.inbox = inbox)
          (hgeneration : t.shared.generation = s.shared.generation)
          (hmem : .event (.requested request) ∈ inbox) :
          ∃ h u, Course interpreter t h u ∧
            (∀ deed ∈ h, deed.Unaided ∧ deed.Calls (· = .receive)) ∧ Deed.returns h = [] ∧
            u.foreground.isFree = true ∧ u.foreground.pending = some request ∧
            u.worker = t.worker ∧ u.shared.channel = t.shared.channel := by
        have hbegin : (t.begin .receive).Agreed := agreed.begin free (by simp)
        obtain ⟨h, u, course, hdeeds, hreturns, hu⟩ := ih hbegin (sound.begin free .receive) hrest
          rfl hmem (current.trans hgeneration.symm)
        exact ⟨_, u, course.cons (.call .receive free),
          List.forall_mem_cons.mpr ⟨⟨trivial, rfl⟩, hdeeds⟩, hreturns, hu⟩
      generalize s.take true = t at act move hagreed hsound
      cases act with
      | drop s w c first named other =>
          cases taking
          cases first.symm.trans hinbox
          have hmem : .event (.requested request) ∈ inbox := by
            refine (List.mem_cons.mp sent).resolve_left fun heq => ?_
            cases heq
            cases named
            exact other hactive
          obtain ⟨h, u, course, hu⟩ := ih hagreed hsound rfl rfl hmem current
          exact ⟨_, u, course.cons move, hu⟩
      | hear s w c first =>
          rename_i event inbox' _
          cases first.symm.trans hinbox
          by_cases heq : event = .requested request
          · subst heq
            exact ⟨_, _, Course.single move, by simp [Foreground.deeds, Foreground.reply?,
              Deed.Unaided, Deed.Calls], rfl, rfl, rfl, rfl, rfl⟩
          · have hmem : .event (.requested request) ∈ inbox :=
              (List.mem_cons.mp sent).resolve_left fun h => heq (Message.event.inj h).symm
            obtain ⟨h, u, course, hdeeds, hreturns, hu⟩ := hagain hagreed hsound rfl rfl rfl hmem
            exact ⟨_, u, course.cons move, List.forall_mem_cons.mpr ⟨⟨trivial, trivial⟩, hdeeds⟩,
              hreturns, hu⟩
      | readLine s w c first plain =>
          cases first.symm.trans hinbox
          have hmem : .event (.requested request) ∈ inbox :=
            (List.mem_cons.mp sent).resolve_left fun h => plain _ h.symm
          obtain ⟨h, u, course, hdeeds, hreturns, hu⟩ := hagain hagreed hsound rfl rfl rfl hmem
          exact ⟨_, u, course.cons move, List.forall_mem_cons.mpr ⟨⟨trivial, trivial⟩, hdeeds⟩,
            hreturns, hu⟩
      | takeNothing s w c empty => cases empty.symm.trans hinbox
      | _ => cases taking

/-- An answer to the pending request, with nobody else moving. -/
theorem Agreed.submit_course (agreed : s.Agreed) (sound : Sound capacity s)
    (free : s.foreground.isFree = true) (pending : s.foreground.pending = some request)
    (text : String) :
    Course interpreter s [.called (some request) (.submit text), .replied (.answered true)]
      ⟨{ s.shared with channel := (s.shared.channel.writeText text).setState .ready },
        s.worker.woken,
        { s.foreground with activity := .returned (.answered true), pending := none }⟩ := by
  have hmem := agreed.mem_awaited_of_pending free pending
  have waiting := waiting_of_mem_awaited hmem
  obtain ⟨shared, w, c⟩ := s
  let answering (shared : Shared) (stage : Answering) : Runner :=
    ⟨shared, w, { c with activity := .answering request text stage, pending := none }⟩
  have hbegin : Runner.begin ⟨shared, w, c⟩ (.submit text) = answering shared .looking := by
    simp [Runner.begin, Foreground.begin, answering, show c.pending = some request from pending]
  have hcall : Move interpreter ⟨shared, w, c⟩ [.called (some request) (.submit text)]
      (answering shared .looking) := by
    have move : Move interpreter ⟨shared, w, c⟩ _ _ := .call (.submit text) free
    rw [hbegin, show c.pending = some request from pending] at move
    exact move
  have hlook : (answering shared .looking).foregroundStep? = some (answering shared .writing) := by
    simp [foregroundStep?, answer, Answering.step, setActivity, answering,
      show shared.channel.state = .waiting from waiting]
  let written : Shared := { shared with channel := shared.channel.writeText text }
  have hwrite :
      (answering shared .writing).foregroundStep? = some (answering written .announcing) :=
    rfl
  have hmoved : written.channel.transition .waiting .ready =
      .ok (written.channel.setState .ready) := by
    have hsound : written.channel.IsSound := sound.shared.channel.writeText text
    refine hsound.transition_of_state rfl ?_
    rw [show written.channel.state = _ from shared.channel.state_writeText text]
    exact waiting
  have hannounce : (answering written .announcing).foregroundStep? =
      some (answering { written with channel := written.channel.setState .ready } .waking) := by
    simp [foregroundStep?, answer, Answering.step, setActivity, answering, hmoved]
  have hwake : Move interpreter
      (answering { written with channel := written.channel.setState .ready } .waking) _ _ :=
    .foreground rfl
  exact ((((Course.single hcall).move (.foreground hlook)).move (.foreground hwrite)).move
    (.foreground hannounce)).move hwake

/-- A worker that waits for the current run can be released by receiving and answering. -/
theorem Agreed.release (agreed : s.Agreed) (sound : Sound capacity s)
    (free : s.foreground.isFree = true) {stage : Asking} {next : String → Dialogue Ending}
    (phase : s.worker.phase = .asking request stage next) (waits : request ∈ s.awaited)
    (text : String) :
    ∃ h t, Course interpreter s h t ∧
      (∀ deed ∈ h, deed.Unaided ∧ deed.Calls fun call => call = .receive ∨ call = .submit text) ∧
      Deed.returns h = [(request, Channel.readBack capacity text)] ∧
      t.worker.phase = .running request.run (next (Channel.readBack capacity text)) := by
  -- The request is received,
  obtain ⟨h, u, received, hdeeds, hreturns, hfree, hpending, hworker⟩ : ∃ h u,
      Course interpreter s h u ∧ (∀ deed ∈ h, deed.Unaided ∧ deed.Calls (· = .receive)) ∧
      Deed.returns h = [] ∧ u.foreground.isFree = true ∧ u.foreground.pending = some request ∧
      u.worker = s.worker := by
    rcases agreed.sent_or_pending free waits with ⟨hinbox, _⟩ | ⟨hpending, _⟩
    · have hreceive : (s.begin .receive).Agreed := agreed.begin free (by simp)
      have current := run_of_mem_awaited waits
      obtain ⟨h, u, course, hdeeds, hreturns, hfree, hpending, hworker, _⟩ :=
        hreceive.receive_awaited (sound.begin free .receive) rfl rfl hinbox current
      exact ⟨_, u, course.cons (.call .receive free),
        List.forall_mem_cons.mpr ⟨⟨trivial, rfl⟩, hdeeds⟩, hreturns, hfree, hpending, hworker⟩
    · exact ⟨[], s, .rest, by simp, rfl, free, hpending, rfl⟩
  obtain ⟨hsound, hagreed⟩ := agreed.course sound received fun deed hdeed =>
    ⟨(hdeeds deed hdeed).2.mono (by rintro _ rfl; simp), (hdeeds deed hdeed).1.honest⟩
  -- answered,
  have submitted : Course interpreter u _ _ := hagreed.submit_course hsound hfree hpending text
  have hfinal := hsound.course submitted (by simp [Deed.Honest])
  -- and the answer is taken.
  have hphase : u.worker.woken.phase = .asking request stage.woken next :=
    Worker.phase_woken (hworker ▸ phase)
  have houtcome : stage.woken.outcome? ((u.shared.channel.writeText text).setState .ready) =
      some (Channel.readBack capacity text) := by
    obtain ⟨_, _, hasking, sent, waiting, _⟩ := mem_awaited.mp waits
    cases phase.symm.trans hasking
    have hfits := sound.worker.fits
    rw [Worker.Fits, phase, waiting] at hfits
    have hread : ((u.shared.channel.writeText text).setState .ready).readText =
        Channel.readBack capacity text := by
      rw [Channel.readText_setState, Channel.readText_writeText, hsound.shared.capacity]
    rw [← hread]
    exact Asking.outcome?_ready sent hfits (Channel.state_setState _ _)
  obtain ⟨t, handed, ht⟩ := hfinal.deliver hphase houtcome (by simp)
  refine ⟨_, t, (received.trans submitted).trans handed, ?_, ?_, ht⟩
  · intro deed hdeed
    rcases List.mem_append.mp hdeed with hdeed | hdeed
    · rcases List.mem_append.mp hdeed with hdeed | hdeed
      · exact ⟨(hdeeds deed hdeed).1, (hdeeds deed hdeed).2.mono fun _ => .inl⟩
      · simp only [List.mem_cons, List.not_mem_nil, or_false] at hdeed
        rcases hdeed with rfl | rfl
        · exact ⟨trivial, .inr rfl⟩
        · exact ⟨trivial, trivial⟩
    · obtain rfl := List.mem_singleton.mp hdeed
      exact ⟨trivial, trivial⟩
  · simp only [Deed.returns_append, hreturns]
    rfl

/-! ### All courses -/

/-- No request waits for nothing, whatever the order of all steps, as long as the channel is left to
the calls. While no call is under way, a request that has told the foreground and waits is one of
the current and active run; the foreground is going to receive it or has it pending, and by
receiving and answering it can release the worker. Once a run was given up, by the start of another
one or by the close, its requests do not wait, and the worker leaves them by itself unless the
foreground is just about to wake it. -/
theorem no_orphaned_wait {s₀ : Runner} (hspawn : spawn capacity = .ok s₀)
    (course : Course interpreter s₀ h s)
    (hdeeds : ∀ deed ∈ h, deed.Calls (· ≠ .reset) ∧ deed.Honest) {stage : Asking}
    {next : String → Dialogue Ending}
    (phase : s.worker.phase = .asking request stage next) (sent : stage.hasSent = true) :
    (s.foreground.isFree = true → s.shared.channel.state = .waiting →
      request.run = s.shared.generation ∧ s.foreground.active = some request.run ∧
      Xor (.event (.requested request) ∈ s.shared.inbox) (s.foreground.pending = some request) ∧
      ∀ text, ∃ h t, Course interpreter s h t ∧
        (∀ deed ∈ h, deed.Unaided ∧ deed.Calls fun call => call = .receive ∨ call = .submit text) ∧
        Deed.returns h = [(request, Channel.readBack capacity text)] ∧
        t.worker.phase = .running request.run (next (Channel.readBack capacity text))) ∧
    (s.foreground.activity.isResetting = false →
      request.run ≠ s.shared.generation ∨ s.foreground.activity.isDeparting = true →
      s.shared.channel.state = .idle ∧
      (s.foreground.activity.isRousing = false →
        ∃ text t, Course interpreter s [.handed request text] t)) := by
  obtain ⟨sound, agreed⟩ :=
    (agreed_of_spawn hspawn).course (sound_of_spawn hspawn) course hdeeds
  have hidle (reset : s.foreground.activity.isResetting = false)
      (stale : request.run ≠ s.shared.generation) : s.shared.channel.state = .idle :=
    agreed.idle_of_stale reset phase sent stale
  constructor
  · intro free waiting
    have current : request.run = s.shared.generation := by
      by_contra stale
      cases waiting.symm.trans (hidle (Foreground.isResetting_of_isFree free) stale)
    have waits := mem_awaited.mpr ⟨stage, next, phase, sent, waiting, current⟩
    exact ⟨current, (agreed.active_of_mem_awaited waits).1, agreed.sent_or_pending free waits,
      agreed.release sound free phase waits⟩
  · intro reset given
    have stale : request.run ≠ s.shared.generation := by
      rcases given with stale | departing
      · exact stale
      · intro current
        refine agreed.cleared (.inr departing) ?_
        simp [tasks, Worker.run?, phase, current]
    have idle := hidle reset stale
    exact ⟨idle, sound.leave phase sent (by simp [idle])⟩

theorem no_orphaned_wait_question :
    ∃ s₀ h s next, spawn 16 = .ok s₀ ∧ Course Interpreter.survey s₀ h s ∧
      s.worker.phase = .asking ⟨1, 1, "name"⟩ .asleep next ∧ s.shared.channel.state = .waiting ∧
      Xor (.event (.requested ⟨1, 1, "name"⟩) ∈ s.shared.inbox)
        (s.foreground.pending = some ⟨1, 1, "name"⟩) ∧
      ∃ h' t, Course Interpreter.survey s h' t ∧
        t.worker.phase = .running 1 (next (Channel.readBack 16 "Ann")) := by
  have hseen : ((spawn 16).toOption.bind (follow? Interpreter.survey question)).map
      (fun p => (p.1, p.2.foreground.isFree, p.2.shared.channel.state, p.2.worker.request?,
        p.2.worker.isAsleep)) =
      some ([.called none (.start "name"), .replied (.started 1), .asked ⟨1, 1, "name"⟩],
        true, .waiting, some ⟨1, 1, "name"⟩, true) := by
    decide +kernel
  obtain ⟨s₀, h, s, hspawn, course, hview⟩ := course_of_spawn hseen
  simp only [Prod.mk.injEq] at hview
  obtain ⟨rfl, hfree, waiting, hrequest, hasleep⟩ := hview
  obtain ⟨request, next, hphase⟩ := Worker.exists_of_isAsleep hasleep
  rw [Worker.request?, hphase] at hrequest
  obtain rfl := Option.some.inj hrequest
  obtain ⟨_, _, hxor, hrelease⟩ :=
    (no_orphaned_wait hspawn course (by simp [Deed.Calls, Deed.Honest]) hphase rfl).1 hfree waiting
  obtain ⟨h', t, course', _, _, ht⟩ := hrelease "Ann"
  exact ⟨s₀, _, s, next, hspawn, course, hphase, waiting, hxor, h', t, course', ht⟩

end Runner

end Pseudocode
