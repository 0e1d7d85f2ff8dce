import Pseudocode.Proofs.Patience
import Pseudocode.Proofs.Runner.Rest

/-!
What a runner lets be heard of a run is what its program says by itself, whatever was before and in
whatever order the two sides move. Nothing of it is lost: a foreground that receives, and answers
what it is asked, can always go on until it has heard all.
-/

namespace Pseudocode

namespace Runner

/-- A run is the current one, and `rest` is still to be heard of it. -/
structure Underway (interpreter : Interpreter) (capacity run : Nat) (answers : List String)
    (s : Runner) (rest : List Remark) : Prop where
  current : s.shared.generation = run
  sound : Sound capacity s
  agreed : s.Agreed
  lasting : s.Lasting
  prospect : Prospect interpreter capacity answers s rest

variable {interpreter : Interpreter} {capacity run : Nat} {answers : List String} {s t : Runner}
  {h deeds : List Deed} {rest : List Remark} {source : String}

theorem Underway.there (underway : Underway interpreter capacity run answers s rest) :
    s.worker.hasStopped = false := by
  have hstays := (Activity.stays_of_isAttending underway.prospect.attending).1
  refine (underway.lasting.resolve_left fun leaving => ?_).1.hasStopped
  cases hstays.symm.trans leaving

section

variable (sturdy : ∀ source, (interpreter source).Ends (fun _ => True) (· ≠ .crashed))

include sturdy

theorem Underway.move (underway : Underway interpreter capacity run answers s rest)
    (move : Move interpreter s deeds t)
    (hdeeds : ∀ deed ∈ deeds, deed.Calls (·.isAttending = true) ∧ deed.Honest)
    (gives : Deed.Gives answers deeds) :
    ∃ rest', rest = Deed.remarks run deeds ++ rest' ∧
      Underway interpreter capacity run (answers.drop (Deed.submissions deeds).length) t rest' := by
  have there := underway.there
  obtain ⟨rfl, sound, agreed, lasting, prospect⟩ := underway
  obtain ⟨rest', hrest, hprospect, hgeneration⟩ :=
    prospect.move sound agreed there move hdeeds gives
  refine ⟨rest', hrest, hgeneration, ?_, ?_, lasting.move sound sturdy move, hprospect⟩
  · exact sound.move move fun deed hdeed => (hdeeds deed hdeed).2
  · refine agreed.move sound move ?_
    intro deed hdeed
    refine ⟨(hdeeds deed hdeed).1.mono ?_, (hdeeds deed hdeed).2⟩
    rintro _ hattending rfl
    cases hattending

/-- Along a course in which the foreground attends to the run, what is heard and what is still to be
heard stay the same together. -/
theorem Underway.course (underway : Underway interpreter capacity run answers s rest)
    (course : Course interpreter s h t)
    (hdeeds : ∀ deed ∈ h, deed.Calls (·.isAttending = true) ∧ deed.Honest)
    (gives : Deed.Gives answers h) :
    ∃ rest', rest = Deed.remarks run h ++ rest' ∧
      Underway interpreter capacity run (answers.drop (Deed.submissions h).length) t rest' := by
  induction course with
  | rest => exact ⟨rest, rfl, underway⟩
  | move course move ih =>
      obtain ⟨hbefore, hlast⟩ := Deed.gives_append.mp gives
      obtain ⟨rest', rfl, hunderway⟩ :=
        ih (fun deed hdeed => hdeeds deed (List.mem_append_left _ hdeed)) hbefore
      obtain ⟨rest'', rfl, hafter⟩ := hunderway.move sturdy move
        (fun deed hdeed => hdeeds deed (List.mem_append_right _ hdeed)) hlast
      refine ⟨rest'', by simp, ?_⟩
      rw [Deed.submissions_append, List.length_append, ← List.drop_drop]
      exact hafter

end

/-- When a run becomes the current one, all that its program says is still to be heard. -/
theorem Sound.underway_supersede (sound : Sound capacity s) (lasting : s.Lasting)
    (activity : s.foreground.activity = .superseding (some source)) (answers : List String) :
    Underway interpreter capacity (s.shared.generation + 1) answers (s.supersede (some source))
      ((interpreter source).remarks capacity answers) := by
  have hstep : s.foregroundStep? = some (s.supersede (some source)) := by
    simp [foregroundStep?, activity]
  have act := act_of_foregroundStep? sound.shared.channel hstep
  refine ⟨rfl, sound.act act, sound.agreed_supersede _, lasting.act act, rfl, ?_, .inl rfl,
    Dialogue.pairwise_remarks ..⟩
  have hnews : (s.supersede (some source)).news = [] := by
    refine List.filterMap_eq_nil_iff.mpr fun message hmessage => ?_
    refine Option.eq_none_iff_forall_ne_some.mpr fun remark hremark => ?_
    obtain ⟨event, rfl, hrun, _⟩ := Message.remark?_eq_some hremark
    refine sound.known_ne_succ _ (List.mem_append_right _ (List.mem_append_left _ ?_)) rfl
    exact List.mem_filterMap.mpr ⟨_, hmessage, hrun⟩
  exact ⟨_, .ordering rfl, by rw [hnews, List.nil_append]⟩

end Runner

/-- Whether a call, if the deed begins one, is the answer to the pending request, or with none
pending a call that receives. -/
def Deed.Obliges : Deed → Prop
  | called (some _) call => ∃ text, call = .submit text
  | called none call => call = .receive ∨ call = .poll
  | _ => True

theorem Deed.Obliges.calls {deed : Deed} (h : deed.Obliges) : deed.Calls (·.isAttending = true) := by
  cases deed with
  | called pending call =>
      cases pending with
      | none => rcases h with rfl | rfl <;> rfl
      | some request =>
          obtain ⟨text, rfl⟩ := h
          rfl
  | _ => trivial

theorem Deed.IsAside.obliges {deed : Deed} (h : deed.IsAside) : deed.Obliges := by
  cases deed with
  | called => exact h.elim
  | _ => trivial

theorem Deed.submissions_of_isAside {h : List Deed} (aside : ∀ deed ∈ h, deed.IsAside) :
    submissions h = [] := by
  refine List.filterMap_eq_nil_iff.mpr fun deed hdeed => ?_
  have haside := aside deed hdeed
  cases deed with
  | called => exact haside.elim
  | _ => rfl

theorem Deed.remarks_of_isAside (run : Nat) {h : List Deed} (aside : ∀ deed ∈ h, deed.IsAside) :
    remarks run h = [] := by
  refine List.filterMap_eq_nil_iff.mpr fun deed hdeed => ?_
  have haside := aside deed hdeed
  cases deed with
  | replied => exact haside.elim
  | _ => rfl

theorem Deed.gives_of_submissions_eq_nil {answers : List String} {h : List Deed}
    (hnone : submissions h = []) : Gives answers h := by
  intro i request text hi
  rw [hnone] at hi
  cases hi

theorem Deed.gives_submit {answers : List String} (request : Request) :
    Gives answers [.called (some request) (.submit (answers.headD "")), .replied (.answered true)] := by
  intro i request' text hi
  cases i with
  | zero =>
      cases hi
      cases answers <;> rfl
  | succ i => cases hi

/-- How many steps of its own a call has left before it returns or takes a message. -/
def Activity.stepsToReady : Activity → Nat
  | .resetting _ => 3
  | .waking _ => 2
  | .ordering _ => 1
  | .answering _ _ .looking => 5
  | .answering _ _ .writing => 4
  | .answering _ _ .announcing => 3
  | .answering _ _ .waking => 2
  | .answering _ _ (.returned _) => 1
  | .probing _ => 1
  | .idle | .superseding _ | .joining | .taking _ | .returned _ | .closed => 0

theorem Foreground.ready_of_stepsToReady {c : Foreground}
    (attending : c.activity.isAttending = true) (settled : c.activity.stepsToReady = 0) :
    c.isFree = true ∨ ∃ patient, c.activity = .taking patient := by
  unfold isFree
  cases hactivity : c.activity with
  | idle | returned => exact .inl rfl
  | taking patient => exact .inr ⟨patient, rfl⟩
  | superseding | joining | closed =>
      rw [hactivity] at attending
      cases attending
  | resetting | waking | ordering | probing =>
      rw [hactivity] at settled
      cases settled
  | answering request text stage =>
      rw [hactivity] at settled
      cases stage <;> cases settled

namespace Runner

/-- Whether the foreground receives only while no request is pending. -/
def Obliged (s : Runner) : Prop :=
  ∀ patient, s.foreground.activity = .taking patient ∨ s.foreground.activity = .probing patient →
    s.foreground.pending = none

variable {interpreter : Interpreter} {capacity run : Nat} {answers : List String} {s t : Runner}
  {h deeds : List Deed} {rest : List Remark} {source : String}

theorem Obliged.act (obliged : s.Obliged) (act : Act s t) : t.Obliged := by
  cases act with
  | takeNothing => exact fun patient _ => obliged _ (.inl rfl)
  | retry => exact fun patient _ => obliged _ (.inr rfl)
  | drop => exact fun patient _ => obliged _ (.inl rfl)
  | _ => simp [Obliged]

theorem Obliged.move (obliged : s.Obliged) (sound : Sound capacity s)
    (move : Move interpreter s deeds t) (hdeeds : ∀ deed ∈ deeds, deed.Obliges) : t.Obliged := by
  cases move with
  | call call free =>
      have hcall := hdeeds _ List.mem_cons_self
      cases hpending : s.foreground.pending with
      | none =>
          rw [hpending] at hcall
          rcases hcall with rfl | rfl <;> exact fun _ _ => hpending
      | some request =>
          rw [hpending] at hcall
          obtain ⟨text, rfl⟩ := hcall
          simp [Obliged, Runner.begin, Foreground.begin, hpending]
  | foreground h => exact obliged.act (act_of_foregroundStep? sound.shared.channel h)
  | worker h =>
      obtain ⟨shared, worker, _, rfl⟩ := sound.turn_of_workerStep? h
      exact obliged
  | spurious | post => exact obliged

/-! ### Hearing all -/

/-- Whether a foreground that receives, and answers what it is asked, can go on until it has heard
`rest` of a run. -/
def CanHear (interpreter : Interpreter) (run : Nat) (answers : List String) (s : Runner)
    (rest : List Remark) : Prop :=
  ∃ h t, Course interpreter s h t ∧ (∀ deed ∈ h, deed.Obliges ∧ deed.Unaided) ∧
    Deed.Gives answers h ∧ Deed.remarks run h = rest

theorem CanHear.after {rest' : List Remark}
    (can : CanHear interpreter run (answers.drop (Deed.submissions h).length) t rest')
    (course : Course interpreter s h t) (hdeeds : ∀ deed ∈ h, deed.Obliges ∧ deed.Unaided)
    (gives : Deed.Gives answers h) :
    CanHear interpreter run answers s (Deed.remarks run h ++ rest') := by
  obtain ⟨h', u, course', hdeeds', gives', hheard⟩ := can
  refine ⟨h ++ h', u, course.trans course', ?_, Deed.gives_append.mpr ⟨gives, gives'⟩, ?_⟩
  · exact List.forall_mem_append.mpr ⟨hdeeds, hdeeds'⟩
  · rw [Deed.remarks_append, hheard]

theorem foregroundStep?_of_stepsToReady (h : 0 < s.foreground.activity.stepsToReady) :
    ∃ t, s.foregroundStep? = some t := by
  unfold foregroundStep?
  cases hactivity : s.foreground.activity with
  | resetting | waking | ordering | answering | probing => exact ⟨_, rfl⟩
  | idle | returned | superseding | joining | taking | closed =>
      rw [hactivity] at h
      cases h

theorem Act.stepsToReady (act : Act s t) (h : 0 < s.foreground.activity.stepsToReady) :
    t.foreground.activity.stepsToReady < s.foreground.activity.stepsToReady := by
  cases act with
  | supersede | depart | join | takeNothing | drop | hear | readLine => cases h
  | _ => simp [Activity.stepsToReady]

/-- Whether the foreground can go on by receiving alone until it has heard something of a run. -/
def HearsSome (interpreter : Interpreter) (run : Nat) (s : Runner) : Prop :=
  ∃ h t, Course interpreter s h t ∧ (∀ deed ∈ h, deed.Obliges ∧ deed.Unaided) ∧
    Deed.submissions h = [] ∧ Deed.remarks run h ≠ [] ∧ t.foreground.isFree = true

theorem HearsSome.after (hears : HearsSome interpreter run t) (move : Move interpreter s deeds t)
    (hdeeds : ∀ deed ∈ deeds, deed.Obliges ∧ deed.Unaided) (hnone : Deed.submissions deeds = []) :
    HearsSome interpreter run s := by
  obtain ⟨h, u, course, hdeeds', hnone', hheard, hfree⟩ := hears
  refine ⟨_, u, course.cons move, ?_, ?_, ?_, hfree⟩
  · exact List.forall_mem_append.mpr ⟨hdeeds, hdeeds'⟩
  · rw [Deed.submissions_append, hnone, hnone', List.append_nil]
  · rw [Deed.remarks_append]
    exact fun hnil => hheard (List.append_eq_nil_iff.mp hnil).2

/-- What is admitted and says nothing of the current run is that the channel is there. -/
theorem Agreed.ready_of_remark? (agreed : s.Agreed)
    (attending : s.foreground.activity.isAttending = true) {event : Event}
    (admitted : ∀ run, event.run? = some run → s.foreground.active = some run)
    (silent : Message.remark? s.shared.generation (.event event) = none) : event = .ready := by
  have hcurrent {run : Nat} (h : event.run? = some run) : run = s.shared.generation := by
    refine (agreed.active run (admitted run h)).resolve_right fun departing => ?_
    cases (Activity.stays_of_isAttending attending).2.symm.trans departing
  cases event with
  | ready => rfl
  | requested | produced | finished | failed =>
      have hrun := hcurrent rfl
      simp [Message.remark?, Event.run?, Event.remark?, hrun] at silent

section

variable (sturdy : ∀ source, (interpreter source).Ends (fun _ => True) (· ≠ .crashed))

include sturdy

/-- What can be heard after some steps can be heard. -/
theorem Underway.canHear_of (underway : Underway interpreter capacity run answers s rest)
    (course : Course interpreter s h t) (hdeeds : ∀ deed ∈ h, deed.Obliges ∧ deed.Unaided)
    (gives : Deed.Gives answers h)
    (can : ∀ rest', rest = Deed.remarks run h ++ rest' →
      Underway interpreter capacity run (answers.drop (Deed.submissions h).length) t rest' →
      CanHear interpreter run (answers.drop (Deed.submissions h).length) t rest') :
    CanHear interpreter run answers s rest := by
  obtain ⟨rest', rfl, hunderway⟩ := underway.course sturdy course
    (fun deed hdeed => ⟨(hdeeds deed hdeed).1.calls, (hdeeds deed hdeed).2.honest⟩) gives
  exact (can rest' rfl hunderway).after course hdeeds gives

/-- If all can be heard once the worker is at rest, all can be heard. -/
theorem Underway.canHear_of_rest (underway : Underway interpreter capacity run answers s rest)
    (can : ∀ t, t.foreground = s.foreground → t.workerStep? interpreter = none →
      Underway interpreter capacity run answers t rest → CanHear interpreter run answers t rest) :
    CanHear interpreter run answers s rest := by
  obtain ⟨h, t, course, hdeeds, hforeground, hrest⟩ : s.ComesToRest interpreter :=
    underway.sound.worker_comesToRest
  have haside : ∀ deed ∈ h, deed.IsAside := fun deed hdeed => (hdeeds deed hdeed).1
  have hsubmissions := Deed.submissions_of_isAside haside
  refine underway.canHear_of sturdy course (fun deed hdeed => (hdeeds deed hdeed).imp_left
    Deed.IsAside.obliges) (Deed.gives_of_submissions_eq_nil hsubmissions) ?_
  rw [hsubmissions, Deed.remarks_of_isAside run haside]
  rintro _ rfl hunderway
  exact can t hforeground hrest hunderway

/-- A foreground that keeps receiving hears what the inbox says of the run, at least the first of
it. -/
theorem Underway.hearsSome (underway : Underway interpreter capacity run answers s rest)
    {inbox : List Message} (hinbox : s.shared.inbox = inbox) {patient : Bool}
    (taking : s.foreground.activity = .taking patient) (pending : s.foreground.pending = none)
    (news : s.news ≠ []) : HearsSome interpreter run s := by
  induction inbox generalizing s rest patient with
  | nil =>
      rw [Runner.news, hinbox] at news
      exact (news rfl).elim
  | cons message inbox ih =>
      have hstep : s.foregroundStep? = some (s.take patient) := by simp [foregroundStep?, taking]
      have act := act_of_foregroundStep? underway.sound.shared.channel hstep
      have move : Move interpreter s _ _ := .foreground hstep
      have hdeeds : ∀ deed ∈ (s.take patient).foreground.deeds, deed.Obliges ∧ deed.Unaided := by
        simp [Foreground.deeds, Deed.Obliges, Deed.Unaided]
      have hnone := Deed.submissions_foreground (s.take patient).foreground
      obtain ⟨rest', -, hunderway⟩ := underway.move sturdy move
        (fun deed hdeed => ⟨(hdeeds deed hdeed).1.calls, (hdeeds deed hdeed).2.honest⟩)
        (Deed.gives_of_submissions_eq_nil hnone)
      rw [hnone] at hunderway
      -- After a message that says nothing of the run the foreground receives again.
      have hagain {t : Runner} (underway : Underway interpreter capacity run answers t rest')
          (free : t.foreground.isFree = true) (pending : t.foreground.pending = none)
          (hrest : t.shared.inbox = inbox) (news : t.news ≠ []) : HearsSome interpreter run t := by
        have call : Move interpreter t [.called t.foreground.pending .receive] (t.begin .receive) :=
          .call .receive free
        rw [pending] at call
        obtain ⟨_, _, hbegin⟩ := underway.move sturdy call
          (by simp [Deed.Calls, Call.isAttending, Deed.Honest])
          (Deed.gives_of_submissions_eq_nil rfl)
        refine (ih hbegin hrest rfl pending news).after call ?_ rfl
        simp [Deed.Obliges, Deed.Unaided]
      generalize s.take patient = t at act move hdeeds hnone hunderway
      cases act with
      | drop s w c first named other =>
          cases first.symm.trans hinbox
          rw [news_cons first, underway.prospect.dropped first named other] at news
          exact (ih hunderway rfl rfl pending news).after move hdeeds hnone
      | hear s w c first admitted =>
          rename_i patient' event inbox'
          cases first.symm.trans hinbox
          have hheard : Deed.remarks run [.replied (.received (.event event))] =
              (Message.remark? run (.event event)).toList := Deed.remarks_received run _
          cases hremark : Message.remark? run (.event event) with
          | some remark =>
              rw [hremark] at hheard
              refine ⟨_, _, Course.single move, hdeeds, hnone, ?_, rfl⟩
              exact fun hnil => List.cons_ne_nil _ _ (hheard.symm.trans hnil)
          | none =>
              obtain rfl := underway.current
              rw [news_cons first, show Message.remark? _ _ = none from hremark] at news
              obtain rfl : event = .ready := underway.agreed.ready_of_remark? rfl admitted hremark
              exact (hagain hunderway rfl pending rfl news).after move hdeeds hnone
      | readLine s w c first plain =>
          cases first.symm.trans hinbox
          rw [news_cons first, Message.remark?_of_plain plain] at news
          exact (hagain hunderway rfl pending rfl news).after move hdeeds hnone
      | takeNothing s w c empty => cases empty.symm.trans hinbox
      | _ => cases taking

/-- A foreground that receives while the worker is at rest hears something, unless it has heard
all. -/
theorem Underway.hearsSome_at_rest (underway : Underway interpreter capacity run answers s rest)
    (resting : s.workerStep? interpreter = none) (pending : s.foreground.pending = none)
    (hrest : rest ≠ [])
    (ready : s.foreground.isFree = true ∨ ∃ patient, s.foreground.activity = .taking patient) :
    HearsSome interpreter run s := by
  have hquiet : s.foreground.activity.isQuiet = true := by
    rcases ready with free | ⟨patient, taking⟩
    · exact Foreground.isQuiet_of_isFree free
    · rw [taking]
      rfl
  have news : s.news ≠ [] := by
    rcases underway.prospect.said_or_awaited underway.sound underway.agreed underway.lasting hquiet
      resting with hsaid | ⟨request, waits⟩
    · rwa [← hsaid]
    · have current := run_of_mem_awaited waits
      have hsent := underway.agreed.sent_of_quiet hquiet pending waits
      refine List.ne_nil_of_mem (List.mem_filterMap.mpr ⟨_, hsent, ?_⟩) (a := .prompt request.prompt)
      simp [Message.remark?, Event.run?, Event.remark?, current]
  rcases ready with free | ⟨patient, taking⟩
  · have call : Move interpreter s [.called s.foreground.pending .receive] (s.begin .receive) :=
      .call .receive free
    rw [pending] at call
    obtain ⟨_, _, hbegin⟩ := underway.move sturdy call
      (by simp [Deed.Calls, Call.isAttending, Deed.Honest]) (Deed.gives_of_submissions_eq_nil rfl)
    refine (hbegin.hearsSome sturdy rfl rfl pending news).after call ?_ rfl
    simp [Deed.Obliges, Deed.Unaided]
  · exact underway.hearsSome sturdy rfl taking pending news

/-- All can be heard between two calls, and while a message is awaited. -/
theorem Underway.canHear_of_ready (underway : Underway interpreter capacity run answers s rest)
    (ready : s.foreground.isFree = true ∨
      (s.foreground.pending = none ∧ ∃ patient, s.foreground.activity = .taking patient)) :
    CanHear interpreter run answers s rest := by
  induction hlength : rest.length using Nat.strongRecOn generalizing s answers rest with
  | ind n ih =>
      by_cases hrest : rest = []
      · subst hrest
        exact ⟨[], s, .rest, by simp, Deed.gives_of_submissions_eq_nil rfl, rfl⟩
      -- With no request pending the worker goes on until there is something to hear.
      have hreceive {s : Runner} {answers : List String}
          (underway : Underway interpreter capacity run answers s rest)
          (pending : s.foreground.pending = none)
          (ready : s.foreground.isFree = true ∨
            ∃ patient, s.foreground.activity = .taking patient) :
          CanHear interpreter run answers s rest := by
        refine underway.canHear_of_rest sturdy fun t hforeground resting hunderway => ?_
        rw [← hforeground] at pending ready
        obtain ⟨h, u, course, hdeeds, hnone, hheard, hfree⟩ :=
          hunderway.hearsSome_at_rest sturdy resting pending hrest ready
        refine hunderway.canHear_of sturdy course hdeeds (Deed.gives_of_submissions_eq_nil hnone) ?_
        intro rest' heq hafter
        refine ih rest'.length ?_ hafter (.inl hfree) rfl
        rw [← hlength, heq, List.length_append]
        exact Nat.lt_add_of_pos_left (List.length_pos_of_ne_nil hheard)
      cases hpending : s.foreground.pending with
      | none => exact hreceive underway hpending (ready.imp_right And.right)
      | some request =>
          have free : s.foreground.isFree = true := by
            refine ready.resolve_right fun hready => ?_
            cases hpending.symm.trans hready.1
          have course : Course interpreter s _ _ :=
            underway.agreed.submit_course underway.sound free hpending (answers.headD "")
          refine underway.canHear_of sturdy course ?_ (Deed.gives_submit request) ?_
          · simp [Deed.Obliges, Deed.Unaided]
          · rintro rest' rfl hafter
            exact hreceive hafter rfl (.inl rfl)

/-- All can be heard. -/
theorem Underway.canHear (underway : Underway interpreter capacity run answers s rest)
    (obliged : s.Obliged) : CanHear interpreter run answers s rest := by
  induction hsteps : s.foreground.activity.stepsToReady using Nat.strongRecOn
    generalizing s rest with
  | ind n ih =>
      have hattending := underway.prospect.attending
      by_cases hzero : n = 0
      · refine underway.canHear_of_ready sturdy ?_
        refine (Foreground.ready_of_stepsToReady hattending (hsteps.trans hzero)).imp_right ?_
        rintro ⟨patient, taking⟩
        exact ⟨obliged patient (.inl taking), patient, taking⟩
      · have hmoving : 0 < s.foreground.activity.stepsToReady := by omega
        obtain ⟨t, hstep⟩ := foregroundStep?_of_stepsToReady hmoving
        have act := act_of_foregroundStep? underway.sound.shared.channel hstep
        have hnone := Deed.submissions_foreground t.foreground
        refine underway.canHear_of sturdy (Course.single (.foreground hstep)) ?_
          (Deed.gives_of_submissions_eq_nil hnone) ?_
        · simp [Foreground.deeds, Deed.Obliges, Deed.Unaided]
        · rw [hnone]
          intro rest' _ hafter
          exact ih _ (hsteps ▸ act.stepsToReady hmoving) hafter (obliged.act act) rfl

end

/-! ### From the start -/

/-- Whether the foreground has still to make its start of a run known. -/
structure Starting (capacity run : Nat) (source : String) (h : List Deed) (s : Runner) : Prop where
  next : s.shared.generation + 1 = run
  activity : s.foreground.activity = .superseding (some source)
  sound : Sound capacity s
  lasting : s.Lasting
  aside : ∀ deed ∈ h, deed.IsAside

theorem Starting.move (sturdy : ∀ source, (interpreter source).Ends (fun _ => True) (· ≠ .crashed))
    (starting : Starting capacity run source h s) (move : Move interpreter s deeds t)
    (honest : ∀ deed ∈ deeds, deed.Honest) (answers : List String) :
    Starting capacity run source (h ++ deeds) t ∨ (deeds = [] ∧
      Underway interpreter capacity run answers t
        ((interpreter source).remarks capacity answers)) := by
  have hsound := starting.sound.move move honest
  have hlasting := starting.lasting.move starting.sound sturdy move
  obtain ⟨next, activity, sound, lasting, aside⟩ := starting
  have haside (hdeeds : ∀ deed ∈ deeds, deed.IsAside) : ∀ deed ∈ h ++ deeds, deed.IsAside :=
    fun deed hdeed => (List.mem_append.mp hdeed).elim (aside deed) (hdeeds deed)
  cases move with
  | call call free => simp [Foreground.isFree, activity] at free
  | foreground hstep =>
      simp only [foregroundStep?, activity, Option.some.injEq] at hstep
      obtain rfl := hstep
      obtain rfl := next
      exact .inr ⟨rfl, sound.underway_supersede lasting activity answers⟩
  | worker hstep =>
      obtain ⟨shared, worker, turn, rfl⟩ := sound.turn_of_workerStep? hstep
      refine .inl ⟨turn.generation ▸ next, activity, hsound, hlasting, haside ?_⟩
      exact fun deed hdeed => (isAside_worker_deeds s.worker deed hdeed).1
  | spurious => exact .inl ⟨next, activity, hsound, hlasting, haside (by simp [Deed.IsAside])⟩
  | post => exact .inl ⟨next, activity, hsound, hlasting, haside (by simp [Deed.IsAside])⟩

/-- The run that a start names is the current one. -/
theorem Agreed.started (agreed : s.Agreed) (sound : Sound capacity s)
    (move : Move interpreter s deeds t) (h : .replied (.started run) ∈ deeds) :
    run = s.shared.generation := by
  cases move with
  | call call free =>
      cases call with
      | submit text =>
          cases hpending : s.foreground.pending <;>
            simp [Runner.begin, Foreground.begin, Foreground.deeds, Foreground.reply?, hpending] at h
      | start | receive | poll | reset | close =>
          simp [Runner.begin, Foreground.begin, Foreground.deeds, Foreground.reply?] at h
  | foreground hstep =>
      have act := act_of_foregroundStep? sound.shared.channel hstep
      cases act with
      | order s w c =>
          cases List.mem_singleton.mp h
          exact agreed.ordered run rfl
      | _ => simp [Foreground.deeds, Foreground.reply?] at h
  | worker hstep => exact ((isAside_worker_deeds _ _ h).1).elim
  | spurious | post => cases List.mem_singleton.mp h

/-- From the start of a run on, all that its program says is heard or still to be heard. -/
theorem Starting.course
    (sturdy : ∀ source, (interpreter source).Ends (fun _ => True) (· ≠ .crashed))
    (starting : Starting capacity run source [] s) (course : Course interpreter s h t)
    (hdeeds : ∀ deed ∈ h, deed.Calls (·.isAttending = true) ∧ deed.Honest)
    (gives : Deed.Gives answers h) :
    Starting capacity run source h t ∨
      ∃ rest, (interpreter source).remarks capacity answers = Deed.remarks run h ++ rest ∧
        Underway interpreter capacity run (answers.drop (Deed.submissions h).length) t rest ∧
        ∀ run', .replied (.started run') ∈ h → run' = run := by
  induction course with
  | rest => exact .inl starting
  | move course move ih =>
      obtain ⟨hbefore, hlast⟩ := Deed.gives_append.mp gives
      have hdeeds' := fun deed hdeed => hdeeds deed (List.mem_append_right _ hdeed)
      rcases ih (fun deed hdeed => hdeeds deed (List.mem_append_left _ hdeed)) hbefore with
        hstarting | ⟨rest, hrest, hunderway, hnamed⟩
      · have haside := hstarting.aside
        refine (hstarting.move sturdy move (fun deed hdeed => (hdeeds' deed hdeed).2)
          answers).imp_right ?_
        rintro ⟨rfl, hunderway⟩
        rw [List.append_nil, Deed.remarks_of_isAside run haside, Deed.submissions_of_isAside haside]
        exact ⟨_, rfl, hunderway, fun _ hmem => (haside _ hmem).elim⟩
      · obtain ⟨rest', rfl, hafter⟩ := hunderway.move sturdy move hdeeds' hlast
        refine .inr ⟨rest', by simp [hrest], ?_, fun run' hmem => ?_⟩
        · rw [Deed.submissions_append, List.length_append, ← List.drop_drop]
          exact hafter
        · rcases List.mem_append.mp hmem with hmem | hmem
          · exact hnamed run' hmem
          · exact (hunderway.agreed.started hunderway.sound move hmem).trans hunderway.current

theorem Obliged.course (obliged : s.Obliged) (sound : Sound capacity s)
    (course : Course interpreter s h t) (hdeeds : ∀ deed ∈ h, deed.Obliges ∧ deed.Honest) :
    t.Obliged := by
  refine (course.invariant (P := fun _ t => Sound capacity t ∧ t.Obliged) hdeeds
    ⟨sound, obliged⟩ ?_).2
  rintro _ _ _ _ ⟨sound, obliged⟩ move hdeeds
  exact ⟨sound.move move fun deed hdeed => (hdeeds deed hdeed).2,
    obliged.move sound move fun deed hdeed => (hdeeds deed hdeed).1⟩

theorem lasting_of_course {s₀ : Runner}
    (sturdy : ∀ source, (interpreter source).Ends (fun _ => True) (· ≠ .crashed))
    (hspawn : spawn capacity = .ok s₀) (course : Course interpreter s₀ h s)
    (honest : ∀ deed ∈ h, deed.Honest) : Sound capacity s ∧ s.Lasting := by
  refine course.invariant (P := fun _ t => Sound capacity t ∧ t.Lasting) honest
    ⟨sound_of_spawn hspawn, lasting_of_spawn hspawn⟩ ?_
  rintro _ _ _ _ ⟨sound, lasting⟩ move honest
  exact ⟨sound.move move honest, lasting.move sound sturdy move⟩

/-- A run that is started on a runner with any history, and then only received from and answered,
lets exactly those prompts and outputs be heard, in their order, that its program makes by itself on
a host that never cancels and reads each answer back from a channel of the same capacity. They are
followed by the one message that tells how the program ended, and by none if the program was cut off
in a loop. At each point a part of this from the beginning has been heard, and the foreground can go
on to hear all; and the more passes a loop is given, the more is said before it is cut off. -/
theorem refines_interpreter {patience : Nat} {s₀ : Runner} {h₀ : List Deed}
    (hspawn : spawn capacity = .ok s₀) (before : Course (.script patience) s₀ h₀ s)
    (honest : ∀ deed ∈ h₀, deed.Honest) (free : s.foreground.isFree = true)
    (course : Course (.script patience) (s.begin (.start source)) h t)
    (hdeeds : ∀ deed ∈ h, deed.Obliges ∧ deed.Honest) (gives : Deed.Gives answers h)
    (started : .replied (.started run) ∈ h) :
    ∃ ending unused said,
      (Interpreter.script patience source).runOn (.steady capacity) (answers, []) =
        (ending, unused, said) ∧
      (∀ remark ∈ said, remark.isTerminal = false) ∧
      ((∃ last, ending.remark? = some last ∧ last.isTerminal = true) ∨ ending = .exhausted) ∧
      (Deed.remarks run h).IsPrefix (said ++ ending.remark?.toList) ∧
      (∃ h' t', Course (.script patience) t h' t' ∧
        (∀ deed ∈ h', deed.Obliges ∧ deed.Unaided) ∧ Deed.Gives answers (h ++ h') ∧
        Deed.remarks run (h ++ h') = said ++ ending.remark?.toList) ∧
      ∀ more, patience ≤ more → (said ++ ending.remark?.toList).IsPrefix
        ((Interpreter.script more source).remarks capacity answers) := by
  have sturdy (source : String) := Interpreter.script_ne_crashed patience source fun _ => True
  obtain ⟨sound, lasting⟩ := lasting_of_course sturdy hspawn before honest
  have hsound := sound.begin free (.start source)
  have hstarting :
      Starting capacity (s.shared.generation + 1) source [] (s.begin (.start source)) :=
    ⟨rfl, rfl, hsound, lasting.begin free _, by simp⟩
  rcases hstarting.course sturdy course
    (fun deed hdeed => (hdeeds deed hdeed).imp_left Deed.Obliges.calls) gives with
    hnot | ⟨rest, hrest, hunderway, hnamed⟩
  · exact (hnot.aside _ started).elim
  obtain rfl := hnamed run started
  have hbegin : (s.begin (.start source)).Obliged := by
    simp [Obliged, Runner.begin, Foreground.begin]
  have hobliged := hbegin.course hsound course hdeeds
  obtain ⟨h', t', course', hdeeds', gives', hheard⟩ := hunderway.canHear sturdy hobliged
  have hsaid := Dialogue.runOn_steady capacity (Interpreter.script patience source) answers []
  rw [List.nil_append] at hsaid
  refine ⟨_, _, _, rfl, ?_, ?_, ?_, ⟨h', t', course', hdeeds', ?_, ?_⟩, fun more hmore => ?_⟩
  · exact Dialogue.not_isTerminal_of_runOn_steady _ _ answers (by simp)
  · exact Interpreter.script_ending patience source capacity answers
  · rw [hsaid, hrest]
    exact List.prefix_append _ _
  · exact Deed.gives_append.mpr ⟨gives, gives'⟩
  · rw [hsaid, hrest, Deed.remarks_append, hheard]
  · rw [hsaid]
    exact Interpreter.script_remarks_prefix hmore source capacity answers

def greeting : String := "input name\noutput name"

/-- A first run of the program falls asleep in its request. -/
def abandoned : List Choice :=
  [.worker, .worker, .call (.start greeting), .foreground, .foreground, .foreground, .foreground] ++
    List.replicate 9 .worker

/-- A second run is started, asks, is answered and tells what it got. -/
def greeted : List Choice :=
  List.replicate 4 .foreground ++ List.replicate 14 .worker ++
    [.call .receive, .foreground, .call .receive, .foreground, .foreground,
      .call (.submit "Anna"), .foreground, .foreground, .foreground, .foreground] ++
    List.replicate 10 .worker ++ [.call .receive, .foreground]

theorem refines_interpreter_greeting :
    ∃ s₀ h₀ s h t, spawn 3 = .ok s₀ ∧ Course (.script 4) s₀ h₀ s ∧
      Course (.script 4) (s.begin (.start greeting)) h t ∧ Deed.Gives ["Anna"] h ∧
      Deed.remarks 2 h = [.prompt "name", .output "An"] ∧
      ∃ h' t', Course (.script 4) t h' t' ∧ Deed.remarks 2 (h ++ h') =
        [.prompt "name", .output "An", .finished Interpreter.summary] := by
  have hseen : ((spawn 3).toOption.bind fun s₀ => (s₀.follow? (.script 4) abandoned).bind fun p =>
      ((p.2.begin (.start greeting)).follow? (.script 4) greeted).map fun q =>
        (p.1, p.2.foreground.isFree, q.1)) = some
      ([.called none (.start greeting), .replied (.started 1), .asked ⟨1, 1, "name"⟩], true,
        [.replied (.started 2), .handed ⟨1, 1, "name"⟩ "", .asked ⟨2, 2, "name"⟩,
          .called none .receive, .replied (.received (.event .ready)),
          .called none .receive, .replied (.received (.event (.requested ⟨2, 2, "name"⟩))),
          .called (some ⟨2, 2, "name"⟩) (.submit "Anna"), .replied (.answered true),
          .handed ⟨2, 2, "name"⟩ "An", .called none .receive,
          .replied (.received (.event (.produced 2 "An")))]) := by
    decide +kernel
  have hsaid : ((Interpreter.script 4 greeting).runOn (.steady 3) (["Anna"], [])).2.2 ++
      ((Interpreter.script 4 greeting).runOn (.steady 3) (["Anna"], [])).1.remark?.toList =
      [.prompt "name", .output "An", .finished Interpreter.summary] := by
    decide +kernel
  cases hspawn : spawn 3 with
  | error error =>
      rw [hspawn] at hseen
      cases hseen
  | ok s₀ =>
      rw [hspawn] at hseen
      obtain ⟨_, hs₀, hseen⟩ := Option.bind_eq_some_iff.mp hseen
      cases hs₀
      obtain ⟨⟨h₀, s⟩, hfirst, hseen⟩ := Option.bind_eq_some_iff.mp hseen
      obtain ⟨⟨h, t⟩, hsecond, hview⟩ := Option.map_eq_some_iff.mp hseen
      simp only [Prod.mk.injEq] at hview
      obtain ⟨rfl, free, hh⟩ := hview
      have before := course_of_follow? hfirst
      have course := course_of_follow? hsecond
      have gives : Deed.Gives ["Anna"] h := by
        rw [hh]
        rintro (_ | i) request text hi
        · cases hi
          rfl
        · cases hi
      have started : .replied (.started 2) ∈ h := by simp [hh]
      obtain ⟨ending, unused, said, hrun, _, _, _, ⟨h', t', course', _, _, hheard⟩, _⟩ :=
        refines_interpreter hspawn before (by simp [Deed.Honest]) free course
          (by simp [hh, Deed.Obliges, Deed.Honest]) gives started
      rw [hrun] at hsaid
      exact ⟨s₀, _, s, h, t, rfl, before, course, gives, by rw [hh]; rfl, h', t', course',
        hheard.trans hsaid⟩

end Runner

end Pseudocode
