import Pseudocode.Proofs.Session.Stage

/-!
A session whose program ends can always be brought to its end: the reader sends what is left, the
worker goes on until it is at rest, and then the loop hears something of the run or answers a
request, of which there is less each time.
-/

namespace Pseudocode

namespace Session

/-- Whether a session can go on until it has ended. -/
def CanEnd (interpreter : Interpreter) (x : Session) : Prop :=
  ∃ y, Relation.ReflTransGen (Step interpreter) x y ∧ y.outcome? ≠ none

/-- How much is left to be heard or to be answered. -/
def debt (x : Session) (rest : List Remark) : Nat :=
  2 * rest.length + x.runner.foreground.pending.toList.length

variable {interpreter : Interpreter} {capacity : Nat} {source : String}
  {lines answers : List String} {rest : List Remark} {x y : Session} {s t : Runner}
  {h : List Deed}

theorem CanEnd.of_reached (can : CanEnd interpreter y)
    (reached : Relation.ReflTransGen (Step interpreter) x y) : CanEnd interpreter x := by
  obtain ⟨z, hreached, hended⟩ := can
  exact ⟨z, reached.trans hreached, hended⟩

theorem CanEnd.of_step (can : CanEnd interpreter y) (step : Step interpreter x y) :
    CanEnd interpreter x :=
  can.of_reached (.single step)

theorem turn_unread (x : Session) : x.turn.unread = x.unread := by
  unfold Session.turn
  split
  · unfold carryOut
    split <;> rfl
  · rfl
  · rfl

section

variable (sturdy : ∀ source, (interpreter source).Ends (fun _ => True) (· ≠ .crashed))

include sturdy

/-- The reader can send all that it has to say. -/
theorem Going.readAll (going : Going interpreter capacity source lines answers rest x) :
    ∃ y, Relation.ReflTransGen (Step interpreter) x y ∧
      Going interpreter capacity source lines answers rest y ∧ y.unread = [] ∧
      y.runner.foreground = x.runner.foreground := by
  generalize hunread : x.unread = unread
  induction unread generalizing x with
  | nil => exact ⟨x, .refl, going, hunread, rfl⟩
  | cons message messages ih =>
      obtain ⟨y, hreached, hgoing, hall, hforeground⟩ := ih (going.read sturdy hunread) rfl
      exact ⟨y, .head (.read hunread) hreached, hgoing, hall, hforeground⟩

/-- What the runner does by itself, while no call returns, is part of a session. -/
theorem Going.course (going : Going interpreter capacity source lines answers rest x)
    (course : Runner.Course interpreter x.runner h t)
    (hdeeds : ∀ deed ∈ h, deed.IsAside ∧ deed.Unaided) :
    Relation.ReflTransGen (Step interpreter) x { x with runner := t } ∧
      Going interpreter capacity source lines answers rest { x with runner := t } := by
  induction course with
  | rest => exact ⟨.refl, going⟩
  | move course move ih =>
      obtain ⟨hreached, hgoing⟩ := ih fun deed hdeed => hdeeds deed (List.mem_append_left _ hdeed)
      replace hdeeds := fun deed hdeed => hdeeds deed (List.mem_append_right _ hdeed)
      cases move with
      | call => exact (hdeeds _ List.mem_cons_self).1.elim
      | worker hstep =>
          have hgoing' := hgoing.worker sturdy hstep
          exact ⟨hreached.tail (.worker hstep), hgoing'⟩
      | spurious | post => exact (hdeeds _ List.mem_cons_self).2.elim
      | foreground hstep =>
          obtain ⟨rest', hrest, hgoing'⟩ := hgoing.foreground sturdy hstep
          rw [Deed.remarks_of_isAside 1 fun deed hdeed => (hdeeds deed hdeed).1,
            List.nil_append] at hrest
          exact ⟨hreached.tail (.foreground hstep), hrest ▸ hgoing'⟩

/-- The worker can go on until it is at rest. -/
theorem Going.settle (going : Going interpreter capacity source lines answers rest x) :
    ∃ t, Relation.ReflTransGen (Step interpreter) x { x with runner := t } ∧
      Going interpreter capacity source lines answers rest { x with runner := t } ∧
      t.foreground = x.runner.foreground ∧ t.workerStep? interpreter = none := by
  obtain ⟨h, t, course, hdeeds, hforeground, hrest⟩ : x.runner.ComesToRest interpreter :=
    going.underway.sound.worker_comesToRest
  obtain ⟨hreached, hgoing⟩ := going.course sturdy course hdeeds
  exact ⟨t, hreached, hgoing, hforeground, hrest⟩

/-- A call goes on until it has returned or takes a message. -/
theorem Going.ready (going : Going interpreter capacity source lines answers rest x) :
    ∃ t, Relation.ReflTransGen (Step interpreter) x { x with runner := t } ∧
      Going interpreter capacity source lines answers rest { x with runner := t } ∧
      (t.foreground.isFree = true ∨ ∃ patient, t.foreground.activity = .taking patient) ∧
      debt { x with runner := t } rest ≤ debt x rest := by
  induction hsteps : x.runner.foreground.activity.stepsToReady using Nat.strongRecOn
    generalizing x with
  | ind n ih =>
      by_cases hmoving : 0 < x.runner.foreground.activity.stepsToReady
      · obtain ⟨t, hstep⟩ := Runner.foregroundStep?_of_stepsToReady hmoving
        have act := Runner.act_of_foregroundStep? going.underway.sound.shared.channel hstep
        obtain ⟨rest', hrest, hgoing⟩ := going.foreground sturdy hstep
        have hless := act.stepsToReady hmoving
        have hkept : Deed.remarks 1 t.foreground.deeds = [] ∧
            t.foreground.pending.toList.length ≤ x.runner.foreground.pending.toList.length := by
          clear hgoing hrest
          generalize x.runner = s at act hmoving
          cases act with
          | drop | hear | readLine | takeNothing | supersede | depart | join => cases hmoving
          | _ => exact ⟨rfl, by simp⟩
        rw [hkept.1, List.nil_append] at hrest
        subst hrest
        obtain ⟨u, hreached, hgoing', hready, hdebt⟩ := ih _ (hsteps ▸ hless) hgoing rfl
        refine ⟨u, .head (.foreground hstep) hreached, hgoing', hready, Nat.le_trans hdebt ?_⟩
        exact Nat.add_le_add_left hkept.2 _
      · refine ⟨x.runner, .refl, going, ?_, Nat.le_refl _⟩
        exact Foreground.ready_of_stepsToReady going.underway.prospect.attending
          (Nat.eq_zero_of_not_pos hmoving)

omit sturdy in
/-- A loop that receives while nobody else can move has a message to receive: a request that waits
would wait for a line that is still to come. -/
theorem Going.inbox_ne_nil (going : Going interpreter capacity source lines answers rest x)
    (ends : ∃ last ∈ (interpreter source).remarks capacity lines, last.isTerminal = true)
    (unread : x.unread = []) (resting : x.runner.workerStep? interpreter = none) {patient : Bool}
    (taking : x.runner.foreground.activity = .taking patient) : x.runner.shared.inbox ≠ [] := by
  intro hinbox
  have hreceived : x.runner.foreground.received? = none := by
    simp [Foreground.received?, Foreground.reply?, taking]
  have hquiet : x.runner.foreground.activity.isQuiet = true := by rw [taking]; rfl
  have agreed := going.underway.agreed
  rcases going.underway.prospect.said_or_awaited going.underway.sound agreed going.underway.lasting
    hquiet resting with hsaid | ⟨request, waits⟩
  · obtain rfl : rest = [] := by rw [hsaid, Runner.news, hinbox]; rfl
    obtain ⟨heard, hheard, hremarks⟩ := going.heard
    obtain ⟨last, hlast, hterminal⟩ := ends
    rw [hremarks, remark?, hreceived] at hlast
    cases hterminal.symm.trans (hheard last (by simpa using hlast))
  · cases hpending : x.runner.foreground.pending with
    | none =>
        have hsent := agreed.sent_of_quiet hquiet hpending waits
        rw [hinbox] at hsent
        cases hsent
    | some pending =>
        rcases going.asked pending hpending with hrequest | ⟨_, _, hgoing⟩
        · cases hreceived.symm.trans hrequest
        · refine going.fed.ne_nil hgoing ?_
          rw [typed, hreceived, hinbox, unread]
          rfl

section

variable {n : Nat} (shorter : ∀ y answers rest,
  Going interpreter capacity source lines answers rest y → y.debt rest < n → CanEnd interpreter y)

include shorter

/-- When a call has returned, the loop can end, or less is left, or it receives again. -/
theorem Going.canEnd_of_free (going : Going interpreter capacity source lines answers rest x)
    (few : x.debt rest ≤ n) (free : x.runner.foreground.isFree = true)
    (again : ∀ y, Going interpreter capacity source lines answers rest y →
      y.runner = x.runner.begin .receive → y.unread = x.unread → CanEnd interpreter y) :
    CanEnd interpreter x := by
  have step : Step interpreter x x.turn := .turn going.going free
  cases going.turn sturdy free with
  | receiving hgoing hrunner => exact (again _ hgoing hrunner x.turn_unread).of_step step
  | answering hgoing hrunner hpending =>
      obtain ⟨request, hpending⟩ := Option.isSome_iff_exists.mp hpending
      refine (shorter _ _ _ hgoing (Nat.lt_of_lt_of_le ?_ few)).of_step step
      simp [debt, hrunner, hpending, Runner.begin, Foreground.begin]
  | ended hended =>
      obtain ⟨_, _, _, _, houtcome⟩ := hended.last
      exact ⟨_, .single step, by simp [houtcome]⟩

/-- A loop that receives while nobody else can move hears something of the run at last. -/
theorem Going.canEnd_of_taking (going : Going interpreter capacity source lines answers rest x)
    (ends : ∃ last ∈ (interpreter source).remarks capacity lines, last.isTerminal = true)
    (few : x.debt rest ≤ n) (unread : x.unread = [])
    (resting : x.runner.workerStep? interpreter = none) {patient : Bool}
    (taking : x.runner.foreground.activity = .taking patient) : CanEnd interpreter x := by
  generalize hinbox : x.runner.shared.inbox = inbox
  induction inbox generalizing x patient with
  | nil => exact (going.inbox_ne_nil ends unread resting taking hinbox).elim
  | cons message inbox ih =>
      have hstep : x.runner.foregroundStep? = some (x.runner.take patient) := by
        simp [Runner.foregroundStep?, taking]
      have act := Runner.act_of_foregroundStep? going.underway.sound.shared.channel hstep
      have step : Step interpreter x { x with runner := x.runner.take patient } :=
        .foreground hstep
      obtain ⟨rest', hrest, hgoing⟩ := going.foreground sturdy hstep
      refine CanEnd.of_step ?_ step
      have hagain (t : Runner)
          (going : Going interpreter capacity source lines answers rest { x with runner := t })
          (few : debt { x with runner := t } rest ≤ n)
          (resting : t.workerStep? interpreter = none) (hinbox : t.shared.inbox = inbox)
          (free : t.foreground.isFree = true) : CanEnd interpreter { x with runner := t } := by
        refine going.canEnd_of_free sturdy shorter few free ?_
        intro y hgoing hrunner hunread
        obtain ⟨r, f, messages, shown, submitted, outcome?⟩ := y
        obtain rfl := hrunner
        exact ih hgoing few (hunread.trans unread) (Runner.workerStep?_of_inbox resting _) rfl
          hinbox
      obtain ⟨s, f, messages, shown, submitted, outcome?⟩ := x
      generalize Runner.take _ _ = t at act hrest hgoing
      cases act with
      | drop s w c first =>
          cases first.symm.trans hinbox
          subst hrest
          exact ih hgoing few unread (Runner.workerStep?_of_inbox resting _) rfl rfl
      | hear s w c first admitted =>
          rename_i patient' event inbox'
          cases first.symm.trans hinbox
          replace hrest : rest = (Message.remark? 1 (.event event)).toList ++ rest' :=
            hrest.trans (congrArg (· ++ rest') (Deed.remarks_received 1 _))
          cases hremark : Message.remark? 1 (.event event) with
          | some remark =>
              rw [hremark] at hrest
              refine shorter _ _ _ hgoing (Nat.lt_of_lt_of_le ?_ few)
              -- The event may bring a request, so that two less to hear are at least one less.
              have hpending : (c.observe event).pending.toList.length ≤ 1 := by
                cases (c.observe event).pending <;> simp
              simp [debt, hrest]
              omega
          | none =>
              obtain rfl : event = .ready := by
                refine going.underway.agreed.ready_of_remark? rfl admitted ?_
                exact going.underway.current ▸ hremark
              rw [hremark] at hrest
              subst hrest
              exact hagain _ hgoing few (Runner.workerStep?_of_inbox resting _) rfl rfl
      | readLine s w c first plain =>
          cases first.symm.trans hinbox
          replace hrest : rest = (Message.remark? 1 message).toList ++ rest' :=
            hrest.trans (congrArg (· ++ rest') (Deed.remarks_received 1 _))
          rw [Message.remark?_of_plain plain] at hrest
          subst hrest
          exact hagain _ hgoing few (Runner.workerStep?_of_inbox resting _) rfl rfl
      | takeNothing s w c empty => cases empty.symm.trans hinbox
      | _ => cases taking

end

/-- A session of a run that ends can go on until it has ended. -/
theorem Going.canEnd (going : Going interpreter capacity source lines answers rest x)
    (ends : ∃ last ∈ (interpreter source).remarks capacity lines, last.isTerminal = true) :
    CanEnd interpreter x := by
  induction hdebt : x.debt rest using Nat.strongRecOn generalizing x answers rest with
  | ind n ih =>
      have shorter (y : Session) (answers : List String) (rest : List Remark)
          (going : Going interpreter capacity source lines answers rest y)
          (less : y.debt rest < n) : CanEnd interpreter y := ih _ less going rfl
      obtain ⟨y, hy, hgoing, hunread, hforeground⟩ := going.readAll sturdy
      have few : y.debt rest ≤ n := by simp [← hdebt, debt, hforeground]
      obtain ⟨t, ht, hgoing, hready, hless⟩ := hgoing.ready sturdy
      obtain ⟨u, hu, hgoing, hforeground, hresting⟩ := hgoing.settle sturdy
      refine CanEnd.of_reached ?_ (hy.trans (ht.trans hu))
      replace few : debt { y with runner := u } rest ≤ n := by
        have hsame : debt { y with runner := u } rest = debt { y with runner := t } rest :=
          congrArg (fun c : Foreground => 2 * rest.length + c.pending.toList.length) hforeground
        omega
      rw [← show u.foreground = t.foreground from hforeground] at hready
      rcases hready with free | ⟨patient, taking⟩
      · refine hgoing.canEnd_of_free sturdy shorter few free fun z hgoing' hrunner hunread' => ?_
        obtain ⟨r, f, messages, shown, submitted, outcome?⟩ := z
        obtain rfl := hrunner
        exact hgoing'.canEnd_of_taking sturdy shorter ends few (hunread'.trans hunread)
          (Runner.workerStep?_of_inbox hresting u.shared.inbox) rfl
      · exact hgoing.canEnd_of_taking sturdy shorter ends few hunread hresting taking

theorem Stage.canEnd (stage : Stage interpreter capacity source lines x)
    (ends : ∃ last ∈ (interpreter source).remarks capacity lines, last.isTerminal = true) :
    CanEnd interpreter x := by
  cases stage with
  | before before =>
      obtain ⟨_, starting⟩ := before.starting
      have hstep : x.runner.foregroundStep? = some (x.runner.supersede (some source)) := by
        simp [Runner.foregroundStep?, starting.activity]
      exact ((before.foreground hstep).canEnd sturdy ends).of_step (.foreground hstep)
  | going going => exact going.canEnd sturdy ends
  | ended ended =>
      obtain ⟨_, _, _, _, houtcome⟩ := ended.last
      exact ⟨x, .refl, by simp [houtcome]⟩

end

end Session

end Pseudocode
