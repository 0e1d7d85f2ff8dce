import Pseudocode.Proofs.Session.Turn

/-!
The stages of a session: before its program is the current one, while it is going, and when it is
over. Each step stays in a stage or leads to the next one, whoever makes it.
-/

namespace Pseudocode

namespace Session

/-- A session whose program is not the current one yet. -/
structure Before (capacity : Nat) (source : String) (lines : List String) (x : Session) : Prop where
  going : x.outcome? = none
  starting : ∃ h, x.runner.Starting capacity 1 source h
  unasked : x.runner.foreground.pending = none
  fed : x.frontend.Fed x.typed lines
  shown : x.shown = []
  submitted : x.submitted = []

/-- Where a session of a program stands when the user types some lines. -/
inductive Stage (interpreter : Interpreter) (capacity : Nat) (source : String)
    (lines : List String) (x : Session) : Prop
  | before (before : Before capacity source lines x)
  | going {answers : List String} {rest : List Remark}
    (going : Going interpreter capacity source lines answers rest x)
  | ended (ended : Ended interpreter capacity source lines x)

variable {interpreter : Interpreter} {capacity : Nat} {source : String} {lines : List String}
  {x y : Session} {s₀ t : Runner} {deeds : List Deed}

theorem Before.silent (before : Before capacity source lines x) :
    x.runner.foreground.reply? = none := by
  obtain ⟨h, starting⟩ := before.starting
  simp [Foreground.reply?, starting.activity]

/-- A new session is before its program. -/
theorem before_start (hspawn : Runner.spawn capacity = .ok s₀) (source : String)
    (lines : List String) : Before capacity source lines (start s₀ source lines) := by
  have hsound := Runner.sound_of_spawn hspawn
  have hlasting := Runner.lasting_of_spawn hspawn
  obtain ⟨hgeneration, hinbox, hforeground⟩ : s₀.shared.generation = 0 ∧ s₀.shared.inbox = [] ∧
      s₀.foreground = .start := by
    unfold Runner.spawn at hspawn
    split at hspawn
    · cases hspawn
    · cases hspawn
      exact ⟨rfl, rfl, rfl⟩
  have free : s₀.foreground.isFree = true := by rw [hforeground]; rfl
  refine ⟨rfl, ⟨[], ?_, rfl, hsound.begin free _, hlasting.begin free _, by simp⟩, ?_, ?_, rfl, rfl⟩
  · show s₀.shared.generation + 1 = 1
    rw [hgeneration]
  · show s₀.foreground.pending = none
    rw [hforeground]
    rfl
  · have htyped : (start s₀ source lines).typed = lines.map .line ++ [.closed] := by
      show (none.toList ++ s₀.shared.inbox).filter Message.isTyped ++ _ = _
      rw [hinbox]
      rfl
    rw [htyped]
    exact Frontend.fed_start lines

section

variable (sturdy : ∀ source, (interpreter source).Ends (fun _ => True) (· ≠ .crashed))

include sturdy

/-- What the other parties do does not make the program the current one. -/
theorem Before.quiet (before : Before capacity source lines x)
    (move : Runner.Move interpreter x.runner deeds t) (honest : ∀ deed ∈ deeds, deed.Honest)
    (foreground : t.foreground = x.runner.foreground) {unread : List Message}
    (typed : ({ x with runner := t, unread } : Session).typed = x.typed) :
    Before capacity source lines { x with runner := t, unread } := by
  obtain ⟨h, starting⟩ := before.starting
  refine ⟨before.going, ?_, ?_, typed ▸ before.fed, before.shown, before.submitted⟩
  · rcases starting.move sturdy move honest [] with hstarting | ⟨_, hunderway⟩
    · exact ⟨_, hstarting⟩
    · have hattending := hunderway.prospect.attending
      rw [foreground, starting.activity] at hattending
      cases hattending
  · show t.foreground.pending = none
    rw [foreground]
    exact before.unasked

theorem Before.worker (before : Before capacity source lines x)
    (h : x.runner.workerStep? interpreter = some t) :
    Before capacity source lines { x with runner := t } := by
  obtain ⟨_, starting⟩ := before.starting
  have honest : ∀ deed ∈ x.runner.worker.deeds, deed.Honest :=
    fun deed hdeed => (Runner.isAside_worker_deeds _ deed hdeed).2.honest
  have move : Runner.Move interpreter x.runner _ t := .worker h
  obtain ⟨shared, worker, turn, rfl⟩ := starting.sound.turn_of_workerStep? h
  refine before.quiet sturdy move honest rfl ?_
  simp only [Session.typed, List.filter_append, turn.typed]

theorem Before.spurious (before : Before capacity source lines x) :
    Before capacity source lines
      { x with runner := { x.runner with worker := x.runner.worker.woken } } :=
  before.quiet sturdy (.spurious x.runner) (by simp [Deed.Honest]) rfl rfl

theorem Before.read (before : Before capacity source lines x) {message : Message}
    {messages : List Message} (first : x.unread = message :: messages) :
    Before capacity source lines
      { x with runner := x.runner.post message, unread := messages } := by
  have hplain : ∀ event, message ≠ .event event :=
    before.fed.plain (List.mem_append_right _ (first ▸ List.mem_cons_self))
  have hhonest : (Deed.posted message).Honest := Deed.honest_posted.mpr hplain
  have htyped : message.isTyped = true := Message.isTyped_iff.mpr hplain
  refine before.quiet sturdy (.post x.runner message) (by simp [hhonest]) rfl ?_
  simp [Session.typed, Runner.post, Shared.post, first, htyped]

omit sturdy in
/-- The first step of the foreground makes the program the current one, and nothing of it is shown
yet. -/
theorem Before.foreground (before : Before capacity source lines x)
    (h : x.runner.foregroundStep? = some t) :
    Going interpreter capacity source lines lines
      ((interpreter source).remarks capacity lines) { x with runner := t } := by
  obtain ⟨_, next, activity, sound, lasting, _⟩ := before.starting
  simp only [Runner.foregroundStep?, activity, Option.some.injEq] at h
  obtain rfl := h
  have hunderway : Runner.Underway interpreter .. := sound.underway_supersede lasting activity lines
  rw [next] at hunderway
  have hunasked : (x.runner.supersede (some source)).foreground.pending = none := before.unasked
  refine ⟨before.going, hunderway, sound.hushed_supersede _,
    .of_silent rfl (by rintro _ ⟨⟩) fun _ _ => hunasked, ?_, ?_, ?_, ?_, ⟨[], by simp, rfl⟩, ?_⟩
  · have hreceived : x.runner.foreground.received? = none := by
      simp [Foreground.received?, before.silent]
    have fed := before.fed
    rw [Session.typed, hreceived] at fed
    exact fed
  · show lines = lines.drop x.submitted.length
    rw [before.submitted]
    rfl
  · show Tally lines x.runner.foreground.pending x.submitted x.shown
    rw [before.unasked, before.submitted, before.shown]
    exact Tally.start lines
  · intro request hrequest
    cases hunasked.symm.trans hrequest
  · show _ = x.shown ++ outstanding x.runner.foreground.pending _ _
    rw [before.shown, before.unasked]
    rfl

omit sturdy in
/-- A session that is over stays so. -/
theorem Ended.step (ended : Ended interpreter capacity source lines x)
    (step : Step interpreter x y) : Ended interpreter capacity source lines y := by
  obtain ⟨returned, last, shown, tally⟩ := ended
  cases step with
  | read first => exact ⟨returned, last, shown, tally⟩
  | spurious => exact ⟨returned, last, shown, tally⟩
  | worker h =>
      obtain ⟨⟨shared, worker⟩, _, rfl⟩ := Option.map_eq_some_iff.mp h
      exact ⟨returned, last, shown, tally⟩
  | foreground h =>
      refine (returned ?_).elim
      unfold Foreground.reply?
      split
      · simp_all [Runner.foregroundStep?]
      · rfl
  | turn going free =>
      obtain ⟨_, _, _, _, houtcome⟩ := last
      cases going.symm.trans houtcome

theorem Stage.step (stage : Stage interpreter capacity source lines x)
    (step : Step interpreter x y) : Stage interpreter capacity source lines y := by
  cases stage with
  | before before =>
      cases step with
      | read first => exact .before (before.read sturdy first)
      | worker h => exact .before (before.worker sturdy h)
      | spurious => exact .before (before.spurious sturdy)
      | foreground h => exact .going (before.foreground h)
      | turn going free =>
          obtain ⟨_, starting⟩ := before.starting
          simp [Foreground.isFree, starting.activity] at free
  | going going =>
      cases step with
      | read first => exact .going (going.read sturdy first)
      | worker h => exact .going (going.worker sturdy h)
      | spurious => exact .going (going.spurious sturdy)
      | foreground h =>
          obtain ⟨rest', _, hgoing⟩ := going.foreground sturdy h
          exact .going hgoing
      | turn _ free =>
          cases going.turn sturdy free with
          | receiving hgoing => exact .going hgoing
          | answering hgoing => exact .going hgoing
          | ended hended => exact .ended hended
  | ended ended => exact .ended (ended.step step)

/-- Each session that is reached from a new one is in a stage. -/
theorem stage_of_reached (hspawn : Runner.spawn capacity = .ok s₀)
    (reached : Relation.ReflTransGen (Step interpreter) (start s₀ source lines) x) :
    Stage interpreter capacity source lines x := by
  induction reached with
  | refl => exact .before (before_start hspawn source lines)
  | tail _ step ih => exact ih.step sturdy step

end

end Session

end Pseudocode
