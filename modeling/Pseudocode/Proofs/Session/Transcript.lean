import Pseudocode.Proofs.Session.Progress

/-!
What is shown in a session does not depend on who comes first. It is the transcript of the program
with the lines as its answers, as far as the session has come, and all of it at the end.
-/

namespace Pseudocode

namespace Session

variable {interpreter : Interpreter} {capacity patience : Nat} {source : String}
  {lines : List String} {x : Session} {s₀ : Runner}

/-- What has been shown is the beginning of the transcript. -/
theorem Stage.shown_prefix (stage : Stage interpreter capacity source lines x) :
    x.shown.IsPrefix (transcript lines ((interpreter source).remarks capacity lines)) := by
  cases stage with
  | before before =>
      rw [before.shown]
      exact List.nil_prefix
  | going going =>
      rw [going.shown]
      exact List.prefix_append _ _
  | ended ended => exact ended.shown ▸ List.prefix_rfl

/-- The answers that were submitted are the lines, in order, each for the request whose prompt was
shown before it. -/
theorem Stage.tally (stage : Stage interpreter capacity source lines x) :
    ∃ waiting, Tally lines waiting x.submitted x.shown := by
  cases stage with
  | before before =>
      rw [before.submitted, before.shown]
      exact ⟨none, Tally.start lines⟩
  | going going => exact ⟨_, going.tally⟩
  | ended ended => exact ⟨none, ended.tally⟩

/-- A session ends only when its run does, with all of the transcript. -/
theorem Stage.outcome_eq (stage : Stage interpreter capacity source lines x) {ending : Ending}
    {unused : List String} {said : List Remark} {outcome : Except RunnerError Bool}
    (hrun : (interpreter source).runOn (.steady capacity) (lines, []) = (ending, unused, said))
    (houtcome : x.outcome? = some outcome) :
    outcome = .ok ending.isSuccess ∧
      x.shown = transcript lines ((interpreter source).remarks capacity lines) := by
  cases stage with
  | before before => cases before.going.symm.trans houtcome
  | going going => cases going.going.symm.trans houtcome
  | ended ended =>
      obtain ⟨last, hlast, success, hsuccess, hended⟩ := ended.last
      refine ⟨?_, ended.shown⟩
      have hremarks := (interpreter source).runOn_steady capacity lines []
      have hsaid := (interpreter source).not_isTerminal_of_runOn_steady capacity lines
        (List.forall_mem_nil _)
      rw [hrun] at hremarks hsaid
      rw [← List.nil_append (Dialogue.remarks ..), ← hremarks] at hlast
      rcases List.mem_append.mp hlast with hlast | hlast
      · cases (hsaid last hlast).symm.trans (Remark.isTerminal_of_success? hsuccess)
      · obtain rfl := Option.some.inj
          (hsuccess.symm.trans (Ending.success?_of_remark? (Option.mem_toList.mp hlast)))
        exact Option.some.inj (houtcome.symm.trans hended)

/-- While the loop waits, a request is pending only if there is no line for it yet. -/
theorem Stage.queued_eq_nil (stage : Stage interpreter capacity source lines x)
    (waits : x.runner.foreground.reply? = none) (pending : x.runner.foreground.pending ≠ none) :
    x.frontend.queued = [] ∧ x.frontend.inputClosed = false := by
  cases stage with
  | before before => exact (pending before.unasked).elim
  | going going =>
      obtain ⟨request, hpending⟩ := Option.ne_none_iff_exists'.mp pending
      rcases going.asked request hpending with hrequest | ⟨_, hasked⟩
      · simp [Foreground.received?, waits] at hrequest
      · exact hasked
  | ended ended => exact (ended.returned waits).elim

/-- What is shown in a session and how it ends depend only on the program, the lines and the
capacity, and not on the order in which the reader, the worker and the loop come: each prompt is
shown and then the line that answers it, the first line for the first request and so on, with empty
answers when the lines are used up; outputs and the end are shown where the program has them. The
session never ends with an error, and succeeds if and only if the run finishes.

While the loop waits, a request is pending only if there is no line for it. A session of a program
that was not cut off in a loop can always go on to its end; and the more passes a loop is given, the
more is shown before it is cut off. -/
theorem shown_eq_transcript (hspawn : Runner.spawn capacity = .ok s₀)
    (reached : Relation.ReflTransGen (Step (.script patience)) (start s₀ source lines) x) :
    ∃ ending unused said,
      (Interpreter.script patience source).runOn (.steady capacity) (lines, []) =
        (ending, unused, said) ∧
      x.shown.IsPrefix (transcript lines (said ++ ending.remark?.toList)) ∧
      (∃ waiting, Tally lines waiting x.submitted x.shown) ∧
      (∀ outcome, x.outcome? = some outcome → outcome = .ok ending.isSuccess ∧
        x.shown = transcript lines (said ++ ending.remark?.toList)) ∧
      (x.runner.foreground.reply? = none → x.runner.foreground.pending ≠ none →
        x.frontend.queued = [] ∧ x.frontend.inputClosed = false) ∧
      (ending ≠ .exhausted → ∃ y, Relation.ReflTransGen (Step (.script patience)) x y ∧
        y.outcome? = some (.ok ending.isSuccess)) ∧
      ∀ more, patience ≤ more → (transcript lines (said ++ ending.remark?.toList)).IsPrefix
        (transcript lines ((Interpreter.script more source).remarks capacity lines)) := by
  have sturdy (source : String) := Interpreter.script_ne_crashed patience source fun _ => True
  have stage := stage_of_reached sturdy hspawn reached
  have hremarks := Dialogue.runOn_steady capacity (Interpreter.script patience source) lines []
  rw [List.nil_append] at hremarks
  refine ⟨_, _, _, rfl, ?_, stage.tally, fun outcome houtcome => ?_, stage.queued_eq_nil,
    fun hending => ?_, fun more hmore => ?_⟩
  · rw [hremarks]
    exact stage.shown_prefix
  · rw [hremarks]
    exact stage.outcome_eq rfl houtcome
  · obtain ⟨last, hlast, hterminal⟩ :=
      (Interpreter.script_ending patience source capacity lines).resolve_right hending
    have ends : ∃ last ∈ (Interpreter.script patience source).remarks capacity lines,
        last.isTerminal = true := by
      refine ⟨last, ?_, hterminal⟩
      rw [← hremarks, hlast]
      exact List.mem_append_right _ List.mem_cons_self
    obtain ⟨y, hreached, hended⟩ := stage.canEnd sturdy ends
    obtain ⟨outcome, houtcome⟩ := Option.ne_none_iff_exists'.mp hended
    have stage := stage_of_reached sturdy hspawn (reached.trans hreached)
    obtain ⟨rfl, _⟩ := stage.outcome_eq rfl houtcome
    exact ⟨y, hreached, houtcome⟩
  · rw [hremarks]
    exact transcript_prefix (Interpreter.script_remarks_prefix hmore source capacity lines) lines

/-- A session with one line, which is more than the channel holds. -/
theorem shown_eq_transcript_greeting : ∃ s₀ y, Runner.spawn 3 = .ok s₀ ∧
    Relation.ReflTransGen (Step (.script 4)) (start s₀ Runner.greeting ["Anna"]) y ∧
    y.outcome? = some (.ok true) ∧
    y.shown =
      [.prompt "name", .echo "Anna", .output "An", .finished Interpreter.summary] := by
  have hsaid : ((Interpreter.script 4 Runner.greeting).runOn (.steady 3) (["Anna"], [])).1 =
        .finished Interpreter.summary ∧
      ((Interpreter.script 4 Runner.greeting).runOn (.steady 3) (["Anna"], [])).2.2 =
        [.prompt "name", .output "An"] := by
    decide +kernel
  cases hspawn : Runner.spawn 3 with
  | error error => cases hspawn
  | ok s₀ =>
      obtain ⟨ending, unused, said, hrun, _, _, _, _, hcan, _⟩ := shown_eq_transcript hspawn
        (.refl : Relation.ReflTransGen (Step (.script 4)) (start s₀ Runner.greeting ["Anna"]) _)
      rw [hrun] at hsaid
      obtain ⟨rfl, rfl⟩ := hsaid
      obtain ⟨y, hreached, houtcome⟩ := hcan (by simp)
      obtain ⟨_, _, _, hrun', _, _, hended, _⟩ := shown_eq_transcript hspawn hreached
      cases hrun.symm.trans hrun'
      exact ⟨s₀, y, rfl, hreached, houtcome, (hended _ houtcome).2⟩

end Session

end Pseudocode
