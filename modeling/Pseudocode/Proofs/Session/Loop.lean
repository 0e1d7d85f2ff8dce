import Pseudocode.Application
import Pseudocode.Proofs.Session.Transcript

/-!
The front end as it runs has one of the orders that a session can have, so what the command prints
is the transcript of the program with the lines that the user types.
-/

namespace Pseudocode

/-! ### Calls that return by themselves -/

/-- How many steps an answer has left. -/
def Answering.stepsLeft : Answering → Nat
  | looking => 4
  | writing => 3
  | announcing => 2
  | waking | returned _ => 1

theorem Answering.stepsLeft_step (text : String) (s : Shared) (stage : Answering) :
    (∃ accepted, (stage.step text s).2 = .returned accepted) ∨
      (stage.step text s).2.stepsLeft < stage.stepsLeft := by
  cases stage with
  | looking =>
      simp only [step]
      split
      · exact .inr (by decide)
      · exact .inl ⟨false, rfl⟩
  | writing => exact .inr (by simp [step, stepsLeft])
  | announcing =>
      simp only [step]
      split
      · exact .inr (by simp [stepsLeft])
      · exact .inl ⟨false, rfl⟩
  | waking => exact .inl ⟨true, rfl⟩
  | returned accepted => exact .inl ⟨accepted, rfl⟩

namespace Runner

variable {interpreter : Interpreter} {s : Runner} {fuel : Nat} {reply : Reply}

theorem proceed_of_returned (returned : s.foreground.activity = .returned reply) :
    s.proceed interpreter fuel = s := by
  cases fuel with
  | zero => rfl
  | succ fuel => simp [proceed, returned]

theorem conclude_of_returned (returned : s.foreground.activity = .returned reply) :
    s.conclude fuel = s := by
  cases fuel with
  | zero => rfl
  | succ fuel => simp [conclude, foregroundStep?, returned]

theorem proceed_answering {request : Request} {text : String} {stage : Answering}
    (answering : s.foreground.activity = .answering request text stage)
    (enough : stage.stepsLeft ≤ fuel) :
    ∃ accepted, (s.proceed interpreter fuel).foreground.activity =
      .returned (.answered accepted) := by
  induction fuel generalizing s stage with
  | zero => cases stage <;> simp [Answering.stepsLeft] at enough
  | succ fuel ih =>
      have hproceed : s.proceed interpreter (fuel + 1) =
          (s.answer request text stage).proceed interpreter fuel := by
        simp [proceed, foregroundStep?, answering]
      rw [hproceed]
      rcases Answering.stepsLeft_step text s.shared stage with ⟨accepted, hreturned⟩ | hless
      · have hactivity : (s.answer request text stage).foreground.activity =
            .returned (.answered accepted) := by
          simp [answer, setActivity, hreturned]
        exact ⟨accepted, by rw [proceed_of_returned hactivity, hactivity]⟩
      · cases hstage : (stage.step text s.shared).2 with
        | returned accepted =>
            have hactivity : (s.answer request text stage).foreground.activity =
                .returned (.answered accepted) := by
              simp [answer, setActivity, hstage]
            exact ⟨accepted, by rw [proceed_of_returned hactivity, hactivity]⟩
        | _ =>
            refine ih ?_ (Nat.le_of_lt_succ (Nat.lt_of_lt_of_le hless enough))
            simp [answer, setActivity, hstage]

/-- An answer returns without the worker. -/
theorem perform_submit (enough : 4 ≤ fuel) (text : String) :
    ∃ accepted, (s.perform interpreter fuel (.submit text)).foreground.activity =
      .returned (.answered accepted) := by
  have hproceed : ∃ accepted, ((s.begin (.submit text)).proceed interpreter fuel).foreground.activity =
      .returned (.answered accepted) := by
    cases hpending : s.foreground.pending with
    | none =>
        have hactivity : (s.begin (.submit text)).foreground.activity =
            .returned (.answered false) := by
          rw [begin_submit_of_none hpending]
          rfl
        exact ⟨false, by rw [proceed_of_returned hactivity, hactivity]⟩
    | some request =>
        have hactivity : (s.begin (.submit text)).foreground.activity =
            .answering request text .looking := by
          rw [begin_submit_of_some hpending]
        exact proceed_answering hactivity enough
  obtain ⟨accepted, hproceed⟩ := hproceed
  exact ⟨accepted, by rw [perform, conclude_of_returned hproceed, hproceed]⟩

/-- A start returns without the worker. -/
theorem perform_start (enough : 4 ≤ fuel) (source : String) :
    ∃ reply, (s.perform interpreter fuel (.start source)).foreground.activity =
      .returned reply ∧ ∀ message, reply ≠ .received message := by
  obtain ⟨fuel, rfl⟩ := Nat.exists_eq_add_of_le' enough
  have hproceed : ∃ reply, ((s.begin (.start source)).proceed interpreter
      (fuel + 4)).foreground.activity = .returned reply ∧ ∀ message, reply ≠ .received message := by
    simp only [begin, Foreground.begin, proceed, foregroundStep?, supersede, setActivity, wake,
      order]
    split
    · exact ⟨.failed .workerGone, by rw [proceed_of_returned rfl], by simp⟩
    · exact ⟨.started _, by rw [proceed_of_returned rfl], by simp⟩
  obtain ⟨reply, hproceed, hreply⟩ := hproceed
  exact ⟨reply, by rw [perform, conclude_of_returned hproceed, hproceed], hreply⟩

end Runner

namespace Session

variable {interpreter : Interpreter} {patience : Nat}

/-! ### The orders that are run -/

theorem reached_proceed (x : Session) (fuel : Nat) (s : Runner) :
    Relation.ReflTransGen (Step interpreter) { x with runner := s }
      { x with runner := s.proceed interpreter fuel } := by
  induction fuel generalizing s with
  | zero => exact .refl
  | succ fuel ih =>
      have hworker {t : Runner} (h : s.workerStep? interpreter = some t) :
          Relation.ReflTransGen (Step interpreter) { x with runner := s }
            { x with runner := t.proceed interpreter fuel } :=
        .head (.worker h) (ih t)
      have hforeground {t : Runner} (h : s.foregroundStep? = some t) :
          Relation.ReflTransGen (Step interpreter) { x with runner := s }
            { x with runner := t.proceed interpreter fuel } :=
        .head (.foreground h) (ih t)
      unfold Runner.proceed
      split
      · exact .refl
      · exact .refl
      · exact .refl
      · rename_i patient taking
        split
        · split
          · exact hworker ‹_›
          · split
            · exact .refl
            · split
              · exact hforeground ‹_›
              · exact .refl
        · exact hforeground (by simp [Runner.foregroundStep?, taking])
      · split
        · rename_i t h
          cases hstep : s.workerStep? interpreter with
          | some u =>
              rw [hstep] at h
              cases h
              exact hworker hstep
          | none =>
              rw [hstep] at h
              exact hforeground h
        · exact .refl
      · split
        · exact hforeground ‹_›
        · exact .refl

theorem reached_conclude (x : Session) (fuel : Nat) (s : Runner) :
    Relation.ReflTransGen (Step interpreter) { x with runner := s }
      { x with runner := s.conclude fuel } := by
  induction fuel generalizing s with
  | zero => exact .refl
  | succ fuel ih =>
      unfold Runner.conclude
      split
      · rename_i t h
        exact .head (.foreground h) (ih t)
      · exact .refl

/-- A call that is carried out is one of the ways in which it can go. -/
theorem reached_perform (x : Session) (patience : Nat) (s : Runner) (call : Call) :
    Relation.ReflTransGen (Step interpreter) { x with runner := s.begin call }
      { x with runner := s.perform interpreter patience call } :=
  (reached_proceed x patience (s.begin call)).trans (reached_conclude x _ _)

/-- Once an answer has been given the loop receives again. -/
theorem reached_submit (enough : 4 ≤ patience) (x : Session) (going : x.outcome? = none)
    (s : Runner) (answer : String) :
    Relation.ReflTransGen (Step interpreter) { x with runner := s.begin (.submit answer) }
      { x with runner := (s.perform interpreter patience (.submit answer)).begin .receive } := by
  obtain ⟨accepted, hreturned⟩ : ∃ accepted,
      (s.perform interpreter patience (.submit answer)).foreground.activity =
        .returned (.answered accepted) := Runner.perform_submit enough answer
  refine (reached_perform x patience s (.submit answer)).tail ?_
  generalize s.perform interpreter patience (.submit answer) = t at hreturned
  have hturn : Step interpreter { x with runner := t } ({ x with runner := t } : Session).turn :=
    .turn going (by simp [Foreground.isFree, hreturned])
  rwa [show ({ x with runner := t } : Session).turn = { x with runner := t.begin .receive } by
    simp [Session.turn, Foreground.reply?, hreturned]] at hturn

/-- All that the reader has to say can be said at once. -/
theorem reached_post (x : Session) (messages : List Message) :
    Relation.ReflTransGen (Step interpreter) { x with unread := messages }
      { x with runner := messages.foldl Runner.post x.runner, unread := [] } := by
  induction messages generalizing x with
  | nil => exact .refl
  | cons message messages ih =>
      have hread : Step interpreter { x with unread := message :: messages }
          { x with runner := x.runner.post message, unread := messages } := .read rfl
      exact .head hread (ih { x with runner := x.runner.post message })

/-- Whether a session can go on as a run of the loop did. -/
def LeadsTo (interpreter : Interpreter) (x : Session) :
    Except RunnerError (Option (List Shown × Bool)) → Prop
  | .ok none => True
  | .ok (some (shown, success)) => ∃ y, Relation.ReflTransGen (Step interpreter) x y ∧
    y.shown = shown ∧ y.outcome? = some (.ok success)
  | .error error => ∃ y, Relation.ReflTransGen (Step interpreter) x y ∧
    y.outcome? = some (.error error)

theorem LeadsTo.of_reached {x y : Session}
    {result : Except RunnerError (Option (List Shown × Bool))}
    (leads : LeadsTo interpreter y result)
    (reached : Relation.ReflTransGen (Step interpreter) x y) :
    LeadsTo interpreter x result := by
  cases result with
  | error error =>
      obtain ⟨z, hreached, hz⟩ := leads
      exact ⟨z, reached.trans hreached, hz⟩
  | ok result =>
      cases result with
      | none => trivial
      | some result =>
          obtain ⟨z, hreached, hz⟩ := leads
          exact ⟨z, reached.trans hreached, hz⟩

/-- The loop of the front end is one of the ways in which a session can go. -/
theorem leadsTo_run (enough : 4 ≤ patience) (turns : Nat) (x : Session) (going : x.outcome? = none)
    {shown : List Shown} (hshown : x.shown = shown.reverse) :
    LeadsTo interpreter { x with runner := x.runner.begin .receive }
      (x.frontend.run interpreter patience turns shown x.runner) := by
  induction turns generalizing x shown with
  | zero => trivial
  | succ turns ih =>
      refine LeadsTo.of_reached ?_ (reached_perform x patience x.runner .receive)
      generalize ht : x.runner.perform interpreter patience .receive = t
      have hturn {y : Session} (free : t.foreground.isFree = true)
          (h : ({ x with runner := t } : Session).turn = y) :
          Step interpreter { x with runner := t } y := h ▸ .turn going free
      rw [Frontend.run, Frontend.turn, ht]
      cases hreply : t.foreground.reply? with
      | none => trivial
      | some reply =>
          have free : t.foreground.isFree = true := by
            unfold Foreground.isFree
            unfold Foreground.reply? at hreply
            split at hreply <;> simp_all
          cases reply with
          | started | answered | nothing | done => trivial
          | failed error =>
              refine ⟨_, .single (hturn free rfl), ?_⟩
              simp [Session.turn, hreply]
          | received message =>
              simp only
              generalize hreaction : x.frontend.react t.foreground.pending.isSome message = reaction
              have hcarryOut : ({ x with runner := t } : Session).turn =
                  ({ x with runner := t } : Session).carryOut reaction := by
                simp [Session.turn, hreply, hreaction]
              have hshown' : x.shown ++ reaction.shown =
                  (reaction.shown.reverse ++ shown).reverse := by
                simp [hshown]
              cases hanswer : reaction.answer? with
              | some answer =>
                  have hsuccess : reaction.success? = none :=
                    hreaction ▸ Frontend.success?_of_answer? (hreaction ▸ hanswer)
                  have hstep := hturn free hcarryOut
                  simp only [carryOut, hanswer] at hstep
                  simp only [hsuccess]
                  let y : Session :=
                    { x with
                      runner := t.perform interpreter patience (.submit answer)
                      frontend := reaction.frontend
                      shown := x.shown ++ reaction.shown
                      submitted := x.submitted ++ t.foreground.pending.toList.map (·, answer) }
                  exact (ih y going hshown').of_reached
                    (.head hstep (reached_submit enough y going t answer))
              | none =>
                  cases hsuccess : reaction.success? with
                  | some success =>
                      simp only [hsuccess]
                      refine ⟨_, .single (hturn free hcarryOut), ?_, ?_⟩
                      · simp [carryOut, hanswer, hsuccess, hshown']
                      · simp [carryOut, hanswer, hsuccess]
                  | none =>
                      have hstep := hturn free hcarryOut
                      simp only [carryOut, hanswer, hsuccess] at hstep
                      simp only [hsuccess]
                      let y : Session :=
                        { x with
                          runner := t
                          frontend := reaction.frontend
                          shown := x.shown ++ reaction.shown }
                      exact (ih y going hshown').of_reached (.single hstep)

end Session

namespace Application

theorem foreground_post (messages : List Message) (s : Runner) :
    (messages.foldl Runner.post s).foreground = s.foreground := by
  induction messages generalizing s with
  | nil => rfl
  | cons message messages ih => exact ih (s.post message)

/-- A command that runs a program prints the transcript of the program with the lines that the user
types for answers, and its exit code says whether the run has finished, unless it gives up waiting
for the end. -/
theorem runProgram_eq {patience : Nat} {terminal : Terminal} {settings : Settings}
    {program : String} {typed : Text.Bytes} {s₀ : Runner} (enough : 4 ≤ patience)
    (hspawn : Runner.spawn settings.capacity = .ok s₀) :
    ∃ (lines : List String) (ending : Ending) (unused : List String) (said : List Remark),
      InputLines.messages typed = lines.map .line ++ [.closed] ∧
      (Interpreter.script patience program).runOn (.steady settings.capacity) (lines, []) =
        (ending, unused, said) ∧
      (runProgram patience terminal settings program typed =
          ⟨exitCode ending.isSuccess, String.join ((transcript lines
            (said ++ ending.remark?.toList)).map terminal.write), ""⟩ ∨
        runProgram patience terminal settings program typed =
          failed ⟨"the program did not end", []⟩) := by
  obtain ⟨lines, hlines⟩ := InputLines.messages_eq typed
  refine ⟨lines, _, _, _, hlines, rfl, ?_⟩
  have sturdy (source : String) := Interpreter.script_ne_crashed patience source fun _ => True
  have hremarks :=
    Dialogue.runOn_steady settings.capacity (Interpreter.script patience program) lines []
  rw [List.nil_append] at hremarks
  rw [hremarks]
  -- The session that the command goes through before its loop.
  let x : Session := Session.start s₀ program lines
  generalize hs : s₀.perform (.script patience) patience (.start program) = s
  obtain ⟨reply, hreturned, hreply⟩ : ∃ reply, s.foreground.activity = .returned reply ∧
      ∀ message, reply ≠ .received message := hs ▸ Runner.perform_start enough program
  let t := (InputLines.messages typed).foldl Runner.post s
  let y : Session := { x with runner := t, unread := [] }
  have hy : Relation.ReflTransGen (Session.Step (.script patience)) x y := by
    have hperform : Relation.ReflTransGen (Session.Step (.script patience)) _ _ :=
      Session.reached_perform x patience s₀ (.start program)
    rw [hs] at hperform
    have hpost : Relation.ReflTransGen (Session.Step (.script patience)) _ _ :=
      Session.reached_post { x with runner := s } (InputLines.messages typed)
    rw [hlines] at hpost
    simp only [y, t, hlines]
    exact hperform.trans hpost
  have hactivity : t.foreground.activity = .returned reply := by
    rw [show t.foreground = _ from foreground_post _ s, hreturned]
  have hturn : Session.Step (.script patience) y y.turn :=
    .turn rfl (by simp [y, Foreground.isFree, hactivity])
  have houtcome {z : Session} {outcome : Except RunnerError Bool}
      (reached : Relation.ReflTransGen (Session.Step (.script patience)) x z)
      (ended : z.outcome? = some outcome) :=
    (Session.stage_of_reached sturdy hspawn reached).outcome_eq rfl ended
  have hreceive : y.turn = { y with runner := t.begin .receive } := by
    cases reply with
    | received message => exact (hreply message rfl).elim
    | failed error =>
        have hfailed : y.turn.outcome? = some (.error error) := by
          simp [y, Session.turn, Foreground.reply?, hactivity]
        cases (houtcome (hy.tail hturn) hfailed).1
    | started | answered | nothing | done =>
        simp [y, Session.turn, Foreground.reply?, hactivity]
  rw [hreceive] at hturn
  have hrun : Session.LeadsTo (.script patience) x
      (Frontend.start.run (.script patience) patience patience [] t) :=
    (Session.leadsTo_run enough patience y rfl rfl).of_reached (hy.tail hturn)
  unfold runProgram launch
  simp only [hspawn, hs]
  generalize Frontend.run _ _ _ _ _ _ = result at hrun
  cases result with
  | error error =>
      obtain ⟨z, hz, hended⟩ := hrun
      cases (houtcome hz hended).1
  | ok result =>
      cases result with
      | none => exact .inr rfl
      | some result =>
          obtain ⟨shown, success⟩ := result
          obtain ⟨z, hz, rfl, hended⟩ := hrun
          obtain ⟨hsuccess, hshown⟩ := houtcome hz hended
          obtain rfl := Except.ok.inj hsuccess
          rw [hshown]
          exact .inl rfl

end Application

end Pseudocode
