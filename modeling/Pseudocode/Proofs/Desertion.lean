import Pseudocode.Proofs.Pacing
import Pseudocode.Proofs.Requests
import Pseudocode.Worker.Batch

/-!
Runs whose foreground goes away. Nothing that a run sends is taken from then on. A line that cannot
be sent cancels the run: each later check is answered with yes, so that a program of the interpreter
does no more than make one check. A request that cannot be sent is answered with the empty text at
once and leaves no trace, so a program that tells nothing goes on as if somebody pressed return.

A run is followed through its incidents, in the order in which they happen, while others do what
they like to what is shared.
-/

namespace Pseudocode

/-- What a run meets: how a check is answered while some run is the current one, whether what it
sends is taken, and what it gets for a prompt. -/
inductive Incident where
  | checked (generation : Nat) (canceled : Bool)
  | told (text : String) (sent : Bool)
  | requested (request : Request) (sent : Bool)
  | answered (prompt answer : String)
  deriving DecidableEq, Repr

namespace Incident

/-- Whether a line could not be sent. -/
def isLostLine : Incident → Bool
  | told _ sent => !sent
  | _ => false

/-- The call of the program to which the incident is the reply. Sending a request is only a part of
one. -/
def call? : Incident → Option HostCall
  | checked .. => some .check
  | told text _ => some (.tell text)
  | requested .. => none
  | answered prompt _ => some (.ask prompt)

/-- How an incident answers a check. -/
def canceled : Incident → Bool
  | checked _ canceled => canceled
  | _ => false

/-- How an incident answers a question. -/
def answer : Incident → String
  | answered _ answer => answer
  | _ => ""

/-- Whether each incident of a list has a property, given those before it. -/
def Each (P : List Incident → Incident → Prop) (log : List Incident) : Prop :=
  ∀ before incident after, log = before ++ incident :: after → P before incident

variable {P : List Incident → Incident → Prop} {log : List Incident} {incident : Incident}

theorem each_nil : Each P [] := by
  intro before incident after h
  simp at h

/-- What is found among incidents is the last of them or one before it. -/
theorem last_or_earlier {before after : List Incident} {last found : Incident}
    (h : log ++ [last] = before ++ found :: after) :
    (log = before ∧ last = found ∧ after = []) ∨
      ∃ rest, log = before ++ found :: rest ∧ after = rest ++ [last] := by
  rcases List.eq_nil_or_concat after with rfl | ⟨rest, final, rfl⟩
  · obtain ⟨rfl, rfl⟩ := List.concat_inj.mp (by simpa using h)
    exact .inl ⟨rfl, rfl, rfl⟩
  · have hsplit : log ++ [last] = before ++ found :: rest ++ [final] := by simpa using h
    obtain ⟨rfl, hlast⟩ := List.append_inj' hsplit rfl
    obtain rfl := List.singleton_inj.mp hlast
    exact .inr ⟨rest, rfl, List.concat_eq_append⟩

theorem Each.concat (h : Each P log) (hlast : P log incident) : Each P (log ++ [incident]) := by
  intro before found after heq
  rcases last_or_earlier heq with ⟨rfl, rfl, -⟩ | ⟨rest, hlog, -⟩
  · exact hlast
  · exact h before found rest hlog

/-- What is to be said of an incident of run `run` after others. A check is answered with yes once a
line was lost, and else exactly if the run is not the current one; and after a request that could not
be sent comes the empty text. -/
structure Lawful (run : Nat) (before : List Incident) (incident : Incident) : Prop where
  check : ∀ generation canceled, incident = checked generation canceled →
    canceled = (before.any isLostLine || generation != run)
  request : ∀ request, before.getLast? = some (requested request false) →
    incident = answered request.prompt ""

end Incident

open Incident

/-! ### The program of a run -/

namespace Dialogue

variable {α : Type} {canceled : α → Prop} {d d' : Dialogue α} {log : List Incident}

/-- Whether a dialogue has become another one after some incidents. -/
inductive Follows (d : Dialogue α) : List Incident → Dialogue α → Prop
  | refl : Follows d [] d
  | check {log : List Incident} {next : Bool → Dialogue α} (h : Follows d log (.check next))
    (generation : Nat) (canceled : Bool) :
    Follows d (log ++ [.checked generation canceled]) (next canceled)
  | tell {log : List Incident} {text : String} {next : Unit → Dialogue α}
    (h : Follows d log (.tell text next)) (sent : Bool) :
    Follows d (log ++ [.told text sent]) (next ())
  | request {log : List Incident} {prompt : String} {next : String → Dialogue α}
    (h : Follows d log (.ask prompt next)) (request : Request) (sent : Bool) :
    Follows d (log ++ [.requested request sent]) (.ask prompt next)
  | answer {log : List Incident} {prompt : String} {next : String → Dialogue α}
    (h : Follows d log (.ask prompt next)) (answer : String) :
    Follows d (log ++ [.answered prompt answer]) (next answer)

/-- A dialogue that heeds its host goes on doing so until it is canceled. -/
theorem Follows.heeds (h : Follows d log d') (heeds : d.Heeds canceled) :
    d'.Heeds canceled ∨ ∃ a, d' = .done a ∧ canceled a := by
  induction h with
  | refl => exact .inl heeds
  | @check log next h generation c ih =>
      rcases ih with ⟨⟨a, hnext, ha⟩, hrest⟩ | ⟨a, hdone, -⟩
      · cases c with
        | true => exact .inr ⟨a, hnext, ha⟩
        | false => exact .inl hrest
      · cases hdone
  | tell h sent ih =>
      rcases ih with hnext | ⟨a, hdone, -⟩
      · exact .inl hnext
      · cases hdone
  | request h request sent ih => exact ih
  | answer h answer ih =>
      rcases ih with hnext | ⟨a, hdone, -⟩
      · exact .inl (hnext answer)
      · cases hdone

end Dialogue

/-- A host that gives the replies of a list. -/
def Host.replaying : Host (List Incident) where
  check log := ((log.head?.map canceled).getD false, log.tail)
  ask _ log := ((log.head?.map answer).getD "", log.tail)
  tell _ log := log.tail

namespace Dialogue

variable {α : Type} {d d' : Dialogue α} {log : List Incident}

/-- Whatever a dialogue has met, there is a host on which it does the same. -/
theorem Follows.calls (h : Follows d log d') (more : List Incident) :
    d.calls .replaying (log.filter (·.call?.isSome) ++ more) =
      log.filterMap call? ++ d'.calls .replaying more := by
  induction h generalizing more with
  | refl => rfl
  | check h generation c ih =>
      rw [List.filter_append, List.filterMap_append, List.append_assoc, List.append_assoc]
      exact ih (.checked generation c :: more)
  | @tell log text next h sent ih =>
      rw [List.filter_append, List.filterMap_append, List.append_assoc, List.append_assoc]
      exact ih (.told text sent :: more)
  | request h request sent ih =>
      rw [List.filter_append, List.filterMap_append, List.append_assoc, List.append_assoc]
      exact ih more
  | @answer log prompt next h answer ih =>
      rw [List.filter_append, List.filterMap_append, List.append_assoc, List.append_assoc]
      exact ih (.answered prompt answer :: more)

end Dialogue

namespace HostCall

variable {statements : List Statement} {before calls : List HostCall} {text : String}

/-- In the work of one statement a line is the last call. -/
theorem IsSpan.of_tell {n : Nat} {after : List HostCall}
    (h : IsSpan n (before ++ .tell text :: after)) : after = [] := by
  cases after with
  | nil => rfl
  | cons call after =>
      have horder := (List.pairwise_append.mp h.order).2.1
      have hask := (List.pairwise_cons.mp horder).1 call List.mem_cons_self rfl
      have htells := h.tells
      have hunchecked := h.unchecked
      cases call with
      | check => simp at hunchecked
      | ask prompt => cases hask
      | tell text' =>
          simp only [List.countP_append, List.countP_cons, isTell, if_true] at htells
          omega

/-- What comes after a line is a check. -/
theorem Paced.head_eq_check_of_tell (h : Paced statements (before ++ .tell text :: calls)) :
    ∀ call ∈ calls.head?, call = .check := by
  generalize hall : before ++ .tell text :: calls = all at h
  induction h generalizing before with
  | nil => simp at hall
  | @next statement span rest hmem hspan hrest ih =>
      cases before with
      | nil => cases (List.cons.inj hall).1
      | cons call before =>
          have hafter : before ++ .tell text :: calls = span ++ rest := (List.cons.inj hall).2
          -- The line is in the first span, whose last call it is, or in a later one.
          rcases List.append_eq_append_iff.mp hafter with ⟨more, rfl, hmore⟩ | ⟨more, rfl, hmore⟩
          · cases more with
            | nil => exact @ih [] hmore
            | cons first more =>
                obtain ⟨rfl, rfl⟩ := List.cons.inj hmore
                rw [hspan.of_tell]
                exact hrest.head_eq_check
          · exact ih hmore.symm

end HostCall

/-! ### The worker -/

namespace Worker

/-- What the next step of a worker meets, if it is one at which the run meets something. -/
def incident? (s : Shared) (w : Worker) : Option Incident :=
  match w.phase with
  | .running run (.check _) => some (.checked s.generation (w.isCanceled s run))
  | .running _ (.tell text _) => some (.told text s.listening)
  | .asking request .sending _ => some (.requested request s.listening)
  | .asking request (.returned text) _ => some (.answered request.prompt text)
  | _ => none

/-- How the run of a worker has ended, if it is over. -/
def ending? (w : Worker) : Option Ending :=
  match w.phase with
  | .running _ (.done ending) => some ending
  | _ => none

/-- What can become of a worker that has taken up a program, with the incidents of its run. Between
two of its steps others may change all that is shared, and wake it. -/
inductive Stint (interpreter : Interpreter) (run : Nat) (program : Dialogue Ending) :
    List Incident → Shared → Worker → Prop
  | start {s : Shared} {w : Worker} (phase : w.phase = .running run program)
    (fresh : w.disconnected = false) : Stint interpreter run program [] s w
  | step {log : List Incident} {s s' : Shared} {w w' : Worker}
    (h : Stint interpreter run program log s w) (going : w.ending? = none)
    (hstep : w.step? interpreter s = some (s', w')) :
    Stint interpreter run program (log ++ (w.incident? s).toList) s' w'
  | change {log : List Incident} {s : Shared} {w : Worker}
    (h : Stint interpreter run program log s w) (s' : Shared) :
    Stint interpreter run program log s' w
  | wake {log : List Incident} {s : Shared} {w : Worker}
    (h : Stint interpreter run program log s w) : Stint interpreter run program log s w.woken

end Worker

namespace Asking

/-- Whether a request that could not be sent is at a stage. -/
def GivesUp : Asking → Prop
  | withdrawing | wakingAfterWithdrawal => True
  | returned text => text = ""
  | _ => False

theorem GivesUp.step {stage : Asking} (h : stage.GivesUp) (request : Request) (s : Shared) :
    (stage.step request s).2.GivesUp := by
  cases stage with
  | withdrawing => trivial
  | wakingAfterWithdrawal => rfl
  | returned text => exact h
  | _ => exact h.elim

theorem GivesUp.woken {stage : Asking} (h : stage.GivesUp) : stage.woken.GivesUp := by
  cases stage with
  | asleep => exact h.elim
  | _ => exact h

end Asking

/-- Where a worker is with a program after some incidents of its run. -/
inductive Phase.Follows (run : Nat) (program : Dialogue Ending) (log : List Incident) : Phase → Prop
  | running {d : Dialogue Ending} (follows : program.Follows log d)
    (heard : ∀ request, log.getLast? ≠ some (.requested request false)) :
    Follows run program log (.running run d)
  | asking {request : Request} {stage : Asking} {next : String → Dialogue Ending}
    (hrun : request.run = run) (follows : program.Follows log (.ask request.prompt next))
    (unheard : ∀ other, log.getLast? = some (.requested other false) →
      other = request ∧ stage.GivesUp) :
    Follows run program log (.asking request stage next)

namespace Worker

/-- What holds of a worker after some incidents of a run. -/
structure Keeps (run : Nat) (program : Dialogue Ending) (log : List Incident) (w : Worker) :
    Prop where
  disconnected : w.disconnected = log.any isLostLine
  lawful : Each (Lawful run) log
  follows : w.phase.Follows run program log

variable {interpreter : Interpreter} {run : Nat} {program : Dialogue Ending} {log : List Incident}
  {s s' : Shared} {w w' : Worker}

theorem Keeps.wake (h : Keeps run program log w) : Keeps run program log w.woken := by
  obtain ⟨hdisconnected, hlawful, hfollows⟩ := h
  obtain ⟨phase, last?, disconnected⟩ := w
  cases hfollows with
  | running follows heard => exact ⟨hdisconnected, hlawful, .running follows heard⟩
  | asking hrun follows unheard =>
      exact ⟨hdisconnected, hlawful, .asking hrun follows fun other hother =>
        ⟨(unheard other hother).1, (unheard other hother).2.woken⟩⟩

/-- A line is sent if somebody listens, and else the run counts as disconnected. -/
theorem exists_step?_tell (interpreter : Interpreter) (s : Shared) {text : String}
    {next : Unit → Dialogue Ending} (phase : w.phase = .running run (.tell text next)) :
    ∃ s', w.step? interpreter s = some (s', ⟨.running run (next ()), w.lastRequest?,
      w.disconnected || !s.listening⟩) := by
  rw [step?, phase]
  cases hlistening : s.listening with
  | true => simp [advance, Shared.sendEvent?, Shared.send?, hlistening]
  | false => simp [advance, Shared.sendEvent?, Shared.send?, hlistening]

theorem Keeps.concat (h : Keeps run program log w) {incident : Incident}
    (hincident : Lawful run log incident)
    (hdisconnected : w'.disconnected = (w.disconnected || incident.isLostLine))
    (follows : w'.phase.Follows run program (log ++ [incident])) :
    Keeps run program (log ++ [incident]) w' :=
  ⟨by rw [hdisconnected, h.disconnected, List.any_append, List.any_cons, List.any_nil,
      Bool.or_false], h.lawful.concat hincident, follows⟩

theorem Keeps.step_running {d : Dialogue Ending} (h : Keeps run program log w)
    (phase : w.phase = .running run d) (follows : program.Follows log d)
    (heard : ∀ request, log.getLast? ≠ some (.requested request false))
    (going : w.ending? = none) (hstep : w.step? interpreter s = some (s', w')) :
    Keeps run program (log ++ (w.incident? s).toList) w' := by
  have hrequest {incident : Incident} (request : Request)
      (hlast : log.getLast? = some (requested request false)) :
      incident = answered request.prompt "" := (heard request hlast).elim
  cases d with
  | done ending => simp [ending?, phase] at going
  | check next =>
      have hincident : w.incident? s = some (.checked s.generation (w.isCanceled s run)) := by
        rw [incident?, phase]
      rw [step?, phase] at hstep
      obtain ⟨rfl, rfl⟩ := Prod.mk.inj (Option.some.inj hstep)
      rw [hincident]
      refine h.concat ⟨?_, hrequest⟩ (Bool.or_false _).symm (.running (follows.check _ _) (by simp))
      rintro _ _ ⟨⟩
      rw [isCanceled, h.disconnected]
  | tell text next =>
      have hincident : w.incident? s = some (.told text s.listening) := by rw [incident?, phase]
      obtain ⟨s'', htell⟩ := exists_step?_tell interpreter s phase
      obtain ⟨rfl, rfl⟩ := Prod.mk.inj (Option.some.inj (hstep.symm.trans htell))
      rw [hincident]
      exact h.concat ⟨fun _ _ hcheck => (by cases hcheck), hrequest⟩ rfl
        (.running (follows.tell _) (by simp))
  | ask prompt next =>
      have hincident : w.incident? s = none := by rw [incident?, phase]
      rw [step?, phase] at hstep
      obtain ⟨rfl, rfl⟩ := Prod.mk.inj (Option.some.inj hstep)
      rw [hincident, Option.toList_none, List.append_nil]
      exact ⟨h.disconnected, h.lawful, .asking rfl follows fun other hlast =>
        (heard other hlast).elim⟩

theorem Keeps.step_asking {request : Request} {stage : Asking} {next : String → Dialogue Ending}
    (h : Keeps run program log w) (phase : w.phase = .asking request stage next)
    (hrun : request.run = run) (follows : program.Follows log (.ask request.prompt next))
    (unheard : ∀ other, log.getLast? = some (.requested other false) →
      other = request ∧ stage.GivesUp)
    (hstep : w.step? interpreter s = some (s', w')) :
    Keeps run program (log ++ (w.incident? s).toList) w' := by
  obtain ⟨text, rfl, rfl⟩ | ⟨moving, rfl⟩ := step?_asking_cases phase hstep
  · have hincident : w.incident? s = some (.answered request.prompt text) := by
      rw [incident?, phase]
    rw [hincident]
    refine h.concat ⟨fun _ _ hcheck => (by cases hcheck), fun other hlast => ?_⟩
      (Bool.or_false _).symm (hrun ▸ .running (follows.answer text) (by simp))
    obtain ⟨rfl, rfl⟩ := unheard other hlast
    rfl
  · by_cases hsending : stage = .sending
    · subst hsending
      have hincident : w.incident? s = some (.requested request s.listening) := by
        rw [incident?, phase]
      rw [hincident]
      refine h.concat ⟨fun _ _ hcheck => (by cases hcheck), fun other hlast => ?_⟩
        (Bool.or_false _).symm (.asking hrun (follows.request request _) fun other hlast => ?_)
      · exact (unheard other hlast).2.elim
      · rw [List.getLast?_concat, Option.some.injEq, Incident.requested.injEq] at hlast
        refine ⟨hlast.1.symm, ?_⟩
        simp [Asking.step, Shared.sendEvent?, Shared.send?, hlast.2, Asking.GivesUp]
    · have hincident : w.incident? s = none := by
        rw [incident?, phase]
        cases stage with
        | sending => exact (hsending rfl).elim
        | returned text => cases moving
        | _ => rfl
      rw [hincident, Option.toList_none, List.append_nil]
      exact ⟨h.disconnected, h.lawful, .asking hrun follows fun other hlast =>
        ⟨(unheard other hlast).1, (unheard other hlast).2.step request s⟩⟩

theorem Keeps.step (h : Keeps run program log w) (going : w.ending? = none)
    (hstep : w.step? interpreter s = some (s', w')) :
    Keeps run program (log ++ (w.incident? s).toList) w' := by
  have hfollows := h.follows
  generalize hphase : w.phase = phase at hfollows
  cases hfollows with
  | running follows heard => exact h.step_running hphase follows heard going hstep
  | asking hrun follows unheard => exact h.step_asking hphase hrun follows unheard hstep

theorem Stint.keeps (h : Stint interpreter run program log s w) : Keeps run program log w := by
  induction h with
  | start phase fresh =>
      refine ⟨fresh, each_nil, ?_⟩
      rw [phase]
      exact .running .refl (by simp)
  | step h going hstep ih => exact ih.step going hstep
  | change h s' ih => exact ih
  | wake h ih => exact ih.wake

end Worker

/-! ### Programs -/

namespace Interpreter

open HostCall

variable {source : String} {patience : Nat} {log : List Incident} {d : Dialogue Ending}

/-- A program that has told a line is over or makes a check. -/
theorem done_or_check_of_tell {text : String} {sent : Bool}
    (h : (script patience source).Follows (log ++ [.told text sent]) d) :
    (∃ ending, d = .done ending) ∨ ∃ next, d = .check next := by
  -- Which replies come next does not matter: the calls made so far are those of the log.
  have hcalls := h.calls []
  rw [List.filterMap_append, List.append_assoc] at hcalls
  cases hprogram : Program.ofSource source with
  | error fault =>
      rw [script, hprogram] at hcalls
      simp [Dialogue.calls, call?] at hcalls
  | ok program =>
      rw [calls_script .replaying hprogram] at hcalls
      have hpaced : Paced (Statement.withInnerAll program)
          (log.filterMap call? ++ .tell text :: d.calls .replaying []) :=
        hcalls ▸ Statement.paced_runAll patience (List.Subset.refl _) [] _
      have hhead := hpaced.head_eq_check_of_tell
      cases d with
      | done ending => exact .inl ⟨ending, rfl⟩
      | check next => exact .inr ⟨next, rfl⟩
      | ask prompt next => cases hhead (.ask prompt) rfl
      | tell text next => cases hhead (.tell text) rfl

end Interpreter

namespace Worker

/-- What comes of a run after it has lost a line: the run is over, or it comes to a check, which is
answered with yes and ends it. -/
inductive WindsUp (run : Nat) : List Incident → Phase → Prop
  | finished (ending : Ending) : WindsUp run [] (.running run (.done ending))
  | toCheck {next : Bool → Dialogue Ending} (heeds : next true = .done .canceled) :
    WindsUp run [] (.running run (.check next))
  | canceled (generation : Nat) :
    WindsUp run [.checked generation true] (.running run (.done .canceled))

variable {interpreter : Interpreter} {run patience : Nat} {source : String} {log : List Incident}
  {s s' : Shared} {w w' : Worker}

/-- Only a program that tells a line meets that a line was told. -/
theorem phase_of_incident?_told {text : String} {sent : Bool}
    (h : w.incident? s = some (.told text sent)) :
    ∃ run next, w.phase = .running run (.tell text next) := by
  unfold incident? at h
  split at h <;> simp_all

theorem Keeps.step_tell {text : String}
    (h : Keeps run (Interpreter.script patience source) log w)
    (hstep : w.step? interpreter s = some (s', w'))
    (hincident : w.incident? s = some (.told text false)) : WindsUp run [] w'.phase := by
  obtain ⟨run', next, phase⟩ := phase_of_incident?_told hincident
  have going : w.ending? = none := by rw [ending?, phase]
  have hkeeps := h.step going hstep
  obtain ⟨s'', htell⟩ := exists_step?_tell interpreter s phase
  obtain ⟨rfl, rfl⟩ := Prod.mk.inj (Option.some.inj (hstep.symm.trans htell))
  have hfollows := hkeeps.follows
  rw [hincident] at hfollows
  cases hfollows with
  | running follows heard =>
      have hheeds := follows.heeds (Interpreter.script_heeds patience source)
      rcases Interpreter.done_or_check_of_tell follows with ⟨ending, hdone⟩ | ⟨next', hcheck⟩
      · rw [hdone]
        exact .finished ending
      · rw [hcheck] at hheeds ⊢
        rcases hheeds with ⟨⟨_, hnext, rfl⟩, -⟩ | ⟨_, hdone, -⟩
        · exact .toCheck hnext
        · cases hdone

theorem Keeps.step_check {program : Dialogue Ending} {next : Bool → Dialogue Ending}
    (h : Keeps run program log w) (phase : w.phase = .running run (.check next))
    (heeds : next true = .done .canceled) (hlost : log.any isLostLine = true)
    (hstep : w.step? interpreter s = some (s', w')) :
    w.incident? s = some (.checked s.generation true) ∧
      w'.phase = .running run (.done .canceled) := by
  have hcanceled : w.isCanceled s run = true := by rw [isCanceled, h.disconnected, hlost]; rfl
  rw [step?, phase] at hstep
  obtain ⟨rfl, rfl⟩ := Prod.mk.inj (Option.some.inj hstep)
  rw [incident?, phase]
  simp only [hcanceled, heeds, and_self]

theorem Stint.windsUp (h : Stint interpreter run (Interpreter.script patience source) log s w) :
    ∀ before text after, log = before ++ .told text false :: after →
      WindsUp run after w.phase := by
  induction h with
  | start phase fresh => simp
  | @step log s s' w w' h going hstep ih =>
      intro before text after hlog
      have hover {ending : Ending} (phase : w.phase = .running run (.done ending)) : False := by
        simp [ending?, phase] at going
      cases hincident : w.incident? s with
      | none =>
          -- A run that winds up makes no step but a check, and that is an incident.
          rw [hincident, Option.toList_none, List.append_nil] at hlog
          have hwinds := ih before text after hlog
          generalize hphase : w.phase = phase at hwinds
          cases hwinds with
          | finished ending => exact (hover hphase).elim
          | toCheck heeds => simp [incident?, hphase] at hincident
          | canceled generation => exact (hover hphase).elim
      | some incident =>
          rw [hincident] at hlog
          rcases last_or_earlier hlog with ⟨rfl, rfl, rfl⟩ | ⟨rest, hbefore, rfl⟩
          · exact h.keeps.step_tell hstep hincident
          · have hwinds := ih before text rest hbefore
            generalize hphase : w.phase = phase at hwinds
            cases hwinds with
            | finished ending => exact (hover hphase).elim
            | canceled generation => exact (hover hphase).elim
            | toCheck heeds =>
                have hlost : log.any isLostLine = true := by simp [hbefore, isLostLine]
                obtain ⟨hchecked, hphase'⟩ := h.keeps.step_check hphase heeds hlost hstep
                obtain rfl := Option.some.inj (hincident.symm.trans hchecked)
                rw [hphase']
                exact .canceled _
  | change h s' ih => exact ih
  | @wake log s w h ih =>
      intro before text after hlog
      have hwinds := ih before text after hlog
      obtain ⟨phase, last?, disconnected⟩ := w
      cases hwinds with
      | finished ending => exact .finished ending
      | toCheck heeds => exact .toCheck heeds
      | canceled generation => exact .canceled generation

/-- A line that cannot be sent cancels its run, a request that cannot be sent does not. A check is
answered with yes exactly if a line of the run was lost before or the run is not the current one. A
request that could not be sent gets the empty text, and the run goes on with it. When a program has
lost a line, it is over or makes one more check, which ends it as canceled. -/
theorem lost_line_cancels {program : Dialogue Ending}
    (h : Stint interpreter run program log s w) :
    (∀ before generation canceled after, log = before ++ .checked generation canceled :: after →
      canceled = (before.any isLostLine || generation != run)) ∧
    (∀ before request after, log = before ++ .requested request false :: after →
      after = [] ∨ ∃ rest, after = .answered request.prompt "" :: rest) ∧
    (∀ patience source, program = Interpreter.script patience source →
      ∀ before text after, log = before ++ .told text false :: after →
        WindsUp run after w.phase) := by
  refine ⟨fun before generation canceled after hlog => ?_, fun before request after hlog => ?_, ?_⟩
  · exact (h.keeps.lawful before _ after hlog).check generation canceled rfl
  · cases after with
    | nil => exact .inl rfl
    | cons incident rest =>
        have hsplit : log = before ++ [.requested request false] ++ incident :: rest := by
          simpa using hlog
        have hanswer := (h.keeps.lawful _ incident rest hsplit).request request (by simp)
        exact .inr ⟨rest, by rw [hanswer]⟩
  · rintro patience source rfl
    exact h.windsUp

/-- Goes on with a run for a number of steps, with nobody else moving. -/
def follow (interpreter : Interpreter) :
    Nat → List Incident → Shared → Worker → List Incident × Shared × Worker
  | 0, log, s, w => (log, s, w)
  | steps + 1, log, s, w =>
    match w.ending?, w.step? interpreter s with
    | none, some (s', w') => follow interpreter steps (log ++ (w.incident? s).toList) s' w'
    | _, _ => (log, s, w)

theorem Stint.follow {program : Dialogue Ending} (h : Stint interpreter run program log s w)
    (steps : Nat) : Stint interpreter run program (follow interpreter steps log s w).1
      (follow interpreter steps log s w).2.1 (follow interpreter steps log s w).2.2 := by
  induction steps generalizing log s w with
  | zero => exact h
  | succ steps ih =>
      rw [Worker.follow]
      split
      · rename_i s' w' going hstep
        exact ih (h.step going hstep)
      · exact h

/-- A channel with nobody on the other side of it. -/
def deserted : Shared :=
  { Shared.ofChannel ⟨.zeros, 0, 8, true⟩ 1 with listening := false }

/-- What a program meets when nobody is there from the start. -/
def aloneWith (source : String) : List Incident × Shared × Worker :=
  follow (Interpreter.script 0) 40 [] deserted (.onProgram 1 (Interpreter.script 0 source))

theorem stint_aloneWith (source : String) :
    Stint (Interpreter.script 0) 1 (Interpreter.script 0 source) (aloneWith source).1
      (aloneWith source).2.1 (aloneWith source).2.2 :=
  Stint.follow (.start rfl rfl) 40

theorem lost_line_cancels_echo :
    (aloneWith "input A\noutput A\noutput 2").1 =
      [.checked 1 false, .requested ⟨1, 1, "A"⟩ false, .answered "A" "", .checked 1 false] ++
        .told "" false :: [.checked 1 true] ∧
    WindsUp 1 [.checked 1 true] (aloneWith "input A\noutput A\noutput 2").2.2.phase := by
  have hlog : (aloneWith "input A\noutput A\noutput 2").1 =
      [.checked 1 false, .requested ⟨1, 1, "A"⟩ false, .answered "A" "", .checked 1 false] ++
        .told "" false :: [.checked 1 true] := by
    decide +kernel
  obtain ⟨-, -, hwinds⟩ := lost_line_cancels (stint_aloneWith "input A\noutput A\noutput 2")
  exact ⟨hlog, hwinds 0 _ rfl _ _ _ hlog⟩

/-- A program whose first request could not be sent is not canceled: it goes on to its second
statement and finishes. -/
theorem lost_request_is_unheeded :
    Stint (Interpreter.script 0) 1 (Interpreter.script 0 "input A\ninput B")
      (aloneWith "input A\ninput B").1 (aloneWith "input A\ninput B").2.1
      (aloneWith "input A\ninput B").2.2 ∧
    (aloneWith "input A\ninput B").1 =
      [.checked 1 false, .requested ⟨1, 1, "A"⟩ false, .answered "A" "", .checked 1 false,
        .requested ⟨1, 2, "B"⟩ false, .answered "B" ""] ∧
    (aloneWith "input A\ninput B").2.2.ending? = some (.finished Interpreter.summary) :=
  ⟨stint_aloneWith _, by decide +kernel, by decide +kernel⟩

end Worker

end Pseudocode
