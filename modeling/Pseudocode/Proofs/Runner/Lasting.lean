import Pseudocode.Proofs.Remarks
import Pseudocode.Proofs.Runner.Sound

/-!
The worker stays until the foreground closes: nobody else tells it to stop, and it does not break
down if no program does.
-/

namespace Pseudocode

/-- Whether the foreground closes or has closed. -/
def Activity.isLeaving : Activity → Bool
  | .superseding none | .resetting .shutdown | .waking .shutdown | .ordering .shutdown => true
  | .joining | .closed => true
  | _ => false

/-- Whether the worker has not stopped and its program does not break down. -/
def Worker.Lasting (w : Worker) : Prop :=
  match w.phase with
  | .stopped _ => False
  | .running _ program => program.Ends (fun _ => True) (· ≠ .crashed)
  | .asking _ _ next => ∀ text, (next text).Ends (fun _ => True) (· ≠ .crashed)
  | _ => True

namespace Worker

theorem Lasting.hasStopped {w : Worker} (lasting : w.Lasting) : w.hasStopped = false := by
  obtain ⟨phase, last?, disconnected⟩ := w
  cases phase with
  | stopped => exact lasting.elim
  | _ => rfl

theorem Lasting.woken {w : Worker} (lasting : w.Lasting) : w.woken.Lasting := by
  obtain ⟨phase, last?, disconnected⟩ := w
  cases phase <;> exact lasting

theorem Turn.lasting {interpreter : Interpreter} {s s' : Shared} {w w' : Worker}
    (turn : Turn interpreter s w s' w') (lasting : w.Lasting) (unasked : .shutdown ∉ s.commands)
    (sturdy : ∀ source, (interpreter source).Ends (fun _ => True) (· ≠ .crashed)) :
    w'.Lasting ∧ .shutdown ∉ s'.commands := by
  cases turn with
  | prepare w first | accept w first =>
      rw [first] at unasked
      exact ⟨trivial, fun hmem => unasked (List.mem_cons_of_mem _ hmem)⟩
  | retire w first =>
      rw [first] at unasked
      exact (unasked List.mem_cons_self).elim
  | greet | skip | refuse | reject | conclude | leave | report => exact ⟨trivial, unasked⟩
  | commence => exact ⟨sturdy _, unasked⟩
  | check => exact ⟨lasting _ trivial, unasked⟩
  | tell | ask => exact ⟨lasting, unasked⟩
  | crash => exact (lasting rfl).elim
  | stage w turn => exact ⟨lasting, turn.commands ▸ unasked⟩
  | resume => exact ⟨lasting _, unasked⟩

end Worker

namespace Runner

/-- Whether the worker stays as long as the foreground does. -/
def Lasting (s : Runner) : Prop :=
  s.foreground.activity.isLeaving = true ∨ (s.worker.Lasting ∧ .shutdown ∉ s.shared.commands)

variable {interpreter : Interpreter} {capacity : Nat} {s t : Runner} {h deeds : List Deed}

theorem Lasting.turn (lasting : s.Lasting) {shared : Shared} {worker : Worker}
    (turn : Worker.Turn interpreter s.shared s.worker shared worker)
    (sturdy : ∀ source, (interpreter source).Ends (fun _ => True) (· ≠ .crashed)) :
    ({ s with shared, worker } : Runner).Lasting :=
  lasting.imp_right fun h => turn.lasting h.1 h.2 sturdy

theorem Lasting.act (lasting : s.Lasting) (act : Act s t) : t.Lasting := by
  cases act with
  | depart | wakeToShutDown | shutDown | shutDownInVain | join => exact .inl rfl
  | reset s w c =>
      rename_i errand
      cases errand with
      | shutdown => exact .inl rfl
      | start | release => exact .inr (lasting.resolve_left (by rintro ⟨⟩))
  | supersede | orderInVain | orderRelease | look | lookInVain | write | announce | announceInVain
  | answered | takeNothing | drop | hear | readLine | probeInVain | retry | giveUp =>
      exact .inr (lasting.resolve_left (by rintro ⟨⟩))
  | wakeToStart | wakeToRelease | wakeToRead =>
      exact .inr ((lasting.resolve_left (by rintro ⟨⟩)).imp_left Worker.Lasting.woken)
  | order =>
      refine .inr ((lasting.resolve_left (by rintro ⟨⟩)).imp_right fun hcommands hmem => ?_)
      rcases List.mem_append.mp hmem with hmem | hmem
      · exact hcommands hmem
      · cases List.mem_singleton.mp hmem

theorem Lasting.begin (lasting : s.Lasting) (free : s.foreground.isFree = true) (call : Call) :
    (s.begin call).Lasting := by
  obtain ⟨shared, w, activity, active, ready, pending⟩ := s
  cases activity with
  | idle | returned =>
      cases call with
      | close => exact .inl rfl
      | start | receive | poll | reset => exact .inr (lasting.resolve_left (by rintro ⟨⟩))
      | submit text => cases pending <;> exact .inr (lasting.resolve_left (by rintro ⟨⟩))
  | _ => cases free

theorem Lasting.move (lasting : s.Lasting) (sound : Sound capacity s)
    (sturdy : ∀ source, (interpreter source).Ends (fun _ => True) (· ≠ .crashed))
    (move : Move interpreter s deeds t) : t.Lasting := by
  cases move with
  | call call free => exact lasting.begin free call
  | foreground h => exact lasting.act (act_of_foregroundStep? sound.shared.channel h)
  | worker h =>
      obtain ⟨shared, worker, turn, rfl⟩ := sound.turn_of_workerStep? h
      exact lasting.turn turn sturdy
  | spurious => exact lasting.imp_right fun h => h.imp_left Worker.Lasting.woken
  | post => exact lasting

theorem lasting_of_spawn (hspawn : spawn capacity = .ok s) : s.Lasting := by
  obtain rfl := eq_of_spawn hspawn
  exact .inr ⟨trivial, by simp [Shared.command, Shared.ofChannel]⟩

end Runner

end Pseudocode
