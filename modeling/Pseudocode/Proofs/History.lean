import Pseudocode.Runner

/-!
Histories: what can be seen of a runner while it moves, as a list of deeds in the order in which
they happen. A history says which calls were begun and how they returned, which requests a program
made and which texts it got for them, and what came from outside.

`Course` has the runners that come of a given one together with their histories, for all orders in
which the two sides can move.
-/

namespace Pseudocode

inductive Deed where
  /-- The foreground begins a call, with a request pending or with none. -/
  | called (pending : Option Request) (call : Call)
  | replied (reply : Reply)
  /-- Somebody else puts a message into the inbox. -/
  | posted (message : Message)
  /-- The worker is woken for no reason. -/
  | stirred
  /-- A program makes a request. -/
  | asked (request : Request)
  /-- A request returns a text to the program. -/
  | handed (request : Request) (text : String)
  deriving DecidableEq, Repr

namespace Deed

/-- The answer that a call brings to the pending request. -/
def submission? : Deed → Option (Request × String)
  | called (some request) (.submit text) => some (request, text)
  | _ => none

def asked? : Deed → Option Request
  | asked request => some request
  | _ => none

def handed? : Deed → Option (Request × String)
  | handed request text => some (request, text)
  | _ => none

/-- The event that a call returns. -/
def heard? : Deed → Option Event
  | replied (.received (.event event)) => some event
  | _ => none

/-- The answers to pending requests, in their order. -/
def submissions (h : List Deed) : List (Request × String) := h.filterMap submission?

/-- The requests that programs made, in their order. -/
def requests (h : List Deed) : List Request := h.filterMap asked?

/-- The texts that programs got for their requests, in their order. -/
def returns (h : List Deed) : List (Request × String) := h.filterMap handed?

@[simp] theorem submissions_append (h h' : List Deed) :
    submissions (h ++ h') = submissions h ++ submissions h' := List.filterMap_append

@[simp] theorem requests_append (h h' : List Deed) :
    requests (h ++ h') = requests h ++ requests h' := List.filterMap_append

@[simp] theorem returns_append (h h' : List Deed) :
    returns (h ++ h') = returns h ++ returns h' := List.filterMap_append

section

variable (request : Request) (text : String)

@[simp] theorem submissions_asked : submissions [asked request] = [] := rfl

@[simp] theorem requests_asked : requests [asked request] = [request] := rfl

@[simp] theorem returns_asked : returns [asked request] = [] := rfl

@[simp] theorem submissions_handed : submissions [handed request text] = [] := rfl

@[simp] theorem requests_handed : requests [handed request text] = [] := rfl

@[simp] theorem returns_handed : returns [handed request text] = [(request, text)] := rfl

end

/-- Whether a call, if the deed begins one, is one that is admitted. -/
def Calls (mayCall : Call → Prop) : Deed → Prop
  | called _ call => mayCall call
  | _ => True

theorem Calls.mono {mayCall mayCall' : Call → Prop} {deed : Deed} (h : deed.Calls mayCall)
    (hmay : ∀ call, mayCall call → mayCall' call) : deed.Calls mayCall' := by
  cases deed with
  | called _ call => exact hmay call h
  | _ => trivial

/-- Whether the message, if the deed brings one from outside, is no event: only the worker tells of
events. -/
def Honest : Deed → Prop
  | posted (.event _) => False
  | _ => True

theorem honest_posted {message : Message} :
    (posted message).Honest ↔ ∀ event, message ≠ .event event := by
  cases message <;> simp [Honest]

/-- Whether the deed is one of the two sides of a runner. -/
def Unaided : Deed → Prop
  | posted _ | stirred => False
  | _ => True

theorem Unaided.honest {deed : Deed} (h : deed.Unaided) : deed.Honest := by
  cases deed with
  | posted => exact h.elim
  | _ => trivial

end Deed

/-- The deed in the next step of a worker, if there is one. -/
def Worker.deeds (w : Worker) : List Deed :=
  match w.phase with
  | .running run (.ask prompt _) => [.asked (w.newRequest run prompt)]
  | .asking request (.returned text) _ => [.handed request text]
  | _ => []

/-- The return of a call, if one has just returned. -/
def Foreground.deeds (c : Foreground) : List Deed := (c.reply?.map .replied).toList

/-- A worker does nothing that can be seen but make requests and get texts for them. -/
theorem Worker.forall_mem_deeds {P : Deed → Prop} (w : Worker)
    (asked : ∀ request, P (.asked request)) (handed : ∀ request text, P (.handed request text)) :
    ∀ deed ∈ w.deeds, P deed := by
  unfold Worker.deeds
  split
  · exact List.forall_mem_singleton.mpr (asked _)
  · exact List.forall_mem_singleton.mpr (handed _ _)
  · exact List.forall_mem_nil P

/-- In a step of its own the foreground does nothing that can be seen but return. -/
theorem Foreground.forall_mem_deeds {P : Deed → Prop} (c : Foreground)
    (replied : ∀ reply, P (.replied reply)) : ∀ deed ∈ c.deeds, P deed := by
  unfold Foreground.deeds
  cases c.reply? with
  | none => exact List.forall_mem_nil P
  | some reply => exact List.forall_mem_singleton.mpr (replied reply)

namespace Deed

@[simp] theorem submissions_foreground (c : Foreground) : submissions c.deeds = [] :=
  List.filterMap_eq_nil_iff.mpr (c.forall_mem_deeds fun _ => rfl)

@[simp] theorem requests_foreground (c : Foreground) : requests c.deeds = [] :=
  List.filterMap_eq_nil_iff.mpr (c.forall_mem_deeds fun _ => rfl)

@[simp] theorem returns_foreground (c : Foreground) : returns c.deeds = [] :=
  List.filterMap_eq_nil_iff.mpr (c.forall_mem_deeds fun _ => rfl)

@[simp] theorem submissions_worker (w : Worker) : submissions w.deeds = [] :=
  List.filterMap_eq_nil_iff.mpr (w.forall_mem_deeds (fun _ => rfl) fun _ _ => rfl)

end Deed

namespace Runner

/-- One step of a runner with its deeds: the foreground begins a call, one of the two sides moves, a
sleeping worker wakes for no reason, or a message comes from outside. -/
inductive Move (interpreter : Interpreter) : Runner → List Deed → Runner → Prop
  | call {s : Runner} (call : Call) (free : s.foreground.isFree = true) :
    Move interpreter s (.called s.foreground.pending call :: (s.begin call).foreground.deeds)
      (s.begin call)
  | foreground {s t : Runner} (h : s.foregroundStep? = some t) :
    Move interpreter s t.foreground.deeds t
  | worker {s t : Runner} (h : s.workerStep? interpreter = some t) :
    Move interpreter s s.worker.deeds t
  | spurious (s : Runner) : Move interpreter s [.stirred] { s with worker := s.worker.woken }
  | post (s : Runner) (message : Message) : Move interpreter s [.posted message] (s.post message)

/-- What can become of a runner, with all that happens on the way. -/
inductive Course (interpreter : Interpreter) (s : Runner) : List Deed → Runner → Prop
  | rest : Course interpreter s [] s
  | move {h deeds : List Deed} {t u : Runner} (course : Course interpreter s h t)
    (move : Move interpreter t deeds u) : Course interpreter s (h ++ deeds) u

variable {interpreter : Interpreter} {s t u : Runner} {h h' deeds : List Deed}

theorem Course.single (move : Move interpreter s deeds t) : Course interpreter s deeds t :=
  Course.rest.move move

theorem Course.trans (first : Course interpreter s h t) (second : Course interpreter t h' u) :
    Course interpreter s (h ++ h') u := by
  induction second with
  | rest => simpa using first
  | move _ move ih =>
      rw [← List.append_assoc]
      exact ih.move move

theorem Course.cons (move : Move interpreter s deeds t) (course : Course interpreter t h u) :
    Course interpreter s (deeds ++ h) u :=
  (Course.single move).trans course

/-- A property of histories and runners holds along a course if each step keeps it. The steps may
be taken to be admitted if the whole history is. -/
theorem Course.invariant {admitted : Deed → Prop} {P : List Deed → Runner → Prop}
    (course : Course interpreter s h t) (hadmitted : ∀ deed ∈ h, admitted deed) (hs : P [] s)
    (hstep : ∀ h t deeds u, P h t → Move interpreter t deeds u →
      (∀ deed ∈ deeds, admitted deed) → P (h ++ deeds) u) : P h t := by
  induction course with
  | rest => exact hs
  | move course move ih =>
      have hbefore := ih fun deed hdeed => hadmitted deed (List.mem_append_left _ hdeed)
      exact hstep _ _ _ _ hbefore move fun deed hdeed =>
        hadmitted deed (List.mem_append_right _ hdeed)

end Runner

/-! ### Schedules -/

/-- Who makes the next step. -/
inductive Choice where
  | call (call : Call)
  | foreground
  | worker
  | spurious
  | post (message : Message)
  deriving DecidableEq, Repr

namespace Runner

variable {interpreter : Interpreter} {s t : Runner} {h : List Deed}

/-- The step that is chosen, if there is one. -/
def choose? (interpreter : Interpreter) (s : Runner) : Choice → Option (List Deed × Runner)
  | .call call =>
    if s.foreground.isFree then
      some (.called s.foreground.pending call :: (s.begin call).foreground.deeds, s.begin call)
    else none
  | .foreground => s.foregroundStep?.map fun t => (t.foreground.deeds, t)
  | .worker => (s.workerStep? interpreter).map fun t => (s.worker.deeds, t)
  | .spurious => some ([.stirred], { s with worker := s.worker.woken })
  | .post message => some ([.posted message], s.post message)

/-- Follows a schedule to its end, if all the steps are there. -/
def follow? (interpreter : Interpreter) : List Choice → Runner → Option (List Deed × Runner)
  | [], s => some ([], s)
  | choice :: choices, s => do
    let (deeds, t) ← s.choose? interpreter choice
    let (h, u) ← follow? interpreter choices t
    return (deeds ++ h, u)

theorem move_of_choose? {choice : Choice} (hchoose : s.choose? interpreter choice = some (h, t)) :
    Move interpreter s h t := by
  cases choice with
  | call call =>
      simp only [choose?] at hchoose
      split at hchoose
      · cases hchoose
        exact .call call ‹_›
      · cases hchoose
  | foreground =>
      obtain ⟨t, hstep, hpair⟩ := Option.map_eq_some_iff.mp hchoose
      cases hpair
      exact .foreground hstep
  | worker =>
      obtain ⟨t, hstep, hpair⟩ := Option.map_eq_some_iff.mp hchoose
      cases hpair
      exact .worker hstep
  | spurious =>
      cases hchoose
      exact .spurious s
  | post message =>
      cases hchoose
      exact .post s message

/-- A schedule that can be followed is a course. -/
theorem course_of_follow? {choices : List Choice}
    (hfollow : s.follow? interpreter choices = some (h, t)) : Course interpreter s h t := by
  induction choices generalizing s h with
  | nil =>
      cases hfollow
      exact .rest
  | cons choice choices ih =>
      simp only [follow?, Option.bind_eq_bind, Option.bind_eq_some_iff, Prod.exists] at hfollow
      obtain ⟨deeds, u, hchoose, h', t', hrest, hpair⟩ := hfollow
      cases hpair
      exact (ih hrest).cons (move_of_choose? hchoose)

/-- What is seen of a new runner when a schedule is followed is seen of one of its courses. -/
theorem course_of_spawn {α : Type} {capacity : Nat} {choices : List Choice}
    {view : List Deed × Runner → α} {seen : α}
    (hview : ((spawn capacity).toOption.bind (follow? interpreter choices)).map view = some seen) :
    ∃ s₀ h s, spawn capacity = .ok s₀ ∧ Course interpreter s₀ h s ∧ view (h, s) = seen := by
  cases hspawn : spawn capacity with
  | error error =>
      rw [hspawn] at hview
      cases hview
  | ok s₀ =>
      rw [hspawn] at hview
      obtain ⟨⟨h, s⟩, hfollow, hseen⟩ := Option.map_eq_some_iff.mp hview
      exact ⟨s₀, h, s, rfl, course_of_follow? hfollow, hseen⟩

/-- A survey makes its request, and the worker falls asleep in it. -/
def question : List Choice :=
  [.worker, .worker, .call (.start "name"), .foreground, .foreground, .foreground, .foreground] ++
    List.replicate 8 .worker

end Runner

end Pseudocode
