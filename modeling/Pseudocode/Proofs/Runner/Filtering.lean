import Pseudocode.Proofs.Frontend
import Pseudocode.Proofs.Runner.Agreement

/-!
What the foreground passes on, whatever comes into the inbox: messages of any sender, events of any
run in any order. It returns events of the run that was started last only, none after the end of
that run, and it has no request but one of that run. Lines that a user types all get through, in
order.
-/

namespace Pseudocode

namespace Deed

/-- Whether the deed begins a call that starts a run. -/
def isStart : Deed → Bool
  | called _ (.start _) => true
  | _ => false

/-- The number of runs that were started. -/
def starts (h : List Deed) : Nat := h.countP isStart

/-- The message that a call returns. -/
def received? : Deed → Option Message
  | replied (.received message) => some message
  | _ => none

def posted? : Deed → Option Message
  | posted message => some message
  | _ => none

/-- The lines that came into the inbox, and the ends of them. -/
def typed (h : List Deed) : List Message := (h.filterMap posted?).filter Message.isTyped

/-- The lines that calls returned, and the ends of them. -/
def read (h : List Deed) : List Message := (h.filterMap received?).filter Message.isTyped

/-- Whether the end of the run that was started last was heard. -/
def Over (h : List Deed) : Prop :=
  ∃ before event after, h = before ++ .replied (.received (.event event)) :: after ∧
    event.isTerminal = true ∧ starts after = 0

variable {h deeds : List Deed}

@[simp] theorem starts_append (h h' : List Deed) : starts (h ++ h') = starts h + starts h' :=
  List.countP_append

@[simp] theorem typed_append (h h' : List Deed) : typed (h ++ h') = typed h ++ typed h' := by
  simp [typed]

@[simp] theorem read_append (h h' : List Deed) : read (h ++ h') = read h ++ read h' := by
  simp [read]

@[simp] theorem typed_called (pending : Option Request) (call : Call) :
    typed [called pending call] = [] := rfl

@[simp] theorem read_called (pending : Option Request) (call : Call) :
    read [called pending call] = [] := rfl

@[simp] theorem typed_replied (reply : Reply) : typed [replied reply] = [] := rfl

theorem starts_eq_zero (hnone : ∀ deed ∈ h, deed.isStart = false) : starts h = 0 := by
  simpa [starts, List.countP_eq_zero] using hnone

theorem typed_eq_nil (hnone : ∀ deed ∈ h, deed.posted? = none) : typed h = [] := by
  rw [typed, List.filterMap_eq_nil_iff.mpr hnone, List.filter_nil]

theorem read_eq_nil (hnone : ∀ deed ∈ h, deed.received? = none) : read h = [] := by
  rw [read, List.filterMap_eq_nil_iff.mpr hnone, List.filter_nil]

/-- A deed of two histories, one after the other, is a deed of one of them. -/
theorem cut_append {before after : List Deed} {deed : Deed}
    (heq : h ++ deeds = before ++ deed :: after) :
    (∃ front, before = h ++ front ∧ deeds = front ++ deed :: after) ∨
    ∃ back, h = before ++ deed :: back ∧ after = back ++ deeds := by
  rcases List.append_eq_append_iff.mp heq with ⟨front, hbefore, hdeeds⟩ | ⟨back, hh, hback⟩
  · exact .inl ⟨front, hbefore, hdeeds⟩
  · rcases List.cons_eq_append_iff.mp hback with ⟨rfl, hdeeds⟩ | ⟨back, rfl, hafter⟩
    · exact .inl ⟨[], by simpa using hh.symm, hdeeds⟩
    · exact .inr ⟨back, hh, hafter⟩

theorem over_append (hover : Over (h ++ deeds)) : Over deeds ∨ Over h ∧ starts deeds = 0 := by
  obtain ⟨before, event, after, heq, hend, hnone⟩ := hover
  rcases cut_append heq with ⟨front, -, hdeeds⟩ | ⟨back, hh, rfl⟩
  · exact .inl ⟨front, event, after, hdeeds, hend, hnone⟩
  · rw [starts_append] at hnone
    exact .inr ⟨⟨before, event, back, hh, hend, by omega⟩, by omega⟩

theorem not_over_of_unheard (unheard : ∀ deed ∈ h, deed.received? = none) : ¬Over h := by
  rintro ⟨before, event, after, rfl, -, -⟩
  cases unheard (.replied (.received (.event event))) (by simp)

/-- A run is over that was over before, or whose end is what the call returns. -/
theorem Over.of_reply {reply : Reply} (hover : Over (h ++ [.replied reply])) :
    Over h ∨ ∃ event, reply = .received (.event event) ∧ event.isTerminal = true := by
  rcases over_append hover with ⟨before, event, after, heq, hend, -⟩ | ⟨hbefore, -⟩
  · cases before with
    | nil => exact .inr ⟨event, Deed.replied.inj (List.cons.inj heq).1, hend⟩
    | cons deed before => simp at heq
  · exact .inl hbefore

/-- Whether each event that was heard of a run is one of the run that was started last, before its
end; and each call that started a run told its number. -/
structure Told (h : List Deed) : Prop where
  heard : ∀ before event after run, h = before ++ .replied (.received (.event event)) :: after →
    event.run? = some run → run = starts before ∧ ¬Over before
  started : ∀ before run after, h = before ++ .replied (.started run) :: after →
    run = starts before

theorem told_nil : Told [] :=
  ⟨fun before _ _ _ heq => by simp at heq, fun before _ _ heq => by simp at heq⟩

theorem Told.append (told : Told h)
    (heard : ∀ before event after run,
      deeds = before ++ .replied (.received (.event event)) :: after → event.run? = some run →
        run = starts (h ++ before) ∧ ¬Over (h ++ before))
    (started : ∀ before run after, deeds = before ++ .replied (.started run) :: after →
      run = starts (h ++ before)) : Told (h ++ deeds) := by
  constructor
  · intro before event after run heq hrun
    rcases cut_append heq with ⟨front, rfl, hdeeds⟩ | ⟨back, hh, -⟩
    · exact heard front event after run hdeeds hrun
    · exact told.heard before event back run hh hrun
  · intro before run after heq
    rcases cut_append heq with ⟨front, rfl, hdeeds⟩ | ⟨back, hh, -⟩
    · exact started front run after hdeeds
    · exact told.started before run back hh

/-- Deeds that return nothing that came into the inbox, and no new run, tell of nothing. -/
theorem Told.quiet (told : Told h) (unheard : ∀ deed ∈ deeds, deed.received? = none)
    (unstarted : ∀ run, .replied (.started run) ∉ deeds) : Told (h ++ deeds) := by
  refine told.append ?_ ?_
  · rintro before event after run rfl -
    cases unheard (.replied (.received (.event event))) (by simp)
  · rintro before run after rfl
    exact (unstarted run (by simp)).elim

theorem Told.reply (told : Told h) {reply : Reply}
    (heard : ∀ event run, reply = .received (.event event) → event.run? = some run →
      run = starts h ∧ ¬Over h)
    (started : ∀ run, reply = .started run → run = starts h) : Told (h ++ [.replied reply]) := by
  have hsingle : ∀ {before after other}, [Deed.replied reply] = before ++ .replied other :: after →
      before = [] ∧ reply = other := by
    intro before after other heq
    cases before with
    | nil => exact ⟨rfl, Deed.replied.inj (List.cons.inj heq).1⟩
    | cons deed before => simp at heq
  refine told.append ?_ ?_
  · intro before event after run heq hrun
    obtain ⟨rfl, hreply⟩ := hsingle heq
    rw [List.append_nil]
    exact heard event run hreply hrun
  · intro before run after heq
    obtain ⟨rfl, hreply⟩ := hsingle heq
    rw [List.append_nil]
    exact started run hreply

/-- Events that were heard before are of no later run, and none of them has ended the run. -/
theorem Told.earlier (told : Told h) {before after : List Deed} {event earlier : Event} {run : Nat}
    (heq : h = before ++ .replied (.received (.event event)) :: after)
    (hrun : event.run? = some run)
    (hearlier : .replied (.received (.event earlier)) ∈ before) :
    (∀ run', earlier.run? = some run' → run' ≤ run) ∧
      (earlier.isTerminal = true → earlier.run? ≠ some run) := by
  obtain ⟨rfl, going⟩ := told.heard before event after run heq hrun
  obtain ⟨front, back, rfl⟩ := List.append_of_mem hearlier
  rw [List.append_assoc, List.cons_append] at heq
  have hstarts : starts (front ++ .replied (.received (.event earlier)) :: back) =
      starts front + starts back := starts_append front _
  constructor
  · intro run' hrun'
    have hnumber := (told.heard front earlier _ run' heq hrun').1
    omega
  · intro hend hsame
    have hnumber := (told.heard front earlier _ _ heq hsame).1
    exact going ⟨front, earlier, back, rfl, hend, by omega⟩

end Deed

theorem typed_foreground (c : Foreground) : Deed.typed c.deeds = [] := by
  have hnone : c.deeds.filterMap Deed.posted? = [] :=
    List.filterMap_eq_nil_iff.mpr (c.forall_mem_deeds fun _ => rfl)
  rw [Deed.typed, hnone, List.filter_nil]

/-- What the worker sends leaves the lines as they are. -/
theorem Worker.Turn.typed {interpreter : Interpreter} {s s' : Shared} {w w' : Worker}
    (turn : Worker.Turn interpreter s w s' w') :
    s'.inbox.filter Message.isTyped = s.inbox.filter Message.isTyped := by
  cases turn with
  | greet | reject | tell | report => simp [Shared.post, Message.isTyped]
  | stage w turn =>
      cases turn with
      | send => simp [Shared.post, Message.isTyped]
      | _ => rfl
  | _ => rfl

/-- Whether the next step makes the current run stale, for a new one. -/
def Activity.isSuperseding : Activity → Bool
  | superseding (some _) => true
  | _ => false

namespace Runner

open Deed

variable {interpreter : Interpreter} {capacity : Nat} {s s₀ t : Runner} {h deeds : List Deed}

/-- Whether a runner with a history is one that passes on what it should. -/
structure Filters (h : List Deed) (s : Runner) : Prop where
  numbered : starts h + s.foreground.activity.isDeparting.toNat =
    s.shared.generation + s.foreground.activity.isSuperseding.toNat
  active : ∀ run, s.foreground.active = some run →
    run = starts h ∨ s.foreground.activity.isSuperseding = true
  ordered : ∀ run, s.foreground.activity.run? = some run → run = starts h
  pending : ∀ request, s.foreground.pending = some request →
    s.foreground.active = some request.run ∨ s.foreground.activity.isSuperseding = true ∨
      s.foreground.activity.isRestarting = true
  ended : Over h → s.foreground.active = none ∧ s.foreground.pending = none ∧
    s.foreground.activity.isSuperseding = false
  told : Told h
  typed : typed h = read h ++ s.shared.inbox.filter Message.isTyped

theorem filters_of_spawn (hspawn : spawn capacity = .ok s) : Filters [] s := by
  obtain rfl := eq_of_spawn hspawn
  refine ⟨rfl, ?_, ?_, ?_, ?_, told_nil, rfl⟩
  · exact fun run hrun => nomatch hrun
  · exact fun run hrun => nomatch hrun
  · exact fun request hrequest => nomatch hrequest
  · exact fun _ => ⟨rfl, rfl, rfl⟩

/-- A step in which no run is started, and nothing is returned that came into the inbox. -/
theorem Filters.quiet (filters : Filters h s)
    (plain : ∀ deed ∈ deeds, deed.isStart = false ∧ deed.received? = none ∧
      ∀ run, deed ≠ .replied (.started run))
    (active : t.foreground.active = s.foreground.active)
    (pending : ∀ request, t.foreground.pending = some request →
      s.foreground.pending = some request ∧ (s.foreground.activity.isRestarting = true →
        t.foreground.activity.isRestarting = true))
    (numbered : t.shared.generation + s.foreground.activity.isDeparting.toNat =
      s.shared.generation + t.foreground.activity.isDeparting.toNat)
    (superseding : t.foreground.activity.isSuperseding = s.foreground.activity.isSuperseding)
    (ordered : ∀ run, t.foreground.activity.run? = some run →
      s.foreground.activity.run? = some run)
    (typed : t.shared.inbox.filter Message.isTyped =
      s.shared.inbox.filter Message.isTyped ++ Deed.typed deeds) : Filters (h ++ deeds) t := by
  have hstarts : starts (h ++ deeds) = starts h := by
    rw [starts_append, starts_eq_zero fun deed hdeed => (plain deed hdeed).1, Nat.add_zero]
  have unheard : ∀ deed ∈ deeds, deed.received? = none := fun deed hdeed => (plain deed hdeed).2.1
  refine ⟨?_, ?_, ?_, fun request hrequest => ?_, fun hover => ?_, ?_, ?_⟩
  · have hnumbered := filters.numbered
    rw [hstarts, superseding]
    omega
  · rw [hstarts, active, superseding]
    exact filters.active
  · rw [hstarts]
    exact fun run hrun => filters.ordered run (ordered run hrun)
  · obtain ⟨hbefore, restarting⟩ := pending request hrequest
    rw [active, superseding]
    exact (filters.pending request hbefore).imp_right (Or.imp_right restarting)
  · obtain ⟨hactive, hpending, hsuperseding⟩ :=
      filters.ended ((over_append hover).resolve_left (not_over_of_unheard unheard)).1
    rw [active, superseding]
    refine ⟨hactive, Option.eq_none_iff_forall_ne_some.mpr fun request hrequest => ?_, hsuperseding⟩
    exact Option.some_ne_none request ((pending request hrequest).1.symm.trans hpending)
  · exact filters.told.quiet unheard fun run hmem => (plain _ hmem).2.2 run rfl
  · rw [typed_append, read_append, read_eq_nil unheard, List.append_nil, filters.typed, typed,
      List.append_assoc]

theorem plain_deeds {c : Foreground} (unheard : ∀ message, c.reply? ≠ some (.received message))
    (unstarted : ∀ run, c.reply? ≠ some (.started run)) :
    ∀ deed ∈ c.deeds, deed.isStart = false ∧ deed.received? = none ∧
      ∀ run, deed ≠ .replied (.started run) := by
  intro deed hdeed
  obtain ⟨reply, hreply, rfl⟩ := Option.map_eq_some_iff.mp (Option.mem_toList.mp hdeed)
  refine ⟨rfl, ?_, ?_⟩
  · cases reply with
    | received message => exact (unheard message hreply).elim
    | _ => rfl
  · rintro run ⟨⟩
    exact unstarted run hreply

/-- A step of the foreground in which it returns nothing that came into the inbox, and no new run.
-/
theorem Filters.silent (filters : Filters h s)
    (unheard : ∀ message, t.foreground.reply? ≠ some (.received message))
    (unstarted : ∀ run, t.foreground.reply? ≠ some (.started run))
    (active : t.foreground.active = s.foreground.active)
    (pending : ∀ request, t.foreground.pending = some request →
      s.foreground.pending = some request ∧ (s.foreground.activity.isRestarting = true →
        t.foreground.activity.isRestarting = true))
    (numbered : t.shared.generation + s.foreground.activity.isDeparting.toNat =
      s.shared.generation + t.foreground.activity.isDeparting.toNat)
    (superseding : t.foreground.activity.isSuperseding = s.foreground.activity.isSuperseding)
    (ordered : ∀ run, t.foreground.activity.run? = some run →
      s.foreground.activity.run? = some run)
    (typed : t.shared.inbox.filter Message.isTyped = s.shared.inbox.filter Message.isTyped) :
    Filters (h ++ t.foreground.deeds) t :=
  filters.quiet (plain_deeds unheard unstarted) active pending numbered superseding ordered
    (by rw [typed_foreground, List.append_nil, typed])

theorem isSuperseding_of_isFree {c : Foreground} (free : c.isFree = true) :
    c.activity.isSuperseding = false :=
  Foreground.eq_of_isFree Activity.isSuperseding free fun _ => rfl

/-- A call begins. -/
theorem Filters.begin (filters : Filters h s) (free : s.foreground.isFree = true) (call : Call) :
    Filters (h ++ .called s.foreground.pending call :: (s.begin call).foreground.deeds)
      (s.begin call) := by
  have departing := Foreground.isDeparting_of_isFree free
  have restarting := Foreground.isRestarting_of_isFree free
  have superseding := isSuperseding_of_isFree free
  cases call with
  | start source =>
      show Filters (h ++ [.called s.foreground.pending (.start source)]) _
      have hnumbered := filters.numbered
      rw [departing, superseding] at hnumbered
      -- The call counts as a start at once; the generation follows with the next step.
      have hstarts : starts (h ++ [.called s.foreground.pending (.start source)]) =
          s.shared.generation + 1 := by
        rw [starts_append]
        exact congrArg (· + 1) hnumbered
      refine ⟨hstarts, fun _ _ => .inr rfl, by rintro run ⟨⟩, fun _ _ => .inr (.inl rfl),
        fun hover => ?_, filters.told.quiet (by simp [received?]) (by simp), ?_⟩
      · rcases over_append hover with hover | ⟨-, hnone⟩
        · exact (not_over_of_unheard (by simp [received?]) hover).elim
        · cases hnone
      · rw [typed_append, read_append, typed_called, read_called, List.append_nil, List.append_nil]
        exact filters.typed
  | submit text =>
      cases hpending : s.foreground.pending with
      | none =>
          rw [begin_submit_of_none hpending]
          show Filters (h ++ [.called none (.submit text), .replied (.answered false)]) _
          exact filters.quiet (by simp [isStart, received?]) rfl
            (fun _ h => ⟨h, by simp [restarting]⟩) (by rw [departing]; rfl) superseding.symm
            (by rintro _ ⟨⟩) (by rw [typed_eq_nil (by simp [posted?]), List.append_nil]; rfl)
      | some request =>
          rw [begin_submit_of_some hpending]
          show Filters (h ++ [.called (some request) (.submit text)]) _
          exact filters.quiet (by simp [isStart, received?]) rfl (by rintro _ ⟨⟩)
            (by rw [departing]; rfl) superseding.symm (by rintro _ ⟨⟩)
            (by rw [typed_called, List.append_nil])
  | _ =>
      show Filters (h ++ [.called s.foreground.pending _]) _
      exact filters.quiet (by simp [isStart, received?]) rfl (fun _ h => ⟨h, by simp [restarting]⟩)
        (by rw [departing]; rfl) superseding.symm (by rintro _ ⟨⟩)
        (by rw [typed_called, List.append_nil]; rfl)

/-- A call returns. -/
theorem Filters.reply (filters : Filters h s) {reply : Reply}
    (returned : t.foreground.activity = .returned reply)
    (going : s.foreground.activity.isDeparting = false ∧
      s.foreground.activity.isSuperseding = false ∧ s.foreground.activity.isRestarting = false)
    (generation : t.shared.generation = s.shared.generation)
    (active : ∀ run, t.foreground.active = some run → s.foreground.active = some run)
    (pending : ∀ request, t.foreground.pending = some request →
      t.foreground.active = some request.run)
    (ended : Over (h ++ [.replied reply]) →
      t.foreground.active = none ∧ t.foreground.pending = none)
    (told : Told (h ++ [.replied reply]))
    (typed : s.shared.inbox.filter Message.isTyped =
      Deed.read [.replied reply] ++ t.shared.inbox.filter Message.isTyped) :
    Filters (h ++ [.replied reply]) t := by
  obtain ⟨departing, superseding, restarting⟩ := going
  have hnumbered := filters.numbered
  rw [departing, superseding] at hnumbered
  refine ⟨?_, fun run hrun => ?_, ?_, fun request h => .inl (pending request h), fun hover => ?_,
    told, ?_⟩
  · rw [starts_append, returned, generation]
    exact hnumbered
  · refine .inl ?_
    rw [starts_append]
    exact (filters.active run (active run hrun)).resolve_right (by simp [superseding])
  · rw [returned]
    rintro run ⟨⟩
  · rw [returned]
    exact ⟨(ended hover).1, (ended hover).2, rfl⟩
  · rw [typed_append, read_append, typed_replied, List.append_nil, filters.typed, typed,
      List.append_assoc]

theorem Filters.act (filters : Filters h s) (act : Act s t) :
    Filters (h ++ t.foreground.deeds) t := by
  cases act with
  | supersede s w c =>
      have hactive : starts h = s.generation + 1 := filters.numbered
      show Filters (h ++ []) _
      rw [List.append_nil]
      refine ⟨hactive, ?_, ?_, fun _ _ => .inr (.inr rfl), fun hover => ?_, filters.told,
        filters.typed⟩
      · rintro run ⟨⟩
        exact .inl hactive.symm
      · rintro run ⟨⟩
        exact hactive.symm
      · cases (filters.ended hover).2.2
  | reset s w c =>
      rename_i errand
      cases errand <;>
        exact filters.silent (by rintro _ ⟨⟩) (by rintro _ ⟨⟩) rfl (fun _ h => ⟨h, id⟩) rfl rfl
          (fun _ => id) rfl
  | wakeToStart s w c =>
      exact filters.silent (by rintro _ ⟨⟩) (by rintro _ ⟨⟩) rfl (by rintro _ ⟨⟩) rfl rfl
        (fun _ => id) rfl
  | order s w c there =>
      rename_i run source
      show Filters (h ++ [.replied (.started run)]) _
      refine filters.reply rfl ⟨rfl, rfl, rfl⟩ rfl (fun _ => id)
        (fun request hrequest => ?_) (fun hover => ?_)
        (filters.told.reply (by rintro _ _ ⟨⟩) ?_) rfl
      · simpa [Activity.isSuperseding, Activity.isRestarting] using filters.pending request hrequest
      · rcases hover.of_reply with hbefore | ⟨_, ⟨⟩, -⟩
        exact ⟨(filters.ended hbefore).1, (filters.ended hbefore).2.1⟩
      · rintro run ⟨⟩
        exact filters.ordered run rfl
  | hear s w c first admitted =>
      rename_i patient event inbox
      show Filters (h ++ [.replied (.received (.event event))]) _
      have hpending : ∀ request, c.pending = some request → c.active = some request.run := by
        intro request hrequest
        simpa [Activity.isSuperseding, Activity.isRestarting] using filters.pending request hrequest
      have hover : Over h → c.active = none ∧ c.pending = none :=
        fun hover => ⟨(filters.ended hover).1, (filters.ended hover).2.1⟩
      -- An event of a run is let through only if the run is active, and after its end none is.
      have hheard : ∀ run, event.run? = some run → run = starts h ∧ ¬Over h := by
        intro run hrun
        have hactive := admitted run hrun
        refine ⟨(filters.active run hactive).resolve_right (by simp [Activity.isSuperseding]),
          fun h => ?_⟩
        exact Option.some_ne_none run (hactive.symm.trans (hover h).1)
      refine filters.reply rfl ⟨rfl, rfl, rfl⟩ rfl (fun _ => c.active_observe)
        (fun request hrequest => ?_) (fun hover' => ?_)
        (filters.told.reply ?_ (by rintro _ ⟨⟩)) ?_
      · show (c.observe event).active = some request.run
        cases event with
        | ready | produced => exact hpending request hrequest
        | requested other =>
            obtain rfl := Option.some.inj hrequest
            exact admitted _ rfl
        | finished | failed => cases hrequest
      · show (c.observe event).active = none ∧ (c.observe event).pending = none
        rcases hover'.of_reply with hbefore | ⟨_, ⟨⟩, hend⟩
        · cases event with
          | ready => exact hover hbefore
          | _ => exact ((hheard _ rfl).2 hbefore).elim
        · cases event with
          | finished | failed => exact ⟨rfl, rfl⟩
          | ready | requested | produced => cases hend
      · rintro _ run ⟨⟩
        exact hheard run
      · simp [first, Deed.read, received?, Message.isTyped]
  | readLine s w c first plain =>
      rename_i patient message inbox
      show Filters (h ++ [.replied (.received message)]) _
      refine filters.reply rfl ⟨rfl, rfl, rfl⟩ rfl (fun _ => id)
        (fun request hrequest => ?_) (fun hover => ?_) (filters.told.reply ?_ (by rintro _ ⟨⟩)) ?_
      · simpa [Activity.isSuperseding, Activity.isRestarting] using filters.pending request hrequest
      · rcases hover.of_reply with hbefore | ⟨event, heq, -⟩
        · exact ⟨(filters.ended hbefore).1, (filters.ended hbefore).2.1⟩
        · exact (plain event (Reply.received.inj heq)).elim
      · rintro event run heq
        exact (plain event (Reply.received.inj heq)).elim
      · rw [first]
        exact List.filter_append [message] inbox
  | drop s w c first =>
      refine filters.silent (by rintro _ ⟨⟩) (by rintro _ ⟨⟩) rfl
        (fun _ h => ⟨h, by rintro ⟨⟩⟩) rfl rfl (by rintro _ ⟨⟩) ?_
      simp [first, Message.isTyped]
  | _ =>
      exact filters.silent (by rintro _ ⟨⟩) (by rintro _ ⟨⟩) rfl
        (fun _ h => ⟨h, by rintro ⟨⟩⟩) rfl rfl (by rintro _ ⟨⟩) rfl

theorem Filters.move (filters : Filters h s) (upheld : Upheld capacity s)
    (move : Move interpreter s deeds t) : Filters (h ++ deeds) t := by
  cases move with
  | call call free => exact filters.begin free call
  | foreground hstep => exact filters.act (act_of_foregroundStep? upheld.shared.channel hstep)
  | worker hstep =>
      obtain ⟨shared, worker, turn, rfl⟩ := upheld.turn_of_workerStep? hstep
      have plain : ∀ deed ∈ s.worker.deeds, deed.isStart = false ∧ deed.received? = none ∧
          deed.posted? = none ∧ ∀ run, deed ≠ .replied (.started run) :=
        s.worker.forall_mem_deeds (fun _ => ⟨rfl, rfl, rfl, nofun⟩) fun _ _ => ⟨rfl, rfl, rfl, nofun⟩
      refine filters.quiet (fun deed hdeed => ?_) rfl (fun _ h => ⟨h, id⟩) ?_ rfl (fun _ => id) ?_
      · obtain ⟨unstarted, unheard, -, unreplied⟩ := plain deed hdeed
        exact ⟨unstarted, unheard, unreplied⟩
      · exact congrArg (· + _) turn.generation
      · rw [typed_eq_nil fun deed hdeed => (plain deed hdeed).2.2.1, List.append_nil]
        exact turn.typed
  | spurious =>
      exact filters.quiet (by simp [isStart, received?]) rfl (fun _ h => ⟨h, id⟩) rfl rfl
        (fun _ => id) (List.append_nil _).symm
  | post message =>
      exact filters.quiet (by simp [isStart, received?]) rfl (fun _ h => ⟨h, id⟩) rfl rfl
        (fun _ => id) (List.filter_append _ _)

theorem Filters.course (filters : Filters h s) (intact : Intact capacity s)
    (course : Course interpreter s deeds t) : Filters (h ++ deeds) t := by
  have hboth : Intact capacity t ∧ Filters (h ++ deeds) t := by
    induction course with
    | rest => exact ⟨intact, by rwa [List.append_nil]⟩
    | move _ move ih =>
        obtain ⟨hintact, hfilters⟩ := ih
        rw [← List.append_assoc]
        exact ⟨hintact.move move, hfilters.move hintact.upheld move⟩
  exact hboth.2

/-! ### Receiving all lines -/

theorem admits_of_isTyped (c : Foreground) {message : Message} (h : message.isTyped = true) :
    c.admits message = true := by
  cases message with
  | event => cases h
  | line | closed => rfl

/-- A call that receives returns when there is a line, however many events it has to drop before. -/
theorem receive_returns {patient : Bool} (taking : s.foreground.activity = .taking patient)
    (hline : ∃ message ∈ s.shared.inbox, message.isTyped = true) :
    ∃ message t, Course interpreter s [.replied (.received message)] t ∧
      t.foreground.isFree = true ∧ t.shared.inbox.length < s.shared.inbox.length := by
  induction hinbox : s.shared.inbox generalizing s with
  | nil =>
      rw [hinbox] at hline
      obtain ⟨message, hmem, -⟩ := hline
      cases hmem
  | cons message inbox ih =>
      have hstep : s.foregroundStep? = some (s.take patient) := by
        rw [foregroundStep?, taking]
      have hmove : Move interpreter s (s.take patient).foreground.deeds (s.take patient) :=
        .foreground hstep
      by_cases hadmits : s.foreground.admits message = true
      · have htake : s.take patient = { s with
            shared := { s.shared with inbox }, foreground := s.foreground.receive message } := by
          rw [take, hinbox]
          exact if_pos hadmits
        rw [htake] at hmove
        exact ⟨message, _, .single hmove, rfl, Nat.lt_succ_self _⟩
      · -- An event of another run is dropped, and the call goes on with a shorter inbox.
        have htake : s.take patient = { s with shared := { s.shared with inbox } } := by
          rw [take, hinbox]
          exact if_neg hadmits
        rw [htake] at hmove
        have hdeeds : s.foreground.deeds = [] := by
          rw [Foreground.deeds, Foreground.reply?, taking]
          rfl
        obtain ⟨line, hmem, htyped⟩ := hline
        rw [hinbox] at hmem
        have hmem : line ∈ inbox := by
          rcases List.mem_cons.mp hmem with rfl | hmem
          · exact (hadmits (admits_of_isTyped _ htyped)).elim
          · exact hmem
        have hrest : ∃ received t, Course interpreter { s with shared := { s.shared with inbox } }
            [.replied (.received received)] t ∧ t.foreground.isFree = true ∧
            t.shared.inbox.length < inbox.length :=
          ih taking ⟨line, hmem, htyped⟩ rfl
        obtain ⟨received, t, course, free, hless⟩ := hrest
        have hwhole := course.cons hmove
        rw [hdeeds, List.nil_append] at hwhole
        exact ⟨received, t, hwhole, free, Nat.lt_succ_of_lt hless⟩

/-- A foreground that keeps receiving receives all lines. -/
theorem exists_read_all (free : s.foreground.isFree = true) :
    ∃ h' t, Course interpreter s h' t ∧
      (∀ deed ∈ h', (∃ pending, deed = .called pending .receive) ∨
        ∃ message, deed = .replied (.received message)) ∧
      t.shared.inbox.filter Message.isTyped = [] := by
  induction hlength : s.shared.inbox.length using Nat.strongRecOn generalizing s with
  | ind n ih =>
      by_cases hline : ∃ message ∈ s.shared.inbox, message.isTyped = true
      · have hreturn : ∃ message t, Course interpreter (s.begin .receive)
            [.replied (.received message)] t ∧ t.foreground.isFree = true ∧
            t.shared.inbox.length < s.shared.inbox.length :=
          receive_returns rfl hline
        obtain ⟨message, t, course, hfree, hless⟩ := hreturn
        obtain ⟨h', u, hrest, hdeeds, hnone⟩ := ih _ (hlength ▸ hless) hfree rfl
        refine ⟨[.called s.foreground.pending .receive] ++ [.replied (.received message)] ++ h', u,
          (course.cons (.call .receive free)).trans hrest, ?_, hnone⟩
        intro deed hdeed
        rcases List.mem_append.mp hdeed with hdeed | hdeed
        · rcases List.mem_append.mp hdeed with hdeed | hdeed
          · exact .inl ⟨_, List.mem_singleton.mp hdeed⟩
          · exact .inr ⟨_, List.mem_singleton.mp hdeed⟩
        · exact hdeeds deed hdeed
      · refine ⟨[], s, .rest, by simp, List.filter_eq_nil_iff.mpr fun message hmem => ?_⟩
        exact fun htyped => hline ⟨message, hmem, htyped⟩

/-- Whatever comes into the inbox, from the worker or from anybody else, the foreground passes on
what it should.

* Between calls a request that is pending is one of the active run.
* Each event of a run that a call returns is of the run that was started last, and comes before the
  end of that run. The numbers of the runs never fall, and a run ends once only.
* From the end of a run on, until another one is started, no run is active and no request pending.
* The lines that came in are those that were returned and those that are still to be received, in
  their order; and a foreground that keeps receiving gets them all. -/
theorem filters_messages (hspawn : spawn capacity = .ok s₀) (course : Course interpreter s₀ h t) :
    (t.foreground.isFree = true → ∀ request, t.foreground.pending = some request →
      t.foreground.active = some request.run) ∧
    (∀ before event after run, h = before ++ .replied (.received (.event event)) :: after →
      event.run? = some run → run = starts before ∧ ¬Over before ∧
        ∀ earlier, .replied (.received (.event earlier)) ∈ before →
          (∀ run', earlier.run? = some run' → run' ≤ run) ∧
          (earlier.isTerminal = true → earlier.run? ≠ some run)) ∧
    (∀ before run after, h = before ++ .replied (.started run) :: after → run = starts before) ∧
    (Over h → t.foreground.active = none ∧ t.foreground.pending = none) ∧
    Deed.typed h = Deed.read h ++ t.shared.inbox.filter Message.isTyped ∧
    (t.foreground.isFree = true → ∃ h' u, Course interpreter t h' u ∧
      (∀ deed ∈ h', (∃ pending, deed = .called pending .receive) ∨
        ∃ message, deed = .replied (.received message)) ∧
      Deed.read (h ++ h') = Deed.typed h) := by
  have intact := (sound_of_spawn hspawn).intact
  have filters : Filters h t := (filters_of_spawn hspawn).course intact course
  refine ⟨fun free request hrequest => ?_, fun before event after run heq hrun => ?_,
    filters.told.started, fun hover => ⟨(filters.ended hover).1, (filters.ended hover).2.1⟩,
    filters.typed, fun free => ?_⟩
  · simpa [isSuperseding_of_isFree free, Foreground.isRestarting_of_isFree free] using
      filters.pending request hrequest
  · obtain ⟨hnumber, going⟩ := filters.told.heard before event after run heq hrun
    exact ⟨hnumber, going, fun earlier hearlier => filters.told.earlier heq hrun hearlier⟩
  · obtain ⟨h', u, hcourse, hdeeds, hnone⟩ := t.exists_read_all free
    have hall : Filters (h ++ h') u :=
      (filters_of_spawn hspawn).course intact (course.trans hcourse)
    have hsilent : Deed.typed h' = [] := by
      refine typed_eq_nil fun deed hdeed => ?_
      rcases hdeeds deed hdeed with ⟨_, rfl⟩ | ⟨_, rfl⟩ <;> rfl
    refine ⟨h', u, hcourse, hdeeds, ?_⟩
    have htyped := hall.typed
    rwa [typed_append, hsilent, hnone, List.append_nil, List.append_nil, eq_comm] at htyped

/-- Somebody else tells of the end of a run that was given up, of the end of the current one, and
then of a request of it, with lines in between. -/
def forgeries : List Choice :=
  .call (.start "output 1") :: List.replicate 4 .foreground ++
    .call (.start "input X") :: List.replicate 4 .foreground ++
    [.post (.event (.finished 1 "old")), .post (.line "a"), .post (.event (.finished 2 "new")),
      .post (.event (.requested ⟨2, 1, "X"⟩)), .post .closed,
      .call .receive, .foreground, .foreground, .call .receive, .foreground]

theorem filters_messages_forgeries :
    ∃ s₀ h t, spawn 3 = .ok s₀ ∧ Course (.script 4) s₀ h t ∧
      h.filterMap Deed.received? = [.line "a", .event (.finished 2 "new")] ∧
      t.foreground.active = none ∧ t.foreground.pending = none ∧
      ∃ h' u, Course (.script 4) t h' u ∧ Deed.read (h ++ h') = [.line "a", .closed] := by
  have hseen : ((spawn 3).toOption.bind (follow? (.script 4) forgeries)).map
      (fun p => (p.1, p.2.foreground.activity)) =
      some ([.called none (.start "output 1"), .replied (.started 1),
          .called none (.start "input X"), .replied (.started 2),
          .posted (.event (.finished 1 "old")), .posted (.line "a"),
          .posted (.event (.finished 2 "new")), .posted (.event (.requested ⟨2, 1, "X"⟩)),
          .posted .closed, .called none .receive, .replied (.received (.line "a")),
          .called none .receive, .replied (.received (.event (.finished 2 "new")))],
        .returned (.received (.event (.finished 2 "new")))) := by
    decide +kernel
  obtain ⟨s₀, h, t, hspawn, course, hview⟩ := course_of_spawn hseen
  simp only [Prod.mk.injEq] at hview
  obtain ⟨rfl, hactivity⟩ := hview
  obtain ⟨-, -, -, hover, -, hall⟩ := filters_messages hspawn course
  have hfree : t.foreground.isFree = true := by rw [Foreground.isFree, hactivity]
  obtain ⟨hactive, hpending⟩ := hover
    ⟨[.called none (.start "output 1"), .replied (.started 1), .called none (.start "input X"),
      .replied (.started 2), .posted (.event (.finished 1 "old")), .posted (.line "a"),
      .posted (.event (.finished 2 "new")), .posted (.event (.requested ⟨2, 1, "X"⟩)),
      .posted .closed, .called none .receive, .replied (.received (.line "a")),
      .called none .receive], .finished 2 "new", [], rfl, rfl, rfl⟩
  obtain ⟨h', u, hcourse, -, hread⟩ := hall hfree
  exact ⟨s₀, _, t, hspawn, course, rfl, hactive, hpending, h', u, hcourse, hread⟩

end Runner

end Pseudocode
