import Pseudocode.Proofs.Patience

/-!
Cancellation only cuts a run. A host that answers some check with yes gets the calls that a host
gets which never does so, up to that check and no further, and it is told that the run was canceled.
A host that answers no check with yes sees no difference.

The calls of a program that never ends are told by their finite beginnings: those that the program
makes with some patience.
-/

namespace Pseudocode

/-- A call that a program makes to its host. -/
inductive HostCall where
  | check
  | ask (prompt : String)
  | tell (text : String)
  deriving DecidableEq, Repr

namespace HostCall

def isAsk : HostCall → Bool
  | ask _ => true
  | check | tell _ => false

/-- Whether no check of some calls was answered with yes, when `cancels` says how a check is
answered after the calls before it. -/
def Uncanceled (cancels : List HostCall → Bool) (calls : List HostCall) : Prop :=
  ∀ before, before ++ [check] <+: calls → cancels before = false

/-- Whether the last of some calls is a check that was answered with yes, the first such one. -/
def Cut (cancels : List HostCall → Bool) (calls : List HostCall) : Prop :=
  ∃ before, calls = before ++ [check] ∧ cancels before = true ∧ Uncanceled cancels before

variable {cancels : List HostCall → Bool} {calls calls' : List HostCall}

theorem uncanceled_nil : Uncanceled cancels [] := by
  intro before h
  have hlength := h.length_le
  simp at hlength

theorem Uncanceled.of_prefix (h : Uncanceled cancels calls') (hcalls : calls <+: calls') :
    Uncanceled cancels calls :=
  fun before hbefore => h before (hbefore.trans hcalls)

theorem Uncanceled.concat_check (h : Uncanceled cancels calls) (hcancels : cancels calls = false) :
    Uncanceled cancels (calls ++ [check]) := by
  intro before hbefore
  rcases List.prefix_concat_iff.mp hbefore with heq | hbegins
  · rwa [List.append_cancel_right heq]
  · exact h before hbegins

theorem Uncanceled.concat {call : HostCall} (h : Uncanceled cancels calls) (hcall : call ≠ check) :
    Uncanceled cancels (calls ++ [call]) := by
  intro before hbefore
  rcases List.prefix_concat_iff.mp hbefore with heq | hbegins
  · exact (hcall (List.concat_inj.mp (by simpa using heq)).2.symm).elim
  · exact h before hbegins

theorem Cut.not_uncanceled (h : Cut cancels calls) (hcalls : calls <+: calls') :
    ¬Uncanceled cancels calls' := by
  obtain ⟨before, rfl, hyes, -⟩ := h
  intro hall
  rw [hall before hcalls] at hyes
  cases hyes

/-- Nothing was answered with yes before the cut. -/
theorem Cut.eq_or_uncanceled (h : Cut cancels calls') (hcalls : calls <+: calls') :
    calls = calls' ∨ Uncanceled cancels calls := by
  obtain ⟨before, rfl, -, hbefore⟩ := h
  rcases List.prefix_concat_iff.mp hcalls with heq | hbegins
  · exact .inl heq
  · exact .inr (hbefore.of_prefix hbegins)

/-- A run is cut in one place only. -/
theorem Cut.unique {whole : List HostCall} (h : Cut cancels calls) (h' : Cut cancels calls')
    (hcalls : calls <+: whole) (hcalls' : calls' <+: whole) : calls = calls' := by
  rcases List.prefix_or_prefix_of_prefix hcalls hcalls' with hbegins | hbegins
  · exact (h'.eq_or_uncanceled hbegins).resolve_right (h.not_uncanceled (List.prefix_refl _))
  · exact ((h.eq_or_uncanceled hbegins).resolve_right
      (h'.not_uncanceled (List.prefix_refl _))).symm

end HostCall

open HostCall

/-- A host that keeps the calls made to it. It cancels after the calls that `cancels` says, and
gives the answers of a stream one after the other. -/
def Host.recording (answers : Nat → String) (cancels : List HostCall → Bool) :
    Host (List HostCall) where
  check calls := (cancels calls, calls ++ [.check])
  ask prompt calls := (answers (calls.countP isAsk), calls ++ [.ask prompt])
  tell text calls := calls ++ [.tell text]

namespace Dialogue

variable {α : Type} {canceled cut : α → Prop} {d d' : Dialogue α}
  (answers : Nat → String) (cancels : List HostCall → Bool)

theorem prefix_runOn_recording (d : Dialogue α) (calls : List HostCall) :
    calls <+: (d.runOn (.recording answers cancels) calls).2 := by
  induction d generalizing calls with
  | done a => exact List.prefix_refl calls
  | check next ih => exact (List.prefix_append calls _).trans (ih _ _)
  | ask prompt next ih => exact (List.prefix_append calls _).trans (ih _ _)
  | tell text next ih => exact (List.prefix_append calls _).trans (ih _ _)

/-- A dialogue that heeds its host runs as if it was never canceled, as far as it gets. -/
theorem Heeds.runOn_recording (h : d.Heeds canceled) {calls : List HostCall}
    (hcalls : Uncanceled cancels calls) {a : α} {all : List HostCall}
    (hrun : d.runOn (.recording answers fun _ => false) calls = (a, all)) :
    (∃ c sofar, canceled c ∧ sofar <+: all ∧ Cut cancels sofar ∧
      d.runOn (.recording answers cancels) calls = (c, sofar)) ∨
    (¬canceled a ∧ Uncanceled cancels all ∧
      d.runOn (.recording answers cancels) calls = (a, all)) := by
  induction d generalizing calls with
  | done b =>
      obtain ⟨rfl, rfl⟩ := Prod.mk.inj hrun
      exact .inr ⟨h, hcalls, rfl⟩
  | check next ih =>
      obtain ⟨⟨c, hnext, hc⟩, hrest⟩ := h
      have hbegins := (next false).prefix_runOn_recording answers (fun _ => false)
        (calls ++ [.check])
      change (next false).runOn (.recording answers fun _ => false) (calls ++ [.check]) =
        (a, all) at hrun
      rw [hrun] at hbegins
      change (∃ c sofar, canceled c ∧ sofar <+: all ∧ Cut cancels sofar ∧
        (next (cancels calls)).runOn (.recording answers cancels) (calls ++ [.check]) =
          (c, sofar)) ∨ (¬canceled a ∧ Uncanceled cancels all ∧
        (next (cancels calls)).runOn (.recording answers cancels) (calls ++ [.check]) = (a, all))
      cases hcancels : cancels calls with
      -- The check is the last call, as the dialogue is over then.
      | true => exact .inl ⟨c, _, hc, hbegins, ⟨calls, rfl, hcancels, hcalls⟩, by rw [hnext]; rfl⟩
      | false => exact ih false hrest (hcalls.concat_check hcancels) hrun
  | ask prompt next ih => exact ih _ (h _) (hcalls.concat (by simp)) hrun
  | tell text next ih => exact ih () h (hcalls.concat (by simp)) hrun

/-- A run that is cut off makes the first of the calls that it would have made. -/
theorem Within.runOn_recording (h : Within cut d d') (calls : List HostCall) :
    d.runOn (.recording answers cancels) calls = d'.runOn (.recording answers cancels) calls ∨
    cut (d.runOn (.recording answers cancels) calls).1 ∧
      (d.runOn (.recording answers cancels) calls).2 <+:
        (d'.runOn (.recording answers cancels) calls).2 := by
  induction h generalizing calls with
  | cut h d => exact .inr ⟨h, d.prefix_runOn_recording answers cancels calls⟩
  | done a => exact .inl rfl
  | check h ih => exact ih _ _
  | ask prompt h ih => exact ih _ _
  | tell text h ih => exact ih _

theorem Endures.runOn_recording {n : Nat} (h : d.Endures cut n) (calls : List HostCall)
    (hcut : cut (d.runOn (.recording answers cancels) calls).1) :
    calls.length + n ≤ (d.runOn (.recording answers cancels) calls).2.length := by
  induction d generalizing n calls with
  | done a =>
      have hn : n = 0 := h hcut
      rw [hn]
      exact Nat.le_refl _
  | check next ih =>
      have hnext := ih (cancels calls) (h _) (calls ++ [HostCall.check]) hcut
      rw [List.length_append, List.length_singleton] at hnext
      exact Nat.le_trans (by omega) hnext
  | ask prompt next ih =>
      have hnext := ih (answers (calls.countP isAsk)) (h _) (calls ++ [HostCall.ask prompt]) hcut
      rw [List.length_append] at hnext
      exact Nat.le_trans (by omega) hnext
  | tell text next ih =>
      have hnext := ih () h (calls ++ [HostCall.tell text]) hcut
      rw [List.length_append] at hnext
      exact Nat.le_trans (by omega) hnext

end Dialogue

namespace Interpreter

variable (source : String) (answers : Nat → String) (cancels : List HostCall → Bool)

/-- How a program ends on a recording host, and the calls that it makes there. -/
def recorded (patience : Nat) : Ending × List HostCall :=
  (script patience source).runOn (.recording answers cancels) []

/-- Whether some calls are the first ones that a program makes. -/
def Makes (calls : List HostCall) : Prop :=
  ∃ patience, calls <+: (recorded source answers cancels patience).2

/-- Whether a program comes to an end, after some calls and no others. -/
def Returns (ending : Ending) (calls : List HostCall) : Prop :=
  ∃ patience, recorded source answers cancels patience = (ending, calls) ∧ ending ≠ .exhausted

/-- With each patience, a run is either the one that is never canceled or that one, cut. -/
theorem recorded_cut (patience : Nat) :
    (∃ sofar, sofar <+: (recorded source answers (fun _ => false) patience).2 ∧ Cut cancels sofar ∧
      recorded source answers cancels patience = (.canceled, sofar)) ∨
    ((recorded source answers (fun _ => false) patience).1 ≠ .canceled ∧
      Uncanceled cancels (recorded source answers (fun _ => false) patience).2 ∧
      recorded source answers cancels patience =
        recorded source answers (fun _ => false) patience) := by
  rcases (script_heeds patience source).runOn_recording answers cancels uncanceled_nil rfl with
    ⟨c, sofar, rfl, h⟩ | h
  · exact .inl ⟨sofar, h⟩
  · exact .inr h

/-- More patience leaves a run that has ended as it is, and lets another one go on. -/
theorem recorded_of_le {patience patience' : Nat} (more : patience ≤ patience') :
    recorded source answers cancels patience = recorded source answers cancels patience' ∨
    (recorded source answers cancels patience).1 = .exhausted ∧
      (recorded source answers cancels patience).2 <+:
        (recorded source answers cancels patience').2 :=
  (script_within more source).runOn_recording answers cancels []

theorem le_length_recorded {patience : Nat}
    (h : (recorded source answers cancels patience).1 = .exhausted) :
    patience ≤ (recorded source answers cancels patience).2.length := by
  have hlength := (script_endures patience source).runOn_recording answers cancels [] h
  rwa [List.length_nil, Nat.zero_add] at hlength

variable {source answers cancels} {calls calls' : List HostCall} {ending : Ending}

theorem Makes.prefix_or_prefix (h : Makes source answers cancels calls)
    (h' : Makes source answers cancels calls') : calls <+: calls' ∨ calls' <+: calls := by
  obtain ⟨patience, h⟩ := h
  obtain ⟨patience', h'⟩ := h'
  -- Both are compared with the calls that are made with the greater patience.
  have hto : ∀ {n}, n ≤ max patience patience' → (recorded source answers cancels n).2 <+:
      (recorded source answers cancels (max patience patience')).2 := by
    intro n hn
    rcases recorded_of_le source answers cancels hn with heq | ⟨-, hbegins⟩
    · exact heq ▸ List.prefix_refl _
    · exact hbegins
  exact List.prefix_or_prefix_of_prefix (h.trans (hto (Nat.le_max_left _ _)))
    (h'.trans (hto (Nat.le_max_right _ _)))

theorem Returns.makes_iff (h : Returns source answers cancels ending calls) :
    Makes source answers cancels calls' ↔ calls' <+: calls := by
  obtain ⟨patience, hrun, hending⟩ := h
  constructor
  · rintro ⟨patience', h'⟩
    rcases Nat.le_total patience patience' with hle | hle
    · rcases recorded_of_le source answers cancels hle with heq | ⟨hexhausted, -⟩
      · rwa [← heq, hrun] at h'
      · rw [hrun] at hexhausted
        exact (hending hexhausted).elim
    · rcases recorded_of_le source answers cancels hle with heq | ⟨-, hbegins⟩
      · rwa [heq, hrun] at h'
      · rw [hrun] at hbegins
        exact h'.trans hbegins
  · intro h'
    exact ⟨patience, by rwa [hrun]⟩

theorem Returns.unique {ending' : Ending} (h : Returns source answers cancels ending calls)
    (h' : Returns source answers cancels ending' calls') : ending' = ending ∧ calls' = calls := by
  obtain ⟨patience, hrun, hending⟩ := h
  obtain ⟨patience', hrun', hending'⟩ := h'
  rcases Nat.le_total patience patience' with hle | hle
  · rcases recorded_of_le source answers cancels hle with heq | ⟨hexhausted, -⟩
    · rw [hrun, hrun'] at heq
      exact Prod.mk.inj heq.symm
    · rw [hrun] at hexhausted
      exact (hending hexhausted).elim
  · rcases recorded_of_le source answers cancels hle with heq | ⟨hexhausted, -⟩
    · rw [hrun, hrun'] at heq
      exact Prod.mk.inj heq
    · rw [hrun'] at hexhausted
      exact (hending' hexhausted).elim

/-- A program that does not end makes a call after each call. -/
theorem exists_makes_length (h : ∀ ending calls, ¬Returns source answers cancels ending calls)
    (n : Nat) : ∃ calls, Makes source answers cancels calls ∧ calls.length = n := by
  have hexhausted : (recorded source answers cancels n).1 = .exhausted :=
    Decidable.byContradiction fun hending => h _ _ ⟨n, rfl, hending⟩
  refine ⟨(recorded source answers cancels n).2.take n, ⟨n, List.take_prefix _ _⟩, ?_⟩
  rw [List.length_take]
  exact Nat.min_eq_left (le_length_recorded source answers cancels hexhausted)

/-- A program either comes to one end after certain calls, or it goes on without an end, with one
sequence of calls. -/
theorem returns_or_goes_on (source : String) (answers : Nat → String)
    (cancels : List HostCall → Bool) :
    (∃ ending calls,
      (∀ ending' calls', Returns source answers cancels ending' calls' ↔
        ending' = ending ∧ calls' = calls) ∧
      ∀ calls', Makes source answers cancels calls' ↔ calls' <+: calls) ∨
    ((∀ ending calls, ¬Returns source answers cancels ending calls) ∧
      ∀ n, ∃ calls, (Makes source answers cancels calls ∧ calls.length = n) ∧
        ∀ calls', Makes source answers cancels calls' ∧ calls'.length = n → calls' = calls) := by
  by_cases hreturns : ∃ ending calls, Returns source answers cancels ending calls
  · obtain ⟨ending, calls, h⟩ := hreturns
    refine .inl ⟨ending, calls, fun ending' calls' => ⟨h.unique, ?_⟩, fun calls' => h.makes_iff⟩
    rintro ⟨rfl, rfl⟩
    exact h
  · have hgoes : ∀ ending calls, ¬Returns source answers cancels ending calls :=
      fun ending calls h => hreturns ⟨ending, calls, h⟩
    refine .inr ⟨hgoes, fun n => ?_⟩
    obtain ⟨calls, hcalls, hlength⟩ := exists_makes_length hgoes n
    refine ⟨calls, ⟨hcalls, hlength⟩, fun calls' ⟨hcalls', hlength'⟩ => ?_⟩
    rcases hcalls.prefix_or_prefix hcalls' with hbegins | hbegins
    · exact (hbegins.eq_of_length (hlength.trans hlength'.symm)).symm
    · exact hbegins.eq_of_length (hlength'.trans hlength.symm)

/-- A program makes the calls that it makes when it is never canceled, as long as no check is
answered with yes. -/
theorem makes_iff_makes_never : Makes source answers cancels calls ↔
    Makes source answers (fun _ => false) calls ∧
      (Uncanceled cancels calls ∨ Cut cancels calls) := by
  constructor
  · rintro ⟨patience, hcalls⟩
    rcases recorded_cut source answers cancels patience with
      ⟨sofar, hsofar, hcut, hrun⟩ | ⟨-, hall, hrun⟩
    · rw [hrun] at hcalls
      refine ⟨⟨patience, hcalls.trans hsofar⟩, ?_⟩
      rcases hcut.eq_or_uncanceled hcalls with rfl | huncanceled
      · exact .inr hcut
      · exact .inl huncanceled
    · rw [hrun] at hcalls
      exact ⟨⟨patience, hcalls⟩, .inl (hall.of_prefix hcalls)⟩
  · rintro ⟨⟨patience, hcalls⟩, hkind⟩
    refine ⟨patience, ?_⟩
    rcases recorded_cut source answers cancels patience with
      ⟨sofar, hsofar, hcut, hrun⟩ | ⟨-, hall, hrun⟩
    · rw [hrun]
      rcases hkind with huncanceled | hcut'
      · rcases List.prefix_or_prefix_of_prefix hcalls hsofar with hbegins | hbegins
        · exact hbegins
        · exact (hcut.not_uncanceled hbegins huncanceled).elim
      · exact hcut'.unique hcut hcalls hsofar ▸ List.prefix_refl _
    · rwa [hrun]

/-- A program is canceled by the first check that is answered with yes, and by nothing else. -/
theorem returns_canceled_iff : Returns source answers cancels .canceled calls ↔
    Makes source answers (fun _ => false) calls ∧ Cut cancels calls := by
  constructor
  · rintro ⟨patience, hreturned, -⟩
    rcases recorded_cut source answers cancels patience with
      ⟨sofar, hsofar, hcut, hrun⟩ | ⟨hnot, -, hrun⟩
    · obtain ⟨-, rfl⟩ := Prod.mk.inj (hrun.symm.trans hreturned)
      exact ⟨⟨patience, hsofar⟩, hcut⟩
    · rw [← hrun, hreturned] at hnot
      exact (hnot rfl).elim
  · rintro ⟨⟨patience, hcalls⟩, hcut⟩
    rcases recorded_cut source answers cancels patience with
      ⟨sofar, hsofar, hcut', hrun⟩ | ⟨-, hall, -⟩
    · rw [hcut.unique hcut' hcalls hsofar]
      exact ⟨patience, hrun, by simp⟩
    · exact (hcut.not_uncanceled hcalls hall).elim

/-- Another end is that of the run that is never canceled. -/
theorem returns_iff_returns_never (hending : ending ≠ .canceled) :
    Returns source answers cancels ending calls ↔
      Returns source answers (fun _ => false) ending calls ∧ Uncanceled cancels calls := by
  constructor
  · rintro ⟨patience, hreturned, hexhausted⟩
    rcases recorded_cut source answers cancels patience with
      ⟨sofar, -, -, hrun⟩ | ⟨-, hall, hrun⟩
    · obtain ⟨hcanceled, -⟩ := Prod.mk.inj (hrun.symm.trans hreturned)
      exact (hending hcanceled.symm).elim
    · rw [← hrun, hreturned] at hall
      exact ⟨⟨patience, hrun.symm.trans hreturned, hexhausted⟩, hall⟩
  · rintro ⟨⟨patience, hreturned, hexhausted⟩, hall⟩
    rcases recorded_cut source answers cancels patience with
      ⟨sofar, hsofar, hcut, -⟩ | ⟨-, -, hrun⟩
    · rw [hreturned] at hsofar
      exact (hcut.not_uncanceled hsofar hall).elim
    · exact ⟨patience, hrun.trans hreturned, hexhausted⟩

/-- Cancellation only cuts a run: the calls that a program makes are those that it makes when it is
never canceled, cut right after the first check that is answered with yes; it ends as canceled
exactly if there is such a check among them, and else as it does when it is never canceled. A run
comes to one end or goes on for ever, canceled or not, so this tells the whole of it. -/
theorem cancellation_only_cuts (source : String) (answers : Nat → String)
    (cancels : List HostCall → Bool) :
    (∀ calls, Makes source answers cancels calls ↔
      Makes source answers (fun _ => false) calls ∧
        (Uncanceled cancels calls ∨ Cut cancels calls)) ∧
    (∀ calls, Returns source answers cancels .canceled calls ↔
      Makes source answers (fun _ => false) calls ∧ Cut cancels calls) ∧
    (∀ ending calls, ending ≠ .canceled →
      (Returns source answers cancels ending calls ↔
        Returns source answers (fun _ => false) ending calls ∧ Uncanceled cancels calls)) ∧
    ((∃ ending calls,
      (∀ ending' calls', Returns source answers cancels ending' calls' ↔
        ending' = ending ∧ calls' = calls) ∧
      ∀ calls', Makes source answers cancels calls' ↔ calls' <+: calls) ∨
    ((∀ ending calls, ¬Returns source answers cancels ending calls) ∧
      ∀ n, ∃ calls, (Makes source answers cancels calls ∧ calls.length = n) ∧
        ∀ calls', Makes source answers cancels calls' ∧ calls'.length = n → calls' = calls)) :=
  ⟨fun _ => makes_iff_makes_never, fun _ => returns_canceled_iff,
    fun _ _ => returns_iff_returns_never, returns_or_goes_on source answers cancels⟩

/-- A program that never ends. -/
def endless : String :=
  "loop until false\noutput input(1)\nend loop"

/-- Cancels as soon as two lines have been told. -/
def afterTwoLines (calls : List HostCall) : Bool :=
  calls.countP (· matches .tell _) == 2

def endlessCalls : List HostCall :=
  [.check, .check, .check, .ask "1", .tell "0", .check, .check, .ask "1", .tell "1", .check]

theorem cancellation_only_cuts_endless :
    Returns endless (fun i => toString i) afterTwoLines .canceled endlessCalls ∧
      Makes endless (fun i => toString i) (fun _ => false) endlessCalls ∧
      Cut afterTwoLines endlessCalls := by
  have hcanceled : Returns endless (fun i => toString i) afterTwoLines .canceled endlessCalls :=
    ⟨3, by decide +kernel⟩
  obtain ⟨-, canceled, -, -⟩ :=
    cancellation_only_cuts endless (fun i => toString i) afterTwoLines
  exact ⟨hcanceled, (canceled endlessCalls).mp hcanceled⟩

end Interpreter

end Pseudocode
