import Pseudocode.Proofs.Runner.Prospect

/-!
A program says nothing while it waits for an answer: its prompt is the last that is heard of it
before it is answered.
-/

namespace Pseudocode

namespace Runner

/-- Whether nothing comes after the prompt of a request that waits. -/
def Hushed (s : Runner) : Prop :=
  s.awaited ≠ [] → s.news = [] ∨ ∃ before prompt, s.news = before ++ [.prompt prompt]

variable {interpreter : Interpreter} {capacity : Nat} {s t : Runner} {request : Request}

theorem Hushed.turn (hushed : s.Hushed) (sound : Sound capacity s) {shared : Shared}
    {worker : Worker} (turn : Worker.Turn interpreter s.shared s.worker shared worker) :
    ({ s with shared, worker } : Runner).Hushed := by
  intro hawaited
  rcases turn.awaited? sound.worker with ⟨hsame, _⟩ | ⟨request, next, hphase, hphase', rfl⟩
  · have hsame : ({ s with shared, worker } : Runner).awaited = s.awaited := by
      simp only [Runner.awaited, turn.generation, hsame]
    rw [hsame] at hawaited
    obtain ⟨request, waits⟩ := List.exists_mem_of_ne_nil _ hawaited
    obtain ⟨stage, next, phase, sent, waiting, _⟩ := mem_awaited.mp waits
    obtain ⟨rfl, _⟩ := sound.still_waiting turn phase sent waiting
    exact hushed hawaited
  · obtain ⟨request', waits⟩ := List.exists_mem_of_ne_nil _ hawaited
    obtain ⟨_, _, hasking, _, _, current⟩ := mem_awaited.mp waits
    cases hphase'.symm.trans hasking
    refine .inr ⟨s.news, request.prompt, ?_⟩
    have current : request.run = s.shared.generation := current
    simp [Runner.news, Shared.post, Message.remark?, Event.run?, Event.remark?, current]

theorem Hushed.woken (hushed : s.Hushed) :
    ({ s with worker := s.worker.woken } : Runner).Hushed := by
  intro hawaited
  exact hushed (by simpa [Runner.awaited] using hawaited)

/-- Taking the first message makes no difference. -/
theorem Hushed.dropFirst (hushed : s.Hushed) {message : Message} {inbox : List Message}
    (first : s.shared.inbox = message :: inbox) : (s.dropFirst inbox).Hushed := by
  intro hawaited
  have hnews := hushed hawaited
  rw [news_cons first] at hnews
  cases hremark : message.remark? s.shared.generation with
  | none =>
      rw [hremark] at hnews
      exact hnews
  | some remark =>
      rw [hremark, Option.toList_some, List.singleton_append] at hnews
      rcases hnews with hnil | ⟨before, prompt, hlast⟩
      · cases hnil
      · cases before with
        | nil => exact .inl (List.cons.inj hlast).2
        | cons first before => exact .inr ⟨before, prompt, (List.cons.inj hlast).2⟩

/-- Nobody waits for an answer when a run has just become the current one. -/
theorem Sound.hushed_supersede (sound : Sound capacity s) (source? : Option String) :
    (s.supersede source?).Hushed := by
  have hcleared := (sound.agreed_supersede source?).cleared (by cases source? <;> exact .inl rfl)
  exact fun h => (h (awaited_eq_nil_of_not_mem_tasks hcleared)).elim

theorem Hushed.act (hushed : s.Hushed) (sound : Sound capacity s) (act : Act s t) : t.Hushed := by
  cases act with
  | supersede => exact sound.hushed_supersede (some _)
  | depart => exact sound.hushed_supersede none
  | reset s w c =>
      refine fun h => (h (awaited_eq_nil_of_not_waiting ?_)).elim
      rw [show (s.resetChannel).channel.state = _ from s.channel.state_setState .idle]
      simp
  | announce s w c =>
      refine fun h => (h (awaited_eq_nil_of_not_waiting ?_)).elim
      rw [show Channel.state _ = _ from s.channel.state_setState .ready]
      simp
  | write s w c =>
      refine fun h => hushed ?_
      simpa [Runner.awaited] using h
  | wakeToStart | wakeToRelease | wakeToShutDown | wakeToRead => exact hushed.woken
  | order | orderInVain | orderRelease | shutDown | shutDownInVain | join | look | lookInVain
  | announceInVain | answered | takeNothing | probeInVain | retry | giveUp => exact hushed
  | drop s w c first => exact hushed.dropFirst first
  | hear s w c first => exact hushed.dropFirst first
  | readLine s w c first => exact hushed.dropFirst first

theorem Hushed.begin (hushed : s.Hushed) (call : Call) : (s.begin call).Hushed := hushed

theorem Hushed.post (hushed : s.Hushed) {message : Message}
    (plain : ∀ event, message ≠ .event event) : (s.post message).Hushed := by
  have hnews : (s.post message).news = s.news := by
    simp [Runner.news, Runner.post, Shared.post, Message.remark?_of_plain plain]
  intro hawaited
  rw [hnews]
  exact hushed hawaited

/-- Nothing is on its way of a run whose request is pending. -/
theorem Hushed.news_eq_nil (hushed : s.Hushed) (agreed : s.Agreed)
    (pending : s.foreground.pending = some request) (current : request.run = s.shared.generation) :
    s.news = [] := by
  obtain ⟨hawaited, halone⟩ := agreed.alone_of_pending pending current
  refine (hushed (by simp [hawaited])).resolve_right ?_
  rintro ⟨before, prompt, hlast⟩
  -- The prompt would come from another request of the run.
  have hprompt : .prompt prompt ∈ s.news := by simp [hlast]
  obtain ⟨message, hmessage, hremark⟩ := List.mem_filterMap.mp hprompt
  obtain ⟨event, rfl, hrun, hevent⟩ := Message.remark?_eq_some hremark
  obtain ⟨other, rfl⟩ : ∃ other, event = .requested other := by
    cases event <;> cases hevent
    exact ⟨_, rfl⟩
  refine List.filter_eq_nil_iff.mp halone other (List.mem_filterMap.mpr ⟨_, hmessage, rfl⟩) ?_
  exact Request.isOf_iff.mpr (Option.some.inj hrun)

/-- No request is pending when something is heard of the current run. -/
theorem Hushed.pending_eq_none (hushed : s.Hushed) (agreed : s.Agreed) {patient : Bool}
    (taking : s.foreground.activity = .taking patient) {message : Message} {inbox : List Message}
    (first : s.shared.inbox = message :: inbox) {remark : Remark}
    (told : message.remark? s.shared.generation = some remark) : s.foreground.pending = none := by
  refine Option.eq_none_iff_forall_ne_some.mpr fun request pending => ?_
  have current : request.run = s.shared.generation := by
    simpa [taking, Activity.isRestarting, Activity.isDeparting] using
      agreed.pending request pending
  have hnews := hushed.news_eq_nil agreed pending current
  rw [news_cons first, told] at hnews
  cases hnews

end Runner

end Pseudocode
