import Pseudocode.Proofs.Runner.Agreement

/-!
The life of the control word. A `Shift` is what becomes of it in one step, with who made it and what
for, and `Logged` has the courses of a runner with all their shifts. As long as nobody resets the
channel of a run that is still the current one, a request claims the word once, an answer is
announced once for each call that says so, and whoever makes the word idle without force has just
read the answer that was announced.
-/

namespace Pseudocode

/-- A change of the control word. -/
inductive Shift where
  /-- A request begins to wait. -/
  | claim (request : Request)
  /-- The foreground has answered a request. -/
  | announce (request : Request) (answer : String)
  /-- A request returns the text that it has read. -/
  | consume (request : Request) (text : String)
  /-- The word is forced to idle, whatever it was. -/
  | force (found : ChannelState)
  deriving DecidableEq, Repr

namespace Shift

def source : Shift → ChannelState
  | claim _ => .idle
  | announce .. => .waiting
  | consume .. => .ready
  | force found => found

def target : Shift → ChannelState
  | claim _ => .waiting
  | announce .. => .ready
  | consume .. | force _ => .idle

def claimed? : Shift → Option Request
  | claim request => some request
  | _ => none

def isAnnouncement : Shift → Bool
  | announce .. => true
  | _ => false

/-- Whether shifts lead from one state to another, each beginning where the one before it ends. -/
inductive Lead (first : ChannelState) : List Shift → ChannelState → Prop
  | rest : Lead first [] first
  | next {log : List Shift} {state : ChannelState} {shift : Shift} (lead : Lead first log state)
    (h : shift.source = state) : Lead first (log ++ [shift]) shift.target

variable {log log' : List Shift} {a b c : ChannelState}

theorem Lead.trans (first : Lead a log b) (second : Lead b log' c) : Lead a (log ++ log') c := by
  induction second with
  | rest => simpa using first
  | next _ h ih =>
      rw [← List.append_assoc]
      exact ih.next h

theorem lead_single (shift : Shift) : Lead shift.source [shift] shift.target :=
  Lead.rest.next rfl

/-- What is consumed is what was announced just before, as it can be read back. -/
def Consumes (capacity : Nat) (log : List Shift) : Prop :=
  ∀ before request text after, log = before ++ consume request text :: after →
    ∃ earlier answer, before = earlier ++ [announce request answer] ∧
      text = Channel.readBack capacity answer

theorem Consumes.append {capacity : Nat} {shift : Shift} (consumes : Consumes capacity log)
    (last : ∀ request text, shift = consume request text →
      ∃ earlier answer, log = earlier ++ [announce request answer] ∧
        text = Channel.readBack capacity answer) : Consumes capacity (log ++ [shift]) := by
  intro before request text after hlog
  rcases after.eq_nil_or_concat with rfl | ⟨init, final, rfl⟩
  · obtain ⟨rfl, hshift⟩ := List.append_inj' hlog rfl
    exact last request text (List.singleton_inj.mp hshift)
  · rw [List.concat_eq_append, ← List.cons_append, ← List.append_assoc] at hlog
    exact consumes before request text init (List.append_inj' hlog rfl).1

end Shift

/-! ### The shifts of each side -/

namespace Asking

def shift? (request : Request) (c : Channel) : Asking → Option Shift
  | claiming | reclaiming => (c.transition .idle .waiting).toOption.map fun _ => .claim request
  | recovering | withdrawing => some (.force c.state)
  | consuming text => (c.transition .ready .idle).toOption.map fun _ => .consume request text
  | _ => none

/-- Whether a request has gone to the channel and did not return yet. -/
def isOpen : Asking → Bool
  | claiming | returned _ => false
  | _ => true

/-- Whether a request has found the channel busy. -/
def isRecovering : Asking → Bool
  | recovering | wakingAfterRecovery | reclaiming => true
  | _ => false

/-- The answer that a request has read or is going to read, if there is one. -/
def answer (c : Channel) : Asking → String
  | erasing text | consuming text => text
  | _ => c.readText

variable {request : Request} {s s' : Shared} {stage stage' : Asking} {state : ChannelState}

theorem answer_woken (stage : Asking) (c : Channel) : stage.woken.answer c = stage.answer c := by
  cases stage <;> rfl

/-- A request that waits has not read its answer. -/
theorem Fits.answer (fits : stage.Fits .waiting) (c : Channel) : stage.answer c = c.readText := by
  cases stage with
  | erasing | consuming => exact (fits rfl).elim
  | _ => rfl

theorem Fits.idle_of_not_isOpen (fits : stage.Fits state) (outside : stage.isOpen = false) :
    state = .idle := by
  cases stage with
  | claiming | returned => exact fits
  | _ => cases outside

theorem Fits.not_isRecovering (fits : stage.Fits state) : stage.isRecovering = false := by
  cases stage with
  | recovering | wakingAfterRecovery | reclaiming => exact fits.elim
  | _ => rfl

theorem shift?_claiming {c : Channel} (sound : c.IsSound) (idle : c.state = .idle) :
    claiming.shift? request c = some (.claim request) := by
  simp only [shift?, sound.transition_of_state (b := .waiting) rfl idle]
  rfl

theorem shift?_consuming {c : Channel} {text : String} (sound : c.IsSound) :
    (consuming text).shift? request c =
      if c.state = .ready then some (.consume request text) else none := by
  split
  · simp only [shift?, sound.transition_of_state (b := .idle) rfl ‹_›]
    rfl
  · simp only [shift?, sound.transition_of_state_ne (b := .idle) ‹_›]
    rfl

/-- A text is consumed only where an answer is there. -/
theorem shift?_eq_consume {c : Channel} {other : Request} {text : String} (sound : c.IsSound)
    (h : stage.shift? request c = some (.consume other text)) :
    stage = consuming text ∧ other = request ∧ c.state = .ready := by
  cases stage with
  | consuming =>
      rw [shift?_consuming sound] at h
      split at h
      · cases h
        exact ⟨rfl, rfl, ‹_›⟩
      · cases h
  | claiming | reclaiming =>
      obtain ⟨_, _, hshift⟩ := Option.map_eq_some_iff.mp h
      cases hshift
  | _ => cases h

theorem Turn.lead (turn : Turn request s stage s' stage') (sound : s.channel.IsSound) :
    Shift.Lead s.channel.state (stage.shift? request s.channel).toList s'.channel.state := by
  cases turn with
  | claim idle =>
      rw [shift?_claiming sound idle, Channel.state_setState, idle]
      exact Shift.lead_single (.claim _)
  | withdraw =>
      rw [Shared.resetChannel, Channel.reset, Channel.state_setState]
      exact Shift.lead_single (.force _)
  | consume ready =>
      rw [shift?_consuming sound, if_pos ready, Channel.state_setState, ready]
      exact Shift.lead_single (.consume ..)
  | consumeInVain idle =>
      rw [shift?_consuming sound, if_neg (by simp [idle])]
      exact .rest
  | erase =>
      rw [Channel.state_clear]
      exact .rest
  | _ => exact .rest

end Asking

namespace Worker

def shift? (c : Channel) (w : Worker) : Option Shift :=
  match w.phase with
  | .asking request stage _ => stage.shift? request c
  | _ => none

/-- The request that was made and did not go to the channel yet. -/
def unclaimed? (w : Worker) : Option Request :=
  match w.phase with
  | .asking request .claiming _ => some request
  | _ => none

/-- Whether the worker is in a request that has gone to the channel. -/
def isOpen (w : Worker) : Bool :=
  match w.phase with
  | .asking _ stage _ => stage.isOpen
  | _ => false

theorem Fits.idle_of_not_isOpen {w : Worker} {state : ChannelState} (fits : w.Fits state)
    (outside : w.isOpen = false) : state = .idle := by
  unfold Fits at fits
  unfold isOpen at outside
  split at fits
  · exact fits.idle_of_not_isOpen (by simpa [*] using outside)
  · exact fits

@[simp] theorem unclaimed?_woken (w : Worker) : w.woken.unclaimed? = w.unclaimed? :=
  eq_woken unclaimed? w fun _ _ _ _ => rfl

theorem shift?_eq_consume {w : Worker} {c : Channel} {request : Request} {text : String}
    (sound : c.IsSound) (h : w.shift? c = some (.consume request text)) :
    (∃ next, w.phase = .asking request (.consuming text) next) ∧ c.state = .ready := by
  unfold shift? at h
  split at h
  · obtain ⟨rfl, rfl, ready⟩ := Asking.shift?_eq_consume sound h
    exact ⟨⟨_, ‹_›⟩, ready⟩
  · cases h

/-- The worker returns from no call. -/
theorem count_deeds (w : Worker) (reply : Reply) : w.deeds.count (.replied reply) = 0 := by
  unfold deeds
  split <;> simp

/-- Only the foreground announces answers. -/
theorem not_announcing (w : Worker) (c : Channel) :
    (w.shift? c).toList.countP Shift.isAnnouncement = 0 := by
  unfold shift?
  split
  · rename_i request stage next hphase
    cases stage with
    | claiming | reclaiming =>
        simp only [Asking.shift?]
        cases c.transition .idle .waiting <;> rfl
    | consuming =>
        simp only [Asking.shift?]
        cases c.transition .ready .idle <;> rfl
    | _ => rfl
  · rfl

namespace Turn

variable {interpreter : Interpreter} {s s' : Shared} {w w' : Worker}

theorem lead (turn : Turn interpreter s w s' w') (sound : s.channel.IsSound) :
    Shift.Lead s.channel.state (w.shift? s.channel).toList s'.channel.state := by
  cases turn with
  | stage w turn => exact turn.lead sound
  | _ => exact .rest

/-- A request claims the channel in its first step, and only then. -/
theorem claimed (turn : Turn interpreter s w s' w') (sound : s.channel.IsSound) :
    (w.shift? s.channel).toList.filterMap Shift.claimed? ++ w'.unclaimed?.toList =
      w.unclaimed?.toList ++ Deed.requests w.deeds := by
  cases turn with
  | stage w turn =>
      cases turn with
      | claim idle =>
          simp only [shift?, Asking.shift?_claiming sound idle]
          rfl
      | consume ready =>
          simp only [shift?, Asking.shift?_consuming sound, if_pos ready]
          rfl
      | consumeInVain idle =>
          simp only [shift?, Asking.shift?_consuming sound, idle, reduceCtorEq, if_false]
          rfl
      | _ => rfl
  | _ => rfl

end Turn

end Worker

namespace Activity

def shift? (c : Channel) : Activity → Option Shift
  | resetting _ => some (.force c.state)
  | answering request text .announcing =>
    (c.transition .waiting .ready).toOption.map fun _ => .announce request text
  | _ => none

/-- Whether an answer was announced by a call that did not return yet. -/
def hasAnnounced : Activity → Bool
  | answering _ _ .waking => true
  | _ => false

theorem shift?_announcing {c : Channel} {request : Request} {text : String} (sound : c.IsSound) :
    (answering request text .announcing).shift? c =
      if c.state = .waiting then some (.announce request text) else none := by
  split
  · simp only [shift?, sound.transition_of_state (b := .ready) rfl ‹_›]
    rfl
  · simp only [shift?, sound.transition_of_state_ne (b := .ready) ‹_›]
    rfl

end Activity

namespace Runner

/-- The change of the control word in the step that is chosen, if there is one. -/
def shift? (s : Runner) : Choice → Option Shift
  | .foreground => s.foreground.activity.shift? s.shared.channel
  | .worker => s.worker.shift? s.shared.channel
  | .call _ | .spurious | .post _ => none

/-- What can become of a runner, with all that happens on the way and all changes of the control
word. -/
inductive Logged (interpreter : Interpreter) (s : Runner) : List Deed → List Shift → Runner → Prop
  | rest : Logged interpreter s [] [] s
  | step {h deeds : List Deed} {log : List Shift} {t u : Runner}
    (logged : Logged interpreter s h log t) (choice : Choice)
    (hchoose : t.choose? interpreter choice = some (deeds, u)) :
    Logged interpreter s (h ++ deeds) (log ++ (t.shift? choice).toList) u

variable {interpreter : Interpreter} {capacity : Nat} {s s₀ t : Runner} {h deeds : List Deed}
  {log : List Shift} {shared : Shared} {worker : Worker} {request : Request}

/-! ### Courses with their shifts -/

theorem Logged.course (logged : Logged interpreter s h log t) : Course interpreter s h t := by
  induction logged with
  | rest => exact .rest
  | step _ choice hchoose ih => exact ih.move (move_of_choose? hchoose)

theorem exists_choice (move : Move interpreter s deeds t) :
    ∃ choice, s.choose? interpreter choice = some (deeds, t) := by
  cases move with
  | call call free => exact ⟨.call call, by simp [choose?, free]⟩
  | foreground hstep => exact ⟨.foreground, by simp [choose?, hstep]⟩
  | worker hstep => exact ⟨.worker, by simp [choose?, hstep]⟩
  | spurious => exact ⟨.spurious, rfl⟩
  | post message => exact ⟨.post message, rfl⟩

theorem Course.exists_logged (course : Course interpreter s h t) :
    ∃ log, Logged interpreter s h log t := by
  induction course with
  | rest => exact ⟨[], .rest⟩
  | move _ move ih =>
      obtain ⟨log, logged⟩ := ih
      obtain ⟨choice, hchoose⟩ := exists_choice move
      exact ⟨_, logged.step choice hchoose⟩

/-! ### What every step keeps -/

/-- What the changes of the control word have to do with the history, and with where the two sides
stand. -/
structure Lives (capacity : Nat) (h : List Deed) (log : List Shift) (s : Runner) : Prop where
  lead : Shift.Lead .idle log s.shared.channel.state
  /-- Each request has claimed the channel, the last one perhaps not yet. -/
  claimed : log.filterMap Shift.claimed? ++ s.worker.unclaimed?.toList = Deed.requests h
  /-- Each announcement belongs to a call that has said so, the last one perhaps not yet. -/
  announced : log.countP Shift.isAnnouncement =
    h.count (.replied (.answered true)) + s.foreground.activity.hasAnnounced.toNat
  /-- Whoever has announced an answer goes on to return. -/
  going : ∀ request text accepted,
    s.foreground.activity ≠ .answering request text (.returned accepted)
  consumes : Shift.Consumes capacity log
  /-- An answer that is there was announced last, and is read by the request that it is for. -/
  ready : s.shared.channel.state = .ready → ∃ earlier request answer stage next,
    log = earlier ++ [.announce request answer] ∧ s.worker.phase = .asking request stage next ∧
      stage.hasSent = true ∧ stage.answer s.shared.channel = Channel.readBack capacity answer

theorem lives_of_spawn (hspawn : spawn capacity = .ok s) : Lives capacity [] [] s := by
  obtain rfl := eq_of_spawn hspawn
  exact ⟨.rest, rfl, rfl, by rintro _ _ _ ⟨⟩, by simp [Shift.Consumes], by rintro ⟨⟩⟩

/-- A request that finds an answer goes on to read it, or returns the text of the answer. -/
theorem Lives.ready_stage (lives : Lives capacity h log s)
    {stage stage' : Asking} {next : String → Dialogue Ending}
    (phase : s.worker.phase = .asking request stage next)
    (turn : Asking.Turn request s.shared stage shared stage')
    (ready : shared.channel.state = .ready) :
    stage.shift? request s.shared.channel = none ∧ ∃ earlier answer,
      log = earlier ++ [.announce request answer] ∧ stage'.hasSent = true ∧
        stage'.answer shared.channel = Channel.readBack capacity answer := by
  have hbefore (hready : s.shared.channel.state = .ready) : ∃ earlier answer,
      log = earlier ++ [.announce request answer] ∧ stage.hasSent = true ∧
        stage.answer s.shared.channel = Channel.readBack capacity answer := by
    obtain ⟨earlier, other, answer, stage', next', rfl, hphase, sent, hanswer⟩ := lives.ready hready
    rw [phase] at hphase
    cases hphase
    exact ⟨earlier, answer, rfl, sent, hanswer⟩
  cases turn with
  | claim | withdraw | consume => simp [Shared.resetChannel, Channel.reset] at ready
  | watch waiting | sleep waiting => cases waiting.symm.trans ready
  | findNothing idle | consumeInVain idle => cases idle.symm.trans ready
  | pass | fail | send | giveUp =>
      obtain ⟨_, _, _, sent, _⟩ := hbefore ready
      cases sent
  | notice | startle | find | read => exact ⟨rfl, hbefore ready⟩
  | erase => exact ⟨rfl, hbefore (by simpa using ready)⟩

theorem Lives.turn (lives : Lives capacity h log s) (sound : s.shared.channel.IsSound)
    (turn : Worker.Turn interpreter s.shared s.worker shared worker) :
    Lives capacity (h ++ s.worker.deeds) (log ++ (s.worker.shift? s.shared.channel).toList)
      { s with shared, worker } where
  lead := lives.lead.trans (turn.lead sound)
  claimed := by
    rw [List.filterMap_append, List.append_assoc, turn.claimed sound, ← List.append_assoc,
      lives.claimed, Deed.requests_append]
  announced := by
    rw [List.countP_append, s.worker.not_announcing, List.count_append, s.worker.count_deeds]
    exact lives.announced
  going := lives.going
  consumes := by
    cases hshift : s.worker.shift? s.shared.channel with
    | none => simpa using lives.consumes
    | some shift =>
        refine lives.consumes.append fun request text hconsume => ?_
        subst hconsume
        obtain ⟨⟨next, phase⟩, ready⟩ := Worker.shift?_eq_consume sound hshift
        obtain ⟨earlier, other, answer, stage, next', hlog, hphase, _, hanswer⟩ := lives.ready ready
        rw [phase] at hphase
        cases hphase
        exact ⟨earlier, answer, hlog, hanswer⟩
  ready := fun ready => by
    obtain ⟨s, w, c⟩ := s
    cases turn with
    | stage w turn =>
        obtain ⟨hnone, earlier, answer, hlog, sent, hanswer⟩ := lives.ready_stage rfl turn ready
        exact ⟨earlier, _, answer, _, _, by simp [Worker.shift?, hnone, hlog], rfl, sent, hanswer⟩
    | resume =>
        obtain ⟨_, _, _, _, _, _, hphase, sent, _⟩ := lives.ready ready
        cases hphase
        cases sent
    | _ =>
        obtain ⟨_, _, _, _, _, _, hphase, _⟩ := lives.ready ready
        cases hphase

theorem Lives.woken (lives : Lives capacity h log s) :
    Lives capacity h log { s with worker := s.worker.woken } where
  lead := lives.lead
  claimed := by rw [Worker.unclaimed?_woken, lives.claimed]
  announced := lives.announced
  going := lives.going
  consumes := lives.consumes
  ready := fun ready => by
    obtain ⟨earlier, request, answer, stage, next, hlog, hphase, sent, hanswer⟩ := lives.ready ready
    exact ⟨earlier, request, answer, stage.woken, next, hlog, Worker.phase_woken hphase,
      by rw [Asking.hasSent_woken, sent], by rw [Asking.answer_woken, hanswer]⟩

/-- A step of the foreground that leaves the channel and the worker alone. -/
theorem Lives.later (lives : Lives capacity h log s) {foreground : Foreground} {shifts : List Shift}
    (requests : Deed.requests deeds = []) (quiet : shifts = [])
    (announced : s.foreground.activity.hasAnnounced.toNat =
      deeds.count (.replied (.answered true)) + foreground.activity.hasAnnounced.toNat)
    (going : ∀ request text accepted,
      foreground.activity ≠ .answering request text (.returned accepted))
    (channel : shared.channel = s.shared.channel) :
    Lives capacity (h ++ deeds) (log ++ shifts) { s with shared, foreground } := by
  rw [quiet, List.append_nil]
  exact
    { lead := by rw [channel]; exact lives.lead
      claimed := by rw [Deed.requests_append, requests, List.append_nil, lives.claimed]
      announced := by rw [lives.announced, List.count_append, announced, Nat.add_assoc]
      going := going
      consumes := lives.consumes
      ready := by
        rw [channel]
        exact lives.ready }

/-- While an answer is being written the word says to wait, so that none is there. -/
theorem Lives.write (lives : Lives capacity h log s) (text : String)
    (waiting : s.shared.channel.state = .waiting) :
    Lives capacity h log
      { s with shared := { s.shared with channel := s.shared.channel.writeText text } } where
  lead := by
    rw [Channel.state_writeText]
    exact lives.lead
  claimed := lives.claimed
  announced := lives.announced
  going := lives.going
  consumes := lives.consumes
  ready := fun ready => by
    rw [Channel.state_writeText] at ready
    cases waiting.symm.trans ready

/-- An answer is announced to the request that waits for it, and can be read there. -/
theorem Lives.announce {s : Shared} {w : Worker} {c : Foreground} {text : String}
    (lives : Lives capacity h log
      ⟨s, w, { c with activity := .answering request text .announcing }⟩)
    (sound : Sound capacity ⟨s, w, { c with activity := .answering request text .announcing }⟩)
    (agreed : Agreed ⟨s, w, { c with activity := .answering request text .announcing }⟩)
    (waiting : s.channel.state = .waiting) :
    Lives capacity h (log ++ [.announce request text])
      ⟨{ s with channel := s.channel.setState .ready }, w,
        { c with activity := .answering request text .waking }⟩ where
  lead := by
    rw [Channel.state_setState]
    exact lives.lead.next waiting.symm
  claimed := by
    rw [List.filterMap_append, show [Shift.announce request text].filterMap Shift.claimed? = [] from
      rfl, List.append_nil]
    exact lives.claimed
  announced := by
    rw [List.countP_append, lives.announced]
    rfl
  going := by rintro _ _ _ ⟨⟩
  consumes := lives.consumes.append (by rintro _ _ ⟨⟩)
  ready := fun _ => by
    obtain ⟨stage, next, hphase, sent, _, _⟩ := mem_awaited.mp (agreed.mem_awaited_of_answered rfl)
    have hfits := sound.worker.fits
    rw [Worker.Fits, hphase, waiting] at hfits
    have hwritten : s.channel.readText = Channel.readBack s.channel.capacity text :=
      agreed.written request text rfl
    refine ⟨log, request, text, stage, next, rfl, hphase, sent, ?_⟩
    rw [hfits.answer, Channel.readText_setState, hwritten, sound.shared.capacity]

/-- A reset takes back whatever was announced. -/
theorem Lives.reset (lives : Lives capacity h log s) {foreground : Foreground}
    (announced : s.foreground.activity.hasAnnounced = foreground.activity.hasAnnounced)
    (going : ∀ request text accepted,
      foreground.activity ≠ .answering request text (.returned accepted)) :
    Lives capacity h (log ++ [.force s.shared.channel.state])
      { s with shared := s.shared.resetChannel, foreground } where
  lead := by
    rw [Shared.resetChannel, Channel.reset, Channel.state_setState]
    exact lives.lead.next rfl
  claimed := by
    rw [List.filterMap_append, show [Shift.force _].filterMap Shift.claimed? = [] from rfl,
      List.append_nil]
    exact lives.claimed
  announced := by
    rw [List.countP_append, lives.announced, announced]
    rfl
  going := going
  consumes := lives.consumes.append (by rintro _ _ ⟨⟩)
  ready := by simp [Shared.resetChannel, Channel.reset]

theorem Lives.act (lives : Lives capacity h log s) (sound : Sound capacity s) (agreed : s.Agreed)
    (act : Act s t) :
    Lives capacity (h ++ t.foreground.deeds)
      (log ++ (s.foreground.activity.shift? s.shared.channel).toList) t := by
  cases act with
  | reset s w c =>
      show Lives capacity (h ++ []) _ _
      rw [List.append_nil]
      exact lives.reset rfl (by rintro _ _ _ ⟨⟩)
  | announce s w c waiting =>
      show Lives capacity (h ++ []) _ _
      rw [List.append_nil, Activity.shift?_announcing sound.shared.channel, if_pos waiting]
      exact lives.announce sound agreed waiting
  | announceInVain s w c late =>
      refine lives.later rfl ?_ rfl (by rintro _ _ _ ⟨⟩) rfl
      rw [Activity.shift?_announcing sound.shared.channel, if_neg late]
      rfl
  | write s w c =>
      have waiting := waiting_of_mem_awaited (agreed.mem_awaited_of_answered rfl)
      exact (lives.write _ waiting).later rfl rfl rfl (by rintro _ _ _ ⟨⟩) rfl
  | answered => exact (lives.going _ _ _ rfl).elim
  | wakeToStart | wakeToRelease | wakeToShutDown | wakeToRead =>
      exact lives.woken.later rfl rfl rfl (by rintro _ _ _ ⟨⟩) rfl
  | _ => exact lives.later rfl rfl rfl (by rintro _ _ _ ⟨⟩) rfl

/-- No call begins by announcing an answer or by having announced one. -/
theorem Lives.begin (lives : Lives capacity h log s) (free : s.foreground.isFree = true)
    (call : Call) :
    Lives capacity (h ++ .called s.foreground.pending call :: (s.begin call).foreground.deeds)
      (log ++ []) (s.begin call) := by
  obtain ⟨shared, w, activity, active, ready, pending⟩ := s
  cases activity with
  | idle | returned =>
      cases call with
      | submit text => cases pending <;> exact lives.later rfl rfl rfl (by rintro _ _ _ ⟨⟩) rfl
      | start | receive | poll | reset | close =>
          exact lives.later rfl rfl rfl (by rintro _ _ _ ⟨⟩) rfl
  | _ => cases free

theorem Lives.choose (lives : Lives capacity h log s) (sound : Sound capacity s)
    (agreed : s.Agreed) {choice : Choice}
    (hchoose : s.choose? interpreter choice = some (deeds, t)) :
    Lives capacity (h ++ deeds) (log ++ (s.shift? choice).toList) t := by
  cases choice with
  | call call =>
      simp only [choose?] at hchoose
      split at hchoose
      · cases hchoose
        exact lives.begin ‹_› call
      · cases hchoose
  | foreground =>
      obtain ⟨t, hstep, hpair⟩ := Option.map_eq_some_iff.mp hchoose
      cases hpair
      exact lives.act sound agreed (act_of_foregroundStep? sound.shared.channel hstep)
  | worker =>
      obtain ⟨t, hstep, hpair⟩ := Option.map_eq_some_iff.mp hchoose
      cases hpair
      obtain ⟨shared, worker, turn, rfl⟩ := sound.turn_of_workerStep? hstep
      exact lives.turn sound.shared.channel turn
  | spurious =>
      cases hchoose
      exact lives.woken.later rfl rfl (by simp) lives.going rfl
  | post message =>
      cases hchoose
      exact lives.later rfl rfl (by simp) lives.going rfl

theorem lives_of_logged (hspawn : spawn capacity = .ok s₀) (logged : Logged interpreter s₀ h log s)
    (hdeeds : ∀ deed ∈ h, deed.Calls (· ≠ .reset) ∧ deed.Honest) : Lives capacity h log s := by
  induction logged with
  | rest => exact lives_of_spawn hspawn
  | step logged choice hchoose ih =>
      have hbefore := (List.forall_mem_append.mp hdeeds).1
      obtain ⟨sound, agreed⟩ :=
        (agreed_of_spawn hspawn).course (sound_of_spawn hspawn) logged.course hbefore
      exact (ih hbefore).choose sound agreed hchoose

/-- The life of the control word, as long as the channel is not reset by itself and the worker alone
sends events, for all orders in which the two sides can move.

* The word begins idle and goes from shift to shift.
* Each request claims it once, in the order in which the requests are made; only the last request
  may still have to.
* As many answers were announced as calls have said so, or are about to after having announced one.
* Whoever consumes an answer was told it in the shift just before, and has the text that can be read
  back of it.
* The word is idle unless the worker is in a request that has gone to the channel.
* So a request that goes to the channel finds it idle, and never has to recover it. -/
theorem word_lifecycle (hspawn : spawn capacity = .ok s₀) (logged : Logged interpreter s₀ h log s)
    (hdeeds : ∀ deed ∈ h, deed.Calls (· ≠ .reset) ∧ deed.Honest) :
    (s.shared.channel.word = s.shared.channel.state.toWord ∧
      Shift.Lead .idle log s.shared.channel.state) ∧
    log.filterMap Shift.claimed? ++ s.worker.unclaimed?.toList = Deed.requests h ∧
    log.countP Shift.isAnnouncement =
      h.count (.replied (.answered true)) + s.foreground.activity.hasAnnounced.toNat ∧
    Shift.Consumes capacity log ∧
    (s.worker.isOpen = false → s.shared.channel.word = ChannelState.idle.toWord) ∧
    ∀ request stage next, s.worker.phase = .asking request stage next →
      stage.isRecovering = false ∧
      (stage = .claiming →
        s.shared.channel.transition .idle .waiting = .ok (s.shared.channel.setState .waiting)) := by
  have sound : Sound capacity s :=
    (sound_of_spawn hspawn).course logged.course fun deed hdeed => (hdeeds deed hdeed).2
  have lives := lives_of_logged hspawn logged hdeeds
  have hchannel := sound.shared.channel
  have hfits := sound.worker.fits
  refine ⟨⟨hchannel, lives.lead⟩, lives.claimed, lives.announced, lives.consumes,
    fun outside => ?_, fun request stage next hphase => ?_⟩
  · exact (hchannel.word_eq_iff .idle).mpr (hfits.idle_of_not_isOpen outside)
  · rw [Worker.Fits, hphase] at hfits
    refine ⟨hfits.not_isRecovering, fun hclaiming => ?_⟩
    subst hclaiming
    exact hchannel.transition_of_state rfl hfits

/-- A survey gets an answer and an empty one. The next survey is given up for another while it
waits, and the worker falls idle. -/
def replacement : List Choice :=
  List.flatten
    [[.worker, .worker, .call (.start "name\nage")], List.replicate 4 .foreground,
      List.replicate 8 .worker,
      [.call .receive, .foreground, .call .receive, .foreground, .call (.submit "Anna")],
      List.replicate 4 .foreground, List.replicate 14 .worker,
      [.call .receive, .foreground, .call .receive, .foreground, .call .cancel],
      List.replicate 4 .foreground, List.replicate 10 .worker,
      [.call (.start "town")], List.replicate 4 .foreground, List.replicate 8 .worker,
      [.call (.start "")], List.replicate 4 .foreground, List.replicate 5 .worker]

theorem word_lifecycle_replacement :
    ∃ s₀ h log s, spawn 16 = .ok s₀ ∧ Logged Interpreter.survey s₀ h log s ∧
      Shift.Lead .idle log .idle ∧
      log.filterMap Shift.claimed? = [⟨1, 1, "name"⟩, ⟨1, 2, "age"⟩, ⟨2, 3, "town"⟩] ∧
      log.countP Shift.isAnnouncement = 2 ∧ Shift.Consumes 16 log := by
  have hseen : ((spawn 16).toOption.bind (follow? Interpreter.survey replacement)).map
      (fun p => (p.1, p.2.worker.isOpen, p.2.worker.unclaimed?,
        p.2.foreground.activity.hasAnnounced)) =
      some ([.called none (.start "name\nage"), .replied (.started 1), .asked ⟨1, 1, "name"⟩,
          .called none .receive, .replied (.received (.event .ready)),
          .called none .receive, .replied (.received (.event (.requested ⟨1, 1, "name"⟩))),
          .called (some ⟨1, 1, "name"⟩) (.submit "Anna"), .replied (.answered true),
          .handed ⟨1, 1, "name"⟩ "Anna", .asked ⟨1, 2, "age"⟩,
          .called none .receive, .replied (.received (.event (.produced 1 "got Anna"))),
          .called none .receive, .replied (.received (.event (.requested ⟨1, 2, "age"⟩))),
          .called (some ⟨1, 2, "age"⟩) .cancel, .replied (.answered true),
          .handed ⟨1, 2, "age"⟩ "",
          .called none (.start "town"), .replied (.started 2), .asked ⟨2, 3, "town"⟩,
          .called none (.start ""), .replied (.started 3), .handed ⟨2, 3, "town"⟩ ""],
        false, none, false) := by
    decide +kernel
  obtain ⟨s₀, h, s, hspawn, course, hview⟩ := course_of_spawn hseen
  simp only [Prod.mk.injEq] at hview
  obtain ⟨rfl, outside, hunclaimed, hannounced⟩ := hview
  obtain ⟨log, logged⟩ := course.exists_logged
  obtain ⟨⟨hword, lead⟩, hclaimed, hcount, hconsumes, hidle, -⟩ :=
    word_lifecycle hspawn logged (by simp [Deed.Calls, Deed.Honest, Call.cancel])
  rw [hidle outside] at hword
  rw [← ChannelState.toWord_injective hword] at lead
  rw [hunclaimed] at hclaimed
  rw [hannounced] at hcount
  exact ⟨s₀, _, log, s, hspawn, logged, lead, (List.append_nil _).symm.trans hclaimed, hcount,
    hconsumes⟩

end Runner

end Pseudocode
