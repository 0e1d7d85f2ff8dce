import Pseudocode.Proofs.Asking
import Pseudocode.Runner

/-!
The steps of the two sides of a runner, kind by kind. `Worker.Turn` and `Runner.Act` say how each
step begins and what it leaves behind, and every proof about all steps is by cases on them.

The steps are those that are made while somebody listens, commands can still be given and the
channel is in a state that fits where the worker stands, which is always so in a runner.
-/

namespace Pseudocode

/-- The event that tells how a run has ended; a canceled or broken run has none. -/
def Ending.event? (run : Nat) : Ending → Option Event
  | finished summary => some (.finished run summary)
  | failed fault => some (.failed run fault.message)
  | canceled | crashed | exhausted => none

/-- Whether a run ends without an event: it was canceled, or it was cut off and is not the current
one any more. -/
def Ending.IsSilent (canceled : Bool) : Ending → Prop
  | .canceled => True
  | .exhausted => canceled = true
  | _ => False

namespace Worker

/-- Whether the channel can be in a state when the worker stands where it does. -/
def Fits (w : Worker) (state : ChannelState) : Prop :=
  match w.phase with
  | .asking _ stage _ => stage.Fits state
  | _ => state = .idle

/-- One step of the worker. -/
inductive Turn (interpreter : Interpreter) (s : Shared) : Worker → Shared → Worker → Prop
  | prepare (w : Worker) {commands : List Command}
    (queued : s.commands = .init :: commands) :
    Turn interpreter s { w with phase := .idle } { s with commands }
      { w with phase := .announcing, lastRequest? := some 0 }
  | accept (w : Worker) {commands : List Command} {run : Nat} {source : String}
    (queued : s.commands = .run run source :: commands) :
    Turn interpreter s { w with phase := .idle } { s with commands }
      { w with phase := .starting run source }
  | retire (w : Worker) {commands : List Command}
    (queued : s.commands = .shutdown :: commands) :
    Turn interpreter s { w with phase := .idle } { s with commands }
      { w with phase := .stopped false }
  | greet (w : Worker) :
    Turn interpreter s { w with phase := .announcing } (s.post (.event .ready))
      { w with phase := .idle }
  | skip (w : Worker) {run : Nat} {source : String} (stale : s.generation ≠ run) :
    Turn interpreter s { w with phase := .starting run source } s { w with phase := .idle }
  | refuse (w : Worker) {run : Nat} {source : String} (current : s.generation = run)
    (early : w.lastRequest? = none) :
    Turn interpreter s { w with phase := .starting run source } s { w with phase := .refusing run }
  | commence (w : Worker) {run : Nat} {source : String}
    (current : s.generation = run) (prepared : w.lastRequest?.isSome = true) :
    Turn interpreter s { w with phase := .starting run source } s
      { w with phase := .running run (interpreter source), disconnected := false }
  | reject (w : Worker) {run : Nat} :
    Turn interpreter s { w with phase := .refusing run }
      (s.post (.event (.failed run "worker has not been initialized"))) { w with phase := .idle }
  | check (w : Worker) {run : Nat} {next : Bool → Dialogue Ending} :
    Turn interpreter s { w with phase := .running run (.check next) } s
      { w with phase := .running run (next (w.isCanceled s run)) }
  | tell (w : Worker) {run : Nat} {text : String} {next : Unit → Dialogue Ending} :
    Turn interpreter s { w with phase := .running run (.tell text next) }
      (s.post (.event (.produced run text))) { w with phase := .running run (next ()) }
  | ask (w : Worker) {run : Nat} {prompt : String}
    {next : String → Dialogue Ending} :
    Turn interpreter s { w with phase := .running run (.ask prompt next) } s
      { w with
        phase := .asking (w.newRequest run prompt) .claiming next
        lastRequest? := some (w.newRequest run prompt).id }
  | conclude (w : Worker) {run : Nat} {ending : Ending} {event : Event}
    (told : ending.event? run = some event) :
    Turn interpreter s { w with phase := .running run (.done ending) } s
      { w with phase := .reporting event }
  | leave (w : Worker) {run : Nat} {ending : Ending}
    (silent : ending.IsSilent (w.isCanceled s run)) :
    Turn interpreter s { w with phase := .running run (.done ending) } s { w with phase := .idle }
  | crash (w : Worker) {run : Nat} :
    Turn interpreter s { w with phase := .running run (.done .crashed) } s
      { w with phase := .stopped true }
  | report (w : Worker) {event : Event} :
    Turn interpreter s { w with phase := .reporting event } (s.post (.event event))
      { w with phase := .idle }
  | stage (w : Worker) {s' : Shared} {request : Request} {stage stage' : Asking}
    {next : String → Dialogue Ending} (turn : Asking.Turn request s stage s' stage') :
    Turn interpreter s { w with phase := .asking request stage next } s'
      { w with phase := .asking request stage' next }
  | resume (w : Worker) {request : Request} {text : String}
    {next : String → Dialogue Ending} :
    Turn interpreter s { w with phase := .asking request (.returned text) next } s
      { w with phase := .running request.run (next text) }

theorem turn_of_step? {interpreter : Interpreter} {s s' : Shared} {w w' : Worker}
    (sound : s.channel.IsSound) (listening : s.listening = true)
    (commanding : s.commanding = true) (fits : w.Fits s.channel.state)
    (h : w.step? interpreter s = some (s', w')) : Turn interpreter s w s' w' := by
  have hsend (event : Event) : s.sendEvent? event = some (s.post (.event event)) := by
    simp [Shared.sendEvent?, Shared.send?, listening]
  obtain ⟨phase, last?, disconnected⟩ := w
  let w : Worker := ⟨phase, last?, disconnected⟩
  cases phase with
  | idle =>
      cases hcommands : s.commands with
      | nil => simp [step?, hcommands, commanding] at h
      | cons command commands =>
          simp only [step?, hcommands] at h
          cases h
          cases command with
          | init => exact .prepare w hcommands
          | run run source => exact .accept w hcommands
          | shutdown => exact .retire w hcommands
  | announcing =>
      simp only [step?, report, hsend] at h
      cases h
      exact .greet w
  | starting run source =>
      by_cases stale : s.generation = run
      · cases last? with
        | none =>
            simp [step?, stale] at h
            obtain ⟨rfl, rfl⟩ := h
            exact .refuse w stale rfl
        | some last =>
            simp [step?, stale] at h
            obtain ⟨rfl, rfl⟩ := h
            exact .commence w stale rfl
      · simp [step?, stale] at h
        obtain ⟨rfl, rfl⟩ := h
        exact .skip w stale
  | refusing run =>
      simp only [step?, report, hsend] at h
      cases h
      exact .reject w
  | running run program =>
      cases program with
      | check next =>
          simp only [step?, advance] at h
          cases h
          exact .check w
      | tell text next =>
          simp only [step?, advance, hsend] at h
          cases h
          exact .tell w
      | ask prompt next =>
          simp only [step?, advance] at h
          cases h
          exact .ask w
      | done ending =>
          cases ending with
          | finished summary =>
              simp only [step?, advance] at h
              cases h
              exact .conclude w rfl
          | failed fault =>
              simp only [step?, advance] at h
              cases h
              exact .conclude w rfl
          | canceled =>
              simp only [step?, advance] at h
              cases h
              exact .leave w trivial
          | crashed =>
              simp only [step?, advance, stop] at h
              cases h
              exact .crash w
          | exhausted =>
              by_cases hcanceled : w.isCanceled s run = true
              · simp only [step?, advance, w, hcanceled, if_true] at h
                cases h
                exact .leave w hcanceled
              · simp [step?, advance, w, hcanceled] at h
  | asking request stage next =>
      cases stage with
      | asleep => simp [step?] at h
      | returned text =>
          simp only [step?] at h
          cases h
          exact .resume w
      | _ =>
          simp only [step?] at h
          cases h
          exact .stage w (Asking.turn_step request sound listening fits rfl)
  | reporting event =>
      simp only [step?, report, hsend] at h
      cases h
      exact .report w
  | stopped crashed => simp [step?] at h

end Worker

namespace Runner

/-- One step of the foreground. -/
inductive Act : Runner → Runner → Prop
  | supersede (s : Shared) (w : Worker) (c : Foreground) {source : String} :
    Act ⟨s, w, { c with activity := .superseding (some source) }⟩
      ⟨{ s with generation := s.generation + 1 }, w,
        { c with
          activity := .resetting (.start (s.generation + 1) source)
          active := some (s.generation + 1) }⟩
  | depart (s : Shared) (w : Worker) (c : Foreground) :
    Act ⟨s, w, { c with activity := .superseding none }⟩
      ⟨{ s with generation := s.generation + 1 }, w,
        { c with activity := .resetting .shutdown }⟩
  | reset (s : Shared) (w : Worker) (c : Foreground) {errand : Errand} :
    Act ⟨s, w, { c with activity := .resetting errand }⟩
      ⟨s.resetChannel, w, { c with activity := .waking errand }⟩
  | wakeToStart (s : Shared) (w : Worker) (c : Foreground) {run : Nat} {source : String} :
    Act ⟨s, w, { c with activity := .waking (.start run source) }⟩
      ⟨s, w.woken, { c with activity := .ordering (.start run source), pending := none }⟩
  | wakeToRelease (s : Shared) (w : Worker) (c : Foreground) :
    Act ⟨s, w, { c with activity := .waking .release }⟩
      ⟨s, w.woken, { c with activity := .returned .done }⟩
  | wakeToShutDown (s : Shared) (w : Worker) (c : Foreground) :
    Act ⟨s, w, { c with activity := .waking .shutdown }⟩
      ⟨s, w.woken, { c with activity := .ordering .shutdown }⟩
  | order (s : Shared) (w : Worker) (c : Foreground) {run : Nat} {source : String}
    (there : w.hasStopped = false) :
    Act ⟨s, w, { c with activity := .ordering (.start run source) }⟩
      ⟨s.command (.run run source), w, { c with activity := .returned (.started run) }⟩
  | orderInVain (s : Shared) (w : Worker) (c : Foreground) {run : Nat} {source : String}
    (gone : w.hasStopped = true) :
    Act ⟨s, w, { c with activity := .ordering (.start run source) }⟩
      ⟨s, w, { c with activity := .returned (.failed .workerGone) }⟩
  | orderRelease (s : Shared) (w : Worker) (c : Foreground) :
    Act ⟨s, w, { c with activity := .ordering .release }⟩
      ⟨s, w, { c with activity := .returned .done }⟩
  | shutDown (s : Shared) (w : Worker) (c : Foreground) (there : w.hasStopped = false) :
    Act ⟨s, w, { c with activity := .ordering .shutdown }⟩
      ⟨s.command .shutdown, w, { c with activity := .joining }⟩
  | shutDownInVain (s : Shared) (w : Worker) (c : Foreground) (gone : w.hasStopped = true) :
    Act ⟨s, w, { c with activity := .ordering .shutdown }⟩ ⟨s, w, { c with activity := .joining }⟩
  | join (s : Shared) (w : Worker) (c : Foreground) (gone : w.hasStopped = true) :
    Act ⟨s, w, { c with activity := .joining }⟩ ⟨s, w, { c with activity := .closed }⟩
  | look (s : Shared) (w : Worker) (c : Foreground) {request : Request} {text : String}
    (waiting : s.channel.state = .waiting) :
    Act ⟨s, w, { c with activity := .answering request text .looking }⟩
      ⟨s, w, { c with activity := .answering request text .writing }⟩
  | lookInVain (s : Shared) (w : Worker) (c : Foreground) {request : Request} {text : String}
    (late : s.channel.state ≠ .waiting) :
    Act ⟨s, w, { c with activity := .answering request text .looking }⟩
      ⟨s, w, { c with activity := .returned (.answered false) }⟩
  | write (s : Shared) (w : Worker) (c : Foreground) {request : Request} {text : String} :
    Act ⟨s, w, { c with activity := .answering request text .writing }⟩
      ⟨{ s with channel := s.channel.writeText text }, w,
        { c with activity := .answering request text .announcing }⟩
  | announce (s : Shared) (w : Worker) (c : Foreground) {request : Request} {text : String}
    (waiting : s.channel.state = .waiting) :
    Act ⟨s, w, { c with activity := .answering request text .announcing }⟩
      ⟨{ s with channel := s.channel.setState .ready }, w,
        { c with activity := .answering request text .waking }⟩
  | announceInVain (s : Shared) (w : Worker) (c : Foreground) {request : Request} {text : String}
    (late : s.channel.state ≠ .waiting) :
    Act ⟨s, w, { c with activity := .answering request text .announcing }⟩
      ⟨s, w, { c with activity := .returned (.answered false) }⟩
  | wakeToRead (s : Shared) (w : Worker) (c : Foreground) {request : Request} {text : String} :
    Act ⟨s, w, { c with activity := .answering request text .waking }⟩
      ⟨s, w.woken, { c with activity := .returned (.answered true) }⟩
  | answered (s : Shared) (w : Worker) (c : Foreground) {request : Request} {text : String}
    {accepted : Bool} :
    Act ⟨s, w, { c with activity := .answering request text (.returned accepted) }⟩
      ⟨s, w, { c with activity := .returned (.answered accepted) }⟩
  | takeNothing (s : Shared) (w : Worker) (c : Foreground) {patient : Bool}
    (empty : s.inbox = []) :
    Act ⟨s, w, { c with activity := .taking patient }⟩
      ⟨s, w, { c with activity := .probing patient }⟩
  | drop (s : Shared) (w : Worker) (c : Foreground) {patient : Bool} {event : Event}
    {inbox : List Message} {run : Nat} (first : s.inbox = .event event :: inbox)
    (named : event.run? = some run) (other : c.active ≠ some run) :
    Act ⟨s, w, { c with activity := .taking patient }⟩
      ⟨{ s with inbox }, w, { c with activity := .taking patient }⟩
  | hear (s : Shared) (w : Worker) (c : Foreground) {patient : Bool} {event : Event}
    {inbox : List Message} (first : s.inbox = .event event :: inbox)
    (admitted : ∀ run, event.run? = some run → c.active = some run) :
    Act ⟨s, w, { c with activity := .taking patient }⟩
      ⟨{ s with inbox }, w,
        { c.observe event with activity := .returned (.received (.event event)) }⟩
  | readLine (s : Shared) (w : Worker) (c : Foreground) {patient : Bool} {message : Message}
    {inbox : List Message} (first : s.inbox = message :: inbox)
    (plain : ∀ event, message ≠ .event event) :
    Act ⟨s, w, { c with activity := .taking patient }⟩
      ⟨{ s with inbox }, w, { c with activity := .returned (.received message) }⟩
  | probeInVain (s : Shared) (w : Worker) (c : Foreground) {patient : Bool}
    (gone : w.hasStopped = true) :
    Act ⟨s, w, { c with activity := .probing patient }⟩
      ⟨s, w, { c with activity := .returned (.failed .workerGone) }⟩
  | retry (s : Shared) (w : Worker) (c : Foreground) (there : w.hasStopped = false) :
    Act ⟨s, w, { c with activity := .probing true }⟩ ⟨s, w, { c with activity := .taking true }⟩
  | giveUp (s : Shared) (w : Worker) (c : Foreground) (there : w.hasStopped = false) :
    Act ⟨s, w, { c with activity := .probing false }⟩
      ⟨s, w, { c with activity := .returned .nothing }⟩

theorem receive_event (c : Foreground) (activity : Activity) (event : Event) :
    ({ c with activity } : Foreground).receive (.event event) =
      { c.observe event with activity := .returned (.received (.event event)) } := by
  cases event <;> rfl

theorem begin_submit_of_none {s : Runner} (pending : s.foreground.pending = none) (text : String) :
    s.begin (.submit text) = s.setActivity (.returned (.answered false)) := by
  simp [begin, Foreground.begin, pending, setActivity]

theorem begin_submit_of_some {s : Runner} {request : Request}
    (pending : s.foreground.pending = some request) (text : String) :
    s.begin (.submit text) = { s with
      foreground := { s.foreground with
        activity := .answering request text .looking, pending := none } } := by
  simp [begin, Foreground.begin, pending]

/-- Taking the oldest message: it is an event that is dropped or passed on, or no event. -/
theorem act_take (s : Shared) (w : Worker) (c : Foreground) {patient : Bool} {message : Message}
    {inbox : List Message} (first : s.inbox = message :: inbox) :
    Act ⟨s, w, { c with activity := .taking patient }⟩
      (take ⟨s, w, { c with activity := .taking patient }⟩ patient) := by
  simp only [take, first]
  cases message with
  | line text => exact .readLine s w c first (by simp)
  | closed => exact .readLine s w c first (by simp)
  | event event =>
      rw [receive_event]
      cases hrun : event.run? with
      | none =>
          have hadmits : ({ c with activity := .taking patient } : Foreground).admits
              (.event event) = true := by
            simp [Foreground.admits, hrun]
          rw [if_pos hadmits]
          exact .hear s w c first (by simp [hrun])
      | some run =>
          have hadmits : ({ c with activity := .taking patient } : Foreground).admits
              (.event event) = (c.active == some run) := by
            simp [Foreground.admits, hrun]
          by_cases active : c.active = some run
          · rw [if_pos (by rw [hadmits, active, beq_self_eq_true])]
            exact .hear s w c first (by simp [hrun, active])
          · rw [if_neg (by rw [hadmits]; simpa using active)]
            exact .drop s w c first hrun active

theorem act_of_foregroundStep? {s t : Runner} (sound : s.shared.channel.IsSound)
    (h : s.foregroundStep? = some t) : Act s t := by
  obtain ⟨shared, w, c⟩ := s
  obtain ⟨activity, active, ready, pending⟩ := c
  let c : Foreground := ⟨activity, active, ready, pending⟩
  cases activity with
  | idle => simp [foregroundStep?] at h
  | superseding source? =>
      cases source? with
      | none => cases h; exact .depart shared w c
      | some source => cases h; exact .supersede shared w c
  | resetting errand => cases h; exact .reset shared w c
  | waking errand =>
      cases errand with
      | start run source => cases h; exact .wakeToStart shared w c
      | release => cases h; exact .wakeToRelease shared w c
      | shutdown => cases h; exact .wakeToShutDown shared w c
  | ordering errand =>
      cases hstopped : w.hasStopped with
      | true =>
          cases errand <;> simp [foregroundStep?, order, setActivity, hstopped] at h <;> subst t
          · exact .orderInVain shared w c hstopped
          · exact .orderRelease shared w c
          · exact .shutDownInVain shared w c hstopped
      | false =>
          cases errand <;> simp [foregroundStep?, order, setActivity, hstopped] at h <;> subst t
          · exact .order shared w c hstopped
          · exact .orderRelease shared w c
          · exact .shutDown shared w c hstopped
  | joining =>
      simp [foregroundStep?, setActivity] at h
      obtain ⟨gone, rfl⟩ := h
      exact .join shared w c gone
  | answering request text stage =>
      cases stage with
      | looking =>
          by_cases waiting : shared.channel.state = .waiting
          · simp [foregroundStep?, answer, Answering.step, setActivity, waiting] at h
            subst t
            exact .look shared w c waiting
          · simp [foregroundStep?, answer, Answering.step, setActivity, waiting] at h
            subst t
            exact .lookInVain shared w c waiting
      | writing => cases h; exact .write shared w c
      | announcing =>
          by_cases waiting : shared.channel.state = .waiting
          · have hmove := sound.transition_of_state (b := .ready) rfl waiting
            simp [foregroundStep?, answer, Answering.step, setActivity, hmove] at h
            subst t
            exact .announce shared w c waiting
          · have hmove := sound.transition_of_state_ne (b := .ready) waiting
            simp [foregroundStep?, answer, Answering.step, setActivity, hmove] at h
            subst t
            exact .announceInVain shared w c waiting
      | waking => cases h; exact .wakeToRead shared w c
      | returned accepted => cases h; exact .answered shared w c
  | taking patient =>
      cases hinbox : shared.inbox with
      | nil =>
          simp [foregroundStep?, take, setActivity, hinbox] at h
          subst t
          exact .takeNothing shared w c hinbox
      | cons message inbox =>
          cases h
          exact act_take shared w c hinbox
  | probing patient =>
      cases hstopped : w.hasStopped with
      | true =>
          simp [foregroundStep?, setActivity, hstopped] at h
          subst t
          exact .probeInVain shared w c hstopped
      | false =>
          cases patient <;> simp [foregroundStep?, setActivity, hstopped] at h <;> subst t
          · exact .giveUp shared w c hstopped
          · exact .retry shared w c hstopped
  | returned reply => simp [foregroundStep?] at h
  | closed => simp [foregroundStep?] at h

end Runner

end Pseudocode
