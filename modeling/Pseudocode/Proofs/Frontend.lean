import Pseudocode.Frontend
import Pseudocode.InputLines
import Pseudocode.Proofs.Remarks

/-!
Which answers the front end gives. The lines that a user types are the answers to the requests of a
program, in order: a line waits for its request or a request for its line, and neither is lost. So
what the user is shown is the transcript of what the program says, with the lines for answers.
-/

namespace Pseudocode

/-- What the user is shown of what a program says, when its requests get the given answers. -/
def transcript : List String → List Remark → List Shown
  | _, [] => []
  | answers, .prompt text :: rest =>
    .prompt text :: .echo (answers.headD "") :: transcript answers.tail rest
  | answers, .output text :: rest => .output text :: transcript answers rest
  | answers, .finished summary :: rest => .finished summary :: transcript answers rest
  | answers, .failed message :: rest => .failed message :: transcript answers rest

/-- What is shown of the beginning of what a program says is the beginning of what is shown. -/
theorem transcript_prefix {said said' : List Remark} (h : said.IsPrefix said')
    (answers : List String) : (transcript answers said).IsPrefix (transcript answers said') := by
  obtain ⟨rest, rfl⟩ := h
  induction said generalizing answers with
  | nil => exact List.nil_prefix
  | cons remark said ih =>
      cases remark <;> simpa [transcript, List.cons_prefix_cons] using ih _

/-- Whether a run that lets this be heard has succeeded, if it is the end of one. -/
def Remark.success? : Remark → Option Bool
  | .finished _ => some true
  | .failed _ => some false
  | .prompt _ | .output _ => none

theorem Remark.isTerminal_of_success? {remark : Remark} {success : Bool}
    (h : remark.success? = some success) : remark.isTerminal = true := by
  cases remark <;> cases h <;> rfl

/-- Whether a run that ends so has succeeded. -/
def Ending.isSuccess : Ending → Bool
  | .finished _ => true
  | .failed _ | .canceled | .crashed | .exhausted => false

theorem Ending.success?_of_remark? {ending : Ending} {remark : Remark}
    (h : ending.remark? = some remark) : remark.success? = some ending.isSuccess := by
  cases ending <;> cases h <;> rfl

def Shown.prompt? : Shown → Option String
  | .prompt text => some text
  | _ => none

def Shown.echo? : Shown → Option String
  | .echo answer => some answer
  | _ => none

/-- Whether the answers that were submitted are the lines in order, and empty ones after them, and
each was shown after the prompt of its request. A request can wait when its prompt was shown. -/
structure Tally (lines : List String) (waiting : Option Request)
    (submitted : List (Request × String)) (shown : List Shown) : Prop where
  given : ∀ i request text, submitted[i]? = some (request, text) → text = lines.getD i ""
  echoes : shown.filterMap Shown.echo? = submitted.map Prod.snd
  prompts : shown.filterMap Shown.prompt? =
    (submitted.map Prod.fst ++ waiting.toList).map Request.prompt

namespace Tally

variable {lines : List String} {waiting : Option Request} {submitted : List (Request × String)}
  {shown : List Shown} {request : Request} {text : String}

theorem start (lines : List String) : Tally lines none [] [] :=
  ⟨by simp, rfl, rfl⟩

/-- An output or an end makes no difference. -/
theorem display (tally : Tally lines waiting submitted shown) {last : Shown}
    (prompt : last.prompt? = none) (echo : last.echo? = none) :
    Tally lines waiting submitted (shown ++ [last]) := by
  obtain ⟨given, echoes, prompts⟩ := tally
  exact ⟨given, by simp [echo, echoes], by simp [prompt, prompts]⟩

theorem ask (tally : Tally lines none submitted shown) (request : Request) :
    Tally lines (some request) submitted (shown ++ [.prompt request.prompt]) := by
  obtain ⟨given, echoes, prompts⟩ := tally
  exact ⟨given, by simp [Shown.echo?, echoes], by simp [Shown.prompt?, prompts]⟩

theorem answer (tally : Tally lines (some request) submitted shown)
    (next : (lines.drop submitted.length).headD "" = text) :
    Tally lines none (submitted ++ [(request, text)]) (shown ++ [.echo text]) := by
  obtain ⟨given, echoes, prompts⟩ := tally
  refine ⟨fun i request' text' hi => ?_, by simp [Shown.echo?, echoes],
    by simp [Shown.prompt?, prompts]⟩
  rw [List.getElem?_append] at hi
  split at hi
  · exact given i request' text' hi
  · rename_i hlast
    obtain ⟨hzero, rfl, rfl⟩ : i - submitted.length = 0 ∧ request = request' ∧ text = text' := by
      cases hindex : i - submitted.length with
      | zero => simpa [hindex] using hi
      | succ j => simp [hindex] at hi
    obtain rfl : i = submitted.length := by omega
    rw [← next]
    simp [List.head?_drop]

end Tally

/-- Whether the message is one of the reader. -/
def Message.isTyped : Message → Bool
  | .line _ | .closed => true
  | .event _ => false

theorem Message.isTyped_iff {message : Message} :
    message.isTyped = true ↔ ∀ event, message ≠ .event event := by
  cases message <;> simp [isTyped]

namespace InputLines

/-- What the reader has to say: some lines, and that they are over. -/
theorem messages_eq (bytes : Text.Bytes) :
    ∃ lines : List String, messages bytes = lines.map .line ++ [.closed] := by
  unfold messages
  induction Text.cutAfter lineFeed bytes with
  | nil => exact ⟨[], rfl⟩
  | cons piece pieces ih =>
      obtain ⟨lines, hlines⟩ := ih
      simp only [ofPieces, ofPiece?, hlines]
      cases Text.decodeStrict? piece with
      | none => exact ⟨[], rfl⟩
      | some line => exact ⟨String.ofList (withoutEnding line) :: lines, rfl⟩

end InputLines

namespace Frontend

/-- Whether the next requests are going to get the given answers, if the messages of the reader that
are still to be reacted to are the given ones: the lines that wait for a request come first, and
then those that are still to come. -/
def Fed (f : Frontend) (typed : List Message) (answers : List String) : Prop :=
  (f.inputClosed = false ∧ ∃ lines : List String, typed = lines.map .line ++ [.closed] ∧
    answers = f.queued ++ lines) ∨
  (f.inputClosed = true ∧ typed = [] ∧ answers = f.queued)

variable {f : Frontend} {typed : List Message} {answers : List String} {text : String}

theorem fed_start (lines : List String) : start.Fed (lines.map .line ++ [.closed]) lines :=
  .inl ⟨rfl, lines, rfl, rfl⟩

/-- What the reader has to say is no event. -/
theorem Fed.plain (fed : f.Fed typed answers) {message : Message} (h : message ∈ typed)
    (event : Event) : message ≠ .event event := by
  rintro rfl
  rcases fed with ⟨_, lines, htyped, _⟩ | ⟨_, htyped, _⟩ <;> simp [htyped] at h

/-- A line or the end of the lines comes as long as the lines are not over. -/
theorem Fed.ne_nil (fed : f.Fed typed answers) (going : f.inputClosed = false) : typed ≠ [] := by
  rcases fed with ⟨_, lines, htyped, _⟩ | ⟨hclosed, _⟩
  · simp [htyped]
  · cases going.symm.trans hclosed

theorem Fed.line (fed : f.Fed (.line text :: typed) answers) :
    f.inputClosed = false ∧ ∃ lines : List String, typed = lines.map .line ++ [.closed] ∧
      answers = f.queued ++ text :: lines := by
  rcases fed with ⟨going, lines, htyped, hanswers⟩ | ⟨_, htyped, _⟩
  · cases lines with
    | nil => cases htyped
    | cons first lines =>
        cases htyped
        exact ⟨going, lines, rfl, hanswers⟩
  · cases htyped

theorem Fed.closed (fed : f.Fed (.closed :: typed) answers) : typed = [] ∧ answers = f.queued := by
  rcases fed with ⟨_, lines, htyped, hanswers⟩ | ⟨_, htyped, _⟩
  · cases lines with
    | nil =>
        cases htyped
        exact ⟨rfl, by rw [hanswers, List.append_nil]⟩
    | cons first lines => cases htyped
  · cases htyped

/-- A line that nobody waits for waits for a request. -/
theorem Fed.enqueue (fed : f.Fed (.line text :: typed) answers) :
    ({ f with queued := f.queued ++ [text] } : Frontend).Fed typed answers := by
  obtain ⟨going, lines, htyped, hanswers⟩ := fed.line
  exact .inl ⟨going, lines, htyped, by rw [hanswers, List.append_assoc, List.singleton_append]⟩

/-- A line that a request waits for is its answer. -/
theorem Fed.answer (fed : f.Fed (.line text :: typed) answers) (empty : f.queued = []) :
    answers.headD "" = text ∧ f.Fed typed answers.tail := by
  obtain ⟨going, lines, htyped, rfl⟩ := fed.line
  rw [empty]
  exact ⟨rfl, .inl ⟨going, lines, htyped, by rw [empty]; rfl⟩⟩

theorem Fed.close (fed : f.Fed (.closed :: typed) answers) :
    ({ f with inputClosed := true } : Frontend).Fed typed answers :=
  .inr ⟨rfl, fed.closed⟩

/-- A request that waits when the lines are over gets an empty answer. -/
theorem Fed.closeAnswer (fed : f.Fed (.closed :: typed) answers) (empty : f.queued = []) :
    answers.headD "" = "" ∧ ({ f with inputClosed := true } : Frontend).Fed typed answers.tail := by
  obtain ⟨htyped, rfl⟩ := fed.closed
  rw [empty]
  exact ⟨rfl, .inr ⟨rfl, htyped, rfl⟩⟩

/-- Of what the reader says nothing is shown if no request waits for it. -/
theorem Fed.react_unasked {message : Message} (fed : f.Fed (message :: typed) answers) :
    ∃ f' : Frontend, f.react false message = f'.display [] ∧ f'.Fed typed answers := by
  cases message with
  | event event => exact (fed.plain List.mem_cons_self event rfl).elim
  | line text => exact ⟨_, rfl, fed.enqueue⟩
  | closed => exact ⟨_, rfl, fed.close⟩

/-- What the reader says is the next answer if a request waits for it. -/
theorem Fed.react_asked {message : Message} (fed : f.Fed (message :: typed) answers)
    (empty : f.queued = []) : ∃ f' : Frontend,
      f.react true message = ⟨f', [.echo (answers.headD "")], some (answers.headD ""), none⟩ ∧
        f'.Fed typed answers.tail := by
  cases message with
  | event event => exact (fed.plain List.mem_cons_self event rfl).elim
  | line text =>
      obtain ⟨hanswer, hfed⟩ := fed.answer empty
      rw [hanswer]
      exact ⟨_, rfl, hfed⟩
  | closed =>
      obtain ⟨hanswer, hfed⟩ := fed.closeAnswer empty
      rw [hanswer]
      exact ⟨_, rfl, hfed⟩

/-- A request gets the line that has waited the longest. -/
theorem Fed.dequeue {queued : List String} (fed : f.Fed typed answers)
    (first : f.queued = text :: queued) :
    answers.headD "" = text ∧ ({ f with queued } : Frontend).Fed typed answers.tail := by
  rcases fed with ⟨going, lines, htyped, rfl⟩ | ⟨closed, htyped, rfl⟩
  · rw [first]
    exact ⟨rfl, .inl ⟨going, lines, htyped, rfl⟩⟩
  · rw [first]
    exact ⟨rfl, .inr ⟨closed, htyped, rfl⟩⟩

/-- A request that comes after all lines gets an empty answer. -/
theorem Fed.usedUp (fed : f.Fed typed answers) (empty : f.queued = [])
    (closed : f.inputClosed = true) : answers.headD "" = "" ∧ f.Fed typed answers.tail := by
  rcases fed with ⟨going, _⟩ | ⟨_, htyped, rfl⟩
  · cases going.symm.trans closed
  · rw [empty]
    exact ⟨rfl, .inr ⟨closed, htyped, empty.symm⟩⟩

/-- The front end never answers and ends at once. -/
theorem success?_of_answer? {isPending : Bool} {message : Message}
    (h : (f.react isPending message).answer? = some text) :
    (f.react isPending message).success? = none := by
  unfold react at h ⊢
  split at h <;> simp_all [display]
  · split <;> (try split) <;> rfl
  · split <;> rfl
  · split <;> rfl

section

variable {isPending : Bool} {request : Request}

theorem react_requested_cons {queued : List String} (first : f.queued = text :: queued) :
    f.react isPending (.event (.requested request)) =
      ⟨{ f with queued }, [.prompt request.prompt, .echo text], some text, none⟩ := by
  simp [react, first]

theorem react_requested_closed (empty : f.queued = []) (closed : f.inputClosed = true) :
    f.react isPending (.event (.requested request)) =
      ⟨f, [.prompt request.prompt, .echo ""], some "", none⟩ := by
  simp [react, empty, closed]

theorem react_requested_open (empty : f.queued = []) (going : f.inputClosed = false) :
    f.react isPending (.event (.requested request)) = f.display [.prompt request.prompt] := by
  simp [react, empty, going]

end

end Frontend

end Pseudocode
