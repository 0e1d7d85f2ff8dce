import Pseudocode.InputLines

/-!
The reader of lines at work. In each round it reads up to the next line feed and sends the line. It
stops at the end of the input and at bytes that are not UTF-8, and says so, and it stops without a
word when a line is not taken.
-/

namespace Pseudocode

namespace Text

/-- The list up to the first `separator` and with it, and what comes after. -/
def cutFirst {α : Type} [BEq α] (separator : α) : List α → List α × List α
  | [] => ([], [])
  | a :: rest =>
    if a == separator then ([a], rest)
    else (a :: (cutFirst separator rest).1, (cutFirst separator rest).2)

theorem append_cutFirst {α : Type} [BEq α] (separator : α) (as : List α) :
    (cutFirst separator as).1 ++ (cutFirst separator as).2 = as := by
  induction as with
  | nil => rfl
  | cons a rest ih =>
    rw [cutFirst]
    split
    · rfl
    · rw [List.cons_append, ih]

end Text

open Text (Bytes)

structure LineReader where
  /-- The bytes that were not read yet. -/
  unread : Bytes
  /-- Whether somebody takes what is sent. -/
  listening : Bool
  running : Bool
  /-- What was sent, the oldest first. -/
  sent : List Message
  deriving DecidableEq, Repr

namespace LineReader

/-- A reader that was just started. -/
def ofBytes (bytes : Bytes) : LineReader := ⟨bytes, true, true, []⟩

/-- Sends a message, if somebody takes it. -/
def send? (r : LineReader) (message : Message) : Option LineReader :=
  if r.listening then some { r with sent := r.sent ++ [message] } else none

def stop (r : LineReader) : LineReader := { r with running := false }

/-- Says that there are no more lines, and stops. -/
def close (r : LineReader) : LineReader := ((r.send? .closed).getD r).stop

/-- Sends the line that was read; there is none at the end of the input. -/
def deliver (r : LineReader) (piece : Bytes) : LineReader :=
  if piece.isEmpty then r.close
  else
    match InputLines.ofPiece? piece with
    | some line => (r.send? line).getD r.stop
    | none => r.close

/-- Reads one line and sends it. -/
def round (r : LineReader) : LineReader :=
  { r with unread := (Text.cutFirst InputLines.lineFeed r.unread).2 }.deliver
    (Text.cutFirst InputLines.lineFeed r.unread).1

/-- How many rounds there can still be. -/
def roundsLeft (r : LineReader) : Nat := r.unread.length + if r.running then 1 else 0

theorem unread_send? (r : LineReader) (message : Message) :
    ∀ r' ∈ r.send? message, r'.unread = r.unread := by
  intro r' h
  unfold send? at h
  split at h
  · exact Option.some.inj h ▸ rfl
  · cases h

theorem unread_close (r : LineReader) : r.close.unread = r.unread := by
  have hsend := r.unread_send? .closed
  unfold close
  cases hsent : r.send? .closed with
  | none => rfl
  | some r' => exact hsend r' hsent

theorem unread_deliver (r : LineReader) (piece : Bytes) : (r.deliver piece).unread = r.unread := by
  unfold deliver
  split
  · exact r.unread_close
  split
  · rename_i line _
    have hsend := r.unread_send? line
    cases hsent : r.send? line with
    | none => rfl
    | some r' => exact hsend r' hsent
  · exact r.unread_close

theorem running_deliver_nil (r : LineReader) : (r.deliver []).running = false := rfl

theorem roundsLeft_round {r : LineReader} (h : r.running = true) :
    r.round.roundsLeft < r.roundsLeft := by
  have hall := congrArg List.length (Text.append_cutFirst InputLines.lineFeed r.unread)
  rw [List.length_append] at hall
  simp only [roundsLeft, round, unread_deliver, h, if_true]
  cases hpiece : (Text.cutFirst InputLines.lineFeed r.unread).1 with
  | nil =>
    rw [running_deliver_nil, if_neg Bool.false_ne_true]
    omega
  | cons a piece =>
    rw [hpiece, List.length_cons] at hall
    split <;> omega

/-- Goes on until the reader has stopped. -/
def run (r : LineReader) : LineReader :=
  if r.running then r.round.run else r
termination_by r.roundsLeft
decreasing_by exact roundsLeft_round ‹_›

end LineReader

end Pseudocode
