import Pseudocode.Proofs.Outline.Earliest
import Pseudocode.Proofs.Renumbering.Running

/-!
Lines with nothing to read. Blank lines and lines with only a comment can stand anywhere between the
lines of a source: they change nothing but the numbers of the lines after them.
-/

namespace Pseudocode

namespace Text

/-- Whether a text is made of some lines. A line is ended by a line feed, or by a carriage return
and a line feed; the last one may lack its end. -/
inductive MadeOf : List (List Char) → List Char → Prop
  | nil : MadeOf [] []
  | last {line : List Char} (feed : '\n' ∉ line) : MadeOf [line] line
  | unix {line : List Char} {lines : List (List Char)} {rest : List Char} (feed : '\n' ∉ line)
    (others : MadeOf lines rest) : MadeOf (line :: lines) (line ++ '\n' :: rest)
  | dos {line : List Char} {lines : List (List Char)} {rest : List Char} (feed : '\n' ∉ line)
    (others : MadeOf lines rest) : MadeOf (line :: lines) (line ++ '\r' :: '\n' :: rest)

/-- Whether there is nothing to read in a line: it is blank, or a comment begins after its blanks.
-/
def isIdle (line : List Char) : Bool :=
  match line.dropWhile isBlank with
  | [] => true
  | '/' :: '/' :: _ => true
  | _ => false

variable {line : List Char}

theorem cutAfter_last {α : Type} [BEq α] [LawfulBEq α] {separator a : α} {line : List α}
    (h : separator ∉ a :: line) : cutAfter separator (a :: line) = [a :: line] := by
  induction line generalizing a with
  | nil => rw [cutAfter, if_neg (by simpa using Ne.symm (List.ne_of_not_mem_cons h)), cutAfter]
  | cons b line ih =>
      have hline := ih (List.not_mem_of_not_mem_cons h)
      rw [cutAfter, if_neg (by simpa using Ne.symm (List.ne_of_not_mem_cons h)), hline]

theorem lines_last {c : Char} (feed : '\n' ∉ c :: line) : lines (c :: line) = [c :: line] := by
  have hlast : ((c :: line).getLast? == some '\n') = false :=
    beq_eq_false_iff_ne.mpr fun hlast => feed (List.mem_of_getLast? hlast)
  rw [lines, cutAfter_last feed, List.map_singleton, lineOfPiece, hlast, if_neg Bool.false_ne_true]

/-- Every source is made of the lines that are scanned. -/
theorem madeOf_lines (cs : List Char) : MadeOf (lines cs) cs := by
  by_cases feed : '\n' ∈ cs
  · obtain ⟨line, rest, hcs, hline⟩ := List.eq_append_cons_of_mem feed
    have hshorter : rest.length < cs.length := by
      rw [hcs, List.length_append, List.length_cons]
      omega
    have hrest := madeOf_lines rest
    rw [hcs, lines_unix hline, dropLastIf]
    split
    · rename_i hlast
      obtain ⟨front, rfl⟩ := List.getLast?_eq_some_iff.mp (beq_iff_eq.mp hlast)
      rw [List.dropLast_concat, List.append_assoc]
      exact .dos (fun hmem => hline (List.mem_append_left _ hmem)) hrest
    · exact .unix hline hrest
  · cases cs with
    | nil => exact .nil
    | cons c cs =>
        rw [lines_last feed]
        exact .last feed
termination_by cs.length

end Text

namespace Token

variable {line : List Char}

theorem scan_dropLastIf (line : List Char) : scan (Text.dropLastIf '\r' line) = scan line := by
  unfold Text.dropLastIf
  split
  · rename_i hlast
    obtain ⟨front, rfl⟩ := List.getLast?_eq_some_iff.mp (beq_iff_eq.mp hlast)
    rw [List.dropLast_concat, scan_append (by decide)]
  · rfl

theorem scan_idle (h : Text.isIdle line = true) : scan line = .ok [] := by
  obtain ⟨gap, rest, rfl, blank, stops⟩ := Text.exists_span Text.isBlank line
  rw [Text.isIdle, stops.dropWhile blank] at h
  rw [scan_blanks blank]
  split at h
  · exact scan_nil
  · exact scan_comment _
  · cases h

end Token

namespace Line

/-- However a source is made of its lines, they are what is scanned. -/
theorem ofTexts_lines {texts : List (List Char)} {source : List Char}
    (h : Text.MadeOf texts source) (n : Nat) : ofTexts n (Text.lines source) = ofTexts n texts := by
  induction h generalizing n with
  | nil => rfl
  | @last line feed =>
      cases line with
      | nil =>
          show Except.ok [] = ofTexts n [[]]
          rw [ofTexts, Token.scan_nil]
          rfl
      | cons c line => rw [Text.lines_last feed]
  | unix feed others ih => rw [Text.lines_unix feed, ofTexts, ofTexts, Token.scan_dropLastIf, ih]
  | dos feed others ih => rw [Text.lines_dos feed, ofTexts, ofTexts, ih]

end Line

/-- A line of a new source: one of the old source, or one with nothing to read. -/
inductive Row where
  | kept (line : List Char)
  | idle (line : List Char) (isIdle : Text.isIdle line = true)

namespace Row

def line : Row → List Char
  | kept line => line
  | idle line _ => line

def kept? : Row → Option (List Char)
  | kept line => some line
  | idle _ _ => none

/-- The lines of the new source. -/
def newLines (rows : List Row) : List (List Char) := rows.map line

/-- The lines of the old source. -/
def oldLines (rows : List Row) : List (List Char) := rows.filterMap kept?

/-- Where among the rows the old line is that came after `k` others. -/
def place : List Row → Nat → Nat
  | [], k => k
  | idle _ _ :: rows, k => place rows k + 1
  | kept _ :: _, 0 => 0
  | kept _ :: rows, k + 1 => place rows k + 1

/-- The number in the new source of a line of the old one. -/
def newNumber (rows : List Row) : Nat → Nat
  | 0 => 0
  | k + 1 => place rows k + 1

theorem place_lt (rows : List Row) (k : Nat) : place rows k < place rows (k + 1) := by
  induction rows generalizing k with
  | nil => exact Nat.lt_succ_self k
  | cons row rows ih =>
      cases row with
      | idle => exact Nat.succ_lt_succ (ih k)
      | kept =>
          cases k with
          | zero => exact Nat.succ_pos _
          | succ k => exact Nat.succ_lt_succ (ih k)

theorem newNumber_strictMono (rows : List Row) : StrictMono (newNumber rows) := by
  refine strictMono_nat_of_lt_succ fun k => ?_
  cases k with
  | zero => exact Nat.succ_pos _
  | succ k => exact Nat.succ_lt_succ (place_lt rows k)

/-- The row at the new place of a line is that line. -/
theorem getElem?_place {rows : List Row} {k : Nat} {line : List Char}
    (h : (oldLines rows)[k]? = some line) : rows[place rows k]? = some (.kept line) := by
  induction rows generalizing k with
  | nil => cases h
  | cons row rows ih =>
      cases row with
      | idle => exact ih h
      | kept =>
          cases k with
          | zero =>
              cases h
              rfl
          | succ k => exact ih h

end Row

namespace Line

/-- Rows with nothing to read only shift the numbers of the lines after them. -/
theorem ofTexts_newLines {f : Nat → Nat} (rows : List Row) (m n : Nat)
    (h : ∀ k < (Row.oldLines rows).length, f (m + k) = n + Row.place rows k) :
    ofTexts n (Row.newLines rows) =
      renumbered f (List.map (Line.renumber f)) (ofTexts m (Row.oldLines rows)) := by
  induction rows generalizing m n with
  | nil => rfl
  | cons row rows ih =>
      cases row with
      | idle line isIdle =>
          -- The line is gone from the result, and all lines after it stand one further on.
          have hrows := ih m (n + 1) fun k hk => by
            rw [h k hk, Row.place]
            omega
          show ofTexts n (line :: Row.newLines rows) = _
          rw [ofTexts, Token.scan_idle isIdle, hrows]
          show _ = renumbered f _ (ofTexts m (Row.oldLines rows))
          cases ofTexts m (Row.oldLines rows) <;> rfl
      | kept line =>
          have hfirst : f m = n := h 0 (Nat.succ_pos _)
          have hrows := ih (m + 1) (n + 1) fun k hk => by
            have hk' := h (k + 1) (Nat.succ_lt_succ hk)
            rw [Row.place] at hk'
            rw [Nat.add_right_comm, Nat.add_assoc, hk']
            omega
          show ofTexts n (line :: Row.newLines rows) =
            renumbered f _ (ofTexts m (line :: Row.oldLines rows))
          rw [ofTexts, ofTexts, hrows]
          cases Token.scan line with
          | error complaint =>
              show Except.error _ = Except.error _
              rw [Fault.renumber, hfirst]
          | ok tokens =>
              cases ofTexts (m + 1) (Row.oldLines rows) with
              | error fault => rfl
              | ok lines =>
                  subst hfirst
                  cases tokens <;> rfl

variable {rows : List Row} {old new : String}

theorem ofSource_newLines (hold : Text.MadeOf (Row.oldLines rows) old.toList)
    (hnew : Text.MadeOf (Row.newLines rows) new.toList) :
    ofSource new =
      renumbered (Row.newNumber rows) (List.map (Line.renumber (Row.newNumber rows)))
        (ofSource old) := by
  rw [ofSource, ofSource, ofTexts_lines hnew, ofTexts_lines hold]
  refine ofTexts_newLines rows 1 1 fun k _ => ?_
  rw [Nat.add_comm 1 k, Nat.add_comm 1]
  rfl

end Line

namespace Program

variable {rows : List Row} {old new : String}

theorem ofSource_newLines (hold : Text.MadeOf (Row.oldLines rows) old.toList)
    (hnew : Text.MadeOf (Row.newLines rows) new.toList) :
    ofSource new =
      renumbered (Row.newNumber rows) (Statement.renumberAll (Row.newNumber rows))
        (ofSource old) :=
  bind_renumbered (Line.ofSource_newLines hold hnew) ofLines_renumber

/-- Blank lines and lines with only a comment shift the numbers of the lines after them, and do
nothing else. The lexer and the reader give what they gave, with the new numbers, and so they do if
it is a fault. The program makes the calls that it made, if its host answers the same, and it ends
in the same way, but for the line of a fault. -/
theorem idle_lines_only_renumber (hold : Text.MadeOf (Row.oldLines rows) old.toList)
    (hnew : Text.MadeOf (Row.newLines rows) new.toList) :
    (StrictMono (Row.newNumber rows) ∧ ∀ k line, (Row.oldLines rows)[k]? = some line →
      rows[Row.newNumber rows (k + 1) - 1]? = some (.kept line)) ∧
    Line.ofSource new =
      renumbered (Row.newNumber rows) (List.map (Line.renumber (Row.newNumber rows)))
        (Line.ofSource old) ∧
    ofSource new =
      renumbered (Row.newNumber rows) (Statement.renumberAll (Row.newNumber rows))
        (ofSource old) ∧
    ∀ {σ τ : Type} (R : σ → τ → Prop) (host : Host σ) (host' : Host τ), host.Alike R host' →
      ∀ patience s t, R s t →
        (Interpreter.script patience new).calls host' t =
            (Interpreter.script patience old).calls host s ∧
          ((Interpreter.script patience new).runOn host' t).1 =
            ((Interpreter.script patience old).runOn host s).1.renumber (Row.newNumber rows) := by
  have hprogram := ofSource_newLines hold hnew
  refine ⟨⟨Row.newNumber_strictMono rows, fun k line => Row.getElem?_place⟩,
    Line.ofSource_newLines hold hnew, hprogram, ?_⟩
  intro σ τ R host host' alike patience s t h
  obtain ⟨hcalls, hresult, -⟩ := (Interpreter.script patience old).runOn_alike alike h
  rw [Interpreter.script_renumber hprogram, Dialogue.calls_bind, Dialogue.runOn_bind, hcalls,
    hresult]
  exact ⟨List.append_nil _, rfl⟩

/-- A program with a fault on its second line, and lines with nothing to read around both. -/
def padded : List Row :=
  [.idle [] (by decide), .kept "output 1".toList, .idle "\t// output 2".toList (by decide),
    .kept "output 1 / 0".toList, .idle [' '] (by decide)]

theorem madeOf_padded :
    Text.MadeOf (Row.oldLines padded) "output 1\noutput 1 / 0".toList ∧
      Text.MadeOf (Row.newLines padded)
        "\r\noutput 1\n\t// output 2\noutput 1 / 0\r\n ".toList := by
  refine ⟨.unix (by decide) (.last (by decide)), ?_⟩
  exact .dos (by decide) (.unix (by decide) (.unix (by decide) (.dos (by decide)
    (.last (by decide)))))

theorem idle_lines_only_renumber_padded :
    (Interpreter.script 0 "\r\noutput 1\n\t// output 2\noutput 1 / 0\r\n ").calls
        (.recording (fun _ => "") fun _ => false) [] = [.check, .tell "1", .check] ∧
    ((Interpreter.script 0 "\r\noutput 1\n\t// output 2\noutput 1 / 0\r\n ").runOn
        (.recording (fun _ => "") fun _ => false) []).1 = .failed ⟨4, .divisionByZero⟩ := by
  obtain ⟨hold, hnew⟩ := madeOf_padded
  obtain ⟨-, -, -, hrun⟩ := idle_lines_only_renumber hold hnew
  obtain ⟨hcalls, hresult⟩ :=
    hrun Eq _ _ (.refl (.recording (fun _ => "") fun _ => false)) 0 [] [] rfl
  have holdCalls : (Interpreter.script 0 "output 1\noutput 1 / 0").calls
      (.recording (fun _ => "") fun _ => false) [] = [.check, .tell "1", .check] := by
    decide +kernel
  have holdResult : ((Interpreter.script 0 "output 1\noutput 1 / 0").runOn
      (.recording (fun _ => "") fun _ => false) []).1 = .failed ⟨2, .divisionByZero⟩ := by
    decide +kernel
  exact ⟨hcalls.trans holdCalls, hresult.trans (by rw [holdResult]; rfl)⟩

end Program

end Pseudocode
