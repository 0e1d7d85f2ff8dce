import Pseudocode.Proofs.Grammar.Program
import Pseudocode.Proofs.Limits
import Pseudocode.Proofs.Outline.Earliest

/-!
What the limits of the reader mean for a program that it accepts. Its blocks are not nested deeper
than the limit, and its expressions are those of the lines of the source, each with the limits of a
line. A statement starts on each line that does not end a block, in the order of the lines; so their
numbers increase when the statements are taken one after the other, each before those in it.
-/

namespace Pseudocode

namespace Statement

mutual

/-- How deep blocks are nested in a statement. -/
def blockDepth : Statement → Nat
  | output .. | input .. | assign .. => 0
  | choose _ branches otherwise => max (branchesDepth branches) (blockDepthAll otherwise) + 1
  | count _ _ _ _ body | iterate _ _ _ body => blockDepthAll body + 1

def blockDepthAll : List Statement → Nat
  | [] => 0
  | statement :: statements => max (blockDepth statement) (blockDepthAll statements)

def branchesDepth : List (Expr × List Statement) → Nat
  | [] => 0
  | (_, body) :: branches => max (blockDepthAll body) (branchesDepth branches)

end

mutual

/-- The expressions of a statement and of those in it, line by line. -/
def expressionLines : Statement → List (List Expr)
  | output _ arguments => [arguments]
  | input _ target => [target.expressions]
  | assign _ _ value => [[value]]
  | choose _ branches otherwise => branchExpressionLines branches ++ expressionLinesAll otherwise
  | count _ _ first last body => [first, last] :: expressionLinesAll body
  | iterate _ condition _ body => [condition] :: expressionLinesAll body

def expressionLinesAll : List Statement → List (List Expr)
  | [] => []
  | statement :: statements => expressionLines statement ++ expressionLinesAll statements

def branchExpressionLines : List (Expr × List Statement) → List (List Expr)
  | [] => []
  | (condition, body) :: branches =>
    [condition] :: (expressionLinesAll body ++ branchExpressionLines branches)

end

/-- Whether a statement has all its parts, and no reserved word for a name. -/
def IsProper : Statement → Prop
  | output _ arguments => arguments ≠ []
  | input _ (.prompt _) | iterate .. => True
  | input _ (.var name) | assign _ name _ | count _ name .. => isReserved name = false
  | choose _ branches _ => branches ≠ []

end Statement

/-- The expressions that are read from a line, if it has a place for some. -/
def Line.expressions? (line : Line) : Option (List Expr) :=
  match line.tokens with
  | .word "output" :: tokens => (Statement.readArguments tokens).toOption
  | .word "input" :: tokens => (Statement.readTarget tokens).toOption.map InputTarget.expressions
  | .word "if" :: tokens | .word "else" :: .word "if" :: tokens =>
    (Statement.readCondition tokens).toOption.map fun condition => [condition]
  | .word "loop" :: .word "while" :: tokens | .word "loop" :: .word "until" :: tokens =>
    (Expr.readAll (.ofTokens tokens)).toOption.map fun condition => [condition]
  | .word "loop" :: .word _ :: .word "from" :: tokens =>
    (Statement.readBounds tokens).toOption.map fun (first, last) => [first, last]
  | .word _ :: .symbol .eq :: tokens =>
    (Expr.readAll (.ofTokens tokens)).toOption.map fun value => [value]
  | _ => none

theorem toOption_eq_some_iff {ε α : Type} {x : Except ε α} {a : α} :
    x.toOption = some a ↔ x = .ok a := by
  cases x <;> simp [Except.toOption]

/-- The expressions of each line keep the limits. -/
theorem Line.isLine_of_expressions? {line : Line} {es : List Expr}
    (h : line.expressions? = some es) : Expr.IsLine es := by
  unfold expressions? at h
  split at h
  · exact (Statement.isLine_of_readArguments (toOption_eq_some_iff.mp h)).1
  · obtain ⟨target, hread, rfl⟩ := Option.map_eq_some_iff.mp h
    exact (Statement.isLine_of_readTarget (toOption_eq_some_iff.mp hread)).1
  · obtain ⟨condition, hread, rfl⟩ := Option.map_eq_some_iff.mp h
    exact Statement.isLine_of_readCondition (toOption_eq_some_iff.mp hread)
  · obtain ⟨condition, hread, rfl⟩ := Option.map_eq_some_iff.mp h
    exact Statement.isLine_of_readCondition (toOption_eq_some_iff.mp hread)
  · obtain ⟨condition, hread, rfl⟩ := Option.map_eq_some_iff.mp h
    exact Expr.isLine_of_readAll (toOption_eq_some_iff.mp hread)
  · obtain ⟨condition, hread, rfl⟩ := Option.map_eq_some_iff.mp h
    exact Expr.isLine_of_readAll (toOption_eq_some_iff.mp hread)
  · obtain ⟨⟨first, last⟩, hread, rfl⟩ := Option.map_eq_some_iff.mp h
    exact Statement.isLine_of_readBounds (toOption_eq_some_iff.mp hread)
  · obtain ⟨value, hread, rfl⟩ := Option.map_eq_some_iff.mp h
    exact Expr.isLine_of_readAll (toOption_eq_some_iff.mp hread)
  · cases h

namespace Line

variable {line : Line} {tokens : List Token} {es : List Expr} {e : Expr}

theorem expressions?_output (starts : line.tokens = .word "output" :: tokens)
    (read : Statement.readArguments tokens = .ok es) : line.expressions? = some es := by
  simp [expressions?, starts, read, Except.toOption]

theorem expressions?_input {target : InputTarget} (starts : line.tokens = .word "input" :: tokens)
    (read : Statement.readTarget tokens = .ok target) :
    line.expressions? = some target.expressions := by
  simp [expressions?, starts, read, Except.toOption]

theorem expressions?_if (starts : line.tokens = .word "if" :: tokens)
    (read : Statement.readCondition tokens = .ok e) : line.expressions? = some [e] := by
  simp [expressions?, starts, read, Except.toOption]

theorem expressions?_elseIf (starts : line.tokens = .word "else" :: .word "if" :: tokens)
    (read : Statement.readCondition tokens = .ok e) : line.expressions? = some [e] := by
  simp [expressions?, starts, read, Except.toOption]

theorem expressions?_assign {name : String} (free : isReserved name = false)
    (starts : line.tokens = .word name :: .symbol .eq :: tokens)
    (read : Expr.readAll (.ofTokens tokens) = .ok e) : line.expressions? = some [e] := by
  -- The name decides that no other kind of line comes first.
  have houtput : name ≠ "output" := ne_of_free free rfl
  have hinput : name ≠ "input" := ne_of_free free rfl
  have hif : name ≠ "if" := ne_of_free free rfl
  simp [expressions?, starts, read, Except.toOption]

end Line

/-! ### Parts of a program -/

namespace Statement

/-- Whether the lines up to `rest` are read as statements, with their expressions line by line, the
depth of their blocks and all of the statements, when `room` levels of blocks can be opened. -/
def Gives (room : Nat) (lines rest : List Line) (expressions : List (List Expr)) (depth : Nat)
    (statements : List Statement) : Prop :=
  ∃ front, lines = front ++ rest ∧ front.filterMap Line.expressions? = expressions ∧
    depth ≤ room ∧ (front.filter (!·.endsBlock)).map Line.number = statements.map line ∧
    ∀ statement ∈ statements, statement.IsProper

variable {room room' depth depth' : Nat} {line : Line} {lines rest last : List Line}
  {es : List Expr} {expressions expressions' : List (List Expr)}
  {statements statements' : List Statement} {statement : Statement}

namespace Gives

theorem nil (room : Nat) (lines : List Line) : Gives room lines lines [] 0 [] :=
  ⟨[], rfl, rfl, Nat.zero_le room, rfl, fun _ h => nomatch h⟩

theorem trans (h : Gives room lines rest expressions depth statements)
    (h' : Gives room rest last expressions' depth' statements') :
    Gives room lines last (expressions ++ expressions') (max depth depth')
      (statements ++ statements') := by
  obtain ⟨front, rfl, rfl, hdepth, hstarts, hproper⟩ := h
  obtain ⟨front', rfl, rfl, hdepth', hstarts', hproper'⟩ := h'
  refine ⟨front ++ front', (List.append_assoc ..).symm, List.filterMap_append,
    Nat.max_le.mpr ⟨hdepth, hdepth'⟩, ?_, List.forall_mem_append.mpr ⟨hproper, hproper'⟩⟩
  rw [List.filter_append, List.map_append, hstarts, hstarts', List.map_append]

/-- A line that a statement starts on. -/
theorem start (statement : Statement) (hexpressions : line.expressions? = some es)
    (starts : line.endsBlock = false) (hline : statement.line = line.number)
    (proper : statement.IsProper) (room : Nat) (rest : List Line) :
    Gives room (line :: rest) rest [es] 0 [statement] := by
  refine ⟨[line], rfl, ?_, Nat.zero_le room, ?_, List.forall_mem_singleton.mpr proper⟩
  · rw [List.filterMap_cons_some hexpressions, List.filterMap_nil]
  · simp [starts, hline]

/-- A line that another branch of a choice starts on. -/
theorem branch (hexpressions : line.expressions? = some es) (ends : line.endsBlock = true)
    (room : Nat) (rest : List Line) : Gives room (line :: rest) rest [es] 0 [] := by
  refine ⟨[line], rfl, ?_, Nat.zero_le room, ?_, fun _ h => nomatch h⟩
  · rw [List.filterMap_cons_some hexpressions, List.filterMap_nil]
  · simp [ends]

/-- A line without expressions. -/
theorem bare (hexpressions : line.expressions? = none) (ends : line.endsBlock = true)
    (room : Nat) (rest : List Line) : Gives room (line :: rest) rest [] 0 [] := by
  refine ⟨[line], rfl, ?_, Nat.zero_le room, ?_, fun _ h => nomatch h⟩
  · rw [List.filterMap_cons_none hexpressions, List.filterMap_nil]
  · simp [ends]

theorem of_eq (h : Gives room lines rest expressions depth statements)
    (hexpressions : expressions = expressions') (hdepth : depth ≤ room → depth' ≤ room')
    (hstatements : statements = statements') :
    Gives room' lines rest expressions' depth' statements' := by
  subst hexpressions hstatements
  obtain ⟨front, hlines, hfront, hlimit, hrest⟩ := h
  exact ⟨front, hlines, hfront, hdepth hlimit, hrest⟩

/-- The line that ends a block. -/
theorem close {word : String} (ends : line.tokens = [.word "end", .word word]) (room : Nat)
    (rest : List Line) : Gives room (line :: rest) rest [] 0 [] :=
  .bare (by simp [Line.expressions?, ends]) (by simp [Line.endsBlock, ends]) room rest

/-- What is in a block is one level further in than its header. -/
theorem block {closer : Line} {word : String}
    (header : Gives room (line :: lines) lines [es] 0 [statement])
    (inside : Gives room lines (closer :: rest) expressions depth statements)
    (ends : closer.tokens = [.word "end", .word word]) :
    Gives (room + 1) (line :: lines) rest (es :: expressions) (depth + 1)
      (statement :: statements) :=
  (header.trans (inside.trans (.close ends room rest))).of_eq (by simp) (by omega) (by simp)

end Gives

/-- The two kinds of loops that a header can be of. -/
theorem header_cases {tokens : List Token} {header : List Statement → Statement}
    (starts : line.tokens = .word "loop" :: tokens) (read : readHeader line tokens = .ok header) :
    (∃ condition stopAt, header = .iterate line.number condition stopAt ∧
      line.expressions? = some [condition]) ∨
    ∃ name first last, header = .count line.number name first last ∧ isReserved name = false ∧
      line.expressions? = some [first, last] := by
  unfold readHeader at read
  split at read
  · obtain ⟨condition, hcondition, read⟩ := bind_eq_ok.mp read
    cases read
    refine .inl ⟨condition, false, rfl, ?_⟩
    simp [Line.expressions?, starts, hcondition, Except.toOption]
  · obtain ⟨condition, hcondition, read⟩ := bind_eq_ok.mp read
    cases read
    refine .inl ⟨condition, true, rfl, ?_⟩
    simp [Line.expressions?, starts, hcondition, Except.toOption]
  · split at read
    · cases read
    · rename_i name tokens _ _ hfree
      obtain ⟨⟨first, last⟩, hbounds, read⟩ := bind_eq_ok.mp read
      cases read
      refine .inr ⟨name, first, last, rfl, Bool.eq_false_iff.mpr hfree, ?_⟩
      simp_all [Line.expressions?, Except.toOption]
  · cases read

namespace Part

def expressionLines : Part → List (List Expr)
  | one statement => statement.expressionLines
  | many statements => expressionLinesAll statements
  | branches others otherwise => branchExpressionLines others ++ expressionLinesAll otherwise

def blockDepth : Part → Nat
  | one statement => statement.blockDepth
  | many statements => blockDepthAll statements
  | branches others otherwise => max (branchesDepth others) (blockDepthAll otherwise)

end Part

theorem Written.gives {part : Part} (h : Written room lines rest part) :
    Gives room lines rest part.expressionLines part.blockDepth part.withInner := by
  induction h with
  | output starts read rest =>
      exact .start (.output _ _) (Line.expressions?_output starts read)
        (by simp [Line.endsBlock, starts]) rfl (isLine_of_readArguments read).2 _ rest
  | @input room line tokens target starts read rest =>
      have hexpressions := Line.expressions?_input starts read
      have hstarts : line.endsBlock = false := by simp [Line.endsBlock, starts]
      cases target with
      | var name =>
          have hfree : isReserved name = false := (isLine_of_readTarget read).2 name rfl
          exact .start (.input _ (.var name)) hexpressions hstarts rfl hfree _ rest
      | prompt e => exact .start (.input _ (.prompt e)) hexpressions hstarts rfl trivial _ rest
  | @assign room line tokens name value starts free read rest =>
      have hend : name ≠ "end" := ne_of_free free rfl
      have helse : name ≠ "else" := ne_of_free free rfl
      exact .start (.assign _ _ _) (Line.expressions?_assign free starts read)
        (by simp [Line.endsBlock, starts, hend, helse]) rfl free _ rest
  | @choose room line closer lines between rest tokens condition body otherwise branches
      starts read _ _ ends ihInside ihOthers =>
      have hstart := Gives.start (.choose line.number ((condition, body) :: branches) otherwise)
        (Line.expressions?_if starts read) (by simp [Line.endsBlock, starts]) rfl
        (List.cons_ne_nil _ _) room lines
      refine (hstart.block (ihInside.trans ihOthers) ends).of_eq ?_ ?_ ?_
      · simp [Part.expressionLines, Statement.expressionLines, branchExpressionLines]
      · simp only [Part.blockDepth, Statement.blockDepth, branchesDepth]
        omega
      · simp [Part.withInner, Statement.withInner, innerOfBranches]
  | @loop room line closer lines rest tokens header body starts read _ ends ih =>
      have hstarts : line.endsBlock = false := by simp [Line.endsBlock, starts]
      obtain ⟨condition, stopAt, rfl, hexpressions⟩ | ⟨name, first, last, rfl, free, hexpressions⟩ :=
        header_cases starts read
      · exact (Gives.start (.iterate _ _ _ _) hexpressions hstarts rfl trivial room lines).block
          ih ends
      · exact (Gives.start (.count _ _ _ _ _) hexpressions hstarts rfl free room lines).block
          ih ends
  | nil room lines => exact .nil room lines
  | cons _ _ ihFirst ihOthers => exact ihFirst.trans ihOthers
  | stop room lines => exact .nil room lines
  | branch starts read _ _ ihInside ihOthers =>
      have hline := Gives.branch (Line.expressions?_elseIf starts read)
        (by simp [Line.endsBlock, starts])
      refine ((hline _ _).trans (ihInside.trans ihOthers)).of_eq ?_ ?_ ?_
      · simp [Part.expressionLines, branchExpressionLines]
      · simp [Part.blockDepth, branchesDepth]
      · simp [Part.withInner, innerOfBranches]
  | @otherwise room line lines _ _ starts _ ih =>
      have hline : Gives room (line :: lines) lines [] 0 [] :=
        .bare (by simp [Line.expressions?, starts]) (by simp [Line.endsBlock, starts]) room lines
      refine (hline.trans ih).of_eq ?_ ?_ ?_
      · simp [Part.expressionLines, branchExpressionLines]
      · simp [Part.blockDepth, branchesDepth]
      · simp [Part.withInner, innerOfBranches]

end Statement

/-! ### Sources -/

namespace Line

/-- The lines of a source have the numbers that they have there, in their order. -/
theorem number_of_ofTexts {n : Nat} {texts : List (List Char)} {lines : List Line}
    (h : ofTexts n texts = .ok lines) : (lines.map number).Pairwise (· < ·) ∧
      ∀ line ∈ lines, n ≤ line.number ∧ line.number < n + texts.length := by
  induction texts generalizing n lines with
  | nil =>
      cases h
      exact ⟨.nil, fun _ h => nomatch h⟩
  | cons text texts ih =>
      obtain ⟨tokens, others, -, hothers, rfl⟩ := ofTexts_cons_eq_ok.mp h
      obtain ⟨hincreasing, hwithin⟩ := ih hothers
      have hlater : ∀ line ∈ others, n < line.number ∧
          line.number < n + (text :: texts).length := by
        intro line hline
        have hnumber := hwithin line hline
        rw [List.length_cons]
        omega
      unfold ofTokens
      split
      · exact ⟨hincreasing, fun line hline =>
          ⟨Nat.le_of_lt (hlater line hline).1, (hlater line hline).2⟩⟩
      · refine ⟨List.pairwise_cons.mpr ⟨?_, hincreasing⟩, List.forall_mem_cons.mpr ⟨?_, ?_⟩⟩
        · intro number hnumber
          obtain ⟨line, hline, rfl⟩ := List.mem_map.mp hnumber
          exact (hlater line hline).1
        · exact ⟨Nat.le_refl n, Nat.lt_add_of_pos_right (Nat.succ_pos _)⟩
        · exact fun line hline => ⟨Nat.le_of_lt (hlater line hline).1, (hlater line hline).2⟩

end Line

namespace Program

/-- A program is read from all of its lines. -/
theorem gives_of_ofLines {lines : List Line} {program : List Statement}
    (h : ofLines lines = .ok program) :
    Statement.Gives maxNesting lines [] (Statement.expressionLinesAll program)
      (Statement.blockDepthAll program) (Statement.withInnerAll program) :=
  (written_of_ofLines h).gives

/-- A program that is accepted is small and well formed. Its blocks are nested 100 deep at most. Its
expressions, line by line, are those that are read from the lines of the source: there are 1024
binary operators at most in those of one line, 100 operators of one operand and inputs at most on
each way from a root to a leaf, and so 1125 nodes at most. No reserved word is the name of a
variable, an output has something to write and a choice has a branch. One statement starts on each
line that does not begin with `end` or `else`, in the order of the lines, so the numbers of the
statements increase when each comes before those in it. -/
theorem ofSource_within_limits {source : String} {program : List Statement}
    (h : ofSource source = .ok program) :
    Statement.blockDepthAll program ≤ 100 ∧
    (∃ lines, Line.ofSource source = .ok lines ∧
      Statement.expressionLinesAll program = lines.filterMap Line.expressions? ∧
      (∀ line ∈ lines, ∀ es, line.expressions? = some es → Expr.lineOperators es ≤ 1024) ∧
      (Statement.withInnerAll program).map Statement.line =
        (lines.filter (!·.endsBlock)).map Line.number) ∧
    (∀ es ∈ Statement.expressionLinesAll program, ∀ e ∈ es, e.openings ≤ 100 ∧ e.depth ≤ 1125 ∧
      ∀ name ∈ e.names, isReserved name = false) ∧
    (∀ statement ∈ Statement.withInnerAll program, statement.IsProper) ∧
    ((Statement.withInnerAll program).map Statement.line).Pairwise (· < ·) ∧
    ∀ statement ∈ Statement.withInnerAll program,
      1 ≤ statement.line ∧ statement.line ≤ (Text.lines source.toList).length := by
  obtain ⟨lines, hlines, hprogram⟩ := bind_eq_ok.mp h
  obtain ⟨front, hfront, hexpressions, hdepth, hstarts, hproper⟩ := gives_of_ofLines hprogram
  obtain rfl : lines = front := hfront.trans (List.append_nil front)
  obtain ⟨hincreasing, hwithin⟩ := Line.number_of_ofTexts hlines
  refine ⟨hdepth, ⟨lines, hlines, hexpressions.symm, fun line _ es hes => ?_, hstarts.symm⟩,
    fun es hes e he => ?_, hproper, ?_, fun statement hstatement => ?_⟩
  · exact (Line.isLine_of_expressions? hes).operators
  · -- Each of the expressions is one of a line, and the limits are those of lines.
    rw [← hexpressions] at hes
    obtain ⟨line, -, hline⟩ := List.mem_filterMap.mp hes
    have hlimits := Line.isLine_of_expressions? hline
    have hopenings : e.openings ≤ 100 := (hlimits.small e he).openings
    have hoperators : e.operators ≤ 1024 :=
      Nat.le_trans (Expr.operators_le_lineOperators he) hlimits.operators
    have hnodes := e.depth_le
    exact ⟨hopenings, by omega, (hlimits.small e he).free⟩
  · rw [← hstarts]
    exact hincreasing.sublist (List.filter_sublist.map Line.number)
  · have hnumber : statement.line ∈ (lines.filter (!·.endsBlock)).map Line.number :=
      hstarts ▸ List.mem_map_of_mem hstatement
    obtain ⟨line, hline, hnumber⟩ := List.mem_map.mp hnumber
    have hbounds := hwithin line (List.mem_filter.mp hline).1
    omega

/-- A choice with two branches in a loop. -/
def choosy : String :=
  "loop i from 1 to input(\"n\") + 1\n" ++
  "if not i = 2 then\noutput -i, i * i\n\n" ++
  "else if i = 3 then\ninput x\nend if\nend loop"

theorem ofSource_within_limits_choosy : ∃ program, ofSource choosy = .ok program ∧
    Statement.blockDepthAll program = 2 ∧
    (Statement.expressionLinesAll program).map Expr.lineOperators = [1, 1, 1, 1, 0] ∧
    (Statement.withInnerAll program).map Statement.line = [1, 2, 3, 6] ∧
    ((Statement.withInnerAll program).map Statement.line).Pairwise (· < ·) ∧
    ∀ es ∈ Statement.expressionLinesAll program, ∀ e ∈ es, e.openings ≤ 100 ∧ e.depth ≤ 1125 ∧
      ∀ name ∈ e.names, isReserved name = false := by
  have hlines : Line.ofSource choosy = .ok [
      ⟨1, [.word "loop", .word "i", .word "from", .number (.ofInt 1), .word "to", .word "input",
        .symbol .leftParen, .text "n", .symbol .rightParen, .symbol .plus, .number (.ofInt 1)]⟩,
      ⟨2, [.word "if", .word "not", .word "i", .symbol .eq, .number (.ofInt 2), .word "then"]⟩,
      ⟨3, [.word "output", .symbol .minus, .word "i", .symbol .comma, .word "i", .symbol .star,
        .word "i"]⟩,
      ⟨5, [.word "else", .word "if", .word "i", .symbol .eq, .number (.ofInt 3), .word "then"]⟩,
      ⟨6, [.word "input", .word "x"]⟩,
      ⟨7, [.word "end", .word "if"]⟩,
      ⟨8, [.word "end", .word "loop"]⟩] := by
    decide +kernel
  have hprogram : ofSource choosy = .ok [
      .count 1 "i" (.number (.ofInt 1))
        (.binary .add (.input (.text "n")) (.number (.ofInt 1)))
        [.choose 2
          [(.unary .not (.binary .eq (.var "i") (.number (.ofInt 2))),
              [.output 3 [.unary .neg (.var "i"), .binary .mul (.var "i") (.var "i")]]),
            (.binary .eq (.var "i") (.number (.ofInt 3)), [.input 6 (.var "x")])]
          []]] := by
    rw [ofSource, hlines]
    rfl
  obtain ⟨-, -, hexpressions, -, hincreasing, -⟩ := ofSource_within_limits hprogram
  exact ⟨_, hprogram, rfl, rfl, rfl, hincreasing, hexpressions⟩

end Program

end Pseudocode
