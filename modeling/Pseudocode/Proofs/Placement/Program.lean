import Pseudocode.Proofs.Placement

/-!
Where a fault is reported. Each statement has its header on the line with its number, and its own
expressions are read from that line, but for the conditions of further branches of a choice: they
are read from the lines that continue it. A fault in one of those is reported at the line of the
choice all the same.
-/

namespace Pseudocode

namespace Line

/-- Whether the blocks that some lines open are closed among them, and no others. -/
def Balanced (lines : List Line) : Prop :=
  ∀ opened, lines.foldl nest opened = opened

variable {line header closer : Line} {lines lines' : List Line}

theorem balanced_nil : Balanced [] := fun _ => rfl

theorem Balanced.append (h : Balanced lines) (h' : Balanced lines') :
    Balanced (lines ++ lines') := by
  intro opened
  rw [List.foldl_append, h, h']

theorem balanced_singleton (h : ∀ opened, nest opened line = opened) : Balanced [line] := h

/-- A block is balanced. -/
theorem Balanced.block (h : Balanced lines) {opener : BlockKind × Nat}
    (hheader : ∀ opened, nest opened header = opener :: opened)
    (hend : ∀ opened, nest opened closer = opened.tail) :
    Balanced (header :: (lines ++ [closer])) := by
  intro opened
  rw [List.foldl_cons, hheader, List.foldl_append, h]
  exact hend _

theorem nest_if {tokens : List Token} (h : line.tokens = .word "if" :: tokens)
    (opened : List (BlockKind × Nat)) : nest opened line = (.choice, line.number) :: opened := by
  simp only [nest, h]

theorem nest_loop {tokens : List Token} (h : line.tokens = .word "loop" :: tokens)
    (opened : List (BlockKind × Nat)) : nest opened line = (.loop, line.number) :: opened := by
  simp only [nest, h]

theorem nest_end {tokens : List Token} (h : line.tokens = .word "end" :: tokens)
    (opened : List (BlockKind × Nat)) : nest opened line = opened.tail := by
  simp only [nest, h]

theorem nest_else {tokens : List Token} (h : line.tokens = .word "else" :: tokens)
    (opened : List (BlockKind × Nat)) : nest opened line = opened := by
  simp [nest, h]

/-- Whether a line begins a further branch, with a condition, after some lines of a choice. -/
def Branches (lines : List Line) (line : Line) : Prop :=
  ∃ before after tokens, lines = before ++ line :: after ∧ Balanced before ∧
    line.tokens = .word "else" :: .word "if" :: tokens

/-- Whether a line begins a further branch, with a condition, of the choice that a header opens. -/
def ContinuedBy (lines : List Line) (header line : Line) : Prop :=
  ∃ outer inner tokens, lines = outer ++ header :: inner ∧
    header.tokens = .word "if" :: tokens ∧ Branches inner line

theorem Branches.append_left (h : Branches lines line) (hfront : Balanced lines') :
    Branches (lines' ++ lines) line := by
  obtain ⟨before, after, tokens, rfl, hbefore, htokens⟩ := h
  exact ⟨lines' ++ before, after, tokens, (List.append_assoc ..).symm, hfront.append hbefore,
    htokens⟩

theorem Branches.append_right (h : Branches lines line) (back : List Line) :
    Branches (lines ++ back) line := by
  obtain ⟨before, after, tokens, rfl, hbefore, htokens⟩ := h
  exact ⟨before, after ++ back, tokens, by simp, hbefore, htokens⟩

theorem ContinuedBy.within (h : ContinuedBy lines header line) (front back : List Line) :
    ContinuedBy (front ++ lines ++ back) header line := by
  obtain ⟨outer, inner, tokens, rfl, htokens, hbranches⟩ := h
  exact ⟨front ++ outer, inner ++ back, tokens, by simp, htokens, hbranches.append_right back⟩

/-- Whether an expression is one of those that are read from a line. -/
def Holds (line : Line) (e : Expr) : Prop :=
  ∃ es, line.expressions? = some es ∧ e ∈ es

end Line

namespace Statement

open Line

/-- Whether a statement starts on one of some lines, and its expressions are read from it or from
those that continue it. -/
def Placed (lines : List Line) (statement : Statement) : Prop :=
  ∃ header ∈ lines, header.number = statement.line ∧
    (statement.isCount = true → header.tokens.head? = some (.word "loop")) ∧
    ∀ e ∈ statement.ownExpressions,
      header.Holds e ∨ ∃ place, ContinuedBy lines header place ∧ place.Holds e

/-- Whether the lines up to `rest` are read as some statements, each of them placed there. -/
def Places (lines rest : List Line) (statements : List Statement) : Prop :=
  ∃ front, lines = front ++ rest ∧ Balanced front ∧ ∀ statement ∈ statements, Placed front statement

/-- Whether the lines up to `rest` are read as further branches of a choice. -/
def PlacesBranches (lines rest : List Line) (branches : List (Expr × List Statement))
    (statements : List Statement) : Prop :=
  ∃ front, lines = front ++ rest ∧ Balanced front ∧
    (∀ statement ∈ statements, Placed front statement) ∧
    ∀ condition ∈ branches.map Prod.fst, ∃ place, Branches front place ∧ place.Holds condition

variable {room : Nat} {line closer : Line} {lines rest last : List Line} {statement : Statement}
  {statements statements' body otherwise : List Statement} {condition : Expr}
  {branches : List (Expr × List Statement)}

theorem Placed.within (h : Placed lines statement) (front back : List Line) :
    Placed (front ++ lines ++ back) statement := by
  obtain ⟨header, hmem, hnumber, hcount, hexpressions⟩ := h
  refine ⟨header, by simp [hmem], hnumber, hcount, fun e he => (hexpressions e he).imp_right ?_⟩
  rintro ⟨place, hcontinued, hholds⟩
  exact ⟨place, hcontinued.within front back, hholds⟩

theorem Placed.append_right (h : Placed lines statement) (back : List Line) :
    Placed (lines ++ back) statement :=
  h.within [] back

theorem Placed.append_left (h : Placed lines statement) (front : List Line) :
    Placed (front ++ lines) statement := by
  have hwithin := h.within front []
  rwa [List.append_nil] at hwithin

/-- A statement whose expressions all stand in its first line. -/
theorem placed_of_holds (hmem : line ∈ lines) (hnumber : line.number = statement.line)
    (hcount : statement.isCount = true → line.tokens.head? = some (.word "loop"))
    (hholds : line.expressions? = some statement.ownExpressions) : Placed lines statement :=
  ⟨line, hmem, hnumber, hcount, fun _ he => .inl ⟨_, hholds, he⟩⟩

namespace Places

theorem nil (lines : List Line) : Places lines lines [] :=
  ⟨[], rfl, balanced_nil, fun _ h => nomatch h⟩

theorem trans (h : Places lines rest statements) (h' : Places rest last statements') :
    Places lines last (statements ++ statements') := by
  obtain ⟨front, rfl, hbalanced, hplaced⟩ := h
  obtain ⟨front', rfl, hbalanced', hplaced'⟩ := h'
  refine ⟨front ++ front', (List.append_assoc ..).symm, hbalanced.append hbalanced',
    List.forall_mem_append.mpr ⟨fun statement hmem => ?_, fun statement hmem => ?_⟩⟩
  · exact (hplaced statement hmem).append_right front'
  · exact (hplaced' statement hmem).append_left front

/-- A statement of one line. -/
theorem simple (statement : Statement) (hnest : ∀ opened, nest opened line = opened)
    (hnumber : line.number = statement.line) (hcount : statement.isCount = false)
    (hholds : line.expressions? = some statement.ownExpressions) (rest : List Line) :
    Places (line :: rest) rest [statement] :=
  ⟨[line], rfl, balanced_singleton hnest, List.forall_mem_singleton.mpr
    (placed_of_holds List.mem_cons_self hnumber (by simp [hcount]) hholds)⟩

end Places

/-- Whether the lines up to `rest` are read as a part of a program, with its statements there. -/
def Part.IsPlaced (lines rest : List Line) : Part → Prop
  | .one statement => Places lines rest statement.withInner
  | .many statements => Places lines rest (withInnerAll statements)
  | .branches others otherwise =>
    PlacesBranches lines rest others (innerOfBranches others ++ withInnerAll otherwise)

/-- The first condition of a choice is on its header, and the others are on lines that continue
it. -/
theorem Places.choose {tokens : List Token} (starts : line.tokens = .word "if" :: tokens)
    (read : readCondition tokens = .ok condition) (inside : Places lines rest (withInnerAll body))
    (others : PlacesBranches rest (closer :: last) branches
      (innerOfBranches branches ++ withInnerAll otherwise))
    (ends : closer.tokens = [.word "end", .word "if"]) :
    Places (line :: lines) last
      (withInner (.choose line.number ((condition, body) :: branches) otherwise)) := by
  obtain ⟨front, rfl, hbalanced, hplaced⟩ := inside
  obtain ⟨front', rfl, hbalanced', hplaced', hconditions⟩ := others
  refine ⟨line :: (front ++ front' ++ [closer]), by simp,
    (hbalanced.append hbalanced').block (nest_if starts) (nest_end ends),
    List.forall_mem_cons.mpr ⟨⟨line, List.mem_cons_self, rfl, Bool.noConfusion, ?_⟩, ?_⟩⟩
  · refine List.forall_mem_cons.mpr ⟨.inl ⟨_, Line.expressions?_if starts read,
      List.mem_cons_self⟩, fun e he => .inr ?_⟩
    obtain ⟨place, hplace, hholds⟩ := hconditions e he
    exact ⟨place, ⟨[], _, tokens, rfl, starts, (hplace.append_left hbalanced).append_right _⟩,
      hholds⟩
  · intro inner hmem
    rw [innerOfBranches, List.append_assoc] at hmem
    rw [← List.singleton_append, List.append_assoc]
    rcases List.mem_append.mp hmem with hmem | hmem
    · exact ((hplaced inner hmem).append_right _).append_left [line]
    · exact (((hplaced' inner hmem).append_right _).append_left front).append_left [line]

theorem Places.loop {tokens : List Token} (starts : line.tokens = .word "loop" :: tokens)
    (hexpressions : line.expressions? = some statement.ownExpressions)
    (hnumber : line.number = statement.line) (inside : Places lines (closer :: rest) statements)
    (ends : closer.tokens = [.word "end", .word "loop"]) :
    Places (line :: lines) rest (statement :: statements) := by
  obtain ⟨front, rfl, hbalanced, hplaced⟩ := inside
  refine ⟨line :: (front ++ [closer]), by simp,
    hbalanced.block (nest_loop starts) (nest_end ends), ?_⟩
  refine List.forall_mem_cons.mpr ⟨placed_of_holds List.mem_cons_self hnumber
    (fun _ => by rw [starts]; rfl) hexpressions, fun inner hmem => ?_⟩
  exact (hplaced inner hmem).within [line] [closer]

theorem PlacesBranches.of_elseIf {tokens : List Token}
    (starts : line.tokens = .word "else" :: .word "if" :: tokens)
    (read : readCondition tokens = .ok condition) (inside : Places lines rest (withInnerAll body))
    (others : PlacesBranches rest last branches
      (innerOfBranches branches ++ withInnerAll otherwise)) :
    PlacesBranches (line :: lines) last ((condition, body) :: branches)
      (innerOfBranches ((condition, body) :: branches) ++ withInnerAll otherwise) := by
  obtain ⟨front, rfl, hbalanced, hplaced⟩ := inside
  obtain ⟨front', rfl, hbalanced', hplaced', hconditions⟩ := others
  have hfront : Balanced (line :: front) :=
    (balanced_singleton (nest_else starts)).append hbalanced
  refine ⟨line :: front ++ front', by simp, hfront.append hbalanced', fun statement hmem => ?_, ?_⟩
  · rw [innerOfBranches, List.append_assoc] at hmem
    rcases List.mem_append.mp hmem with hmem | hmem
    · exact (hplaced statement hmem).within [line] front'
    · exact (hplaced' statement hmem).append_left (line :: front)
  · refine List.forall_mem_cons.mpr ⟨⟨line, ⟨[], _, tokens, rfl, balanced_nil, starts⟩,
      _, Line.expressions?_elseIf starts read, List.mem_cons_self⟩, fun condition' hmem => ?_⟩
    obtain ⟨place, hplace, hholds⟩ := hconditions condition' hmem
    exact ⟨place, hplace.append_left hfront, hholds⟩

theorem PlacesBranches.of_else (starts : line.tokens = [.word "else"])
    (inside : Places lines rest statements) :
    PlacesBranches (line :: lines) rest [] statements := by
  obtain ⟨front, rfl, hbalanced, hplaced⟩ := inside
  refine ⟨line :: front, rfl, (balanced_singleton (nest_else starts)).append hbalanced,
    fun statement hmem => ?_, fun _ h => nomatch h⟩
  exact (hplaced statement hmem).append_left [line]

theorem Written.places {part : Part} (h : Written room lines rest part) :
    part.IsPlaced lines rest := by
  induction h with
  | output starts read rest =>
      exact Places.simple (.output _ _) (fun _ => by simp [nest, starts]) rfl rfl
        (Line.expressions?_output starts read) rest
  | @input room line tokens target starts read rest =>
      have hnest : ∀ opened, nest opened line = opened := fun _ => by simp [nest, starts]
      have hexpressions := Line.expressions?_input starts read
      cases target with
      | var name => exact Places.simple (.input _ (.var name)) hnest rfl rfl hexpressions rest
      | prompt e => exact Places.simple (.input _ (.prompt e)) hnest rfl rfl hexpressions rest
  | @assign room line tokens name value starts free read rest =>
      have hif : name ≠ "if" := ne_of_free free rfl
      have hloop : name ≠ "loop" := ne_of_free free rfl
      have hend : name ≠ "end" := ne_of_free free rfl
      exact Places.simple (.assign _ _ _) (fun _ => by simp [nest, starts, hif, hloop, hend]) rfl
        rfl (Line.expressions?_assign free starts read) rest
  | choose starts read _ _ ends ihInside ihOthers =>
      exact Places.choose starts read ihInside ihOthers ends
  | loop starts read _ ends ih =>
      obtain ⟨condition, stopAt, rfl, hexpressions⟩ | ⟨name, first, last, rfl, -, hexpressions⟩ :=
        header_cases starts read
      · exact Places.loop starts hexpressions rfl ih ends
      · exact Places.loop starts hexpressions rfl ih ends
  | nil room lines => exact Places.nil lines
  | cons _ _ ihFirst ihOthers => exact Places.trans ihFirst ihOthers
  | stop room lines => exact ⟨[], rfl, balanced_nil, (fun _ h => nomatch h), fun _ h => nomatch h⟩
  | branch starts read _ _ ihInside ihOthers =>
      exact PlacesBranches.of_elseIf starts read ihInside ihOthers
  | otherwise starts _ ih => exact PlacesBranches.of_else starts ih

end Statement

/-! ### Faults -/

/-- The tokens of a line are those of the text at its place. -/
theorem Line.map_scan_getElem? {source : String} {lines : List Line} {line : Line}
    (h : ofSource source = .ok lines) (hmem : line ∈ lines) :
    (Text.lines source.toList)[line.number - 1]?.map Token.scan = some (.ok line.tokens) := by
  obtain ⟨front, back, rfl⟩ := List.append_of_mem hmem
  obtain ⟨before, text, after, htexts, -, hnumber, hscan, -⟩ := exists_text h
  rw [htexts, hnumber, Nat.add_sub_cancel_left, List.getElem?_append_right (Nat.le_refl _),
    Nat.sub_self]
  exact congrArg some hscan

/-- All statements of a program are placed among the lines of its source. -/
theorem Program.placed_of_ofLines {lines : List Line} {program : List Statement}
    (h : ofLines lines = .ok program) :
    ∀ statement ∈ Statement.withInnerAll program, Statement.Placed lines statement := by
  obtain ⟨front, rfl, -, hplaced⟩ : Statement.Places lines [] (Statement.withInnerAll program) :=
    (written_of_ofLines h).places
  rwa [List.append_nil]

namespace Interpreter

/-- A fault of a run is reported at the line of the statement that it arises in, and the expression
that goes wrong is written there, but for the condition of a further branch of a choice: it is
written in the line of that branch, and reported at the line of the choice. An unknown variable is
one of the words of the line that the expression is written in, one of its operators divides if the
fault is a division by zero, and a number that does not fit as a bound is one of a loop. -/
theorem fault_reported_at_statement {σ : Type} (host : Host σ) {s : σ} {patience : Nat}
    {source : String} {line : Nat} {cause : Cause}
    (h : ((script patience source).runOn host s).1 = .failed ⟨line, cause⟩)
    (hform : ∀ complaint, cause ≠ .malformed complaint) :
    ∃ lines header place, Line.ofSource source = .ok lines ∧ header ∈ lines ∧
      header.number = line ∧
      (Text.lines source.toList)[line - 1]?.map Token.scan = some (.ok header.tokens) ∧
      (place = header ∨ Line.ContinuedBy lines header place) ∧
      (∀ name, cause = .unknownVariable name → .word name ∈ place.tokens) ∧
      (cause = .divisionByZero → ∃ token ∈ place.tokens, token.divides = true) ∧
      (cause.isLoopBound = true → header.tokens.head? = some (.word "loop")) := by
  obtain ⟨program, scope, -, hprogram, -, statement, hmem, hline, hraises⟩ :=
    explain_of_script h hform
  obtain ⟨lines, hlines, hprogram⟩ := bind_eq_ok.mp hprogram
  obtain ⟨header, hheader, hnumber, hcount, hexpressions⟩ :=
    Program.placed_of_ofLines hprogram statement hmem
  obtain rfl : header.number = line := hnumber.trans hline
  have hscan := Line.map_scan_getElem? hlines hheader
  rcases hraises with ⟨e, he, hraises⟩ | ⟨hisCount, hbound⟩
  · -- The expression is written where it was read.
    have hplace : ∃ place, (place = header ∨ Line.ContinuedBy lines header place) ∧
        place.Holds e := by
      rcases hexpressions e he with hholds | ⟨place, hcontinued, hholds⟩
      · exact ⟨header, .inl rfl, hholds⟩
      · exact ⟨place, .inr hcontinued, hholds⟩
    obtain ⟨place, hplace, es, hes, hmem⟩ := hplace
    have hwritten := Line.writtenIn_of_expressions? hes e hmem
    refine ⟨lines, header, place, hlines, hheader, rfl, hscan, hplace, ?_, ?_, ?_⟩
    · rintro name rfl
      exact hwritten.names name hraises.1
    · rintro rfl
      exact hwritten.divides hraises
    · cases cause with
      | loopBound => exact hraises.elim
      | _ => exact fun h => nomatch h
  · refine ⟨lines, header, header, hlines, hheader, rfl, hscan, .inl rfl, ?_, ?_,
      fun _ => hcount hisCount⟩
    · rintro name rfl
      cases hbound
    · rintro rfl
      cases hbound

/-- A program that divides by zero in a loop. -/
def dividing : String := "x = 2\nloop while x < 9\nx = x - 1\noutput 1 / x\nend loop"

theorem fault_reported_at_statement_dividing :
    (recorded dividing (fun _ => "") (fun _ => false) 9).1 = .failed ⟨4, .divisionByZero⟩ ∧
      ∃ lines header, Line.ofSource dividing = .ok lines ∧ header ∈ lines ∧
        header = ⟨4, [.word "output", .number (.ofInt 1), .symbol .slash, .word "x"]⟩ ∧
        ∃ token ∈ header.tokens, token.divides = true := by
  have hrun : (recorded dividing (fun _ => "") (fun _ => false) 9).1 =
      .failed ⟨4, .divisionByZero⟩ := by
    decide +kernel
  obtain ⟨lines, ⟨number, tokens⟩, place, hlines, hmem, rfl, hscan, hplace, -, hdivides, -⟩ :=
    fault_reported_at_statement _ hrun fun _ => Cause.noConfusion
  have htokens : (Text.lines dividing.toList)[4 - 1]?.map Token.scan =
      some (.ok [.word "output", .number (.ofInt 1), .symbol .slash, .word "x"]) := by
    decide +kernel
  cases Except.ok.inj (Option.some.inj (hscan.symm.trans htokens))
  refine ⟨hrun, lines, _, hlines, hmem, rfl, ?_⟩
  rcases hplace with rfl | ⟨_, _, _, -, hif, -⟩
  · exact hdivides rfl
  · simp at hif

/-- A choice whose second condition names a variable that is not defined. -/
def misreported : String := "if false then\nelse if Y then\nend if"

/-- The condition of a further branch is not written in the line that is reported. -/
theorem branch_reported_at_choice :
    (recorded misreported (fun _ => "") (fun _ => false) 0).1 =
        .failed ⟨1, .unknownVariable "Y"⟩ ∧
      (Text.lines misreported.toList)[1 - 1]?.map Token.scan =
        some (.ok [.word "if", .word "false", .word "then"]) ∧
      .word "Y" ∉ [Token.word "if", .word "false", .word "then"] := by
  decide +kernel

end Interpreter

end Pseudocode
