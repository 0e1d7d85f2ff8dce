import Pseudocode.Proofs.Printing.Layout
import Pseudocode.Proofs.Printing.Numbering

/-!
Reading the source of a written program gives the program. The tokens of a program that can be
written are legible, so its text is scanned into its lines, and these are read as its statements,
each with the number of the line on which its header stands.
-/

namespace Pseudocode

variable {spell : Binary64 → List Char}

namespace Token

namespace Legible

variable {token : Token} {tokens tokens' : List Token}

theorem nil : Legible spell [] :=
  fun _ h => nomatch h

theorem cons (first : token.isLegible spell = true) (h : Legible spell tokens) :
    Legible spell (token :: tokens) :=
  List.forall_mem_cons.mpr ⟨first, h⟩

theorem append (h : Legible spell tokens) (h' : Legible spell tokens') :
    Legible spell (tokens ++ tokens') :=
  List.forall_mem_append.mpr ⟨h, h'⟩

theorem enclosed (h : Legible spell tokens) :
    Legible spell (.symbol .leftParen :: (tokens ++ [.symbol .rightParen])) :=
  .cons rfl (h.append (.cons rfl .nil))

theorem enclosedIn (h : Legible spell tokens) (outer inner : Level) :
    Legible spell (Expr.enclosedIn outer inner tokens) := by
  unfold Expr.enclosedIn
  split
  · exact h
  · exact h.enclosed

end Legible

theorem isLegible_unaryOp (op : UnaryOp) : op.token.isLegible spell = true := by
  cases op <;> rfl

theorem isLegible_binaryOp (op : BinaryOp) : op.token.isLegible spell = true := by
  cases op <;> rfl

end Token

namespace Expr

open Token (Legible)

theorem legible_tokens {e : Expr} (h : e.isWellFormed spell = true) : Legible spell e.tokens := by
  induction e with
  | number n => exact .cons h .nil
  | text s => exact .cons h .nil
  | truth b => cases b <;> exact .cons rfl .nil
  | var name => exact .cons (isLegible_of_isName h) .nil
  | unary op e ih => exact .cons (Token.isLegible_unaryOp op) ((ih h).enclosedIn _ _)
  | binary op a b iha ihb =>
      obtain ⟨ha, hb⟩ := Bool.and_eq_true_iff.mp h
      exact ((iha ha).enclosedIn _ _).append
        (.cons (Token.isLegible_binaryOp op) ((ihb hb).enclosedIn _ _))
  | input prompt ih => exact .cons rfl (ih h).enclosed

theorem legible_argumentTokens {es : List Expr} (h : es.all (isWellFormed spell) = true) :
    Legible spell (argumentTokens es) := by
  cases es with
  | nil => exact .nil
  | cons e es =>
      obtain ⟨he, hes⟩ := Bool.and_eq_true_iff.mp h
      rw [argumentTokens_cons]
      refine (legible_tokens he).append fun token htoken => ?_
      obtain ⟨e', he', hmem⟩ := List.mem_flatMap.mp htoken
      exact Legible.cons rfl (legible_tokens (List.all_eq_true.mp hes e' he')) token hmem

end Expr

namespace Statement

open Token (Legible)

/-- Whether a line can be scanned, and has tokens. -/
def LegibleLine (spell : Binary64 → List Char) (line : List Token) : Prop :=
  line ≠ [] ∧ Legible spell line

theorem LegibleLine.cons {token : Token} {tokens : List Token}
    (first : token.isLegible spell = true) (h : Legible spell tokens) :
    LegibleLine spell (token :: tokens) :=
  ⟨List.cons_ne_nil _ _, .cons first h⟩

theorem legible_conditionTokens {condition : Expr} (h : condition.isWellFormed spell = true) :
    Legible spell (conditionTokens condition) :=
  .cons rfl ((Expr.legible_tokens h).append (.cons rfl .nil))

theorem legible_endOf (kind : BlockKind) : ∀ line ∈ [endOf kind], LegibleLine spell line := by
  refine List.forall_mem_singleton.mpr (.cons rfl (.cons ?_ .nil))
  cases kind <;> rfl

mutual

theorem legible_lines : ∀ statement : Statement, statement.isWellFormed spell = true →
    ∀ line ∈ statement.lines, LegibleLine spell line
  | .output _ arguments, h => by
      have harguments := Expr.legible_argumentTokens (Bool.and_eq_true_iff.mp h).2
      exact List.forall_mem_singleton.mpr (.cons rfl harguments)
  | .input _ (.var name), h =>
      List.forall_mem_singleton.mpr (.cons rfl (.cons (isLegible_of_isName h) .nil))
  | .input _ (.prompt prompt), h =>
      List.forall_mem_singleton.mpr (.cons rfl (Expr.legible_tokens h).enclosed)
  | .assign _ name value, h => by
      obtain ⟨hname, hvalue⟩ := Bool.and_eq_true_iff.mp h
      exact List.forall_mem_singleton.mpr
        (.cons (isLegible_of_isName hname) (.cons rfl (Expr.legible_tokens hvalue)))
  | .choose _ branches otherwise, h => by
      simp only [Statement.isWellFormed, Bool.and_eq_true] at h
      obtain ⟨⟨-, hbranches⟩, hotherwise⟩ := h
      have hlines := legible_branchLines branches .nil hbranches
      have hlast : ∀ line ∈ (if otherwise.isEmpty then [] else
          [Token.word "else"] :: linesAll otherwise), LegibleLine spell line := by
        split
        · exact fun _ h => nomatch h
        · exact List.forall_mem_cons.mpr ⟨.cons rfl .nil, legible_linesAll otherwise hotherwise⟩
      rw [lines]
      exact List.forall_mem_append.mpr
        ⟨hlines, List.forall_mem_append.mpr ⟨hlast, legible_endOf .choice⟩⟩
  | .count _ name first last body, h => by
      simp only [Statement.isWellFormed, Bool.and_eq_true] at h
      obtain ⟨⟨⟨hname, hfirst⟩, hlast⟩, hbody⟩ := h
      have hbounds : Legible spell (first.tokens ++ .word "to" :: last.tokens) :=
        (Expr.legible_tokens hfirst).append (.cons rfl (Expr.legible_tokens hlast))
      have hlines := legible_linesAll body hbody
      rw [lines]
      exact List.forall_mem_cons.mpr
        ⟨.cons rfl (.cons (isLegible_of_isName hname) (.cons rfl hbounds)),
          List.forall_mem_append.mpr ⟨hlines, legible_endOf .loop⟩⟩
  | .iterate _ condition stopAt body, h => by
      obtain ⟨hcondition, hbody⟩ := Bool.and_eq_true_iff.mp h
      have hlines := legible_linesAll body hbody
      have hkeyword :
          (Token.word (if stopAt then "until" else "while")).isLegible spell = true := by
        cases stopAt <;> rfl
      rw [lines]
      exact List.forall_mem_cons.mpr
        ⟨.cons rfl (.cons hkeyword (Expr.legible_tokens hcondition)),
          List.forall_mem_append.mpr ⟨hlines, legible_endOf .loop⟩⟩

theorem legible_linesAll : ∀ statements : List Statement, areWellFormed spell statements = true →
    ∀ line ∈ linesAll statements, LegibleLine spell line
  | [], _ => fun _ h => nomatch h
  | statement :: statements, h => by
      obtain ⟨hstatement, hall⟩ := Bool.and_eq_true_iff.mp h
      rw [linesAll]
      exact List.forall_mem_append.mpr
        ⟨legible_lines statement hstatement, legible_linesAll statements hall⟩

theorem legible_branchLines : ∀ (branches : List (Expr × List Statement)) {opener : List Token},
    Legible spell opener → areBranchesWellFormed spell branches = true →
    ∀ line ∈ branchLines opener branches, LegibleLine spell line
  | [], _, _, _ => fun _ h => nomatch h
  | (condition, body) :: branches, opener, hopener, h => by
      simp only [areBranchesWellFormed, Bool.and_eq_true] at h
      obtain ⟨⟨hcondition, hbody⟩, hbranches⟩ := h
      have hheader := hopener.append (legible_conditionTokens hcondition)
      have hlines := legible_linesAll body hbody
      have helse : Legible spell [.word "else"] := .cons rfl .nil
      have hothers := legible_branchLines branches helse hbranches
      rw [branchLines]
      exact List.forall_mem_cons.mpr ⟨⟨List.append_ne_nil_of_right_ne_nil _ (List.cons_ne_nil _ _),
        hheader⟩, List.forall_mem_append.mpr ⟨hlines, hothers⟩⟩

end

end Statement

namespace Program

theorem lines_text {program : List Statement}
    (wellFormed : Statement.areWellFormed spell program = true) :
    Text.lines (text spell program).toList =
      (Statement.linesAll program).map (Token.layout spell) := by
  rw [text, String.toList_ofList]
  exact Token.lines_layout fun line hline =>
    (Statement.legible_linesAll program wellFormed line hline).2

theorem line_text {program : List Statement}
    (wellFormed : Statement.areWellFormed spell program = true) {statement : Statement}
    (h : statement ∈ Statement.withInnerAll (Statement.numberedAll 1 program)) :
    1 ≤ statement.line ∧ (Text.lines (text spell program).toList)[statement.line - 1]? =
      some (Token.layout spell statement.header) := by
  obtain ⟨hpositive, hheader⟩ := Statement.lines_getElem?_numberedAll h
  refine ⟨hpositive, ?_⟩
  rw [lines_text wellFormed, List.getElem?_map, hheader]
  rfl

/-- Reading undoes writing. A program that can be written and keeps the limits of the reader is
read back from its text, and each statement of it, those in others included, knows the line of the
text that its header is on. -/
theorem ofSource_text {program : List Statement}
    (wellFormed : Statement.areWellFormed spell program = true)
    (fit : Statement.allFit program maxNesting = true) :
    ofSource (text spell program) = .ok (Statement.numberedAll 1 program) ∧
      ∀ statement ∈ Statement.withInnerAll (Statement.numberedAll 1 program),
        1 ≤ statement.line ∧ (Text.lines (text spell program).toList)[statement.line - 1]? =
          some (Token.layout spell statement.header) := by
  have hscan := Line.ofTexts_layout (Statement.legible_linesAll program wellFormed) 1
  have hread := ofLines_numberedFrom wellFormed fit
  refine ⟨?_, fun statement h => line_text wellFormed h⟩
  rw [ofSource, Line.ofSource, lines_text wellFormed, hscan]
  exact hread

/-- A loop around a choice with all its parts, and a loop with nothing in it. -/
def nested : List Statement :=
  [.count 0 "i" (.number (.finite false 4503599627370496 (-52))) (.var "n")
    [.choose 0
      [(.binary .eq (.binary .sub (.var "i") (.binary .sub (.var "n") (.var "i"))) (.var "n"),
          [.output 0 [.text "a // b", .unary .neg (.unary .neg (.var "i"))]]),
        (.unary .not (.binary .or (.truth false) (.input (.text "?"))),
          [.input 0 (.prompt (.var "i")), .input 0 (.var "n")])]
      [.assign 0 "n" (.binary .mul (.binary .add (.var "n") (.var "i")) (.unary .neg (.var "i")))]],
    .iterate 0 (.truth true) true []]

theorem ofSource_text_nested :
    Statement.areWellFormed (fun _ => ['1']) nested = true ∧
      Statement.allFit nested maxNesting = true ∧
      ofSource (text (fun _ => ['1']) nested) = .ok (Statement.numberedAll 1 nested) ∧
      (Statement.withInnerAll (Statement.numberedAll 1 nested)).map Statement.line =
        [1, 2, 3, 5, 6, 8, 11] :=
  ⟨by decide +kernel, by decide, (ofSource_text (by decide +kernel) (by decide)).1, by decide⟩

end Program

end Pseudocode
