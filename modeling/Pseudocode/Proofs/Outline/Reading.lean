import Pseudocode.Proofs.Outline
import Pseudocode.Proofs.Printing.Block

/-!
The reader of programs against the outline. The reader recurses into the blocks, while `check` takes
the lines one after the other; but both find the same fault, or none. So the fault of a program is
always that of the first line at which the outline finds one.
-/

namespace Pseudocode

namespace Outline

variable {α β : Type} {outline after : Outline} {line : Line} {lines rest last : List Line}
  {block : OpenBlock} {outer : List OpenBlock} {fault : Fault}

/-- Whether one can go on from one place to another, with nothing wrong in between. -/
structure Advances (outline : Outline) (lines : List Line) (after : Outline) (rest : List Line) :
    Prop where
  check : check outline lines = check after rest
  length : rest.length ≤ lines.length

namespace Advances

theorem refl (outline : Outline) (lines : List Line) : Advances outline lines outline lines :=
  ⟨rfl, Nat.le_refl _⟩

theorem trans {final : Outline} (first : Advances outline lines after rest)
    (next : Advances after rest final last) : Advances outline lines final last :=
  ⟨first.check.trans next.check, Nat.le_trans next.length first.length⟩

theorem enter (h : line.enter outline = .ok after) (rest : List Line) :
    Advances outline (line :: rest) after rest where
  check := by
    rw [check_cons, h]
    rfl
  length := Nat.le_succ _

end Advances

/-- Whether a reader gives what is expected, or else the fault that is found where it begins. -/
def Agrees (outline : Outline) (lines : List Line) (expected : α → Prop) : Except Fault α → Prop
  | .ok a => expected a
  | .error fault => check outline lines = .error fault

namespace Agrees

variable {expected : α → Prop} {expected' : β → Prop} {read : Except Fault α}

theorem bind {next : α → Except Fault β} (first : Agrees outline lines expected read)
    (h : ∀ a, expected a → Agrees outline lines expected' (next a)) :
    Agrees outline lines expected' (read >>= next) := by
  cases read with
  | ok a => exact h a first
  | error fault => exact first

/-- A fault that is found further on is found. -/
theorem of_advances (advances : Advances outline lines after rest)
    (h : Agrees after rest expected read) : Agrees outline lines expected read := by
  cases read with
  | ok a => exact h
  | error fault => exact advances.check.trans h

theorem of_enter_error (h : line.enter outline = .error fault) (rest : List Line) :
    Agrees outline (line :: rest) expected (.error fault) := by
  show check outline (line :: rest) = .error fault
  rw [check_cons, h]
  rfl

/-- A line of which the outline needs only that a part of it can be read. -/
theorem located {part : Except Complaint α}
    (h : line.enter outline = line.located part >>= fun _ => .ok after) (rest : List Line) :
    Agrees outline (line :: rest) (fun _ => line.enter outline = .ok after)
      (line.located part) := by
  cases part with
  | ok a => exact h
  | error complaint => exact of_enter_error h rest

end Agrees

/-! ### Ends of blocks -/

theorem endsBlock_iff : line.endsBlock = true ↔
    (∃ tokens, line.tokens = .word "end" :: tokens) ∨
      ∃ tokens, line.tokens = .word "else" :: tokens := by
  unfold Line.endsBlock
  split <;> simp_all

/-- Whether the lines go on with one that ends the block, be it the right one or not. -/
def EndsWith (block : OpenBlock) (lines : List Line) : Prop :=
  ∀ line ∈ lines.head?, (∃ tokens, line.tokens = .word "end" :: tokens) ∨
    block.branching = false ∧ ∃ tokens, line.tokens = .word "else" :: tokens

theorem endsWith_of_ended (ended : Statement.Ended lines) (last : block.branching = false) :
    EndsWith block lines := fun line hline =>
  (endsBlock_iff.mp (ended line hline)).imp_right fun tokens => ⟨last, tokens⟩

theorem agrees_readEnd (ends : EndsWith block lines) :
    Agrees (block :: outer) lines (Advances (block :: outer) lines outer)
      (Statement.readEnd block.kind block.line lines) := by
  cases lines with
  | nil => rfl
  | cons line rest =>
      have henter : line.enter (block :: outer) =
          if line.tokens == [.word "end", .word block.kind.keyword] then .ok outer
          else line.fault (.expectedEnd block.kind) := by
        rcases ends line rfl with ⟨tokens, htokens⟩ | ⟨last, tokens, htokens⟩
        · rw [Line.enter_end htokens]
          rfl
        · rw [Line.enter_else htokens]
          simp [Line.beginBranch, last, htokens]
      rw [Statement.readEnd]
      split
      · rw [if_pos ‹_›] at henter
        exact .enter henter rest
      · rw [if_neg ‹_›] at henter
        exact .of_enter_error henter rest

/-! ### Blocks -/

/-- Whether a reader reads blocks as the outline has them, when these are open around them. -/
def ReadsBlocks (outline : Outline) (block : BlockReader) : Prop :=
  ∀ lines, Agrees outline lines
    (fun p => Advances outline lines outline p.2 ∧ Statement.Ended p.2) (block lines)

/-- Whether the branches are behind of a choice that was opened at line `n`. Perhaps it can have
no more of them. -/
def PastBranches (outer : Outline) (n : Nat) (lines rest : List Line) : Prop :=
  ∃ branching,
    Advances (⟨.choice, n, true⟩ :: outer) lines (⟨.choice, n, branching⟩ :: outer) rest ∧
      EndsWith ⟨.choice, n, branching⟩ rest

theorem agrees_readBranches {reader : BlockReader} {n : Nat}
    (reads : ∀ branching, ReadsBlocks (⟨.choice, n, branching⟩ :: outer) reader) (passes : Nat) :
    ∀ lines, lines.length ≤ passes → Statement.Ended lines →
      Agrees (⟨.choice, n, true⟩ :: outer) lines (fun p => PastBranches outer n lines p.2.2)
        (Statement.readBranches reader passes lines) := by
  have hnil (passes : Nat) : Agrees (⟨.choice, n, true⟩ :: outer) []
      (fun p => PastBranches outer n [] p.2.2) (Statement.readBranches reader passes []) := by
    have hread : Statement.readBranches reader passes [] = .ok ([], [], []) := by
      cases passes <;> rfl
    rw [hread]
    exact ⟨true, .refl _ _, fun _ h => nomatch h⟩
  induction passes with
  | zero =>
      intro lines enough _
      rw [List.length_eq_zero_iff.mp (Nat.le_zero.mp enough)]
      exact hnil 0
  | succ passes ih =>
      intro lines enough ended
      cases lines with
      | nil => exact hnil _
      | cons line rest =>
          have hrest : rest.length ≤ passes := Nat.le_of_succ_le_succ enough
          rw [Statement.readBranches]
          split
          · rename_i tokens htokens
            refine (Agrees.located (Line.enter_else htokens) rest).bind fun condition henter => ?_
            have hadvances := Advances.enter henter rest
            refine .of_advances hadvances ((reads true rest).bind fun p hbody => ?_)
            have hpasses := Nat.le_trans hbody.1.length hrest
            refine .of_advances hbody.1 ((ih p.2 hpasses hbody.2).bind fun q hothers => ?_)
            obtain ⟨branching, hbranches, hends⟩ := hothers
            exact ⟨branching, (hadvances.trans hbody.1).trans hbranches, hends⟩
          · rename_i htokens
            have henter : line.enter (⟨.choice, n, true⟩ :: outer) =
                .ok (⟨.choice, n, false⟩ :: outer) := Line.enter_else htokens
            have hadvances := Advances.enter henter rest
            refine .of_advances hadvances ((reads false rest).bind fun p hlast => ?_)
            exact ⟨false, hadvances.trans hlast.1, endsWith_of_ended hlast.2 rfl⟩
          · rename_i tokens hif hlast htokens
            refine .of_enter_error ((Line.enter_else htokens).trans ?_) rest
            simp only [Line.beginBranch, if_true]
            rfl
          · rename_i hif hlast hother
            refine ⟨true, .refl _ _, fun other hline => .inl ?_⟩
            obtain rfl := Option.some.inj hline
            exact (endsBlock_iff.mp (ended line rfl)).resolve_right fun ⟨tokens, htokens⟩ =>
              hother tokens htokens

/-- Whether a statement is behind that begins with `line`, the outline being as it was. -/
def PastStatement (outline : Outline) (line : Line) (rest last : List Line) : Prop :=
  ∃ after, line.enter outline = .ok after ∧ Advances after rest outline last

theorem agrees_readChoice {reader : BlockReader} {tokens : List Token}
    (reads : ∀ branching, ReadsBlocks (⟨.choice, line.number, branching⟩ :: outline) reader)
    (room : outline.length < maxNesting) (htokens : line.tokens = .word "if" :: tokens)
    (rest : List Line) :
    Agrees outline (line :: rest) (fun p => PastStatement outline line rest p.2)
      (Statement.readChoice reader line tokens rest) := by
  have henter := (Line.enter_if htokens).trans (if_pos room)
  refine (Agrees.located henter rest).bind fun condition henter => ?_
  refine .of_advances (.enter henter rest) ((reads true rest).bind fun p hbody => ?_)
  have hbranches := agrees_readBranches reads p.2.length p.2 (Nat.le_refl _) hbody.2
  refine .of_advances hbody.1 (hbranches.bind fun q hq => ?_)
  obtain ⟨branching, hbranches, hends⟩ := hq
  refine .of_advances hbranches ((agrees_readEnd hends).bind fun last hend => ?_)
  exact ⟨_, henter, (hbody.1.trans hbranches).trans hend⟩

theorem agrees_readLoop {reader : BlockReader} {tokens : List Token}
    (reads : ReadsBlocks (⟨.loop, line.number, false⟩ :: outline) reader)
    (room : outline.length < maxNesting) (htokens : line.tokens = .word "loop" :: tokens)
    (rest : List Line) :
    Agrees outline (line :: rest) (fun p => PastStatement outline line rest p.2)
      (Statement.readLoop reader line tokens rest) := by
  have henter := (Line.enter_loop htokens).trans (if_pos room)
  refine (Agrees.located henter rest).bind fun header henter => ?_
  refine .of_advances (.enter henter rest) ((reads rest).bind fun p hbody => ?_)
  have hends : EndsWith ⟨.loop, line.number, false⟩ p.2 := endsWith_of_ended hbody.2 rfl
  refine .of_advances hbody.1 ((agrees_readEnd hends).bind fun last hend => ?_)
  exact ⟨_, henter, hbody.1.trans hend⟩

/-- Whether the line neither begins nor ends a block or a branch. -/
def IsSimple (line : Line) : Prop :=
  ∀ word ∈ ["end", "else", "if", "loop"], ∀ tokens, line.tokens ≠ .word word :: tokens

theorem IsSimple.enter (simple : IsSimple line) (outline : Outline) :
    line.enter outline = Statement.read none line [] >>= fun _ => .ok outline := by
  unfold Line.enter
  split
  · exact (simple "end" (by simp) _ ‹_›).elim
  · exact (simple "else" (by simp) _ ‹_›).elim
  · exact (simple "if" (by simp) _ ‹_›).elim
  · exact (simple "loop" (by simp) _ ‹_›).elim
  · rfl

/-- A statement of one line leaves the lines after it alone. -/
theorem IsSimple.read (simple : IsSimple line) (block? : Option BlockReader) (rest : List Line) :
    Statement.read block? line rest =
      (Statement.read none line []).map fun p => (p.1, rest) := by
  unfold Statement.read
  split
  · cases line.located (Statement.readArguments _) <;> rfl
  · cases line.located (Statement.readTarget _) <;> rfl
  · exact (simple "if" (by simp) _ ‹_›).elim
  · exact (simple "loop" (by simp) _ ‹_›).elim
  · split
    · rfl
    · cases line.located (Expr.readAll _) <;> rfl
  · rfl

theorem agrees_read {room : Nat} (hroom : outline.length + room = maxNesting)
    (reads : ∀ block, Statement.blockWithin room = some block →
      ∀ opened, ReadsBlocks (opened :: outline) block)
    (starts : line.endsBlock = false) (rest : List Line) :
    Agrees outline (line :: rest) (fun p => PastStatement outline line rest p.2)
      (Statement.read (Statement.blockWithin room) line rest) := by
  have hdeep (h : room = 0) : ¬ outline.length < maxNesting := by omega
  by_cases hif : ∃ tokens, line.tokens = .word "if" :: tokens
  · obtain ⟨tokens, htokens⟩ := hif
    simp only [Statement.read, htokens]
    cases room with
    | zero => exact .of_enter_error ((Line.enter_if htokens).trans (if_neg (hdeep rfl))) rest
    | succ room =>
        have hlimit : outline.length < maxNesting := by omega
        exact agrees_readChoice (fun _ => reads _ rfl _) hlimit htokens rest
  by_cases hloop : ∃ tokens, line.tokens = .word "loop" :: tokens
  · obtain ⟨tokens, htokens⟩ := hloop
    simp only [Statement.read, htokens]
    cases room with
    | zero => exact .of_enter_error ((Line.enter_loop htokens).trans (if_neg (hdeep rfl))) rest
    | succ room =>
        have hlimit : outline.length < maxNesting := by omega
        exact agrees_readLoop (reads _ rfl _) hlimit htokens rest
  have hstarts := mt endsBlock_iff.mpr (by simpa using starts)
  have simple : IsSimple line := by
    simp only [IsSimple, List.mem_cons, List.not_mem_nil, or_false]
    rintro word (rfl | rfl | rfl | rfl) tokens htokens
    · exact hstarts (.inl ⟨tokens, htokens⟩)
    · exact hstarts (.inr ⟨tokens, htokens⟩)
    · exact hif ⟨tokens, htokens⟩
    · exact hloop ⟨tokens, htokens⟩
  have henter := simple.enter outline
  rw [simple.read]
  cases hread : Statement.read none line [] with
  | ok p =>
      rw [hread] at henter
      exact ⟨outline, henter, .refl _ _⟩
  | error fault =>
      rw [hread] at henter
      exact .of_enter_error henter rest

theorem agrees_readMany {room : Nat} (hroom : outline.length + room = maxNesting)
    (reads : ∀ block, Statement.blockWithin room = some block →
      ∀ opened, ReadsBlocks (opened :: outline) block) (passes : Nat) :
    ∀ lines, lines.length ≤ passes → Agrees outline lines
      (fun p => Advances outline lines outline p.2 ∧ Statement.Ended p.2)
      (Statement.readMany (Statement.blockWithin room) passes lines) := by
  induction passes with
  | zero =>
      intro lines enough
      rw [List.length_eq_zero_iff.mp (Nat.le_zero.mp enough)]
      exact ⟨.refl _ _, .nil⟩
  | succ passes ih =>
      intro lines enough
      cases lines with
      | nil => exact ⟨.refl _ _, .nil⟩
      | cons line rest =>
          rw [Statement.readMany]
          split
          · exact ⟨.refl _ _, .cons ‹_›⟩
          · rename_i starts
            have hread := agrees_read hroom reads (by simpa using starts) rest
            refine hread.bind fun p hp => ?_
            obtain ⟨after, henter, hstatement⟩ := hp
            have hadvances := (Advances.enter henter rest).trans hstatement
            have hpasses := Nat.le_trans hstatement.length (Nat.le_of_succ_le_succ enough)
            refine .of_advances hadvances ((ih p.2 hpasses).bind fun q hq => ?_)
            exact ⟨hadvances.trans hq.1, hq.2⟩

/-- The blocks within `room` levels are read, whatever is open around them. -/
theorem readsBlocks_readBlock (room : Nat) : ∀ outline : Outline,
    outline.length + room = maxNesting → ReadsBlocks outline (Statement.readBlock room) := by
  induction room with
  | zero =>
      intro outline hroom lines
      rw [Statement.readBlock_eq]
      exact agrees_readMany hroom (fun _ h => nomatch h) lines.length lines (Nat.le_refl _)
  | succ room ih =>
      intro outline hroom lines
      rw [Statement.readBlock_eq]
      refine agrees_readMany hroom (fun block hblock opened => ?_) lines.length lines
        (Nat.le_refl _)
      obtain rfl := Option.some.inj hblock
      refine ih (opened :: outline) ?_
      rw [List.length_cons]
      omega

/-- The reader of programs finds the fault that the outline finds, or none if it finds none. -/
theorem map_ofLines (lines : List Line) :
    (Program.ofLines lines).map (fun _ => ()) = check [] lines := by
  have hblock := readsBlocks_readBlock maxNesting [] (Nat.zero_add _) lines
  rw [Program.ofLines]
  cases hread : Statement.readBlock maxNesting lines with
  | error fault =>
      rw [hread] at hblock
      exact Eq.symm hblock
  | ok p =>
      obtain ⟨statements, rest⟩ := p
      rw [hread] at hblock
      obtain ⟨hadvances, ended⟩ := hblock
      rw [hadvances.check, ok_bind]
      cases rest with
      | nil => rfl
      | cons line rest =>
          -- What ends a block ends none here.
          have henter : line.enter [] = line.fault .unexpectedTerminator := by
            rcases endsBlock_iff.mp (ended line rfl) with ⟨tokens, htokens⟩ | ⟨tokens, htokens⟩
            · rw [Line.enter_end htokens]
              rfl
            · rw [Line.enter_else htokens]
              rfl
          rw [check_cons, henter]
          rfl

end Outline

end Pseudocode
