import Mathlib.Control.Monad.Basic
import Pseudocode.Proofs.Outline.Reading
import Pseudocode.Proofs.Printing.Source

/-!
Faults of form are reported at the earliest line. Up to the line before the reported one a source
can still become a program; with the reported one it can not, whatever comes after it. If an end is
missing the whole source can still become a program, and the reported line is that of the block that
has to end first.
-/

namespace Pseudocode

namespace Text

/-! ### Lines -/

theorem exists_of_mem_cutAfter {α : Type} [BEq α] [LawfulBEq α] {separator : α}
    {as piece : List α} (h : piece ∈ cutAfter separator as) :
    ∃ line, separator ∉ line ∧ (piece = line ∨ piece = line ++ [separator]) := by
  induction as generalizing piece with
  | nil => cases h
  | cons a rest ih =>
      rw [cutAfter] at h
      split at h
      · rename_i heq
        rcases List.mem_cons.mp h with rfl | h
        · exact ⟨[], List.not_mem_nil, .inr (by rw [beq_iff_eq.mp heq, List.nil_append])⟩
        · exact ih h
      · rename_i hne
        have hfirst {line : List α} (hline : separator ∉ line) : separator ∉ a :: line := by
          simpa [hline] using Ne.symm (by simpa using hne)
        split at h
        · obtain rfl := List.mem_singleton.mp h
          exact ⟨[a], hfirst List.not_mem_nil, .inl rfl⟩
        · rename_i first others hcut
          rcases List.mem_cons.mp h with rfl | h
          · obtain ⟨line, hline, hpiece⟩ := ih (hcut ▸ List.mem_cons_self)
            refine ⟨a :: line, hfirst hline, hpiece.imp (congrArg (a :: ·)) fun heq => ?_⟩
            rw [heq, List.cons_append]
          · exact ih (hcut ▸ List.mem_cons_of_mem _ h)

theorem noFeed_of_mem_lines {cs line : List Char} (h : line ∈ lines cs) : '\n' ∉ line := by
  obtain ⟨piece, hpiece, rfl⟩ := List.mem_map.mp h
  obtain ⟨line, hline, rfl | rfl⟩ := exists_of_mem_cutAfter hpiece
  · rw [lineOfPiece, if_neg]
    · exact hline
    · intro hlast
      exact hline (List.mem_of_getLast? (beq_iff_eq.mp hlast))
  · rw [lineOfPiece, if_pos (by simp), List.dropLast_concat, dropLastIf]
    split
    · exact fun hmem => hline ((List.dropLast_sublist line).subset hmem)
    · exact hline

/-- A text with the given lines. A carriage return at the end of a line is not lost, as another one
follows. -/
def ofLines (lines : List (List Char)) : List Char := lines.flatMap (· ++ ['\r', '\n'])

theorem lines_ofLines {texts : List (List Char)} (h : ∀ text ∈ texts, '\n' ∉ text) :
    lines (ofLines texts) = texts := by
  induction texts with
  | nil => rfl
  | cons text texts ih =>
      have hlines := ih fun text htext => h text (List.mem_cons_of_mem _ htext)
      have happend : ofLines (text :: texts) = text ++ '\r' :: '\n' :: ofLines texts := by
        simp [ofLines]
      rw [happend, lines_dos (h text List.mem_cons_self), hlines]

end Text

namespace Line

variable {n : Nat} {line : Line} {text : List Char} {texts before after : List (List Char)}
  {tokens : List Token} {lines front back : List Line}

/-- The line with some tokens, if there are any. -/
def ofTokens (n : Nat) (tokens : List Token) : List Line :=
  if tokens.isEmpty then [] else [⟨n, tokens⟩]

theorem ofTexts_cons_eq_ok : ofTexts n (text :: texts) = .ok lines ↔
    ∃ tokens others, Token.scan text = .ok tokens ∧ ofTexts (n + 1) texts = .ok others ∧
      lines = ofTokens n tokens ++ others := by
  rw [ofTexts]
  cases Token.scan text with
  | error complaint => simp
  | ok tokens =>
      cases ofTexts (n + 1) texts with
      | error fault => simp
      | ok others =>
          have hlines : (if tokens.isEmpty then others else ⟨n, tokens⟩ :: others) =
              ofTokens n tokens ++ others := by
            unfold ofTokens
            split <;> rfl
          show Except.ok _ = _ ↔ _
          rw [hlines]
          constructor
          · rintro ⟨⟩
            exact ⟨tokens, others, rfl, rfl, rfl⟩
          · rintro ⟨_, _, ⟨⟩, ⟨⟩, rfl⟩
            rfl

/-- Each line is scanned by itself. -/
theorem ofTexts_append_eq_ok : ofTexts n (before ++ after) = .ok lines ↔
    ∃ front back, ofTexts n before = .ok front ∧ ofTexts (n + before.length) after = .ok back ∧
      lines = front ++ back := by
  induction before generalizing n lines with
  | nil => simp [ofTexts]
  | cons text before ih =>
      have hlength : n + (text :: before).length = n + 1 + before.length := by
        rw [List.length_cons]
        omega
      rw [hlength, List.cons_append, ofTexts_cons_eq_ok]
      constructor
      · rintro ⟨tokens, others, hscan, hothers, rfl⟩
        obtain ⟨front, back, hfront, hback, rfl⟩ := ih.mp hothers
        exact ⟨_, back, ofTexts_cons_eq_ok.mpr ⟨tokens, front, hscan, hfront, rfl⟩, hback,
          (List.append_assoc ..).symm⟩
      · rintro ⟨_, back, hbefore, hback, rfl⟩
        obtain ⟨tokens, front, hscan, hfront, rfl⟩ := ofTexts_cons_eq_ok.mp hbefore
        exact ⟨tokens, _, hscan, ih.mpr ⟨front, back, hfront, hback, rfl⟩, List.append_assoc ..⟩

/-- Each line that is there was scanned from a text at its place. -/
theorem exists_text (h : ofTexts n texts = .ok (front ++ line :: back)) :
    ∃ before text after, texts = before ++ text :: after ∧ ofTexts n before = .ok front ∧
      line.number = n + before.length ∧ Token.scan text = .ok line.tokens ∧ line.tokens ≠ [] := by
  induction texts generalizing n front with
  | nil => simp [ofTexts] at h
  | cons text texts ih =>
      obtain ⟨tokens, others, hscan, hothers, hlines⟩ := ofTexts_cons_eq_ok.mp h
      unfold ofTokens at hlines
      split at hlines
      · rename_i hempty
        rw [List.nil_append] at hlines
        obtain ⟨before, found, after, rfl, hbefore, hnumber, hfound⟩ := ih (hlines ▸ hothers)
        refine ⟨text :: before, found, after, rfl, ?_, ?_, hfound⟩
        · refine ofTexts_cons_eq_ok.mpr ⟨tokens, front, hscan, hbefore, ?_⟩
          rw [ofTokens, if_pos hempty, List.nil_append]
        · rw [hnumber, List.length_cons]
          omega
      · rename_i hsome
        cases front with
        | nil =>
            obtain ⟨rfl, -⟩ := List.cons.inj hlines
            exact ⟨[], text, texts, rfl, rfl, rfl, hscan, by simpa using hsome⟩
        | cons first front =>
            obtain ⟨rfl, rfl⟩ := List.cons.inj hlines
            obtain ⟨before, found, after, rfl, hbefore, hnumber, hfound⟩ := ih hothers
            refine ⟨text :: before, found, after, rfl, ?_, ?_, hfound⟩
            · refine ofTexts_cons_eq_ok.mpr ⟨tokens, front, hscan, hbefore, ?_⟩
              rw [ofTokens, if_neg hsome]
              rfl
            · rw [hnumber, List.length_cons]
              omega

theorem ofSource_getElem? {source : String} (h : ofSource source = .ok lines)
    (hmem : line ∈ lines) :
    ∃ text tokens, 1 ≤ line.number ∧ (Text.lines source.toList)[line.number - 1]? = some text ∧
      Token.scan text = .ok tokens ∧ tokens ≠ [] := by
  obtain ⟨front, back, rfl⟩ := List.append_of_mem hmem
  obtain ⟨before, text, after, htexts, -, hnumber, hscan, hsome⟩ := exists_text h
  refine ⟨text, line.tokens, by omega, ?_, hscan, hsome⟩
  rw [htexts, hnumber, Nat.add_sub_cancel_left, List.getElem?_append_right (Nat.le_refl _),
    Nat.sub_self]
  rfl

end Line

namespace Outline

variable {spell : Binary64 → List Char}

theorem legible_closing (outline : Outline) :
    ∀ line ∈ outline.closing, Statement.LegibleLine spell line := by
  intro line hline
  obtain ⟨block, _, rfl⟩ := List.mem_map.mp hline
  exact Statement.legible_endOf block.kind _ List.mem_cons_self

end Outline

namespace Program

open Outline

variable {outline : Outline} {source other : String} {texts : List (List Char)}
  {lines front : List Line} {fault : Fault}

theorem ofSource_eq (h : Line.ofSource source = .ok lines) :
    ofSource source = ofLines lines := by
  rw [ofSource, h, ok_bind]

theorem check_of_ofLines (h : ofLines lines = .error fault) : check [] lines = .error fault := by
  rw [← map_ofLines, h]
  rfl

theorem ofLines_of_check (h : check [] lines = .error fault) : ofLines lines = .error fault := by
  rw [← map_ofLines] at h
  cases hread : ofLines lines with
  | ok program =>
      rw [hread] at h
      cases h
  | error other =>
      rw [hread] at h
      cases h
      rfl

/-- Lines with nothing wrong can be completed to a program, by closing what is open. -/
theorem exists_completion (feed : ∀ text ∈ texts, '\n' ∉ text)
    (hscan : Line.ofTexts 1 texts = .ok lines) (hfollow : follow [] lines = .ok outline) :
    ∃ completed program, texts <+: Text.lines completed.toList ∧
      ofSource completed = .ok program := by
  let spell : Binary64 → List Char := fun _ => []
  let closers := outline.closing.map (Token.layout spell)
  have hclosers : Line.ofTexts (1 + texts.length) closers =
      .ok (Line.numberedFrom (1 + texts.length) outline.closing) :=
    Line.ofTexts_layout (legible_closing outline) _
  have hfeed : ∀ text ∈ texts ++ closers, '\n' ∉ text := by
    refine List.forall_mem_append.mpr ⟨feed, fun text htext => ?_⟩
    obtain ⟨line, hline, rfl⟩ := List.mem_map.mp htext
    exact (Token.oneLine_layout (legible_closing outline line hline).2).noFeed
  have hlines := Text.lines_ofLines hfeed
  have hlex : Line.ofTexts 1 (texts ++ closers) =
      .ok (lines ++ Line.numberedFrom (1 + texts.length) outline.closing) :=
    Line.ofTexts_append_eq_ok.mpr ⟨_, _, hscan, hclosers, rfl⟩
  have hcheck : check [] (lines ++ Line.numberedFrom (1 + texts.length) outline.closing) =
      .ok () := by
    rw [check_append hfollow, check, follow_closing]
    rfl
  let completed := String.ofList (Text.ofLines (texts ++ closers))
  have htoList : completed.toList = Text.ofLines (texts ++ closers) := String.toList_ofList
  have hsource : Line.ofSource completed =
      .ok (lines ++ Line.numberedFrom (1 + texts.length) outline.closing) := by
    rw [Line.ofSource, htoList, hlines, hlex]
  rw [← map_ofLines, ← ofSource_eq hsource] at hcheck
  cases hprogram : ofSource completed with
  | error fault =>
      rw [hprogram] at hcheck
      cases hcheck
  | ok program =>
      refine ⟨completed, program, ?_, hprogram⟩
      rw [htoList, hlines]
      exact List.prefix_append _ _

/-- What goes wrong in a line goes wrong in every source with the same lines up to it. -/
theorem ofSource_eq_error {before : List (List Char)} {text : List Char} {line : Line}
    (hbegins : before ++ [text] <+: Text.lines other.toList)
    (hlex : Line.ofSource other = .ok lines) (hbefore : Line.ofTexts 1 before = .ok front)
    (hplace : line.number = 1 + before.length)
    (hscan : Token.scan text = .ok line.tokens) (hsome : line.tokens ≠ [])
    (hfollow : follow [] front = .ok outline) (henter : line.enter outline = .error fault) :
    ofSource other = .error fault := by
  obtain ⟨rest, hrest⟩ := hbegins
  have hlines := hlex
  rw [Line.ofSource, ← hrest, List.append_assoc, List.singleton_append] at hlines
  obtain ⟨front', back, hfront, hback, rfl⟩ := Line.ofTexts_append_eq_ok.mp hlines
  obtain ⟨tokens, others, htokens, -, rfl⟩ := Line.ofTexts_cons_eq_ok.mp hback
  obtain rfl : front = front' := Except.ok.inj (hbefore.symm.trans hfront)
  obtain rfl : line.tokens = tokens := Except.ok.inj (hscan.symm.trans htokens)
  have hline : Line.ofTokens (1 + before.length) line.tokens = [line] := by
    rw [Line.ofTokens, if_neg (by simpa using hsome), ← hplace]
  rw [hline, List.singleton_append] at hlex
  rw [ofSource_eq hlex]
  exact ofLines_of_check (check_eq_error_of_enter hfollow henter others)

/-- Whether `other` begins with the first `n` lines of `source`. -/
def BeginsAs (n : Nat) (source other : String) : Prop :=
  (Text.lines source.toList).take n <+: Text.lines other.toList

/-- A fault of form is reported at the earliest line. The line has tokens. If what is wrong is not
that an end is missing, the lines before it can be completed to a program, and every source with the
same lines up to it has the same fault. If an end is missing, all the lines can be completed to a
program, and the line is that of the opener of the innermost block that is open at the end. -/
theorem fault_at_earliest_line (hlex : Line.ofSource source = .ok lines)
    (hfault : ofSource source = .error fault) :
    ∃ complaint, fault.cause = .malformed complaint ∧
      (∃ text tokens, 1 ≤ fault.line ∧
        (Text.lines source.toList)[fault.line - 1]? = some text ∧
        Token.scan text = .ok tokens ∧ tokens ≠ []) ∧
      ((∀ kind, complaint ≠ .missingEnd kind) →
        (∃ completed program, BeginsAs (fault.line - 1) source completed ∧
          ofSource completed = .ok program) ∧
        ∀ other lines', BeginsAs fault.line source other → Line.ofSource other = .ok lines' →
          ofSource other = .error fault) ∧
      ∀ kind, complaint = .missingEnd kind →
        (∃ completed program, Text.lines source.toList <+: Text.lines completed.toList ∧
          ofSource completed = .ok program) ∧
        (lines.foldl Line.nest []).head? = some (kind, fault.line) := by
  rw [ofSource_eq hlex] at hfault
  have hfeed : ∀ text ∈ Text.lines source.toList, '\n' ∉ text :=
    fun _ => Text.noFeed_of_mem_lines
  rcases check_eq_error (check_of_ofLines hfault) with
    ⟨front, line, back, outline, rfl, hfollow, henter⟩ | ⟨block, outer, hfollow, rfl⟩
  · obtain ⟨hnumber, complaint, hcause, hofLine⟩ := Line.isBlamed_enter henter
    obtain ⟨before, text, after, htexts, hbefore, hplace, hscan, hsome⟩ := Line.exists_text hlex
    have hmem : line ∈ front ++ line :: back := List.mem_append_right _ List.mem_cons_self
    refine ⟨complaint, hcause, hnumber ▸ Line.ofSource_getElem? hlex hmem,
      fun _ => ⟨?_, fun other lines' hbegins hlex' => ?_⟩, fun kind hkind => ?_⟩
    · have htake : (Text.lines source.toList).take (fault.line - 1) = before := by
        rw [htexts, hnumber, hplace, Nat.add_sub_cancel_left, List.take_left]
      simp only [BeginsAs, htake]
      refine exists_completion (fun text htext => hfeed text ?_) hbefore hfollow
      rw [htexts]
      exact List.mem_append_left _ htext
    · have htake : (Text.lines source.toList).take fault.line = before ++ [text] := by
        rw [htexts, hnumber, hplace, ← List.singleton_append, ← List.append_assoc]
        exact List.take_left' (by simp [Nat.add_comm])
      rw [BeginsAs, htake] at hbegins
      exact ofSource_eq_error hbegins hlex' hbefore hplace hscan hsome hfollow henter
    · rw [hkind] at hofLine
      cases hofLine
  · have hopened := foldl_nest_of_follow hfollow
    have hopener : (block.kind, block.line) ∈ lines.foldl Line.nest [] := by
      rw [show lines.foldl Line.nest [] = _ from hopened]
      exact List.mem_cons_self
    obtain ⟨line, hmem, hnumber⟩ := (Line.mem_foldl_nest hopener).resolve_left List.not_mem_nil
    refine ⟨_, rfl, ?_, fun hother => (hother block.kind rfl).elim, fun kind hkind => ?_⟩
    · have hline := Line.ofSource_getElem? hlex hmem
      rwa [← hnumber] at hline
    · cases hkind
      refine ⟨exists_completion hfeed hlex hfollow, ?_⟩
      rw [show lines.foldl Line.nest [] = _ from hopened]
      rfl

/-- The third line ends a loop in place of the choice. -/
def crossed : String := "if true then\n  // nothing\nend loop\noutput x"

/-- The choice in the loop comes to no end, and neither does the loop. -/
def unended : String := "loop while true\nif true then\nelse\noutput x"

theorem fault_at_earliest_line_crossed :
    (ofSource crossed = .error ⟨3, .malformed (.expectedEnd .choice)⟩ ∧
      (∃ completed program, BeginsAs 2 crossed completed ∧ ofSource completed = .ok program) ∧
      ∀ other lines', BeginsAs 3 crossed other → Line.ofSource other = .ok lines' →
        ofSource other = .error ⟨3, .malformed (.expectedEnd .choice)⟩) ∧
    (ofSource unended = .error ⟨2, .malformed (.missingEnd .choice)⟩ ∧
      ∃ completed program, Text.lines unended.toList <+: Text.lines completed.toList ∧
        ofSource completed = .ok program) := by
  have hcrossed : Line.ofSource crossed = .ok [⟨1, [.word "if", .word "true", .word "then"]⟩,
      ⟨3, [.word "end", .word "loop"]⟩, ⟨4, [.word "output", .word "x"]⟩] := by
    decide +kernel
  have hunended : Line.ofSource unended = .ok [⟨1, [.word "loop", .word "while", .word "true"]⟩,
      ⟨2, [.word "if", .word "true", .word "then"]⟩, ⟨3, [.word "else"]⟩,
      ⟨4, [.word "output", .word "x"]⟩] := by
    decide +kernel
  have hcrossedFault : ofSource crossed = .error ⟨3, .malformed (.expectedEnd .choice)⟩ := by
    rw [ofSource_eq hcrossed]
    rfl
  have hunendedFault : ofSource unended = .error ⟨2, .malformed (.missingEnd .choice)⟩ := by
    rw [ofSource_eq hunended]
    rfl
  obtain ⟨_, hcause, -, hearliest, -⟩ := fault_at_earliest_line hcrossed hcrossedFault
  obtain ⟨_, hcause', -, -, hmissing⟩ := fault_at_earliest_line hunended hunendedFault
  cases hcause
  cases hcause'
  exact ⟨⟨hcrossedFault, hearliest (by simp)⟩, hunendedFault, (hmissing .choice rfl).1⟩

end Program

end Pseudocode
