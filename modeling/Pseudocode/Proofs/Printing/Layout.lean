import Pseudocode.Proofs.Lexing
import Pseudocode.Proofs.Printing.Program

/-!
The text of a program is cut into the lines that were written, and each is scanned into its tokens,
as they are written as lexemes with blanks between. So reading the source of a written program gives
the program.
-/

namespace Pseudocode

namespace Text

theorem cutAfter_append {α : Type} [BEq α] [LawfulBEq α] {separator : α} {line : List α}
    (h : separator ∉ line) (rest : List α) :
    cutAfter separator (line ++ separator :: rest) =
      (line ++ [separator]) :: cutAfter separator rest := by
  induction line with
  | nil =>
      rw [List.nil_append, cutAfter, if_pos (beq_self_eq_true separator)]
      rfl
  | cons a line ih =>
      obtain ⟨hne, hline⟩ := not_or.mp (mt List.mem_cons.mpr h)
      rw [List.cons_append, cutAfter, if_neg (by simpa using Ne.symm hne), ih hline]
      rfl

theorem lines_unix {line : List Char} (feed : '\n' ∉ line) (rest : List Char) :
    lines (line ++ '\n' :: rest) = dropLastIf '\r' line :: lines rest := by
  rw [lines, cutAfter_append feed, List.map_cons, lineOfPiece, if_pos (by simp),
    List.dropLast_concat]
  rfl

theorem lines_dos {line : List Char} (feed : '\n' ∉ line) (rest : List Char) :
    lines (line ++ '\r' :: '\n' :: rest) = line :: lines rest := by
  have hfeed : '\n' ∉ line ++ ['\r'] := by simpa using feed
  have hunix := lines_unix hfeed rest
  rw [dropLastIf, if_pos (by simp), List.dropLast_concat, List.append_assoc] at hunix
  exact hunix

/-- Whether a text is one line, and keeps all its characters as one. -/
structure OneLine (text : List Char) : Prop where
  noFeed : '\n' ∉ text
  noReturn : text.getLast? ≠ some '\r'

namespace OneLine

theorem of_all {p : Char → Bool} {text : List Char} (h : text.all p = true)
    (feed : p '\n' = false) (carriage : p '\r' = false) : OneLine text := by
  refine ⟨fun hfeed => ?_, fun hreturn => ?_⟩
  · exact absurd (List.all_eq_true.mp h _ hfeed) (by simp [feed])
  · exact absurd (List.all_eq_true.mp h _ (List.mem_of_getLast? hreturn)) (by simp [carriage])

theorem append_blank {text text' : List Char} (h : OneLine text) (h' : OneLine text') :
    OneLine (text ++ ' ' :: text') := by
  refine ⟨?_, ?_⟩
  · simp [h.noFeed, h'.noFeed]
  · cases text' with
    | nil => simp
    | cons c text' => simpa using h'.noReturn

end OneLine

/-- The lines of a text that was written line by line. -/
theorem lines_flatMap {texts : List (List Char)}
    (h : ∀ text ∈ texts, OneLine text) :
    lines (texts.flatMap (· ++ ['\n'])) = texts := by
  induction texts with
  | nil => rfl
  | cons text texts ih =>
      obtain ⟨hfeed, hreturn⟩ := h text List.mem_cons_self
      have hlines := ih fun text htext => h text (List.mem_cons_of_mem _ htext)
      rw [List.flatMap_cons, List.append_assoc, List.singleton_append, lines_unix hfeed, dropLastIf,
        if_neg (by simpa using hreturn), hlines]

end Text

namespace Token

variable (spell : Binary64 → List Char)

def Legible (tokens : List Token) : Prop :=
  ∀ token ∈ tokens, token.isLegible spell = true

variable {spell} {token : Token}

theorem spelling_mem_spellings (s : Symbol) : s.spelling ∈ s.spellings := by
  cases s <;> decide

/-- A legible token is written as a lexeme. -/
theorem exists_lexeme_spelling (legible : token.isLegible spell = true) :
    ∃ first : Lexeme, first.token = token ∧ first.chars = token.spelling spell := by
  cases token with
  | number n =>
      simp only [isLegible, Bool.and_eq_true, beq_iff_eq] at legible
      obtain ⟨⟨-, hall⟩, hvalue⟩ := legible
      have hchars := List.all_eq_true.mp hall
      have hnumeral := (Decimal.isSome_read hchars).mp (by rw [hvalue]; rfl)
      refine ⟨.number (spell n) hnumeral, ?_, rfl⟩
      simp [Lexeme.token, hvalue]
  | text s =>
      obtain ⟨hquote, hfeed⟩ := Bool.and_eq_true_iff.mp legible
      refine ⟨.text s.toList (by simpa using hquote) (by simpa using hfeed), ?_, rfl⟩
      rw [Lexeme.token, String.ofList_toList]
  | word w =>
      simp only [isLegible, isWord] at legible
      cases hspelling : w.toList with
      | nil => simp [hspelling] at legible
      | cons c cs =>
          rw [hspelling] at legible
          obtain ⟨hc, hcs⟩ := Bool.and_eq_true_iff.mp legible
          refine ⟨.word c cs hc (List.all_eq_true.mp hcs), ?_, hspelling.symm⟩
          rw [Lexeme.token, ← hspelling, String.ofList_toList]
  | symbol s => exact ⟨.symbol s s.spelling (spelling_mem_spellings s), rfl, rfl⟩

theorem laid_layout {tokens : List Token} (legible : Legible spell tokens) :
    ∃ lexemes, lexemes.map Lexeme.token = tokens ∧ Laid Spaced lexemes (layout spell tokens) := by
  have hgap : ∀ c ∈ ([] : List Char), Text.isBlank c = true := List.forall_mem_nil _
  induction tokens with
  | nil => exact ⟨[], rfl, .ending (.blanks hgap)⟩
  | cons token tokens ih =>
      obtain ⟨first, htoken, hchars⟩ := exists_lexeme_spelling (legible token List.mem_cons_self)
      obtain ⟨lexemes, htokens, hlaid⟩ :=
        ih fun token htoken => legible token (List.mem_cons_of_mem _ htoken)
      refine ⟨first :: lexemes, by rw [List.map_cons, htoken, htokens], ?_⟩
      cases tokens with
      | nil =>
          have hspaced : Spaced first [] := fun _ h => nomatch h
          have hline : Laid Spaced _ ([] ++ (first.chars ++ [])) := .lexeme hgap hspaced hlaid
          rwa [List.append_nil, hchars] at hline
      | cons token' tokens =>
          have hspaced : Spaced first (' ' :: layout spell (token' :: tokens)) := by
            rintro c ⟨⟩
            decide
          have hline : Laid Spaced _ ([] ++ (first.chars ++ _)) :=
            .lexeme hgap hspaced (hlaid.blank (by decide))
          rwa [hchars] at hline

theorem scan_layout {tokens : List Token} (legible : Legible spell tokens) :
    scan (layout spell tokens) = .ok tokens := by
  obtain ⟨lexemes, rfl, hlaid⟩ := laid_layout legible
  exact scan_laid (hlaid.mono longest_of_spaced)

/-! ### Line breaks -/

theorem oneLine_spelling (legible : token.isLegible spell = true) :
    Text.OneLine (token.spelling spell) := by
  cases token with
  | number n =>
      simp only [isLegible, Bool.and_eq_true] at legible
      exact .of_all legible.1.2 (by decide) (by decide)
  | text s =>
      -- A text may end with a carriage return, but its spelling ends with a quote.
      have hfeed := (Bool.and_eq_true_iff.mp legible).2
      refine ⟨?_, ?_⟩
      · simpa [spelling] using hfeed
      · rw [spelling, ← List.cons_append, List.getLast?_concat]
        decide
  | word w =>
      simp only [isLegible, isWord] at legible
      rw [spelling]
      cases hspelling : w.toList with
      | nil => simp [hspelling] at legible
      | cons c cs =>
          rw [hspelling] at legible
          obtain ⟨hc, hcs⟩ := Bool.and_eq_true_iff.mp legible
          have hall : (c :: cs).all continuesWord = true :=
            Bool.and_eq_true_iff.mpr ⟨continuesWord_of_startsWord hc, hcs⟩
          exact .of_all hall (by decide) (by decide)
  | symbol s =>
      show Text.OneLine s.spelling
      cases s <;> exact ⟨by decide, by decide⟩

theorem oneLine_layout {tokens : List Token}
    (legible : Legible spell tokens) :
    Text.OneLine (layout spell tokens) := by
  induction tokens with
  | nil =>
      show Text.OneLine []
      exact ⟨by decide, by decide⟩
  | cons token tokens ih =>
      have htoken := oneLine_spelling (legible token List.mem_cons_self)
      have hothers := ih fun token htoken => legible token (List.mem_cons_of_mem _ htoken)
      cases tokens with
      | nil => exact htoken
      | cons token' tokens => exact htoken.append_blank hothers

/-- A text that was laid out line by line is cut into the layouts. -/
theorem lines_layout {lines : List (List Token)} (h : ∀ line ∈ lines, Legible spell line) :
    Text.lines (lines.flatMap fun line => layout spell line ++ ['\n']) =
      lines.map (layout spell) := by
  have hlines : Text.lines ((lines.map (layout spell)).flatMap (· ++ ['\n'])) =
      lines.map (layout spell) := by
    refine Text.lines_flatMap fun text htext => ?_
    obtain ⟨line, hline, rfl⟩ := List.mem_map.mp htext
    exact oneLine_layout (h line hline)
  rwa [List.flatMap_map] at hlines

end Token

namespace Line

variable {spell : Binary64 → List Char}

/-- The layouts of lines are scanned into the lines. -/
theorem ofTexts_layout {lines : List (List Token)}
    (h : ∀ line ∈ lines, line ≠ [] ∧ Token.Legible spell line) (n : Nat) :
    ofTexts n (lines.map (Token.layout spell)) = .ok (numberedFrom n lines) := by
  induction lines generalizing n with
  | nil => rfl
  | cons line lines ih =>
      obtain ⟨hsome, hlegible⟩ := h line List.mem_cons_self
      have hlines := ih (fun line hline => h line (List.mem_cons_of_mem _ hline)) (n + 1)
      simp only [List.map_cons, ofTexts, Token.scan_layout hlegible, hlines]
      rw [if_neg (by simpa using hsome)]
      rfl

end Line

end Pseudocode
