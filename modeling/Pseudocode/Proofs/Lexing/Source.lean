import Mathlib.Data.List.Forall2
import Pseudocode.Proofs.Lexing
import Pseudocode.Proofs.Outline.Earliest

/-!
The lines that the lexer gives. A source is accepted exactly if each of its lines consists of
lexemes none of which goes on with what stands after it; then the lines with a lexeme are given, as
the tokens of the lexemes and with their numbers in the source, and the others are left out.
-/

namespace Pseudocode

namespace Line

variable {n : Nat} {texts : List (List Char)} {lines : List Line} {lexemess : List (List Lexeme)}

/-- The lines with a token. -/
def dropEmpty (lines : List Line) : List Line :=
  lines.filter fun line => !line.tokens.isEmpty

theorem dropEmpty_numberedFrom_cons (n : Nat) (tokens : List Token) (tokenss : List (List Token)) :
    dropEmpty (numberedFrom n (tokens :: tokenss)) =
      ofTokens n tokens ++ dropEmpty (numberedFrom (n + 1) tokenss) := by
  cases tokens <;> rfl

/-- The lexer scans line after line. -/
theorem ofTexts_eq_ok : ofTexts n texts = .ok lines ↔
    ∃ tokenss, List.Forall₂ (fun text tokens => Token.scan text = .ok tokens) texts tokenss ∧
      lines = dropEmpty (numberedFrom n tokenss) := by
  induction texts generalizing n lines with
  | nil =>
      constructor
      · rintro ⟨⟩
        exact ⟨[], .nil, rfl⟩
      · rintro ⟨_, ⟨⟩, rfl⟩
        rfl
  | cons text texts ih =>
      rw [ofTexts_cons_eq_ok]
      constructor
      · rintro ⟨tokens, others, hscan, hothers, rfl⟩
        obtain ⟨tokenss, hscans, rfl⟩ := ih.mp hothers
        exact ⟨tokens :: tokenss, .cons hscan hscans,
          (dropEmpty_numberedFrom_cons n tokens tokenss).symm⟩
      · rintro ⟨_, _ | ⟨hscan, hscans⟩, rfl⟩
        exact ⟨_, _, hscan, ih.mpr ⟨_, hscans, rfl⟩, dropEmpty_numberedFrom_cons n _ _⟩

/-- The lines of a source whose lines consist of some lexemes. -/
def ofLexemes (lexemess : List (List Lexeme)) : List Line :=
  dropEmpty (numberedFrom 1 (lexemess.map (List.map Lexeme.token)))

theorem ofSource_of_laid {source : String}
    (laid : List.Forall₂ (Token.Laid Token.Longest) lexemess (Text.lines source.toList)) :
    ofSource source = .ok (ofLexemes lexemess) := by
  refine ofTexts_eq_ok.mpr ⟨_, ?_, rfl⟩
  exact List.forall₂_map_right_iff.mpr (laid.flip.imp fun _ _ h => Token.scan_laid h)

theorem exists_laid {texts : List (List Char)} {tokenss : List (List Token)}
    (feed : ∀ text ∈ texts, '\n' ∉ text)
    (h : List.Forall₂ (fun text tokens => Token.scan text = .ok tokens) texts tokenss) :
    ∃ lexemess, lexemess.map (List.map Lexeme.token) = tokenss ∧
      List.Forall₂ (Token.Laid Token.Longest) lexemess texts := by
  induction h with
  | nil => exact ⟨[], rfl, .nil⟩
  | cons hscan _ ih =>
      obtain ⟨hfirst, hothers⟩ := List.forall_mem_cons.mp feed
      obtain ⟨lexemes, rfl, hlaid⟩ := Token.exists_laid hfirst hscan
      obtain ⟨lexemess, rfl, hall⟩ := ih hothers
      exact ⟨lexemes :: lexemess, rfl, .cons hlaid hall⟩

/-- The lexer is exact. A line of lexemes with blanks between them, and with a comment after another
blank perhaps, is scanned into their tokens. A source is accepted exactly if its lines consist of
lexemes, of which each is as long as it can be; nothing but their tokens is given, in the same
order and with the numbers of the lines. -/
theorem lexing_exact :
    (∀ lexemes text, Token.Laid Token.Spaced lexemes text →
      Token.scan text = .ok (lexemes.map Lexeme.token)) ∧
    (∀ lexemess source,
      List.Forall₂ (Token.Laid Token.Spaced) lexemess (Text.lines source.toList) →
        ofSource source = .ok (ofLexemes lexemess)) ∧
    ∀ source lines, ofSource source = .ok lines ↔
      ∃ lexemess, List.Forall₂ (Token.Laid Token.Longest) lexemess (Text.lines source.toList) ∧
        lines = ofLexemes lexemess := by
  refine ⟨fun lexemes text laid => Token.scan_laid (laid.mono Token.longest_of_spaced),
    fun lexemess source laid => ofSource_of_laid ?_, fun source lines => ⟨fun h => ?_, ?_⟩⟩
  · exact laid.imp fun _ _ h => h.mono Token.longest_of_spaced
  · obtain ⟨tokenss, hscans, rfl⟩ := ofTexts_eq_ok.mp h
    obtain ⟨lexemess, rfl, hlaid⟩ := exists_laid (fun _ => Text.noFeed_of_mem_lines) hscans
    exact ⟨lexemess, hlaid, rfl⟩
  · rintro ⟨lexemess, hlaid, rfl⟩
    exact ofSource_of_laid hlaid

/-- A line with slashes in it that do not begin the comment. -/
def slashes : String :=
  "\n\tx1 == .5 \"//\" / _ // \""

theorem isNumeral_half : IsNumeral ['.', '5'] :=
  (Decimal.isSome_read (by simp [Token.isNumeralChar])).mp (by decide +kernel)

theorem exists_laid_slashes :
    ∃ lexemess, List.Forall₂ (Token.Laid Token.Spaced) lexemess (Text.lines slashes.toList) ∧
      ofLexemes lexemess = [⟨2, [.word "x1", .symbol .eq,
        .number (.finite false 4503599627370496 (-53)), .text "//", .symbol .slash,
        .word "_"]⟩] := by
  have hnil : ∀ c ∈ ([] : List Char), Text.isBlank c = true := List.forall_mem_nil _
  have htab : ∀ c ∈ ['\t'], Text.isBlank c = true := List.forall_mem_singleton.mpr (by decide)
  have hblank : ∀ c ∈ [' '], Text.isBlank c = true := List.forall_mem_singleton.mpr (by decide)
  have hspaced {first : Lexeme} {rest : List Char} : Token.Spaced first (' ' :: rest) := by
    rintro c ⟨⟩
    decide
  refine ⟨[[], [.word 'x' ['1'] (by decide) (List.forall_mem_singleton.mpr (by decide)),
    .symbol .eq ['=', '='] (by decide), .number ['.', '5'] isNumeral_half,
    .text ['/', '/'] (by decide) (by decide), .symbol .slash ['/'] (by decide),
    .word '_' [] (by decide) (List.forall_mem_nil _)]], ?_, by decide +kernel⟩
  refine .cons (.ending (.blanks hnil)) (.cons ?_ .nil)
  refine .lexeme htab hspaced (.lexeme hblank hspaced (.lexeme hblank hspaced ?_))
  refine .lexeme hblank hspaced (.lexeme hblank hspaced (.lexeme hblank hspaced ?_))
  exact .ending (.comment hblank [' ', '"'])

theorem lexing_exact_slashes :
    Token.scan "/ //".toList = .ok [.symbol .slash] ∧
    ofSource slashes = .ok [⟨2, [.word "x1", .symbol .eq,
      .number (.finite false 4503599627370496 (-53)), .text "//", .symbol .slash, .word "_"]⟩] ∧
    ∃ lexemess, List.Forall₂ (Token.Laid Token.Longest) lexemess (Text.lines "y<=1.5x//".toList) ∧
      ofLexemes lexemess = [⟨1, [.word "y", .symbol .lessEq,
        .number (.finite false 6755399441055744 (-52)), .word "x"]⟩] := by
  obtain ⟨hline, hsource, hexact⟩ := lexing_exact
  have hnil : ∀ c ∈ ([] : List Char), Text.isBlank c = true := List.forall_mem_nil _
  have hblank : ∀ c ∈ [' '], Text.isBlank c = true := List.forall_mem_singleton.mpr (by decide)
  have hslash : Token.Laid Token.Spaced [.symbol .slash ['/'] (by decide)] "/ //".toList := by
    refine .lexeme hnil (fun c hc => ?_) (.ending (.comment hblank []))
    obtain rfl := Option.some.inj hc
    decide
  have hdense : ofSource "y<=1.5x//" = .ok [⟨1, [.word "y", .symbol .lessEq,
      .number (.finite false 6755399441055744 (-52)), .word "x"]⟩] := by
    decide +kernel
  obtain ⟨spacedLexemes, hspaced, hlines⟩ := exists_laid_slashes
  obtain ⟨denseLexemes, hlaid, hlexemes⟩ := (hexact _ _).mp hdense
  refine ⟨hline _ _ hslash, ?_, denseLexemes, hlaid, hlexemes.symm⟩
  rw [hsource _ slashes hspaced, hlines]

end Line

end Pseudocode
