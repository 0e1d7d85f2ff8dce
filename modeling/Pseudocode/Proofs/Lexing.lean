import Pseudocode.Proofs.Numerals

/-!
What the lexer takes for tokens. A line that is scanned consists of lexemes, one for each token, in
their order, with blanks between them that may be missing, and perhaps a comment at its end; so no
character of it is lost and none is read twice. Conversely such a line is scanned into the tokens of
its lexemes as long as no lexeme goes on with what stands after it, and a blank always sees to that.
-/

namespace Pseudocode

/-- All ways to write a symbol. -/
def Symbol.spellings : Symbol → List (List Char)
  | plus => [['+']]
  | minus => [['-']]
  | star => [['*']]
  | slash => [['/']]
  | leftParen => [['(']]
  | rightParen => [[')']]
  | comma => [[',']]
  | eq => [['='], ['=', '=']]
  | notEq => [['!', '='], ['≠']]
  | less => [['<']]
  | lessEq => [['<', '='], ['≤']]
  | greater => [['>']]
  | greaterEq => [['>', '='], ['≥']]

/-- A text that stands for one token. -/
inductive Lexeme where
  | number (numeral : List Char) (isNumeral : IsNumeral numeral)
  | text (content : List Char) (quote : '"' ∉ content) (feed : '\n' ∉ content)
  | word (first : Char) (rest : List Char) (starts : Token.startsWord first = true)
    (continues : ∀ c ∈ rest, Token.continuesWord c = true)
  | symbol (s : Symbol) (spelling : List Char) (isSpelling : spelling ∈ s.spellings)

namespace Lexeme

def chars : Lexeme → List Char
  | number numeral _ => numeral
  | text content _ _ => '"' :: (content ++ ['"'])
  | word first rest _ _ => first :: rest
  | symbol _ spelling _ => spelling

/-- The token that a lexeme stands for, with its value. -/
def token : Lexeme → Token
  | number numeral isNumeral =>
    .number ((Decimal.read numeral).get ((Decimal.isSome_read isNumeral.chars).mpr isNumeral))
  | text content _ _ => .text (String.ofList content)
  | word first rest _ _ => .word (String.ofList (first :: rest))
  | symbol s _ _ => .symbol s

/-- Whether a character right after a lexeme would be taken for a part of a longer one, or would
make a comment of it. -/
def continues : Lexeme → Char → Bool
  | number _ _, c => Token.isNumeralChar c
  | text _ _ _, _ => false
  | word _ _ _ _, c => Token.continuesWord c
  | symbol _ spelling _, c =>
    spelling == ['/'] && c == '/' ||
      (spelling == ['='] || spelling == ['<'] || spelling == ['>']) && c == '='

end Lexeme

namespace Token

/-- What may stand after the last token of a line: blanks, and a comment after them. -/
inductive IsEnding : List Char → Prop
  | blanks {gap : List Char} (blank : ∀ c ∈ gap, Text.isBlank c = true) : IsEnding gap
  | comment {gap : List Char} (blank : ∀ c ∈ gap, Text.isBlank c = true) (remark : List Char) :
    IsEnding (gap ++ '/' :: '/' :: remark)

/-- A line that consists of lexemes, with blanks before each that may be missing. `Apart` says what
may stand after a lexeme. -/
inductive Laid (Apart : Lexeme → List Char → Prop) : List Lexeme → List Char → Prop
  | ending {rest : List Char} (isEnding : IsEnding rest) : Laid Apart [] rest
  | lexeme {gap : List Char} (blank : ∀ c ∈ gap, Text.isBlank c = true) {first : Lexeme}
    {lexemes : List Lexeme} {rest : List Char} (apart : Apart first rest)
    (others : Laid Apart lexemes rest) : Laid Apart (first :: lexemes) (gap ++ (first.chars ++ rest))

/-- Nothing stands after a lexeme, or a blank. -/
def Spaced (_ : Lexeme) (rest : List Char) : Prop :=
  ∀ c ∈ rest.head?, Text.isBlank c = true

/-- No longer lexeme begins where a lexeme begins, and no comment. -/
def Longest (first : Lexeme) (rest : List Char) : Prop :=
  Text.Stops first.continues rest

variable {c : Char} {cs gap rest after : List Char} {token : Token} {tokens : List Token}
  {first : Lexeme} {lexemes : List Lexeme}

/-! ### Steps of the scanner -/

theorem scan_nil : scan [] = .ok [] := by
  rw [scan]

theorem scan_blanks (blank : ∀ c ∈ gap, Text.isBlank c = true) (rest : List Char) :
    scan (gap ++ rest) = scan rest := by
  induction gap with
  | nil => rfl
  | cons c gap ih =>
      obtain ⟨hc, hgap⟩ := List.forall_mem_cons.mp blank
      rw [List.cons_append, scan, if_pos hc, ih hgap]

theorem scan_comment (remark : List Char) : scan ('/' :: '/' :: remark) = .ok [] := by
  rw [scan, if_neg (by decide), if_pos (by simp)]

theorem scan_ending (h : IsEnding rest) : scan rest = .ok [] := by
  cases h with
  | blanks blank =>
      have hscan := scan_blanks blank []
      rwa [List.append_nil, scan_nil] at hscan
  | comment blank remark => rw [scan_blanks blank, scan_comment]

/-- Whether a token is read at the beginning of a text, and not a blank or a comment. -/
structure Begins (c : Char) (rest : List Char) : Prop where
  visible : Text.isBlank c = false
  noComment : ¬(c = '/' ∧ rest.head? = some '/')

/-- The first token of a line is read, and then the line after it is scanned. -/
theorem scan_begins (begins : Begins c rest) :
    scan (c :: rest) = Token.first c rest >>= fun p => (scan p.2).map (p.1 :: ·) := by
  have hcomment : ¬(c == '/' && rest.head? == some '/') = true := by
    simpa using begins.noComment
  rw [scan, if_neg (by simp [begins.visible]), if_neg hcomment]
  split
  · next heq =>
      rw [heq]
      rfl
  · next token after heq =>
      rw [heq]
      show _ = (scan after).map _
      cases scan after <;> rfl

theorem exists_of_scan (begins : Begins c rest) (h : scan (c :: rest) = .ok tokens) :
    ∃ token after others, Token.first c rest = .ok (token, after) ∧ scan after = .ok others ∧
      tokens = token :: others := by
  rw [scan_begins begins] at h
  cases hfirst : Token.first c rest with
  | error complaint =>
      rw [hfirst] at h
      cases h
  | ok p =>
      rw [hfirst] at h
      change (scan p.2).map (p.1 :: ·) = .ok tokens at h
      cases hothers : scan p.2 with
      | error complaint =>
          rw [hothers] at h
          cases h
      | ok others =>
          rw [hothers] at h
          cases h
          exact ⟨p.1, p.2, others, rfl, hothers, rfl⟩

/-- A line is scanned from its front: it has come to its end, or it goes on with a blank, with a
comment or with a token. -/
theorem scan_induction {P : List Char → Prop} (nil : P [])
    (blank : ∀ c rest, Text.isBlank c = true → P rest → P (c :: rest))
    (comment : ∀ remark, P ('/' :: '/' :: remark))
    (token : ∀ c rest, Begins c rest →
      (∀ token after, Token.first c rest = .ok (token, after) → P after) → P (c :: rest))
    (cs : List Char) : P cs := by
  induction cs using scan.induct with
  | case1 => exact nil
  | case2 c rest hblank ih => exact blank c rest hblank ih
  | case3 c rest _ hcomment =>
      simp only [Bool.and_eq_true, beq_iff_eq] at hcomment
      obtain ⟨rfl, hnext⟩ := hcomment
      obtain ⟨remark, rfl⟩ := List.head?_eq_some_iff.mp hnext
      exact comment remark
  | case4 c rest hvisible hcomment complaint hfirst =>
      refine token c rest ⟨by simpa using hvisible, by simpa using hcomment⟩ fun _ _ h => ?_
      rw [hfirst] at h
      cases h
  | case5 c rest hvisible hcomment _ after hfirst _ _ ih
  | case6 c rest hvisible hcomment _ after hfirst _ _ ih =>
      refine token c rest ⟨by simpa using hvisible, by simpa using hcomment⟩ fun _ _ h => ?_
      rw [hfirst] at h
      cases h
      exact ih

/-! ### Lexemes are scanned into their tokens -/

/-- What makes a lexeme, with `rest` after it, be read as its token. -/
structure IsRead (first : Lexeme) (rest : List Char) (c : Char) (cs : List Char) : Prop where
  chars : first.chars = c :: cs
  begins : Begins c (cs ++ rest)
  read : Token.first c (cs ++ rest) = .ok (first.token, rest)

theorem isRead_number (isNumeral : IsNumeral (c :: cs)) (stops : Text.Stops isNumeralChar rest) :
    IsRead (.number (c :: cs) isNumeral) rest c cs := by
  obtain ⟨hc, hcs⟩ := List.forall_mem_cons.mp isNumeral.chars
  have hquote : c ≠ '"' := by
    rintro rfl
    exact absurd hc (by decide)
  refine ⟨rfl, ⟨isBlank_of_isNumeralChar hc, ?_⟩, ?_⟩
  · rintro ⟨rfl, -⟩
    exact absurd hc (by decide)
  · rw [Token.first, if_neg (by simpa using hquote), if_pos hc, stops.takeWhile hcs,
      stops.dropWhile hcs, ← Option.some_get ((Decimal.isSome_read isNumeral.chars).mpr isNumeral)]
    rfl

theorem isRead_word (starts : startsWord c = true) (continues : ∀ d ∈ cs, continuesWord d = true)
    (stops : Text.Stops continuesWord rest) : IsRead (.word c cs starts continues) rest c cs := by
  have hquote : c ≠ '"' := by
    rintro rfl
    exact absurd starts (by decide)
  have hnumeral := isNumeralChar_of_startsWord starts
  refine ⟨rfl, ⟨isBlank_of_startsWord starts, ?_⟩, ?_⟩
  · rintro ⟨rfl, -⟩
    exact absurd starts (by decide)
  · rw [Token.first, if_neg (by simpa using hquote), if_neg (by simp [hnumeral]), if_pos starts,
      stops.takeWhile continues, stops.dropWhile continues]
    rfl

/-- A text goes to the next quote, whatever stands after it. -/
theorem isRead_text (quote : '"' ∉ cs) (feed : '\n' ∉ cs) (rest : List Char) :
    IsRead (.text cs quote feed) rest '"' (cs ++ ['"']) := by
  have hall : ∀ c ∈ cs, (c != '"') = true := fun c hc => by
    rw [bne_iff_ne]
    rintro rfl
    exact quote hc
  have hstops : Text.Stops (· != '"') ('"' :: rest) := Text.stops_cons (by decide) rest
  refine ⟨rfl, ⟨by decide, fun hslash => absurd hslash.1 (by decide)⟩, ?_⟩
  rw [Token.first, if_pos (beq_self_eq_true '"'), List.append_assoc, List.singleton_append,
    hstops.dropWhile hall, hstops.takeWhile hall]
  rfl

/-- The symbols that may go on. -/
theorem symbol?_alone (stops : Text.Stops (· == '=') rest) :
    symbol? '=' rest = some (.eq, rest) ∧ symbol? '<' rest = some (.less, rest) ∧
      symbol? '>' rest = some (.greater, rest) := by
  cases rest with
  | nil => exact ⟨rfl, rfl, rfl⟩
  | cons d more =>
      have hd : d ≠ '=' := beq_eq_false_iff_ne.mp (stops d rfl)
      simp [symbol?, hd]

theorem symbol?_spelling (s : Symbol) {spelling : List Char} (isSpelling : spelling ∈ s.spellings)
    (longest : Longest (.symbol s spelling isSpelling) rest) :
    ∃ c cs, spelling = c :: cs ∧ symbol? c (cs ++ rest) = some (s, rest) := by
  cases s with
  | plus | minus | star | slash | leftParen | rightParen | comma =>
      obtain rfl := List.mem_singleton.mp isSpelling
      exact ⟨_, _, rfl, rfl⟩
  | eq =>
      rcases List.mem_cons.mp isSpelling with rfl | hdouble
      · exact ⟨_, _, rfl, (symbol?_alone longest).1⟩
      · obtain rfl := List.mem_singleton.mp hdouble
        exact ⟨_, _, rfl, rfl⟩
  | less =>
      obtain rfl := List.mem_singleton.mp isSpelling
      exact ⟨_, _, rfl, (symbol?_alone longest).2.1⟩
  | greater =>
      obtain rfl := List.mem_singleton.mp isSpelling
      exact ⟨_, _, rfl, (symbol?_alone longest).2.2⟩
  | notEq | lessEq | greaterEq =>
      rcases List.mem_cons.mp isSpelling with rfl | hsingle
      · exact ⟨_, _, rfl, rfl⟩
      · obtain rfl := List.mem_singleton.mp hsingle
        exact ⟨_, _, rfl, rfl⟩

/-- Whether a character can begin nothing but a symbol, or a comment. -/
def isMark (c : Char) : Bool :=
  !Text.isBlank c && c != '"' && !isNumeralChar c && !startsWord c

theorem isMark_of_mem_spellings {s : Symbol} (h : c :: cs ∈ s.spellings) : isMark c = true := by
  have hall : ∀ spelling ∈ s.spellings, spelling.head?.any isMark = true := by
    cases s <;> decide +kernel
  exact hall _ h

theorem eq_nil_of_mem_spellings {s : Symbol} (h : '/' :: cs ∈ s.spellings) : cs = [] := by
  have hall : ∀ spelling ∈ s.spellings, spelling.head? = some '/' → spelling.tail = [] := by
    cases s <;> decide
  exact hall _ h rfl

theorem first_mark {s : Symbol} (mark : isMark c = true) (h : symbol? c rest = some (s, after)) :
    Token.first c rest = .ok (.symbol s, after) := by
  simp only [isMark, Bool.and_eq_true, Bool.not_eq_true', bne_iff_ne] at mark
  obtain ⟨⟨⟨-, hquote⟩, hnumeral⟩, hstarts⟩ := mark
  rw [Token.first, if_neg (by simpa using hquote), if_neg (by simp [hnumeral]),
    if_neg (by simp [hstarts]), h]

/-- A symbol is read if it does not go on. -/
theorem isRead_symbol (s : Symbol) {spelling : List Char} (isSpelling : spelling ∈ s.spellings)
    (longest : Longest (.symbol s spelling isSpelling) rest) :
    ∃ c cs, IsRead (.symbol s spelling isSpelling) rest c cs := by
  obtain ⟨c, cs, rfl, hsymbol⟩ := symbol?_spelling s isSpelling longest
  have hmark := isMark_of_mem_spellings isSpelling
  refine ⟨c, cs, rfl, ⟨?_, ?_⟩, ?_⟩
  · simp only [isMark, Bool.and_eq_true, Bool.not_eq_true'] at hmark
    exact hmark.1.1.1
  · rintro ⟨rfl, hnext⟩
    obtain rfl := eq_nil_of_mem_spellings isSpelling
    simpa [Lexeme.continues] using longest '/' hnext
  · exact first_mark hmark hsymbol

theorem exists_isRead (first : Lexeme) (longest : Longest first rest) :
    ∃ c cs, IsRead first rest c cs := by
  cases first with
  | number numeral isNumeral =>
      cases numeral with
      | nil => exact absurd isNumeral.digit (by simp)
      | cons c cs => exact ⟨c, cs, isRead_number isNumeral longest⟩
  | text content quote feed => exact ⟨'"', _, isRead_text quote feed rest⟩
  | word c cs starts continues => exact ⟨c, cs, isRead_word starts continues longest⟩
  | symbol s spelling isSpelling => exact isRead_symbol s isSpelling longest

theorem scan_lexeme (longest : Longest first rest) :
    scan (first.chars ++ rest) = (scan rest).map (first.token :: ·) := by
  obtain ⟨c, cs, hchars, hbegins, hread⟩ := exists_isRead first longest
  rw [hchars, List.cons_append, scan_begins hbegins, hread]
  rfl

/-- A line of lexemes is scanned into their tokens. -/
theorem scan_laid (laid : Laid Longest lexemes cs) :
    scan cs = .ok (lexemes.map Lexeme.token) := by
  induction laid with
  | ending isEnding => exact scan_ending isEnding
  | lexeme blank longest others ih =>
      rw [scan_blanks blank, scan_lexeme longest, ih]
      rfl

/-! ### What is scanned consists of lexemes -/

/-- What is taken for a symbol is one of its spellings, the longest. -/
theorem exists_spelling {s : Symbol} (begins : Begins c rest)
    (h : symbol? c rest = some (s, after)) :
    ∃ cs, ∃ isSpelling : c :: cs ∈ s.spellings,
      rest = cs ++ after ∧ Longest (.symbol s (c :: cs) isSpelling) after := by
  have hslash : c = '/' → ∀ d ∈ rest.head?, (d == '/') = false := by
    intro hc d hd
    rw [beq_eq_false_iff_ne]
    rintro rfl
    exact begins.noComment ⟨hc, hd⟩
  have halone {d : Char} (h : ∀ more, rest = '=' :: more → False) (hd : d ∈ rest.head?) :
      d ≠ '=' := by
    rintro rfl
    obtain ⟨more, rfl⟩ := List.head?_eq_some_iff.mp hd
    exact h more rfl
  unfold symbol? at h
  split at h <;> cases h
  case h_4 => exact ⟨[], by decide, rfl, fun d hd => by simp [Lexeme.continues, hslash rfl d hd]⟩
  case h_9 hother | h_13 hother | h_15 hother =>
    exact ⟨[], by decide, rfl, fun d hd => by simp [Lexeme.continues, halone hother hd]⟩
  -- The other symbols are of one character, or of two of which `=` is the second.
  all_goals first
    | exact ⟨[], by decide, rfl, fun d hd => by simp [Lexeme.continues]⟩
    | exact ⟨['='], by decide, rfl, fun d hd => by simp [Lexeme.continues]⟩

/-- What is read as the first token is a lexeme, as long as it can be. -/
theorem exists_lexeme (begins : Begins c rest) (feed : '\n' ∉ rest)
    (h : Token.first c rest = .ok (token, after)) :
    ∃ first : Lexeme, c :: rest = first.chars ++ after ∧ first.token = token ∧
      Longest first after := by
  unfold Token.first at h
  split at h
  · -- A text: the class stops at the quote that ends it.
    rename_i hquote
    obtain rfl := beq_iff_eq.mp hquote
    obtain ⟨content, more, rfl, hcontent, stops⟩ := Text.exists_span (· != '"') rest
    rw [stops.dropWhile hcontent, stops.takeWhile hcontent] at h
    cases more with
    | nil => cases h
    | cons q more =>
        cases h
        obtain rfl : q = '"' := by simpa using stops q rfl
        have hquote : '"' ∉ content := fun hmem => by simpa using hcontent '"' hmem
        have hfeed : '\n' ∉ content := fun hmem => feed (List.mem_append_left _ hmem)
        exact ⟨.text content hquote hfeed, by simp [Lexeme.chars], rfl, fun _ _ => rfl⟩
  split at h
  · rename_i hnumeral
    obtain ⟨digits, more, rfl, hdigits, stops⟩ := Text.exists_span isNumeralChar rest
    rw [stops.dropWhile hdigits, stops.takeWhile hdigits] at h
    split at h
    · rename_i n hn
      cases h
      have hchars : ∀ d ∈ c :: digits, isNumeralChar d = true :=
        List.forall_mem_cons.mpr ⟨hnumeral, hdigits⟩
      have hsome := (Decimal.isSome_read hchars).mp (by rw [hn]; rfl)
      refine ⟨.number (c :: digits) hsome, rfl, ?_, stops⟩
      simp [Lexeme.token, hn]
    · cases h
  split at h
  · rename_i hstarts
    obtain ⟨letters, more, rfl, hletters, stops⟩ := Text.exists_span continuesWord rest
    rw [stops.dropWhile hletters, stops.takeWhile hletters] at h
    cases h
    exact ⟨.word c letters hstarts hletters, rfl, rfl, stops⟩
  split at h
  · rename_i s last hsymbol
    cases h
    obtain ⟨cs, isSpelling, rfl, hlongest⟩ := exists_spelling begins hsymbol
    exact ⟨.symbol s (c :: cs) isSpelling, rfl, rfl, hlongest⟩
  · cases h

theorem IsEnding.blank (h : IsEnding rest) (hc : Text.isBlank c = true) : IsEnding (c :: rest) := by
  cases h with
  | blanks blank => exact .blanks (List.forall_mem_cons.mpr ⟨hc, blank⟩)
  | comment blank remark => exact .comment (List.forall_mem_cons.mpr ⟨hc, blank⟩) remark

theorem Laid.blank {Apart : Lexeme → List Char → Prop} (h : Laid Apart lexemes cs)
    (hc : Text.isBlank c = true) : Laid Apart lexemes (c :: cs) := by
  cases h with
  | ending isEnding => exact .ending (isEnding.blank hc)
  | lexeme blank apart others => exact .lexeme (List.forall_mem_cons.mpr ⟨hc, blank⟩) apart others

/-- A line that is scanned consists of lexemes. -/
theorem exists_laid (feed : '\n' ∉ cs) (h : scan cs = .ok tokens) :
    ∃ lexemes, lexemes.map Lexeme.token = tokens ∧ Laid Longest lexemes cs := by
  have hgap : ∀ c ∈ ([] : List Char), Text.isBlank c = true := List.forall_mem_nil _
  induction cs using scan_induction generalizing tokens with
  | nil =>
      cases scan_nil.symm.trans h
      exact ⟨[], rfl, .ending (.blanks hgap)⟩
  | blank c rest hblank ih =>
      have hc : ∀ d ∈ [c], Text.isBlank d = true := List.forall_mem_singleton.mpr hblank
      have hrest := (scan_blanks hc rest).symm.trans h
      obtain ⟨lexemes, htokens, hlaid⟩ := ih (fun hmem => feed (List.mem_cons_of_mem _ hmem)) hrest
      exact ⟨lexemes, htokens, hlaid.blank hblank⟩
  | comment remark =>
      cases (scan_comment remark).symm.trans h
      exact ⟨[], rfl, .ending (.comment hgap remark)⟩
  | token c rest begins ih =>
      obtain ⟨token, after, others, hfirst, hothers, rfl⟩ := exists_of_scan begins h
      have hfeed : '\n' ∉ rest := fun hmem => feed (List.mem_cons_of_mem _ hmem)
      obtain ⟨first, heq, rfl, hlongest⟩ := exists_lexeme begins hfeed hfirst
      have hafter : '\n' ∉ after := fun hmem => feed (heq ▸ List.mem_append_right _ hmem)
      obtain ⟨lexemes, rfl, hlaid⟩ := ih _ _ hfirst hafter hothers
      exact ⟨first :: lexemes, rfl, heq ▸ .lexeme hgap hlongest hlaid⟩

/-! ### Blanks between lexemes -/

/-- A blank ends every lexeme. -/
theorem longest_of_spaced (first : Lexeme) (rest : List Char) (spaced : Spaced first rest) :
    Longest first rest := by
  intro c hc
  have hblank := spaced c hc
  have hother {p : Char → Bool} (h : p c = true → Text.isBlank c = false) : p c = false := by
    refine Bool.eq_false_iff.mpr fun hp => ?_
    rw [h hp] at hblank
    cases hblank
  cases first with
  | number => exact hother isBlank_of_isNumeralChar
  | text => rfl
  | word => exact hother isBlank_of_continuesWord
  | symbol s spelling =>
      have hslash : (c == '/') = false := hother (p := (· == '/')) fun hp => by
        obtain rfl := beq_iff_eq.mp hp
        decide
      have hequals : (c == '=') = false := hother (p := (· == '=')) fun hp => by
        obtain rfl := beq_iff_eq.mp hp
        decide
      simp [Lexeme.continues, hslash, hequals]

theorem Laid.mono {Apart Apart' : Lexeme → List Char → Prop}
    (h : ∀ first rest, Apart first rest → Apart' first rest) (laid : Laid Apart lexemes cs) :
    Laid Apart' lexemes cs := by
  induction laid with
  | ending isEnding => exact .ending isEnding
  | lexeme blank apart others ih => exact .lexeme blank (h _ _ apart) ih

/-! ### Blanks at the end -/

variable {b : Char}

theorem symbol?_append (c : Char) (rest : List Char) (hb : b ≠ '=') :
    symbol? c (rest ++ [b]) = (symbol? c rest).map fun p => (p.1, p.2 ++ [b]) := by
  cases rest with
  | nil =>
      unfold symbol?
      split <;> simp_all
  | cons d more =>
      unfold symbol?
      split <;> simp_all

/-- What belongs to no token is left over. -/
theorem first_append (hb : Text.isBlank b = true) (c : Char) (rest : List Char) :
    Token.first c (rest ++ [b]) = (Token.first c rest).map fun p => (p.1, p.2 ++ [b]) := by
  have hother {p : Char → Bool} (h : p b = true → Text.isBlank b = false) {more : List Char}
      (stops : Text.Stops p more) : Text.Stops p (more ++ [b]) := by
    have hp : p b = false := Bool.eq_false_iff.mpr fun hp => by simp [h hp] at hb
    cases more with
    | nil => exact Text.stops_cons hp []
    | cons d more => exact stops.append [b]
  unfold Token.first
  split
  · obtain ⟨content, more, rfl, hcontent, stops⟩ := Text.exists_span (· != '"') rest
    rw [stops.dropWhile hcontent, stops.takeWhile hcontent]
    cases more with
    | nil =>
        -- The text has no end, and a blank does not end it.
        have hquote : (b != '"') = true := by
          rw [bne_iff_ne]
          rintro rfl
          exact absurd hb (by decide)
        have hall := List.forall_mem_append.mpr ⟨hcontent, List.forall_mem_singleton.mpr hquote⟩
        have hdrop := Text.stops_nil.dropWhile hall
        rw [List.append_nil] at hdrop ⊢
        rw [hdrop]
        rfl
    | cons q more =>
        have hstops := stops.append [b]
        rw [List.append_assoc, hstops.dropWhile hcontent, hstops.takeWhile hcontent]
        rfl
  split
  · obtain ⟨digits, more, rfl, hdigits, stops⟩ := Text.exists_span isNumeralChar rest
    have hstops := hother isBlank_of_isNumeralChar stops
    rw [List.append_assoc, stops.dropWhile hdigits, stops.takeWhile hdigits,
      hstops.dropWhile hdigits, hstops.takeWhile hdigits]
    split <;> rfl
  split
  · obtain ⟨letters, more, rfl, hletters, stops⟩ := Text.exists_span continuesWord rest
    have hstops := hother isBlank_of_continuesWord stops
    rw [List.append_assoc, stops.dropWhile hletters, stops.takeWhile hletters,
      hstops.dropWhile hletters, hstops.takeWhile hletters]
    rfl
  · have hequals : b ≠ '=' := by
      rintro rfl
      exact absurd hb (by decide)
    rw [symbol?_append c rest hequals]
    cases symbol? c rest <;> rfl

theorem Begins.append (begins : Begins c rest) (hb : Text.isBlank b = true) :
    Begins c (rest ++ [b]) := by
  refine ⟨begins.visible, ?_⟩
  rintro ⟨rfl, hnext⟩
  cases rest with
  | nil =>
      obtain rfl := Option.some.inj hnext
      exact absurd hb (by decide)
  | cons d more => exact begins.noComment ⟨rfl, hnext⟩

/-- A blank at the end of a line changes nothing. -/
theorem scan_append (hb : Text.isBlank b = true) (cs : List Char) : scan (cs ++ [b]) = scan cs := by
  induction cs using scan_induction with
  | nil => rw [List.nil_append, scan_nil, scan_ending (.blanks (List.forall_mem_singleton.mpr hb))]
  | blank c rest hblank ih =>
      have hc : ∀ d ∈ [c], Text.isBlank d = true := List.forall_mem_singleton.mpr hblank
      exact (scan_blanks hc (rest ++ [b])).trans (ih.trans (scan_blanks hc rest).symm)
  | comment remark => exact (scan_comment (remark ++ [b])).trans (scan_comment remark).symm
  | token c rest begins ih =>
      rw [List.cons_append, scan_begins (begins.append hb), scan_begins begins, first_append hb]
      cases hfirst : Token.first c rest with
      | error complaint => rfl
      | ok p => exact congrArg (Except.map _) (ih p.1 p.2 hfirst)

end Token

end Pseudocode
