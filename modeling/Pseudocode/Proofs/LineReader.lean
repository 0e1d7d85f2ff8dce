import Mathlib.Data.List.Basic
import Pseudocode.LineReader
import Pseudocode.Proofs.Utf8.Strict

/-!
What the reader of lines makes of its input. The bytes are cut after each line feed, and each piece
takes one round. So the reader sends the lines of all pieces before the first one that is not UTF-8,
and then that they are over; and if the whole input is a text without carriage returns, its lines
are the text again, up to the line feed at its end.
-/

namespace Pseudocode

namespace Text

/-! ### Pieces -/

/-- Whether a list is cut after each separator. The last piece may lack it, and is not empty. -/
inductive Pieces {α : Type} (separator : α) : List α → List (List α) → Prop
  | nil : Pieces separator [] []
  | last {line : List α} (some : line ≠ []) (free : separator ∉ line) :
    Pieces separator line [line]
  | cut {line rest : List α} {pieces : List (List α)} (free : separator ∉ line)
    (others : Pieces separator rest pieces) :
    Pieces separator (line ++ separator :: rest) ((line ++ [separator]) :: pieces)

section

variable {α : Type} [BEq α] [LawfulBEq α] {separator a : α} {line rest : List α}

theorem cutFirst_free (h : separator ∉ line) : cutFirst separator line = (line, []) := by
  induction line with
  | nil => rfl
  | cons a line ih =>
      have hne : ¬(a == separator) = true := by simpa using (List.ne_of_not_mem_cons h).symm
      rw [cutFirst, if_neg hne, ih (List.not_mem_of_not_mem_cons h)]

theorem cutFirst_append (h : separator ∉ line) :
    cutFirst separator (line ++ separator :: rest) = (line ++ [separator], rest) := by
  induction line with
  | nil => exact if_pos (beq_self_eq_true separator)
  | cons a line ih =>
      have hne : ¬(a == separator) = true := by simpa using (List.ne_of_not_mem_cons h).symm
      rw [List.cons_append, cutFirst, if_neg hne, ih (List.not_mem_of_not_mem_cons h)]
      rfl

/-- Cutting a list gives its pieces. -/
theorem pieces_cutAfter (separator : α) (as : List α) :
    Pieces separator as (cutAfter separator as) := by
  induction as with
  | nil => exact .nil
  | cons a rest ih =>
      rw [cutAfter]
      split
      · rename_i heq
        obtain rfl := beq_iff_eq.mp heq
        exact @Pieces.cut α a [] rest _ List.not_mem_nil ih
      · rename_i hne
        have hfree : separator ≠ a := fun h => hne (beq_iff_eq.mpr h.symm)
        generalize cutAfter separator rest = pieces at ih
        cases ih with
        | nil => exact .last (List.cons_ne_nil a []) (by simpa using hfree)
        | last hsome free =>
            exact .last (List.cons_ne_nil a rest) (List.not_mem_cons_of_ne_of_not_mem hfree free)
        | @cut line rest pieces free others =>
            exact @Pieces.cut α separator (a :: line) rest pieces
              (List.not_mem_cons_of_ne_of_not_mem hfree free) others

end

/-! ### Lines as bytes -/

theorem encodeUtf8_append (cs ds : List Char) :
    encodeUtf8 (cs ++ ds) = encodeUtf8 cs ++ encodeUtf8 ds :=
  List.flatMap_append

theorem lineFeed_mem_encodeUtf8_iff {cs : List Char} :
    InputLines.lineFeed ∈ encodeUtf8 cs ↔ '\n' ∈ cs := by
  have hchar (c : Char) : InputLines.lineFeed ∈ String.utf8EncodeChar c ↔ c = '\n' := by
    rw [mem_utf8EncodeChar_iff (by decide)]
    constructor
    · intro h
      rw [← Char.ofNat_toNat c, h]
      rfl
    · rintro rfl
      rfl
  rw [encodeUtf8, List.mem_flatMap]
  constructor
  · rintro ⟨c, hmem, hfeed⟩
    exact (hchar c).mp hfeed ▸ hmem
  · intro hmem
    exact ⟨'\n', hmem, (hchar _).mpr rfl⟩

/-- The pieces of a text are cut where those of its bytes are. -/
theorem Pieces.encode {cs : List Char} {texts : List (List Char)} (h : Pieces '\n' cs texts) :
    Pieces InputLines.lineFeed (encodeUtf8 cs) (texts.map encodeUtf8) := by
  induction h with
  | nil => exact .nil
  | @last line hsome free =>
      obtain ⟨c, cs, rfl⟩ := List.exists_cons_of_ne_nil hsome
      refine .last ?_ (mt lineFeed_mem_encodeUtf8_iff.mp free)
      rw [encodeUtf8_cons]
      exact List.append_ne_nil_of_left_ne_nil (String.utf8EncodeChar_ne_nil) _
  | @cut line rest pieces free others ih =>
      rw [encodeUtf8_append, encodeUtf8_cons, List.map_cons, encodeUtf8_append]
      exact .cut (mt lineFeed_mem_encodeUtf8_iff.mp free) ih

theorem dropLastIf_of_not_mem {c : Char} {cs : List Char} (h : c ∉ cs) : dropLastIf c cs = cs :=
  if_neg fun hlast => h (List.mem_of_getLast? (beq_iff_eq.mp hlast))

theorem dropLastIf_concat (c : Char) (cs : List Char) : dropLastIf c (cs ++ [c]) = cs := by
  rw [dropLastIf, List.getLast?_concat, if_pos (beq_self_eq_true _), List.dropLast_concat]

theorem mem_of_mem_dropLastIf {c d : Char} {cs : List Char} (h : d ∈ dropLastIf c cs) :
    d ∈ cs := by
  unfold dropLastIf at h
  split at h
  · exact (List.dropLast_sublist cs).subset h
  · exact h

theorem dropLastIf_append {rest : List Char} (c : Char) (front : List Char) (h : rest ≠ []) :
    dropLastIf c (front ++ rest) = front ++ dropLastIf c rest := by
  rw [dropLastIf, dropLastIf, List.getLast?_append_of_ne_nil front h,
    List.dropLast_append_of_ne_nil h]
  split <;> rfl

theorem Pieces.eq_nil_iff {α : Type} {separator : α} {as : List α} {pieces : List (List α)}
    (h : Pieces separator as pieces) : pieces = [] ↔ as = [] := by
  cases h with
  | nil => simp
  | last hsome free => simpa using hsome
  | cut free others => simp

/-- Lines joined by line feeds are the text again, up to the line feed at its end. -/
theorem Pieces.intercalate {cs : List Char} {texts : List (List Char)} (h : Pieces '\n' cs texts) :
    ['\n'].intercalate (texts.map (dropLastIf '\n')) = dropLastIf '\n' cs := by
  induction h with
  | nil => rfl
  | last hsome free => rw [List.map_singleton, List.intercalate_singleton]
  | @cut line rest pieces free others ih =>
      rw [List.map_cons, dropLastIf_concat]
      by_cases hrest : rest = []
      · obtain rfl := others.eq_nil_iff.mpr hrest
        rw [hrest, List.map_nil, List.intercalate_singleton, dropLastIf_concat]
      · have hpieces : pieces.map (dropLastIf '\n') ≠ [] :=
          mt List.map_eq_nil_iff.mp (mt others.eq_nil_iff.mp hrest)
        rw [List.intercalate_cons_of_ne_nil hpieces, ih, List.append_cons line '\n' rest,
          dropLastIf_append _ _ hrest]

end Text

namespace InputLines

open Text (Bytes)

/-- Whether the first of some pieces, if there is one, is not UTF-8. -/
def StopAtOnce (pieces : List Bytes) : Prop :=
  ∀ piece ∈ pieces.head?, ∀ cs, piece ≠ Text.encodeUtf8 cs

/-- The pieces before the first one that is not UTF-8 are texts. -/
theorem exists_texts (pieces : List Bytes) :
    ∃ (texts : List (List Char)) (rest : List Bytes),
      pieces = texts.map Text.encodeUtf8 ++ rest ∧ StopAtOnce rest := by
  induction pieces with
  | nil => exact ⟨[], [], rfl, fun _ h => nomatch h⟩
  | cons piece pieces ih =>
      cases hdecode : Text.decodeStrict? piece with
      | none =>
          refine ⟨[], piece :: pieces, rfl, ?_⟩
          rintro _ ⟨⟩
          exact Text.decodeStrict?_eq_none_iff.mp hdecode
      | some cs =>
          obtain ⟨texts, rest, rfl, hrest⟩ := ih
          refine ⟨cs :: texts, rest, ?_, hrest⟩
          rw [Text.decodeStrict?_eq_some_iff.mp hdecode]
          rfl

theorem ofPieces_append (texts : List (List Char)) {rest : List Bytes} (h : StopAtOnce rest) :
    ofPieces (texts.map Text.encodeUtf8 ++ rest) =
      texts.map (fun cs => .line (String.ofList (withoutEnding cs))) ++ [.closed] := by
  induction texts with
  | nil =>
      cases rest with
      | nil => rfl
      | cons piece rest =>
          have hdecode := Text.decodeStrict?_eq_none_iff.mpr (h piece rfl)
          rw [List.map_nil, List.nil_append, ofPieces, ofPiece?, hdecode]
          rfl
  | cons cs texts ih =>
      have hdecode := Text.decodeStrict?_eq_some_iff.mpr (Eq.refl (Text.encodeUtf8 cs))
      rw [List.map_cons, List.cons_append, ofPieces, ofPiece?, hdecode, ih]
      rfl

end InputLines

namespace LineReader

open Text (Bytes)

variable {bytes piece unread : Bytes} {pieces : List Bytes} {sent : List Message}

theorem run_stopped (unread : Bytes) (listening : Bool) (sent : List Message) :
    run ⟨unread, listening, false, sent⟩ = ⟨unread, listening, false, sent⟩ := by
  rw [run, if_neg Bool.false_ne_true]

theorem running_run (r : LineReader) : r.run.running = false := by
  induction r using run.induct with
  | case1 r h ih =>
      rw [run, if_pos h]
      exact ih
  | case2 r h =>
      rw [run, if_neg h]
      exact Bool.eq_false_iff.mpr h

/-- A reader that somebody listens to sends a message for each piece that it reads. -/
theorem run_of_cutFirst (hcut : Text.cutFirst InputLines.lineFeed bytes = (piece, unread))
    (hsome : piece ≠ []) : run ⟨bytes, true, true, sent⟩ =
      match InputLines.ofPiece? piece with
      | some line => run ⟨unread, true, true, sent ++ [line]⟩
      | none => ⟨unread, true, false, sent ++ [.closed]⟩ := by
  have hempty : ¬piece.isEmpty = true := by simpa using hsome
  rw [run, if_pos rfl, round, hcut, deliver, if_neg hempty]
  cases InputLines.ofPiece? piece with
  | some line => rfl
  | none => exact run_stopped unread true (sent ++ [.closed])

/-- What a reader has sent when it has stopped. -/
theorem sent_run (h : Text.Pieces InputLines.lineFeed bytes pieces) (sent : List Message) :
    (run ⟨bytes, true, true, sent⟩).sent = sent ++ InputLines.ofPieces pieces := by
  have hnil (sent : List Message) :
      run ⟨[], true, true, sent⟩ = ⟨[], true, false, sent ++ [.closed]⟩ := by
    rw [run, if_pos rfl]
    exact run_stopped [] true (sent ++ [.closed])
  induction h generalizing sent with
  | nil => rw [hnil, InputLines.ofPieces]
  | last hsome free =>
      rw [run_of_cutFirst (Text.cutFirst_free free) hsome, InputLines.ofPieces]
      cases InputLines.ofPiece? _ with
      | some line =>
          dsimp only
          rw [hnil, InputLines.ofPieces, List.append_assoc]
          rfl
      | none => rfl
  | @cut line rest pieces free others ih =>
      have hsome : line ++ [InputLines.lineFeed] ≠ [] := List.concat_ne_nil _ _
      rw [run_of_cutFirst (Text.cutFirst_append free) hsome, InputLines.ofPieces]
      cases InputLines.ofPiece? _ with
      | some line =>
          dsimp only
          rw [ih, List.append_assoc]
          rfl
      | none => rfl

/-- The loop sends what the input says. -/
theorem sent_run_ofBytes (bytes : Bytes) :
    (ofBytes bytes).run.sent = InputLines.messages bytes :=
  sent_run (Text.pieces_cutAfter _ bytes) []

/-- The lines of a text without carriage returns are sent as they are, without their line feeds. -/
theorem sent_run_encodeUtf8 {cs : List Char} (plain : '\r' ∉ cs) :
    (ofBytes (Text.encodeUtf8 cs)).run.sent =
      ((Text.cutAfter '\n' cs).map (Text.dropLastIf '\n')).map
        (fun line => .line (String.ofList line)) ++ [.closed] := by
  have hpieces := (Text.pieces_cutAfter '\n' cs).encode
  have hending : ∀ text ∈ Text.cutAfter '\n' cs,
      InputLines.withoutEnding text = Text.dropLastIf '\n' text := by
    intro text hmem
    refine Text.dropLastIf_of_not_mem fun hreturn => plain ?_
    rw [← Text.flatten_cutAfter '\n' cs]
    exact List.mem_flatten_of_mem hmem (Text.mem_of_mem_dropLastIf hreturn)
  have hstop : InputLines.StopAtOnce [] := fun _ h => nomatch h
  have hmessages := InputLines.ofPieces_append (Text.cutAfter '\n' cs) hstop
  rw [List.append_nil] at hmessages
  have hlines : (Text.cutAfter '\n' cs).map
      (fun text => Message.line (String.ofList (InputLines.withoutEnding text))) =
      (Text.cutAfter '\n' cs).map
        (fun text => Message.line (String.ofList (Text.dropLastIf '\n' text))) :=
    List.map_congr_left fun text hmem => by rw [hending text hmem]
  rw [ofBytes, sent_run hpieces, List.nil_append, hmessages, hlines, List.map_map]
  rfl

/-- What a reader sends that somebody listens to until it stops: of the pieces of its input, cut
after each line feed, the lines of those before the first one that is not UTF-8, each without its
line feed and then without a carriage return, and then once that there are no more. After that it
does not run. The lines of a text without carriage returns, joined by line feeds, are the text up to
the line feed at its end. -/
theorem reads_every_line (bytes : Bytes) :
    ∃ (texts : List (List Char)) (rest : List Bytes),
      Text.cutAfter InputLines.lineFeed bytes = texts.map Text.encodeUtf8 ++ rest ∧
      Text.Pieces InputLines.lineFeed bytes (Text.cutAfter InputLines.lineFeed bytes) ∧
      InputLines.StopAtOnce rest ∧
      (ofBytes bytes).run.sent = texts.map (fun cs =>
        .line (String.ofList (Text.dropLastIf '\r' (Text.dropLastIf '\n' cs)))) ++ [.closed] ∧
      (ofBytes bytes).run.running = false ∧
      ∀ cs, bytes = Text.encodeUtf8 cs → '\r' ∉ cs → ∃ lines : List (List Char),
        (ofBytes bytes).run.sent = lines.map (fun line => .line (String.ofList line)) ++ [.closed] ∧
        ['\n'].intercalate lines = Text.dropLastIf '\n' cs := by
  obtain ⟨texts, rest, hpieces, hrest⟩ :=
    InputLines.exists_texts (Text.cutAfter InputLines.lineFeed bytes)
  refine ⟨texts, rest, hpieces, Text.pieces_cutAfter _ bytes, hrest, ?_, running_run _, ?_⟩
  · rw [sent_run_ofBytes, InputLines.messages, hpieces]
    exact InputLines.ofPieces_append texts hrest
  · rintro cs rfl plain
    exact ⟨_, sent_run_encodeUtf8 plain, (Text.pieces_cutAfter '\n' cs).intercalate⟩

end LineReader

end Pseudocode
