import Mathlib.Data.List.TakeWhile
import Pseudocode.Text.Utf8

/-!
Decoding undoes encoding, and a character that is cut short is one malformed piece. So the lenient
reading of the first bytes of a text is made of the characters that lie entirely within them, and of
one U+FFFD if the cut falls inside a character.
-/

namespace Pseudocode.Text

/-! ### One character -/

/-- Whether bytes can follow in a character when the next of them has to be in a range. -/
def Continues : Nat → Nat → Bytes → Prop
  | _, _, [] => True
  | low, high, byte :: rest =>
    low ≤ byte.toNat ∧ byte.toNat ≤ high ∧ Continues 0x80 0xBF rest

/-- The code point after some more bytes of a character. -/
def codeAfter (code : Nat) (bytes : Bytes) : Nat :=
  bytes.foldl (fun code byte => 64 * code + byte.toNat % 64) code

theorem followingBytes_append {low high : Nat} {bytes : Bytes} (h : Continues low high bytes)
    (code : Nat) (rest : Bytes) :
    followingBytes code bytes.length low high (bytes ++ rest) =
      (some (codeAfter code bytes), rest) := by
  induction bytes generalizing code low high with
  | nil => rfl
  | cons byte bytes ih =>
      obtain ⟨hlow, hhigh, hrest⟩ := h
      rw [List.length_cons, List.cons_append, followingBytes, if_pos (by simp [hlow, hhigh])]
      exact ih hrest _

/-- If not all bytes are there, those that are there are taken. -/
theorem followingBytes_of_prefix {low high : Nat} {bytes front : Bytes}
    (h : Continues low high bytes) (hfront : front <+: bytes)
    (hshort : front.length < bytes.length) (code : Nat) :
    followingBytes code bytes.length low high front = (none, []) := by
  induction bytes generalizing front code low high with
  | nil => exact (Nat.not_lt_zero _ hshort).elim
  | cons byte bytes ih =>
      cases front with
      | nil => rfl
      | cons first front =>
          obtain ⟨rfl, hothers⟩ := List.cons_prefix_cons.mp hfront
          obtain ⟨hlow, hhigh, hrest⟩ := h
          rw [List.length_cons, followingBytes, if_pos (by simp [hlow, hhigh])]
          exact ih hrest hothers (Nat.lt_of_succ_lt_succ hshort) _

theorem toNat_following (n : Nat) : (UInt8.ofNat (n % 64 + 128)).toNat = n % 64 + 128 :=
  UInt8.toNat_ofNat_of_lt' (show n % 64 + 128 < 256 by omega)

/-- Whether bytes are those of a character with the code point `code`: a first byte, which announces
the others. -/
def IsCharacter (code : Nat) (bytes : Bytes) : Prop :=
  ∃ byte lead others, bytes = byte :: others ∧ leadByte? byte = some lead ∧
    lead.following = others.length ∧ 0x80 ≤ lead.low ∧ Continues lead.low lead.high others ∧
    codeAfter lead.payload others = code

section

variable {v : Nat}

theorem isCharacter_one (h : v ≤ 127) : IsCharacter v [UInt8.ofNat v] := by
  refine ⟨_, ⟨v, 0, 0x80, 0xBF⟩, [], rfl, ?_, rfl, Nat.le_refl _, trivial, rfl⟩
  rw [leadByte?, UInt8.toNat_ofNat_of_lt' (show v < 256 by omega)]
  exact if_pos (by omega)

theorem isCharacter_two (h : 127 < v) (h' : v ≤ 2047) :
    IsCharacter v [UInt8.ofNat (v / 64 % 32 + 192), UInt8.ofNat (v % 64 + 128)] := by
  have hlead := UInt8.toNat_ofNat_of_lt' (show v / 64 % 32 + 192 < 256 by omega)
  refine ⟨_, ⟨(v / 64 % 32 + 192) % 32, 1, 0x80, 0xBF⟩, _, rfl, ?_, rfl, Nat.le_refl _, ?_, ?_⟩
  · simp only [leadByte?, hlead]
    rw [if_neg (by omega), if_neg (by omega), if_pos (by omega)]
  · simp only [Continues, toNat_following]
    exact ⟨by omega, by omega, trivial⟩
  · simp only [codeAfter, List.foldl, toNat_following]
    omega

/-- After two of the first bytes only a part of the following bytes is admitted: one would make a
code point that has fewer bytes, the other one a surrogate. -/
theorem isCharacter_three (h : 2047 < v) (h' : v ≤ 65535) (hvalid : v < 55296 ∨ 57343 < v) :
    IsCharacter v [UInt8.ofNat (v / 4096 % 16 + 224), UInt8.ofNat (v / 64 % 64 + 128),
      UInt8.ofNat (v % 64 + 128)] := by
  have hlead := UInt8.toNat_ofNat_of_lt' (show v / 4096 % 16 + 224 < 256 by omega)
  have hcode : codeAfter (v / 4096 % 16) [UInt8.ofNat (v / 64 % 64 + 128),
      UInt8.ofNat (v % 64 + 128)] = v := by
    simp only [codeAfter, List.foldl, toNat_following]
    omega
  by_cases hleast : v / 4096 = 0
  · refine ⟨_, ⟨0, 2, 0xA0, 0xBF⟩, _, rfl, ?_, rfl, by decide, ?_, ?_⟩
    · rw [hleast]
      rfl
    · simp only [Continues, toNat_following]
      exact ⟨by omega, by omega, by omega, by omega, trivial⟩
    · rwa [hleast] at hcode
  by_cases hsurrogate : v / 4096 = 13
  · refine ⟨_, ⟨13, 2, 0x80, 0x9F⟩, _, rfl, ?_, rfl, Nat.le_refl _, ?_, ?_⟩
    · rw [hsurrogate]
      rfl
    · simp only [Continues, toNat_following]
      exact ⟨by omega, by omega, by omega, by omega, trivial⟩
    · rwa [hsurrogate] at hcode
  · refine ⟨_, ⟨(v / 4096 % 16 + 224) % 16, 2, 0x80, 0xBF⟩, _, rfl, ?_, rfl, Nat.le_refl _,
      ?_, ?_⟩
    · simp only [leadByte?, hlead, beq_iff_eq]
      rw [if_neg (by omega), if_neg (by omega), if_neg (by omega), if_neg (by omega),
        if_neg (by omega), if_pos (by omega)]
    · simp only [Continues, toNat_following]
      exact ⟨by omega, by omega, by omega, by omega, trivial⟩
    · rwa [show (v / 4096 % 16 + 224) % 16 = v / 4096 % 16 by omega]

theorem isCharacter_four (h : 65535 < v) (h' : v < 1114112) :
    IsCharacter v [UInt8.ofNat (v / 262144 % 8 + 240), UInt8.ofNat (v / 4096 % 64 + 128),
      UInt8.ofNat (v / 64 % 64 + 128), UInt8.ofNat (v % 64 + 128)] := by
  have hlead := UInt8.toNat_ofNat_of_lt' (show v / 262144 % 8 + 240 < 256 by omega)
  have hcode : codeAfter (v / 262144 % 8) [UInt8.ofNat (v / 4096 % 64 + 128),
      UInt8.ofNat (v / 64 % 64 + 128), UInt8.ofNat (v % 64 + 128)] = v := by
    simp only [codeAfter, List.foldl, toNat_following]
    omega
  by_cases hleast : v / 262144 = 0
  · refine ⟨_, ⟨0, 3, 0x90, 0xBF⟩, _, rfl, ?_, rfl, by decide, ?_, ?_⟩
    · rw [hleast]
      rfl
    · simp only [Continues, toNat_following]
      exact ⟨by omega, by omega, by omega, by omega, by omega, by omega, trivial⟩
    · rwa [hleast] at hcode
  by_cases hgreatest : v / 262144 = 4
  · refine ⟨_, ⟨4, 3, 0x80, 0x8F⟩, _, rfl, ?_, rfl, Nat.le_refl _, ?_, ?_⟩
    · rw [hgreatest]
      rfl
    · simp only [Continues, toNat_following]
      exact ⟨by omega, by omega, by omega, by omega, by omega, by omega, trivial⟩
    · rwa [hgreatest] at hcode
  · refine ⟨_, ⟨(v / 262144 % 8 + 240) % 8, 3, 0x80, 0xBF⟩, _, rfl, ?_, rfl, Nat.le_refl _,
      ?_, ?_⟩
    · simp only [leadByte?, hlead, beq_iff_eq]
      rw [if_neg (by omega), if_neg (by omega), if_neg (by omega), if_neg (by omega),
        if_neg (by omega), if_neg (by omega), if_neg (by omega), if_pos (by omega)]
    · simp only [Continues, toNat_following]
      exact ⟨by omega, by omega, by omega, by omega, by omega, by omega, trivial⟩
    · rwa [show (v / 262144 % 8 + 240) % 8 = v / 262144 % 8 by omega]

end

theorem isCharacter_utf8EncodeChar (c : Char) :
    IsCharacter c.toNat (String.utf8EncodeChar c) := by
  have hvalid : c.toNat < 55296 ∨ 57343 < c.toNat ∧ c.toNat < 1114112 := c.valid
  have hencode : String.utf8EncodeChar c = if c.toNat ≤ 127 then [UInt8.ofNat c.toNat]
      else if c.toNat ≤ 2047 then
        [UInt8.ofNat (c.toNat / 64 % 32 + 192), UInt8.ofNat (c.toNat % 64 + 128)]
      else if c.toNat ≤ 65535 then
        [UInt8.ofNat (c.toNat / 4096 % 16 + 224), UInt8.ofNat (c.toNat / 64 % 64 + 128),
          UInt8.ofNat (c.toNat % 64 + 128)]
      else
        [UInt8.ofNat (c.toNat / 262144 % 8 + 240), UInt8.ofNat (c.toNat / 4096 % 64 + 128),
          UInt8.ofNat (c.toNat / 64 % 64 + 128), UInt8.ofNat (c.toNat % 64 + 128)] := rfl
  rw [hencode]
  split
  · exact isCharacter_one ‹_›
  split
  · exact isCharacter_two (by omega) ‹_›
  split
  · exact isCharacter_three (by omega) ‹_› (by omega)
  · exact isCharacter_four (by omega) (by omega)

/-- A character that is there is decoded, whatever follows. -/
theorem decodeUtf8_append (c : Char) (rest : Bytes) :
    decodeUtf8 (String.utf8EncodeChar c ++ rest) = some c :: decodeUtf8 rest := by
  obtain ⟨byte, lead, others, hbytes, hlead, hcount, -, hcontinues, hcode⟩ :=
    isCharacter_utf8EncodeChar c
  have hfirst : decodeFirst byte (others ++ rest) = (some c, rest) := by
    rw [decodeFirst, hlead]
    simp only [hcount, followingBytes_append hcontinues, hcode, Option.map_some,
      Char.ofNat_toNat]
  rw [hbytes, List.cons_append, decodeUtf8, hfirst]

/-- The first bytes of a character are one malformed piece. -/
theorem decodeUtf8_of_prefix {c : Char} {front : Bytes} (h : front <+: String.utf8EncodeChar c)
    (hsome : front ≠ []) (hshort : front.length < c.utf8Size) : decodeUtf8 front = [none] := by
  obtain ⟨byte, lead, others, hbytes, hlead, hcount, -, hcontinues, -⟩ :=
    isCharacter_utf8EncodeChar c
  rw [← String.length_utf8EncodeChar, hbytes] at hshort
  rw [hbytes] at h
  cases front with
  | nil => exact (hsome rfl).elim
  | cons first front =>
      obtain ⟨rfl, hothers⟩ := List.cons_prefix_cons.mp h
      have hfollowing := followingBytes_of_prefix hcontinues hothers
        (Nat.lt_of_succ_lt_succ hshort) lead.payload
      have hfirst : decodeFirst first front = (none, []) := by
        rw [decodeFirst, hlead]
        simp only [hcount, hfollowing, Option.map_none]
      rw [decodeUtf8, hfirst, decodeUtf8]

/-- A following byte stands for no character by itself. -/
theorem Continues.le_toNat {low high : Nat} {bytes : Bytes} (h : Continues low high bytes)
    (hlow : 0x80 ≤ low) : ∀ byte ∈ bytes, 0x80 ≤ byte.toNat := by
  induction bytes generalizing low high with
  | nil => exact fun _ hmem => nomatch hmem
  | cons first bytes ih =>
      obtain ⟨hfirst, -, hrest⟩ := h
      exact List.forall_mem_cons.mpr ⟨Nat.le_trans hlow hfirst, ih hrest (Nat.le_refl _)⟩

/-- A byte below 128 is only in the encoding of its own character. -/
theorem mem_utf8EncodeChar_iff {c : Char} {byte : UInt8} (ascii : byte.toNat < 0x80) :
    byte ∈ String.utf8EncodeChar c ↔ c.toNat = byte.toNat := by
  obtain ⟨first, lead, others, hbytes, hlead, hcount, hlow, hcontinues, hcode⟩ :=
    isCharacter_utf8EncodeChar c
  have hself (h : first.toNat < 0x80) : lead = ⟨first.toNat, 0, 0x80, 0xBF⟩ ∧ others = [] := by
    rw [leadByte?, if_pos h] at hlead
    obtain rfl := Option.some.inj hlead
    exact ⟨rfl, List.length_eq_zero_iff.mp hcount.symm⟩
  constructor
  · intro h
    rw [hbytes, List.mem_cons] at h
    have hfollows := hcontinues.le_toNat hlow byte
    obtain rfl := h.resolve_right fun hmem => absurd (hfollows hmem) (Nat.not_le_of_lt ascii)
    obtain ⟨rfl, rfl⟩ := hself ascii
    exact hcode.symm
  · intro h
    have hsmall : c.toNat ≤ 127 := by omega
    have hsingle : String.utf8EncodeChar c = [UInt8.ofNat c.toNat] := if_pos hsmall
    rw [hsingle, h, UInt8.ofNat_toNat]
    exact List.mem_cons_self

/-- Only the null character has a zero byte. -/
theorem zero_mem_utf8EncodeChar_iff {c : Char} : 0 ∈ String.utf8EncodeChar c ↔ c = '\x00' := by
  rw [mem_utf8EncodeChar_iff (by decide)]
  constructor
  · intro h
    rw [← Char.ofNat_toNat c, h]
    rfl
  · rintro rfl
    rfl

/-! ### The first bytes of a text -/

/-- The characters that lie entirely within the first `n` bytes. -/
def charactersWithin : Nat → List Char → List Char
  | _, [] => []
  | n, c :: cs => if c.utf8Size ≤ n then c :: charactersWithin (n - c.utf8Size) cs else []

/-- Whether a cut after `n` bytes falls inside a character. -/
def CutsCharacter (n : Nat) (cs : List Char) : Prop :=
  ∃ front c back, cs = front ++ c :: back ∧ (encodeUtf8 front).length < n ∧
    n < (encodeUtf8 front).length + c.utf8Size

variable {n : Nat} {c : Char} {cs front : List Char}

@[simp] theorem encodeUtf8_nil : encodeUtf8 [] = [] := rfl

theorem encodeUtf8_cons (c : Char) (cs : List Char) :
    encodeUtf8 (c :: cs) = String.utf8EncodeChar c ++ encodeUtf8 cs := List.flatMap_cons

theorem length_encodeUtf8_cons (c : Char) (cs : List Char) :
    (encodeUtf8 (c :: cs)).length = c.utf8Size + (encodeUtf8 cs).length := by
  rw [encodeUtf8_cons, List.length_append, String.length_utf8EncodeChar]

/-- The characters within `n` bytes are the longest beginning of the text that takes no more. -/
theorem prefix_charactersWithin_iff :
    front <+: charactersWithin n cs ↔ front <+: cs ∧ (encodeUtf8 front).length ≤ n := by
  induction cs generalizing n front with
  | nil =>
      rw [charactersWithin]
      constructor
      · intro h
        obtain rfl := List.prefix_nil.mp h
        exact ⟨h, Nat.zero_le _⟩
      · exact And.left
  | cons c cs ih =>
      cases front with
      | nil => simp
      | cons first front =>
          rw [charactersWithin]
          split
          · rw [List.cons_prefix_cons, List.cons_prefix_cons, ih, length_encodeUtf8_cons]
            constructor
            · rintro ⟨rfl, hfront, hsize⟩
              exact ⟨⟨rfl, hfront⟩, by omega⟩
            · rintro ⟨⟨rfl, hfront⟩, hsize⟩
              exact ⟨rfl, hfront, by omega⟩
          · rw [List.cons_prefix_cons, length_encodeUtf8_cons]
            constructor
            · intro h
              cases List.prefix_nil.mp h
            · rintro ⟨⟨rfl, -⟩, hsize⟩
              omega

theorem charactersWithin_eq_self_iff :
    charactersWithin n cs = cs ↔ (encodeUtf8 cs).length ≤ n := by
  constructor
  · intro h
    have hself : cs <+: charactersWithin n cs := ⟨[], (List.append_nil cs).trans h.symm⟩
    exact (prefix_charactersWithin_iff.mp hself).2
  · intro h
    have hwithin : charactersWithin n cs <+: cs :=
      (prefix_charactersWithin_iff.mp (List.prefix_refl _)).1
    have hself : cs <+: charactersWithin n cs :=
      prefix_charactersWithin_iff.mpr ⟨List.prefix_refl cs, h⟩
    exact hwithin.eq_of_length_le hself.length_le

theorem not_cutsCharacter_nil (n : Nat) : ¬CutsCharacter n [] := by
  rintro ⟨front, c, back, h, -⟩
  exact List.append_ne_nil_of_right_ne_nil _ (List.cons_ne_nil _ _) h.symm

theorem cutsCharacter_cons_of_le (h : c.utf8Size ≤ n) :
    CutsCharacter n (c :: cs) ↔ CutsCharacter (n - c.utf8Size) cs := by
  constructor
  · rintro ⟨front, c', back, hcs, hbefore, hafter⟩
    cases front with
    | nil =>
        obtain ⟨rfl, rfl⟩ := List.cons.inj hcs
        rw [encodeUtf8_nil, List.length_nil] at hafter
        omega
    | cons first front =>
        obtain ⟨rfl, rfl⟩ := List.cons.inj hcs
        rw [length_encodeUtf8_cons] at hbefore hafter
        exact ⟨front, c', back, rfl, by omega, by omega⟩
  · rintro ⟨front, c', back, rfl, hbefore, hafter⟩
    refine ⟨c :: front, c', back, rfl, ?_, ?_⟩
    all_goals
      rw [length_encodeUtf8_cons]
      omega

theorem cutsCharacter_cons_of_lt (h : n < c.utf8Size) : CutsCharacter n (c :: cs) ↔ 0 < n := by
  constructor
  · rintro ⟨front, c', back, -, hbefore, -⟩
    omega
  · intro hn
    exact ⟨[], c, cs, rfl, hn, by rwa [encodeUtf8_nil, List.length_nil, Nat.zero_add]⟩

instance decidableCutsCharacter : ∀ (n : Nat) (cs : List Char), Decidable (CutsCharacter n cs)
  | n, [] => isFalse (not_cutsCharacter_nil n)
  | n, c :: cs =>
    if h : c.utf8Size ≤ n then
      have := decidableCutsCharacter (n - c.utf8Size) cs
      decidable_of_iff' _ (cutsCharacter_cons_of_le h)
    else decidable_of_iff' _ (cutsCharacter_cons_of_lt (Nat.lt_of_not_le h))

@[simp] theorem decodeLenient_nil : decodeLenient [] = [] := by
  rw [decodeLenient, decodeUtf8]
  rfl

theorem decodeLenient_append (c : Char) (rest : Bytes) :
    decodeLenient (String.utf8EncodeChar c ++ rest) = c :: decodeLenient rest := by
  rw [decodeLenient, decodeUtf8_append]
  rfl

/-- The bytes before the first zero one, when the character `c` comes first. -/
theorem takeWhile_utf8EncodeChar (h : c ≠ '\x00') (rest : Bytes) :
    (String.utf8EncodeChar c ++ rest).takeWhile (· != 0) =
      String.utf8EncodeChar c ++ rest.takeWhile (· != 0) := by
  refine List.takeWhile_append_of_pos fun byte hbyte => bne_iff_ne.mpr ?_
  rintro rfl
  exact h (zero_mem_utf8EncodeChar_iff.mp hbyte)

/-- The lenient reading of a character that is cut short. -/
theorem decodeLenient_take_utf8EncodeChar (hpos : 0 < n) (hshort : n < c.utf8Size) :
    decodeLenient (((String.utf8EncodeChar c).take n).takeWhile (· != 0)) = ['\uFFFD'] := by
  have hfront : (String.utf8EncodeChar c).take n <+: String.utf8EncodeChar c :=
    List.take_prefix _ _
  have hlength : ((String.utf8EncodeChar c).take n).length = n := by
    rw [List.length_take, String.length_utf8EncodeChar]
    omega
  have hall : ((String.utf8EncodeChar c).take n).takeWhile (· != 0) =
      (String.utf8EncodeChar c).take n := by
    refine List.takeWhile_eq_self_iff.mpr fun byte hbyte => bne_iff_ne.mpr ?_
    rintro rfl
    obtain rfl := zero_mem_utf8EncodeChar_iff.mp (hfront.subset hbyte)
    have hsize : '\x00'.utf8Size = 1 := rfl
    omega
  rw [hall, decodeLenient, decodeUtf8_of_prefix hfront (List.ne_nil_of_length_pos (by omega))
    (by omega)]
  rfl

/-- The lenient reading of the first `n` bytes of a text, up to the first zero byte. -/
theorem decodeLenient_take (n : Nat) (cs : List Char) :
    decodeLenient (((encodeUtf8 cs).take n).takeWhile (· != 0)) =
      (charactersWithin n cs).takeWhile (· != '\x00') ++
        if CutsCharacter n cs ∧ '\x00' ∉ charactersWithin n cs then ['\uFFFD'] else [] := by
  induction cs generalizing n with
  | nil =>
      rw [if_neg fun h => not_cutsCharacter_nil n h.1, encodeUtf8_nil, List.take_nil,
        List.takeWhile_nil, decodeLenient_nil]
      rfl
  | cons c cs ih =>
      have htake : (encodeUtf8 (c :: cs)).take n =
          (String.utf8EncodeChar c).take n ++ (encodeUtf8 cs).take (n - c.utf8Size) := by
        rw [encodeUtf8_cons, List.take_append, String.length_utf8EncodeChar]
      rw [htake, charactersWithin]
      by_cases hfits : c.utf8Size ≤ n
      · rw [if_pos hfits, List.take_of_length_le (by rwa [String.length_utf8EncodeChar])]
        by_cases hnull : c = '\x00'
        · -- The text ends here, whatever comes after.
          subst hnull
          rw [if_neg fun h => h.2 List.mem_cons_self]
          exact decodeLenient_nil
        · rw [takeWhile_utf8EncodeChar hnull, decodeLenient_append, ih,
            List.takeWhile_cons, if_pos (bne_iff_ne.mpr hnull), List.cons_append]
          simp only [cutsCharacter_cons_of_le hfits, List.mem_cons, Ne.symm hnull, false_or]
      · have hshort : n < c.utf8Size := Nat.lt_of_not_le hfits
        rw [if_neg hfits, Nat.sub_eq_zero_of_le (Nat.le_of_lt hshort), List.take_zero,
          List.append_nil]
        rcases Nat.eq_zero_or_pos n with rfl | hpos
        · rw [if_neg fun h => absurd ((cutsCharacter_cons_of_lt hshort).mp h.1) (by decide)]
          exact decodeLenient_nil
        · rw [decodeLenient_take_utf8EncodeChar hpos hshort,
            if_pos ⟨(cutsCharacter_cons_of_lt hshort).mpr hpos, List.not_mem_nil⟩]
          rfl

end Pseudocode.Text
