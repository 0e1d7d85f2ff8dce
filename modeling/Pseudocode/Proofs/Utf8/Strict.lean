import Mathlib.Data.List.Basic
import Pseudocode.Proofs.Utf8

/-!
The strict reading of bytes: they have a text exactly if they are the encoding of it. A character
that was decoded is encoded as the bytes that were taken for it, since the ranges of the first and
the second byte leave one encoding for each code point.
-/

namespace Pseudocode.Text

/-- The bytes of a code point. -/
def codeBytes (v : Nat) : Bytes :=
  if v ≤ 127 then [UInt8.ofNat v]
  else if v ≤ 2047 then [UInt8.ofNat (v / 64 % 32 + 192), UInt8.ofNat (v % 64 + 128)]
  else if v ≤ 65535 then
    [UInt8.ofNat (v / 4096 % 16 + 224), UInt8.ofNat (v / 64 % 64 + 128),
      UInt8.ofNat (v % 64 + 128)]
  else
    [UInt8.ofNat (v / 262144 % 8 + 240), UInt8.ofNat (v / 4096 % 64 + 128),
      UInt8.ofNat (v / 64 % 64 + 128), UInt8.ofNat (v % 64 + 128)]

theorem utf8EncodeChar_eq (c : Char) : String.utf8EncodeChar c = codeBytes c.toNat := rfl

variable {v : Nat} {byte a b d : UInt8}

theorem eq_ofNat (h : byte.toNat = v) : UInt8.ofNat v = byte := by
  rw [← h, UInt8.ofNat_toNat]

theorem codeBytes_one (h : byte.toNat = v) (hrange : v ≤ 127) : codeBytes v = [byte] := by
  rw [codeBytes, if_pos hrange, eq_ofNat h]

theorem codeBytes_two (hbyte : byte.toNat = v / 64 + 192) (ha : a.toNat = v % 64 + 128)
    (hlow : 127 < v) (hhigh : v ≤ 2047) : codeBytes v = [byte, a] := by
  have hlead : byte.toNat = v / 64 % 32 + 192 := by omega
  rw [codeBytes, if_neg (by omega), if_pos hhigh, eq_ofNat hlead, eq_ofNat ha]

theorem codeBytes_three (hbyte : byte.toNat = v / 4096 + 224) (ha : a.toNat = v / 64 % 64 + 128)
    (hb : b.toNat = v % 64 + 128) (hlow : 2047 < v) (hhigh : v ≤ 65535) :
    codeBytes v = [byte, a, b] := by
  have hlead : byte.toNat = v / 4096 % 16 + 224 := by omega
  rw [codeBytes, if_neg (by omega), if_neg (by omega), if_pos hhigh, eq_ofNat hlead, eq_ofNat ha,
    eq_ofNat hb]

theorem codeBytes_four (hbyte : byte.toNat = v / 262144 + 240)
    (ha : a.toNat = v / 4096 % 64 + 128) (hb : b.toNat = v / 64 % 64 + 128)
    (hd : d.toNat = v % 64 + 128) (hlow : 65535 < v) (hhigh : v < 1114112) :
    codeBytes v = [byte, a, b, d] := by
  have hlead : byte.toNat = v / 262144 % 8 + 240 := by omega
  rw [codeBytes, if_neg (by omega), if_neg (by omega), if_neg (by omega), eq_ofNat hlead,
    eq_ofNat ha, eq_ofNat hb, eq_ofNat hd]

/-- What a first byte says of the bytes after it. -/
inductive Leads (byte : UInt8) : LeadByte → Prop
  | one (h : byte.toNat < 0x80) : Leads byte ⟨byte.toNat, 0, 0x80, 0xBF⟩
  | two (low : 0xC2 ≤ byte.toNat) (high : byte.toNat < 0xE0) :
    Leads byte ⟨byte.toNat % 32, 1, 0x80, 0xBF⟩
  | three {least most : Nat} (low : 0xE0 ≤ byte.toNat) (high : byte.toNat < 0xF0)
    (hleast : 0x80 ≤ least ∧ (byte.toNat = 0xE0 → 0xA0 ≤ least))
    (hmost : most ≤ 0xBF ∧ (byte.toNat = 0xED → most ≤ 0x9F)) :
    Leads byte ⟨byte.toNat % 16, 2, least, most⟩
  | four {least most : Nat} (low : 0xF0 ≤ byte.toNat) (high : byte.toNat ≤ 0xF4)
    (hleast : 0x80 ≤ least ∧ (byte.toNat = 0xF0 → 0x90 ≤ least))
    (hmost : most ≤ 0xBF ∧ (byte.toNat = 0xF4 → most ≤ 0x8F)) :
    Leads byte ⟨byte.toNat % 8, 3, least, most⟩

theorem leads_of_leadByte? {lead : LeadByte} (h : leadByte? byte = some lead) :
    Leads byte lead := by
  simp only [leadByte?, beq_iff_eq] at h
  split at h
  · cases h
    exact .one ‹_›
  split at h
  · cases h
  split at h
  · cases h
    exact .two (by omega) ‹_›
  split at h
  · cases h
    rename_i heq
    have hpayload : byte.toNat % 16 = 0 := by omega
    exact hpayload ▸ .three (by omega) (by omega) (by omega) (by omega)
  split at h
  · cases h
    rename_i heq
    have hpayload : byte.toNat % 16 = 13 := by omega
    exact hpayload ▸ .three (by omega) (by omega) (by omega) (by omega)
  split at h
  · cases h
    exact .three (by omega) ‹_› (by omega) (by omega)
  split at h
  · cases h
    rename_i heq
    have hpayload : byte.toNat % 8 = 0 := by omega
    exact hpayload ▸ .four (by omega) (by omega) (by omega) (by omega)
  split at h
  · cases h
    exact .four (by omega) (by omega) (by omega) (by omega)
  split at h
  · cases h
    rename_i heq
    have hpayload : byte.toNat % 8 = 4 := by omega
    exact hpayload ▸ .four (by omega) (by omega) (by omega) (by omega)
  · cases h

/-- The bytes that a first byte announces are the bytes of a code point that has a character. -/
theorem Leads.codeBytes {lead : LeadByte} {others : Bytes} (h : Leads byte lead)
    (hcount : others.length = lead.following) (hcontinues : Continues lead.low lead.high others) :
    (codeAfter lead.payload others).isValidChar ∧
      codeBytes (codeAfter lead.payload others) = byte :: others := by
  cases h with
  | one h =>
      obtain rfl := List.length_eq_zero_iff.mp hcount
      exact ⟨.inl (show byte.toNat < 55296 by omega), codeBytes_one rfl (Nat.le_of_lt_succ h)⟩
  | two low high =>
      obtain ⟨a, rfl⟩ := List.length_eq_one_iff.mp hcount
      obtain ⟨ha, ha', -⟩ := hcontinues
      generalize hv : codeAfter (byte.toNat % 32) [a] = v
      simp only [codeAfter, List.foldl] at hv ha ha'
      exact ⟨.inl (by omega), codeBytes_two (by omega) (by omega) (by omega) (by omega)⟩
  | three low high hleast hmost =>
      obtain ⟨a, b, rfl⟩ := List.length_eq_two.mp hcount
      obtain ⟨ha, ha', hb, hb', -⟩ := hcontinues
      generalize hv : codeAfter (byte.toNat % 16) [a, b] = v
      simp only [codeAfter, List.foldl] at hv ha ha'
      have hpayload : byte.toNat = byte.toNat % 16 + 224 := by omega
      have hvalid : v < 55296 ∨ 57343 < v := by omega
      exact ⟨by rw [Nat.isValidChar]; omega,
        codeBytes_three (by omega) (by omega) (by omega) (by omega) (by omega)⟩
  | four low high hleast hmost =>
      obtain ⟨a, b, d, rfl⟩ := List.length_eq_three.mp hcount
      obtain ⟨ha, ha', hb, hb', hd, hd', -⟩ := hcontinues
      generalize hv : codeAfter (byte.toNat % 8) [a, b, d] = v
      simp only [codeAfter, List.foldl] at hv ha ha'
      have hpayload : byte.toNat = byte.toNat % 8 + 240 := by omega
      exact ⟨by rw [Nat.isValidChar]; omega,
        codeBytes_four (by omega) (by omega) (by omega) (by omega) (by omega) (by omega)⟩

theorem followingBytes_eq_some {code count low high : Nat} {bytes rest : Bytes}
    (h : followingBytes code count low high bytes = (some v, rest)) :
    ∃ others, bytes = others ++ rest ∧ others.length = count ∧ Continues low high others ∧
      codeAfter code others = v := by
  induction count generalizing code low high bytes with
  | zero =>
      obtain ⟨hcode, rfl⟩ := Prod.mk.inj h
      exact ⟨[], rfl, rfl, trivial, Option.some.inj hcode⟩
  | succ count ih =>
      cases bytes with
      | nil => cases h
      | cons next bytes =>
          rw [followingBytes] at h
          split at h
          · rename_i hrange
            obtain ⟨hlow, hhigh⟩ : low ≤ next.toNat ∧ next.toNat ≤ high := by simpa using hrange
            obtain ⟨others, rfl, rfl, hcontinues, hcode⟩ := ih h
            exact ⟨next :: others, rfl, rfl, ⟨hlow, hhigh, hcontinues⟩, hcode⟩
          · cases h

/-- A character that is decoded is encoded as the bytes that were taken. -/
theorem eq_of_decodeFirst {c : Char} {bytes rest : Bytes}
    (h : decodeFirst byte bytes = (some c, rest)) :
    byte :: bytes = String.utf8EncodeChar c ++ rest := by
  unfold decodeFirst at h
  split at h
  · cases h
  · rename_i lead hlead
    dsimp only at h
    obtain ⟨hchar, hrest⟩ := Prod.mk.inj h
    obtain ⟨code, hcode, rfl⟩ := Option.map_eq_some_iff.mp hchar
    obtain ⟨others, rfl, hcount, hcontinues, rfl⟩ := followingBytes_eq_some (Prod.ext hcode hrest)
    obtain ⟨hvalid, hbytes⟩ := (leads_of_leadByte? hlead).codeBytes hcount hcontinues
    have hvalue : (Char.ofNat (codeAfter lead.payload others)).toNat =
        codeAfter lead.payload others := by
      rw [Char.ofNat, dif_pos hvalid]
      rfl
    rw [utf8EncodeChar_eq, hvalue, hbytes, List.cons_append]

theorem decodeStrict?_nil : decodeStrict? [] = some [] := by
  rw [decodeStrict?, decodeUtf8]
  rfl

theorem decodeStrict?_append (c : Char) (rest : Bytes) :
    decodeStrict? (String.utf8EncodeChar c ++ rest) = (decodeStrict? rest).map (c :: ·) := by
  rw [decodeStrict?, decodeStrict?, decodeUtf8_append, List.mapM_cons]
  cases (decodeUtf8 rest).mapM id <;> rfl

/-- Bytes have a text exactly if they are its encoding. -/
theorem decodeStrict?_eq_some_iff {bytes : Bytes} {cs : List Char} :
    decodeStrict? bytes = some cs ↔ bytes = encodeUtf8 cs := by
  constructor
  · intro h
    induction cs generalizing bytes with
    | nil =>
        cases bytes with
        | nil => rfl
        | cons byte bytes =>
            rw [decodeStrict?, decodeUtf8, List.mapM_cons] at h
            obtain ⟨c, -, h⟩ := Option.bind_eq_some_iff.mp h
            obtain ⟨cs, -, h⟩ := Option.bind_eq_some_iff.mp h
            cases h
    | cons c cs ih =>
        cases bytes with
        | nil => cases decodeStrict?_nil.symm.trans h
        | cons byte bytes =>
            rw [decodeStrict?, decodeUtf8, List.mapM_cons] at h
            obtain ⟨c', hc, h⟩ := Option.bind_eq_some_iff.mp h
            obtain ⟨cs', hcs, h⟩ := Option.bind_eq_some_iff.mp h
            obtain ⟨rfl, rfl⟩ := List.cons.inj (Option.some.inj h)
            have hrest := ih hcs
            rw [eq_of_decodeFirst (Prod.ext hc rfl), encodeUtf8_cons, ← hrest]
  · rintro rfl
    induction cs with
    | nil => exact decodeStrict?_nil
    | cons c cs ih => rw [encodeUtf8_cons, decodeStrict?_append, ih, Option.map_some]

theorem decodeStrict?_eq_none_iff {bytes : Bytes} :
    decodeStrict? bytes = none ↔ ∀ cs, bytes ≠ encodeUtf8 cs := by
  rw [Option.eq_none_iff_forall_ne_some]
  exact forall_congr' fun cs => not_congr decodeStrict?_eq_some_iff

end Pseudocode.Text
