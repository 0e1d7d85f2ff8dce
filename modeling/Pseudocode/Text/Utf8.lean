/-!
UTF-8. Decoding splits the bytes into well-formed characters and malformed pieces, a piece being
the longest start of some character that could not be completed, or a single byte that starts
none. A strict reader refuses malformed pieces, a lenient one shows U+FFFD for each.
-/

namespace Pseudocode.Text

abbrev Bytes := List UInt8

def encodeUtf8 (cs : List Char) : Bytes :=
  cs.flatMap String.utf8EncodeChar

/-- What a first byte announces: its payload, how many bytes follow, and the range of the next. -/
structure LeadByte where
  payload : Nat
  following : Nat
  low : Nat
  high : Nat

def leadByte? (byte : UInt8) : Option LeadByte :=
  let b := byte.toNat
  if b < 0x80 then some ⟨b, 0, 0x80, 0xBF⟩
  else if b < 0xC2 then none
  else if b < 0xE0 then some ⟨b % 32, 1, 0x80, 0xBF⟩
  else if b == 0xE0 then some ⟨0, 2, 0xA0, 0xBF⟩
  else if b == 0xED then some ⟨13, 2, 0x80, 0x9F⟩
  else if b < 0xF0 then some ⟨b % 16, 2, 0x80, 0xBF⟩
  else if b == 0xF0 then some ⟨0, 3, 0x90, 0xBF⟩
  else if b < 0xF4 then some ⟨b % 8, 3, 0x80, 0xBF⟩
  else if b == 0xF4 then some ⟨4, 3, 0x80, 0x8F⟩
  else none

/-- Takes the following bytes of a character: its code point if all are there, and the bytes that
were not taken. -/
def followingBytes (code : Nat) : Nat → Nat → Nat → Bytes → Option Nat × Bytes
  | 0, _, _, rest => (some code, rest)
  | _ + 1, _, _, [] => (none, [])
  | count + 1, low, high, byte :: rest =>
    if low ≤ byte.toNat && byte.toNat ≤ high then
      followingBytes (64 * code + byte.toNat % 64) count 0x80 0xBF rest
    else (none, byte :: rest)

theorem length_followingBytes (code count low high : Nat) (bytes : Bytes) :
    (followingBytes code count low high bytes).2.length ≤ bytes.length := by
  induction count generalizing code low high bytes with
  | zero => simp [followingBytes]
  | succ count ih =>
    cases bytes with
    | nil => simp [followingBytes]
    | cons byte rest =>
      rw [followingBytes]
      split
      · exact Nat.le_succ_of_le (ih ..)
      · simp

/-- The first character, or `none` for a malformed piece, and the bytes after it. -/
def decodeFirst (byte : UInt8) (rest : Bytes) : Option Char × Bytes :=
  match leadByte? byte with
  | none => (none, rest)
  | some lead =>
    let (code, rest) := followingBytes lead.payload lead.following lead.low lead.high rest
    (code.map Char.ofNat, rest)

theorem length_decodeFirst (byte : UInt8) (rest : Bytes) :
    (decodeFirst byte rest).2.length ≤ rest.length := by
  unfold decodeFirst
  split
  · simp
  · exact length_followingBytes ..

/-- The characters and, as `none`, the malformed pieces. -/
def decodeUtf8 : Bytes → List (Option Char)
  | [] => []
  | byte :: rest => (decodeFirst byte rest).1 :: decodeUtf8 (decodeFirst byte rest).2
termination_by bytes => bytes.length
decreasing_by exact Nat.lt_succ_of_le (length_decodeFirst byte rest)

/-- The text of well-formed bytes. -/
def decodeStrict? (bytes : Bytes) : Option (List Char) :=
  (decodeUtf8 bytes).mapM id

/-- The text of any bytes, with U+FFFD for each malformed piece. -/
def decodeLenient (bytes : Bytes) : List Char :=
  (decodeUtf8 bytes).map (·.getD '\uFFFD')

end Pseudocode.Text
