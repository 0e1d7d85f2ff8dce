import Pseudocode.Text.Utf8

/-!
Memory: bytes at all addresses, of which only a first part is stored and the others are zero. An
operation is described by what it does to the byte at each address.
-/

namespace Pseudocode

open Text (Bytes)

structure Memory where
  stored : Bytes
  deriving DecidableEq, Repr

namespace Memory

def zeros : Memory := ⟨[]⟩

def byte (m : Memory) (address : Nat) : UInt8 := m.stored[address]?.getD 0

/-- The bytes from `address` on, as far as they are stored. -/
def storedFrom (m : Memory) (address : Nat) : Bytes := m.stored.drop address

/-- The first `size` bytes. -/
def image (m : Memory) (size : Nat) : Bytes :=
  m.stored.take size ++ List.replicate (size - m.stored.length) 0

def write (m : Memory) (address : Nat) (bytes : Bytes) : Memory :=
  ⟨m.image address ++ bytes ++ m.stored.drop (address + bytes.length)⟩

/-- Makes `size` bytes zero, of which only the stored ones need to be written. -/
def clear (m : Memory) (address size : Nat) : Memory :=
  m.write address (List.replicate (min size (m.stored.length - address)) 0)

@[simp] theorem length_image (m : Memory) (size : Nat) : (m.image size).length = size := by
  simp [image]
  omega

theorem getElem?_image (m : Memory) {size i : Nat} (h : i < size) :
    (m.image size)[i]? = some (m.byte i) := by
  by_cases hi : i < m.stored.length
  · rw [image, List.getElem?_append_left (by simp; omega)]
    simp [byte, h, hi]
  · have hlen : m.stored.length ≤ i := Nat.le_of_not_lt hi
    rw [image, List.getElem?_append_right (by simp; omega)]
    simp [byte, hlen, List.getElem?_replicate]
    omega

@[simp] theorem byte_zeros (i : Nat) : zeros.byte i = 0 := rfl

theorem byte_write (m : Memory) (address i : Nat) (bytes : Bytes) :
    (m.write address bytes).byte i =
      if address ≤ i ∧ i < address + bytes.length then bytes[i - address]?.getD 0
      else m.byte i := by
  simp only [write, byte]
  by_cases h₁ : i < address
  · rw [List.append_assoc, List.getElem?_append_left (by simpa using h₁), getElem?_image m h₁]
    simp [byte]
    omega
  · by_cases h₂ : i < address + bytes.length
    · rw [List.getElem?_append_left (by simp; omega), List.getElem?_append_right (by simp; omega)]
      simp [h₂, Nat.le_of_not_lt h₁]
    · rw [List.getElem?_append_right (by simp; omega)]
      have : address + bytes.length + (i - (address + bytes.length)) = i := by omega
      simp [h₂, this]

theorem byte_clear (m : Memory) (address size i : Nat) :
    (m.clear address size).byte i =
      if address ≤ i ∧ i < address + size then 0 else m.byte i := by
  rw [clear, byte_write]
  simp only [List.length_replicate]
  by_cases h : address ≤ i ∧ i < address + size
  · by_cases hi : i < m.stored.length
    · have : i - address < min size (m.stored.length - address) := by omega
      rw [if_pos (by omega), if_pos h]
      simp [this]
    · rw [if_neg (by omega), if_pos h]
      simp [byte, Nat.le_of_not_lt hi]
  · rw [if_neg (by omega), if_neg h]

end Memory

end Pseudocode
