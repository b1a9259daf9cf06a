import RegistryHive.Error

/-! Byte strings and the fields read from them. Reading a field of a file reports what is missing;
cutting a range checks itself. -/
namespace RegistryHive

abbrev Bytes := List UInt8

namespace Bytes

/-- The number that the bytes write, least significant first. -/
def littleEndian : Bytes → Nat
  | [] => 0
  | byte :: rest => byte.toNat + 256 * littleEndian rest

/-- The last `width` bytes of a number, least significant first. -/
def ofNumber : (width number : Nat) → Bytes
  | 0, _ => []
  | width + 1, number => UInt8.ofNat number :: ofNumber width (number / 256)

def zeros (count : Nat) : Bytes := List.replicate count 0

/-- The number that the bytes write, most significant first. -/
def bigEndian (data : Bytes) : Nat := littleEndian data.reverse

/-- Whether there are at least `count` bytes. -/
def holds (data : Bytes) (count : Nat) : Bool := (data.take count).length == count

/-- The number in the `width` bytes at `offset`. -/
def numberAt (data : Bytes) (offset width : Nat) : Except Error Nat :=
  let field := (data.drop offset).take width
  if field.length = width then .ok (littleEndian field)
  else .error (.truncated offset width (data.length - offset))

def u16At (data : Bytes) (offset : Nat) : Except Error Nat := data.numberAt offset 2

def u32At (data : Bytes) (offset : Nat) : Except Error Nat := data.numberAt offset 4

/-- The bytes from `low` up to `high`. -/
def slice (data : Bytes) (low high : Nat) : Except Error Bytes :=
  if low ≤ high && holds data high then .ok ((data.take high).drop low)
  else .error (.outOfRange low high)

/-- The bytes after the first `count`. -/
def skip (data : Bytes) (count : Nat) : Except Error Bytes :=
  if holds data count then .ok (data.drop count) else .error (.outOfRange count count)

@[simp] theorem length_ofNumber (width number : Nat) : (ofNumber width number).length = width := by
  induction width generalizing number with
  | zero => rfl
  | succ width ih => simp [ofNumber, ih]

@[simp] theorem holds_iff {data : Bytes} {count : Nat} :
    data.holds count = true ↔ count ≤ data.length := by
  simp only [holds, beq_iff_eq, List.length_take]
  omega

theorem numberAt_of_le {data : Bytes} {offset width : Nat} (inside : offset + width ≤ data.length) :
    data.numberAt offset width = .ok (littleEndian ((data.drop offset).take width)) := by
  simp only [numberAt, List.length_take, List.length_drop]
  rw [if_pos (by omega)]

theorem slice_of_le {data : Bytes} {low high : Nat} (ordered : low ≤ high)
    (inside : high ≤ data.length) : data.slice low high = .ok ((data.take high).drop low) := by
  simp [slice, ordered, inside]

theorem skip_of_le {data : Bytes} {count : Nat} (inside : count ≤ data.length) :
    data.skip count = .ok (data.drop count) := by
  simp [skip, inside]

end Bytes

/-- The four bytes at the start of a file or block that tell what it is. -/
structure Signature where
  bytes : Bytes
  four : bytes.length = 4 := by rfl

namespace Signature

/-- The letters CREG. -/
def file : Signature := ⟨[0x43, 0x52, 0x45, 0x47], rfl⟩

/-- The letters RGKN. -/
def navigation : Signature := ⟨[0x52, 0x47, 0x4B, 0x4E], rfl⟩

/-- The letters RGDB. -/
def dataBlock : Signature := ⟨[0x52, 0x47, 0x44, 0x42], rfl⟩

def opens (signature : Signature) (data : Bytes) : Bool := data.take 4 == signature.bytes

def check (signature : Signature) (data : Bytes) : Except Error Unit :=
  if !data.holds 4 then .error (.truncated 0 4 data.length)
  else if signature.opens data then .ok ()
  else .error (.invalidSignature signature.bytes (data.take 4))

end Signature

/-- A stored offset; its sign bit means that there is none. -/
def storedOffset (raw : Nat) : Option Nat := if raw < 0x80000000 then some raw else none

end RegistryHive
