import RegistryHive.Bytes

namespace RegistryHive

/-- The least size of an entry in a data block, which is that of a key name entry without a name. -/
def leastEntrySize : Nat := 20

structure BlockHeader where
  /-- The absolute offset of the block. -/
  offset : Nat
  /-- The size of the block, its header included. -/
  size : Nat
  unusedSize : Nat
  /-- The number of the block that the writer recorded, which nothing relies on. -/
  index : Nat
  /-- The bytes in use, as stored: with the sign bit set, all of them. -/
  usedSize : Nat
  holdsHeader : 32 ≤ size
deriving Repr

namespace BlockHeader

def byteSize : Nat := 32

def parse (data : Bytes) (offset : Nat) : Except Error BlockHeader := do
  require (data.holds byteSize) (.truncated offset byteSize data.length)
  Signature.dataBlock.check data
  let size ← data.u32At 0x04
  if holdsHeader : 32 ≤ size then
    let unusedSize ← data.u32At 0x08
    let index ← data.u16At 0x0E
    let usedSize ← data.u32At 0x10
    return { offset, size, unusedSize, index, usedSize, holdsHeader }
  else throw (.invalidFormat (.blockSize offset size))

/-- The size of the area after the header. -/
def dataSize (header : BlockHeader) : Nat := header.size - byteSize

/-- The part of the data area in which entries may begin. -/
def entriesSize (header : BlockHeader) : Nat :=
  if header.usedSize < 0x80000000 then min (header.usedSize - byteSize) header.dataSize
  else header.dataSize

/-- The absolute offset of the data area. -/
def dataOffset (header : BlockHeader) : Nat := header.offset + byteSize

/-- The absolute offset after the block. -/
def nextOffset (header : BlockHeader) : Nat := header.offset + header.size

end BlockHeader

/-- An entry of a data block, and where in the data area it begins. -/
structure BlockEntry where
  position : Nat
  bytes : Bytes
deriving DecidableEq, Repr

structure DataBlock where
  header : BlockHeader
  entries : Array BlockEntry

namespace DataBlock

/-- Cuts entries off the last `remaining` bytes of a data area, which begin at `position`. The
entries found before are in `found`, latest first. -/
def cut (header : BlockHeader) (limit position remaining : Nat) (rest : Bytes)
    (found : List BlockEntry) : Except Error (List BlockEntry) :=
  if position < limit ∧ leastEntrySize ≤ remaining then do
    let size ← rest.u32At 0
    if fits : leastEntrySize ≤ size ∧ size ≤ remaining then
      have shorter : remaining - size < remaining := by
        have nonempty : 0 < size := Nat.lt_of_lt_of_le (by decide) fits.1
        omega
      let bytes ← rest.slice 0 size
      let after ← rest.skip size
      cut header limit (position + size) (remaining - size) after (⟨position, bytes⟩ :: found)
    else throw (.invalidFormat (.blockEntrySize header.offset found.length position size))
  else return found.reverse
termination_by remaining
decreasing_by exact shorter

def ofData (header : BlockHeader) (data : Bytes) : Except Error DataBlock := do
  let size := data.length
  let entries ← cut header (min header.entriesSize size) 0 size data []
  return ⟨header, entries.toArray⟩

def numberOfEntries (block : DataBlock) : Nat := block.entries.size

/-- The absolute offset and the bytes of an entry. -/
def entry? (block : DataBlock) (number : Nat) : Option (Nat × Bytes) :=
  block.entries[number]?.map fun entry => (block.header.dataOffset + entry.position, entry.bytes)

end DataBlock

end RegistryHive
