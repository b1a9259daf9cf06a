import RegistryHive.Bytes
import RegistryHive.DataBlock
import RegistryHive.ValueType

namespace RegistryHive

/-- A value as it is stored. -/
structure ValueEntry where
  /-- The absolute offset of the entry. -/
  offset : Nat
  type : ValueType
  name : Bytes
  data : Bytes
deriving DecidableEq, Repr

namespace ValueEntry

def headerSize : Nat := 12

/-- Reads the entry at the start of `data`, which ends with the used area of the key name entry. -/
def parse (data : Bytes) (offset : Nat) : Except Error ValueEntry := do
  require (data.holds headerSize) (.truncated offset headerSize data.length)
  let number ← data.u32At 0x00
  let nameSize ← data.u16At 0x08
  let dataSize ← data.u16At 0x0A
  let size := headerSize + nameSize + dataSize
  require (data.holds size) (.truncated offset size data.length)
  let nameEnd := headerSize + nameSize
  let name ← data.slice headerSize nameEnd
  let content ← data.slice nameEnd size
  return ⟨offset, .ofNumber number, name, content⟩

/-- The number of bytes that the entry takes. -/
def size (entry : ValueEntry) : Nat := headerSize + entry.name.length + entry.data.length

/-- Reads `count` entries one after another. Those read before are in `found`, latest first. -/
def parseAll (data : Bytes) (offset : Nat) (found : List ValueEntry) :
    (count : Nat) → Except Error (List ValueEntry)
  | 0 => .ok found.reverse
  | count + 1 => do
    let entry ← parse data offset
    let rest ← data.skip entry.size
    parseAll rest (offset + entry.size) (entry :: found) count

end ValueEntry

structure KeyNameEntry where
  /-- The absolute offset of the entry. -/
  offset : Nat
  size : Nat
  /-- The number of the entry that the writer recorded, which nothing relies on. -/
  index : Nat
  /-- The bytes in use, the header included. -/
  usedSize : Nat
  name : Bytes
  values : List ValueEntry
deriving DecidableEq, Repr

namespace KeyNameEntry

def headerSize : Nat := leastEntrySize

def parse (data : Bytes) (offset : Nat) : Except Error KeyNameEntry := do
  require (data.holds headerSize) (.truncated offset headerSize data.length)
  let size ← data.u32At 0x00
  require (headerSize ≤ size ∧ data.holds size) (.invalidFormat (.nameEntrySize offset size))
  let index ← data.u16At 0x04
  let usedSize ← data.u32At 0x08
  let nameSize ← data.u16At 0x0C
  let count ← data.u16At 0x0E
  require (headerSize ≤ usedSize ∧ usedSize ≤ size)
    (.invalidFormat (.nameEntryUsedSize offset usedSize))
  let nameEnd := headerSize + nameSize
  require (nameEnd ≤ usedSize) (.invalidFormat (.nameSize offset nameSize))
  let name ← data.slice headerSize nameEnd
  let records ← data.slice nameEnd usedSize
  let values ← ValueEntry.parseAll records (offset + nameEnd) [] count
  return { offset, size, index, usedSize, name, values }

end KeyNameEntry

end RegistryHive
