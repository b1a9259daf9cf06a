import RegistryHive.FileHeader

/-! The key navigation block, which follows the file header and holds the key hierarchy: entries of
one size, linked by offsets that count from the start of the block. -/
namespace RegistryHive

open Text

/-- Where the key name entry of a key is: the place of its data block, and its place there. -/
structure Location where
  block : Nat
  entry : Nat
deriving DecidableEq, Repr

/-- A key in the hierarchy, with the offsets as stored. -/
structure HierarchyEntry where
  nameHash : Nat
  parent : Nat
  firstSubKey : Nat
  nextSibling : Nat
  entryNumber : Nat
  blockNumber : Nat
deriving DecidableEq, Repr

namespace HierarchyEntry

def byteSize : Nat := 28

def parse (data : Bytes) (offset : Nat) : Except Error HierarchyEntry := do
  require (data.holds byteSize) (.truncated offset byteSize data.length)
  let nameHash ← data.u32At 0x04
  let parent ← data.u32At 0x0C
  let firstSubKey ← data.u32At 0x10
  let nextSibling ← data.u32At 0x14
  let entryNumber ← data.u16At 0x18
  let blockNumber ← data.u16At 0x1A
  return { nameHash, parent, firstSubKey, nextSibling, entryNumber, blockNumber }

/-- A block number with its sign bit set means that the key has no name entry. -/
def location (entry : HierarchyEntry) : Option Location :=
  if entry.blockNumber < 0x8000 then some ⟨entry.blockNumber, entry.entryNumber⟩ else none

def describe (entry : HierarchyEntry) : String :=
  s!"KeyHierarchyEntry \x7b name_hash: {entry.nameHash}, " ++
  s!"parent_key_offset: {entry.parent}, sub_key_offset: {entry.firstSubKey}, " ++
  s!"next_key_offset: {entry.nextSibling}, key_name_entry_number: {entry.entryNumber}, " ++
  s!"data_block_number: {entry.blockNumber} \x7d"

end HierarchyEntry

structure Navigation where
  /-- The size of the block, its header included. -/
  size : Nat
  /-- The offset of the root key, as stored. -/
  root : Nat
deriving DecidableEq, Repr

namespace Navigation

/-- The absolute offset of the block. -/
def start : Nat := FileHeader.byteSize

def headerSize : Nat := 32

def parse (data : Bytes) : Except Error Navigation := do
  require (data.holds headerSize) (.truncated start headerSize data.length)
  Signature.navigation.check data
  let size ← data.u32At 0x04
  let root ← data.u32At 0x08
  require (headerSize ≤ size) (.invalidFormat (.navigationSize size))
  return { size, root }

/-- The absolute offset of what is at `offset` in the block. -/
def absolute (offset : Nat) : Nat := start + offset

end Navigation

/-- Whether a whole hierarchy entry fits at an offset, after the header. -/
def Navigation.Holds (navigation : Navigation) (offset : Nat) : Prop :=
  headerSize ≤ offset ∧ offset + HierarchyEntry.byteSize ≤ navigation.size

instance (navigation : Navigation) (offset : Nat) : Decidable (navigation.Holds offset) :=
  inferInstanceAs (Decidable (_ ∧ _))

def Navigation.checkEntry (navigation : Navigation) (offset : Nat) :
    Except Error (PLift (navigation.Holds offset)) :=
  if inside : navigation.Holds offset then .ok ⟨inside⟩
  else .error (.invalidOffset offset navigation.size)

end RegistryHive
