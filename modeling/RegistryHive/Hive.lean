import RegistryHive.Codepage
import RegistryHive.Session

namespace RegistryHive

open Text

structure Hive where
  header : FileHeader
  navigation : Navigation
  /-- The headers of all data blocks, in file order. -/
  dataBlocks : List BlockHeader
  codepage : Codepage

/-- A key, at the offset of its hierarchy entry in the navigation block. -/
structure Key where
  offset : Nat
  entry : HierarchyEntry
deriving DecidableEq, Repr

namespace Hive

/-- The least size of a registry file: its two headers. -/
def minimumSize : Nat := FileHeader.byteSize + Navigation.headerSize

/-- Reads the block headers from `offset` to the end of the file. The headers read before are in
`found`, latest first. -/
def scan (size offset : Nat) (found : List BlockHeader) : Action (List BlockHeader) := do
  if offset < size then
    Action.checkAbort "open"
    if offset + BlockHeader.byteSize ≤ size then
      let data ← Action.read offset BlockHeader.byteSize
      if Signature.dataBlock.opens data then
        let block ← BlockHeader.parse data offset
        require (block.nextOffset ≤ size) (.truncated offset block.size (size - offset))
        have := block.holdsHeader
        scan size (offset + block.size) (block :: found)
      else
        require found.isEmpty (.invalidFormat (.noBlockSignature offset))
        return []
    else return found.reverse
  else return found.reverse
termination_by size - offset

/-- Validates the headers of the source and finds its data blocks. -/
def attach (codepage : Codepage) : Action Hive := do
  Action.checkAbort "open"
  let header ← FileHeader.parse (← Action.read 0 FileHeader.byteSize)
  let navigation ← Navigation.parse (← Action.read Navigation.start Navigation.headerSize)
  let size := (← get).source.size
  require (Navigation.start + navigation.size ≤ size)
    (.truncated Navigation.start navigation.size (size - Navigation.start))
  let dataBlocks ← scan size header.dataBlocksOffset []
  return { header, navigation, dataBlocks, codepage }

def hiveType (hive : Hive) : HiveType := hive.header.hiveType

def describe (hive : Hive) (source : Source) : String :=
  s!"Hive \x7b source: {source.describe}, hive_type: {hive.hiveType.describe}, " ++
  s!"data_blocks: {hive.dataBlocks.length}, codepage: {hive.codepage.title} \x7d"

/-- Reads the hierarchy entry of a key. -/
def readKey (offset : Nat) : Action Key := do
  let data ← Action.read (Navigation.absolute offset) HierarchyEntry.byteSize
  let entry ← HierarchyEntry.parse data offset
  return ⟨offset, entry⟩

def keyAt (hive : Hive) (offset : Nat) : Action Key := do
  let _ ← hive.navigation.checkEntry offset
  readKey offset

/-- The data block with a number, read when it is first used. -/
def dataBlock (hive : Hive) (number : Nat) : Action DataBlock := do
  if let some block := (← get).blocks[number]? then return block
  match hive.dataBlocks[number]? with
  | none => throw (.invalidFormat (.blockNumber number hive.dataBlocks.length))
  | some header =>
    let data ← Action.read header.dataOffset header.dataSize
    let block ← DataBlock.ofData header data
    modify fun session => { session with blocks := session.blocks.insert number block }
    return block

/-- The key name entry at a location, parsed when it is first used. -/
def nameEntryAt (hive : Hive) (location : Location) : Action KeyNameEntry := do
  if let some entry := (← get).entries[location]? then return entry
  let block ← hive.dataBlock location.block
  match block.entry? location.entry with
  | none =>
    throw (.invalidFormat (.entryNumber location.entry location.block block.numberOfEntries))
  | some (offset, data) =>
    let entry ← KeyNameEntry.parse data offset
    modify fun session => { session with entries := session.entries.insert location entry }
    return entry

/-- The key name entry of a key, which the root key for one does not have. -/
def nameEntry (hive : Hive) (key : Key) : Action (Option KeyNameEntry) := do
  match key.entry.location with
  | none => return none
  | some location => return some (← hive.nameEntryAt location)

def rootKey (hive : Hive) : Action Key :=
  match storedOffset hive.navigation.root with
  | none => throw (.invalidFormat .noRootKey)
  | some offset => hive.keyAt offset

end Hive

end RegistryHive
