import RegistryHive.Bytes

namespace RegistryHive

open Text

/-- What the format version says about a registry file. -/
inductive HiveType where
  | ordinary
  | unknown (major minor : Nat)
deriving DecidableEq, Repr

namespace HiveType

def description : HiveType → String
  | .ordinary => "ordinary hive"
  | .unknown .. => "unknown"

def display : HiveType → String
  | .ordinary => HiveType.ordinary.description
  | type@(.unknown major minor) => s!"{type.description} (version {major}.{minor})"

/-- The text in descriptions of open files. -/
def describe : HiveType → String
  | .ordinary => "Ordinary"
  | .unknown major minor => s!"Unknown \x7b major: {major}, minor: {minor} \x7d"

end HiveType

structure FileHeader where
  majorVersion : Nat
  minorVersion : Nat
  /-- The absolute offset of the first data block. -/
  dataBlocksOffset : Nat
  /-- The number of data blocks that the writer recorded, which nothing relies on. -/
  numberOfDataBlocks : Nat
deriving DecidableEq, Repr

namespace FileHeader

def byteSize : Nat := 32

def parse (data : Bytes) : Except Error FileHeader := do
  require (data.holds byteSize) (.truncated 0 byteSize data.length)
  Signature.file.check data
  let minorVersion ← data.u16At 0x04
  let majorVersion ← data.u16At 0x06
  let dataBlocksOffset ← data.u32At 0x08
  let numberOfDataBlocks ← data.u16At 0x10
  return { majorVersion, minorVersion, dataBlocksOffset, numberOfDataBlocks }

def hiveType (header : FileHeader) : HiveType :=
  if header.majorVersion = 1 then .ordinary
  else .unknown header.majorVersion header.minorVersion

def display (header : FileHeader) : String :=
  "Registry File Header:\n" ++
  s!"- Version: {header.majorVersion}.{header.minorVersion}\n" ++
  s!"- Data Blocks Offset: {address header.dataBlocksOffset}\n" ++
  s!"- Data Blocks: {header.numberOfDataBlocks}"

end FileHeader

end RegistryHive
