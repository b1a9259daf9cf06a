import RegistryHive.Text.Quoted

/-! Why an operation failed. Each cause is a constructor with the facts of the failure, and its
wording stands in `Error.message` alone. -/
namespace RegistryHive

open Text

/-- What went wrong below the registry file: in the file system or in a stream. -/
inductive IoFailure where
  | noSuchFile
  | isDirectory
  /-- A stream ended before the length it had reported. -/
  | endedEarly
  | other (text : String)
deriving DecidableEq, Repr

def IoFailure.message : IoFailure → String
  | .noSuchFile => "No such file or directory (os error 2)"
  | .isDirectory => "Is a directory (os error 21)"
  | .endedEarly => "failed to fill whole buffer"
  | .other text => text

inductive BadArgument where
  | emptyPath
  | notRegularFile (path : String)
  | subKeyIndex (index count : Nat)
  | valueIndex (index count : Nat)
  | other (text : String)
deriving DecidableEq, Repr

def BadArgument.message : BadArgument → String
  | .emptyPath => "empty path"
  | .notRegularFile path => path ++ " is not a regular file"
  | .subKeyIndex index count => s!"index {index} out of range ({count} sub keys)"
  | .valueIndex index count => s!"index {index} out of range ({count} values)"
  | .other text => text

/-- Violations of the file format that no other error names. -/
inductive Malformation where
  | navigationSize (size : Nat)
  | noRootKey
  | noBlockSignature (offset : Nat)
  | blockSize (offset size : Nat)
  | blockEntrySize (block number position size : Nat)
  | blockNumber (number count : Nat)
  | entryNumber (number block count : Nat)
  | nameEntrySize (offset size : Nat)
  | nameEntryUsedSize (offset size : Nat)
  | nameSize (offset size : Nat)
  | integerSize (bits offset size : Nat)
  | subKeyCycle (key entry : Nat)
  | other (text : String)
deriving DecidableEq, Repr

def Malformation.message : Malformation → String
  | .navigationSize size => s!"Key navigation size {size} is smaller than its header"
  | .noRootKey => "Key navigation has no root key"
  | .noBlockSignature offset => s!"Missing data block signature at {address offset}"
  | .blockSize offset size => s!"Data block at {address offset} has invalid size {size}"
  | .blockEntrySize block number position size =>
    s!"Data block at {address block} entry {number} at offset {address position} has invalid size {size}"
  | .blockNumber number count => s!"Data block {number} out of range ({count} blocks)"
  | .entryNumber number block count =>
    s!"Key name entry {number} out of range in data block {block} ({count} entries)"
  | .nameEntrySize offset size => s!"Key name entry at {address offset} has invalid size {size}"
  | .nameEntryUsedSize offset size =>
    s!"Key name entry at {address offset} has invalid used size {size}"
  | .nameSize offset size =>
    s!"Key name entry at {address offset} has name size {size} beyond its used size"
  | .integerSize bits offset size => s!"{bits}-bit value data at {address offset} has {size} bytes"
  | .subKeyCycle key entry =>
    s!"Cycle in sub key chain of key at {address key}: entry {address entry} revisited"
  | .other text => text

inductive Error where
  | io (failure : IoFailure)
  | invalidArgument (operation : String) (reason : BadArgument)
  | unsupportedMode (operation mode : String)
  | alreadyOpen (operation : String)
  | notOpen (operation : String)
  | unsupportedCodepage (name : String)
  | invalidSignature (expected found : List UInt8)
  | fileTooSmall (size minimum : Nat)
  | invalidFormat (cause : Malformation)
  | invalidOffset (offset limit : Nat)
  | truncated (offset expected actual : Nat)
  | notFound (item name : String)
  | valueTypeMismatch (requested actual : String)
  | aborted (operation : String)
  /-- A range of bytes that its own data does not hold was asked for. No input leads here. -/
  | outOfRange (low high : Nat)
deriving DecidableEq, Repr

/-- Coarse classes of errors. -/
inductive ErrorKind where
  | invalidArgument
  | unsupportedMode
  | alreadyOpen
  | notOpen
  | unsupportedCodepage
  | corruptHeader
  | corruptData
  | notFound
  | valueType
  | io
  | aborted
  | outOfRange
deriving DecidableEq, Repr

namespace Error

def kind : Error → ErrorKind
  | .io _ => .io
  | .invalidArgument .. => .invalidArgument
  | .unsupportedMode .. => .unsupportedMode
  | .alreadyOpen _ => .alreadyOpen
  | .notOpen _ => .notOpen
  | .unsupportedCodepage _ => .unsupportedCodepage
  | .invalidSignature .. | .fileTooSmall .. => .corruptHeader
  | .invalidFormat _ | .invalidOffset .. | .truncated .. => .corruptData
  | .notFound .. => .notFound
  | .valueTypeMismatch .. => .valueType
  | .aborted _ => .aborted
  | .outOfRange .. => .outOfRange

/-- Bytes as a list of decimal numbers, such as `[67, 82]`. -/
def listed (bytes : List UInt8) : String :=
  "[" ++ ", ".intercalate (bytes.map fun byte => toString byte.toNat) ++ "]"

def message : Error → String
  | .io failure => "I/O error: " ++ failure.message
  | .invalidArgument operation reason => s!"{operation}: invalid argument: {reason.message}"
  | .unsupportedMode operation mode => s!"{operation}: unsupported access mode: {mode}"
  | .alreadyOpen operation => operation ++ ": file already open"
  | .notOpen operation => operation ++ ": file not open"
  | .unsupportedCodepage name => "unsupported ASCII codepage: " ++ quoted name
  | .invalidSignature expected found =>
    s!"Invalid signature: expected {listed expected}, found {listed found}"
  | .fileTooSmall size minimum => s!"File too small: {size} bytes (minimum: {minimum} bytes)"
  | .invalidFormat cause => "Invalid registry file format: " ++ cause.message
  | .invalidOffset offset limit => s!"Invalid offset: {address offset} (limit: {address limit})"
  | .truncated offset expected actual =>
    s!"Truncated data at offset {address offset}: expected {expected} bytes, got {actual} bytes"
  | .notFound item name => "Not found: " ++ item ++ " '" ++ name ++ "'"
  | .valueTypeMismatch requested actual =>
    s!"Value type mismatch: {requested} requested, value is {actual}"
  | .aborted operation => operation ++ ": aborted"
  | .outOfRange low high => s!"range {low} to {high} out of bounds"

end Error

/-- Fails with `error` unless `condition` holds. -/
@[macro_inline] def require (condition : Prop) [Decidable condition] (error : Error) :
    Except Error Unit :=
  if condition then .ok () else .error error

theorem require_ok_iff {condition : Prop} [Decidable condition] {error : Error} :
    require condition error = .ok () ↔ condition := by
  unfold require
  split <;> simp_all

end RegistryHive
