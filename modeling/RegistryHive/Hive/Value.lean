import RegistryHive.Codepage
import RegistryHive.KeyNameEntry
import RegistryHive.Text.Runs

namespace RegistryHive

open Text

inductive ValueData where
  | none
  | string (text : String)
  | expandString (text : String)
  | link (text : String)
  | binary (data : Bytes)
  | dword (number : Nat)
  | dwordBigEndian (number : Nat)
  | multiString (texts : List String)
  | qword (number : Nat)
  /-- Resource descriptors, and data of an unknown type. -/
  | unknown (data : Bytes)
deriving DecidableEq, Repr

/-- The data of an integer, which must have exactly the bytes of one. -/
def integerBytes (bits : Nat) (data : Bytes) (offset : Nat) : Except Error Bytes :=
  let size := data.length
  if size < bits / 8 then .error (.truncated offset (bits / 8) size)
  else if bits / 8 < size then .error (.invalidFormat (.integerSize bits offset size))
  else .ok data

def dwordIn (data : Bytes) (offset : Nat) : Except Error Nat :=
  (integerBytes 32 data offset).map Bytes.littleEndian

def dwordBigEndianIn (data : Bytes) (offset : Nat) : Except Error Nat :=
  (integerBytes 32 data offset).map Bytes.bigEndian

def qwordIn (data : Bytes) (offset : Nat) : Except Error Nat :=
  (integerBytes 64 data offset).map Bytes.littleEndian

namespace ValueData

/-- The strings between NUL bytes. Empty ones are left out. -/
def stringsIn (codepage : Codepage) (data : Bytes) : List String :=
  (runs (· == 0) data).map codepage.decode

def parse (data : Bytes) (type : ValueType) (codepage : Codepage) (offset : Nat) :
    Except Error ValueData :=
  if data.isEmpty then .ok .none
  else
    match type with
    | .none => .ok .none
    | .string => .ok (.string (codepage.decode data))
    | .expandString => .ok (.expandString (codepage.decode data))
    | .link => .ok (.link (codepage.decode data))
    | .binary => .ok (.binary data)
    | .dword => (dwordIn data offset).map .dword
    | .dwordBigEndian => (dwordBigEndianIn data offset).map .dwordBigEndian
    | .qword => (qwordIn data offset).map .qword
    | .multiString => .ok (.multiString (stringsIn codepage data))
    | _ => .ok (.unknown data)

def display : ValueData → String
  | .none => "(none)"
  | .string text | .expandString text | .link text => text
  | .binary data | .unknown data => hexBytes data
  | .dword number | .dwordBigEndian number => s!"{number} ({upperField 8 number})"
  | .qword number => s!"{number} ({upperField 16 number})"
  | .multiString texts => ", ".intercalate texts

end ValueData

namespace ValueEntry

def decodedName (value : ValueEntry) (codepage : Codepage) : String := codepage.decode value.name

def parsed (value : ValueEntry) (codepage : Codepage) : Except Error ValueData :=
  ValueData.parse value.data value.type codepage value.offset

/-- The error of asking a value for data of another type. -/
def mismatch {α : Type} (value : ValueEntry) (requested : String) : Except Error α :=
  .error (.valueTypeMismatch requested value.type.identifier)

/-- The number in a 32-bit value of either byte order. -/
def number32 (value : ValueEntry) : Except Error Nat :=
  match value.type with
  | .dword => dwordIn value.data value.offset
  | .dwordBigEndian => dwordBigEndianIn value.data value.offset
  | _ => value.mismatch "value_32bit"

def number64 (value : ValueEntry) : Except Error Nat :=
  match value.type with
  | .qword => qwordIn value.data value.offset
  | _ => value.mismatch "value_64bit"

def text (value : ValueEntry) (codepage : Codepage) : Except Error String :=
  if value.type.isString then .ok (codepage.decode value.data) else value.mismatch "value_string"

def binary (value : ValueEntry) : Except Error Bytes :=
  match value.type with
  | .binary => .ok value.data
  | _ => value.mismatch "binary_data"

def describe (value : ValueEntry) : String :=
  s!"Value \x7b offset: {address value.offset}, value_type: {value.type.describe}, " ++
  s!"data_size: {value.data.length} \x7d"

end ValueEntry

/-- What can be asked of a value. -/
inductive Getter : Type → Type where
  | offset : Getter Nat
  | name : Getter String
  | type : Getter ValueType
  | data : Getter Bytes
  | dataSize : Getter Nat
  | parsed : Getter ValueData
  | number32 : Getter Nat
  | number64 : Getter Nat
  | text : Getter String
  | binary : Getter Bytes
  | description : Getter String

def Getter.read {α : Type} : Getter α → ValueEntry → Codepage → Except Error α
  | .offset, entry, _ => .ok entry.offset
  | .name, entry, codepage => .ok (entry.decodedName codepage)
  | .type, entry, _ => .ok entry.type
  | .data, entry, _ => .ok entry.data
  | .dataSize, entry, _ => .ok entry.data.length
  | .parsed, entry, codepage => entry.parsed codepage
  | .number32, entry, _ => entry.number32
  | .number64, entry, _ => entry.number64
  | .text, entry, codepage => entry.text codepage
  | .binary, entry, _ => entry.binary
  | .description, entry, _ => .ok entry.describe

/-- A value of a key, by its index among the values of a key name entry. -/
structure Value where
  keyEntry : KeyNameEntry
  index : Nat

namespace Value

/-- The entry of the value. Its index must be in range. -/
def entry (value : Value) : Except Error ValueEntry :=
  match value.keyEntry.values[value.index]? with
  | some entry => .ok entry
  | none => .error (.outOfRange value.index value.keyEntry.values.length)

def entries (values : List Value) : Except Error (List ValueEntry) := values.mapM entry

/-- What the value answers. The entry is looked up anew for every question. -/
def get {α : Type} (value : Value) (codepage : Codepage) (getter : Getter α) : Except Error α := do
  getter.read (← value.entry) codepage

/-- All values of a key with this key name entry, if it has one, in file order. -/
def listed : Option KeyNameEntry → List Value
  | none => []
  | some keyEntry => (List.range keyEntry.values.length).map fun index => ⟨keyEntry, index⟩

/-- The value at an index, which must be below their number. -/
def atIndex (found : Option KeyNameEntry) (index : Nat) : Except Error Value :=
  let count := found.elim 0 fun keyEntry => keyEntry.values.length
  match found with
  | some keyEntry =>
    if index < count then .ok ⟨keyEntry, index⟩
    else .error (.invalidArgument "value" (.valueIndex index count))
  | none => .error (.invalidArgument "value" (.valueIndex index count))

end Value

end RegistryHive
