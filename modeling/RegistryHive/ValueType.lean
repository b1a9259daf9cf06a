import RegistryHive.Text.Quoted

namespace RegistryHive

open Text

inductive ValueType where
  | none
  | string
  | expandString
  | binary
  | dword
  | dwordBigEndian
  | link
  | multiString
  | resourceList
  | fullResourceDescriptor
  | resourceRequirementsList
  | qword
  | unknown (number : Nat)
deriving DecidableEq, Repr

namespace ValueType

def ofNumber : Nat → ValueType
  | 0 => .none
  | 1 => .string
  | 2 => .expandString
  | 3 => .binary
  | 4 => .dword
  | 5 => .dwordBigEndian
  | 6 => .link
  | 7 => .multiString
  | 8 => .resourceList
  | 9 => .fullResourceDescriptor
  | 10 => .resourceRequirementsList
  | 11 => .qword
  | number => .unknown number

def number : ValueType → Nat
  | .none => 0
  | .string => 1
  | .expandString => 2
  | .binary => 3
  | .dword => 4
  | .dwordBigEndian => 5
  | .link => 6
  | .multiString => 7
  | .resourceList => 8
  | .fullResourceDescriptor => 9
  | .resourceRequirementsList => 10
  | .qword => 11
  | .unknown number => number

def identifier : ValueType → String
  | .none => "REG_NONE"
  | .string => "REG_SZ"
  | .expandString => "REG_EXPAND_SZ"
  | .binary => "REG_BINARY"
  | .dword => "REG_DWORD_LITTLE_ENDIAN"
  | .dwordBigEndian => "REG_DWORD_BIG_ENDIAN"
  | .link => "REG_LINK"
  | .multiString => "REG_MULTI_SZ"
  | .resourceList => "REG_RESOURCE_LIST"
  | .fullResourceDescriptor => "REG_FULL_RESOURCE_DESCRIPTOR"
  | .resourceRequirementsList => "REG_RESOURCE_REQUIREMENTS_LIST"
  | .qword => "REG_QWORD_LITTLE_ENDIAN"
  | .unknown _ => "_UNKNOWN_"

def description : ValueType → String
  | .none => "Undefined"
  | .string => "String"
  | .expandString => "String with expandable variables"
  | .binary => "Binary data"
  | .dword => "Integer 32-bit signed little-endian"
  | .dwordBigEndian => "Integer 32-bit signed big-endian"
  | .link => "Link"
  | .multiString => "Array of strings"
  | .resourceList => "Resource list"
  | .fullResourceDescriptor => "Full resource descriptor"
  | .resourceRequirementsList => "Resource requirements list"
  | .qword => "Integer 64-bit signed little-endian"
  | .unknown _ => "Unknown"

/-- The name of the type in descriptions of values. -/
def title : ValueType → String
  | .none => "None"
  | .string => "String"
  | .expandString => "ExpandString"
  | .binary => "Binary"
  | .dword => "Dword"
  | .dwordBigEndian => "DwordBigEndian"
  | .link => "Link"
  | .multiString => "MultiString"
  | .resourceList => "ResourceList"
  | .fullResourceDescriptor => "FullResourceDescriptor"
  | .resourceRequirementsList => "ResourceRequirementsList"
  | .qword => "Qword"
  | .unknown _ => "Unknown"

def display : ValueType → String
  | type@(.unknown number) => s!"{type.identifier} ({lowerField 8 number})"
  | type => type.identifier

/-- The text in descriptions of values. -/
def describe : ValueType → String
  | type@(.unknown number) => s!"{type.title}({number})"
  | type => type.title

/-- Whether the data is one string in the codepage of the file. -/
def isString : ValueType → Bool
  | .string | .expandString | .link => true
  | _ => false

end ValueType

end RegistryHive
