import RegistryHive.Hive.SubKeys
import RegistryHive.Hive.Value
import RegistryHive.Text.Runs
import RegistryHive.Text.Uppercase

namespace RegistryHive.Name

open Text

/-- What two spellings of one name have in common. -/
def folded (name : String) : List Char := name.toList.map upper

def same (left right : String) : Bool := folded left == folded right

/-- The names in a path. Leading, trailing and repeated separators mean nothing. -/
def segments (path : String) : List String :=
  (runs (· == '\\') path.toList).map String.ofList

end RegistryHive.Name

namespace RegistryHive.Value

def isNamed (value : Value) (codepage : Codepage) (name : String) : Except Error Bool := do
  return Name.same (← value.get codepage .name) name

/-- The first value with a name. -/
def named (found : Option KeyNameEntry) (codepage : Codepage) (name : String) : Except Error Value := do
  match ← (listed found).findM? (·.isNamed codepage name) with
  | some value => return value
  | none => throw (.notFound "value" name)

end RegistryHive.Value

namespace RegistryHive.Key

open Text

/-- The name of the key, which is empty where it has no key name entry. -/
def name (key : Key) (hive : Hive) : Action String := do
  match ← hive.nameEntry key with
  | none => return ""
  | some entry => return hive.codepage.decode entry.name

def parent (key : Key) (hive : Hive) : Action (Option Key) := do
  match storedOffset key.entry.parent with
  | none => return none
  | some offset => return some (← hive.keyAt offset)

/-- The first sub key with a name. -/
def findSubKey (key : Key) (hive : Hive) (name : String) : Action (Option Key) :=
  key.walkSubKeys hive
    (fun _ sub => do
      if Name.same (← sub.name hive) name then return .done (some sub) else return .yield none)
    none

def subKeyByName (key : Key) (hive : Hive) (name : String) : Action Key := do
  match ← key.findSubKey hive name with
  | some found => return found
  | none => throw (.notFound "sub key" name)

/-- Goes down from `key` by one name after the other. -/
def descend (hive : Hive) (path : String) (key : Key) : List String → Action Key
  | [] => return key
  | segment :: rest => do
    Action.checkAbort "sub_key_by_path"
    match ← key.findSubKey hive segment with
    | some found => descend hive path found rest
    | none => throw (.notFound "key path" path)

/-- The key at a path from this one. An empty path leads to the key itself. -/
def subKeyByPath (key : Key) (hive : Hive) (path : String) : Action Key :=
  descend hive path key (Name.segments path)

/-- Views of all values, in file order. -/
def views (key : Key) (hive : Hive) : Action (List Value) := do
  return Value.listed (← hive.nameEntry key)

def view (key : Key) (hive : Hive) (index : Nat) : Action Value := do
  Value.atIndex (← hive.nameEntry key) index

def viewByName (key : Key) (hive : Hive) (name : String) : Action Value := do
  Value.named (← hive.nameEntry key) hive.codepage name

/-- The entries of all values, in file order. -/
def values (key : Key) (hive : Hive) : Action (List ValueEntry) := do
  Value.entries (← key.views hive)

def numberOfValues (key : Key) (hive : Hive) : Action Nat := do
  return (← key.views hive).length

/-- The entry of the value at an index. -/
def value (key : Key) (hive : Hive) (index : Nat) : Action ValueEntry := do
  (← key.view hive index).entry

/-- The entry of the first value with a name. -/
def valueByName (key : Key) (hive : Hive) (name : String) : Action ValueEntry := do
  (← key.viewByName hive name).entry

def describe (key : Key) : String :=
  s!"Key \x7b offset: {address key.offset}, entry: {key.entry.describe} \x7d"

end RegistryHive.Key

namespace RegistryHive.Hive

/-- The key at a path from the root key. -/
def keyByPath (hive : Hive) (path : String) : Action Key := do
  let root ← hive.rootKey
  root.subKeyByPath hive path

end RegistryHive.Hive
