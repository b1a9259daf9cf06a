import RegistryHive.Proofs.Values

/-! What an open file says, read without caches and without signals. Everything here is a function of
the reads alone: what each of them gives, by its offset and its length. -/
namespace RegistryHive

/-- What the read of so many bytes at an offset gives. -/
abbrev Reads := Nat → Nat → Except Error Bytes

/-- The sub keys that a walk comes to, and why it did not come to the end. -/
structure Chain where
  keys : List Key
  failure : Option Error

namespace Chain

variable {β : Type}

/-- All sub keys, if the chain ends. -/
def whole (chain : Chain) : Except Error (List Key) :=
  match chain.failure with
  | none => .ok chain.keys
  | some error => .error error

/-- Visits keys until a visit is done. What breaks the chain shows only after the last key. -/
def visitKeys (visit : β → Key → Except Error (ForInStep β)) (failure : Option Error) :
    β → List Key → Except Error β
  | state, [] =>
    match failure with
    | none => .ok state
    | some error => .error error
  | state, key :: rest => do
    match ← visit state key with
    | .done final => return final
    | .yield following => visitKeys visit failure following rest

def visit (chain : Chain) (visit : β → Key → Except Error (ForInStep β)) (start : β) :
    Except Error β :=
  visitKeys visit chain.failure start chain.keys

/-- The key at a place, if the chain comes so far. -/
def get (chain : Chain) (index : Nat) : Except Error Key :=
  match chain.keys[index]?, chain.failure with
  | some key, _ => .ok key
  | none, some error => .error error
  | none, none => .error (.invalidArgument "sub_key" (.subKeyIndex index chain.keys.length))

end Chain

namespace Reads

def readKey (reads : Reads) (offset : Nat) : Except Error Key := do
  let data ← reads (Navigation.absolute offset) HierarchyEntry.byteSize
  let entry ← HierarchyEntry.parse data offset
  return ⟨offset, entry⟩

def keyAt (reads : Reads) (navigation : Navigation) (offset : Nat) : Except Error Key := do
  let _ ← navigation.checkEntry offset
  reads.readKey offset

theorem keyAt_of_holds (reads : Reads) {navigation : Navigation} {offset : Nat}
    (holds : navigation.Holds offset) : reads.keyAt navigation offset = reads.readKey offset := by
  have checked : navigation.checkEntry offset = .ok ⟨holds⟩ := dif_pos holds
  rw [keyAt, checked]
  rfl

def dataBlock (reads : Reads) (headers : List BlockHeader) (number : Nat) :
    Except Error DataBlock :=
  match headers[number]? with
  | none => .error (.invalidFormat (.blockNumber number headers.length))
  | some header => do
    let data ← reads header.dataOffset header.dataSize
    DataBlock.ofData header data

def nameEntryAt (reads : Reads) (headers : List BlockHeader) (location : Location) :
    Except Error KeyNameEntry := do
  let block ← reads.dataBlock headers location.block
  match block.entry? location.entry with
  | none =>
    .error (.invalidFormat (.entryNumber location.entry location.block block.numberOfEntries))
  | some (offset, data) => KeyNameEntry.parse data offset

def nameEntry (reads : Reads) (headers : List BlockHeader) (key : Key) :
    Except Error (Option KeyNameEntry) :=
  match key.entry.location with
  | none => .ok none
  | some location => (reads.nameEntryAt headers location).map some

/-- The keys from `next` onward, as a walk comes to them. -/
def chainFrom (reads : Reads) (navigation : Navigation) (owner : Nat) (passed : Passed navigation)
    (next : Option Nat) : Chain :=
  match next with
  | none => ⟨[], none⟩
  | some offset =>
    if repeated : offset = owner ∨ offset ∈ passed.offsets then
      ⟨[], some (.invalidFormat (.subKeyCycle owner offset))⟩
    else
      match navigation.checkEntry offset with
      | .error error => ⟨[], some error⟩
      | .ok ⟨holds⟩ =>
        match reads.readKey offset with
        | .error error => ⟨[], some error⟩
        | .ok key =>
          have := passed.remaining_add_lt holds fun member => repeated (.inr member)
          let rest := reads.chainFrom navigation owner (passed.add offset holds)
            (storedOffset key.entry.nextSibling)
          ⟨key :: rest.keys, rest.failure⟩
termination_by passed.remaining

/-- A chain that comes to a whole entry for the first time goes on with the key there. -/
theorem chainFrom_of_holds (reads : Reads) {navigation : Navigation} {owner offset : Nat}
    {passed : Passed navigation} (fresh : ¬(offset = owner ∨ offset ∈ passed.offsets))
    (holds : navigation.Holds offset) :
    reads.chainFrom navigation owner passed (some offset) =
      match reads.readKey offset with
      | .error error => ⟨[], some error⟩
      | .ok key =>
        let rest := reads.chainFrom navigation owner (passed.add offset holds)
          (storedOffset key.entry.nextSibling)
        ⟨key :: rest.keys, rest.failure⟩ := by
  have checked : navigation.checkEntry offset = .ok ⟨holds⟩ := dif_pos holds
  rw [chainFrom, dif_neg fresh, checked]

/-- The sub keys of a key. -/
def chain (reads : Reads) (navigation : Navigation) (key : Key) : Chain :=
  reads.chainFrom navigation key.offset .nothing (storedOffset key.entry.firstSubKey)

variable (reads : Reads) (hive : Hive)

def rootKey : Except Error Key :=
  match storedOffset hive.navigation.root with
  | none => .error (.invalidFormat .noRootKey)
  | some offset => reads.keyAt hive.navigation offset

def parent (key : Key) : Except Error (Option Key) :=
  match storedOffset key.entry.parent with
  | none => .ok none
  | some offset => (reads.keyAt hive.navigation offset).map some

end Reads

/-- What all operations on an open file go back to. -/
structure Access where
  rootKey : Except Error Key
  parent : Key → Except Error (Option Key)
  /-- The sub keys of a key. -/
  chain : Key → Chain
  nameEntry : Key → Except Error (Option KeyNameEntry)

def Reads.access (reads : Reads) (hive : Hive) : Access where
  rootKey := reads.rootKey hive
  parent := reads.parent hive
  chain := reads.chain hive.navigation
  nameEntry := reads.nameEntry hive.dataBlocks

namespace Access

variable (access : Access) (codepage : Codepage)

def name (key : Key) : Except Error String := do
  match ← access.nameEntry key with
  | none => return ""
  | some entry => return codepage.decode entry.name

def views (key : Key) : Except Error (List Value) := do
  return Value.listed (← access.nameEntry key)

def view (key : Key) (index : Nat) : Except Error Value := do
  Value.atIndex (← access.nameEntry key) index

def viewByName (key : Key) (name : String) : Except Error Value := do
  Value.named (← access.nameEntry key) codepage name

def values (key : Key) : Except Error (List ValueEntry) := do
  Value.entries (← access.views key)

def value (key : Key) (index : Nat) : Except Error ValueEntry := do
  (← access.view key index).entry

def valueByName (key : Key) (name : String) : Except Error ValueEntry := do
  (← access.viewByName codepage key name).entry

def findSubKey (key : Key) (name : String) : Except Error (Option Key) :=
  (access.chain key).visit
    (fun _ sub => do
      if Name.same (← access.name codepage sub) name then return .done (some sub)
      else return .yield none)
    none

def subKeyByName (key : Key) (name : String) : Except Error Key := do
  match ← access.findSubKey codepage key name with
  | some found => return found
  | none => throw (.notFound "sub key" name)

def descend (path : String) (key : Key) : List String → Except Error Key
  | [] => return key
  | segment :: rest => do
    match ← access.findSubKey codepage key segment with
    | some found => descend path found rest
    | none => throw (.notFound "key path" path)

def subKeyByPath (key : Key) (path : String) : Except Error Key :=
  access.descend codepage path key (Name.segments path)

/-- No lookup fails: the values of a key are those in its key name entry. -/
theorem values_eq (key : Key) :
    access.values key = (access.nameEntry key).map KeyNameEntry.valuesOf := by
  simp only [values, views, bind, Except.bind, pure, Except.pure]
  cases access.nameEntry key with
  | error error => rfl
  | ok found => exact Value.entries_of_shows (Value.listed_shows found)

theorem value_eq (key : Key) (index : Nat) :
    access.value key index = (do
      let values ← access.values key
      match values[index]? with
      | some value => return value
      | none => throw (.invalidArgument "value" (.valueIndex index values.length))) := by
  rw [values_eq]
  simp only [value, view, bind, Except.bind]
  cases access.nameEntry key with
  | error error => rfl
  | ok found =>
    cases listed : (KeyNameEntry.valuesOf found)[index]? with
    | none =>
      simp only [Value.atIndex_of_none found index listed, Except.map, listed]
      rfl
    | some shown =>
      obtain ⟨value, looked, shows⟩ := Value.atIndex_of_some found index listed
      simp only [looked, Except.map, listed]
      exact shows

theorem valueByName_eq (key : Key) (name : String) :
    access.valueByName codepage key name = (do
      let values ← access.values key
      match values.find? fun value => Name.same (value.decodedName codepage) name with
      | some value => return value
      | none => throw (.notFound "value" name)) := by
  rw [values_eq]
  simp only [valueByName, viewByName, bind, Except.bind]
  cases access.nameEntry key with
  | error error => rfl
  | ok found =>
    cases first : (KeyNameEntry.valuesOf found).find? fun value => Name.same (value.decodedName codepage) name with
    | none =>
      simp only [Value.named_of_none found first, Except.map, first]
      rfl
    | some shown =>
      obtain ⟨value, looked, shows⟩ := Value.named_of_some found first
      simp only [looked, Except.map, first]
      exact shows

end Access

end RegistryHive
