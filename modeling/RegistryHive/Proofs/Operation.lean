import RegistryHive.Proofs.Walks
import RegistryHive.Hive.Value

/-! The operations on an open file, as data, so that statements can range over all of them and over
all sequences of them. Each gives what the file says, whatever was done before. -/
namespace RegistryHive

/-- An operation on an open file, on one of its keys or on one of its values. -/
inductive Operation : Type → Type 1 where
  | rootKey : Operation Key
  | keyByPath (path : String) : Operation Key
  | parent (key : Key) : Operation (Option Key)
  | numberOfSubKeys (key : Key) : Operation Nat
  | subKey (key : Key) (index : Nat) : Operation Key
  | subKeys (key : Key) : Operation (List Key)
  | subKeyByName (key : Key) (name : String) : Operation Key
  | subKeyByPath (key : Key) (path : String) : Operation Key
  | name (key : Key) : Operation String
  | numberOfValues (key : Key) : Operation Nat
  | value (key : Key) (index : Nat) : Operation ValueEntry
  | values (key : Key) : Operation (List ValueEntry)
  | valueByName (key : Key) (name : String) : Operation ValueEntry
  | valueName (value : ValueEntry) : Operation String
  | parsed (value : ValueEntry) : Operation ValueData
  | number32 (value : ValueEntry) : Operation Nat
  | number64 (value : ValueEntry) : Operation Nat
  | text (value : ValueEntry) : Operation String
  | binary (value : ValueEntry) : Operation Bytes

namespace Operation

variable {α : Type}

def run : Operation α → Hive → Action α
  | rootKey, hive => hive.rootKey
  | keyByPath path, hive => hive.keyByPath path
  | parent key, hive => key.parent hive
  | numberOfSubKeys key, hive => key.numberOfSubKeys hive
  | subKey key index, hive => key.subKey hive index
  | subKeys key, hive => key.subKeys hive
  | subKeyByName key wanted, hive => key.subKeyByName hive wanted
  | subKeyByPath key path, hive => key.subKeyByPath hive path
  | name key, hive => key.name hive
  | numberOfValues key, hive => key.numberOfValues hive
  | value key index, hive => key.value hive index
  | values key, hive => key.values hive
  | valueByName key wanted, hive => key.valueByName hive wanted
  | valueName entry, hive => return entry.decodedName hive.codepage
  | parsed entry, hive => entry.parsed hive.codepage
  | number32 entry, _ => entry.number32
  | number64 entry, _ => entry.number64
  | text entry, hive => entry.text hive.codepage
  | binary entry, _ => entry.binary

/-- What the file says in answer to an operation, in a codepage. -/
def reading (access : Access) (codepage : Codepage) : Operation α → Except Error α
  | rootKey => access.rootKey
  | keyByPath path => do
    let root ← access.rootKey
    access.subKeyByPath codepage root path
  | parent key => access.parent key
  | numberOfSubKeys key => (access.chain key).whole.map List.length
  | subKey key index => (access.chain key).get index
  | subKeys key => (access.chain key).whole
  | subKeyByName key wanted => access.subKeyByName codepage key wanted
  | subKeyByPath key path => access.subKeyByPath codepage key path
  | name key => access.name codepage key
  | numberOfValues key => (access.views key).map List.length
  | value key index => access.value key index
  | values key => access.values key
  | valueByName key wanted => access.valueByName codepage key wanted
  | valueName entry => .ok (entry.decodedName codepage)
  | parsed entry => entry.parsed codepage
  | number32 entry => entry.number32
  | number64 entry => entry.number64
  | text entry => entry.text codepage
  | binary entry => entry.binary

end Operation

namespace Key

open RegistryHive.Action

variable {reads : Reads}

theorem steady_name (hive : Hive) (key : Key) :
    Steady (Store.Faithful hive.dataBlocks reads) (key.name hive) ((reads.access hive).name hive.codepage key) := by
  refine Steady.bind (hive.steady_nameEntry key) fun found _ => ?_
  cases found with
  | none => exact Steady.pure ""
  | some entry => exact Steady.pure _

theorem steady_views (hive : Hive) (key : Key) :
    Steady (Store.Faithful hive.dataBlocks reads) (key.views hive) ((reads.access hive).views key) :=
  Steady.bind (hive.steady_nameEntry key) fun found _ => Steady.pure (Value.listed found)

theorem steady_view (hive : Hive) (key : Key) (index : Nat) :
    Steady (Store.Faithful hive.dataBlocks reads) (key.view hive index)
      ((reads.access hive).view key index) :=
  Steady.bind (hive.steady_nameEntry key) fun _ _ => Steady.lift _

theorem steady_viewByName (hive : Hive) (key : Key) (name : String) :
    Steady (Store.Faithful hive.dataBlocks reads) (key.viewByName hive name)
      ((reads.access hive).viewByName hive.codepage key name) :=
  Steady.bind (hive.steady_nameEntry key) fun _ _ => Steady.lift _

theorem steady_parent {kept : Store → Prop}
    (agrees : ∀ store, kept store → store.source.fetch = reads) (hive : Hive) (key : Key) :
    Steady kept (key.parent hive) (reads.parent hive key) := by
  unfold parent Reads.parent
  cases storedOffset key.entry.parent with
  | none => exact Steady.pure none
  | some offset =>
    have found := Steady.bind (hive.steady_keyAt agrees offset) fun parent _ =>
      Steady.pure (some parent)
    cases result : reads.keyAt hive.navigation offset with
    | error error => simpa only [result] using! found
    | ok parent => simpa only [result] using! found

theorem steady_findSubKey (hive : Hive) (key : Key) (name : String) :
    Steady (Store.Faithful hive.dataBlocks reads) (key.findSubKey hive name)
      ((reads.access hive).findSubKey hive.codepage key name) := by
  refine key.steady_walkSubKeys (fun _ faithful => faithful.agrees) hive (fun _ sub => ?_) none
  refine Steady.bind (sub.steady_name hive) fun found _ => ?_
  split
  · exact Steady.pure _
  · exact Steady.pure _

theorem steady_subKeyByName (hive : Hive) (key : Key) (name : String) :
    Steady (Store.Faithful hive.dataBlocks reads) (key.subKeyByName hive name)
      ((reads.access hive).subKeyByName hive.codepage key name) := by
  refine Steady.bind (key.steady_findSubKey hive name) fun found _ => ?_
  cases found with
  | none => exact Steady.throw _
  | some sub => exact Steady.pure sub

theorem steady_descend (hive : Hive) (path : String) (key : Key) (segments : List String) :
    Steady (Store.Faithful hive.dataBlocks reads) (descend hive path key segments)
      ((reads.access hive).descend hive.codepage path key segments) := by
  induction segments generalizing key with
  | nil => exact Steady.pure key
  | cons segment rest ih =>
    refine (steady_checkAbort _ "sub_key_by_path").bind_ok ?_
    refine Steady.bind (key.steady_findSubKey hive segment) fun found _ => ?_
    cases found with
    | none => exact Steady.throw _
    | some sub => exact ih sub

end Key

namespace Hive

open RegistryHive.Action

theorem steady_rootKey {kept : Store → Prop} {reads : Reads}
    (agrees : ∀ store, kept store → store.source.fetch = reads) (hive : Hive) :
    Steady kept hive.rootKey (reads.rootKey hive) := by
  unfold rootKey Reads.rootKey
  cases storedOffset hive.navigation.root with
  | none => exact Steady.throw _
  | some offset => exact hive.steady_keyAt agrees offset

end Hive

namespace Operation

open RegistryHive.Action

variable {α : Type} {reads : Reads}

/-- Every operation gives what the file says, unless a signal aborts it. -/
theorem steady_run (hive : Hive) (operation : Operation α) :
    Steady (Store.Faithful hive.dataBlocks reads) (operation.run hive)
      (operation.reading (reads.access hive) hive.codepage) := by
  have agrees (store : Store) (faithful : store.Faithful hive.dataBlocks reads) :
      store.source.fetch = reads := faithful.agrees
  cases operation with
  | rootKey => exact hive.steady_rootKey agrees
  | keyByPath path =>
    exact Steady.bind (hive.steady_rootKey agrees) fun root _ => root.steady_descend hive path _
  | parent key => exact key.steady_parent agrees hive
  | numberOfSubKeys key => exact key.steady_numberOfSubKeys agrees hive
  | subKey key index => exact key.steady_subKey agrees hive index
  | subKeys key => exact key.steady_subKeys agrees hive
  | subKeyByName key wanted => exact key.steady_subKeyByName hive wanted
  | subKeyByPath key path => exact key.steady_descend hive path _
  | name key => exact key.steady_name hive
  | numberOfValues key => exact (key.steady_views hive).map List.length
  | value key index => exact Steady.bind (key.steady_view hive index) fun _ _ => Steady.lift _
  | values key => exact Steady.bind (key.steady_views hive) fun _ _ => Steady.lift _
  | valueByName key wanted => exact Steady.bind (key.steady_viewByName hive wanted) fun _ _ => Steady.lift _
  | valueName entry => exact Steady.pure _
  | parsed entry => exact Steady.lift _
  | number32 entry => exact Steady.lift _
  | number64 entry => exact Steady.lift _
  | text entry => exact Steady.lift _
  | binary entry => exact Steady.lift _

end Operation

end RegistryHive
