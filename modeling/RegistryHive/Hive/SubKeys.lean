import RegistryHive.Hive
import Std.Data.TreeSet

/-! The sub keys of a key: a chain of hierarchy entries, each with the offset of its next sibling.
A walk along the chain keeps the offsets it has passed, so it ends on every file. -/
namespace RegistryHive

/-- Offsets of entries that a walk has passed. -/
structure Passed (navigation : Navigation) where
  offsets : Std.TreeSet Nat
  inside : ∀ offset ∈ offsets, navigation.Holds offset

namespace Passed

variable {navigation : Navigation}

def nothing : Passed navigation := ⟨∅, fun _ member => by simp at member⟩

def add (passed : Passed navigation) (offset : Nat) (holds : navigation.Holds offset) :
    Passed navigation where
  offsets := passed.offsets.insert offset
  inside other member := by
    rcases Std.TreeSet.mem_insert.mp member with same | earlier
    · rw [← Nat.compare_eq_eq.mp same]
      exact holds
    · exact passed.inside other earlier

/-- A bound on the entries that the walk can still pass. -/
def remaining (passed : Passed navigation) : Nat := navigation.size - passed.offsets.size

private theorem size_le (passed : Passed navigation) : passed.offsets.size ≤ navigation.size := by
  have distinct : passed.offsets.toList.Nodup :=
    Std.TreeSet.distinct_toList.imp fun different same => different (Nat.compare_eq_eq.mpr same)
  have bounded : passed.offsets.toList ⊆ List.range navigation.size := by
    intro offset member
    have inside := (passed.inside offset (Std.TreeSet.mem_toList.mp member)).2
    simp only [HierarchyEntry.byteSize] at inside
    exact List.mem_range.mpr (by omega)
  have count := distinct.length_le_of_subset bounded
  rwa [Std.TreeSet.length_toList, List.length_range] at count

theorem remaining_add_lt (passed : Passed navigation) {offset : Nat}
    (holds : navigation.Holds offset) (fresh : offset ∉ passed.offsets) :
    (passed.add offset holds).remaining < passed.remaining := by
  have bound := (passed.add offset holds).size_le
  have grown : (passed.add offset holds).offsets.size = passed.offsets.size + 1 := by
    simp [add, Std.TreeSet.size_insert, fresh]
  simp only [remaining]
  omega

end Passed

namespace Hive

variable {β : Type}

/-- Shows the keys from `next` onward to `visit` until it is done or the chain ends. No key may
come twice, nor the key that owns the chain. -/
def walkFrom (hive : Hive) (owner : Nat) (visit : β → Key → Action (ForInStep β))
    (passed : Passed hive.navigation) (next : Option Nat) (state : β) : Action β := do
  match next with
  | none => return state
  | some offset =>
    Action.checkAbort "sub_keys"
    if repeated : offset = owner ∨ offset ∈ passed.offsets then
      throw (.invalidFormat (.subKeyCycle owner offset))
    else
      let ⟨holds⟩ ← hive.navigation.checkEntry offset
      let key ← readKey offset
      match ← visit state key with
      | .done final => return final
      | .yield following =>
        have := passed.remaining_add_lt holds fun member => repeated (.inr member)
        hive.walkFrom owner visit (passed.add offset holds)
          (storedOffset key.entry.nextSibling) following
termination_by passed.remaining

end Hive

namespace Key

variable {β : Type}

/-- Shows the sub keys in file order to `visit` until it is done. -/
def walkSubKeys (key : Key) (hive : Hive) (visit : β → Key → Action (ForInStep β)) (start : β) :
    Action β :=
  hive.walkFrom key.offset visit .nothing (storedOffset key.entry.firstSubKey) start

def numberOfSubKeys (key : Key) (hive : Hive) : Action Nat :=
  key.walkSubKeys hive (fun count _ => return .yield (count + 1)) 0

/-- All sub keys, in file order. -/
def subKeys (key : Key) (hive : Hive) : Action (List Key) := do
  let found ← key.walkSubKeys hive (fun found sub => return .yield (sub :: found)) []
  return found.reverse

/-- The sub key at a place. Only the chain up to it is read. -/
def subKey (key : Key) (hive : Hive) (index : Nat) : Action Key := do
  let visit (state : Nat × Option Key) (sub : Key) : Action (ForInStep (Nat × Option Key)) :=
    if state.1 = index then return .done (state.1, some sub)
    else return .yield (state.1 + 1, none)
  match ← key.walkSubKeys hive visit (0, none) with
  | (_, some found) => return found
  | (count, none) => throw (.invalidArgument "sub_key" (.subKeyIndex index count))

end Key

end RegistryHive
