import Mathlib.Data.List.Forall2
import Mathlib.Data.Option.Basic
import RegistryHive.Hive.Key

namespace RegistryHive

/-- The values in a key name entry, of which a key without one has none. -/
def KeyNameEntry.valuesOf (found : Option KeyNameEntry) : List ValueEntry := found.elim [] values

namespace Value

variable {codepage : Codepage} {name : String}

/-- Whether the index of a value is in range, and what is there. -/
def Shows (value : Value) (shown : ValueEntry) : Prop := value.entry = .ok shown

theorem Shows.get {value : Value} {shown : ValueEntry} (shows : value.Shows shown) {α : Type}
    (getter : Getter α) : value.get codepage getter = getter.read shown codepage := by
  have entry : value.entry = .ok shown := shows
  rw [Value.get, entry]
  rfl

/-- Every value that is listed shows its entry. -/
theorem listed_shows (found : Option KeyNameEntry) :
    List.Forall₂ Shows (listed found) (KeyNameEntry.valuesOf found) := by
  cases found with
  | none => exact .nil
  | some keyEntry =>
    refine List.forall₂_iff_get.mpr ⟨by simp [listed, KeyNameEntry.valuesOf], fun index _ inside => ?_⟩
    have within : index < keyEntry.values.length := inside
    simp [listed, KeyNameEntry.valuesOf, Shows, entry, List.getElem?_eq_getElem within]

theorem entries_of_shows {values : List Value} {shown : List ValueEntry}
    (shows : List.Forall₂ Shows values shown) : entries values = .ok shown := by
  unfold entries
  induction shows with
  | nil => rfl
  | cons first _ ih =>
    have entry : Value.entry _ = .ok _ := first
    rw [List.mapM_cons, entry, ih]
    rfl

/-- The first value of a name shows the first entry of that name. -/
theorem findM?_of_shows (codepage : Codepage) (name : String) {values : List Value} {shown : List ValueEntry}
    (shows : List.Forall₂ Shows values shown) :
    ∃ found, values.findM? (·.isNamed codepage name) = .ok found ∧
      Option.Rel Shows found (shown.find? fun entry => Name.same (entry.decodedName codepage) name) := by
  induction shows with
  | nil => exact ⟨none, rfl, .none⟩
  | @cons value entry _ _ first _ ih =>
    have answered : value.isNamed codepage name = .ok (Name.same (entry.decodedName codepage) name) := by
      rw [isNamed, first.get]
      rfl
    simp only [List.findM?, List.find?_cons, answered, bind, Except.bind]
    cases Name.same (entry.decodedName codepage) name with
    | true => exact ⟨some value, rfl, .some first⟩
    | false => exact ih

section Lookups

variable (found : Option KeyNameEntry) (index : Nat) {shown : ValueEntry}

/-- The guard lets an index through where there is a value. -/
theorem atIndex_of_some (there : (KeyNameEntry.valuesOf found)[index]? = some shown) :
    ∃ value, atIndex found index = .ok value ∧ value.Shows shown := by
  cases found with
  | none => cases there
  | some keyEntry =>
    have here : keyEntry.values[index]? = some shown := there
    obtain ⟨inside, _⟩ := List.getElem?_eq_some_iff.mp here
    have shows : Shows ⟨keyEntry, index⟩ shown := by simp only [Shows, entry, here]
    exact ⟨⟨keyEntry, index⟩, if_pos inside, shows⟩

theorem atIndex_of_none (beyond : (KeyNameEntry.valuesOf found)[index]? = none) :
    atIndex found index = .error
      (.invalidArgument "value" (.valueIndex index (KeyNameEntry.valuesOf found).length)) := by
  cases found with
  | none => rfl
  | some keyEntry => exact if_neg (Nat.not_lt.mpr (List.getElem?_eq_none_iff.mp beyond))

theorem named_of_some
    (there : (KeyNameEntry.valuesOf found).find?
      (fun entry => Name.same (entry.decodedName codepage) name) = some shown) :
    ∃ value, named found codepage name = .ok value ∧ value.Shows shown := by
  obtain ⟨first, searched, shows⟩ := findM?_of_shows codepage name (listed_shows found)
  rw [there] at shows
  cases shows with
  | @some value _ shows =>
    refine ⟨value, ?_, shows⟩
    rw [named, searched]
    rfl

theorem named_of_none
    (missing : (KeyNameEntry.valuesOf found).find?
      (fun entry => Name.same (entry.decodedName codepage) name) = none) :
    named found codepage name = .error (.notFound "value" name) := by
  obtain ⟨first, searched, shows⟩ := findM?_of_shows codepage name (listed_shows found)
  rw [missing] at shows
  cases shows
  rw [named, searched]
  rfl

end Lookups

section HandedOut

variable {value : Value}

theorem shows_of_mem {found : Option KeyNameEntry} (member : value ∈ listed found) :
    ∃ shown, value.Shows shown := by
  cases found with
  | none => cases member
  | some keyEntry =>
    obtain ⟨index, below, rfl⟩ := List.mem_map.mp member
    have inside : index < keyEntry.values.length := List.mem_range.mp below
    exact ⟨keyEntry.values[index], by simp only [Shows, entry, List.getElem?_eq_getElem inside]⟩

theorem shows_of_atIndex {found : Option KeyNameEntry} {index : Nat}
    (looked : atIndex found index = .ok value) : ∃ shown, value.Shows shown := by
  cases listed : (KeyNameEntry.valuesOf found)[index]? with
  | none =>
    rw [atIndex_of_none found index listed] at looked
    cases looked
  | some shown =>
    obtain ⟨other, same, shows⟩ := atIndex_of_some found index listed
    cases looked.symm.trans same
    exact ⟨shown, shows⟩

theorem shows_of_named {found : Option KeyNameEntry}
    (looked : named found codepage name = .ok value) : ∃ shown, value.Shows shown := by
  cases first : (KeyNameEntry.valuesOf found).find? fun entry => Name.same (entry.decodedName codepage) name with
  | none =>
    rw [named_of_none found first] at looked
    cases looked
  | some shown =>
    obtain ⟨other, same, shows⟩ := named_of_some found first
    cases looked.symm.trans same
    exact ⟨shown, shows⟩

end HandedOut

end RegistryHive.Value
