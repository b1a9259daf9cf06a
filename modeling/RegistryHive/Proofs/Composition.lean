import RegistryHive.Proofs.Operation

/-! What all operations on an open file are composed of: checks, reads of hierarchy entries and requests for
key name entries. What holds of these, and passes from actions to their sequence, holds of every operation,
also where it is said of two files with the same hierarchy side by side. -/
namespace RegistryHive

namespace Action

variable {α β : Type}

/-- A relation that actions made of others have when the others do, and that the parts of all operations on
a hive have to their counterparts on one with other data blocks. -/
structure Relates (hive : Hive) (header : FileHeader) (dataBlocks : List BlockHeader)
    (related : {α : Type} → Action α → Action α → Prop) : Prop where
  lift : ∀ {α : Type} (result : Except Error α), related (ofExcept result) (ofExcept result)
  bind : ∀ {α β : Type} {action other : Action α} {next following : α → Action β},
    related action other → (∀ value, related (next value) (following value)) →
    related (action >>= next) (other >>= following)
  check : ∀ operation, related (checkAbort operation) (checkAbort operation)
  key : ∀ offset, hive.navigation.Holds offset →
    related (Hive.readKey offset) (Hive.readKey offset)
  record : ∀ location, related (hive.nameEntryAt location)
    ({ hive with header, dataBlocks }.nameEntryAt location)

namespace Relates

variable {hive : Hive} {header : FileHeader} {dataBlocks : List BlockHeader}
  {related : {α : Type} → Action α → Action α → Prop}
  (relates : Relates hive header dataBlocks related)

include relates

theorem pure (value : α) : related (pure value : Action α) (pure value) := relates.lift (.ok value)

theorem throw (error : Error) : related (throw error : Action α) (throw error) :=
  relates.lift (.error error)

theorem keyAt (offset : Nat) :
    related (hive.keyAt offset) ({ hive with header, dataBlocks }.keyAt offset) := by
  apply relates.bind (relates.lift (hive.navigation.checkEntry offset))
  intro inside
  exact relates.key offset inside.down

theorem rootKey : related hive.rootKey { hive with header, dataBlocks }.rootKey := by
  unfold Hive.rootKey
  dsimp only
  split
  · exact relates.throw _
  · exact relates.keyAt _

theorem walkFrom (owner : Nat) {visit other : β → Key → Action (ForInStep β)}
    (visits : ∀ state key, related (visit state key) (other state key))
    (passed : Passed hive.navigation) (next : Option Nat) (state : β) :
    related (hive.walkFrom owner visit passed next state)
      ({ hive with header, dataBlocks }.walkFrom owner other passed next state) := by
  induction passed, next, state using Hive.walkFrom.induct hive owner with
  | case1 passed state =>
    rw [Hive.walkFrom, Hive.walkFrom]
    exact relates.pure state
  | case2 passed state offset ih =>
    rw [Hive.walkFrom, Hive.walkFrom]
    apply relates.bind (relates.check "sub_keys")
    intro _
    by_cases repeated : offset = owner ∨ offset ∈ passed.offsets
    · simp only [repeated, dite_true]
      exact relates.throw _
    · simp only [repeated, dite_false]
      apply relates.bind (relates.lift (hive.navigation.checkEntry offset))
      intro inside
      apply relates.bind (relates.key offset inside.down)
      intro key
      apply relates.bind (visits state key)
      intro step
      cases step with
      | done final => exact relates.pure final
      | yield following => exact ih repeated inside.down key following

theorem subKey (key : Key) (index : Nat) :
    related (key.subKey hive index) (key.subKey { hive with header, dataBlocks } index) := by
  refine relates.bind (relates.walkFrom _ (fun state sub => ?_) _ _ _) fun found => ?_
  · split
    · exact relates.pure _
    · exact relates.pure _
  · split
    · exact relates.pure _
    · exact relates.throw _

theorem parent (key : Key) :
    related (key.parent hive) (key.parent { hive with header, dataBlocks }) := by
  unfold Key.parent
  split
  · exact relates.pure none
  · exact relates.bind (relates.keyAt _) fun parent => relates.pure (some parent)

theorem nameEntry (key : Key) :
    related (hive.nameEntry key) ({ hive with header, dataBlocks }.nameEntry key) := by
  unfold Hive.nameEntry
  split
  · exact relates.pure none
  · exact relates.bind (relates.record _) fun entry => relates.pure (some entry)

theorem name (key : Key) :
    related (key.name hive) (key.name { hive with header, dataBlocks }) := by
  apply relates.bind (relates.nameEntry key)
  intro found
  cases found with
  | none => exact relates.pure ""
  | some entry => exact relates.pure _

theorem views (key : Key) :
    related (key.views hive) (key.views { hive with header, dataBlocks }) :=
  relates.bind (relates.nameEntry key) fun _ => relates.pure _

theorem findSubKey (key : Key) (wanted : String) :
    related (key.findSubKey hive wanted) (key.findSubKey { hive with header, dataBlocks } wanted) := by
  apply relates.walkFrom
  intro _ sub
  apply relates.bind (relates.name sub)
  intro found
  split
  · exact relates.pure _
  · exact relates.pure _

theorem descend (path : String) (key : Key) (segments : List String) :
    related (Key.descend hive path key segments)
      (Key.descend { hive with header, dataBlocks } path key segments) := by
  induction segments generalizing key with
  | nil => exact relates.pure key
  | cons segment rest ih =>
    apply relates.bind (relates.check "sub_key_by_path")
    intro _
    apply relates.bind (relates.findSubKey key segment)
    intro found
    cases found with
    | none => exact relates.throw _
    | some sub => exact ih sub

/-- Every operation on the one hive has the relation to that on the other. -/
theorem run (operation : Operation α) :
    related (operation.run hive) (operation.run { hive with header, dataBlocks }) := by
  cases operation with
  | rootKey => exact relates.rootKey
  | keyByPath path => exact relates.bind relates.rootKey fun root => relates.descend path root _
  | parent key => exact relates.parent key
  | numberOfSubKeys key => exact relates.walkFrom _ (fun _ _ => relates.pure _) _ _ _
  | subKey key index => exact relates.subKey key index
  | subKeys key =>
    exact relates.bind (relates.walkFrom _ (fun _ _ => relates.pure _) _ _ _) fun found =>
      relates.pure found.reverse
  | subKeyByName key wanted =>
    apply relates.bind (relates.findSubKey key wanted)
    intro found
    cases found with
    | none => exact relates.throw _
    | some sub => exact relates.pure sub
  | subKeyByPath key path => exact relates.descend path key _
  | name key => exact relates.name key
  | numberOfValues key => exact relates.bind (relates.views key) fun _ => relates.pure _
  | value key index =>
    exact relates.bind (relates.bind (relates.nameEntry key) fun _ => relates.lift _) fun _ => relates.lift _
  | values key => exact relates.bind (relates.views key) fun _ => relates.lift _
  | valueByName key wanted =>
    exact relates.bind (relates.bind (relates.nameEntry key) fun _ => relates.lift _) fun _ => relates.lift _
  | valueName entry => exact relates.pure _
  | parsed entry => exact relates.lift _
  | number32 entry => exact relates.lift _
  | number64 entry => exact relates.lift _
  | text entry => exact relates.lift _
  | binary entry => exact relates.lift _

end Relates

/-- A property of actions that actions made of others have when the others do, and that the parts of all
operations on a hive have. -/
structure Composes (hive : Hive) (holds : {α : Type} → Action α → Prop) : Prop where
  lift : ∀ {α : Type} (result : Except Error α), holds (ofExcept result)
  bind : ∀ {α β : Type} {action : Action α} {next : α → Action β}, holds action →
    (∀ value, holds (next value)) → holds (action >>= next)
  check : ∀ operation, holds (checkAbort operation)
  key : ∀ offset, hive.navigation.Holds offset → holds (Hive.readKey offset)
  record : ∀ location, holds (hive.nameEntryAt location)

/-- The property holds of every operation. -/
theorem Composes.run {hive : Hive} {holds : {α : Type} → Action α → Prop}
    (composes : Composes hive holds) (operation : Operation α) : holds (operation.run hive) := by
  have relates : Relates hive hive.header hive.dataBlocks (fun action _ => holds action) :=
    ⟨composes.lift, composes.bind, composes.check, composes.key, composes.record⟩
  exact relates.run operation

end Action

end RegistryHive
