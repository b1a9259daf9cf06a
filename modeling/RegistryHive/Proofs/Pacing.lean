import RegistryHive.Proofs.Course

namespace RegistryHive

/-- Whether all that operations on a hive may read, its hierarchy entries and data areas, is allowed. -/
structure Hive.StaysIn (hive : Hive) (allowed : Nat → Nat → Prop) : Prop where
  entries : ∀ offset, hive.navigation.Holds offset →
    allowed (Navigation.absolute offset) HierarchyEntry.byteSize
  areas : ∀ block ∈ hive.dataBlocks, allowed block.dataOffset block.dataSize

/-- Allows every read. -/
def anywhere : Nat → Nat → Prop := fun _ _ => True

theorem Hive.staysIn_anywhere (hive : Hive) : hive.StaysIn anywhere :=
  ⟨fun _ _ => trivial, fun _ _ => trivial⟩

namespace Hive

open RegistryHive.Action

theorem paced_readKey (room : start < 2) {offset : Nat}
    (within : allowed (Navigation.absolute offset) HierarchyEntry.byteSize) :
    Paced allowed start (start + 1) (readKey offset) := by
  apply (paced_read room within).bind
  intro data
  apply (Paced.lift (HierarchyEntry.failsAs_parse (by decide) data offset)).bind
  intro entry
  exact Paced.pure _

/-- A request for a data block reads nothing, or the data area of the block. -/
theorem after_dataBlock_cases (hive : Hive) (number : Nat) (session : Session) :
    (hive.dataBlock number).after session = session ∨
      ∃ header blocks, hive.dataBlocks[number]? = some header ∧
        (hive.dataBlock number).after session =
          { (read header.dataOffset header.dataSize).after session with blocks } := by
  cases cached : session.blocks[number]? with
  | some block =>
    left
    simp only [after, dataBlock_cached cached]
  | none =>
    have uncached : (hive.dataBlock number).after session = (hive.readBlock number).after session := by
      simp only [after, dataBlock_uncached cached]
    rw [uncached, readBlock]
    cases listed : hive.dataBlocks[number]? with
    | none => exact .inl rfl
    | some header =>
      right
      dsimp only
      rw [after_bind]
      cases (read header.dataOffset header.dataSize).answer session with
      | error error => exact ⟨header, _, rfl, rfl⟩
      | ok data =>
        dsimp only
        cases DataBlock.ofData header data with
        | error error => exact ⟨header, _, rfl, rfl⟩
        | ok block => exact ⟨header, _, rfl, rfl⟩

theorem entries_after_dataBlock (hive : Hive) (number : Nat) (session : Session) :
    ((hive.dataBlock number).after session).entries = session.entries := by
  rcases hive.after_dataBlock_cases number session with same | ⟨header, blocks, _, read⟩
  · rw [same]
  · rw [read]
    exact (caches_after_read _ _ _).2

section

variable {hive : Hive} (stays : hive.StaysIn allowed)

include stays

theorem paced_keyAt (room : start < 2) (offset : Nat) :
    Paced allowed start (start + 1) (hive.keyAt offset) := by
  apply (Paced.lift (hive.navigation.failsAs_checkEntry (by decide) offset)).bind
  intro inside
  exact paced_readKey room (stays.entries offset inside.down)

theorem paced_rootKey (room : start < 2) : Paced allowed start (start + 1) hive.rootKey := by
  unfold rootKey
  split
  · exact .mono (.throw (by simp [Error.kind])) (Nat.le_succ _) (Nat.le_refl _)
  · exact paced_keyAt stays room _

/-- A block read anew was not in the cache: what it is put in place of is nothing. -/
theorem paced_dataBlock (room : start < 2) (number : Nat) :
    Paced allowed start (start + 1) (hive.dataBlock number) := by
  constructor
  intro initial first count session course behind
  cases cached : session.blocks[number]? with
  | some block =>
    rw [dataBlock_cached cached]
    exact .value course (by omega) block
  | none =>
    rw [dataBlock_uncached cached, readBlock]
    cases listed : hive.dataBlocks[number]? with
    | none => exact .failure course _ (by simp [Error.kind])
    | some header =>
      have within := stays.areas header (List.mem_of_getElem? listed)
      apply ends_bind ((paced_read room within).ends course behind)
      intro count data after course within read
      have missing : after.blocks[number]? = none := by
        rw [← (answer_of_eq read).2, (caches_after_read _ _ _).1]
        exact cached
      cases indexed : DataBlock.ofData header data with
      | error error =>
        have own : FailsAs (· ≠ .aborted) (DataBlock.ofData header data) :=
          DataBlock.failsAs_ofData (by decide) header data
        exact .failure course error (own error indexed)
      | ok block => exact .value (course.block missing block) within block

theorem paced_nameEntryAt (room : start < 2) (location : Location) :
    Paced allowed start (start + 1) (hive.nameEntryAt location) := by
  constructor
  intro initial first count session course behind
  cases cached : session.entries[location]? with
  | some entry =>
    rw [nameEntryAt_cached cached]
    exact .value course (by omega) entry
  | none =>
    rw [nameEntryAt_uncached cached, readNameEntry]
    apply ends_bind ((paced_dataBlock stays room location.block).ends course behind)
    intro count block after course within read
    have missing : after.entries[location]? = none := by
      rw [← (answer_of_eq read).2, entries_after_dataBlock]
      exact cached
    cases listed : block.entry? location.entry with
    | none => exact .failure course _ (by simp [Error.kind])
    | some place =>
      obtain ⟨offset, data⟩ := place
      cases parsed : KeyNameEntry.parse data offset with
      | error error =>
        have own : FailsAs (· ≠ .aborted) (KeyNameEntry.parse data offset) :=
          KeyNameEntry.failsAs_parse (by decide) data offset
        simp only [parsed]
        exact .failure course error (own error parsed)
      | ok entry =>
        simp only [parsed]
        exact .value (course.entry missing entry) within entry

theorem paced_nameEntry (room : start < 2) (key : Key) :
    Paced allowed start (start + 1) (hive.nameEntry key) := by
  unfold nameEntry
  split
  · exact (Paced.pure none).mono (Nat.le_succ _) (Nat.le_refl _)
  · exact (paced_nameEntryAt stays room _).map some

/-- A visitor may read once: the entry it is shown has been read since the check. -/
theorem paced_walkFrom {β : Type} (owner : Nat) {visit : β → Key → Action (ForInStep β)}
    (visits : ∀ state key, Paced allowed 1 2 (visit state key)) (passed : Passed hive.navigation)
    (next : Option Nat) (state : β) :
    Paced allowed 2 2 (hive.walkFrom owner visit passed next state) := by
  induction passed, next, state using Hive.walkFrom.induct hive owner with
  | case1 passed state =>
    rw [walkFrom]
    exact Paced.pure state
  | case2 passed state offset ih =>
    rw [walkFrom]
    apply (paced_checkAbort "sub_keys").bind
    intro _
    by_cases repeated : offset = owner ∨ offset ∈ passed.offsets
    · simp only [repeated, dite_true]
      exact .mono (.throw (by simp [Error.kind])) (by decide) (Nat.le_refl _)
    · simp only [repeated, dite_false]
      apply (Paced.lift (hive.navigation.failsAs_checkEntry (by decide) offset)).bind
      intro inside
      apply (paced_readKey (by decide) (stays.entries offset inside.down)).bind
      intro key
      apply (visits state key).bind
      intro step
      cases step with
      | done final => exact Paced.pure final
      | yield following => exact ih repeated inside.down key following

end

theorem paced_scan (size offset : Nat) (found : List BlockHeader) :
    Paced anywhere 2 2 (scan size offset found) := by
  induction offset, found using Hive.scan.induct size with
  | case1 offset found before ih =>
    rw [scan]
    simp only [before, if_true]
    apply (paced_checkAbort "open").bind
    intro _
    split
    · apply (paced_read (by decide) trivial).bind
      intro data
      split
      · apply (Paced.lift (BlockHeader.failsAs_parse (by decide) (by decide) data offset)).bind
        intro block
        refine .bind (.lift (.require (by simp [Error.kind]))) fun _ => ?_
        exact (ih block).mono (by decide) (Nat.le_refl _)
      · refine .bind (.lift (.require (by simp [Error.kind]))) fun _ => ?_
        exact (Paced.pure []).mono (by decide) (Nat.le_refl _)
    · exact (Paced.pure _).mono (by decide) (Nat.le_refl _)
  | case2 offset found past =>
    rw [scan]
    simp only [past, if_false]
    exact Paced.pure _

theorem paced_attach (codepage : Codepage) : Paced anywhere 0 2 (attach codepage) := by
  apply (paced_checkAbort "open").bind
  intro _
  apply (paced_read (by decide) trivial).bind
  intro data
  apply (Paced.lift (FileHeader.failsAs_parse (by decide) (by decide) data)).bind
  intro header
  apply (paced_read (by decide) trivial).bind
  intro data
  apply (Paced.lift (Navigation.failsAs_parse (by decide) (by decide) data)).bind
  intro navigation
  apply Paced.get
  intro session
  refine .bind (.lift (.require (by simp [Error.kind]))) fun _ => ?_
  exact (paced_scan _ _ _).map _

end Hive

namespace Key

open RegistryHive.Action

variable {β : Type} {hive : Hive} (stays : hive.StaysIn allowed) (key : Key)

include stays

theorem paced_walkSubKeys {visit : β → Key → Action (ForInStep β)}
    (visits : ∀ state sub, Paced allowed 1 2 (visit state sub)) (start : β) :
    Paced allowed 2 2 (key.walkSubKeys hive visit start) :=
  Hive.paced_walkFrom stays key.offset visits .nothing _ start

theorem paced_numberOfSubKeys : Paced allowed 2 2 (key.numberOfSubKeys hive) := by
  apply key.paced_walkSubKeys stays
  intro count sub
  exact (Paced.pure _).mono (by decide) (Nat.le_refl _)

theorem paced_subKeys : Paced allowed 2 2 (key.subKeys hive) := by
  apply Paced.map
  apply key.paced_walkSubKeys stays
  intro found sub
  exact (Paced.pure _).mono (by decide) (Nat.le_refl _)

theorem paced_subKey (index : Nat) : Paced allowed 2 2 (key.subKey hive index) := by
  refine Paced.bind (key.paced_walkSubKeys stays (fun state sub => ?_) (0, none)) fun final => ?_
  · split
    · exact (Paced.pure _).mono (by decide) (Nat.le_refl _)
    · exact (Paced.pure _).mono (by decide) (Nat.le_refl _)
  · split
    · exact Paced.pure _
    · exact .throw (by simp [Error.kind])

theorem paced_name (room : start < 2) : Paced allowed start (start + 1) (key.name hive) := by
  apply (Hive.paced_nameEntry stays room key).bind
  intro found
  cases found with
  | none => exact Paced.pure ""
  | some entry => exact Paced.pure _

theorem paced_views : Paced allowed 0 1 (key.views hive) :=
  (Hive.paced_nameEntry stays (by decide) key).bind fun _ => Paced.pure _

theorem paced_view (index : Nat) : Paced allowed 0 1 (key.view hive index) :=
  (Hive.paced_nameEntry stays (by decide) key).bind fun found =>
    Paced.lift (Value.failsAs_atIndex (by decide) found index)

theorem paced_viewByName (name : String) : Paced allowed 0 1 (key.viewByName hive name) :=
  (Hive.paced_nameEntry stays (by decide) key).bind fun found =>
    Paced.lift (Value.failsAs_named (by decide) found hive.codepage name)

theorem paced_value (index : Nat) : Paced allowed 0 1 (key.value hive index) :=
  (key.paced_view stays index).bind fun value => Paced.lift (value.failsAs_entry (by decide))

theorem paced_values : Paced allowed 0 1 (key.values hive) :=
  (key.paced_views stays).bind fun values => Paced.lift (Value.failsAs_entries (by decide) values)

theorem paced_valueByName (name : String) : Paced allowed 0 1 (key.valueByName hive name) :=
  (key.paced_viewByName stays name).bind fun value => Paced.lift (value.failsAs_entry (by decide))

theorem paced_parent : Paced allowed 0 1 (key.parent hive) := by
  unfold parent
  split
  · exact (Paced.pure none).mono (Nat.le_refl _) (by decide)
  · exact (Hive.paced_keyAt stays (by decide) _).map some

theorem paced_findSubKey (name : String) : Paced allowed 2 2 (key.findSubKey hive name) := by
  apply key.paced_walkSubKeys stays
  intro _ sub
  apply (sub.paced_name stays (by decide)).bind
  intro found
  split
  · exact Paced.pure _
  · exact Paced.pure _

theorem paced_subKeyByName (name : String) : Paced allowed 2 2 (key.subKeyByName hive name) := by
  apply (key.paced_findSubKey stays name).bind
  intro found
  cases found with
  | none => exact .throw (by simp [Error.kind])
  | some sub => exact Paced.pure sub

/-- The walk for one name may end with two reads behind it; the next one begins with a check. -/
theorem paced_descend (path : String) (segments : List String) :
    Paced allowed 2 2 (descend hive path key segments) := by
  induction segments generalizing key with
  | nil => exact Paced.pure key
  | cons segment rest ih =>
    apply (paced_checkAbort "sub_key_by_path").bind
    intro _
    apply ((key.paced_findSubKey stays segment).mono (by decide) (Nat.le_refl _)).bind
    intro found
    cases found with
    | none => exact .throw (by simp [Error.kind])
    | some sub => exact ih sub

end Key

namespace Operation

open RegistryHive.Action

variable {α : Type}

theorem paced_run {hive : Hive} (stays : hive.StaysIn allowed) (operation : Operation α) :
    Paced allowed 0 2 (operation.run hive) := by
  cases operation with
  | rootKey => exact (Hive.paced_rootKey stays (by decide)).mono (Nat.le_refl _) (by decide)
  | keyByPath path =>
    apply (Hive.paced_rootKey stays (by decide)).bind
    intro root
    exact (root.paced_descend stays path _).mono (by decide) (Nat.le_refl _)
  | parent key => exact (key.paced_parent stays).mono (Nat.le_refl _) (by decide)
  | numberOfSubKeys key => exact (key.paced_numberOfSubKeys stays).mono (by decide) (Nat.le_refl _)
  | subKey key index => exact (key.paced_subKey stays index).mono (by decide) (Nat.le_refl _)
  | subKeys key => exact (key.paced_subKeys stays).mono (by decide) (Nat.le_refl _)
  | subKeyByName key wanted =>
    exact (key.paced_subKeyByName stays wanted).mono (by decide) (Nat.le_refl _)
  | subKeyByPath key path => exact (key.paced_descend stays path _).mono (by decide) (Nat.le_refl _)
  | name key => exact (key.paced_name stays (by decide)).mono (Nat.le_refl _) (by decide)
  | numberOfValues key =>
    exact ((key.paced_views stays).map List.length).mono (Nat.le_refl _) (by decide)
  | value key index => exact (key.paced_value stays index).mono (Nat.le_refl _) (by decide)
  | values key => exact (key.paced_values stays).mono (Nat.le_refl _) (by decide)
  | valueByName key wanted =>
    exact (key.paced_valueByName stays wanted).mono (Nat.le_refl _) (by decide)
  | valueName entry => exact (Paced.pure _).mono (Nat.le_refl _) (by decide)
  | parsed entry =>
    exact (Paced.lift (ValueData.failsAs_parse (by decide) _ _ _ _)).mono (Nat.le_refl _) (by decide)
  | number32 entry =>
    exact (Paced.lift (entry.failsAs_number32 (by decide) (by decide))).mono (Nat.le_refl _) (by decide)
  | number64 entry =>
    exact (Paced.lift (entry.failsAs_number64 (by decide) (by decide))).mono (Nat.le_refl _) (by decide)
  | text entry =>
    exact (Paced.lift (entry.failsAs_text (by decide) _)).mono (Nat.le_refl _) (by decide)
  | binary entry =>
    exact (Paced.lift (entry.failsAs_binary (by decide))).mono (Nat.le_refl _) (by decide)

end Operation

end RegistryHive
