import RegistryHive.Proofs.History
import RegistryHive.Proofs.Layout

namespace RegistryHive

theorem storedOffset_offsetField {offset : Option Nat}
    (small : ∀ found, offset = some found → found < 0x80000000) :
    storedOffset (offsetField offset) = offset := by
  cases offset with
  | none => rfl
  | some found => exact if_pos (small found rfl)

theorem offsetField_lt {offset : Option Nat}
    (small : ∀ found, offset = some found → found < 0x80000000) :
    offsetField offset < 0x100000000 := by
  cases offset with
  | none => decide
  | some found =>
    have bound := small found rfl
    exact Nat.lt_trans bound (by decide)

namespace Siblings

/-- The hierarchy entry of the first of the siblings. -/
def entryOf (capacity : Nat) (parent : Option Nat) (place recordPlace : Nat)
    (record : Option KeyRecord) (subKeys rest : Siblings) : HierarchyEntry :=
  let location : Location :=
    match record with
    | none => ⟨0xFFFF, 0xFFFF⟩
    | some _ => Location.ofPlace capacity recordPlace
  { nameHash := 0
    parent := offsetField parent
    firstSubKey := offsetField (subKeys.offset? (place + 1))
    nextSibling := offsetField (rest.offset? (place + 1 + subKeys.count))
    entryNumber := location.entry
    blockNumber := location.block }

theorem hierarchy_cons (capacity : Nat) (parent : Option Nat) (place recordPlace : Nat)
    (record : Option KeyRecord) (subKeys rest : Siblings) :
    (cons record subKeys rest).hierarchy capacity parent place recordPlace =
      [entryOf capacity parent place recordPlace record subKeys rest] ++
      subKeys.hierarchy capacity (some (Navigation.entryOffset place)) (place + 1)
        (recordPlace + record.toList.length) ++
      rest.hierarchy capacity parent (place + 1 + subKeys.count)
        (recordPlace + record.toList.length + subKeys.records.length) := rfl

section Parts

variable {capacity : Nat} {parent : Option Nat} {place recordPlace : Nat} {record : Option KeyRecord}
  {subKeys rest : Siblings}

/-- Where the parts of the hierarchy of siblings stand. -/
theorem entries_of_cons {entries : List HierarchyEntry}
    (stands : PartAt entries place
      ((cons record subKeys rest).hierarchy capacity parent place recordPlace)) :
    entries[place]? = some (entryOf capacity parent place recordPlace record subKeys rest) ∧
    PartAt entries (place + 1) (subKeys.hierarchy capacity (some (Navigation.entryOffset place))
      (place + 1) (recordPlace + record.toList.length)) ∧
    PartAt entries (place + 1 + subKeys.count) (rest.hierarchy capacity parent
      (place + 1 + subKeys.count)
      (recordPlace + record.toList.length + subKeys.records.length)) := by
  rw [hierarchy_cons] at stands
  have after := stands.right
  rw [List.length_append, length_hierarchy, ← Nat.add_assoc] at after
  exact ⟨stands.left.left.getElem? 0 Nat.zero_lt_one, stands.left.right, after⟩

/-- Where the parts of the records of siblings stand. -/
theorem records_of_cons {records : List KeyRecord}
    (stands : PartAt records recordPlace (cons record subKeys rest).records) :
    PartAt records recordPlace record.toList ∧
    PartAt records (recordPlace + record.toList.length) subKeys.records ∧
    PartAt records (recordPlace + record.toList.length + subKeys.records.length) rest.records := by
  change PartAt records recordPlace (record.toList ++ subKeys.records ++ rest.records) at stands
  have after := stands.right
  rw [List.length_append, ← Nat.add_assoc] at after
  have before := stands.left
  exact ⟨before.left, before.right, after⟩

end Parts

end Siblings

/-- What the reads of a file give of one key. -/
structure Given (reads : Reads) (hive : Hive) (key : Key) (parent firstSubKey nextSibling : Option Nat)
    (record : Option KeyRecord) : Prop where
  found : reads.keyAt hive.navigation key.offset = .ok key
  parent : storedOffset key.entry.parent = parent
  firstSubKey : storedOffset key.entry.firstSubKey = firstSubKey
  nextSibling : storedOffset key.entry.nextSibling = nextSibling
  record : ∃ found, reads.nameEntry hive.dataBlocks key = .ok found ∧
    found.map KeyNameEntry.record = record

namespace Reads

variable {reads : Reads} {navigation : Navigation} {offset : Nat}

/-- A chain begins with the key at its first offset, if that was not passed yet. -/
theorem chainFrom_of_fresh {owner : Nat} {passed : Passed navigation} (foreign : offset ≠ owner)
    (fresh : offset ∉ passed.offsets) (holds : navigation.Holds offset) {key : Key}
    (found : reads.keyAt navigation offset = .ok key) {rest : List Key}
    (following : reads.chainFrom navigation owner (passed.add offset holds)
      (storedOffset key.entry.nextSibling) = ⟨rest, none⟩) :
    reads.chainFrom navigation owner passed (some offset) = ⟨key :: rest, none⟩ := by
  have new : ¬(offset = owner ∨ offset ∈ passed.offsets) := by
    rintro (same | member)
    · exact foreign same
    · exact fresh member
  rw [keyAt_of_holds reads holds] at found
  simp only [chainFrom_of_holds reads new holds, found, following]

end Reads

namespace Written

variable {reads : Reads} {hive : Hive} {capacity : Nat} {entries : List HierarchyEntry}
  {records : List KeyRecord}

theorem keyAt (written : Written reads hive capacity entries records) {place : Nat}
    {entry : HierarchyEntry} (listed : entries[place]? = some entry) (fits : entry.Fits) :
    reads.keyAt hive.navigation (Navigation.entryOffset place) =
      .ok ⟨Navigation.entryOffset place, entry⟩ := by
  obtain ⟨within, _⟩ := List.getElem?_eq_some_iff.mp listed
  rw [Reads.keyAt_of_holds reads (written.holds place within)]
  exact written.key place entry listed fits

/-- Siblings that stand in the hierarchy are at an offset that can be stored. -/
theorem offset_lt (written : Written reads hive capacity entries records) {siblings : Siblings}
    {parent : Option Nat} {place recordPlace : Nat}
    (stands : PartAt entries place (siblings.hierarchy capacity parent place recordPlace))
    (offset : Nat) (first : siblings.offset? place = some offset) : offset < 0x80000000 := by
  cases siblings with
  | nil => cases first
  | cons record subKeys rest =>
    cases first
    have inside := stands.inside
    simp only [Siblings.length_hierarchy, Siblings.count] at inside
    exact written.small place (by omega)

/-- The first of siblings that stand in the hierarchy is given with its record and its links. -/
theorem exists_given (written : Written reads hive capacity entries records)
    {record : Option KeyRecord} {subKeys rest : Siblings} {parent : Option Nat}
    {place recordPlace : Nat}
    (stands : PartAt entries place
      ((Siblings.cons record subKeys rest).hierarchy capacity parent place recordPlace))
    (recorded : PartAt records recordPlace (Siblings.cons record subKeys rest).records)
    (small : ∀ offset, parent = some offset → offset < 0x80000000) :
    ∃ key, key.offset = Navigation.entryOffset place ∧
      Given reads hive key parent (subKeys.offset? (place + 1))
        (rest.offset? (place + 1 + subKeys.count)) record := by
  obtain ⟨listed, inner, after⟩ := Siblings.entries_of_cons stands
  obtain ⟨own, _, _⟩ := Siblings.records_of_cons recorded
  have first := written.offset_lt inner
  have next := written.offset_lt after
  let entry := Siblings.entryOf capacity parent place recordPlace record subKeys rest
  have located : entry.entryNumber < 0x10000 ∧ entry.blockNumber < 0x10000 ∧
      entry.location = record.map fun _ => Location.ofPlace capacity recordPlace := by
    cases record with
    | none =>
      have missing : 0xFFFF < 0x10000 := by decide
      exact ⟨missing, missing, rfl⟩
    | some record =>
      have within : recordPlace < records.length := own.inside
      obtain ⟨block, number⟩ := written.location recordPlace within
      exact ⟨number, Nat.lt_trans block (by decide), if_pos block⟩
  have fits : entry.Fits := ⟨show 0 < 0x100000000 by decide, offsetField_lt small,
    offsetField_lt first, offsetField_lt next, located.1, located.2.1⟩
  refine ⟨⟨Navigation.entryOffset place, entry⟩, rfl, written.keyAt listed fits,
    storedOffset_offsetField small, storedOffset_offsetField first, storedOffset_offsetField next, ?_⟩
  cases record with
  | none => exact ⟨none, by simp only [Reads.nameEntry, located.2.2, Option.map_none], rfl⟩
  | some record =>
    have member : records[recordPlace]? = some record := own.getElem? 0 Nat.zero_lt_one
    obtain ⟨found, parsed, same⟩ := written.record recordPlace record member
    refine ⟨some found, ?_, congrArg some same⟩
    simp only [Reads.nameEntry, located.2.2, Option.map_some, parsed]
    rfl

end Written

namespace Opened

/-- What an open file shows of one key: its record, the key that it is listed under and its sub keys. -/
structure ShowsKey (opened : Opened) (key : Key) (record : Option KeyRecord) (owner : Option Key)
    (subKeys : List Key) : Prop where
  name : opened.Answers (.name key) fun codepage =>
    (record.map fun record => codepage.decode record.name).getD ""
  values : ∃ values, opened.Answers (.values key) (fun _ => values) ∧
    values.map ValueEntry.record = (record.map KeyRecord.values).getD [] ∧
    ∀ value ∈ values, opened.Answers (.valueName value) fun codepage => codepage.decode value.name
  parent : opened.Answers (.parent key) fun _ => owner
  subKeys : opened.Answers (.subKeys key) fun _ => subKeys

/-- Whether an open file shows a tree: that its keys and theirs below are listed under `owner`. -/
inductive Shows (opened : Opened) : Key → Siblings → List Key → Prop where
  | nil (owner : Key) : opened.Shows owner .nil []
  | cons (here : opened.ShowsKey key record (some owner) listed)
      (below : opened.Shows key subKeys listed) (after : opened.Shows owner rest others) :
      opened.Shows owner (.cons record subKeys rest) (key :: others)

variable {opened : Opened} {reads : Reads} {hive : Hive}

/-- A key shows what the reads give of it. -/
theorem showsKey_of_given (follows : opened.Follows hive reads) {key : Key}
    {parent firstSubKey nextSibling : Option Nat} {record : Option KeyRecord}
    (given : Given reads hive key parent firstSubKey nextSibling record) {owner : Option Key}
    (above : reads.parent hive key = .ok owner) {subKeys : List Key}
    (below : reads.chain hive.navigation key = ⟨subKeys, none⟩) :
    opened.ShowsKey key record owner subKeys := by
  obtain ⟨found, named, same⟩ := given.record
  refine ⟨?_, ⟨KeyNameEntry.valuesOf found, ?_, ?_, ?_⟩, ?_, ?_⟩
  · refine follows.answers fun codepage => ?_
    simp only [Operation.reading, Access.name, Reads.access, named, bind, Except.bind, ← same]
    cases found <;> rfl
  · refine follows.answers fun codepage => ?_
    simp only [Operation.reading, Access.values_eq, Reads.access, named]
    rfl
  · rw [← same]
    cases found <;> rfl
  · intro value _
    exact follows.answers fun codepage => rfl
  · exact follows.answers fun codepage => above
  · refine follows.answers fun codepage => ?_
    simp only [Operation.reading, Reads.access, below]
    rfl

end Opened

namespace Written

variable {reads : Reads} {hive : Hive} {capacity : Nat} {entries : List HierarchyEntry}
  {records : List KeyRecord} {opened : Opened}

/-- A walk from the first of siblings that stand in the hierarchy comes to all of them, and each shows its
part of the tree. Their offsets ascend, so no key comes twice. -/
theorem exists_listed (written : Written reads hive capacity entries records)
    (follows : opened.Follows hive reads) (siblings : Siblings) {owner : Key} {place recordPlace : Nat}
    (passed : Passed hive.navigation)
    (stands : PartAt entries place
      (siblings.hierarchy capacity (some owner.offset) place recordPlace))
    (recorded : PartAt records recordPlace siblings.records)
    (found : reads.keyAt hive.navigation owner.offset = .ok owner)
    (small : owner.offset < 0x80000000) (before : owner.offset < Navigation.entryOffset place)
    (past : ∀ offset ∈ passed.offsets, offset < Navigation.entryOffset place) :
    ∃ listed, reads.chainFrom hive.navigation owner.offset passed (siblings.offset? place) =
      ⟨listed, none⟩ ∧ opened.Shows owner siblings listed := by
  induction siblings generalizing owner place recordPlace passed with
  | nil =>
    refine ⟨[], ?_, .nil owner⟩
    rw [Siblings.offset?, Reads.chainFrom]
  | cons record subKeys rest below after =>
    obtain ⟨listed, inner, others⟩ := Siblings.entries_of_cons stands
    obtain ⟨_, innerRecords, otherRecords⟩ := Siblings.records_of_cons recorded
    obtain ⟨within, _⟩ := List.getElem?_eq_some_iff.mp listed
    have parentSmall (offset : Nat) (same : some owner.offset = some offset) :
        offset < 0x80000000 := by
      cases same
      exact small
    obtain ⟨key, same, given⟩ := written.exists_given stands recorded parentSmall
    have holds := written.holds place within
    have keySmall := written.small place within
    rw [← same] at inner holds keySmall before past
    have ascending (later : Nat) (ordered : place < later) :
        key.offset < Navigation.entryOffset later := by
      simp only [same, Navigation.entryOffset, HierarchyEntry.byteSize]
      omega
    -- the keys below this one
    obtain ⟨keysBelow, chainBelow, showsBelow⟩ := below .nothing inner innerRecords
      given.found keySmall (ascending _ (by omega)) (fun offset member => by simp [Passed.nothing] at member)
    -- the keys after this one
    have pastKey (offset : Nat) (member : offset ∈ (passed.add key.offset holds).offsets) :
        offset < Navigation.entryOffset (place + 1 + subKeys.count) := by
      rcases Std.TreeSet.mem_insert.mp member with here | earlier
      · rw [← Nat.compare_eq_eq.mp here]
        exact ascending _ (by omega)
      · exact Nat.lt_trans (past offset earlier) (ascending _ (by omega))
    obtain ⟨keysAfter, chainAfter, showsAfter⟩ := after _ others otherRecords found small
      (Nat.lt_trans before (ascending _ (by omega))) pastKey
    refine ⟨key :: keysAfter, ?_, .cons ?_ showsBelow showsAfter⟩
    · rw [Siblings.offset?, ← same]
      rw [← given.nextSibling] at chainAfter
      exact Reads.chainFrom_of_fresh (Nat.ne_of_gt before)
        (fun member => Nat.lt_irrefl _ (past key.offset member)) holds given.found chainAfter
    · refine Opened.showsKey_of_given follows given ?_ ?_
      · simp only [Reads.parent, given.parent, found]
        rfl
      · rw [Reads.chain, given.firstSubKey]
        exact chainBelow

end Written

/-- The root key of a written file has neither record nor parent, and the tree below it. -/
theorem Written.exists_root {reads : Reads} {hive : Hive} {capacity : Nat} {keys : Siblings}
    (written : Written reads hive capacity (keys.entries capacity) keys.records)
    (rooted : hive.navigation.root = Navigation.entryOffset 0) {opened : Opened}
    (follows : opened.Follows hive reads) :
    ∃ root listed, opened.Answers .rootKey (fun _ => root) ∧ opened.ShowsKey root none none listed ∧
      opened.Shows root keys listed := by
  have stands : PartAt (keys.entries capacity) 0
      ((Siblings.cons none keys .nil).hierarchy capacity none 0 0) := PartAt.refl _
  have recorded : PartAt keys.records 0 (Siblings.cons none keys .nil).records := by
    simpa [Siblings.records] using PartAt.refl keys.records
  obtain ⟨listed, inner, _⟩ := Siblings.entries_of_cons stands
  obtain ⟨_, innerRecords, _⟩ := Siblings.records_of_cons recorded
  obtain ⟨within, _⟩ := List.getElem?_eq_some_iff.mp listed
  obtain ⟨root, same, given⟩ :=
    written.exists_given stands recorded fun offset missing => by cases missing
  have small := written.small 0 within
  rw [← same] at inner small
  obtain ⟨keysBelow, chainBelow, shows⟩ := written.exists_listed follows keys .nothing
    inner innerRecords given.found small (by rw [same]; decide)
    (fun offset member => by simp [Passed.nothing] at member)
  refine ⟨root, keysBelow, ?_, ?_, shows⟩
  · refine follows.answers fun codepage => ?_
    have stored : storedOffset hive.navigation.root = some root.offset := by
      rw [rooted, ← same]
      exact if_pos small
    simp only [Operation.reading, Reads.access, Reads.rootKey, stored, given.found]
  · refine Opened.showsKey_of_given follows given ?_ ?_
    · simp only [Reads.parent, given.parent]
    · rw [Reads.chain, given.firstSubKey]
      exact chainBelow

namespace Siblings

variable {capacity : Nat} {keys : Siblings}

/-- A file written from a tree that fits its fields can be attached, and shows the tree. -/
theorem exists_attached (fits : keys.Fits capacity) (codepage : Codepage) :
    ∃ hive session,
      Hive.attach codepage { source := .mapped (keys.toBytes capacity).toArray } = .ok hive session ∧
      session.Quiet ∧ ∃ root listed, Opened.Answers ⟨hive, session⟩ .rootKey (fun _ => root) ∧
        Opened.ShowsKey ⟨hive, session⟩ root none none listed ∧
        Opened.Shows ⟨hive, session⟩ root keys listed := by
  let source : Source := .mapped (keys.toBytes capacity).toArray
  have honest : source.Honest := .mapped _
  obtain ⟨dataBlocks, verdict, written⟩ := exists_written fits codepage
  obtain ⟨session, opens, quiet⟩ := Hive.exists_attach honest codepage verdict
  have follows := Opened.follows_of_attach opens
  rw [Source.fetch_of_honest_eq honest] at follows
  exact ⟨_, session, opens, quiet, written.exists_root number_root follows⟩

/-- A tree of one key fits where its record does, in a data block of its own. -/
theorem fits_single {record : KeyRecord} (fits : record.Fits)
    (small : KeyRecord.blockSize [record] < 0x100000000) :
    (cons (some record) .nil .nil).Fits 1 where
  records other member := by
    rw [List.mem_singleton.mp member]
    exact fits
  blocks := by
    have one : KeyRecord.blocks 1 (cons (some record) .nil .nil).records = [[record]] := by
      simp [records, KeyRecord.blocks]
    rw [one]
    refine ⟨by simp, fun records member => ?_, fun records member => ?_⟩
    · rw [List.mem_singleton.mp member]
      exact (by decide : 1 ≤ 0x10000)
    · rw [List.mem_singleton.mp member]
      exact small
  offsets := (by decide : Navigation.entryOffset 1 < 0x80000000)

end Siblings

/-- A file written from a tree that fits its fields opens, and from its root key downward it shows exactly
that tree, whatever is done with it in between. -/
theorem shows_of_toBytes {capacity : Nat} {keys : Siblings} (fits : keys.Fits capacity)
    {signals : Signals} {opening : FileAction Unit}
    (opens : Opening (keys.toBytes capacity).toArray signals opening)
    (silent : ∀ event events, signals (event :: events) = 0) (codepage : Codepage) :
    ∃ hive session, opening { codepage } = .ok () ⟨codepage, .opened hive session⟩ ∧
      (∀ history, .signal ∉ history → (Opened.after ⟨hive, session⟩ history).session.Quiet) ∧
      ∃ root listed, Opened.Answers ⟨hive, session⟩ .rootKey (fun _ => root) ∧
        Opened.ShowsKey ⟨hive, session⟩ root none none listed ∧
        Opened.Shows ⟨hive, session⟩ root keys listed := by
  obtain ⟨dataBlocks, verdict, written⟩ := Siblings.exists_written fits codepage
  have long : 64 ≤ (keys.toBytes capacity).toArray.size := (Siblings.headersFit fits).long
  obtain ⟨source, fetch, runs, answered, quiet⟩ :=
    opens.attach_of_verdict silent codepage long verdict
  have attached := Action.eq_ok_of_answer answered
  have follows := Opened.follows_of_attach attached
  rw [fetch] at follows
  refine ⟨_, _, runs.trans (File.attach_of_ok attached), ?_, ?_⟩
  · intro history unsignalled
    exact follows.quiet_after quiet history unsignalled
  · exact written.exists_root Siblings.number_root follows

/-- A tree whose records go into two blocks. -/
theorem shows_of_toBytes_two_blocks :
    let value : ValueRecord := ⟨1, [0x42], [0x43, 0x00]⟩
    let keys : Siblings := .cons (some ⟨[0x41], [value]⟩) (.cons none .nil .nil)
      (.cons (some ⟨[0x41], []⟩) .nil .nil)
    let stream := Stream.ofBytes (keys.toBytes 1).toArray
    keys.Fits 1 ∧ ∃ hive session root listed,
      File.openStream stream .read .never {} = .ok () ⟨.standard, .opened hive session⟩ ∧
      Opened.Shows ⟨hive, session⟩ root keys listed := by
  intro value keys stream
  have named : ValueRecord.Fits value := ⟨by decide, by decide, by decide⟩
  have first : KeyRecord.Fits ⟨[0x41], [value]⟩ := by
    refine ⟨by decide, by decide, fun other member => ?_, by decide⟩
    rw [List.mem_singleton.mp member]
    exact named
  have second : KeyRecord.Fits ⟨[0x41], []⟩ :=
    ⟨by decide, by decide, fun other member => by simp at member, by decide⟩
  have blocks : KeyRecord.blocks 1 keys.records = [[⟨[0x41], [value]⟩], [⟨[0x41], []⟩]] := by
    simp [keys, Siblings.records, KeyRecord.blocks]
  have fits : keys.Fits 1 := by
    refine ⟨?_, ?_, by decide⟩
    · intro record member
      rcases List.mem_cons.mp member with same | member
      · rw [same]
        exact first
      · rw [List.mem_singleton.mp member]
        exact second
    · rw [blocks]
      exact ⟨by decide, by decide, by decide⟩
  have silent (event : Event) (events : List Event) : Signals.never (event :: events) = 0 := rfl
  obtain ⟨hive, session, run, _, root, listed, _, _, shows⟩ :=
    shows_of_toBytes fits (.stream 0) silent .standard
  exact ⟨fits, hive, session, root, listed, run, shows⟩

end RegistryHive
