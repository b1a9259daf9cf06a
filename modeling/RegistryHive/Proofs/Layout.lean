import RegistryHive.Proofs.Blocks
import RegistryHive.Proofs.Format

namespace RegistryHive

/-- Whether the numbers of a hierarchy entry fit their fields. -/
structure HierarchyEntry.Fits (entry : HierarchyEntry) : Prop where
  nameHash : entry.nameHash < 0x100000000
  parent : entry.parent < 0x100000000
  firstSubKey : entry.firstSubKey < 0x100000000
  nextSibling : entry.nextSibling < 0x100000000
  entryNumber : entry.entryNumber < 0x10000
  blockNumber : entry.blockNumber < 0x10000

namespace HierarchyEntry

theorem length_toBytes (entry : HierarchyEntry) : entry.toBytes.length = 28 := rfl

theorem parse_toBytes {entry : HierarchyEntry} (fits : entry.Fits) (offset : Nat) :
    parse entry.toBytes offset = .ok entry := by
  have length := entry.length_toBytes
  have nameHash : entry.toBytes.number 0x04 4 = entry.nameHash :=
    Bytes.littleEndian_ofNumber_four fits.nameHash
  have parent : entry.toBytes.number 0x0C 4 = entry.parent :=
    Bytes.littleEndian_ofNumber_four fits.parent
  have firstSubKey : entry.toBytes.number 0x10 4 = entry.firstSubKey :=
    Bytes.littleEndian_ofNumber_four fits.firstSubKey
  have nextSibling : entry.toBytes.number 0x14 4 = entry.nextSibling :=
    Bytes.littleEndian_ofNumber_four fits.nextSibling
  have entryNumber : entry.toBytes.number 0x18 2 = entry.entryNumber :=
    Bytes.littleEndian_ofNumber_two fits.entryNumber
  have blockNumber : entry.toBytes.number 0x1A 2 = entry.blockNumber :=
    Bytes.littleEndian_ofNumber_two fits.blockNumber
  have held : entry.toBytes.holds byteSize = true := rfl
  unfold parse
  rw [Bytes.u32At_eq (by omega), Bytes.u32At_eq (by omega), Bytes.u32At_eq (by omega),
    Bytes.u32At_eq (by omega), Bytes.u16At_eq (by omega), Bytes.u16At_eq (by omega), nameHash, parent,
    firstSubKey, nextSibling, entryNumber, blockNumber]
  simp only [require, held, if_true]
  rfl

theorem length_flatMap_toBytes (entries : List HierarchyEntry) :
    (entries.flatMap toBytes).length = 28 * entries.length := by
  induction entries with
  | nil => rfl
  | cons entry rest ih =>
    rw [List.flatMap_cons, List.length_append, ih, length_toBytes, List.length_cons]
    omega

/-- Entries of one size stand at multiples of it. -/
theorem toBytes_at {data : Bytes} {offset : Nat} {entries : List HierarchyEntry}
    (stands : PartAt data offset (entries.flatMap toBytes)) {place : Nat} {entry : HierarchyEntry}
    (listed : entries[place]? = some entry) : PartAt data (offset + 28 * place) entry.toBytes := by
  induction entries generalizing offset place with
  | nil => simp at listed
  | cons first rest ih =>
    rw [List.flatMap_cons] at stands
    cases place with
    | zero =>
      have same : first = entry := by simpa using listed
      rw [← same]
      exact stands.left
    | succ place =>
      have later := ih stands.right (by simpa using listed)
      rwa [length_toBytes, Nat.add_assoc, show 28 + 28 * place = 28 * (place + 1) by omega] at later

end HierarchyEntry

namespace Siblings

theorem length_hierarchy (capacity : Nat) (siblings : Siblings) (parent : Option Nat)
    (place recordPlace : Nat) :
    (siblings.hierarchy capacity parent place recordPlace).length = siblings.count := by
  induction siblings generalizing parent place recordPlace with
  | nil => rfl
  | cons record subKeys rest below after =>
    simp only [hierarchy, List.length_append, List.length_cons, below, after, count]
    omega

/-- Whether a tree fits the fields of a registry file with data blocks of one capacity. -/
structure Fits (capacity : Nat) (keys : Siblings) : Prop where
  records : ∀ record ∈ keys.records, record.Fits
  blocks : KeyRecord.BlocksFit (KeyRecord.blocks capacity keys.records)
  offsets : Navigation.entryOffset keys.count < 0x80000000

/-- The hierarchy entries of a file, that of the root key first. -/
def entries (capacity : Nat) (keys : Siblings) : List HierarchyEntry :=
  (cons none keys nil).hierarchy capacity none 0 0

theorem length_entries (capacity : Nat) (keys : Siblings) :
    (keys.entries capacity).length = keys.count + 1 := by
  rw [entries, length_hierarchy]
  simp only [count]
  omega

/-- The two headers of a file with a navigation block of this size and so many data blocks. -/
def headers (size blocks : Nat) : Bytes :=
  Signature.file.bytes ++ .ofNumber 2 0 ++ .ofNumber 2 1 ++ .ofNumber 4 (Navigation.start + size) ++
    .zeros 4 ++ .ofNumber 2 blocks ++ .zeros 14 ++ Signature.navigation.bytes ++ .ofNumber 4 size ++
    .ofNumber 4 (Navigation.entryOffset 0) ++ .zeros 20

theorem length_headers (size blocks : Nat) : (headers size blocks).length = 64 := rfl

/-- The data blocks of a file. -/
def blocksBytes (capacity : Nat) (keys : Siblings) : Bytes :=
  ((KeyRecord.blocks capacity keys.records).mapIdx fun number records =>
    KeyRecord.blockBytes records (0 + number)).flatten

/-- The size of the navigation block. -/
def navigationSize (keys : Siblings) : Nat := 32 + 28 * (keys.count + 1)

variable {capacity : Nat} {keys : Siblings}

theorem toBytes_eq (capacity : Nat) (keys : Siblings) :
    keys.toBytes capacity =
      headers keys.navigationSize (KeyRecord.blocks capacity keys.records).length ++
        (keys.entries capacity).flatMap HierarchyEntry.toBytes ++ keys.blocksBytes capacity := by
  have size : keys.navigationSize =
      32 + ((keys.entries capacity).flatMap HierarchyEntry.toBytes).length := by
    rw [HierarchyEntry.length_flatMap_toBytes, length_entries, navigationSize]
  simp only [size, blocksBytes, Nat.zero_add]
  rfl

theorem length_toBytes (capacity : Nat) (keys : Siblings) :
    (keys.toBytes capacity).length =
      32 + keys.navigationSize + (keys.blocksBytes capacity).length := by
  rw [toBytes_eq, List.length_append, List.length_append, length_headers,
    HierarchyEntry.length_flatMap_toBytes, length_entries, navigationSize]
  omega

theorem headers_at (capacity : Nat) (keys : Siblings) :
    PartAt (keys.toBytes capacity) 0
      (headers keys.navigationSize (KeyRecord.blocks capacity keys.records).length) := by
  rw [toBytes_eq]
  exact (PartAt.refl _).left.left

theorem entries_at (capacity : Nat) (keys : Siblings) :
    PartAt (keys.toBytes capacity) 64
      ((keys.entries capacity).flatMap HierarchyEntry.toBytes) := by
  rw [toBytes_eq]
  exact (PartAt.refl _).left.right

theorem blocks_at (capacity : Nat) (keys : Siblings) :
    PartAt (keys.toBytes capacity) (32 + keys.navigationSize) (keys.blocksBytes capacity) := by
  have length := length_toBytes capacity keys
  rw [toBytes_eq, List.length_append] at length
  have place : 0 + (headers keys.navigationSize (KeyRecord.blocks capacity keys.records).length ++
      (keys.entries capacity).flatMap HierarchyEntry.toBytes).length = 32 + keys.navigationSize := by
    omega
  rw [← place, toBytes_eq]
  exact (PartAt.refl _).right

theorem number_root : (keys.toBytes capacity).number 0x28 4 = Navigation.entryOffset 0 := by
  have written := (headers_at capacity keys).number 0x28 4
    (by rw [length_headers]; decide)
  rw [Nat.zero_add] at written
  exact written

section Headers

variable (fits : keys.Fits capacity)

include fits

theorem navigationSize_lt : keys.navigationSize < 0x80000000 + 28 := by
  have bound := fits.offsets
  simp only [Navigation.entryOffset, Navigation.headerSize, HierarchyEntry.byteSize] at bound
  simp only [navigationSize]
  omega

theorem number_size : (keys.toBytes capacity).number 0x24 4 = keys.navigationSize := by
  have small := navigationSize_lt fits
  have written := (headers_at capacity keys).number 0x24 4
    (by rw [length_headers]; decide)
  rw [Nat.zero_add] at written
  exact written.trans (Bytes.littleEndian_ofNumber_four (by omega))

theorem number_start : (keys.toBytes capacity).number 0x08 4 = 32 + keys.navigationSize := by
  have small := navigationSize_lt fits
  have written := (headers_at capacity keys).number 0x08 4
    (by rw [length_headers]; decide)
  rw [Nat.zero_add] at written
  exact written.trans (Bytes.littleEndian_ofNumber_four
    (by simp only [Navigation.start, FileHeader.byteSize]; omega))

theorem headersFit : HeadersFit (keys.toBytes capacity) := by
  have length := length_toBytes capacity keys
  have size := number_size fits
  have file := (headers_at capacity keys).field 0x00 4
    (by rw [length_headers]; decide)
  have navigation := (headers_at capacity keys).field 0x20 4
    (by rw [length_headers]; decide)
  rw [Nat.zero_add] at file navigation
  refine ⟨?_, file, navigation, ?_, ?_⟩
  · simp only [length, navigationSize]
    omega
  · rw [size, navigationSize]
    omega
  · rw [size, length]
    omega

/-- The file has the data blocks of its records. -/
theorem exists_blockList :
    ∃ dataBlocks, BlockList (keys.toBytes capacity) (32 + keys.navigationSize) (.ok dataBlocks) ∧
      ∀ place record, keys.records[place]? = some record → ∃ entry,
        (keys.toBytes capacity).reads.nameEntryAt dataBlocks (Location.ofPlace capacity place) =
          .ok entry ∧ entry.record = record := by
  have length := length_toBytes capacity keys
  have few := fits.blocks.count
  obtain ⟨dataBlocks, run, count, listed⟩ :=
    KeyRecord.exists_run (blocks_at capacity keys) fits.blocks.sizes (by omega)
  have tail : (keys.toBytes capacity).length <
      32 + keys.navigationSize + (keys.blocksBytes capacity).length + 32 := by omega
  refine ⟨dataBlocks, run.list_of_reaches tail, ?_⟩
  intro place record member
  obtain ⟨part, block, entry⟩ := KeyRecord.getElem?_blocks capacity member
  obtain ⟨start, found, stands⟩ := listed _ part block
  refine KeyRecord.nameEntryAt_of_run found stands (fun record inside => ?_) entry
  exact fits.records record (KeyRecord.mem_of_mem_blocks (List.mem_of_getElem? block) inside)

theorem location_lt {place : Nat} (within : place < keys.records.length) :
    (Location.ofPlace capacity place).block < 0x8000 ∧
      (Location.ofPlace capacity place).entry < 0x10000 := by
  obtain ⟨part, block, entry⟩ :=
    KeyRecord.getElem?_blocks capacity (List.getElem?_eq_getElem within)
  have count := fits.blocks.count
  have entries := fits.blocks.entries part (List.mem_of_getElem? block)
  obtain ⟨listed, _⟩ := List.getElem?_eq_some_iff.mp block
  obtain ⟨inside, _⟩ := List.getElem?_eq_some_iff.mp entry
  exact ⟨by omega, by omega⟩

end Headers

end Siblings

/-- What the reads of a file give of the hierarchy entries and the records written into it. -/
structure Written (reads : Reads) (hive : Hive) (capacity : Nat) (entries : List HierarchyEntry)
    (records : List KeyRecord) : Prop where
  holds : ∀ place, place < entries.length → hive.navigation.Holds (Navigation.entryOffset place)
  small : ∀ place, place < entries.length → Navigation.entryOffset place < 0x80000000
  key : ∀ place entry, entries[place]? = some entry → entry.Fits →
    reads.readKey (Navigation.entryOffset place) = .ok ⟨Navigation.entryOffset place, entry⟩
  record : ∀ place record, records[place]? = some record → ∃ entry,
    reads.nameEntryAt hive.dataBlocks (Location.ofPlace capacity place) = .ok entry ∧
      entry.record = record
  location : ∀ place, place < records.length → (Location.ofPlace capacity place).block < 0x8000 ∧
    (Location.ofPlace capacity place).entry < 0x10000

namespace Siblings

variable {capacity : Nat} {keys : Siblings}

/-- A file written from a tree that fits is accepted, and all parts of the tree are in it. -/
theorem exists_written (fits : keys.Fits capacity) (codepage : Codepage) :
    ∃ dataBlocks, Verdict (keys.toBytes capacity) (.ok dataBlocks) ∧
      Written (keys.toBytes capacity).reads
        (Hive.ofFields (keys.toBytes capacity) codepage dataBlocks) capacity (keys.entries capacity)
        keys.records := by
  obtain ⟨dataBlocks, list, named⟩ := exists_blockList fits
  have size := number_size fits
  have count := length_entries capacity keys
  have offsets := fits.offsets
  simp only [Navigation.entryOffset, Navigation.headerSize, HierarchyEntry.byteSize] at offsets
  rw [← number_start fits] at list
  refine ⟨dataBlocks, .blocks (headersFit fits) list, ?_, ?_, ?_, named, ?_⟩
  · intro place within
    simp only [Navigation.Holds, Hive.ofFields, size, navigationSize, Navigation.entryOffset,
      Navigation.headerSize, HierarchyEntry.byteSize]
    omega
  · intro place within
    simp only [Navigation.entryOffset, Navigation.headerSize, HierarchyEntry.byteSize]
    omega
  · intro place entry listed entryFits
    have part := HierarchyEntry.toBytes_at (entries_at capacity keys) listed
    have inside := part.inside
    have offset : Navigation.absolute (Navigation.entryOffset place) = 64 + 28 * place := by
      simp only [Navigation.absolute, Navigation.start, FileHeader.byteSize, Navigation.entryOffset,
        Navigation.headerSize, HierarchyEntry.byteSize]
      omega
    have read : (keys.toBytes capacity).reads (64 + 28 * place) HierarchyEntry.byteSize =
        .ok entry.toBytes :=
      (Bytes.reads_inside inside).trans (congrArg Except.ok part.field_eq)
    rw [Reads.readKey, offset, read]
    simp only [bind, Except.bind, HierarchyEntry.parse_toBytes entryFits]
    rfl
  · intro place within
    exact location_lt fits within

end Siblings

end RegistryHive
