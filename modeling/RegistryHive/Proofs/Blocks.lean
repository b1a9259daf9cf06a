import RegistryHive.Proofs.BlockList
import RegistryHive.Proofs.Records

namespace RegistryHive

namespace KeyRecord

/-- The size of a data block, which its number does not change. -/
def blockSize (records : List KeyRecord) : Nat := (blockBytes records 0).length

/-- Whether data blocks of these records can be numbered and sized. -/
structure BlocksFit (blocks : List (List KeyRecord)) : Prop where
  count : blocks.length ≤ 0x8000
  entries : ∀ records ∈ blocks, records.length ≤ 0x10000
  sizes : ∀ records ∈ blocks, blockSize records < 0x100000000

/-- The data area of a block. -/
def area (records : List KeyRecord) : Bytes := (records.mapIdx toBytes).flatten

theorem length_blockBytes (records : List KeyRecord) (number : Nat) :
    (blockBytes records number).length = blockSize records := by
  simp [blockSize, blockBytes, Bytes.zeros]

theorem blockSize_eq (records : List KeyRecord) : blockSize records = 32 + (area records).length := by
  have signature : Signature.dataBlock.bytes.length = 4 := Signature.dataBlock.four
  simp only [blockSize, blockBytes, area, Bytes.zeros, List.length_append, Bytes.length_ofNumber,
    List.length_replicate, signature]

/-- The header of a block of these records. -/
def header (records : List KeyRecord) (offset number : Nat) : BlockHeader where
  offset
  size := blockSize records
  unusedSize := 0
  index := number
  usedSize := blockSize records
  holdsHeader := by
    rw [blockSize_eq]
    exact Nat.le_add_right 32 _

variable {data : Bytes} {records : List KeyRecord} {offset number : Nat}

theorem area_at (stands : PartAt data offset (blockBytes records number)) :
    PartAt data (offset + 32) (area records) := stands.right

theorem header_stands (stands : PartAt data offset (blockBytes records number))
    (small : blockSize records < 0x100000000) (few : number < 0x10000) :
    (header records offset number).StandsAt data offset := by
  have length := length_blockBytes records number
  have least := (header records offset number).holdsHeader
  have long : 32 ≤ (blockBytes records number).length := by rw [length]; exact least
  have size : Bytes.littleEndian (.ofNumber 4 (32 + (area records).length)) = blockSize records := by
    rw [← blockSize_eq]
    exact Bytes.littleEndian_ofNumber_four small
  have inside := stands.inside
  rw [length] at inside
  refine ⟨rfl, ?_, ?_, ?_, ?_, ?_, inside⟩
  · exact stands.field 0 4 (by omega)
  · rw [stands.number 0x04 4 (by omega)]
    exact size.symm
  · rw [stands.number 0x08 4 (by omega)]
    rfl
  · rw [stands.number 0x0E 2 (by omega)]
    exact (Bytes.littleEndian_ofNumber_two few).symm
  · rw [stands.number 0x10 4 (by omega)]
    exact size.symm

/-- Blocks written one after another are a run of blocks. -/
theorem exists_run {blocks : List (List KeyRecord)} {first : Nat}
    (stands : PartAt data offset
      (blocks.mapIdx fun number records => blockBytes records (first + number)).flatten)
    (small : ∀ records ∈ blocks, blockSize records < 0x100000000)
    (few : first + blocks.length ≤ 0x8000) :
    ∃ headers, BlockRun data offset headers (offset +
      (blocks.mapIdx fun number records => blockBytes records (first + number)).flatten.length) ∧
      headers.length = blocks.length ∧
      ∀ place records, blocks[place]? = some records → ∃ start,
        headers[place]? = some (header records start (first + place)) ∧
        PartAt data start (blockBytes records (first + place)) := by
  induction blocks generalizing offset first with
  | nil => exact ⟨[], .nil offset, rfl, by simp⟩
  | cons records rest ih =>
    rw [List.length_cons] at few
    have shifted : (fun number records => blockBytes records (first + (number + 1))) =
        fun number records => blockBytes records (first + 1 + number) := by
      funext number records
      rw [Nat.add_assoc first 1, Nat.add_comm 1]
    simp only [List.mapIdx_cons, List.flatten_cons, Nat.add_zero, shifted] at stands ⊢
    have head : PartAt data offset (blockBytes records first) := stands.left
    have tail := stands.right
    rw [length_blockBytes] at tail
    obtain ⟨headers, run, count, listed⟩ :=
      ih tail (fun other member => small other (by simp [member])) (by omega)
    refine ⟨header records offset first :: headers, ?_, by simp [count], ?_⟩
    · rw [List.length_append, length_blockBytes, ← Nat.add_assoc]
      exact .cons (header_stands head (small records (by simp)) (by omega)) run
    · intro place found member
      cases place with
      | zero =>
        have same : records = found := by simpa using member
        exact ⟨offset, by simp [same], by simpa [← same] using head⟩
      | succ place =>
        obtain ⟨start, header, part⟩ := listed place found (by simpa using member)
        rw [Nat.add_assoc, Nat.add_comm 1] at header part
        exact ⟨start, by simpa using header, part⟩

/-- Indexing a written block finds its entries. -/
theorem ofData_area (fits : ∀ record ∈ records, record.Fits) (offset number : Nat) :
    DataBlock.ofData (header records offset number) (area records) =
      .ok ⟨header records offset number,
        (BlockEntry.listFrom 0 (records.mapIdx toBytes)).toArray⟩ := by
  have size : (header records offset number).dataSize = (area records).length := by
    simp only [BlockHeader.dataSize, header, blockSize_eq, BlockHeader.byteSize]
    omega
  have entriesSize : (header records offset number).entriesSize = (area records).length := by
    have used : (header records offset number).usedSize - 32 =
        (header records offset number).dataSize := rfl
    simp only [BlockHeader.entriesSize, BlockHeader.byteSize, used, Nat.min_self, ite_self, size]
  have sized (part : Bytes) (member : part ∈ records.mapIdx toBytes) :
      20 ≤ part.length ∧ part.number 0 4 = part.length := by
    obtain ⟨place, inside, same⟩ := List.mem_mapIdx.mp member
    have split := byteSize_eq records[place]
    rw [← same, number_toBytes (fits _ (List.getElem_mem inside)), length_toBytes]
    exact ⟨by omega, rfl⟩
  have found := DataBlock.cut_flatten (header records offset number) sized 0 []
  simp only [Nat.zero_add] at found
  simp only [DataBlock.ofData, entriesSize, Nat.min_self]
  simp only [area, found, bind, Except.bind]
  rfl

/-- A record is read back by the number of its block and its number there. -/
theorem nameEntryAt_of_run {headers : List BlockHeader} {location : Location} {record : KeyRecord}
    (listed : headers[location.block]? = some (header records offset number))
    (stands : PartAt data offset (blockBytes records number))
    (fits : ∀ record ∈ records, record.Fits) (found : records[location.entry]? = some record) :
    ∃ entry, data.reads.nameEntryAt headers location = .ok entry ∧ entry.record = record := by
  have part := area_at stands
  have inside := part.inside
  have size : (header records offset number).dataSize = (area records).length := by
    simp only [BlockHeader.dataSize, header, blockSize_eq, BlockHeader.byteSize]
    omega
  have read : data.reads (header records offset number).dataOffset
      (header records offset number).dataSize = .ok (area records) := by
    rw [size]
    exact (Bytes.reads_inside inside).trans (congrArg Except.ok part.field_eq)
  have block : data.reads.dataBlock headers location.block = .ok ⟨header records offset number,
      (BlockEntry.listFrom 0 (records.mapIdx toBytes)).toArray⟩ := by
    rw [Reads.dataBlock_of_header _ listed, read]
    exact ofData_area fits offset number
  have written : (records.mapIdx toBytes)[location.entry]? =
      some (record.toBytes location.entry) := by
    simp [found]
  obtain ⟨start, place⟩ := BlockEntry.getElem?_listFrom written 0
  obtain ⟨entry, parsed, same⟩ := parse_toBytes
    (fits record (List.mem_of_getElem? found)) location.entry
    ((header records offset number).dataOffset + start)
  refine ⟨entry, ?_, same⟩
  simp only [Reads.nameEntryAt, block, bind, Except.bind, DataBlock.entry?, List.getElem?_toArray, place,
    Option.map_some]
  exact parsed

/-- The first block of a list, and the blocks of the rest. -/
theorem blocks_cons (capacity : Nat) (first : KeyRecord) (rest : List KeyRecord) :
    blocks capacity (first :: rest) =
      (first :: rest).take (max 1 capacity) :: blocks capacity ((first :: rest).drop (max 1 capacity)) := by
  have positive : max 1 capacity = capacity - 1 + 1 := by omega
  rw [blocks, positive, List.take_succ_cons, List.drop_succ_cons]

/-- A record stands in the block and at the place there that its place among all records says. -/
theorem getElem?_blocks (capacity : Nat) {records : List KeyRecord} {place : Nat} {record : KeyRecord}
    (listed : records[place]? = some record) :
    ∃ part, (blocks capacity records)[(Location.ofPlace capacity place).block]? = some part ∧
      part[(Location.ofPlace capacity place).entry]? = some record := by
  induction records using blocks.induct capacity generalizing place with
  | case1 => simp at listed
  | case2 first rest ih =>
    have positive : 0 < max 1 capacity := by omega
    rw [blocks_cons]
    by_cases early : place < max 1 capacity
    · refine ⟨(first :: rest).take (max 1 capacity), ?_, ?_⟩
      · rw [Location.ofPlace, Nat.div_eq_of_lt early]
        rfl
      · rw [Location.ofPlace, Nat.mod_eq_of_lt early, List.getElem?_take_of_lt early]
        exact listed
    · have block : place / max 1 capacity = (place - max 1 capacity) / max 1 capacity + 1 :=
        Nat.div_eq_sub_div positive (Nat.not_lt.mp early)
      have entry : place % max 1 capacity = (place - max 1 capacity) % max 1 capacity :=
        Nat.mod_eq_sub_mod (Nat.not_lt.mp early)
      have dropped : (first :: rest).drop (max 1 capacity) = rest.drop (capacity - 1) := by
        rw [show max 1 capacity = capacity - 1 + 1 by omega, List.drop_succ_cons]
      have later : (rest.drop (capacity - 1))[place - max 1 capacity]? = some record := by
        rw [← dropped, List.getElem?_drop, Nat.add_sub_cancel' (Nat.not_lt.mp early)]
        exact listed
      obtain ⟨part, found, member⟩ := ih later
      refine ⟨part, ?_, ?_⟩
      · rw [dropped, Location.ofPlace, block]
        exact found
      · rw [Location.ofPlace, entry]
        exact member

theorem mem_of_mem_blocks {capacity : Nat} {records part : List KeyRecord} {record : KeyRecord}
    (listed : part ∈ blocks capacity records) (member : record ∈ part) : record ∈ records := by
  induction records using blocks.induct capacity with
  | case1 => simp [blocks] at listed
  | case2 first rest ih =>
    rw [blocks, List.mem_cons] at listed
    rcases listed with same | later
    · rw [same, List.mem_cons] at member
      rcases member with here | inside
      · rw [here]
        exact List.mem_cons_self
      · exact List.mem_cons_of_mem _ (List.mem_of_mem_take inside)
    · exact List.mem_cons_of_mem _ (List.mem_of_mem_drop (ih later))

end KeyRecord

end RegistryHive
