import RegistryHive.Proofs.Fields
import RegistryHive.Proofs.Opening

namespace RegistryHive

/-- The reads of a source that serves `data` and reports its true length. -/
def Bytes.reads (data : Bytes) : Reads := fun offset length =>
  if offset + length ≤ data.length then .ok (data.field offset length)
  else .error (.truncated offset length (data.length - offset))

theorem Bytes.reads_inside {data : Bytes} {offset length : Nat}
    (inside : offset + length ≤ data.length) :
    data.reads offset length = .ok (data.field offset length) := if_pos inside

theorem Source.fetch_of_honest_eq {source : Source} (honest : source.Honest) :
    source.fetch = source.content.reads := by
  funext offset length
  by_cases inside : offset + length ≤ source.content.length
  · rw [Bytes.reads_inside inside]
    exact Source.fetch_of_honest honest inside
  · rw [Source.fetch_outside (by rw [honest.size_eq]; omega), honest.size_eq, Bytes.reads, if_neg inside]

/-- Whether `block` is the header that stands at `offset`, of a block that ends in the file. -/
structure BlockHeader.StandsAt (block : BlockHeader) (data : Bytes) (offset : Nat) : Prop where
  place : block.offset = offset
  signature : data.field offset 4 = Signature.dataBlock.bytes
  size : block.size = data.number (offset + 0x04) 4
  unusedSize : block.unusedSize = data.number (offset + 0x08) 4
  index : block.index = data.number (offset + 0x0E) 2
  usedSize : block.usedSize = data.number (offset + 0x10) 4
  inside : offset + block.size ≤ data.length

/-- One header stands at an offset. -/
theorem BlockHeader.StandsAt.unique {block other : BlockHeader} {data : Bytes} {offset : Nat}
    (stands : block.StandsAt data offset) (also : other.StandsAt data offset) : block = other := by
  obtain ⟨place, _, size, unusedSize, index, usedSize, _⟩ := stands
  obtain ⟨otherPlace, _, otherSize, otherUnused, otherIndex, otherUsed, _⟩ := also
  cases block
  cases other
  simp only [BlockHeader.mk.injEq]
  exact ⟨place.trans otherPlace.symm, size.trans otherSize.symm, unusedSize.trans otherUnused.symm,
    index.trans otherIndex.symm, usedSize.trans otherUsed.symm⟩

/-- Blocks that stand one after another, from the first offset up to the second. -/
inductive BlockRun (data : Bytes) : Nat → List BlockHeader → Nat → Prop where
  | nil (offset : Nat) : BlockRun data offset [] offset
  | cons {block : BlockHeader} (stands : block.StandsAt data offset)
      (rest : BlockRun data (offset + block.size) blocks finish) :
      BlockRun data offset (block :: blocks) finish

/-- Whether the blocks stand one after another from `start`. -/
def BlockHeader.Consecutive : Nat → List BlockHeader → Prop
  | _, [] => True
  | start, block :: rest => block.offset = start ∧ Consecutive (start + block.size) rest

/-- What the file has from `start` onward: no blocks, blocks up to the end of the file, or blocks up to a
place where there is no whole block. -/
inductive BlockList (data : Bytes) (start : Nat) : Except Error (List BlockHeader) → Prop where
  | beyond (short : data.length < start + 32) : BlockList data start (.ok [])
  | absent (held : start + 32 ≤ data.length)
      (other : data.field start 4 ≠ Signature.dataBlock.bytes) : BlockList data start (.ok [])
  | run (run : BlockRun data start blocks finish) (some : blocks ≠ [])
      (tail : data.length < finish + 32) : BlockList data start (.ok blocks)
  | unsigned (run : BlockRun data start blocks finish) (some : blocks ≠ [])
      (held : finish + 32 ≤ data.length)
      (other : data.field finish 4 ≠ Signature.dataBlock.bytes) :
      BlockList data start (.error (.invalidFormat (.noBlockSignature finish)))
  | undersized (run : BlockRun data start blocks finish) (held : finish + 32 ≤ data.length)
      (signature : data.field finish 4 = Signature.dataBlock.bytes)
      (small : data.number (finish + 0x04) 4 < 32) :
      BlockList data start
        (.error (.invalidFormat (.blockSize finish (data.number (finish + 0x04) 4))))
  | oversized (run : BlockRun data start blocks finish) (held : finish + 32 ≤ data.length)
      (signature : data.field finish 4 = Signature.dataBlock.bytes)
      (enough : 32 ≤ data.number (finish + 0x04) 4)
      (large : data.length < finish + data.number (finish + 0x04) 4) :
      BlockList data start
        (.error (.truncated finish (data.number (finish + 0x04) 4) (data.length - finish)))

namespace Signature

theorem opens_iff (signature : Signature) (data : Bytes) :
    signature.opens data = true ↔ data.field 0 4 = signature.bytes := by
  simp [opens, Bytes.field]

theorem check_eq (signature : Signature) {data : Bytes} (held : 4 ≤ data.length) :
    signature.check data =
      if data.field 0 4 = signature.bytes then .ok ()
      else .error (.invalidSignature signature.bytes (data.field 0 4)) := by
  have enough : data.holds 4 = true := Bytes.holds_iff.mpr held
  simp only [check, enough, Bool.not_true, Bool.false_eq_true, if_false]
  by_cases same : data.field 0 4 = signature.bytes
  · rw [if_pos same, if_pos ((signature.opens_iff data).mpr same)]
  · rw [if_neg same, if_neg fun opens => same ((signature.opens_iff data).mp opens)]
    rfl

end Signature

namespace BlockHeader

variable {data : Bytes} {offset : Nat}

/-- The header in the 32 bytes at `offset`, whose signature was found. -/
theorem parse_field (held : offset + 32 ≤ data.length)
    (signature : data.field offset 4 = Signature.dataBlock.bytes) :
    parse (data.field offset 32) offset =
      if holdsHeader : 32 ≤ data.number (offset + 0x04) 4 then
        .ok {
          offset
          size := data.number (offset + 0x04) 4
          unusedSize := data.number (offset + 0x08) 4
          index := data.number (offset + 0x0E) 2
          usedSize := data.number (offset + 0x10) 4
          holdsHeader }
      else .error (.invalidFormat (.blockSize offset (data.number (offset + 0x04) 4))) := by
  have length : (data.field offset 32).length = 32 := Bytes.length_field held
  have held : (data.field offset 32).holds byteSize = true := Bytes.holds_iff.mpr (by simp [length, byteSize])
  have opens : (data.field offset 32).field 0 4 = Signature.dataBlock.bytes := by
    rw [Bytes.field_field (by decide)]
    exact signature
  unfold parse
  rw [Signature.check_eq _ (by omega), if_pos opens, Bytes.u32At_eq (by omega),
    Bytes.u32At_eq (by omega), Bytes.u16At_eq (by omega), Bytes.u32At_eq (by omega)]
  have size : (data.field offset 32).number 0x04 4 = data.number (offset + 0x04) 4 :=
    Bytes.number_field (by decide)
  have unusedSize : (data.field offset 32).number 0x08 4 = data.number (offset + 0x08) 4 :=
    Bytes.number_field (by decide)
  have index : (data.field offset 32).number 0x0E 2 = data.number (offset + 0x0E) 2 :=
    Bytes.number_field (by decide)
  have usedSize : (data.field offset 32).number 0x10 4 = data.number (offset + 0x10) 4 :=
    Bytes.number_field (by decide)
  simp only [require, held, if_true, size, unusedSize, index, usedSize]
  rfl

end BlockHeader

namespace Reads

variable {data : Bytes} {offset : Nat}

/-- At the end of the file, or before a rest too short for a header, the scan stops. -/
theorem scan_of_short (reads : Reads) (found : List BlockHeader)
    (short : data.length < offset + 32) :
    reads.scan data.length offset found = .ok found.reverse := by
  rw [scan]
  by_cases before : offset < data.length
  · have tail : ¬offset + BlockHeader.byteSize ≤ data.length := Nat.not_le.mpr short
    rw [if_pos before, if_neg tail]
    rfl
  · rw [if_neg before]
    rfl

theorem scan_of_held (found : List BlockHeader) (held : offset + 32 ≤ data.length) :
    data.reads.scan data.length offset found =
      if data.field offset 4 = Signature.dataBlock.bytes then do
        let block ← BlockHeader.parse (data.field offset 32) offset
        require (block.nextOffset ≤ data.length)
          (.truncated offset block.size (data.length - offset))
        data.reads.scan data.length (offset + block.size) (block :: found)
      else do
        require found.isEmpty (.invalidFormat (.noBlockSignature offset))
        return [] := by
  have opens : Signature.dataBlock.opens (data.field offset 32) = true ↔
      data.field offset 4 = Signature.dataBlock.bytes := by
    rw [Signature.opens_iff, Bytes.field_field (by decide)]
    exact Iff.rfl
  have inside : offset + BlockHeader.byteSize ≤ data.length := held
  rw [scan, if_pos (by omega), if_pos inside]
  have read : data.reads offset BlockHeader.byteSize = .ok (data.field offset 32) :=
    Bytes.reads_inside held
  simp only [read, bind, Except.bind, opens]

theorem scan_of_stands {block : BlockHeader} (stands : block.StandsAt data offset)
    (found : List BlockHeader) :
    data.reads.scan data.length offset found =
      data.reads.scan data.length (offset + block.size) (block :: found) := by
  have holdsHeader := block.holdsHeader
  have inside := stands.inside
  have enough : 32 ≤ data.number (offset + 0x04) 4 := by rw [← stands.size]; exact holdsHeader
  have parsed : BlockHeader.parse (data.field offset 32) offset = .ok block := by
    rw [BlockHeader.parse_field (by omega) stands.signature, dif_pos enough]
    obtain ⟨place, _, size, unusedSize, index, usedSize, _⟩ := stands
    cases block
    simp only [BlockHeader.mk.injEq, Except.ok.injEq]
    exact ⟨place.symm, size.symm, unusedSize.symm, index.symm, usedSize.symm⟩
  have fits : block.nextOffset ≤ data.length := by
    rw [BlockHeader.nextOffset, stands.place]
    exact inside
  rw [scan_of_held found (by omega), if_pos stands.signature, parsed]
  simp only [bind, Except.bind, require, fits, if_true]

theorem scan_of_run {blocks : List BlockHeader} {finish : Nat}
    (run : BlockRun data offset blocks finish) (found : List BlockHeader) :
    data.reads.scan data.length offset found =
      data.reads.scan data.length finish (blocks.reverse ++ found) := by
  induction run generalizing found with
  | nil offset => rfl
  | cons stands rest ih =>
    rw [scan_of_stands stands, ih]
    simp [List.append_assoc]

/-- The scan gives what the file has. -/
theorem scan_of_list {result : Except Error (List BlockHeader)}
    (list : BlockList data offset result) : data.reads.scan data.length offset [] = result := by
  cases list with
  | beyond short => exact scan_of_short _ [] short
  | absent held other =>
    rw [scan_of_held [] held, if_neg other]
    rfl
  | run run some tail =>
    rw [scan_of_run run, scan_of_short _ _ tail]
    simp
  | @unsigned blocks _ run some held other =>
    have nonempty : ¬(blocks.reverse ++ []).isEmpty = true := by simpa using some
    rw [scan_of_run run, scan_of_held _ held, if_neg other]
    simp only [require, nonempty]
    rfl
  | undersized run held signature small =>
    rw [scan_of_run run, scan_of_held _ held, if_pos signature,
      BlockHeader.parse_field held signature, dif_neg (by omega)]
    rfl
  | oversized run held signature enough large =>
    rw [scan_of_run run, scan_of_held _ held, if_pos signature,
      BlockHeader.parse_field held signature, dif_pos enough]
    simp only [bind, Except.bind, require, BlockHeader.nextOffset, Nat.not_le.mpr large, if_false]

end Reads

namespace BlockRun

theorem snoc {data : Bytes} {start offset : Nat} {blocks : List BlockHeader} {block : BlockHeader}
    (run : BlockRun data start blocks offset) (stands : block.StandsAt data offset) :
    BlockRun data start (blocks ++ [block]) (offset + block.size) := by
  induction run with
  | nil offset => exact .cons stands (.nil _)
  | cons first rest ih => exact .cons first (ih stands)

/-- Blocks that reach the end of the file are its list. -/
theorem list_of_reaches {data : Bytes} {start finish : Nat} {blocks : List BlockHeader}
    (run : BlockRun data start blocks finish) (tail : data.length < finish + 32) :
    BlockList data start (.ok blocks) := by
  cases run with
  | nil => exact .beyond tail
  | cons stands rest => exact .run (.cons stands rest) (by simp) tail

theorem consecutive {data : Bytes} {start finish : Nat} {blocks : List BlockHeader}
    (run : BlockRun data start blocks finish) : BlockHeader.Consecutive start blocks := by
  induction run with
  | nil offset => trivial
  | cons stands rest ih => exact ⟨stands.place, ih⟩

/-- Blocks found so far go on to a list, or to a place where it breaks off. -/
theorem exists_list {data : Bytes} {start offset : Nat} {blocks : List BlockHeader}
    (run : BlockRun data start blocks offset) : ∃ result, BlockList data start result := by
  by_cases short : data.length < offset + 32
  · exact ⟨_, run.list_of_reaches short⟩
  have held : offset + 32 ≤ data.length := Nat.not_lt.mp short
  by_cases signature : data.field offset 4 = Signature.dataBlock.bytes
  · by_cases holdsHeader : 32 ≤ data.number (offset + 0x04) 4
    · by_cases inside : offset + data.number (offset + 0x04) 4 ≤ data.length
      · let block : BlockHeader :=
          { offset
            size := data.number (offset + 0x04) 4
            unusedSize := data.number (offset + 0x08) 4
            index := data.number (offset + 0x0E) 2
            usedSize := data.number (offset + 0x10) 4
            holdsHeader }
        have stands : block.StandsAt data offset := ⟨rfl, signature, rfl, rfl, rfl, rfl, inside⟩
        have shorter : data.length - (offset + block.size) < data.length - offset := by
          have nonempty : 32 ≤ block.size := block.holdsHeader
          omega
        exact (run.snoc stands).exists_list
      · exact ⟨_, .oversized run held signature holdsHeader (Nat.not_le.mp inside)⟩
    · exact ⟨_, .undersized run held signature (Nat.not_le.mp holdsHeader)⟩
  · cases run with
    | nil => exact ⟨_, .absent held signature⟩
    | cons stands rest => exact ⟨_, .unsigned (.cons stands rest) (by simp) held signature⟩
termination_by data.length - offset

end BlockRun

theorem BlockList.consecutive {data : Bytes} {start : Nat} {blocks : List BlockHeader}
    (list : BlockList data start (.ok blocks)) : BlockHeader.Consecutive start blocks := by
  cases list with
  | beyond short => trivial
  | absent held other => trivial
  | run run some tail => exact run.consecutive

/-- The file has one list. -/
theorem BlockList.unique {data : Bytes} {start : Nat} {left right : Except Error (List BlockHeader)}
    (first : BlockList data start left) (second : BlockList data start right) : left = right := by
  rw [← Reads.scan_of_list first, Reads.scan_of_list second]

end RegistryHive
