import RegistryHive.Proofs.Failures

/-! Reading with 64-bit numbers. Here every sum, difference, index and slice is made only after a check that
it is in range, and fails with `outOfRange` otherwise. The checks never fail, so what is read is the same. -/
namespace RegistryHive.Guarded

/-- Fails unless the sum is a 64-bit number. -/
def sum (left right : Nat) : Except Error Unit :=
  require (left + right < 0x10000000000000000) (.outOfRange left right)

/-- Fails unless there is such a difference. -/
def difference (left right : Nat) : Except Error Unit :=
  require (right ≤ left) (.outOfRange right left)

def numberAt (data : Bytes) (offset width : Nat) : Except Error Nat := do
  sum offset width
  if data.length < offset + width then throw (.truncated offset width (data.length - offset))
  else return Bytes.littleEndian (← data.slice offset (offset + width))

def value (data : Bytes) (offset : Nat) : Except Error ValueEntry := do
  require (12 ≤ data.length) (.truncated offset 12 data.length)
  let number ← numberAt data 0x00 4
  let nameSize ← numberAt data 0x08 2
  let dataSize ← numberAt data 0x0A 2
  sum 12 nameSize
  let nameEnd := 12 + nameSize
  sum nameEnd dataSize
  let size := nameEnd + dataSize
  require (size ≤ data.length) (.truncated offset size data.length)
  let name ← data.slice 12 nameEnd
  let content ← data.slice nameEnd size
  return ⟨offset, .ofNumber number, name, content⟩

/-- Reads `count` values, the next one from `position` onward. The values of the entry at `offset` begin
`start` bytes after it. -/
def values (data : Bytes) (offset start position : Nat) (found : List ValueEntry) :
    (count : Nat) → Except Error (List ValueEntry)
  | 0 => .ok found.reverse
  | count + 1 => do
    let rest ← data.skip position
    sum start position
    sum offset (start + position)
    let entry ← value rest (offset + (start + position))
    sum 12 entry.name.length
    sum (12 + entry.name.length) entry.data.length
    sum position entry.size
    values data offset start (position + entry.size) (entry :: found) count

def nameEntry (data : Bytes) (offset : Nat) : Except Error KeyNameEntry := do
  require (20 ≤ data.length) (.truncated offset 20 data.length)
  let size ← numberAt data 0x00 4
  require (20 ≤ size ∧ size ≤ data.length) (.invalidFormat (.nameEntrySize offset size))
  let index ← numberAt data 0x04 2
  let usedSize ← numberAt data 0x08 4
  let nameSize ← numberAt data 0x0C 2
  let count ← numberAt data 0x0E 2
  require (20 ≤ usedSize ∧ usedSize ≤ size) (.invalidFormat (.nameEntryUsedSize offset usedSize))
  sum 20 nameSize
  let nameEnd := 20 + nameSize
  require (nameEnd ≤ usedSize) (.invalidFormat (.nameSize offset nameSize))
  let name ← data.slice 20 nameEnd
  let records ← data.slice nameEnd usedSize
  let values ← values records offset nameEnd 0 [] count
  return { offset, size, index, usedSize, name, values }

/-- Where an entry is in its data area. -/
structure Extent where
  position : Nat
  size : Nat

/-- A data block with its whole data area, from which entries are cut when they are asked for. -/
structure Block where
  header : BlockHeader
  data : Bytes
  extents : List Extent

/-- Finds the entries from `position` onward. Those found before are in `found`, latest first. -/
def index (header : BlockHeader) (data : Bytes) (limit position : Nat) (found : List Extent) :
    Except Error (List Extent) :=
  if position < limit then do
    difference data.length position
    if data.length - position < 20 then return found.reverse
    else
      let size ← numberAt data position 4
      if fits : 20 ≤ size ∧ size ≤ data.length - position then
        have shorter : data.length - (position + size) < data.length - position := by
          have nonempty : 0 < size := Nat.lt_of_lt_of_le (by decide) fits.1
          omega
        sum position size
        index header data limit (position + size) (⟨position, size⟩ :: found)
      else throw (.invalidFormat (.blockEntrySize header.offset found.length position size))
  else return found.reverse
termination_by data.length - position
decreasing_by exact shorter

def block (header : BlockHeader) (data : Bytes) : Except Error Block := do
  difference header.size 32
  let extents ← index header data (min header.entriesSize data.length) 0 []
  return ⟨header, data, extents⟩

/-- The absolute offset and the bytes of an entry. -/
def Block.entry? (block : Block) (number : Nat) : Except Error (Option (Nat × Bytes)) :=
  match block.extents[number]? with
  | none => return none
  | some extent => do
    sum block.header.offset 32
    sum (block.header.offset + 32) extent.position
    sum extent.position extent.size
    let bytes ← block.data.slice extent.position (extent.position + extent.size)
    return some (block.header.offset + 32 + extent.position, bytes)

section Reads

variable (reads : Reads)

def dataBlock (headers : List BlockHeader) (number : Nat) : Except Error Block :=
  match headers[number]? with
  | none => .error (.invalidFormat (.blockNumber number headers.length))
  | some header => do
    sum header.offset 32
    difference header.size 32
    let data ← reads (header.offset + 32) (header.size - 32)
    block header data

def nameEntryAt (headers : List BlockHeader) (location : Location) : Except Error KeyNameEntry := do
  let block ← dataBlock reads headers location.block
  match ← block.entry? location.entry with
  | none =>
    .error (.invalidFormat (.entryNumber location.entry location.block block.extents.length))
  | some (offset, data) => nameEntry data offset

def keyAt (navigation : Navigation) (offset : Nat) : Except Error Key := do
  sum offset 28
  let _ ← navigation.checkEntry offset
  sum 32 offset
  reads.readKey offset

def chainFrom (navigation : Navigation) (owner : Nat) (passed : Passed navigation)
    (next : Option Nat) : Chain :=
  match next with
  | none => ⟨[], none⟩
  | some offset =>
    if repeated : offset = owner ∨ offset ∈ passed.offsets then
      ⟨[], some (.invalidFormat (.subKeyCycle owner offset))⟩
    else
      match keyAt reads navigation offset with
      | .error error => ⟨[], some error⟩
      | .ok key =>
        if holds : navigation.Holds offset then
          have := passed.remaining_add_lt holds fun member => repeated (.inr member)
          let rest := chainFrom navigation owner (passed.add offset holds)
            (storedOffset key.entry.nextSibling)
          ⟨key :: rest.keys, rest.failure⟩
        else ⟨[], some (.invalidOffset offset navigation.size)⟩
termination_by passed.remaining

def scan (size offset : Nat) (found : List BlockHeader) : Except Error (List BlockHeader) := do
  if offset < size then
    sum offset 32
    if offset + 32 ≤ size then
      let data ← reads offset 32
      if Signature.dataBlock.opens data then
        let block ← BlockHeader.parse data offset
        sum block.offset block.size
        if block.nextOffset ≤ size then
          have := block.holdsHeader
          scan size (offset + block.size) (block :: found)
        else
          difference size offset
          throw (.truncated offset block.size (size - offset))
      else
        require found.isEmpty (.invalidFormat (.noBlockSignature offset))
        return []
    else
      difference size offset
      return found.reverse
  else return found.reverse
termination_by size - offset

def attach (size : Nat) (codepage : Codepage) : Except Error Hive := do
  let header ← FileHeader.parse (← reads 0 32)
  let navigation ← Navigation.parse (← reads 32 32)
  sum 32 navigation.size
  require (32 + navigation.size ≤ size) (.truncated 32 navigation.size (size - 32))
  let dataBlocks ← scan reads size header.dataBlocksOffset []
  return { header, navigation, dataBlocks, codepage }

end Reads

/-- What reads of a source give. The end of a read beyond all 64-bit numbers is beyond the source. -/
def fetch (source : Source) : Reads := fun offset length =>
  if offset + length < 0x10000000000000000 ∧ offset + length ≤ source.size then
    match source with
    | .mapped content => Bytes.slice content.toList offset (offset + length)
    | .stream attached => ((attached.seek offset).readExact length).1
    | .reader attached => attached.read offset length
  else .error (.truncated offset length (source.size - offset))

/-- What all operations on an open file go back to. The index of a value is not among it: `Value.entry`
checks that whenever something is asked of a value. -/
def access (reads : Reads) (hive : Hive) : Access where
  rootKey :=
    match storedOffset hive.navigation.root with
    | none => .error (.invalidFormat .noRootKey)
    | some offset => keyAt reads hive.navigation offset
  parent key :=
    match storedOffset key.entry.parent with
    | none => .ok none
    | some offset => (keyAt reads hive.navigation offset).map some
  chain key :=
    chainFrom reads hive.navigation key.offset .nothing (storedOffset key.entry.firstSubKey)
  nameEntry key :=
    match key.entry.location with
    | none => .ok none
    | some location => (nameEntryAt reads hive.dataBlocks location).map some

section Checks

variable {data : Bytes}

theorem sum_ok {left right : Nat} (bounded : left + right < 0x10000000000000000) :
    sum left right = .ok () := require_ok_iff.mpr bounded

theorem difference_ok {left right : Nat} (ordered : right ≤ left) :
    difference left right = .ok () := require_ok_iff.mpr ordered

theorem numberAt_ok {offset width : Nat} (inside : offset + width ≤ data.length)
    (bounded : offset + width < 0x10000000000000000) :
    numberAt data offset width = .ok (data.number offset width) := by
  have held : ¬data.length < offset + width := Nat.not_lt.mpr inside
  unfold numberAt
  rw [sum_ok bounded, if_neg held, Bytes.slice_eq (by omega) inside, Nat.add_sub_cancel_left]
  rfl

end Checks

section Records

theorem value_eq (data : Bytes) (offset : Nat) : value data offset = ValueEntry.parse data offset := by
  have nameSize := Bytes.number_two_lt data 0x08
  have dataSize := Bytes.number_two_lt data 0x0A
  rw [ValueEntry.parse_eq]
  unfold value
  by_cases header : 12 ≤ data.length
  · rw [if_pos header, numberAt_ok (by omega) (by decide), numberAt_ok (by omega) (by decide),
      numberAt_ok (by omega) (by decide)]
    simp only [require, header, if_true, bind, Except.bind]
    rw [sum_ok (by omega), sum_ok (by omega)]
    by_cases inside : ValueEntry.sizeIn data ≤ data.length
    · have enough : 12 + data.number 0x08 2 + data.number 0x0A 2 ≤ data.length := inside
      simp only [if_pos inside, enough, if_true]
      rw [Bytes.slice_eq (by omega) (by omega), Bytes.slice_eq (by omega) (by omega)]
      simp only [Nat.add_sub_cancel_left]
      rfl
    · have outside : ¬12 + data.number 0x08 2 + data.number 0x0A 2 ≤ data.length := inside
      simp only [if_neg inside, outside, if_false]
      rfl
  · simp only [require, header, if_false]
    rfl

/-- Values end where their key name entry does, so their offsets are as good as its end. -/
theorem values_eq {data : Bytes} {offset start : Nat}
    (bounded : offset + start + data.length < 0x10000000000000000) {position : Nat}
    (inside : position ≤ data.length) (found : List ValueEntry) (count : Nat) :
    values data offset start position found count =
      ValueEntry.parseAll (data.drop position) (offset + (start + position)) found count := by
  induction count generalizing position found with
  | zero => rfl
  | succ count ih =>
    rw [values, ValueEntry.parseAll, Bytes.skip_of_le inside]
    simp only [bind, Except.bind]
    rw [sum_ok (by omega), sum_ok (by omega), value_eq]
    cases parsed : ValueEntry.parse (data.drop position) (offset + (start + position)) with
    | error error => rfl
    | ok entry =>
      have size := ValueEntry.size_le_of_parse parsed
      have skipped := Bytes.skip_of_le size
      rw [List.length_drop] at size
      have split : entry.size = 12 + entry.name.length + entry.data.length := rfl
      simp only [skipped, List.drop_drop]
      rw [sum_ok (by omega), sum_ok (by omega), sum_ok (by omega)]
      simp only [ih (show position + entry.size ≤ data.length by omega), Nat.add_assoc]

theorem nameEntry_eq {data : Bytes} {offset : Nat}
    (bounded : offset + data.length < 0x10000000000000000) :
    nameEntry data offset = KeyNameEntry.parse data offset := by
  have nameSize := Bytes.number_two_lt data 0x0C
  rw [KeyNameEntry.parse_eq]
  unfold nameEntry
  by_cases header : 20 ≤ data.length
  · rw [if_pos header, numberAt_ok (by omega) (by decide), numberAt_ok (by omega) (by decide),
      numberAt_ok (by omega) (by decide), numberAt_ok (by omega) (by decide),
      numberAt_ok (by omega) (by decide)]
    simp only [require, header, if_true, bind, Except.bind]
    rw [sum_ok (by omega)]
    by_cases sized : 20 ≤ data.number 0x00 4 ∧ data.number 0x00 4 ≤ data.length
    · by_cases used : 20 ≤ data.number 0x08 4 ∧ data.number 0x08 4 ≤ data.number 0x00 4
      · by_cases named : 20 + data.number 0x0C 2 ≤ data.number 0x08 4
        · have length : (KeyNameEntry.valuesIn data).length =
              data.number 0x08 4 - (20 + data.number 0x0C 2) := Bytes.length_field (by omega)
          simp only [sized, used, named, and_self, if_true]
          rw [Bytes.slice_eq (by omega) (by omega), Bytes.slice_eq (by omega) (by omega)]
          simp only [Nat.add_sub_cancel_left]
          rw [show data.field (20 + data.number 0x0C 2) _ = KeyNameEntry.valuesIn data from rfl,
            values_eq (by omega) (Nat.zero_le _)]
          simp only [List.drop_zero, Nat.add_zero]
          cases ValueEntry.parseAll _ _ _ _ <;> rfl
        · simp only [sized, used, named, and_self, if_true, if_false]
      · simp only [sized, used, and_self, if_true, if_false]
    · simp only [sized, if_false]
  · simp only [require, header, if_false]
    rfl

end Records

/-- The entry in an extent. -/
def Extent.entry (data : Bytes) (extent : Extent) : BlockEntry :=
  ⟨extent.position, data.field extent.position extent.size⟩

/-- The block with all its entries cut. -/
def Block.cut (block : Block) : DataBlock :=
  ⟨block.header, (block.extents.map (Extent.entry block.data)).toArray⟩

section Blocks

variable {header : BlockHeader} {data : Bytes} {limit : Nat}

/-- One step of indexing, whose checks do not fail within the data area. -/
theorem index_step (small : data.length < 0x8000000000000000) {position : Nat}
    (inside : position ≤ data.length) (found : List Extent) :
    index header data limit position found =
      if position < limit ∧ 20 ≤ data.length - position then
        if 20 ≤ data.number position 4 ∧ data.number position 4 ≤ data.length - position then
          index header data limit (position + data.number position 4)
            (⟨position, data.number position 4⟩ :: found)
        else .error (.invalidFormat
          (.blockEntrySize header.offset found.length position (data.number position 4)))
      else .ok found.reverse := by
  rw [index]
  by_cases before : position < limit
  · simp only [before, true_and, if_true, bind, Except.bind]
    rw [difference_ok inside]
    by_cases more : 20 ≤ data.length - position
    · simp only [if_pos more, if_neg (Nat.not_lt.mpr more)]
      rw [numberAt_ok (by omega) (by omega)]
      by_cases fits : 20 ≤ data.number position 4 ∧ data.number position 4 ≤ data.length - position
      · have bounded : position + data.number position 4 < 0x10000000000000000 := by omega
        simp only [if_pos fits, dif_pos fits, sum_ok bounded]
      · simp only [if_neg fits, dif_neg fits]
        rfl
    · simp only [if_neg more, if_pos (Nat.not_le.mp more)]
      rfl
  · simp only [before, false_and, if_false]
    rfl

/-- The index has the places of the entries that the data area is cut into. -/
theorem index_eq (small : data.length < 0x8000000000000000) {position : Nat}
    (inside : position ≤ data.length) (found : List Extent) :
    DataBlock.cut header limit position (data.drop position).length (data.drop position)
        (found.map (Extent.entry data)) =
      (index header data limit position found).map (List.map (Extent.entry data)) := by
  have size : Bytes.number (data.drop position) 0 4 = data.number position 4 := rfl
  have left : (data.drop position).length = data.length - position := List.length_drop
  rw [DataBlock.cut_eq, index_step small inside, size, left]
  by_cases more : position < limit ∧ 20 ≤ data.length - position
  · rw [if_pos more, if_pos more]
    by_cases fits : 20 ≤ data.number position 4 ∧ data.number position 4 ≤ data.length - position
    · rw [if_pos fits, if_pos fits, ← index_eq small (by omega), List.drop_drop]
      rfl
    · rw [if_neg fits, if_neg fits, List.length_map]
      rfl
  · rw [if_neg more, if_neg more, ← List.map_reverse]
    rfl
termination_by data.length - position
decreasing_by omega

/-- All places in the index are in the data area. -/
theorem index_inside (small : data.length < 0x8000000000000000) {position : Nat}
    (inside : position ≤ data.length) {found extents : List Extent}
    (earlier : ∀ extent ∈ found, extent.position + extent.size ≤ data.length)
    (indexed : index header data limit position found = .ok extents) :
    ∀ extent ∈ extents, extent.position + extent.size ≤ data.length := by
  rw [index_step small inside] at indexed
  by_cases more : position < limit ∧ 20 ≤ data.length - position
  · rw [if_pos more] at indexed
    by_cases fits : 20 ≤ data.number position 4 ∧ data.number position 4 ≤ data.length - position
    · rw [if_pos fits] at indexed
      refine index_inside small (by omega) (fun extent member => ?_) indexed
      rcases List.mem_cons.mp member with same | member
      · rw [same]
        change position + data.number position 4 ≤ data.length
        omega
      · exact earlier extent member
    · rw [if_neg fits] at indexed
      cases indexed
  · rw [if_neg more] at indexed
    cases indexed
    intro extent member
    exact earlier extent (List.mem_reverse.mp member)
termination_by data.length - position
decreasing_by omega

/-- A block is indexed as it is cut, and its places are in its data area. -/
theorem block_eq (header : BlockHeader) (small : data.length < 0x8000000000000000) :
    DataBlock.ofData header data = (block header data).map Block.cut ∧
    ∀ indexed, block header data = .ok indexed → indexed.header = header ∧ indexed.data = data ∧
      ∀ extent ∈ indexed.extents, extent.position + extent.size ≤ data.length := by
  have places : DataBlock.cut header (min header.entriesSize data.length) 0 data.length data [] =
      (index header data (min header.entriesSize data.length) 0 []).map (List.map (Extent.entry data)) :=
    index_eq small (Nat.zero_le _) []
  unfold DataBlock.ofData block
  rw [difference_ok header.holdsHeader]
  simp only [bind, Except.bind, places]
  cases indexed : index header data (min header.entriesSize data.length) 0 [] with
  | error error => exact ⟨rfl, fun _ found => by cases found⟩
  | ok extents =>
    refine ⟨rfl, ?_⟩
    intro found same
    cases same
    exact ⟨rfl, rfl, index_inside small (Nat.zero_le _) (by simp) indexed⟩

/-- An entry is cut from its place in the data area when it is asked for. -/
theorem entry?_eq {block : Block} (number : Nat)
    (inside : ∀ extent ∈ block.extents, extent.position + extent.size ≤ block.data.length)
    (bounded : block.header.offset + 32 + block.data.length < 0x10000000000000000) :
    block.entry? number = .ok (block.cut.entry? number) := by
  simp only [Block.entry?, DataBlock.entry?, Block.cut, List.getElem?_toArray, List.getElem?_map]
  cases listed : block.extents[number]? with
  | none => rfl
  | some extent =>
    have within := inside extent (List.mem_of_getElem? listed)
    simp only [bind, Except.bind]
    rw [sum_ok (by omega), sum_ok (by omega), sum_ok (by omega),
      Bytes.slice_eq (by omega) within, Nat.add_sub_cancel_left]
    rfl

end Blocks

end RegistryHive.Guarded
