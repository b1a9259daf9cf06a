import RegistryHive.Image
import RegistryHive.Proofs.Parsing

namespace RegistryHive

theorem ValueType.number_ofNumber (number : Nat) : (ValueType.ofNumber number).number = number := by
  unfold ofNumber
  split
  all_goals rfl

/-- A value as it was before it was stored. -/
def ValueEntry.record (value : ValueEntry) : ValueRecord := ⟨value.type.number, value.name, value.data⟩

/-- Whether the parts of a value fit the fields for them. -/
structure ValueRecord.Fits (value : ValueRecord) : Prop where
  type : value.type < 0x100000000
  name : value.name.length < 0x10000
  data : value.data.length < 0x10000

namespace ValueRecord

theorem length_toBytes (value : ValueRecord) :
    value.toBytes.length = 12 + value.name.length + value.data.length := by
  simp [toBytes, Bytes.zeros]
  omega

variable {value : ValueRecord}

/-- A written value is read back from before anything else. -/
theorem parse_toBytes (fits : value.Fits) (rest : Bytes) (offset : Nat) :
    ValueEntry.parse (value.toBytes ++ rest) offset =
      .ok ⟨offset, .ofNumber value.type, value.name, value.data⟩ := by
  let data : Bytes := value.toBytes ++ rest
  have long : data.length = 12 + value.name.length + value.data.length + rest.length := by
    rw [List.length_append, length_toBytes]
  have type : data.number 0x00 4 = value.type := Bytes.littleEndian_ofNumber_four fits.type
  have nameSize : data.number 0x08 2 = value.name.length := Bytes.littleEndian_ofNumber_two fits.name
  have dataSize : data.number 0x0A 2 = value.data.length := Bytes.littleEndian_ofNumber_two fits.data
  have whole : PartAt data 0 value.toBytes := (PartAt.refl data).left
  have name : PartAt data 12 value.name := whole.left.right
  have content : PartAt data (12 + value.name.length) value.data := by
    have last := whole.right
    rw [Nat.zero_add, List.length_append] at last
    exact last
  have size : ValueEntry.sizeIn data = 12 + value.name.length + value.data.length := by
    rw [ValueEntry.sizeIn, nameSize, dataSize]
  have nameField : data.field 12 (data.number 0x08 2) = value.name := by
    rw [nameSize]
    exact name.field_eq
  have dataField : data.field (12 + data.number 0x08 2) (data.number 0x0A 2) = value.data := by
    rw [nameSize, dataSize]
    exact content.field_eq
  change ValueEntry.parse data offset = _
  rw [ValueEntry.parse_eq, if_pos (by omega), if_pos (by omega), ValueEntry.ofFields, type, nameField,
    dataField]

end ValueRecord

namespace ValueEntry

/-- Written values are read back, in their order. -/
theorem parseAll_toBytes {values : List ValueRecord} (fits : ∀ value ∈ values, value.Fits)
    (offset : Nat) (found : List ValueEntry) :
    ∃ entries, parseAll (values.flatMap ValueRecord.toBytes) offset found values.length =
      .ok (found.reverse ++ entries) ∧ entries.map record = values := by
  induction values generalizing offset found with
  | nil => exact ⟨[], by simp [parseAll], rfl⟩
  | cons value rest ih =>
    let entry : ValueEntry := ⟨offset, .ofNumber value.type, value.name, value.data⟩
    have parsed := ValueRecord.parse_toBytes (fits value (by simp))
      (rest.flatMap ValueRecord.toBytes) offset
    have size : entry.size = value.toBytes.length := by rw [ValueRecord.length_toBytes]; rfl
    obtain ⟨entries, following, same⟩ :=
      ih (fun other member => fits other (by simp [member])) (offset + entry.size) (entry :: found)
    refine ⟨entry :: entries, ?_, ?_⟩
    · rw [List.flatMap_cons, List.length_cons, parseAll, parsed]
      have skipped : Bytes.skip (value.toBytes ++ rest.flatMap ValueRecord.toBytes) entry.size =
          .ok (rest.flatMap ValueRecord.toBytes) := by
        rw [Bytes.skip_of_le (by simp [size]), size, List.drop_left]
      simp only [bind, Except.bind]
      rw [show Bytes.skip _ _ = _ from skipped]
      simpa using! following
    · simp only [List.map_cons, same, record, entry, ValueType.number_ofNumber]

end ValueEntry

/-- Whether the parts of a key fit the fields for them. -/
structure KeyRecord.Fits (record : KeyRecord) : Prop where
  name : record.name.length < 0x10000
  count : record.values.length < 0x10000
  values : ∀ value ∈ record.values, value.Fits
  size : (record.toBytes 0).length < 0x100000000

/-- A key as it was before it was stored. -/
def KeyNameEntry.record (entry : KeyNameEntry) : KeyRecord :=
  ⟨entry.name, entry.values.map ValueEntry.record⟩

namespace KeyRecord

/-- The size of a key name entry, which its number does not change. -/
def byteSize (record : KeyRecord) : Nat := (record.toBytes 0).length

theorem length_toBytes (record : KeyRecord) (number : Nat) :
    (record.toBytes number).length = record.byteSize := by
  simp [byteSize, toBytes, Bytes.zeros]

theorem byteSize_eq (record : KeyRecord) :
    record.byteSize =
      20 + record.name.length + (record.values.flatMap ValueRecord.toBytes).length := by
  simp [byteSize, toBytes, Bytes.zeros]
  omega

/-- A key without values fits where its name does. -/
theorem fits_of_name {name : Bytes} (short : name.length < 0x10000) : Fits ⟨name, []⟩ where
  name := short
  count := Nat.two_pow_pos 16
  values value member := absurd member List.not_mem_nil
  size := by
    rw [length_toBytes, byteSize_eq]
    simp only [List.flatMap_nil, List.length_nil]
    omega

variable {record : KeyRecord}

/-- A key name entry begins with its size. -/
theorem number_toBytes (fits : record.Fits) (number : Nat) :
    (record.toBytes number).number 0 4 = record.byteSize := by
  have size : record.byteSize < 0x100000000 := fits.size
  have written : (record.toBytes number).number 0 4 = Bytes.littleEndian (.ofNumber 4
      (20 + record.name.length + (record.values.flatMap ValueRecord.toBytes).length)) := rfl
  rw [written, ← byteSize_eq]
  exact Bytes.littleEndian_ofNumber_four size

/-- What is read from a written key name entry is the record. -/
theorem parse_toBytes (fits : record.Fits) (number offset : Nat) :
    ∃ entry, KeyNameEntry.parse (record.toBytes number) offset = .ok entry ∧
      entry.record = record := by
  let data : Bytes := record.toBytes number
  let values : Bytes := record.values.flatMap ValueRecord.toBytes
  have length : data.length = record.byteSize := length_toBytes record number
  have split : record.byteSize = 20 + record.name.length + values.length := byteSize_eq record
  have whole : PartAt data 0 data := PartAt.refl data
  have size : data.number 0x00 4 = record.byteSize := number_toBytes fits number
  have usedSize : data.number 0x08 4 = record.byteSize := size
  have nameSize : data.number 0x0C 2 = record.name.length :=
    Bytes.littleEndian_ofNumber_two fits.name
  have count : data.number 0x0E 2 = record.values.length :=
    Bytes.littleEndian_ofNumber_two fits.count
  have name : PartAt data 20 record.name := whole.left.right
  have content : PartAt data (20 + record.name.length) values := by
    have last := whole.right
    rw [Nat.zero_add, List.length_append] at last
    exact last
  have nameField : data.field 20 (data.number 0x0C 2) = record.name := by
    rw [nameSize]
    exact name.field_eq
  have valuesField : KeyNameEntry.valuesIn data = values := by
    rw [KeyNameEntry.valuesIn, nameSize, usedSize, split, Nat.add_sub_cancel_left]
    exact content.field_eq
  obtain ⟨entries, parsed, same⟩ :=
    ValueEntry.parseAll_toBytes fits.values (offset + (20 + record.name.length)) []
  refine ⟨KeyNameEntry.ofFields data offset entries, ?_, ?_⟩
  · change KeyNameEntry.parse data offset = _
    rw [KeyNameEntry.parse_eq, if_pos (by omega), if_pos (by omega), if_pos (by omega),
      if_pos (by omega), valuesField, nameSize, count]
    simp only [values, parsed]
    rfl
  · simp only [KeyNameEntry.record, KeyNameEntry.ofFields, nameField, same]

end KeyRecord

/-- The entries that stand one after another from `position`. -/
def BlockEntry.listFrom : Nat → List Bytes → List BlockEntry
  | _, [] => []
  | position, bytes :: rest => ⟨position, bytes⟩ :: listFrom (position + bytes.length) rest

theorem BlockEntry.getElem?_listFrom {parts : List Bytes} {place : Nat} {bytes : Bytes}
    (listed : parts[place]? = some bytes) (position : Nat) :
    ∃ start, (listFrom position parts)[place]? = some ⟨start, bytes⟩ := by
  induction parts generalizing position place with
  | nil => simp at listed
  | cons first rest ih =>
    cases place with
    | zero =>
      have same : first = bytes := by simpa using listed
      exact ⟨position, by simp [listFrom, same]⟩
    | succ place =>
      obtain ⟨start, found⟩ := ih (by simpa using listed) (position + first.length)
      exact ⟨start, by simpa [listFrom] using found⟩

namespace DataBlock

/-- A data area is cut into the entries that it was put together from. -/
theorem cut_flatten (header : BlockHeader) {parts : List Bytes}
    (sized : ∀ part ∈ parts, 20 ≤ part.length ∧ part.number 0 4 = part.length)
    (position : Nat) (found : List BlockEntry) :
    cut header (position + parts.flatten.length) position parts.flatten.length parts.flatten found =
      .ok (found.reverse ++ BlockEntry.listFrom position parts) := by
  induction parts generalizing position found with
  | nil =>
    rw [cut_eq, if_neg (by simp)]
    simp [BlockEntry.listFrom]
  | cons part rest ih =>
    obtain ⟨least, size⟩ := sized part (by simp)
    have following := ih (fun other member => sized other (by simp [member]))
      (position + part.length) (⟨position, part⟩ :: found)
    have length : (part :: rest).flatten.length = part.length + rest.flatten.length := by simp
    have first : PartAt (part :: rest).flatten 0 part := (PartAt.refl (part ++ rest.flatten)).left
    have number : Bytes.number (part :: rest).flatten 0 4 = part.length := by
      rw [← size]
      exact first.number 0 4 (by omega)
    have taken : (part :: rest).flatten.take part.length = part := first.field_eq
    have dropped : (part :: rest).flatten.drop part.length = rest.flatten := by
      rw [List.flatten_cons, List.drop_left]
    rw [cut_eq, number, if_pos ⟨by omega, by omega⟩, if_pos ⟨least, by omega⟩, taken, dropped, length,
      ← Nat.add_assoc, following]
    simp [BlockEntry.listFrom]

end DataBlock

end RegistryHive
