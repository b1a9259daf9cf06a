import RegistryHive.DataBlock
import RegistryHive.KeyNameEntry
import RegistryHive.Navigation
import RegistryHive.Proofs.Fields

namespace RegistryHive

variable {data : Bytes}

/-- A parser that comes to a result has passed its checks. -/
theorem ok_of_ite {α : Type} {condition : Prop} [Decidable condition] {result : Except Error α} {error : Error}
    {value : α} (passed : (if condition then result else .error error) = .ok value) :
    condition ∧ result = .ok value := by
  by_cases holds : condition
  · rw [if_pos holds] at passed
    exact ⟨holds, passed⟩
  · rw [if_neg holds] at passed
    cases passed

namespace ValueEntry

/-- The size of the value at the start of `data`, as its own header has it. -/
def sizeIn (data : Bytes) : Nat := 12 + data.number 0x08 2 + data.number 0x0A 2

/-- The value at the start of `data`. -/
def ofFields (data : Bytes) (offset : Nat) : ValueEntry where
  offset
  type := .ofNumber (data.number 0x00 4)
  name := data.field 12 (data.number 0x08 2)
  data := data.field (12 + data.number 0x08 2) (data.number 0x0A 2)

theorem size_ofFields (offset : Nat) (inside : sizeIn data ≤ data.length) :
    (ofFields data offset).size = sizeIn data := by
  simp only [sizeIn] at inside
  simp only [size, ofFields, headerSize, sizeIn]
  rw [Bytes.length_field (by omega), Bytes.length_field (by omega)]

theorem parse_eq (data : Bytes) (offset : Nat) :
    parse data offset =
      if 12 ≤ data.length then
        if sizeIn data ≤ data.length then .ok (ofFields data offset)
        else .error (.truncated offset (sizeIn data) data.length)
      else .error (.truncated offset 12 data.length) := by
  by_cases header : 12 ≤ data.length
  · unfold parse
    rw [if_pos header, Bytes.u32At_eq (by omega), Bytes.u16At_eq (by omega),
      Bytes.u16At_eq (by omega)]
    simp only [require, headerSize, Bytes.holds_iff, header, if_true, bind, Except.bind]
    by_cases inside : sizeIn data ≤ data.length
    · have enough : 12 + data.number 0x08 2 + data.number 0x0A 2 ≤ data.length := inside
      simp only [if_pos inside, enough, if_true]
      rw [Bytes.slice_eq (by omega) (by omega), Bytes.slice_eq (by omega) (by omega)]
      simp only [Nat.add_sub_cancel_left]
      rfl
    · have outside : ¬12 + data.number 0x08 2 + data.number 0x0A 2 ≤ data.length := inside
      simp only [if_neg inside, outside, if_false]
      rfl
  · unfold parse
    simp only [require, headerSize, Bytes.holds_iff, header, if_false]
    rfl

theorem size_le_of_parse {offset : Nat} {entry : ValueEntry}
    (parsed : parse data offset = .ok entry) : entry.size ≤ data.length := by
  rw [parse_eq] at parsed
  obtain ⟨_, parsed⟩ := ok_of_ite parsed
  obtain ⟨inside, parsed⟩ := ok_of_ite parsed
  cases parsed
  rw [size_ofFields offset inside]
  exact inside

end ValueEntry

namespace KeyNameEntry

/-- The bytes of the values of the entry that `data` begins with. -/
def valuesIn (data : Bytes) : Bytes :=
  data.field (20 + data.number 0x0C 2) (data.number 0x08 4 - (20 + data.number 0x0C 2))

/-- The entry that `data` begins with, once its values are known. -/
def ofFields (data : Bytes) (offset : Nat) (values : List ValueEntry) : KeyNameEntry where
  offset
  size := data.number 0x00 4
  index := data.number 0x04 2
  usedSize := data.number 0x08 4
  name := data.field 20 (data.number 0x0C 2)
  values

theorem parse_eq (data : Bytes) (offset : Nat) :
    parse data offset =
      if 20 ≤ data.length then
        if 20 ≤ data.number 0x00 4 ∧ data.number 0x00 4 ≤ data.length then
          if 20 ≤ data.number 0x08 4 ∧ data.number 0x08 4 ≤ data.number 0x00 4 then
            if 20 + data.number 0x0C 2 ≤ data.number 0x08 4 then
              (ValueEntry.parseAll (valuesIn data) (offset + (20 + data.number 0x0C 2)) []
                (data.number 0x0E 2)).map (ofFields data offset)
            else .error (.invalidFormat (.nameSize offset (data.number 0x0C 2)))
          else .error (.invalidFormat (.nameEntryUsedSize offset (data.number 0x08 4)))
        else .error (.invalidFormat (.nameEntrySize offset (data.number 0x00 4)))
      else .error (.truncated offset 20 data.length) := by
  by_cases header : 20 ≤ data.length
  · unfold parse
    rw [if_pos header, Bytes.u32At_eq (by omega), Bytes.u16At_eq (by omega),
      Bytes.u32At_eq (by omega), Bytes.u16At_eq (by omega), Bytes.u16At_eq (by omega)]
    simp only [require, headerSize, leastEntrySize, Bytes.holds_iff, header, if_true, bind,
      Except.bind]
    by_cases sized : 20 ≤ data.number 0x00 4 ∧ data.number 0x00 4 ≤ data.length
    · by_cases used : 20 ≤ data.number 0x08 4 ∧ data.number 0x08 4 ≤ data.number 0x00 4
      · by_cases named : 20 + data.number 0x0C 2 ≤ data.number 0x08 4
        · simp only [sized, used, named, and_self, if_true]
          rw [Bytes.slice_eq (by omega) (by omega), Bytes.slice_eq (by omega) (by omega)]
          simp only [Nat.add_sub_cancel_left, valuesIn]
          cases ValueEntry.parseAll _ _ _ _ <;> rfl
        · simp only [sized, used, named, and_self, if_true, if_false]
      · simp only [sized, used, and_self, if_true, if_false]
    · simp only [sized, if_false]
  · unfold parse
    simp only [require, headerSize, leastEntrySize, Bytes.holds_iff, header, if_false]
    rfl

end KeyNameEntry

/-- One step of cutting a data area: the next entry is as long as its first field says. -/
theorem DataBlock.cut_eq (header : BlockHeader) (limit position : Nat) (rest : Bytes)
    (found : List BlockEntry) :
    cut header limit position rest.length rest found =
      if position < limit ∧ 20 ≤ rest.length then
        if 20 ≤ rest.number 0 4 ∧ rest.number 0 4 ≤ rest.length then
          cut header limit (position + rest.number 0 4) (rest.drop (rest.number 0 4)).length
            (rest.drop (rest.number 0 4)) (⟨position, rest.take (rest.number 0 4)⟩ :: found)
        else .error (.invalidFormat
          (.blockEntrySize header.offset found.length position (rest.number 0 4)))
      else .ok found.reverse := by
  by_cases more : position < limit ∧ 20 ≤ rest.length
  · rw [cut, if_pos more, if_pos (by exact more), Bytes.u32At_eq (by omega)]
    by_cases fits : 20 ≤ rest.number 0 4 ∧ rest.number 0 4 ≤ rest.length
    · have least : leastEntrySize ≤ rest.number 0 4 ∧ rest.number 0 4 ≤ rest.length := fits
      rw [if_pos fits]
      simp only [bind, Except.bind, dif_pos least]
      rw [Bytes.slice_of_le (Nat.zero_le _) fits.2, Bytes.skip_of_le fits.2]
      simp only [List.drop_zero, List.length_drop]
    · have other : ¬(leastEntrySize ≤ rest.number 0 4 ∧ rest.number 0 4 ≤ rest.length) := fits
      rw [if_neg fits]
      simp only [bind, Except.bind, dif_neg other]
      rfl
  · rw [cut, if_neg more, if_neg (by exact more)]
    rfl

theorem BlockHeader.of_parse {offset : Nat} {block : BlockHeader}
    (parsed : parse data offset = .ok block) : block.offset = offset ∧ block.size < 0x100000000 := by
  unfold parse at parsed
  by_cases held : 32 ≤ data.length
  · rw [Bytes.u32At_eq (by omega), Bytes.u32At_eq (by omega), Bytes.u16At_eq (by omega),
      Bytes.u32At_eq (by omega)] at parsed
    simp only [require, byteSize, Bytes.holds_iff, held, if_true, bind, Except.bind] at parsed
    split at parsed
    · cases parsed
    · split at parsed
      · cases parsed
        exact ⟨rfl, Bytes.number_four_lt data 0x04⟩
      · cases parsed
  · simp only [require, byteSize, Bytes.holds_iff, held, if_false] at parsed
    cases parsed

theorem Navigation.size_of_parse {navigation : Navigation}
    (parsed : parse data = .ok navigation) : navigation.size < 0x100000000 := by
  unfold parse at parsed
  by_cases held : 32 ≤ data.length
  · rw [Bytes.u32At_eq (by omega), Bytes.u32At_eq (by omega)] at parsed
    simp only [require, headerSize, Bytes.holds_iff, held, if_true, bind, Except.bind] at parsed
    split at parsed
    · cases parsed
    · split at parsed
      · cases parsed
      · cases parsed
        exact Bytes.number_four_lt data 0x04
  · simp only [require, headerSize, Bytes.holds_iff, held, if_false] at parsed
    cases parsed

end RegistryHive
