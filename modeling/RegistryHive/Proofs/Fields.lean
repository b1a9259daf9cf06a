import RegistryHive.Bytes

namespace RegistryHive

namespace Bytes

/-- The bytes of a field. -/
def field (data : Bytes) (offset width : Nat) : Bytes := (data.drop offset).take width

/-- The number in a field, least significant byte first. -/
def number (data : Bytes) (offset width : Nat) : Nat := littleEndian (data.field offset width)

variable {data : Bytes}

theorem length_field {offset width : Nat} (inside : offset + width ≤ data.length) :
    (data.field offset width).length = width := by
  simp only [field, List.length_take, List.length_drop]
  omega

theorem field_field {offset length low width : Nat} (inside : low + width ≤ length) :
    (data.field offset length).field low width = data.field (offset + low) width := by
  simp only [field, List.drop_take, List.take_take, List.drop_drop]
  rw [Nat.min_eq_left (by omega)]

theorem number_field {offset length low width : Nat} (inside : low + width ≤ length) :
    (data.field offset length).number low width = data.number (offset + low) width := by
  simp only [number, field_field inside]

theorem u16At_eq {offset : Nat} (inside : offset + 2 ≤ data.length) :
    data.u16At offset = .ok (data.number offset 2) := numberAt_of_le inside

theorem u32At_eq {offset : Nat} (inside : offset + 4 ≤ data.length) :
    data.u32At offset = .ok (data.number offset 4) := numberAt_of_le inside

private theorem littleEndian_cons_lt {byte : UInt8} {rest : Bytes} (bound : Nat)
    (small : littleEndian rest < bound) : littleEndian (byte :: rest) < 256 * bound := by
  have low := byte.toNat_lt
  simp only [littleEndian]
  omega

theorem littleEndian_lt_two {data : Bytes} (short : data.length ≤ 2) :
    littleEndian data < 0x10000 := by
  match data, short with
  | [], _ => decide
  | [byte], _ => exact Nat.lt_trans (littleEndian_cons_lt 1 (by decide)) (by decide)
  | [low, high], _ =>
    exact littleEndian_cons_lt 0x100 (littleEndian_cons_lt 1 (by decide))

theorem number_two_lt (data : Bytes) (offset : Nat) : data.number offset 2 < 0x10000 :=
  littleEndian_lt_two (List.length_take_le 2 (data.drop offset))

theorem littleEndian_lt_four {data : Bytes} (short : data.length ≤ 4) :
    littleEndian data < 0x100000000 := by
  match data, short with
  | [], _ => decide
  | [byte], _ => exact Nat.lt_trans (littleEndian_lt_two (by simp)) (by decide)
  | first :: second :: rest, short =>
    have fewer : rest.length ≤ 2 := by
      simp only [List.length_cons] at short
      omega
    have high : littleEndian rest < 0x10000 := littleEndian_lt_two fewer
    exact littleEndian_cons_lt 0x1000000 (littleEndian_cons_lt 0x10000 high)

theorem number_four_lt (data : Bytes) (offset : Nat) : data.number offset 4 < 0x100000000 :=
  littleEndian_lt_four (List.length_take_le 4 (data.drop offset))

theorem littleEndian_ofNumber_succ (width number : Nat) :
    littleEndian (ofNumber (width + 1) number) =
      number % 256 + 256 * littleEndian (ofNumber width (number / 256)) := by
  simp [ofNumber, littleEndian]

theorem littleEndian_ofNumber_zero (number : Nat) : littleEndian (ofNumber 0 number) = 0 := rfl

theorem littleEndian_ofNumber_two {number : Nat} (small : number < 0x10000) :
    littleEndian (ofNumber 2 number) = number := by
  rw [littleEndian_ofNumber_succ, littleEndian_ofNumber_succ, littleEndian_ofNumber_zero]
  omega

theorem littleEndian_ofNumber_four {number : Nat} (small : number < 0x100000000) :
    littleEndian (ofNumber 4 number) = number := by
  rw [littleEndian_ofNumber_succ, littleEndian_ofNumber_succ, littleEndian_ofNumber_succ,
    littleEndian_ofNumber_succ, littleEndian_ofNumber_zero]
  omega

/-- The bytes of a number are its bytes again. -/
theorem ofNumber_littleEndian (data : Bytes) : ofNumber data.length (littleEndian data) = data := by
  induction data with
  | nil => rfl
  | cons byte rest ih =>
    have low : UInt8.ofNat (byte.toNat + 256 * littleEndian rest) = byte := by
      apply UInt8.toNat_inj.mp
      have small := byte.toNat_lt
      simp only [UInt8.toNat_ofNat']
      omega
    have high : (byte.toNat + 256 * littleEndian rest) / 256 = littleEndian rest := by
      have small := byte.toNat_lt
      omega
    rw [List.length_cons, ofNumber, littleEndian, low, high, ih]

theorem ofNumber_number {offset width : Nat} (inside : offset + width ≤ data.length) :
    ofNumber width (data.number offset width) = data.field offset width := by
  have whole := ofNumber_littleEndian (data.field offset width)
  rwa [length_field inside] at whole

theorem field_append (data : Bytes) (offset first second : Nat) :
    data.field offset first ++ data.field (offset + first) second =
      data.field offset (first + second) := by
  simp only [field, List.take_add, List.drop_drop]

theorem slice_eq {low high : Nat} (ordered : low ≤ high) (inside : high ≤ data.length) :
    data.slice low high = .ok (data.field low (high - low)) := by
  rw [slice_of_le ordered inside, List.drop_take]
  rfl

end Bytes

/-- Whether `part` stands at `offset` in `whole`. -/
def PartAt {α : Type} (whole : List α) (offset : Nat) (part : List α) : Prop :=
  ∃ before after, whole = before ++ part ++ after ∧ before.length = offset

namespace PartAt

variable {α : Type} {whole part first second : List α} {offset : Nat}

theorem refl (whole : List α) : PartAt whole 0 whole := ⟨[], [], by simp, rfl⟩

theorem left (stands : PartAt whole offset (first ++ second)) : PartAt whole offset first := by
  obtain ⟨before, after, same, length⟩ := stands
  exact ⟨before, second ++ after, by simp [same, List.append_assoc], length⟩

theorem right (stands : PartAt whole offset (first ++ second)) :
    PartAt whole (offset + first.length) second := by
  obtain ⟨before, after, same, length⟩ := stands
  refine ⟨before ++ first, after, by simp [same, List.append_assoc], ?_⟩
  rw [List.length_append, length]

theorem take (stands : PartAt whole offset part) (count : Nat) :
    PartAt whole offset (part.take count) := by
  rw [← List.take_append_drop count part] at stands
  exact stands.left

theorem drop (stands : PartAt whole offset part) {count : Nat} (inside : count ≤ part.length) :
    PartAt whole (offset + count) (part.drop count) := by
  rw [← List.take_append_drop count part] at stands
  have after := stands.right
  rwa [List.length_take_of_le inside] at after

theorem trans (stands : PartAt whole offset part) {low : Nat} (inner : PartAt part low first) :
    PartAt whole (offset + low) first := by
  obtain ⟨before, after, same, length⟩ := stands
  obtain ⟨near, far, split, distance⟩ := inner
  refine ⟨before ++ near, far ++ after, ?_, ?_⟩
  · simp only [same, split, List.append_assoc]
  · rw [List.length_append, length, distance]

theorem inside (stands : PartAt whole offset part) : offset + part.length ≤ whole.length := by
  obtain ⟨before, after, same, length⟩ := stands
  simp only [same, List.length_append]
  omega

theorem getElem? (stands : PartAt whole offset part) (index : Nat) (within : index < part.length) :
    whole[offset + index]? = part[index]? := by
  obtain ⟨before, after, same, length⟩ := stands
  rw [same, List.append_assoc, List.getElem?_append_right (by omega),
    List.getElem?_append_left (by omega)]
  congr 1
  omega

/-- A field of a part is a field of the whole. -/
theorem field {data part : Bytes} (stands : PartAt data offset part) (low width : Nat)
    (within : low + width ≤ part.length) : data.field (offset + low) width = part.field low width := by
  obtain ⟨before, after, same, length⟩ := stands
  simp only [Bytes.field, same, List.append_assoc]
  rw [← length, List.drop_length_add_append, List.drop_append_of_le_length (by omega),
    List.take_append_of_le_length (by simp only [List.length_drop]; omega)]

theorem number {data part : Bytes} (stands : PartAt data offset part) (low width : Nat)
    (within : low + width ≤ part.length) :
    data.number (offset + low) width = part.number low width :=
  congrArg Bytes.littleEndian (stands.field low width within)

/-- A field stands where it was read. -/
theorem of_field {data : Bytes} {offset width : Nat} (inside : offset + width ≤ data.length) :
    PartAt data offset (data.field offset width) := by
  refine ⟨data.take offset, data.drop (offset + width), ?_, ?_⟩
  · rw [Bytes.field, ← List.take_add, List.take_append_drop]
  · rw [List.length_take]
    omega

theorem field_eq {data part : Bytes} (stands : PartAt data offset part) :
    data.field offset part.length = part := by
  have whole := stands.field 0 part.length (by omega)
  simpa [Bytes.field] using whole

end PartAt

end RegistryHive
