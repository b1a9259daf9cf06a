import Mathlib.Algebra.GroupWithZero.Nat
import RegistryHive.Proofs.Parsing

/-! Key name entries as they are laid out: sizes that contain one another, a name, and behind it as many value
records as the header counts, which follow one another up to the used size at the most. What is read are these
records, the first one that does not fit is an error, and what stands behind the used size has no part in it. -/
namespace RegistryHive

/-- Whether the sizes in the header of a key name entry contain one another. -/
structure KeyNameEntry.Framed (data : Bytes) : Prop where
  header : 20 ≤ data.length
  size : 20 ≤ data.number 0x00 4 ∧ data.number 0x00 4 ≤ data.length
  used : 20 ≤ data.number 0x08 4 ∧ data.number 0x08 4 ≤ data.number 0x00 4
  name : 20 + data.number 0x0C 2 ≤ data.number 0x08 4

/-- The positions of value records that follow one another from the first position up to the second. Each is as
long as its own header says, within the area. -/
inductive RecordRun (area : Bytes) : Nat → List Nat → Nat → Prop where
  | nil (position : Nat) : RecordRun area position [] position
  | cons (fits : position + ValueEntry.sizeIn (area.drop position) ≤ area.length)
      (rest : RecordRun area (position + ValueEntry.sizeIn (area.drop position)) places finish) :
      RecordRun area position (position :: places) finish

namespace ValueEntry

variable {area : Bytes} {offset position finish : Nat} {places : List Nat} {found : List ValueEntry}

theorem le_sizeIn (data : Bytes) : 12 ≤ sizeIn data := by
  rw [sizeIn, Nat.add_assoc]
  exact Nat.le_add_right 12 _

/-- The values whose records stand at these positions. -/
def atPlaces (area : Bytes) (offset : Nat) (places : List Nat) : List ValueEntry :=
  places.map fun place => ofFields (area.drop place) (offset + place)

theorem parseAll_of_fits (fits : position + sizeIn (area.drop position) ≤ area.length) (count : Nat) :
    parseAll (area.drop position) (offset + position) found (count + 1) =
      parseAll (area.drop (position + sizeIn (area.drop position)))
        (offset + (position + sizeIn (area.drop position)))
        (ofFields (area.drop position) (offset + position) :: found) count := by
  have header := le_sizeIn (area.drop position)
  have inside : sizeIn (area.drop position) ≤ (area.drop position).length := by
    rw [List.length_drop]
    omega
  have size := size_ofFields (offset + position) inside
  rw [parseAll, parse_eq, if_pos (Nat.le_trans header inside), if_pos inside]
  simp only [bind, Except.bind, size]
  rw [Bytes.skip_of_le inside]
  simp only [List.drop_drop, Nat.add_assoc]

/-- Reading goes past the records that stand there. -/
theorem parseAll_of_run (run : RecordRun area position places finish) (offset : Nat) (found : List ValueEntry)
    (count : Nat) :
    parseAll (area.drop position) (offset + position) found (places.length + count) =
      parseAll (area.drop finish) (offset + finish) ((atPlaces area offset places).reverse ++ found) count := by
  induction run generalizing found with
  | nil position => simp [atPlaces]
  | @cons position places finish fits rest ih =>
    rw [List.length_cons, Nat.add_right_comm, parseAll_of_fits fits, ih]
    simp [atPlaces]

/-- Reading ends at a record that does not fit, by its header or by what that says. -/
theorem parseAll_of_misfit (inside : position ≤ area.length)
    (misfits : area.length < position + sizeIn (area.drop position)) (count : Nat) :
    parseAll (area.drop position) (offset + position) found (count + 1) =
      .error (.truncated (offset + position)
        (if position + 12 ≤ area.length then sizeIn (area.drop position) else 12)
        (area.length - position)) := by
  rw [parseAll, parse_eq, List.length_drop]
  by_cases header : position + 12 ≤ area.length
  · rw [if_pos (by omega), if_neg (by omega), if_pos header]
    rfl
  · rw [if_neg (by omega), if_neg header]
    rfl

end ValueEntry

namespace RecordRun

variable {area : Bytes} {position finish : Nat} {places : List Nat}

theorem inside (run : RecordRun area position places finish) (start : position ≤ area.length) :
    finish ≤ area.length := by
  induction run with
  | nil position => exact start
  | cons fits rest ih => exact ih fits

/-- Records either come to a count, or one before it does not fit. -/
theorem exists_upTo (area : Bytes) (position count : Nat) :
    ∃ places finish, RecordRun area position places finish ∧ (places.length = count ∨
      places.length < count ∧ area.length < finish + ValueEntry.sizeIn (area.drop finish)) := by
  induction count generalizing position with
  | zero => exact ⟨[], position, .nil position, .inl rfl⟩
  | succ count ih =>
    by_cases fits : position + ValueEntry.sizeIn (area.drop position) ≤ area.length
    · obtain ⟨places, finish, run, stops⟩ := ih (position + ValueEntry.sizeIn (area.drop position))
      refine ⟨position :: places, finish, .cons fits run, ?_⟩
      rw [List.length_cons]
      omega
    · exact ⟨[], position, .nil position, .inr ⟨Nat.succ_pos count, Nat.not_le.mp fits⟩⟩

end RecordRun

namespace KeyNameEntry

variable {data : Bytes} {offset : Nat}

/-- The bytes of the entry that `data` begins with, up to the used size. -/
def usedArea (data : Bytes) : Bytes := data.take (data.number 0x08 4)

theorem Framed.length_usedArea (framed : Framed data) : (usedArea data).length = data.number 0x08 4 :=
  List.length_take_of_le (Nat.le_trans framed.used.2 framed.size.2)

theorem parse_of_framed (framed : Framed data) :
    parse data offset =
      (ValueEntry.parseAll ((usedArea data).drop (20 + data.number 0x0C 2))
        (offset + (20 + data.number 0x0C 2)) [] (data.number 0x0E 2)).map (ofFields data offset) := by
  have values : valuesIn data = (usedArea data).drop (20 + data.number 0x0C 2) := by
    rw [valuesIn, usedArea, List.drop_take]
    rfl
  rw [parse_eq, if_pos framed.header, if_pos framed.size, if_pos framed.used, if_pos framed.name, values]

theorem framed_of_parse {entry : KeyNameEntry} (parsed : parse data offset = .ok entry) : Framed data := by
  rw [parse_eq] at parsed
  obtain ⟨header, parsed⟩ := ok_of_ite parsed
  obtain ⟨size, parsed⟩ := ok_of_ite parsed
  obtain ⟨used, parsed⟩ := ok_of_ite parsed
  obtain ⟨name, _⟩ := ok_of_ite parsed
  exact ⟨header, size, used, name⟩

/-- What is read where all records fit. -/
theorem parse_of_run (framed : Framed data) {places : List Nat} {finish : Nat}
    (count : places.length = data.number 0x0E 2)
    (run : RecordRun (usedArea data) (20 + data.number 0x0C 2) places finish) :
    parse data offset = .ok (ofFields data offset (ValueEntry.atPlaces (usedArea data) offset places)) := by
  have read := ValueEntry.parseAll_of_run run offset [] 0
  rw [Nat.add_zero, count] at read
  rw [parse_of_framed framed, read]
  simp [ValueEntry.parseAll, Except.map]

theorem parse_of_misfit (framed : Framed data) {places : List Nat} {position : Nat}
    (early : places.length < data.number 0x0E 2)
    (run : RecordRun (usedArea data) (20 + data.number 0x0C 2) places position)
    (misfits : (usedArea data).length < position + ValueEntry.sizeIn ((usedArea data).drop position)) :
    parse data offset = .error (.truncated (offset + position)
      (if position + 12 ≤ (usedArea data).length then ValueEntry.sizeIn ((usedArea data).drop position) else 12)
      ((usedArea data).length - position)) := by
  have inside := run.inside (by rw [framed.length_usedArea]; exact framed.name)
  obtain ⟨later, split⟩ := Nat.exists_eq_add_of_lt early
  have count : data.number 0x0E 2 = places.length + (later + 1) := split
  have read := ValueEntry.parseAll_of_run run offset [] (later + 1)
  rw [ValueEntry.parseAll_of_misfit inside misfits] at read
  rw [parse_of_framed framed, count, read]
  rfl

/-- What was read are the records that the header counts. -/
theorem run_of_parse {entry : KeyNameEntry} (parsed : parse data offset = .ok entry) :
    ∃ places finish, places.length = data.number 0x0E 2 ∧
      RecordRun (usedArea data) (20 + data.number 0x0C 2) places finish ∧
      entry = ofFields data offset (ValueEntry.atPlaces (usedArea data) offset places) := by
  have framed := framed_of_parse parsed
  obtain ⟨places, position, run, ended | ⟨early, misfits⟩⟩ :=
    RecordRun.exists_upTo (usedArea data) (20 + data.number 0x0C 2) (data.number 0x0E 2)
  · rw [parse_of_run framed ended run] at parsed
    cases parsed
    exact ⟨places, position, ended, run, rfl⟩
  · rw [parse_of_misfit framed early run misfits] at parsed
    cases parsed

end KeyNameEntry

end RegistryHive
