import RegistryHive.Hive.Value

namespace RegistryHive

variable {α : Type}

section

variable {bits : Nat} {data : Bytes} (offset : Nat)

theorem integerBytes_of_lt (short : data.length < bits / 8) :
    integerBytes bits data offset = .error (.truncated offset (bits / 8) data.length) :=
  if_pos short

theorem integerBytes_of_gt (long : bits / 8 < data.length) :
    integerBytes bits data offset = .error (.invalidFormat (.integerSize bits offset data.length)) := by
  simp only [integerBytes]
  rw [if_neg (by omega), if_pos long]

theorem integerBytes_of_eq (whole : data.length = bits / 8) : integerBytes bits data offset = .ok data := by
  simp only [integerBytes]
  rw [if_neg (by omega), if_neg (by omega)]

end

/-- The accessors that take values of some types only. -/
inductive Accessor : Type → Type where
  | number32 : Accessor Nat
  | number64 : Accessor Nat
  | text : Accessor String
  | binary : Accessor Bytes

namespace Accessor

def types : Accessor α → List ValueType
  | number32 => [.dword, .dwordBigEndian]
  | number64 => [.qword]
  | text => [.string, .expandString, .link]
  | binary => [.binary]

/-- What an error says was requested. -/
def requested : Accessor α → String
  | number32 => "value_32bit"
  | number64 => "value_64bit"
  | text => "value_string"
  | binary => "binary_data"

def read : Accessor α → ValueEntry → Codepage → Except Error α
  | number32, value, _ => value.number32
  | number64, value, _ => value.number64
  | text, value, codepage => value.text codepage
  | binary, value, _ => value.binary

end Accessor

/-- The types whose data is one integer. -/
inductive IntegerType where
  | dword
  | dwordBigEndian
  | qword

namespace IntegerType

def type : IntegerType → ValueType
  | dword => .dword
  | dwordBigEndian => .dwordBigEndian
  | qword => .qword

def bits : IntegerType → Nat
  | dword | dwordBigEndian => 32
  | qword => 64

def number : IntegerType → Bytes → Nat
  | dword | qword => Bytes.littleEndian
  | dwordBigEndian => Bytes.bigEndian

/-- The parsed data that holds a number. -/
def parsed : IntegerType → Nat → ValueData
  | dword => .dword
  | dwordBigEndian => .dwordBigEndian
  | qword => .qword

def accessor : IntegerType → Accessor Nat
  | dword | dwordBigEndian => .number32
  | qword => .number64

variable {integer : IntegerType} {value : ValueEntry} (same : value.type = integer.type) (codepage : Codepage)

include same

theorem accessor_read : integer.accessor.read value codepage =
    (integerBytes integer.bits value.data value.offset).map integer.number := by
  cases integer with
  | dword | dwordBigEndian =>
    simp only [accessor, Accessor.read, ValueEntry.number32, same, type]
    rfl
  | qword =>
    simp only [accessor, Accessor.read, ValueEntry.number64, same, type]
    rfl

theorem value_parsed : value.parsed codepage =
    if value.data = [] then .ok .none else (integer.accessor.read value codepage).map integer.parsed := by
  rw [accessor_read same codepage, ValueEntry.parsed, same]
  simp only [ValueData.parse, List.isEmpty_iff]
  split
  · rfl
  · cases integer <;> rfl

end IntegerType

namespace ValueEntry

variable (value : ValueEntry) (codepage : Codepage)

/-- An empty value is parsed without a look at its type. -/
theorem parsed_of_empty (empty : value.data = []) : value.parsed codepage = .ok .none := by
  simp only [parsed, ValueData.parse, empty, List.isEmpty_nil, if_true]

theorem read_of_not_mem {accessor : Accessor α} (other : value.type ∉ accessor.types) :
    accessor.read value codepage = .error (.valueTypeMismatch accessor.requested value.type.identifier) := by
  obtain ⟨_, type, _, _⟩ := value
  -- Every type is either one of the accessor or in its last branch.
  cases accessor <;> cases type <;> first
    | rfl
    | simp [Accessor.types] at other

private theorem map_ne_ok {β : Type} {result : Except Error α} {hold : α → β} {other : β}
    (apart : ∀ found, hold found ≠ other) : result.map hold ≠ .ok other := by
  cases result with
  | error _ => nofun
  | ok found => exact fun same => apart found (Except.ok.inj same)

variable {value}

theorem text_eq_ok_iff (nonempty : value.data ≠ []) (text : String) :
    value.text codepage = .ok text ↔ value.parsed codepage = .ok (.string text) ∨
      value.parsed codepage = .ok (.expandString text) ∨ value.parsed codepage = .ok (.link text) := by
  have some : value.data.isEmpty = false := by simpa using nonempty
  simp only [ValueEntry.text, parsed, ValueData.parse, some]
  cases value.type with
  | string | expandString | link => simp [ValueType.isString]
  | dword | dwordBigEndian | qword => simp [ValueType.isString, mismatch, map_ne_ok]
  | _ => simp [ValueType.isString, mismatch]

theorem binary_eq_ok_iff (nonempty : value.data ≠ []) (bytes : Bytes) :
    value.binary = .ok bytes ↔ value.parsed codepage = .ok (.binary bytes) := by
  have some : value.data.isEmpty = false := by simpa using nonempty
  simp only [ValueEntry.binary, parsed, ValueData.parse, some]
  cases value.type with
  | binary => simp
  | dword | dwordBigEndian | qword => simp [mismatch, map_ne_ok]
  | _ => simp [mismatch]

end ValueEntry

/-- An accessor of integers and the parsed data give the same number, if the data has exactly the bytes of one,
and otherwise the same error. The parsed data of an empty value of any type is none. A string or bytes are given
exactly if the data is parsed as such, unless it is empty. Values of other types are refused, with what was
requested and their type. -/
theorem typed_accessors (value : ValueEntry) (codepage : Codepage) :
    (∀ integer : IntegerType, value.type = integer.type →
      (value.data.length < integer.bits / 8 → integer.accessor.read value codepage =
        .error (.truncated value.offset (integer.bits / 8) value.data.length)) ∧
      (integer.bits / 8 < value.data.length → integer.accessor.read value codepage =
        .error (.invalidFormat (.integerSize integer.bits value.offset value.data.length))) ∧
      (value.data.length = integer.bits / 8 →
        integer.accessor.read value codepage = .ok (integer.number value.data)) ∧
      (value.data ≠ [] → value.parsed codepage = (integer.accessor.read value codepage).map integer.parsed)) ∧
    (value.data = [] → value.parsed codepage = .ok .none) ∧
    (value.data ≠ [] → ∀ text, value.text codepage = .ok text ↔ value.parsed codepage = .ok (.string text) ∨
      value.parsed codepage = .ok (.expandString text) ∨ value.parsed codepage = .ok (.link text)) ∧
    (value.data ≠ [] → ∀ bytes, value.binary = .ok bytes ↔ value.parsed codepage = .ok (.binary bytes)) ∧
    ∀ {α : Type} (accessor : Accessor α), value.type ∉ accessor.types → accessor.read value codepage =
      .error (.valueTypeMismatch accessor.requested value.type.identifier) := by
  refine ⟨fun integer same => ?_, value.parsed_of_empty codepage, ValueEntry.text_eq_ok_iff codepage,
    ValueEntry.binary_eq_ok_iff codepage, fun _ => value.read_of_not_mem codepage⟩
  rw [IntegerType.value_parsed same, IntegerType.accessor_read same]
  refine ⟨fun short => ?_, fun long => ?_, fun whole => ?_, fun nonempty => if_neg nonempty⟩
  · rw [integerBytes_of_lt value.offset short]
    rfl
  · rw [integerBytes_of_gt value.offset long]
    rfl
  · rw [integerBytes_of_eq value.offset whole]
    rfl

theorem typed_accessors_three_bytes :
    let value : ValueEntry := ⟨0x80, .dwordBigEndian, [], [1, 2, 3]⟩
    value.parsed .standard = .error (.truncated 0x80 4 3) ∧ value.number32 = .error (.truncated 0x80 4 3) ∧
      value.number64 = .error (.valueTypeMismatch "value_64bit" "REG_DWORD_BIG_ENDIAN") := by
  obtain ⟨integers, _, _, _, others⟩ := typed_accessors ⟨0x80, .dwordBigEndian, [], [1, 2, 3]⟩ .standard
  obtain ⟨short, _, _, parsed⟩ := integers .dwordBigEndian rfl
  have failed := short (by decide)
  refine ⟨?_, failed, others .number64 (by decide)⟩
  rw [parsed (List.cons_ne_nil _ _), failed]
  rfl

/-- Without data, an accessor of integers fails, and the parsed data does not. -/
theorem not_same_error_of_empty : ¬∀ (value : ValueEntry) (codepage : Codepage) (integer : IntegerType),
    value.type = integer.type → value.data.length ≠ integer.bits / 8 →
      ∃ error, value.parsed codepage = .error error ∧ integer.accessor.read value codepage = .error error := by
  intro agree
  obtain ⟨_, parsed, _⟩ := agree ⟨0x80, .dword, [], []⟩ .standard .dword rfl (by decide)
  cases parsed

end RegistryHive
