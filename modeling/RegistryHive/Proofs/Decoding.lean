import RegistryHive.Codepage

/-! Decoding across NUL bytes. No codepage reads a NUL byte as part of a sequence, and no NUL character comes from
anything else, so behind each NUL byte decoding starts anew. Only a sequence of four bytes that a NUL byte breaks
off leaves more than one U+FFFD. -/
namespace RegistryHive.Charset

theorem ofNat_ne_nul {number : Nat} (positive : number ≠ 0) (valid : number.isValidChar) :
    Char.ofNat number ≠ '\x00' := by
  intro same
  have code : (Char.ofNat number).toNat = number := by
    rw [Char.ofNat, dif_pos valid]
    rfl
  rw [same] at code
  exact positive code.symm

theorem asciiChar_ne_nul {byte : UInt8} (other : byte ≠ 0) (ascii : byte < 0x80) : asciiChar byte ≠ '\x00' := by
  refine ofNat_ne_nul (mt (fun zero => UInt8.toNat_inj.mp zero) other) (.inl ?_)
  have small : byte.toNat < 0x80 := UInt8.lt_iff_toNat_lt.mp ascii
  omega

theorem Grid.cell?_ne_nul {grid : Grid} {row column : Nat} {c : Char} (found : grid.cell? row column = some c) :
    c ≠ '\x00' := by
  intro same
  have code := Grid.cell?_not_ascii found
  rw [same] at code
  exact absurd code (by decide)

theorem single_text {c : Char} (other : c ≠ '\x00') : [c] ≠ [] ∧ '\x00' ∉ [c] :=
  ⟨List.cons_ne_nil _ _, mt List.mem_singleton.mp other.symm⟩

/-- Whether two or three bytes of a sequence of four have come. -/
def Pending.Half : Pending → Prop
  | .pair .. | .triple .. => True
  | _ => False

/-- The bytes that are pending. -/
def Pending.bytes : Pending → List UInt8
  | .nothing => []
  | .lead first => [first]
  | .pair first second => [first, second]
  | .triple first second third => [first, second, third]

namespace Decoder

variable {decoder : Decoder}

/-- The characters of bytes behind a sequence that is not finished. -/
def decodeFrom (decoder : Decoder) (pending : Pending) (bytes : List UInt8) : List Char :=
  (decoder.run [] pending bytes).reverse

/-- What waits at the end of bytes. -/
def pendingAfter (decoder : Decoder) (pending : Pending) (bytes : List UInt8) : Pending :=
  bytes.foldl (fun pending byte => (decoder.feed pending byte).pending) pending

theorem pendingAfter_append (decoder : Decoder) (pending : Pending) (first second : List UInt8) :
    decoder.pendingAfter pending (first ++ second) =
      decoder.pendingAfter (decoder.pendingAfter pending first) second := List.foldl_append

theorem decodeFrom_nil (decoder : Decoder) (pending : Pending) :
    decoder.decodeFrom pending [] = pending.finish := by
  simp [decodeFrom, run]

theorem decodeFrom_cons (decoder : Decoder) (pending : Pending) (byte : UInt8) (rest : List UInt8) :
    decoder.decodeFrom pending (byte :: rest) =
      (decoder.feed pending byte).settled ++ decoder.decodeFrom (decoder.feed pending byte).pending rest := by
  simp only [decodeFrom, run]
  rw [run_eq]
  simp

/-- Whether a decoder keeps NUL bytes apart from all else, where only sound sequences are pending. -/
structure Separates (decoder : Decoder) (sound : Pending → Prop) : Prop where
  start : sound .nothing
  keeps : ∀ {pending}, sound pending → ∀ byte, sound (decoder.feed pending byte).pending
  /-- Every byte shows, at once or later. -/
  shows : ∀ {pending}, sound pending → ∀ byte,
    (decoder.feed pending byte).settled ≠ [] ∨ (decoder.feed pending byte).pending ≠ .nothing
  plain : ∀ {pending}, sound pending → ∀ byte, byte ≠ 0 → '\x00' ∉ (decoder.feed pending byte).settled
  /-- A NUL byte ends what is pending. Of a half sequence it leaves more than the end of a text does. -/
  breaks : ∀ {pending}, sound pending → ∃ more,
    decoder.feed pending 0 = ⟨pending.finish ++ more ++ ['\x00'], .nothing⟩ ∧ '\x00' ∉ more ∧
      (more = [] ↔ ¬pending.Half)

namespace Separates

variable {sound : Pending → Prop} (separates : decoder.Separates sound) {pending : Pending}

include separates

theorem sound_pendingAfter (held : sound pending) (bytes : List UInt8) :
    sound (decoder.pendingAfter pending bytes) := by
  induction bytes generalizing pending with
  | nil => exact held
  | cons byte rest ih => exact ih (separates.keeps held byte)

theorem decodeFrom_ne_nil (held : sound pending) {bytes : List UInt8}
    (more : pending ≠ .nothing ∨ bytes ≠ []) : decoder.decodeFrom pending bytes ≠ [] := by
  induction bytes generalizing pending with
  | nil =>
    rw [decodeFrom_nil]
    cases pending <;> simp_all [Pending.finish]
  | cons byte rest ih =>
    rw [decodeFrom_cons]
    rcases separates.shows held byte with settled | waits
    · exact List.append_ne_nil_of_left_ne_nil settled _
    · exact List.append_ne_nil_of_right_ne_nil _ (ih (separates.keeps held byte) (.inl waits))

theorem nul_not_mem_decodeFrom (held : sound pending) {bytes : List UInt8} (without : 0 ∉ bytes) :
    '\x00' ∉ decoder.decodeFrom pending bytes := by
  induction bytes generalizing pending with
  | nil =>
    rw [decodeFrom_nil]
    cases pending <;> simp [Pending.finish, replacement]
  | cons byte rest ih =>
    obtain ⟨other, later⟩ := List.ne_and_not_mem_of_not_mem_cons without
    rw [decodeFrom_cons, List.mem_append, not_or]
    exact ⟨separates.plain held byte other.symm, ih (separates.keeps held byte) later⟩

/-- Behind a NUL byte decoding starts anew. -/
theorem decodeFrom_append_nul (held : sound pending) (run rest : List UInt8) : ∃ more,
    decoder.decodeFrom pending (run ++ 0 :: rest) =
      decoder.decodeFrom pending run ++ more ++ '\x00' :: decoder.decode rest ∧
    '\x00' ∉ more ∧ (more = [] ↔ ¬(decoder.pendingAfter pending run).Half) := by
  induction run generalizing pending with
  | nil =>
    obtain ⟨more, fed, without, empty⟩ := separates.breaks held
    refine ⟨more, ?_, without, empty⟩
    rw [List.nil_append, decodeFrom_cons, fed, decodeFrom_nil, List.append_assoc _ ['\x00']]
    rfl
  | cons byte run ih =>
    obtain ⟨more, same, without, empty⟩ := ih (separates.keeps held byte)
    refine ⟨more, ?_, without, empty⟩
    rw [List.cons_append, decodeFrom_cons, same, decodeFrom_cons]
    simp only [List.append_assoc]

end Separates

end Decoder

theorem SingleByte.separates (grid : Grid) : (SingleByte.decoder grid).Separates (· = .nothing) where
  start := rfl
  keeps _ _ := rfl
  shows _ _ := .inl (List.cons_ne_nil _ _)
  plain := by
    intro pending _ byte other
    apply mt List.mem_singleton.mp
    apply Ne.symm
    unfold SingleByte.character
    split
    · exact asciiChar_ne_nul other ‹_›
    · cases found : grid.cell? (byte.toNat / 16 - 8) (byte.toNat % 16) with
      | none => decide
      | some c => exact Grid.cell?_ne_nul found
  breaks := by
    intro pending nothing
    refine ⟨[], ?_, List.not_mem_nil, ?_⟩
    · rw [nothing]
      rfl
    · simp [nothing, Pending.Half]

theorem Role.shows_step (role : Role) (byte : UInt8) :
    (role.step byte).settled ≠ [] ∨ (role.step byte).pending ≠ .nothing := by
  cases role <;> simp [Role.step]

theorem Role.not_half_step (role : Role) (byte : UInt8) : ¬(role.step byte).pending.Half := by
  cases role <;> simp [Role.step, Pending.Half]

theorem DoubleByte.pending_close (set : DoubleByte) (lead trail : UInt8) : (set.close lead trail).pending = .nothing := by
  unfold close
  cases set.pair lead trail with
  | some characters => rfl
  | none =>
    dsimp only
    split <;> rfl

/-- Whether NUL is a character of its own in a set of single bytes and pairs, and only there. -/
structure DoubleByte.Separates (set : DoubleByte) : Prop where
  nul : set.role 0 = .character '\x00'
  unpaired : ∀ lead, set.pair lead 0 = none
  role : ∀ {byte c}, byte ≠ 0 → set.role byte = .character c → c ≠ '\x00'
  pair : ∀ {lead trail characters}, set.pair lead trail = some characters →
    characters ≠ [] ∧ '\x00' ∉ characters

namespace DoubleByte.Separates

variable {set : DoubleByte} (separates : set.Separates) {byte : UInt8}

theorem shows_close (separates : set.Separates) (lead trail : UInt8) :
    (set.close lead trail).settled ≠ [] := by
  unfold close
  cases paired : set.pair lead trail with
  | some characters => exact (separates.pair paired).1
  | none =>
    dsimp only
    split <;> exact List.cons_ne_nil _ _

include separates

theorem plain_step (other : byte ≠ 0) : '\x00' ∉ ((set.role byte).step byte).settled := by
  cases found : set.role byte with
  | character c => simpa [Role.step] using (separates.role other found).symm
  | lead => simp [Role.step]
  | malformed => simp [Role.step, replacement]

theorem plain_close (lead : UInt8) (other : byte ≠ 0) : '\x00' ∉ (set.close lead byte).settled := by
  unfold close
  cases paired : set.pair lead byte with
  | some characters => exact (separates.pair paired).2
  | none =>
    dsimp only
    split
    · have ascii := asciiChar_ne_nul other ‹_›
      simpa [replacement] using ascii.symm
    · simp [replacement]

theorem close_nul (lead : UInt8) : set.close lead 0 = ⟨[replacement, '\x00'], .nothing⟩ := by
  simp only [close, separates.unpaired]
  rfl

theorem step_nul : (set.role 0).step 0 = ⟨['\x00'], .nothing⟩ := by
  rw [separates.nul]
  rfl

theorem decoder : set.decoder.Separates (¬·.Half) where
  start := by simp [Pending.Half]
  keeps := by
    intro pending short byte
    cases pending with
    | nothing => exact Role.not_half_step _ byte
    | lead first =>
      change ¬(set.close first byte).pending.Half
      rw [pending_close]
      simp [Pending.Half]
    | pair | triple => exact absurd trivial short
  shows := by
    intro pending short byte
    cases pending with
    | nothing => exact Role.shows_step _ byte
    | lead first => exact .inl (separates.shows_close first byte)
    | pair | triple => exact absurd trivial short
  plain := by
    intro pending short byte other
    cases pending with
    | nothing => exact separates.plain_step other
    | lead first => exact separates.plain_close first other
    | pair | triple => exact absurd trivial short
  breaks := by
    intro pending short
    refine ⟨[], ?_, List.not_mem_nil, by simpa using short⟩
    cases pending with
    | nothing => exact separates.step_nul
    | lead first => exact separates.close_nul first
    | pair | triple => exact absurd trivial short

end DoubleByte.Separates

theorem ShiftJis.separates : ShiftJis.set.Separates where
  nul := rfl
  unpaired lead := rfl
  role := by
    intro byte c other found
    simp only [ShiftJis.set, ShiftJis.role] at found
    have positive : byte.toNat ≠ 0 := mt (fun zero => UInt8.toNat_inj.mp zero) other
    have small := byte.toNat_lt
    split at found
    · rw [← Role.character.inj found]
      exact ofNat_ne_nul positive (.inl (by omega))
    · split at found
      · rw [← Role.character.inj found]
        exact ofNat_ne_nul (by omega) (.inr (by omega))
      · split at found <;> cases found
  pair := by
    intro lead trail characters found
    simp only [ShiftJis.set, ShiftJis.pair] at found
    split at found
    · cases found
    · split at found
      · have row : lead.toNat - (if lead < 0xA0 then 0x81 else 0xC1) ≤ lead.toNat := Nat.sub_le _ _
        have column : trail.toNat - (if trail < 0x7F then 0x40 else 0x41) ≤ trail.toNat := Nat.sub_le _ _
        have leadSmall := lead.toNat_lt
        have trailSmall := trail.toNat_lt
        rw [← Option.some.inj found]
        exact single_text (ofNat_ne_nul (by omega) (.inr (by omega)))
      · obtain ⟨c, cell, rfl⟩ := Option.map_eq_some_iff.mp found
        exact single_text (Grid.cell?_ne_nul cell)

theorem Hangul.separates : Hangul.set.Separates where
  nul := rfl
  unpaired lead := rfl
  role := by
    intro byte c other found
    simp only [Hangul.set, Hangul.role] at found
    split at found
    · cases found
      exact asciiChar_ne_nul other ‹_›
    · split at found <;> cases found
  pair := by
    intro lead trail characters found
    simp only [Hangul.set, Hangul.pair] at found
    split at found
    · cases found
    · obtain ⟨c, cell, rfl⟩ := Option.map_eq_some_iff.mp found
      exact single_text (Grid.cell?_ne_nul cell)

theorem Big5.separates : Big5.set.Separates where
  nul := rfl
  unpaired lead := rfl
  role := by
    intro byte c other found
    simp only [Big5.set, Big5.role] at found
    split at found
    · rw [← Role.character.inj found]
      exact asciiChar_ne_nul other ‹_›
    · split at found <;> cases found
  pair := by
    intro lead trail characters found
    simp only [Big5.set, Big5.pair] at found
    split at found
    · cases found
    · split at found
      · rename_i accents accented
        unfold Big5.accented at accented
        repeat' split at accented
        all_goals cases accented
        all_goals cases found
        all_goals decide
      · obtain ⟨c, cell, rfl⟩ := Option.map_eq_some_iff.mp found
        exact single_text (Grid.cell?_ne_nul cell)

end RegistryHive.Charset
