import RegistryHive.Hive.Value
import RegistryHive.Proofs.FourByteSequences

namespace RegistryHive

open Charset Text

theorem Text.IsRun.nul_not_mem {run : Bytes} (isRun : IsRun (· == 0) run) : 0 ∉ run := by
  intro member
  have other := isRun.2 0 member
  simp at other

namespace Charset.Decoder.Separates

variable {decoder : Decoder} {sound : Pending → Prop} (separates : decoder.Separates sound)

include separates

/-- The runs of a text are the runs of its bytes, each decoded by itself, exactly if no NUL byte breaks off a
sequence of four bytes. -/
theorem runs_decode_iff (data : Bytes) :
    runs (· == '\x00') (decoder.decode data) = (runs (· == 0) data).map decoder.decode ↔
      ∀ run ∈ (data.splitOnP (· == 0)).dropLast, ¬(decoder.pendingAfter .nothing run).Half := by
  by_cases parted : 0 ∈ data
  · -- The first NUL byte ends a run, and what comes after it is decoded as if it stood alone.
    obtain ⟨run, rest, same, free⟩ := List.eq_append_cons_of_mem parted
    have shorter : rest.length < data.length := by
      rw [same, List.length_append, List.length_cons]
      omega
    have later := runs_decode_iff rest
    obtain ⟨more, decoded, freeMore, kept⟩ := separates.decodeFrom_append_nul separates.start run rest
    have whole : decoder.decode data = decoder.decode run ++ more ++ '\x00' :: decoder.decode rest := by
      rw [same]
      exact decoded
    have freeText : '\x00' ∉ decoder.decode run ++ more := by
      rw [List.mem_append, not_or]
      exact ⟨separates.nul_not_mem_decodeFrom separates.start free, freeMore⟩
    rw [whole, same, runs_append_of_free freeText, runs_append_of_free free, splitOnP_append_of_free free,
      List.dropLast_cons_of_ne_nil (List.splitOnP_ne_nil _ rest), List.forall_mem_cons, ← kept, ← later]
    cases run with
    | nil =>
      -- Between two NUL bytes nothing can have been broken off, so both sides leave the empty piece out.
      have nothing : more = [] := kept.mpr (by simp [Decoder.pendingAfter, Pending.Half])
      simp [nothing, keepRun, Decoder.decode, Decoder.run, Pending.finish]
    | cons byte run =>
      have shown : decoder.decode (byte :: run) ≠ [] :=
        separates.decodeFrom_ne_nil separates.start (.inr (List.cons_ne_nil _ _))
      simp [keepRun, shown]
  · have freeText : '\x00' ∉ decoder.decode data := separates.nul_not_mem_decodeFrom separates.start parted
    rw [runs_of_free freeText, runs_of_free parted, splitOnP_of_free parted]
    cases data with
    | nil => simp [keepRun, Decoder.decode, Decoder.run, Pending.finish]
    | cons byte rest =>
      have shown : decoder.decode (byte :: rest) ≠ [] :=
        separates.decodeFrom_ne_nil separates.start (.inr (List.cons_ne_nil _ _))
      simp [keepRun, shown]
termination_by data.length

end Charset.Decoder.Separates

namespace Codepage

/-- Every codepage keeps NUL bytes apart, and all but one leave no half sequence. -/
theorem exists_separates (codepage : Codepage) : ∃ sound, codepage.decoder.Separates sound ∧
    (codepage ≠ .windows936 → ∀ pending, sound pending → ¬pending.Half) := by
  have single (grid : Grid) : ∃ sound, (SingleByte.decoder grid).Separates sound ∧
      (codepage ≠ .windows936 → ∀ pending, sound pending → ¬pending.Half) := by
    refine ⟨_, SingleByte.separates grid, ?_⟩
    intro _ pending nothing
    simp [nothing, Pending.Half]
  cases codepage with
  | windows932 => exact ⟨_, ShiftJis.separates.decoder, fun _ _ => id⟩
  | windows936 => exact ⟨_, Gb18030.decoder_separates, fun other => absurd rfl other⟩
  | windows949 => exact ⟨_, Hangul.separates.decoder, fun _ _ => id⟩
  | windows950 => exact ⟨_, Big5.separates.decoder, fun _ _ => id⟩
  | _ => exact single _

theorem characters_ne_nil (codepage : Codepage) {run : Bytes} (nonempty : run ≠ []) :
    codepage.characters run ≠ [] := by
  obtain ⟨_, separates, _⟩ := codepage.exists_separates
  exact separates.decodeFrom_ne_nil separates.start (.inr nonempty)

variable (codepage : Codepage) {run : Bytes} (free : 0 ∉ run)

include free

theorem nul_not_mem_characters : '\x00' ∉ codepage.characters run := by
  obtain ⟨_, separates, _⟩ := codepage.exists_separates
  exact separates.nul_not_mem_decodeFrom separates.start free

/-- Nothing is trimmed from bytes without NUL. -/
theorem toList_decode : (codepage.decode run).toList = codepage.characters run := by
  have plain := codepage.nul_not_mem_characters free
  have kept : (codepage.characters run).reverse.dropWhile (· == '\x00') = (codepage.characters run).reverse := by
    rw [← List.mem_reverse] at plain
    cases backward : (codepage.characters run).reverse with
    | nil => rfl
    | cons last before =>
      have other : last ≠ '\x00' := fun nul => plain (by rw [backward, nul]; exact List.mem_cons_self)
      exact List.dropWhile_cons_of_neg (by simp [other])
  rw [decode, kept, List.reverse_reverse, String.toList_ofList]

end Codepage

/-- The strings of a list are its runs, each decoded by itself. -/
theorem ValueData.toList_stringsIn (codepage : Codepage) (data : Bytes) :
    (stringsIn codepage data).map String.toList = (runs (· == 0) data).map codepage.characters := by
  rw [stringsIn, List.map_map]
  refine List.map_congr_left fun run member => ?_
  exact codepage.toList_decode ((isRun_of_mem_runs member).nul_not_mem)

/-- The strings of a list are the nonempty pieces between the NUL characters of the whole data, decoded at once,
exactly if it is not in the codepage that has sequences of four bytes, or no piece of the data that a NUL byte ends
has two or three bytes of one at its end. None of the strings is empty or has a NUL character. -/
theorem multiStrings_of_whole {data : Bytes} (nonempty : data ≠ []) (codepage : Codepage) (offset : Nat) :
    ∃ texts, ValueData.parse data .multiString codepage offset = .ok (.multiString texts) ∧
      (∀ text ∈ texts, text ≠ "" ∧ '\x00' ∉ text.toList) ∧
      (texts.map String.toList =
          ((codepage.characters data).splitOnP (· == '\x00')).filter (fun piece => !piece.isEmpty) ↔
        (codepage = .windows936 → ∀ run ∈ (data.splitOnP (· == 0)).dropLast, ¬Gb18030.EndsHalf run)) := by
  have some : data.isEmpty = false := by simpa using nonempty
  refine ⟨ValueData.stringsIn codepage data, ?_, ?_, ?_⟩
  · simp only [ValueData.parse, some]
    rfl
  · intro text member
    obtain ⟨run, listed, same⟩ := List.mem_map.mp member
    have isRun := isRun_of_mem_runs listed
    have characters := codepage.toList_decode isRun.nul_not_mem
    rw [← same, characters]
    refine ⟨fun empty => ?_, codepage.nul_not_mem_characters isRun.nul_not_mem⟩
    rw [empty] at characters
    exact codepage.characters_ne_nil isRun.1 characters.symm
  · obtain ⟨sound, separates, whole⟩ := codepage.exists_separates
    have split := separates.runs_decode_iff data
    rw [ValueData.toList_stringsIn, ← runs_eq_splitOnP, eq_comm]
    refine split.trans ?_
    by_cases fourBytes : codepage = .windows936
    · subst fourBytes
      have ends (run : Bytes) := Gb18030.half_iff_endsHalf run
      simp only [forall_const, ← ends]
      rfl
    · refine iff_of_true ?_ fun same => absurd same fourBytes
      intro run _
      exact whole fourBytes _ (separates.sound_pendingAfter separates.start run)

/-- A lead byte before a NUL byte is malformed, and the NUL byte still ends its piece. Two bytes of a sequence of four
are one malformed sequence when they end a piece, but the second is a digit when the data goes on. -/
theorem multiStrings_of_whole_broken_sequence :
    (∃ texts, ValueData.parse [0x81, 0, 0x41] .multiString .windows932 0 = .ok (.multiString texts) ∧
      texts.map String.toList = [['\uFFFD'], ['A']]) ∧
    ∃ texts, ValueData.parse [0x81, 0x30, 0, 0x41] .multiString .windows936 0 = .ok (.multiString texts) ∧
      texts.map String.toList ≠ [['\uFFFD', '0'], ['A']] := by
  constructor
  · have nonempty : ([0x81, 0, 0x41] : Bytes) ≠ [] := List.cons_ne_nil _ _
    obtain ⟨texts, parsed, _, split⟩ := multiStrings_of_whole nonempty .windows932 0
    have pieces : ((Codepage.windows932.characters [0x81, 0, 0x41]).splitOnP (· == '\x00')).filter
        (fun piece => !piece.isEmpty) = [['\uFFFD'], ['A']] := by
      decide +kernel
    exact ⟨texts, parsed, (split.mpr nofun).trans pieces⟩
  · have nonempty : ([0x81, 0x30, 0, 0x41] : Bytes) ≠ [] := List.cons_ne_nil _ _
    obtain ⟨texts, parsed, _, split⟩ := multiStrings_of_whole nonempty .windows936 0
    have pieces : ((Codepage.windows936.characters [0x81, 0x30, 0, 0x41]).splitOnP (· == '\x00')).filter
        (fun piece => !piece.isEmpty) = [['\uFFFD', '0'], ['A']] := by
      decide +kernel
    refine ⟨texts, parsed, fun same => ?_⟩
    have apart := split.mp (same.trans pieces.symm) rfl [0x81, 0x30] (by decide +kernel)
    exact apart ⟨[], 0x81, 0x30, rfl, by decide, by decide, .inl rfl⟩

end RegistryHive
