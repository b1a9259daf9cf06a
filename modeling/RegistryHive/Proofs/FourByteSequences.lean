import Mathlib.Data.List.Chain
import RegistryHive.Proofs.Decoding

namespace RegistryHive.Charset.Gb18030

theorem userDefined_ne_nul {lead trail : UInt8} {c : Char} (found : userDefined lead trail = some c) :
    c ≠ '\x00' := by
  have leadSmall := lead.toNat_lt
  have trailSmall := trail.toNat_lt
  have column : trail.toNat - (if trail < 0x7F then 0x40 else 0x41) ≤ trail.toNat := Nat.sub_le _ _
  unfold userDefined at found
  split at found
  · rw [← Option.some.inj found]
    exact ofNat_ne_nul (by omega) (.inr (by omega))
  · split at found
    · rw [← Option.some.inj found]
      exact ofNat_ne_nul (by omega) (.inr (by omega))
    · split at found
      · rw [← Option.some.inj found]
        exact ofNat_ne_nul (by omega) (.inr (by omega))
      · cases found

theorem separates : set.Separates where
  nul := rfl
  unpaired lead := rfl
  role := by
    intro byte c other found
    simp only [set, role] at found
    split at found
    · rw [← Role.character.inj found]
      exact asciiChar_ne_nul other ‹_›
    · split at found
      · rw [← Role.character.inj found]
        decide
      · split at found <;> cases found
  pair := by
    intro lead trail characters found
    simp only [set, pair] at found
    split at found
    · cases found
    · split at found
      · rename_i c cell
        rw [← Option.some.inj found]
        exact single_text (Grid.cell?_ne_nul cell)
      · obtain ⟨c, zone, rfl⟩ := Option.map_eq_some_iff.mp found
        exact single_text (userDefined_ne_nul zone)

/-- Whether the characters from a code onward, as many as sequences up to the next run, are no surrogates. -/
def RunFits (run next : Nat × Nat) : Prop :=
  run.2 ≠ 0 ∧ (run.2 + (next.1 - run.1) ≤ 0xD800 ∨ 0xE000 ≤ run.2 ∧ run.2 + (next.1 - run.1) ≤ 0x110000)

instance (run next : Nat × Nat) : Decidable (RunFits run next) := inferInstanceAs (Decidable (_ ∧ _))

theorem runs_fit : (gb18030Runs ++ [(39420, 0)]).IsChain RunFits := by decide +kernel

/-- The run that a sequence belongs to is the last one that begins at or before it. -/
theorem run_fits {number : Nat} {run : Nat × Nat} (below : number < 39420)
    (last : (gb18030Runs.takeWhile (·.1 ≤ number)).getLast? = some run) :
    ∃ next, RunFits run next ∧ run.1 ≤ number ∧ number < next.1 := by
  obtain ⟨earlier, taken⟩ := List.getLast?_eq_some_iff.mp last
  have reached : run.1 ≤ number := by
    have member : run ∈ gb18030Runs.takeWhile (·.1 ≤ number) := by rw [taken]; simp
    simpa using List.all_eq_true.mp List.all_takeWhile run member
  have whole : gb18030Runs = earlier ++ run :: gb18030Runs.dropWhile (·.1 ≤ number) := by
    rw [List.append_cons, ← taken, List.takeWhile_append_dropWhile]
  have chain := runs_fit
  cases later : gb18030Runs.dropWhile (·.1 ≤ number) with
  | nil =>
    -- Behind the last run stands the bound of the basic plane.
    rw [later] at whole
    rw [whole, List.append_assoc, List.cons_append, List.nil_append, List.isChain_append_cons_cons] at chain
    exact ⟨(39420, 0), chain.2.1, reached, below⟩
  | cons next rest =>
    rw [later] at whole
    rw [whole, List.append_assoc, List.cons_append, List.cons_append, List.isChain_append_cons_cons] at chain
    refine ⟨next, chain.2.1, reached, ?_⟩
    have stops := List.head?_dropWhile_not (·.1 ≤ number) gb18030Runs
    rw [later] at stops
    simpa using stops

theorem fourByte_ne_nul (first second third fourth : UInt8) : fourByte first second third fourth ≠ '\x00' := by
  unfold fourByte
  dsimp only
  generalize (((first.toNat - 0x81) * 10 + (second.toNat - 0x30)) * 126 + (third.toNat - 0x81)) * 10 +
    (fourth.toNat - 0x30) = number
  by_cases basic : number < 39420
  · rw [if_pos basic]
    split
    · rename_i start code last
      obtain ⟨next, ⟨positive, fits⟩, reached, before⟩ := run_fits basic last
      dsimp only at positive fits reached
      exact ofNat_ne_nul (by omega) (by simp only [Nat.isValidChar]; omega)
    · decide
  · rw [if_neg basic]
    split
    · rename_i other
      simp only [Bool.and_eq_true, decide_eq_true_eq] at other
      exact ofNat_ne_nul (by omega) (.inr (by omega))
    · decide

theorem pending_step (byte : UInt8) :
    ((role byte).step byte).pending = if isLead byte then .lead byte else .nothing := by
  have small := byte.toNat_lt
  simp only [role, isLead, Bool.and_eq_true, decide_eq_true_eq, beq_iff_eq, UInt8.le_iff_toNat_le,
    UInt8.lt_iff_toNat_lt, ← UInt8.toNat_inj]
  repeat' split
  all_goals first | rfl | (exfalso; simp at *; omega)

/-- How a sequence goes on: leads and digits alternate. -/
theorem pending_feed (pending : Pending) (byte : UInt8) :
    (feed pending byte).pending =
      match pending with
      | .nothing => if isLead byte then .lead byte else .nothing
      | .lead first => if isDigit byte then .pair first byte else .nothing
      | .pair first second => if isLead byte then .triple first second byte else .nothing
      | .triple .. => .nothing := by
  cases pending with
  | nothing => exact pending_step byte
  | lead first =>
    simp only [feed]
    split
    · rfl
    · exact set.pending_close first byte
  | pair first second =>
    simp only [feed]
    split
    · rfl
    · rename_i other
      exact (pending_step byte).trans (if_neg other)
  | triple first second third =>
    simp only [feed]
    split
    · rfl
    · exact set.pending_close third byte

/-- Whether leads and digits alternate in what is pending. -/
def Alternates : Pending → Prop
  | .nothing => True
  | .lead first => isLead first = true
  | .pair first second => isLead first = true ∧ isDigit second = true
  | .triple first second third => isLead first = true ∧ isDigit second = true ∧ isLead third = true

theorem asciiChar_of_digit {byte : UInt8} (digit : isDigit byte = true) : asciiChar byte ≠ '\x00' := by
  simp only [isDigit, Bool.and_eq_true, decide_eq_true_eq, UInt8.le_iff_toNat_le] at digit
  have least : 0x30 ≤ byte.toNat := digit.1
  have most : byte.toNat ≤ 0x39 := digit.2
  exact ofNat_ne_nul (by omega) (.inl (by omega))

/-- Of a broken sequence the second byte is read again as the digit that it is. -/
theorem plain_broken {second : UInt8} (digit : isDigit second = true) {again : List Char}
    (plain : '\x00' ∉ again) : '\x00' ∉ replacement :: asciiChar second :: again := by
  have other := asciiChar_of_digit digit
  simp [replacement, other.symm, plain]

theorem decoder_separates : decoder.Separates Alternates where
  start := trivial
  keeps := by
    intro pending sound byte
    simp only [decoder, pending_feed]
    cases pending with
    | nothing =>
      dsimp only
      split
      · exact ‹_›
      · trivial
    | lead first =>
      dsimp only
      split
      · exact ⟨sound, ‹_›⟩
      · trivial
    | pair first second =>
      dsimp only
      split
      · exact ⟨sound.1, sound.2, ‹_›⟩
      · trivial
    | triple => trivial
  shows := by
    intro pending sound byte
    cases pending with
    | nothing => exact Role.shows_step _ byte
    | lead first =>
      simp only [decoder, feed]
      split
      · exact .inr Pending.noConfusion
      · exact .inl (separates.shows_close first byte)
    | pair first second =>
      simp only [decoder, feed]
      split
      · exact .inr Pending.noConfusion
      · exact .inl (List.cons_ne_nil _ _)
    | triple first second third =>
      simp only [decoder, feed]
      split
      · exact .inl (List.cons_ne_nil _ _)
      · exact .inl (List.cons_ne_nil _ _)
  plain := by
    intro pending sound byte other
    cases pending with
    | nothing => exact separates.plain_step other
    | lead first =>
      simp only [decoder, feed]
      split
      · exact List.not_mem_nil
      · exact separates.plain_close first other
    | pair first second =>
      simp only [decoder, feed]
      split
      · exact List.not_mem_nil
      · exact plain_broken sound.2 (separates.plain_step other)
    | triple first second third =>
      simp only [decoder, feed]
      split
      · exact (single_text (fourByte_ne_nul first second third byte)).2
      · exact plain_broken sound.2.1 (separates.plain_close third other)
  breaks := by
    intro pending sound
    cases pending with
    | nothing =>
      exact ⟨[], separates.step_nul, List.not_mem_nil, by simp [Pending.Half]⟩
    | lead first =>
      exact ⟨[], separates.close_nul first, List.not_mem_nil, by simp [Pending.Half]⟩
    | pair first second =>
      refine ⟨[asciiChar second], rfl, ?_, by simp [Pending.Half]⟩
      exact (single_text (asciiChar_of_digit sound.2)).2
    | triple first second third =>
      have closed := separates.close_nul third
      refine ⟨[asciiChar second, replacement], ?_, ?_, by simp [Pending.Half]⟩
      · change Step.mk (_ :: _ :: (set.close third 0).settled) (set.close third 0).pending = _
        rw [closed]
        rfl
      · have other := asciiChar_of_digit sound.2.1
        simp [replacement, other.symm]

/-- The bytes that are pending stand at the end of what was read, and before them all is settled. -/
theorem exists_settled (run : Bytes) : ∃ whole : Bytes,
    run = whole ++ (decoder.pendingAfter .nothing run).bytes ∧
      decoder.pendingAfter .nothing whole = .nothing := by
  induction run using List.reverseRecOn with
  | nil => exact ⟨[], rfl, rfl⟩
  | append_singleton run byte ih =>
    obtain ⟨whole, same, settled⟩ := ih
    have step : decoder.pendingAfter .nothing (run ++ [byte]) =
        (feed (decoder.pendingAfter .nothing run) byte).pending := by
      simp only [Decoder.pendingAfter, List.foldl_append]
      rfl
    have closed (none : decoder.pendingAfter .nothing (run ++ [byte]) = .nothing) : ∃ whole : Bytes,
        run ++ [byte] = whole ++ (decoder.pendingAfter .nothing (run ++ [byte])).bytes ∧
          decoder.pendingAfter .nothing whole = .nothing :=
      ⟨run ++ [byte], by simp [none, Pending.bytes], none⟩
    rw [pending_feed] at step
    -- The new byte joins what was pending, or settles all of it.
    cases before : decoder.pendingAfter .nothing run with
    | nothing =>
      rw [before] at step
      dsimp only at step
      split at step
      · exact ⟨run, by rw [step]; rfl, before⟩
      · exact closed step
    | lead first =>
      rw [before] at step same
      dsimp only at step
      split at step
      · exact ⟨whole, by rw [step, same]; simp [Pending.bytes], settled⟩
      · exact closed step
    | pair first second =>
      rw [before] at step same
      dsimp only at step
      split at step
      · exact ⟨whole, by rw [step, same]; simp [Pending.bytes], settled⟩
      · exact closed step
    | triple first second third =>
      rw [before] at step
      exact closed step

/-- Whether a run of bytes ends with two or three bytes of a sequence of four. -/
def EndsHalf (run : Bytes) : Prop :=
  ∃ (whole : Bytes) (lead digit : UInt8), decoder.pendingAfter .nothing whole = .nothing ∧
    isLead lead = true ∧ isDigit digit = true ∧
    (run = whole ++ [lead, digit] ∨ ∃ next, isLead next = true ∧ run = whole ++ [lead, digit, next])

theorem half_iff_endsHalf (run : Bytes) :
    (decoder.pendingAfter .nothing run).Half ↔ EndsHalf run := by
  constructor
  · intro half
    obtain ⟨whole, same, settled⟩ := exists_settled run
    have sound := decoder_separates.sound_pendingAfter decoder_separates.start run
    cases pending : decoder.pendingAfter .nothing run with
    | nothing | lead =>
      rw [pending] at half
      exact half.elim
    | pair first second =>
      rw [pending] at sound same
      exact ⟨whole, first, second, settled, sound.1, sound.2, .inl same⟩
    | triple first second third =>
      rw [pending] at sound same
      exact ⟨whole, first, second, settled, sound.1, sound.2.1, .inr ⟨third, sound.2.2, same⟩⟩
  · rintro ⟨whole, lead, digit, settled, isLead, isDigit, same⟩
    have opened : (feed .nothing lead).pending = .lead lead := (pending_feed _ _).trans (if_pos isLead)
    have paired : (feed (.lead lead) digit).pending = .pair lead digit := (pending_feed _ _).trans (if_pos isDigit)
    rcases same with same | ⟨next, isNext, same⟩
    · have pending : decoder.pendingAfter .nothing run = .pair lead digit := by
        rw [same, Decoder.pendingAfter_append, settled]
        simp only [Decoder.pendingAfter, List.foldl_cons, List.foldl_nil, decoder, opened, paired]
      rw [pending]
      trivial
    · have tripled : (feed (.pair lead digit) next).pending = .triple lead digit next :=
        (pending_feed _ _).trans (if_pos isNext)
      have pending : decoder.pendingAfter .nothing run = .triple lead digit next := by
        rw [same, Decoder.pendingAfter_append, settled]
        simp only [Decoder.pendingAfter, List.foldl_cons, List.foldl_nil, decoder, opened, paired, tripled]
      rw [pending]
      trivial

end RegistryHive.Charset.Gb18030
