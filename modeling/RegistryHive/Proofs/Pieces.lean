import RegistryHive.Proofs.Parsing

/-! The pieces of a data area. Each begins where the one before it ends, below a limit, and is as long as its
first field says, so they share out the area from its start to the position where indexing stops, and indexing
fails only at a size that no piece can have. -/
namespace RegistryHive

/-- Whether a piece begins at a position of a data area: below the limit, with bytes for the least entry. -/
def PieceBegins (data : Bytes) (limit position : Nat) : Prop :=
  position < limit ∧ position + leastEntrySize ≤ data.length

/-- Whether a piece at a position can have the size that is recorded there. -/
def PieceFits (data : Bytes) (position : Nat) : Prop :=
  leastEntrySize ≤ data.number position 4 ∧ position + data.number position 4 ≤ data.length

instance (data : Bytes) (limit position : Nat) : Decidable (PieceBegins data limit position) :=
  inferInstanceAs (Decidable (_ ∧ _))

instance (data : Bytes) (position : Nat) : Decidable (PieceFits data position) :=
  inferInstanceAs (Decidable (_ ∧ _))

/-- Pieces that follow one another from the first position up to the second. -/
inductive Pieces (data : Bytes) (limit : Nat) : Nat → List BlockEntry → Nat → Prop where
  | nil (position : Nat) : Pieces data limit position [] position
  | cons (begins : PieceBegins data limit position) (fits : PieceFits data position)
      (rest : Pieces data limit (position + data.number position 4) pieces finish) :
      Pieces data limit position (⟨position, data.field position (data.number position 4)⟩ :: pieces) finish

namespace Pieces

variable {data : Bytes} {limit position finish : Nat} {pieces : List BlockEntry}

theorem le (run : Pieces data limit position pieces finish) : position ≤ finish := by
  induction run with
  | nil position => exact Nat.le_refl position
  | cons begins fits rest ih => exact Nat.le_of_add_right_le ih

theorem inside (run : Pieces data limit position pieces finish) (start : position ≤ data.length) :
    finish ≤ data.length := by
  induction run with
  | nil position => exact start
  | cons begins fits rest ih => exact ih fits.2

/-- From every position the sizes lead on to one where no piece begins, or where it cannot have its size. -/
theorem exists_from (data : Bytes) (limit position : Nat) :
    ∃ pieces finish, Pieces data limit position pieces finish ∧
      ¬(PieceBegins data limit finish ∧ PieceFits data finish) := by
  by_cases more : PieceBegins data limit position ∧ PieceFits data position
  · obtain ⟨⟨below, room⟩, least, fits⟩ := more
    have progress : 0 < data.number position 4 := Nat.lt_of_lt_of_le (by decide) least
    obtain ⟨pieces, finish, run, stops⟩ := exists_from data limit (position + data.number position 4)
    exact ⟨_, finish, .cons ⟨below, room⟩ ⟨least, fits⟩ run, stops⟩
  · exact ⟨[], position, .nil position, more⟩
termination_by data.length - position
decreasing_by
  rw [leastEntrySize] at room
  omega

end Pieces

namespace DataBlock

/-- Cuts entries off a data area from a position onward. -/
def cutFrom (header : BlockHeader) (data : Bytes) (limit position : Nat) (found : List BlockEntry) :
    Except Error (List BlockEntry) :=
  cut header limit position (data.drop position).length (data.drop position) found

variable {header : BlockHeader} {data : Bytes} {limit position : Nat} {found : List BlockEntry}

theorem cutFrom_eq :
    cutFrom header data limit position found =
      if PieceBegins data limit position then
        if PieceFits data position then
          cutFrom header data limit (position + data.number position 4)
            (⟨position, data.field position (data.number position 4)⟩ :: found)
        else .error (.invalidFormat
          (.blockEntrySize header.offset found.length position (data.number position 4)))
      else .ok found.reverse := by
  have size : Bytes.number (data.drop position) 0 4 = data.number position 4 := rfl
  have begins : position < limit ∧ 20 ≤ (data.drop position).length ↔ PieceBegins data limit position := by
    rw [List.length_drop, PieceBegins, leastEntrySize]
    omega
  rw [cutFrom, cut_eq, size]
  by_cases more : PieceBegins data limit position
  · have fits : 20 ≤ data.number position 4 ∧ data.number position 4 ≤ (data.drop position).length ↔
        PieceFits data position := by
      rw [PieceBegins, leastEntrySize] at more
      rw [List.length_drop, PieceFits, leastEntrySize]
      omega
    simp only [begins, fits, more, if_true, List.drop_drop]
    rfl
  · simp only [begins, more, if_false]

/-- Cutting goes past the pieces that stand there. -/
theorem cutFrom_of_pieces {pieces : List BlockEntry} {finish : Nat}
    (run : Pieces data limit position pieces finish) :
    cutFrom header data limit position found = cutFrom header data limit finish (pieces.reverse ++ found) := by
  induction run generalizing found with
  | nil position => rfl
  | cons begins fits rest ih =>
    rw [cutFrom_eq, if_pos begins, if_pos fits, ih]
    simp

/-- Indexing a data area comes to its pieces, or to the size of one that begins where they end. -/
theorem ofData_of_pieces {pieces : List BlockEntry} {finish : Nat}
    (run : Pieces data (min header.entriesSize data.length) 0 pieces finish)
    (stops : ¬(PieceBegins data (min header.entriesSize data.length) finish ∧ PieceFits data finish)) :
    ofData header data =
      if PieceBegins data (min header.entriesSize data.length) finish then
        .error (.invalidFormat
          (.blockEntrySize header.offset pieces.length finish (data.number finish 4)))
      else .ok ⟨header, pieces.toArray⟩ := by
  have whole : cut header (min header.entriesSize data.length) 0 data.length data [] = _ :=
    (cutFrom_of_pieces run).trans cutFrom_eq
  rw [ofData, whole]
  by_cases begins : PieceBegins data (min header.entriesSize data.length) finish
  · rw [if_pos begins, if_pos begins, if_neg fun fits => stops ⟨begins, fits⟩]
    simp [bind, Except.bind]
  · rw [if_neg begins, if_neg begins]
    simp [bind, Except.bind, pure, Except.pure]

/-- Indexing succeeds where no piece begins behind the others. -/
theorem ofData_of_ends {pieces : List BlockEntry} {finish : Nat}
    (run : Pieces data (min header.entriesSize data.length) 0 pieces finish)
    (ends : ¬PieceBegins data (min header.entriesSize data.length) finish) :
    ofData header data = .ok ⟨header, pieces.toArray⟩ :=
  (ofData_of_pieces run fun more => ends more.1).trans (if_neg ends)

/-- The entries of a data block are the pieces of its data area. -/
theorem exists_pieces_of_ofData {block : DataBlock} (indexed : ofData header data = .ok block) :
    ∃ pieces finish, Pieces data (min header.entriesSize data.length) 0 pieces finish ∧
      block = ⟨header, pieces.toArray⟩ := by
  obtain ⟨pieces, finish, run, stops⟩ := Pieces.exists_from data (min header.entriesSize data.length) 0
  rw [ofData_of_pieces run stops] at indexed
  by_cases begins : PieceBegins data (min header.entriesSize data.length) finish
  · rw [if_pos begins] at indexed
    cases indexed
  · rw [if_neg begins] at indexed
    exact ⟨pieces, finish, run, (Except.ok.inj indexed).symm⟩

end DataBlock

end RegistryHive
