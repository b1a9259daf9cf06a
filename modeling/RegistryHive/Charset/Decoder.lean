/-! Decoders that take one byte at a time. Whatever bytes come, a decoder goes on: what cannot be
decoded becomes U+FFFD. -/
namespace RegistryHive.Charset

def replacement : Char := '\ufffd'

/-- The bytes of a sequence that is not finished yet. -/
inductive Pending where
  | nothing
  | lead (first : UInt8)
  | pair (first second : UInt8)
  | triple (first second third : UInt8)
deriving DecidableEq, Repr

/-- What an unfinished sequence leaves at the end of the text. -/
def Pending.finish : Pending → List Char
  | .nothing => []
  | _ => [replacement]

/-- The characters that one more byte settles, and the bytes that still wait. -/
structure Step where
  settled : List Char
  pending : Pending

structure Decoder where
  feed : Pending → UInt8 → Step

namespace Decoder

/-- Decodes the rest of a text, after the characters in `reversed`, latest first. -/
def run (decoder : Decoder) (reversed : List Char) (pending : Pending) : List UInt8 → List Char
  | [] => pending.finish.reverse ++ reversed
  | byte :: rest =>
    let step := decoder.feed pending byte
    decoder.run (step.settled.reverse ++ reversed) step.pending rest

/-- The characters of `bytes`. -/
def decode (decoder : Decoder) (bytes : List UInt8) : List Char :=
  (decoder.run [] .nothing bytes).reverse

theorem run_eq (decoder : Decoder) (reversed : List Char) (pending : Pending)
    (bytes : List UInt8) :
    decoder.run reversed pending bytes = decoder.run [] pending bytes ++ reversed := by
  induction bytes generalizing reversed pending with
  | nil => simp [run]
  | cons byte rest ih =>
    simp only [run]
    rw [ih, ih (_ ++ [])]
    simp

end Decoder

/-- The character of a byte below 80. -/
def asciiChar (byte : UInt8) : Char := Char.ofNat byte.toNat

/-- What a byte means where no sequence is open. -/
inductive Role where
  | character (c : Char)
  | lead
  | malformed

def Role.step (role : Role) (byte : UInt8) : Step :=
  match role with
  | .character c => ⟨[c], .nothing⟩
  | .lead => ⟨[], .lead byte⟩
  | .malformed => ⟨[replacement], .nothing⟩

/-- A character set of single bytes and pairs. -/
structure DoubleByte where
  role : UInt8 → Role
  pair : UInt8 → UInt8 → Option (List Char)

/-- Closes a pair. Of a malformed one, an ASCII trail byte stands for itself. -/
def DoubleByte.close (set : DoubleByte) (lead trail : UInt8) : Step :=
  match set.pair lead trail with
  | some characters => ⟨characters, .nothing⟩
  | none =>
    if trail < 0x80 then ⟨[replacement, asciiChar trail], .nothing⟩
    else ⟨[replacement], .nothing⟩

def DoubleByte.decoder (set : DoubleByte) : Decoder where
  feed
    | .lead first, byte => set.close first byte
    | _, byte => (set.role byte).step byte

/-- Characters in rows. An empty place is written as a space, or left out at the end of its row. -/
structure Grid where
  rows : Array (Array Char)

def Grid.ofRows (rows : List String) : Grid :=
  ⟨(rows.map fun row => row.toList.toArray).toArray⟩

/-- The character at a place. No table holds ASCII, so an ASCII character marks an empty place. -/
def Grid.cell? (grid : Grid) (row column : Nat) : Option Char :=
  match grid.rows[row]? with
  | none => none
  | some cells =>
    match cells[column]? with
    | none => none
    | some found => if found.toNat < 0x80 then none else some found

theorem Grid.cell?_not_ascii {grid : Grid} {row column : Nat} {c : Char}
    (found : grid.cell? row column = some c) : 0x80 ≤ c.toNat := by
  unfold Grid.cell? at found
  split at found
  · cases found
  · split at found
    · cases found
    · split at found
      · cases found
      · cases found
        omega

end RegistryHive.Charset
