import RegistryHive.Source

namespace RegistryHive

theorem toList_extract_add (content : Array UInt8) (offset length : Nat) :
    (content.extract offset (offset + length)).toList = (content.toList.drop offset).take length := by
  rw [Array.toList_extract, List.extract_eq_take_drop, Nat.add_sub_cancel_left]

namespace Stream

theorem seek_readExact (stream : Stream) (count position : Nat) :
    (stream.readExact count).2.seek position = stream.seek position := by
  simp only [readExact]
  split <;> rfl

/-- Whole reads, and empty ones anywhere, succeed. -/
theorem readExact_seek (stream : Stream) (offset length : Nat) :
    ((stream.seek offset).readExact length).1 =
      if length = 0 ∨ offset + length ≤ stream.content.size then
        .ok ((stream.content.toList.drop offset).take length)
      else .error (.io .endedEarly) := by
  have count : ((stream.content.toList.drop offset).take length).length =
      min length (stream.content.size - offset) := by simp
  simp only [readExact, read, seek, toList_extract_add, count]
  by_cases whole : length = 0 ∨ offset + length ≤ stream.content.size
  · rw [if_pos whole, if_pos (by omega)]
  · rw [if_neg whole, if_neg (by omega)]

end Stream

theorem Reader.length_of_read (reader : Reader) {offset length : Nat} {data : Bytes}
    (filled : reader.read offset length = .ok data) : data.length = length := by
  unfold read at filled
  split at filled
  · rename_i whole _
    cases filled
    exact whole.property
  · cases filled

namespace Source

/-- The source with its cursor at the start. -/
def rewound : Source → Source
  | .mapped content => .mapped content
  | .stream attached => .stream (attached.seek 0)
  | .reader attached => .reader attached

/-- What a read gives. -/
def fetch (source : Source) (offset length : Nat) : Except Error Bytes :=
  (source.read offset length).1

@[simp] theorem size_rewound (source : Source) : source.rewound.size = source.size := by
  cases source <;> rfl

theorem rewound_read (source : Source) (offset length : Nat) :
    (source.read offset length).2.rewound = source.rewound := by
  unfold read
  split
  · cases source with
    | mapped content => rfl
    | stream attached => exact congrArg Source.stream ((attached.seek offset).seek_readExact length 0)
    | reader attached => rfl
  · rfl

/-- The bytes behind a source, however many of them it admits to. A reader has none to show but those
that its reads give. -/
def content : Source → Bytes
  | .mapped content => content.toList
  | .stream attached => attached.content.toList
  | .reader _ => []

/-- Whether a source is a string of bytes and reports its true length. -/
inductive Honest : Source → Prop where
  | mapped (content : Array UInt8) : Honest (.mapped content)
  | stream {attached : Stream} (whole : attached.reported = attached.content.size) :
      Honest (.stream attached)

theorem Honest.size_eq {source : Source} (honest : source.Honest) :
    source.size = source.content.length := by
  cases honest with
  | mapped content => rfl
  | stream whole => exact whole

theorem fetch_of_honest {source : Source} (honest : source.Honest) {offset length : Nat}
    (inside : offset + length ≤ source.content.length) :
    source.fetch offset length = .ok ((source.content.drop offset).take length) := by
  have held : source.holds offset length = true := by
    simp only [holds, decide_eq_true_eq]
    rw [honest.size_eq]
    exact inside
  cases honest with
  | mapped content =>
    simp only [fetch, read, held, if_true, RegistryHive.Source.content, toList_extract_add]
  | @stream attached _ =>
    have whole : offset + length ≤ attached.content.size := inside
    simp only [fetch, read, held, if_true, Stream.readExact_seek, whole, or_true]
    rfl

/-- A read beyond the reported size is refused before anything is read. -/
theorem fetch_outside {source : Source} {offset length : Nat}
    (outside : source.size < offset + length) :
    source.fetch offset length = .error (.truncated offset length (source.size - offset)) := by
  have refused : source.holds offset length = false := by
    simp only [holds, decide_eq_false_iff_not]
    omega
  simp [fetch, read, refused]

theorem fetch_stream (attached : Stream) (offset length : Nat) :
    (stream attached).fetch offset length =
      if offset + length ≤ attached.reported then
        if length = 0 ∨ offset + length ≤ attached.content.size then
          .ok ((attached.content.toList.drop offset).take length)
        else .error (.io .endedEarly)
      else .error (.truncated offset length (attached.reported - offset)) := by
  by_cases inside : offset + length ≤ attached.reported
  · have held : (stream attached).holds offset length = true := decide_eq_true inside
    simp only [fetch, read, held, if_true, Stream.readExact_seek, if_pos inside]
  · rw [if_neg inside]
    exact fetch_outside (Nat.not_le.mp inside)

theorem fetch_reader (attached : Reader) (offset length : Nat) :
    (reader attached).fetch offset length =
      if offset + length ≤ attached.reported then attached.read offset length
      else .error (.truncated offset length (attached.reported - offset)) := by
  by_cases inside : offset + length ≤ attached.reported
  · have held : (reader attached).holds offset length = true := decide_eq_true inside
    simp only [fetch, read, held, if_true, if_pos inside]
  · rw [if_neg inside]
    exact fetch_outside (Nat.not_le.mp inside)

/-- A read gives the same, wherever the cursor is. -/
theorem fetch_seek (attached : Stream) (cursor : Nat) :
    (stream (attached.seek cursor)).fetch = (stream attached).fetch := by
  funext offset length
  rw [fetch_stream, fetch_stream]
  rfl

@[simp] theorem fetch_rewound (source : Source) : source.rewound.fetch = source.fetch := by
  cases source with
  | mapped content => rfl
  | stream attached => exact fetch_seek attached 0
  | reader attached => rfl

/-- What is read is as long as it was asked for. -/
theorem length_of_fetch {source : Source} {offset length : Nat} {data : Bytes}
    (fetched : source.fetch offset length = .ok data) : data.length = length := by
  cases source with
  | mapped content =>
    simp only [fetch, read] at fetched
    split at fetched
    · rename_i held
      have inside : offset + length ≤ content.size := of_decide_eq_true held
      cases fetched
      simp
      omega
    · cases fetched
  | stream attached =>
    rw [fetch_stream] at fetched
    split at fetched
    · split at fetched
      · cases fetched
        simp
        omega
      · cases fetched
    · cases fetched
  | reader attached =>
    rw [fetch_reader] at fetched
    split at fetched
    · exact attached.length_of_read fetched
    · cases fetched

end Source

end RegistryHive
