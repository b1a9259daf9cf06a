import RegistryHive.Proofs.Fetch

namespace RegistryHive

/-- Where to read, and how many bytes there is room for. -/
structure ReadRequest where
  offset : UInt64
  length : UInt64
deriving DecidableEq, Repr

namespace ReadRequest

variable {request : ReadRequest}

/-- The end of what is asked for. -/
def stop (request : ReadRequest) : Nat := request.offset.toNat + request.length.toNat

/-- The end as it is computed in 64 bits, unless they are too few. -/
def checkedStop (request : ReadRequest) : Option UInt64 :=
  if request.stop < UInt64.size then some (request.offset + request.length) else none

/-- What a request gets from a stream of which nothing else is asked. It is refused if it ends beyond the claimed size
or beyond all 64-bit numbers. Otherwise it is read if it asks for nothing or ends in the stream, and fails if the
stream ends before. -/
def answer (content : Array UInt8) (claimed : UInt64) (request : ReadRequest) : Except Error Bytes :=
  if claimed.toNat < request.stop ∨ UInt64.size ≤ request.stop then
    .error (.truncated request.offset.toNat request.length.toNat (claimed.toNat - request.offset.toNat))
  else if request.length.toNat = 0 ∨ request.stop ≤ content.size then
    .ok (content.extract request.offset.toNat request.stop).toList
  else .error (.io .endedEarly)

theorem toNat_of_checkedStop {stop : UInt64} (computed : request.checkedStop = some stop) :
    stop.toNat = request.stop := by
  unfold checkedStop at computed
  split at computed
  · rename_i fits
    cases computed
    rw [UInt64.toNat_add]
    exact Nat.mod_eq_of_lt fits
  · cases computed

theorem checkedStop_eq_none_iff : request.checkedStop = none ↔ UInt64.size ≤ request.stop := by
  unfold checkedStop
  split
  · rename_i fits
    exact ⟨nofun, fun large => absurd fits (Nat.not_lt.mpr large)⟩
  · rename_i large
    exact ⟨fun _ => Nat.not_lt.mp large, fun _ => rfl⟩

end ReadRequest

namespace Source

/-- The answer to a request, and the source after it. -/
def serve (source : Source) (request : ReadRequest) : Except Error Bytes × Source :=
  source.read request.offset.toNat request.length.toNat

/-- The end of a request is compared with the size in 64 bits. An end that does not fit into them is beyond every
size. -/
theorem holds_eq_checkedStop {source : Source} {claimed : UInt64} (size : source.size = claimed.toNat)
    (request : ReadRequest) :
    source.holds request.offset.toNat request.length.toNat = request.checkedStop.any (· ≤ claimed) := by
  have whole : source.holds request.offset.toNat request.length.toNat = decide (request.stop ≤ claimed.toNat) := by
    rw [holds, size]
    rfl
  rw [whole]
  cases computed : request.checkedStop with
  | none =>
    have large := ReadRequest.checkedStop_eq_none_iff.mp computed
    have bound : claimed.toNat < UInt64.size := claimed.toNat_lt
    simp only [Option.any_none, decide_eq_false_iff_not]
    omega
  | some stop =>
    rw [← ReadRequest.toNat_of_checkedStop computed]
    rfl

end Source

namespace Stream

/-- A read moves the cursor, and changes nothing else. -/
theorem exists_after_read (stream : Stream) (offset length : Nat) :
    ∃ after : Stream, (Source.stream stream).read offset length =
        ((Source.stream stream).fetch offset length, .stream after) ∧
      ∀ cursor, after.seek cursor = stream.seek cursor := by
  have rewound := Source.rewound_read (.stream stream) offset length
  cases left : ((Source.stream stream).read offset length).2 with
  | mapped content | reader attached =>
    rw [left] at rewound
    cases rewound
  | stream after =>
    rw [left] at rewound
    have start : after.seek 0 = stream.seek 0 := Source.stream.inj rewound
    refine ⟨after, Prod.ext rfl left, fun cursor => ?_⟩
    have moved := congrArg (seek · cursor) start
    exact moved

/-- Requests that a stream serves in turn, and their answers. A read that fails may have taken any number of bytes
before, so the cursor may be anywhere when the next one comes. -/
inductive Serves : Stream → List ReadRequest → List (Except Error Bytes) → Prop where
  | nil (stream : Stream) : Serves stream [] []
  | cons (served : (Source.stream stream).serve request = (answer, .stream after)) (cursor : Nat)
      (later : Serves (after.seek cursor) requests answers) :
      Serves stream (request :: requests) (answer :: answers)

/-- Every request gets what it would get from the stream as it was at first, since no read before it has changed more
than the cursor. -/
theorem serves_iff_fetch (stream : Stream) (requests : List ReadRequest) (answers : List (Except Error Bytes)) :
    stream.Serves requests answers ↔ answers = requests.map fun request =>
      (Source.stream stream).fetch request.offset.toNat request.length.toNat := by
  induction requests generalizing stream answers with
  | nil =>
    constructor
    · rintro ⟨⟩
      rfl
    · rintro rfl
      exact .nil stream
  | cons request requests ih =>
    obtain ⟨after, read, moved⟩ := stream.exists_after_read request.offset.toNat request.length.toNat
    have same (cursor : Nat) : (Source.stream (after.seek cursor)).fetch = (Source.stream stream).fetch := by
      rw [moved cursor, Source.fetch_seek]
    constructor
    · intro serves
      cases serves with
      | cons served cursor later =>
        obtain ⟨rfl, left⟩ := Prod.mk.inj (served.symm.trans read)
        rw [Source.stream.inj left, ih, same cursor] at later
        rw [later]
        rfl
    · rintro rfl
      refine .cons read after.cursor ((ih _ _).mpr ?_)
      rw [same after.cursor]

/-- Wherever the cursor is, a request gets its answer. -/
theorem fetch_eq_answer (content : Array UInt8) (claimed : UInt64) (cursor : Nat) (request : ReadRequest) :
    (Source.stream ⟨content, claimed.toNat, cursor⟩).fetch request.offset.toNat request.length.toNat =
      request.answer content claimed := by
  have bound : claimed.toNat < UInt64.size := claimed.toNat_lt
  have data : (content.extract request.offset.toNat request.stop).toList =
      (content.toList.drop request.offset.toNat).take request.length.toNat := toList_extract_add _ _ _
  rw [Source.fetch_stream, ReadRequest.answer, data, ← ReadRequest.stop]
  by_cases inside : request.stop ≤ claimed.toNat
  · have kept : ¬ (claimed.toNat < request.stop ∨ UInt64.size ≤ request.stop) := by omega
    rw [if_pos inside, if_neg kept]
  · have refused : claimed.toNat < request.stop ∨ UInt64.size ≤ request.stop := by omega
    rw [if_neg inside, if_pos refused]

end Stream

/-- Requests of a stream that come one after another, refused and failed ones among them, get the answers that their
own places and lengths have, whatever size the stream claims and wherever its cursor is. Ends are compared with that
size as 64-bit numbers. -/
theorem requests_stand_alone (content : Array UInt8) (claimed : UInt64) (cursor : Nat) :
    let stream : Stream := ⟨content, claimed.toNat, cursor⟩
    (∀ requests answers, stream.Serves requests answers ↔ answers = requests.map (·.answer content claimed)) ∧
    ∀ request : ReadRequest, (Source.stream stream).holds request.offset.toNat request.length.toNat =
      request.checkedStop.any (· ≤ claimed) := by
  intro stream
  refine ⟨fun requests answers => ?_, Source.holds_eq_checkedStop rfl⟩
  rw [stream.serves_iff_fetch]
  simp only [stream, Stream.fetch_eq_answer]

/-- A read that fails midway leaves the cursor behind the place of the next one. -/
example : (Stream.mk #[1, 2, 3] 5 0).Serves [⟨2, 3⟩, ⟨0, 2⟩, ⟨4, 2⟩]
    [.error (.io .endedEarly), .ok [1, 2], .error (.truncated 4 2 1)] :=
  (Stream.serves_iff_fetch _ _ _).mpr rfl

end RegistryHive
