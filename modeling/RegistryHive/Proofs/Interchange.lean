import RegistryHive.Proofs.Parallel
import RegistryHive.Proofs.History

namespace RegistryHive

/-- Whether a source gives these bytes, and none beyond them. -/
structure Source.Offers (source : Source) (data : Bytes) : Prop where
  size : source.size = data.length
  fetch : source.fetch = data.reads

/-- The bytes that a place has for those who open it. -/
inductive Place.Offers : Place → Bytes → Prop where
  | file {name : String} (named : name.isEmpty = false) (content : Array UInt8) :
      Offers (.path name (.file content)) content.toList
  | stream {stream : Stream} (within : stream.reported ≤ stream.content.size) :
      Offers (.stream stream) (stream.content.toList.take stream.reported)

/-- Whether sources of two byte strings are alike. -/
structure Bytes.Alike (same : Hive → Hive → Prop) (data found : Bytes) : Prop where
  length : data.length = found.length
  sources : 64 ≤ data.length → ∀ {left right : Source}, left.Offers data → right.Offers found →
    left.Alike same right

theorem Source.Honest.offers {source : Source} (honest : source.Honest) : source.Offers source.content :=
  ⟨honest.size_eq, Source.fetch_of_honest_eq honest⟩

/-- A stream that reports less than it has offers no more than it reports. -/
theorem Source.offers_stream {attached : Stream} (within : attached.reported ≤ attached.content.size) :
    (Source.stream attached).Offers (attached.content.toList.take attached.reported) := by
  have length : (attached.content.toList.take attached.reported).length = attached.reported := by
    rw [List.length_take, Array.length_toList]
    omega
  refine ⟨length.symm, ?_⟩
  funext offset count
  rw [Source.fetch_stream, Bytes.reads, length]
  by_cases inside : offset + count ≤ attached.reported
  · have whole : count = 0 ∨ offset + count ≤ attached.content.size := by omega
    rw [if_pos inside, if_pos inside, if_pos whole, Bytes.field, List.drop_take, List.take_take]
    congr 2
    omega
  · rw [if_neg inside, if_neg inside]

namespace Place

/-- The source that is opened at a place. -/
def reach : Place → Except Error Source
  | path name target => Source.ofPath name target Hive.minimumSize
  | stream attached => Source.ofStream attached Hive.minimumSize

/-- Opens what is at a place without a handle. -/
def openHive (place : Place) (signals : Signals) : Except Error Opened := do
  let source ← place.reach
  match Hive.attach .standard { source, signals } with
  | .ok hive session => return ⟨hive, session⟩
  | .error error _ => throw error

/-- Whether two places offer bytes that go on alike. -/
def Alike (same : Hive → Hive → Prop) (place other : Place) : Prop :=
  ∃ data found, place.Offers data ∧ other.Offers found ∧ data.Alike same found

/-- Whether two places offer the same bytes. -/
def Equal (place other : Place) : Prop := ∃ data, place.Offers data ∧ other.Offers data

theorem equal_stream {name : String} (named : name.isEmpty = false) (content : Array UInt8) (cursor : Nat) :
    (path name (.file content)).Equal (.stream ⟨content, content.size, cursor⟩) := by
  refine ⟨content.toList, .file named content, ?_⟩
  have offers : (stream ⟨content, content.size, cursor⟩).Offers (content.toList.take content.size) :=
    .stream (Nat.le_refl _)
  rwa [← Array.length_toList, List.take_length] at offers

/-- A stream that reports less than it has is as good as one that has no more. -/
theorem equal_cut {attached : Stream} (within : attached.reported ≤ attached.content.size) (cursor : Nat) :
    (stream attached).Equal
      (stream ⟨attached.content.extract 0 attached.reported, attached.reported, cursor⟩) := by
  refine ⟨attached.content.toList.take attached.reported, .stream within, ?_⟩
  have kept : ((attached.content.extract 0 attached.reported).toList.take attached.reported) =
      attached.content.toList.take attached.reported := by
    simp [Array.toList_extract, List.extract_eq_take_drop, List.take_take]
  rw [← kept]
  exact .stream (by simp; omega)

variable {place other : Place} {data found : Bytes}

/-- What has fewer bytes than it must is refused. -/
theorem require_size {α : Type} (size minimum : Nat) (value : α) :
    (if size < minimum then .error (.fileTooSmall size minimum) else .ok value : Except Error α) = (do
      require (minimum ≤ size) (.fileTooSmall size minimum)
      return value) := by
  by_cases small : size < minimum
  · simp only [require, small, Nat.not_le.mpr small, if_true, if_false]
    rfl
  · simp only [require, small, Nat.not_lt.mp small, if_true, if_false]
    rfl

/-- What is opened at a place is a source of its bytes, unless they are too few. -/
theorem Offers.reach (offers : place.Offers data) :
    ∃ source : Source, source.Offers data ∧ place.reach = (do
      require (64 ≤ data.length) (.fileTooSmall data.length 64)
      return source) := by
  cases offers with
  | file named content =>
    exact ⟨.mapped content, Source.Honest.offers (.mapped content), require_size content.size Hive.minimumSize _⟩
  | @stream attached within =>
    have offers : (Source.stream (attached.seek 0)).Offers (attached.content.toList.take attached.reported) :=
      Source.offers_stream within
    refine ⟨.stream (attached.seek 0), offers, ?_⟩
    rw [← offers.size]
    exact require_size attached.reported Hive.minimumSize _

theorem Offers.source_eq (offers : place.Offers data) (mode : AccessMode) (file : File) :
    place.source mode file = (do
      require (mode = .read) (.unsupportedMode place.title mode.display)
      require (!file.isOpen) (.alreadyOpen place.title)
      place.reach) := by
  cases offers with
  | file named content =>
    simp only [Place.source, named]
    rfl
  | stream within => rfl

variable {same : Hive → Hive → Prop} (offers : place.Offers data) (also : other.Offers found)
  (alike : data.Alike same found)

include offers also alike

/-- Places of bytes that are alike are refused for the same reason, or come to sources that are alike. -/
theorem Offers.opens (mode : AccessMode) {file later : File} (isOpen : file.isOpen = later.isOpen) :
    place.Opens same other (place.source mode file) (other.source mode later) := by
  obtain ⟨left, here, ours⟩ := offers.reach
  obtain ⟨right, there, theirs⟩ := also.reach
  rw [offers.source_eq, also.source_eq, ours, theirs, isOpen, ← alike.length]
  by_cases reads : mode = .read
  · by_cases free : later.isOpen = false
    · by_cases long : 64 ≤ data.length
      · simp only [require, reads, free, long]
        exact .source (alike.sources long here there)
      · simp only [require, reads, free, long]
        exact .error ⟨rfl, fun _ => rfl⟩
    · simp only [require, reads, free]
      exact .error ⟨rfl, fun titled => by rw [titled]⟩
  · simp only [require, reads]
    exact .error ⟨rfl, fun titled => by rw [titled]⟩

/-- Without a handle too, places of bytes that are alike are refused for the same reason or come to open
files that are alike. -/
theorem Offers.openHive (signals : Signals) :
    Agree (Opened.Alike same) (place.openHive signals) (other.openHive signals) := by
  obtain ⟨left, here, ours⟩ := offers.reach
  obtain ⟨right, there, theirs⟩ := also.reach
  unfold Place.openHive
  rw [ours, theirs, ← alike.length]
  by_cases long : 64 ≤ data.length
  · simp only [require, long, if_true, bind, Except.bind, pure, Except.pure]
    have sources := alike.sources long here there
    rcases (sources.attach .standard).runs (.start sources.sizes signals false) with
      ⟨hive, twin, after, later, ours, theirs, ⟨hives, agree⟩, sessions⟩ |
      ⟨error, after, later, ours, theirs, sessions⟩
    · rw [ours, theirs]
      exact .value (.intro hives agree sessions)
    · rw [ours, theirs]
      exact .error error
  · simp only [require, long, if_false]
    exact .error _

end Place

namespace Hive

theorem likeness_eq : Hive.Likeness Eq where
  refl hive := rfl
  resembles same := by rw [same]; exact ⟨rfl, rfl, rfl⟩
  recoded same codepage := by rw [same]

end Hive

/-- Sources that offer the same bytes are alike in every respect. -/
theorem Bytes.alike_self (data : Bytes) : data.Alike Eq data where
  length := rfl
  sources _ _ _ here there :=
    .of_fetch Hive.likeness_eq (here.size.trans there.size.symm) (here.fetch.trans there.fetch.symm)

/-- Requests, one after another, of two new handles on which places that are alike are opened. -/
theorem Usage.alike_of_places {same : Hive → Hive → Prop} (likeness : Hive.Likeness same)
    {excused : Request → Prop} (told : ∀ request, request.TellsVersion → excused request ∨
      ∀ {hive other : Hive}, same hive other → hive.header = other.header)
    {requests asked : List Request} (paired : List.Forall₂ (Request.Alike (Place.Alike same)) requests asked) :
    Usage.Alike same excused (Usage.serveAll {} requests) (Usage.serveAll {} asked) := by
  have start : Usage.Alike same excused {} {} := ⟨.intro _ (.closed false), .nil⟩
  refine start.serveAll likeness (fun places mode _ _ isOpen => ?_) told paired
  obtain ⟨data, found, offers, also, alike⟩ := places
  exact offers.opens also alike mode isOpen

/-- Handles on which places of the same bytes are opened answer the same, request by request: only openings
that are refused before they read tell the places apart. So do files that are opened without a handle, after
everything that can happen to them. -/
theorem places_interchangeable :
    (∀ {requests asked : List Request}, List.Forall₂ (Request.Alike Place.Equal) requests asked →
      let usage := Usage.serveAll {} requests
      let other := Usage.serveAll {} asked
      List.Forall₂ (Record.Agree fun _ => False) usage.log other.log ∧
        usage.file.isOpen = other.file.isOpen ∧ usage.file.raised = other.file.raised ∧
        usage.file.codepage = other.file.codepage) ∧
    ∀ {place other : Place}, place.Equal other → ∀ signals,
      Agree (fun opened found => ∀ history,
          (opened.after history).hive = (found.after history).hive ∧
          (opened.after history).session.raised = (found.after history).session.raised ∧
          ∀ {α : Type} (operation : Operation α),
            (opened.after history).answer operation = (found.after history).answer operation)
        (place.openHive signals) (other.openHive signals) := by
  constructor
  · intro requests asked paired usage other
    have places : List.Forall₂ (Request.Alike (Place.Alike Eq)) requests asked :=
      paired.imp fun _ _ alike => alike.imp fun ⟨data, offers, also⟩ =>
        ⟨data, data, offers, also, data.alike_self⟩
    have alike : Usage.Alike Eq (fun _ => False) usage other :=
      Usage.alike_of_places Hive.likeness_eq (fun _ _ => .inr fun same => by rw [same]) places
    exact ⟨alike.logs, alike.files.isOpen, alike.files.raised, alike.files.codepage⟩
  · intro place other ⟨data, offers, also⟩ signals
    refine (offers.openHive also data.alike_self signals).imp fun opened found alike history => ?_
    have later := alike.after Hive.likeness_eq history
    exact ⟨later.hives, later.raised, later.answer_eq Hive.likeness_eq⟩

/-- A file and a stream of it, then a stream with a byte more than it reports and one without. -/
theorem places_interchangeable_short_stream :
    let headers : Bytes := Signature.file.bytes ++ .ofNumber 2 0 ++ .ofNumber 2 1 ++ .ofNumber 4 92 ++
      .zeros 20 ++ Signature.navigation.bytes ++ .ofNumber 4 60 ++ .ofNumber 4 32 ++ .zeros 48
    let content : Array UInt8 := headers.toArray
    let file : Place := .path "SYSTEM.DAT" (.file content)
    let stream : Place := .stream ⟨content, content.size, 7⟩
    let long : Stream := ⟨content.push 0, content.size, 0⟩
    let cut : Stream := ⟨long.content.extract 0 long.reported, long.reported, 0⟩
    let rest (place : Place) : List Request :=
      [.reading .rootKey, .close, .opening place .read .never, .reading .rootKey]
    let requests : List Request := .opening file .read .never :: rest (.stream long)
    let asked : List Request := .opening stream .read .never :: rest (.stream cut)
    List.Forall₂ (Request.Alike Place.Equal) requests asked ∧
      List.Forall₂ (Record.Agree fun _ => False) (Usage.serveAll {} requests).log
        (Usage.serveAll {} asked).log ∧
      file.Equal stream ∧
      Agree (fun opened found => opened.answer .rootKey = found.answer .rootKey)
        (file.openHive .never) (stream.openHive .never) := by
  intro headers content file stream long cut rest requests asked
  have equal : file.Equal stream := Place.equal_stream (by decide) content 7
  have within : long.reported ≤ long.content.size := by simp [long]
  have paired : List.Forall₂ (Request.Alike Place.Equal) requests asked :=
    .cons (.opening equal .read .never) (.cons (.same _) (.cons (.same _)
      (.cons (.opening (Place.equal_cut within 0) .read .never) (.cons (.same _) .nil))))
  refine ⟨paired, (places_interchangeable.1 paired).1, equal, ?_⟩
  exact (places_interchangeable.2 equal .never).imp fun _ _ alike => (alike []).2.2 .rootKey

end RegistryHive
