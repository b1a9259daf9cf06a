import RegistryHive.Proofs.Building
import RegistryHive.Proofs.RoundTrip

namespace RegistryHive

/-- The operations on the hierarchy, and how their values belong to the keys that they build, where `walk`
is the walk along the sub keys of a key. -/
inductive Operation.OnHierarchy (walk : Key → List Key → Option Error → Prop) :
    {α : Type} → Operation α → (α → List Key → Prop) → Prop where
  | rootKey : OnHierarchy walk .rootKey fun key built => built = [key]
  | parent (key : Key) : OnHierarchy walk (.parent key) fun owner built => built = owner.toList
  | numberOfSubKeys (key : Key) :
      OnHierarchy walk (.numberOfSubKeys key) fun count built =>
        built.length = count ∧ walk key built none
  | subKey (key : Key) (index : Nat) :
      OnHierarchy walk (.subKey key index) fun sub built =>
        built.length = index + 1 ∧ built[index]? = some sub ∧
          ∃ keys stop, walk key keys stop ∧ built <+: keys
  | subKeys (key : Key) :
      OnHierarchy walk (.subKeys key) fun keys built => built = keys ∧ walk key keys none

/-- The operations on the name and the values of a key. -/
inductive Operation.OnRecord : {α : Type} → Operation α → Key → Prop where
  | name (key : Key) : OnRecord (.name key) key
  | numberOfValues (key : Key) : OnRecord (.numberOfValues key) key
  | value (key : Key) (index : Nat) : OnRecord (.value key index) key
  | values (key : Key) : OnRecord (.values key) key
  | valueByName (key : Key) (wanted : String) : OnRecord (.valueByName key wanted) key

namespace Operation

open RegistryHive.Action

variable {hive : Hive} {reads : Reads} {walk : Key → List Key → Option Error → Prop}
  (walks : ∀ key keys stop, walk key keys stop ↔ SiblingWalk (reads.keyAt hive.navigation) key.offset []
    (storedOffset key.entry.firstSubKey) keys stop)

include walks

theorem building_subKey (key : Key) (index : Nat) :
    Building hive reads
      (fun sub built => built.length = index + 1 ∧ built[index]? = some sub ∧
        ∃ keys stop, walk key keys stop ∧ built <+: keys)
      (key.subKey hive index) := by
  have visitor : (fun (state : Nat × Option Key) (sub : Key) =>
      (if state.1 = index then return .done (state.1, some sub)
        else return .yield (state.1 + 1, none) : Action (ForInStep (Nat × Option Key)))) =
      fun state sub => return Shown.stopAt index state sub := by
    funext state sub
    unfold Shown.stopAt
    split <;> rfl
  unfold Key.subKey
  rw [visitor]
  apply (Building.walkSubKeys key (Shown.stopAt index) (0, none)).bind
  intro found
  split
  · rename_i count sub
    refine Building.pure fun built shown => ?_
    obtain ⟨length, listed⟩ := Shown.of_stopAt shown (Nat.zero_le index)
    rw [List.append_nil]
    have along := SiblingWalk.of_chain reads hive.navigation key
    exact ⟨by omega, listed, _, _, (walks ..).mpr along, shown.isPrefix along⟩
  · exact Building.throw _

/-- Operations on the hierarchy do no more than build keys. -/
theorem OnHierarchy.building {α : Type} {operation : Operation α} {lists : α → List Key → Prop}
    (on : operation.OnHierarchy walk lists) : Building hive reads lists (operation.run hive) := by
  cases on with
  | rootKey =>
    change Building hive reads _ hive.rootKey
    unfold Hive.rootKey
    split
    · exact Building.throw _
    · exact Building.keyAt _
  | parent key =>
    change Building hive reads _ (key.parent hive)
    unfold Key.parent
    split
    · exact Building.pure rfl
    · apply (Building.keyAt _).bind
      intro owner
      refine Building.pure fun earlier same => ?_
      rw [same]
      rfl
  | numberOfSubKeys key =>
    apply (Building.walkSubKeys key (fun count _ => .yield (count + 1)) 0).imp
    intro count built shown
    refine ⟨?_, (walks ..).mpr shown.walk_of_yield⟩
    rw [← shown.foldl_eq, Chain.foldl_count, Nat.zero_add]
  | subKey key index => exact building_subKey walks key index
  | subKeys key =>
    apply (Building.walkSubKeys key (fun found sub => .yield (sub :: found)) []).bind
    intro found
    refine Building.pure fun built shown => ?_
    have listed : built = found.reverse := by
      rw [← shown.foldl_eq, Chain.foldl_cons_reverse, List.append_nil, List.reverse_reverse]
    rw [List.append_nil, ← listed]
    exact ⟨rfl, (walks ..).mpr shown.walk_of_yield⟩

end Operation

/-- A request for the key name entry of a key makes no read but that of its data block. -/
theorem Hive.reads_of_nameEntry (hive : Hive) (key : Key) (session : Session) :
    let reads := ((hive.nameEntry key).after session).since session
    reads = [] ∨ ∃ location header, key.entry.location = some location ∧
      hive.dataBlocks[location.block]? = some header ∧
      reads = [.read header.dataOffset header.dataSize] := by
  have nothing : session.since session = [] := Session.since_eq rfl
  unfold nameEntry
  cases located : key.entry.location with
  | none => exact .inl nothing
  | some location =>
    dsimp only
    rw [Action.after_bind_still fun _ _ => rfl]
    have asked : ((hive.nameEntryAt location).after session).trace = session.trace ∨
        ((hive.nameEntryAt location).after session).trace =
          ((hive.dataBlock location.block).after session).trace := by
      rcases hive.after_nameEntryAt_cases location session with still | same | ⟨_, entry, filled⟩
      · exact .inl (by rw [still])
      · exact .inr (by rw [same])
      · exact .inr (by rw [filled])
    unfold Session.since
    rcases asked with still | same
    · left
      rw [still]
      exact nothing
    · rw [same]
      have made : Call.Made hive session _ ((hive.dataBlock location.block).after session) :=
        .block location.block
      rcases made.reads_of_block with none | ⟨header, listed, read⟩
      · exact .inl none
      · exact .inr ⟨location, header, rfl, listed, read⟩

namespace Operation

/-- Operations on the name and the values of a key do nothing but ask for its key name entry. -/
theorem OnRecord.after_run {α : Type} {operation : Operation α} {key : Key} (on : operation.OnRecord key)
    (hive : Hive) (session : Session) :
    (operation.run hive).after session = (hive.nameEntry key).after session := by
  have asked {β : Type} (next : Option KeyNameEntry → Action β)
      (still : ∀ found session, (next found).after session = session) :
      (hive.nameEntry key >>= next).after session = (hive.nameEntry key).after session :=
    Action.after_bind_still still session
  cases on with
  | name =>
    refine asked _ fun found session => ?_
    cases found <;> rfl
  | numberOfValues =>
    exact (Action.after_bind_still (fun _ _ => rfl) session).trans (asked _ fun _ _ => rfl)
  | value _ index =>
    exact (Action.after_bind_still (fun _ _ => Action.after_ofExcept _ _) session).trans
      (asked _ fun _ _ => Action.after_ofExcept _ _)
  | values =>
    exact (Action.after_bind_still (fun _ _ => Action.after_ofExcept _ _) session).trans
      (asked _ fun _ _ => rfl)
  | valueByName _ wanted =>
    exact (Action.after_bind_still (fun _ _ => Action.after_ofExcept _ _) session).trans
      (asked _ fun _ _ => Action.after_ofExcept _ _)

end Operation

/-- In every history of an open file: a data block that was read and indexed is read by no later request for
it, within the same operation or another one. Operations on the hierarchy leave the caches alone and read one
entry for each key that they build: all of the chain to list or count the sub keys, and its beginning to find
the sub key at a place. Those on the name and the values of a key read its data block at most. -/
theorem operations_read_lazily {source : Source} {signals : Signals} {raised : Bool}
    {codepage : Codepage} {hive : Hive} {session : Session}
    (opens : Hive.attach codepage { source, signals, raised } = .ok hive session)
    (history : List Happening) :
    let now := Opened.after ⟨hive, session⟩ history
    (∃ calls, Calls hive session calls now.session) ∧
    (∀ calls, Calls hive session calls now.session →
      now.session.trace = calls.flatMap Call.events ++ session.trace ∧
      ∀ later number block reads earlier, calls = later ++ .block number (.ok block) reads :: earlier →
        ∀ found again, .block number found again ∈ later → found = .ok block ∧ again = []) ∧
    (∀ {α : Type} {operation : Operation α} {lists : α → List Key → Prop},
      operation.OnHierarchy now.SubKeyWalk lists →
      let result := (operation.run now.hive).answer now.session
      let after := (operation.run now.hive).after now.session
      after.blocks = now.session.blocks ∧ after.entries = now.session.entries ∧
      ∃ built, (∀ key ∈ built, Reads.readKey source.fetch key.offset = .ok key) ∧
        EntryReads source.fetch built result ((after.since now.session).filter Event.isRead) ∧
        ∀ value, result = .ok value → lists value built) ∧
    ∀ {α : Type} {operation : Operation α} {key : Key}, operation.OnRecord key →
      let reads := ((operation.run now.hive).after now.session).since now.session
      reads = [] ∨ ∃ location header, key.entry.location = some location ∧
        now.hive.dataBlocks[location.block]? = some header ∧
        reads = [.read header.dataOffset header.dataSize] := by
  intro now
  have begun := Opened.follows_of_attach opens
  have follows := begun.after history
  obtain ⟨made, calling⟩ := begun.calls_after history
  have size : session.source.size = source.size := by
    have same := congrArg (·.source.size) (Hive.store_of_attach opens)
    simpa [Session.store] using same
  have within (history : List Happening) :
      (Opened.after ⟨hive, session⟩ history).hive.StaysIn (endsBy session.source.size) := by
    rw [size]
    exact Opened.staysIn_after opens history
  refine ⟨⟨made, calling⟩, ?_, ?_, ?_⟩
  · intro calls made
    refine ⟨made.trace_eq (within []), ?_⟩
    intro later number block reads earlier split found again member
    rw [split] at made
    exact made.read_once member
  · intro α operation lists on
    have stays : now.hive.StaysIn (endsBy now.session.source.size) := by
      rw [calling.continues.size]
      exact within history
    have walks (key : Key) (keys : List Key) (stop : Option Error) :
        now.SubKeyWalk key keys stop ↔ SiblingWalk (Reads.keyAt source.fetch now.hive.navigation)
          key.offset [] (storedOffset key.entry.firstSubKey) keys stop := by
      rw [Opened.SubKeyWalk, follows.keyAt_eq]
    have building := on.building walks
    rw [← follows.fetched]
    exact BuildsTo.reads (building now.session follows.fetched) stays
  · intro α operation key on
    rw [on.after_run]
    exact now.hive.reads_of_nameEntry key now.session

/-- The only sub key of a root key, listed after its name was read. -/
theorem operations_read_lazily_one_key :
    let keys : Siblings := .cons (some ⟨[0x61], []⟩) .nil .nil
    let source : Source := .mapped (keys.toBytes 1).toArray
    ∃ hive session, Hive.attach .standard { source } = .ok hive session ∧ ∃ root key,
      let now := Opened.after ⟨hive, session⟩ [.operation (.name key)]
      let after := ((Operation.subKeys root).run now.hive).after now.session
      now.Gives (.subKeys root) [key] ∧ (∃ calls, Calls hive session calls now.session) ∧
        after.blocks = now.session.blocks ∧ after.entries = now.session.entries ∧
        (after.since now.session).filter Event.isRead = [.entry key.offset] := by
  intro keys source
  have record : KeyRecord.Fits ⟨[0x61], []⟩ := KeyRecord.fits_of_name (by decide)
  obtain ⟨hive, session, opens, quiet, root, listed, _, shown, shows⟩ :=
    Siblings.exists_attached (Siblings.fits_single record (by decide)) .standard
  cases shows with
  | @cons key _ _ _ _ _ _ here below after =>
    cases after
    let history : List Happening := [.operation (.name key)]
    have later := (Opened.follows_of_attach opens).quiet_after quiet history (by simp [history])
    obtain ⟨called, _, hierarchy, _⟩ := operations_read_lazily opens history
    obtain ⟨blocks, entries, built, _, reads, lists⟩ := hierarchy (.subKeys root)
    have gives := shown.subKeys history later
    refine ⟨hive, session, opens, root, key, gives, called, blocks, entries, ?_⟩
    obtain ⟨same, _⟩ := lists [key] gives
    rw [same] at reads
    generalize List.filter Event.isRead _ = events at reads ⊢
    cases reads with
    | all => rfl
    | unread failed ends =>
      rw [gives] at ends
      cases ends

end RegistryHive
