import RegistryHive.Proofs.Validation

/-! Chains of siblings. A walk along them reads the entry at one offset after the other until the chain ends,
an offset comes again, or no entry can be read. It ends on every file: there are not more offsets that can have
an entry than the navigation block has bytes. -/
namespace RegistryHive

/-- A walk along siblings from an offset onward: the keys that it reads, and what stops it before the end of the
chain. Their owner is at `owner`, and the offsets that the walk came to before are in `passed`. -/
inductive SiblingWalk (keyAt : Nat → Except Error Key) (owner : Nat) :
    List Nat → Option Nat → List Key → Option Error → Prop where
  | ends (passed : List Nat) : SiblingWalk keyAt owner passed none [] none
  | cycle (repeated : offset ∈ owner :: passed) :
      SiblingWalk keyAt owner passed (some offset) [] (some (.invalidFormat (.subKeyCycle owner offset)))
  | unread (fresh : offset ∉ owner :: passed) (failed : keyAt offset = .error error) :
      SiblingWalk keyAt owner passed (some offset) [] (some error)
  | key (fresh : offset ∉ owner :: passed) (read : keyAt offset = .ok key) {stop : Option Error}
      (rest : SiblingWalk keyAt owner (passed ++ [offset]) (storedOffset key.entry.nextSibling) keys stop) :
      SiblingWalk keyAt owner passed (some offset) (key :: keys) stop

theorem Passed.mem_append {navigation : Navigation} (passed : Passed navigation) {behind : List Nat}
    (same : ∀ offset, offset ∈ behind ↔ offset ∈ passed.offsets) {next : Nat}
    (holds : navigation.Holds next) (offset : Nat) :
    offset ∈ behind ++ [next] ↔ offset ∈ (passed.add next holds).offsets := by
  simp only [List.mem_append, List.mem_singleton, same, Passed.add, Std.TreeSet.mem_insert,
    Nat.compare_eq_eq]
  exact Or.comm.trans (or_congr_left eq_comm)

namespace SiblingWalk

variable {keyAt : Nat → Except Error Key} {owner : Nat} {passed : List Nat} {next : Option Nat}
  {keys others : List Key} {stop other : Option Error}

theorem cons_of_read {offset : Nat} {key : Key} (fresh : offset ∉ owner :: passed)
    (read : keyAt offset = .ok key) (walk : SiblingWalk keyAt owner passed (some offset) keys stop) :
    ∃ later, keys = key :: later ∧
      SiblingWalk keyAt owner (passed ++ [offset]) (storedOffset key.entry.nextSibling) later stop := by
  cases walk with
  | cycle repeated => exact absurd repeated fresh
  | unread _ failed =>
    rw [read] at failed
    cases failed
  | key _ found rest =>
    rw [read] at found
    cases found
    exact ⟨_, rfl, rest⟩

theorem unique (walk : SiblingWalk keyAt owner passed next keys stop)
    (also : SiblingWalk keyAt owner passed next others other) : keys = others ∧ stop = other := by
  induction walk generalizing others other with
  | ends passed =>
    cases also
    exact ⟨rfl, rfl⟩
  | cycle repeated =>
    cases also with
    | cycle _ => exact ⟨rfl, rfl⟩
    | unread fresh _ | key fresh _ _ => exact absurd repeated fresh
  | unread fresh failed =>
    cases also with
    | cycle repeated => exact absurd repeated fresh
    | unread _ also =>
      rw [failed] at also
      cases also
      exact ⟨rfl, rfl⟩
    | key _ read _ =>
      rw [failed] at read
      cases read
  | key fresh read rest ih =>
    obtain ⟨later, listed, following⟩ := cons_of_read fresh read also
    obtain ⟨same, stopped⟩ := ih following
    exact ⟨by rw [listed, same], stopped⟩

/-- The chain that reads give is that of a walk. -/
theorem of_chainFrom (reads : Reads) (navigation : Navigation) (owner : Nat) (passed : Passed navigation)
    (next : Option Nat) (behind : List Nat) (same : ∀ offset, offset ∈ behind ↔ offset ∈ passed.offsets) :
    SiblingWalk (reads.keyAt navigation) owner behind next (reads.chainFrom navigation owner passed next).keys
      (reads.chainFrom navigation owner passed next).failure := by
  induction passed, next using Reads.chainFrom.induct reads navigation owner generalizing behind with
  | case1 passed =>
    rw [Reads.chainFrom]
    exact .ends behind
  | case2 passed offset repeated =>
    rw [Reads.chainFrom, dif_pos repeated]
    exact .cycle (by rwa [List.mem_cons, same])
  | case3 passed offset fresh failed checked =>
    rw [Reads.chainFrom]
    simp only [dif_neg fresh, checked]
    refine .unread (by rwa [List.mem_cons, same]) ?_
    rw [Reads.keyAt, checked]
    rfl
  | case4 passed offset fresh holds checked failed missing =>
    rw [reads.chainFrom_of_holds fresh holds, missing]
    exact .unread (by rwa [List.mem_cons, same]) ((reads.keyAt_of_holds holds).trans missing)
  | case5 passed offset fresh holds checked key found smaller ih =>
    rw [reads.chainFrom_of_holds fresh holds, found]
    dsimp only
    exact .key (by rwa [List.mem_cons, same]) ((reads.keyAt_of_holds holds).trans found)
      (ih _ (passed.mem_append same holds))

/-- Every key has a walk along its sub keys. -/
theorem of_chain (reads : Reads) (navigation : Navigation) (key : Key) :
    SiblingWalk (reads.keyAt navigation) key.offset [] (storedOffset key.entry.firstSubKey)
      (reads.chain navigation key).keys (reads.chain navigation key).failure :=
  of_chainFrom reads navigation key.offset .nothing _ [] (by simp [Passed.nothing])

end SiblingWalk

/-- The key at an offset, as an open file gives it. -/
def Opened.keyAt (opened : Opened) (offset : Nat) : Except Error Key :=
  (opened.hive.keyAt offset).answer opened.session

/-- The walk along all sub keys of a key. -/
abbrev Opened.SubKeyWalk (opened : Opened) (key : Key) : List Key → Option Error → Prop :=
  SiblingWalk opened.keyAt key.offset [] (storedOffset key.entry.firstSubKey)

section

variable {opened : Opened} {hive : Hive} {reads : Reads} (follows : opened.Follows hive reads)

include follows

theorem Opened.Follows.keyAt_eq : opened.keyAt = reads.keyAt opened.hive.navigation := by
  funext offset
  rw [Opened.keyAt, Hive.answer_keyAt, follows.fetched]

/-- The walk is the chain that the file gives, in whatever way it goes. -/
theorem Opened.Follows.subKeyWalk_iff {key : Key} {keys : List Key} {stop : Option Error} :
    opened.SubKeyWalk key keys stop ↔ (reads.access opened.hive).chain key = ⟨keys, stop⟩ := by
  have walk : opened.SubKeyWalk key ((reads.access opened.hive).chain key).keys
      ((reads.access opened.hive).chain key).failure := by
    rw [Opened.SubKeyWalk, follows.keyAt_eq]
    exact .of_chain reads opened.hive.navigation key
  constructor
  · intro also
    obtain ⟨same, stopped⟩ := walk.unique also
    rw [← same, ← stopped]
  · intro same
    rwa [same] at walk

variable (quiet : opened.session.Quiet)

include quiet

theorem Opened.Follows.subKeys_eq_ok {key : Key} {keys : List Key} :
    opened.answer (.subKeys key) = .ok keys ↔ opened.SubKeyWalk key keys none := by
  rw [follows.answer_eq quiet, follows.subKeyWalk_iff]
  exact Chain.whole_eq_ok

theorem Opened.Follows.subKeys_eq_error {key : Key} {error : Error} :
    opened.answer (.subKeys key) = .error error ↔ ∃ keys, opened.SubKeyWalk key keys (some error) := by
  rw [follows.answer_eq quiet]
  simp only [follows.subKeyWalk_iff]
  exact Chain.whole_eq_error

end

/-- The links from an offset onward: the offsets along next siblings, and where they lead on to, if the chain
has not ended. -/
inductive Links (data : Bytes) : Option Nat → List Nat → Option Nat → Prop where
  | here (next : Option Nat) : Links data next [] next
  | next (rest : Links data
      (storedOffset (HierarchyEntry.ofField data (Navigation.absolute offset)).nextSibling) offsets last) :
      Links data (some offset) (offset :: offsets) last

/-- The key whose entry stands at an offset. -/
def Key.ofField (data : Bytes) (offset : Nat) : Key :=
  ⟨offset, .ofField data (Navigation.absolute offset)⟩

/-- Why a chain is left at the offset that it leads on to, after the offsets `seen`. -/
inductive Stops (navigation : Navigation) (owner : Nat) (seen : List Nat) :
    Option Nat → Option Error → Prop where
  | ends : Stops navigation owner seen none none
  | cycle (repeated : offset ∈ seen) :
      Stops navigation owner seen (some offset) (some (.invalidFormat (.subKeyCycle owner offset)))
  | outside (fresh : offset ∉ seen) (outside : ¬navigation.Holds offset) :
      Stops navigation owner seen (some offset) (some (.invalidOffset offset navigation.size))

namespace SiblingWalk

variable {keyAt : Nat → Except Error Key} {data : Bytes} {navigation : Navigation} {owner : Nat}
  {passed : List Nat} {next : Option Nat} {keys : List Key} {stop : Option Error}

theorem extends_distinct {offset : Nat} (distinct : (owner :: passed).Nodup)
    (fresh : offset ∉ owner :: passed) : (owner :: (passed ++ [offset])).Nodup := by
  rw [← List.cons_append]
  refine List.nodup_append.mpr ⟨distinct, by simp, fun earlier member other last same => ?_⟩
  rw [← List.mem_singleton.mp last, ← same] at fresh
  exact fresh member

/-- Where all entries that fit can be read, a walk follows the links as long as they lead to entries that it
has not come to yet. -/
theorem iff_links (read : ∀ offset, keyAt offset =
      if navigation.Holds offset then .ok (.ofField data offset)
      else .error (.invalidOffset offset navigation.size))
    (distinct : (owner :: passed).Nodup) :
    SiblingWalk keyAt owner passed next keys stop ↔ ∃ offsets last, Links data next offsets last ∧
      (∀ offset ∈ offsets, navigation.Holds offset) ∧ (owner :: (passed ++ offsets)).Nodup ∧
      keys = offsets.map (Key.ofField data) ∧
      Stops navigation owner (owner :: (passed ++ offsets)) last stop := by
  constructor
  · intro walk
    induction walk with
    | ends passed => exact ⟨[], none, .here none, by simp, by simpa using distinct, rfl, .ends⟩
    | @cycle passed offset repeated =>
      exact ⟨[], some offset, .here _, by simp, by simpa using distinct, rfl, .cycle (by simpa using repeated)⟩
    | @unread passed offset error fresh failed =>
      by_cases whole : navigation.Holds offset
      · rw [read, if_pos whole] at failed
        cases failed
      · rw [read, if_neg whole] at failed
        cases failed
        exact ⟨[], some offset, .here _, by simp, by simpa using distinct, rfl,
          .outside (by simpa using fresh) whole⟩
    | @key passed offset key keys fresh found stop rest ih =>
      by_cases whole : navigation.Holds offset
      · rw [read, if_pos whole] at found
        cases found
        obtain ⟨offsets, last, links, valid, apart, same, stops⟩ := ih (extends_distinct distinct fresh)
        rw [List.append_assoc, List.singleton_append] at apart stops
        refine ⟨offset :: offsets, last, .next links, ?_, apart, by rw [same, List.map_cons], stops⟩
        exact List.forall_mem_cons.mpr ⟨whole, valid⟩
      · rw [read, if_neg whole] at found
        cases found
  · intro ⟨offsets, last, links, valid, apart, same, stops⟩
    induction links generalizing passed keys with
    | here next =>
      rw [same]
      rw [List.append_nil] at stops
      cases stops with
      | ends => exact .ends passed
      | cycle repeated => exact .cycle repeated
      | outside fresh beyond => exact .unread fresh ((read _).trans (if_neg beyond))
    | @next offset offsets last rest ih =>
      obtain ⟨whole, valid⟩ := List.forall_mem_cons.mp valid
      have fresh : offset ∉ owner :: passed := by
        intro member
        rw [← List.cons_append, List.nodup_append] at apart
        exact apart.2.2 offset member offset List.mem_cons_self rfl
      have joined : passed ++ offset :: offsets = passed ++ [offset] ++ offsets := by simp
      rw [joined] at apart stops
      rw [same, List.map_cons]
      exact .key fresh ((read offset).trans (if_pos whole))
        (ih (extends_distinct distinct fresh) valid apart rfl stops)

end SiblingWalk

/-- A visitor with a ration of keys, which fails when it is shown more. -/
def rationed {β : Type} (visit : β → Key → Action (ForInStep β)) (exhausted : Error) (state : β × Nat)
    (key : Key) : Action (ForInStep (β × Nat)) :=
  match state.2 with
  | 0 => throw exhausted
  | left + 1 => do
    match ← visit state.1 key with
    | .done final => return .done (final, left)
    | .yield following => return .yield (following, left)

/-- An owner, the entries passed and a new one are apart, and between them they take an offset each. -/
theorem Passed.size_add_le {navigation : Navigation} (passed : Passed navigation) {owner offset : Nat}
    (stands : navigation.Holds owner) (apart : owner ∉ passed.offsets) (holds : navigation.Holds offset)
    (fresh : ¬(offset = owner ∨ offset ∈ passed.offsets)) : passed.offsets.size + 61 ≤ navigation.size := by
  obtain ⟨different, unpassed⟩ := not_or.mp fresh
  have distinct : (offset :: owner :: passed.offsets.toList).Nodup := by
    refine List.nodup_cons.mpr ⟨?_, List.nodup_cons.mpr ⟨?_, ?_⟩⟩
    · rw [List.mem_cons, Std.TreeSet.mem_toList]
      exact not_or.mpr ⟨different, unpassed⟩
    · rwa [Std.TreeSet.mem_toList]
    · exact Std.TreeSet.distinct_toList.imp fun apart same => apart (Nat.compare_eq_eq.mpr same)
  have inside : offset :: owner :: passed.offsets.toList ⊆ List.range' 32 (navigation.size - 59) := by
    have within {other : Nat} (whole : navigation.Holds other) :
        other ∈ List.range' 32 (navigation.size - 59) := by
      have low : 32 ≤ other := whole.1
      have high : other + 28 ≤ navigation.size := whole.2
      exact List.mem_range'_1.mpr ⟨low, by omega⟩
    intro other member
    rcases List.mem_cons.mp member with same | member
    · exact same ▸ within holds
    · rcases List.mem_cons.mp member with same | member
      · exact same ▸ within stands
      · exact within (passed.inside other (Std.TreeSet.mem_toList.mp member))
  have count := distinct.length_le_of_subset inside
  rw [List.length_cons, List.length_cons, Std.TreeSet.length_toList, List.length_range'] at count
  have high : offset + 28 ≤ navigation.size := holds.2
  omega

/-- A visitor whose ration is enough for the offsets left never runs out. -/
theorem Hive.walkFrom_rationed {β : Type} (hive : Hive) {owner : Nat} (stands : hive.navigation.Holds owner)
    (visit : β → Key → Action (ForInStep β)) (exhausted : Error) (passed : Passed hive.navigation)
    (next : Option Nat) (state : β) (left : Nat) (apart : owner ∉ passed.offsets)
    (enough : hive.navigation.size ≤ passed.offsets.size + 60 + left) :
    Prod.fst <$> hive.walkFrom owner (rationed visit exhausted) passed next (state, left) =
      hive.walkFrom owner visit passed next state := by
  induction passed, next, state using Hive.walkFrom.induct hive owner generalizing left with
  | case1 passed state =>
    rw [walkFrom, walkFrom]
    rfl
  | case2 passed state offset ih =>
    rw [walkFrom, walkFrom, map_bind]
    refine bind_congr fun _ => ?_
    by_cases repeated : offset = owner ∨ offset ∈ passed.offsets
    · simp only [repeated, dite_true]
      rfl
    · simp only [repeated, dite_false, map_bind]
      refine bind_congr fun inside => bind_congr fun key => ?_
      have room := passed.size_add_le stands apart inside.down repeated
      cases left with
      | zero => omega
      | succ left =>
        simp only [rationed, bind_assoc]
        refine bind_congr fun step => ?_
        cases step with
        | done final => rfl
        | yield following =>
          have grown : (passed.add offset inside.down).offsets.size = passed.offsets.size + 1 := by
            simp [Passed.add, Std.TreeSet.size_insert, (not_or.mp repeated).2]
          refine ih repeated inside.down key following left ?_ (by omega)
          simp only [Passed.add, Std.TreeSet.mem_insert, Nat.compare_eq_eq]
          exact not_or.mpr ⟨(not_or.mp repeated).1, apart⟩

/-- In a file whose size is true, the key at an offset is the entry that stands there, where one fits. -/
theorem Opened.Follows.keyAt_of_honest {opened : Opened} {hive : Hive} {source : Source}
    (follows : opened.Follows hive source.fetch) (honest : source.Honest)
    (stays : opened.hive.StaysIn (endsBy source.size)) (offset : Nat) :
    opened.keyAt offset = if opened.hive.navigation.Holds offset then .ok (.ofField source.content offset)
      else .error (.invalidOffset offset opened.hive.navigation.size) := by
  have fetched : opened.session.source.fetch = source.content.reads := by
    rw [← Source.fetch_of_honest_eq honest, follows.fetched]
  rw [honest.size_eq] at stays
  exact Hive.answer_keyAt_of_staysIn stays fetched offset

/-- In a file whose size is true, the sub keys of a key are listed exactly where the links from its first sub
key end and lead to entries that fit, to none of them twice and not to the key itself. Else the listing fails
where the links first lead anywhere else. On every file a walk shows its visitor no more keys than there are
offsets besides that of the key: with a ration of so many, all visitors fare as without. -/
theorem subKeys_follow_links {source : Source} {signals : Signals} {raised : Bool} {codepage : Codepage}
    {hive : Hive} {session : Session}
    (opens : Hive.attach codepage { source, signals, raised } = .ok hive session)
    (history : List Happening) :
    let now := Opened.after ⟨hive, session⟩ history
    let navigation := now.hive.navigation
    (source.Honest → now.session.Quiet → ∀ key : Key,
      let first := storedOffset key.entry.firstSubKey
      (∀ keys, now.answer (.subKeys key) = .ok keys ↔ ∃ offsets,
        Links source.content first offsets none ∧ (∀ offset ∈ offsets, navigation.Holds offset) ∧
        (key.offset :: offsets).Nodup ∧ keys = offsets.map (Key.ofField source.content)) ∧
      ∀ error, now.answer (.subKeys key) = .error error ↔ ∃ offsets bad,
        Links source.content first offsets (some bad) ∧ (∀ offset ∈ offsets, navigation.Holds offset) ∧
        (key.offset :: offsets).Nodup ∧
        (bad ∈ key.offset :: offsets ∧ error = .invalidFormat (.subKeyCycle key.offset bad) ∨
          bad ∉ key.offset :: offsets ∧ ¬navigation.Holds bad ∧
            error = .invalidOffset bad navigation.size)) ∧
    ∀ {β : Type} (key : Key) (visit : β → Key → Action (ForInStep β)) (start : β) (exhausted : Error),
      navigation.Holds key.offset →
      Prod.fst <$> key.walkSubKeys now.hive (rationed visit exhausted) (start, navigation.size - 60) =
        key.walkSubKeys now.hive visit start := by
  intro now navigation
  have follows := (Opened.follows_of_attach opens).after history
  constructor
  · intro honest quiet key first
    have read := follows.keyAt_of_honest honest (Opened.staysIn_after opens history)
    have linked (keys : List Key) (stop : Option Error) :
        now.SubKeyWalk key keys stop ↔ _ := SiblingWalk.iff_links read (by simp)
    constructor
    · intro keys
      rw [follows.subKeys_eq_ok quiet, linked]
      constructor
      · intro ⟨offsets, last, links, valid, distinct, same, stops⟩
        cases stops
        exact ⟨offsets, links, valid, distinct, same⟩
      · intro ⟨offsets, links, valid, distinct, same⟩
        exact ⟨offsets, none, links, valid, distinct, same, .ends⟩
    · intro error
      rw [follows.subKeys_eq_error quiet]
      constructor
      · intro ⟨keys, walk⟩
        obtain ⟨offsets, last, links, valid, distinct, _, stops⟩ := (linked keys (some error)).mp walk
        cases stops with
        | @cycle bad repeated => exact ⟨offsets, bad, links, valid, distinct, .inl ⟨repeated, rfl⟩⟩
        | @outside bad fresh beyond =>
          exact ⟨offsets, bad, links, valid, distinct, .inr ⟨fresh, beyond, rfl⟩⟩
      · intro ⟨offsets, bad, links, valid, distinct, reason⟩
        refine ⟨_, (linked _ _).mpr ⟨offsets, some bad, links, valid, distinct, rfl, ?_⟩⟩
        rcases reason with ⟨repeated, same⟩ | ⟨fresh, beyond, same⟩
        · rw [same]
          exact .cycle repeated
        · rw [same]
          exact .outside fresh beyond
  · intro β key visit start exhausted stands
    exact now.hive.walkFrom_rationed stands visit exhausted .nothing _ start _ (by simp [Passed.nothing])
      (by simp [Passed.nothing, navigation]; omega)

/-- A key that is its own first sub key. -/
theorem subKeys_follow_links_own_child :
    let entry : Bytes := .zeros 16 ++ .ofNumber 4 32 ++ .ofNumber 4 0xFFFFFFFF ++ .zeros 4
    let headers : Bytes := Signature.file.bytes ++ .ofNumber 2 0 ++ .ofNumber 2 1 ++ .ofNumber 4 92 ++
      .zeros 20 ++ Signature.navigation.bytes ++ .ofNumber 4 60 ++ .ofNumber 4 32 ++ .zeros 20
    let source : Source := .mapped (headers ++ entry).toArray
    let key : Key := .ofField source.content 32
    let visit (count : Nat) (_ : Key) : Action (ForInStep Nat) := return .yield (count + 1)
    source.Honest ∧ ∃ hive session, Hive.attach .standard { source } = .ok hive session ∧
      let now := Opened.after ⟨hive, session⟩ [.codepage .ascii]
      now.session.Quiet ∧ now.hive.navigation.Holds key.offset ∧
        now.answer (.subKeys key) = .error (.invalidFormat (.subKeyCycle 32 32)) ∧
        Prod.fst <$> key.walkSubKeys now.hive (rationed visit (.aborted ""))
          (0, now.hive.navigation.size - 60) = key.walkSubKeys now.hive visit 0 := by
  intro entry headers source key visit
  have honest : source.Honest := .mapped _
  have fit : HeadersFit source.content :=
    ⟨by decide +kernel, by decide +kernel, by decide +kernel, by decide +kernel, by decide +kernel⟩
  have list : BlockList source.content (source.content.number 0x08 4) (.ok []) :=
    .beyond (by decide +kernel)
  have first : storedOffset key.entry.firstSubKey = some 32 := by decide +kernel
  obtain ⟨session, opens, quiet⟩ := Hive.exists_attach honest .standard (.blocks fit list)
  let history : List Happening := [.codepage .ascii]
  have later := (Opened.follows_of_attach opens).quiet_after quiet history (by simp [history])
  have holds : Navigation.Holds ⟨source.content.number 0x24 4, source.content.number 0x28 4⟩ 32 := by
    decide +kernel
  obtain ⟨listing, bounded⟩ := subKeys_follow_links opens history
  refine ⟨honest, _, session, opens, later, holds, ?_, bounded key visit 0 (.aborted "") holds⟩
  refine ((listing honest later key).2 _).mpr
    ⟨[], 32, ?_, by simp, by simp, .inl ⟨List.mem_singleton.mpr rfl, rfl⟩⟩
  rw [first]
  exact .here _

end RegistryHive
