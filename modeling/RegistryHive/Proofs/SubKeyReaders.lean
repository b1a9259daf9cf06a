import RegistryHive.Proofs.SiblingChains

namespace RegistryHive

/-- Whether the name of a key can be read, and is not this one. -/
def OtherName (nameOf : Key → Except Error String) (name : String) (key : Key) : Prop :=
  ∃ found, nameOf key = .ok found ∧ Name.same found name = false

/-- What a search for a name comes to in a list of keys, which another error may have cut off: to the first key
with the name, if the names before it can be read; to the error of the first name that cannot; or to the end of
the list, if all keys have other names. -/
inductive NameSearch (nameOf : Key → Except Error String) (name : String) (stop : Option Error) :
    List Key → Except Error Key → Prop where
  | found (others : ∀ other ∈ before, OtherName nameOf name other) (readable : nameOf sub = .ok found)
      (same : Name.same found name = true) :
      NameSearch nameOf name stop (before ++ sub :: behind) (.ok sub)
  | unreadable (others : ∀ other ∈ before, OtherName nameOf name other) {error : Error}
      (failed : nameOf sub = .error error) :
      NameSearch nameOf name stop (before ++ sub :: behind) (.error error)
  | ended (others : ∀ other ∈ keys, OtherName nameOf name other) :
      NameSearch nameOf name stop keys (.error (stop.getD (.notFound "sub key" name)))

namespace NameSearch

variable {nameOf : Key → Except Error String} {name : String} {stop : Option Error} {keys : List Key}
  {result : Except Error Key}

theorem first_found {key : Key} {found : String} (readable : nameOf key = .ok found)
    (same : Name.same found name = true) : NameSearch nameOf name stop (key :: keys) (.ok key) := by
  rw [← List.nil_append (key :: keys)]
  exact .found (by simp) readable same

theorem first_unreadable {key : Key} {error : Error} (failed : nameOf key = .error error) :
    NameSearch nameOf name stop (key :: keys) (.error error) := by
  rw [← List.nil_append (key :: keys)]
  exact .unreadable (by simp) failed

/-- A key of another name before the others changes nothing. -/
theorem cons {key : Key} (search : NameSearch nameOf name stop keys result)
    (other : OtherName nameOf name key) : NameSearch nameOf name stop (key :: keys) result := by
  cases search with
  | @found before sub found behind others readable same =>
    rw [← List.cons_append]
    exact .found (List.forall_mem_cons.mpr ⟨other, others⟩) readable same
  | @unreadable before sub behind others error failed =>
    rw [← List.cons_append]
    exact .unreadable (List.forall_mem_cons.mpr ⟨other, others⟩) failed
  | ended others => exact .ended (List.forall_mem_cons.mpr ⟨other, others⟩)

/-- A search that comes to a key that decides it goes no further. -/
theorem append (search : NameSearch nameOf name stop keys result)
    (decided : ∃ sub ∈ keys, ¬OtherName nameOf name sub) (behind : List Key) (other : Option Error) :
    NameSearch nameOf name other (keys ++ behind) result := by
  cases search with
  | found others readable same =>
    rw [List.append_assoc, List.cons_append]
    exact .found others readable same
  | unreadable others failed =>
    rw [List.append_assoc, List.cons_append]
    exact .unreadable others failed
  | ended others =>
    obtain ⟨sub, member, decides⟩ := decided
    exact absurd (others sub member) decides

/-- Only the names of the keys in the list count. -/
theorem congr {names : Key → Except Error String} (search : NameSearch nameOf name stop keys result)
    (same : ∀ sub ∈ keys, names sub = nameOf sub) : NameSearch names name stop keys result := by
  have others {before : List Key} (within : ∀ other ∈ before, other ∈ keys)
      (others : ∀ other ∈ before, OtherName nameOf name other) :
      ∀ other ∈ before, OtherName names name other := by
    intro other member
    rw [OtherName, same other (within other member)]
    exact others other member
  cases search with
  | found earlier readable equal =>
    refine .found (others (by simp +contextual) earlier) ?_ equal
    rw [same _ (by simp)]
    exact readable
  | unreadable earlier failed =>
    refine .unreadable (others (by simp +contextual) earlier) ?_
    rw [same _ (by simp)]
    exact failed
  | ended all => exact .ended (others (fun _ member => member) all)

end NameSearch

/-- The lookup of a name among the keys that a walk reads. -/
def searchNames (nameOf : Key → Except Error String) (name : String) (chain : Chain) : Except Error Key := do
  match ← chain.visit (fun _ sub => do
      if Name.same (← nameOf sub) name then return .done (some sub) else return .yield none) none with
  | some found => return found
  | none => throw (.notFound "sub key" name)

section

variable {nameOf : Key → Except Error String} {name : String} {stop : Option Error} {key : Key}
  {keys rest : List Key}

theorem searchNames_nil :
    searchNames nameOf name ⟨[], stop⟩ = .error (stop.getD (.notFound "sub key" name)) := by
  cases stop <;> rfl

theorem searchNames_of_found {found : String} (readable : nameOf key = .ok found)
    (same : Name.same found name = true) : searchNames nameOf name ⟨key :: rest, stop⟩ = .ok key := by
  rw [searchNames, Chain.visit_cons _ none key ⟨rest, stop⟩, readable]
  simp only [bind, Except.bind, same, if_true]
  rfl

theorem searchNames_of_unreadable {error : Error} (failed : nameOf key = .error error) :
    searchNames nameOf name ⟨key :: rest, stop⟩ = .error error := by
  rw [searchNames, Chain.visit_cons _ none key ⟨rest, stop⟩, failed]
  rfl

theorem searchNames_of_other (other : OtherName nameOf name key) :
    searchNames nameOf name ⟨key :: rest, stop⟩ = searchNames nameOf name ⟨rest, stop⟩ := by
  obtain ⟨found, readable, differs⟩ := other
  rw [searchNames, Chain.visit_cons _ none key ⟨rest, stop⟩, readable]
  simp only [bind, Except.bind, differs]
  rfl

theorem searchNames_append {before : List Key} (others : ∀ other ∈ before, OtherName nameOf name other) :
    searchNames nameOf name ⟨before ++ rest, stop⟩ = searchNames nameOf name ⟨rest, stop⟩ := by
  induction before with
  | nil => rfl
  | cons key before ih =>
    obtain ⟨here, later⟩ := List.forall_mem_cons.mp others
    rw [List.cons_append, searchNames_of_other here, ih later]

/-- The lookup comes to what the search comes to, and to nothing else. -/
theorem searchNames_eq_iff {result : Except Error Key} :
    searchNames nameOf name ⟨keys, stop⟩ = result ↔ NameSearch nameOf name stop keys result := by
  constructor
  · intro same
    rw [← same]
    induction keys generalizing result with
    | nil =>
      rw [searchNames_nil]
      exact .ended (by simp)
    | cons key rest ih =>
      cases readable : nameOf key with
      | error error =>
        rw [searchNames_of_unreadable readable]
        exact .first_unreadable readable
      | ok found =>
        cases differs : Name.same found name with
        | true =>
          rw [searchNames_of_found readable differs]
          exact .first_found readable differs
        | false =>
          have other : OtherName nameOf name key := ⟨found, readable, differs⟩
          rw [searchNames_of_other other]
          exact (ih rfl).cons other
  · intro search
    cases search with
    | found others readable same => rw [searchNames_append others, searchNames_of_found readable same]
    | unreadable others failed => rw [searchNames_append others, searchNames_of_unreadable failed]
    | ended others =>
      have whole : searchNames nameOf name ⟨keys ++ [], stop⟩ = _ := searchNames_append others
      rwa [List.append_nil, searchNames_nil] at whole

end

/-- Whether an open file is what some history has left of one that was opened. -/
def Opened.Reachable (opened : Opened) : Prop :=
  ∃ (source : Source) (signals : Signals) (raised : Bool) (codepage : Codepage) (hive : Hive)
    (session : Session) (history : List Happening),
    Hive.attach codepage { source, signals, raised } = .ok hive session ∧
      opened = Opened.after ⟨hive, session⟩ history

theorem Opened.Reachable.exists_source {opened : Opened} (reachable : opened.Reachable) :
    ∃ hive source, opened.Follows hive (Source.fetch source) := by
  obtain ⟨source, signals, raised, codepage, hive, session, history, opens, same⟩ := reachable
  rw [same]
  exact ⟨hive, source, (Opened.follows_of_attach opens).after history⟩

theorem Opened.Reachable.follows {opened : Opened} (reachable : opened.Reachable) :
    ∃ hive reads, opened.Follows hive reads := by
  obtain ⟨hive, source, follows⟩ := reachable.exists_source
  exact ⟨hive, source.fetch, follows⟩

section

variable {opened : Opened} {hive : Hive} {reads : Reads} (follows : opened.Follows hive reads)
  (quiet : opened.session.Quiet) {key : Key} {keys : List Key} {stop : Option Error}
  (walk : opened.SubKeyWalk key keys stop)

include follows quiet walk

theorem Opened.Follows.answer_numberOfSubKeys :
    opened.answer (.numberOfSubKeys key) = stop.elim (.ok keys.length) .error := by
  rw [follows.answer_eq quiet, Operation.reading, (follows.subKeyWalk_iff).mp walk]
  cases stop <;> rfl

theorem Opened.Follows.answer_subKeys : opened.answer (.subKeys key) = stop.elim (.ok keys) .error := by
  rw [follows.answer_eq quiet, Operation.reading, (follows.subKeyWalk_iff).mp walk]
  cases stop <;> rfl

theorem Opened.Follows.answer_subKey (index : Nat) :
    opened.answer (.subKey key index) = keys[index]?.elim
      (stop.elim (.error (.invalidArgument "sub_key" (.subKeyIndex index keys.length))) .error) .ok := by
  rw [follows.answer_eq quiet, Operation.reading, (follows.subKeyWalk_iff).mp walk, Chain.get]
  cases keys[index]? with
  | some sub => rfl
  | none => cases stop <;> rfl

theorem Opened.Follows.answer_subKeyByName_iff {name : String} {result : Except Error Key} :
    opened.answer (.subKeyByName key name) = result ↔
      NameSearch (fun sub => opened.answer (.name sub)) name stop keys result := by
  have names : (fun sub => opened.answer (.name sub)) =
      (reads.access opened.hive).name opened.hive.codepage := by
    funext sub
    rw [follows.answer_eq quiet]
    rfl
  rw [names, ← searchNames_eq_iff, ← (follows.subKeyWalk_iff).mp walk, follows.answer_eq quiet]
  exact Iff.rfl

end

/-- Whatever was done with an open file before, the readers of the sub keys of a key agree on the keys that the
walk along the siblings reads, and on what stops it. In another file whose walk begins with the same keys, of
the same names, all that these keys decide is answered the same, whatever comes after them. -/
theorem subKey_readers_agree {now : Opened} (reachable : now.Reachable) (quiet : now.session.Quiet)
    (key : Key) :
    ∃ keys stop, (∀ others other, now.SubKeyWalk key others other ↔ others = keys ∧ other = stop) ∧
      now.answer (.numberOfSubKeys key) = stop.elim (.ok keys.length) .error ∧
      now.answer (.subKeys key) = stop.elim (.ok keys) .error ∧
      (∀ index, now.answer (.subKey key index) = keys[index]?.elim
        (stop.elim (.error (.invalidArgument "sub_key" (.subKeyIndex index keys.length))) .error) .ok) ∧
      (∀ name result, now.answer (.subKeyByName key name) = result ↔
        NameSearch (fun sub => now.answer (.name sub)) name stop keys result) ∧
      ∀ {there : Opened}, there.Reachable → there.session.Quiet →
        ∀ owner others other shared, there.SubKeyWalk owner others other → shared <+: keys →
          shared <+: others → (∀ sub ∈ shared, there.answer (.name sub) = now.answer (.name sub)) →
          (∀ index < shared.length, there.answer (.subKey owner index) = now.answer (.subKey key index)) ∧
          ∀ name, (∃ sub ∈ shared, ¬OtherName (fun sub => now.answer (.name sub)) name sub) →
            there.answer (.subKeyByName owner name) = now.answer (.subKeyByName key name) := by
  obtain ⟨hive, reads, follows⟩ := reachable.follows
  generalize chained : (reads.access now.hive).chain key = chain
  obtain ⟨keys, stop⟩ := chain
  have walk := (follows.subKeyWalk_iff).mpr chained
  have searched (name : String) (result : Except Error Key) :
      now.answer (.subKeyByName key name) = result ↔ _ := follows.answer_subKeyByName_iff quiet walk
  refine ⟨keys, stop, ?_, follows.answer_numberOfSubKeys quiet walk, follows.answer_subKeys quiet walk,
    follows.answer_subKey quiet walk, searched, ?_⟩
  · intro others other
    constructor
    · intro also
      exact also.unique walk
    · intro ⟨same, stopped⟩
      rw [same, stopped]
      exact walk
  · intro there elsewhere calm owner others other shared also ⟨behind, split⟩ ⟨beyond, parted⟩ names
    obtain ⟨_, _, leads⟩ := elsewhere.follows
    constructor
    · intro index before
      rw [leads.answer_subKey calm also, follows.answer_subKey quiet walk, ← split, ← parted,
        List.getElem?_append_left before, List.getElem?_append_left before,
        List.getElem?_eq_getElem before]
      rfl
    · intro name decided
      have search := searchNames_eq_iff.mp (Eq.refl (searchNames (fun sub => now.answer (.name sub)) name
        ⟨shared, none⟩))
      have here := search.append decided behind stop
      have elsewhere := (search.congr names).append ?_ beyond other
      · rw [split] at here
        rw [parted] at elsewhere
        rw [(searched name _).mpr here]
        exact (leads.answer_subKeyByName_iff calm also).mpr elsewhere
      · obtain ⟨sub, member, decides⟩ := decided
        refine ⟨sub, member, ?_⟩
        rwa [OtherName, names sub member]

/-- Two keys that begin their sub keys at the same one. The chain of both is damaged behind it, each at its own
place, and its name cannot be read, as there is no data block. -/
theorem subKey_readers_agree_shared_child :
    let entry (first next : Nat) : Bytes := .zeros 16 ++ .ofNumber 4 first ++ .ofNumber 4 next ++ .zeros 4
    let headers : Bytes := Signature.file.bytes ++ .ofNumber 2 0 ++ .ofNumber 2 1 ++ .ofNumber 4 148 ++
      .zeros 20 ++ Signature.navigation.bytes ++ .ofNumber 4 116 ++ .ofNumber 4 32 ++ .zeros 20
    let source : Source := .mapped
      (headers ++ entry 60 0xFFFFFFFF ++ entry 0xFFFFFFFF 88 ++ entry 60 32).toArray
    let owner : Key := .ofField source.content 32
    let shared : Key := .ofField source.content 60
    let other : Key := .ofField source.content 88
    ∃ hive session, Hive.attach .standard { source } = .ok hive session ∧
      let now := Opened.after ⟨hive, session⟩ [.codepage .ascii]
      now.Reachable ∧ now.session.Quiet ∧
        now.SubKeyWalk other [shared] (some (.invalidFormat (.subKeyCycle 88 88))) ∧
        now.answer (.numberOfSubKeys owner) = .error (.invalidFormat (.subKeyCycle 32 32)) ∧
        now.answer (.subKey owner 1) = .ok other ∧
        now.answer (.subKey owner 2) = .error (.invalidFormat (.subKeyCycle 32 32)) ∧
        now.answer (.subKey other 0) = now.answer (.subKey owner 0) ∧
        ∀ name, now.answer (.subKeyByName other name) = now.answer (.subKeyByName owner name) := by
  intro entry headers source owner shared other
  have honest : source.Honest := .mapped _
  have fit : HeadersFit source.content :=
    ⟨by decide +kernel, by decide +kernel, by decide +kernel, by decide +kernel, by decide +kernel⟩
  have list : BlockList source.content (source.content.number 0x08 4) (.ok []) :=
    .beyond (by decide +kernel)
  obtain ⟨session, opens, quiet⟩ := Hive.exists_attach honest .standard (.blocks fit list)
  let history : List Happening := [.codepage .ascii]
  let now := Opened.after ⟨.ofFields source.content .standard [], session⟩ history
  have follows : now.Follows _ source.fetch := (Opened.follows_of_attach opens).after history
  have later : now.session.Quiet :=
    (Opened.follows_of_attach opens).quiet_after quiet history (by simp [history])
  have reachable : now.Reachable := ⟨source, .never, false, .standard, _, session, history, opens, rfl⟩
  have read (offset : Nat) (whole : Navigation.Holds
      ⟨source.content.number 0x24 4, source.content.number 0x28 4⟩ offset) :
      now.keyAt offset = .ok (.ofField source.content offset) :=
    (follows.keyAt_of_honest honest (Opened.staysIn_after opens history) offset).trans (if_pos whole)
  have first : storedOffset owner.entry.firstSubKey = some 60 := by decide +kernel
  have also : storedOffset other.entry.firstSubKey = some 60 := by decide +kernel
  have second : storedOffset shared.entry.nextSibling = some 88 := by decide +kernel
  have third : storedOffset other.entry.nextSibling = some 32 := by decide +kernel
  have walk : now.SubKeyWalk owner [shared, other] (some (.invalidFormat (.subKeyCycle 32 32))) := by
    rw [Opened.SubKeyWalk, first]
    refine .key (by decide) (read 60 (by decide +kernel)) ?_
    rw [second]
    refine .key (by decide) (read 88 (by decide +kernel)) ?_
    rw [third]
    exact .cycle (by decide)
  have elsewhere : now.SubKeyWalk other [shared] (some (.invalidFormat (.subKeyCycle 88 88))) := by
    rw [Opened.SubKeyWalk, also]
    refine .key (by decide) (read 60 (by decide +kernel)) ?_
    rw [second]
    exact .cycle (by decide)
  have unread : now.answer (.name shared) = .error (.invalidFormat (.blockNumber 0 0)) := by
    rw [follows.answer_eq later]
    rfl
  obtain ⟨keys, stop, unique, number, _, index, _, damage⟩ := subKey_readers_agree reachable later owner
  obtain ⟨same, stopped⟩ := (unique _ _).mp walk
  rw [← same, ← stopped] at number index
  rw [← same] at damage
  obtain ⟨indexed, named⟩ := damage reachable later other [shared] _ [shared] elsewhere ⟨[other], rfl⟩
    (List.prefix_refl _) (fun _ _ => rfl)
  refine ⟨_, session, opens, reachable, later, elsewhere, number, index 1, index 2, indexed 0 Nat.one_pos, ?_⟩
  intro name
  refine named name ⟨shared, by simp, ?_⟩
  intro ⟨_, readable, _⟩
  cases unread.symm.trans readable

end RegistryHive
