import RegistryHive.Proofs.Opening
import RegistryHive.Proofs.Operation
import RegistryHive.Proofs.Parsing

namespace RegistryHive

/-- Whether a result that is an error is one of these kinds. -/
def FailsAs {α : Type} (kinds : ErrorKind → Prop) (result : Except Error α) : Prop :=
  ∀ error, result = .error error → kinds error.kind

variable {α β : Type} {kinds : ErrorKind → Prop}

namespace FailsAs

theorem ok (value : α) : FailsAs kinds (.ok value) := by
  intro error failed
  cases failed

theorem error {error : Error} (allowed : kinds error.kind) :
    FailsAs kinds (.error error : Except Error α) := by
  intro other failed
  cases failed
  exact allowed

theorem bind {result : Except Error α} {next : α → Except Error β} (first : FailsAs kinds result)
    (rest : ∀ value, result = .ok value → FailsAs kinds (next value)) :
    FailsAs kinds (result >>= next) := by
  cases result with
  | ok value => exact rest value rfl
  | error error => exact FailsAs.error (first error rfl)

theorem map {result : Except Error α} (first : FailsAs kinds result) (change : α → β) :
    FailsAs kinds (result.map change) := by
  cases result with
  | ok value => exact FailsAs.ok _
  | error error => exact FailsAs.error (first error rfl)

theorem require {condition : Prop} [Decidable condition] {error : Error}
    (allowed : kinds error.kind) : FailsAs kinds (require condition error) := by
  unfold RegistryHive.require
  split
  · exact FailsAs.ok ()
  · exact FailsAs.error allowed

end FailsAs

section Parsers

variable (corrupt : kinds .corruptData)

include corrupt

theorem Bytes.failsAs_numberAt (data : Bytes) (offset width : Nat) :
    FailsAs kinds (data.numberAt offset width) := by
  unfold numberAt
  dsimp only
  split
  · exact .ok _
  · exact .error corrupt

theorem Signature.failsAs_check (header : kinds .corruptHeader) (signature : Signature)
    (data : Bytes) : FailsAs kinds (signature.check data) := by
  unfold check
  split
  · exact .error corrupt
  · split
    · exact .ok ()
    · exact .error header

theorem FileHeader.failsAs_parse (header : kinds .corruptHeader) (data : Bytes) :
    FailsAs kinds (parse data) := by
  refine .bind (.require corrupt) fun _ _ => ?_
  refine .bind (Signature.failsAs_check corrupt header _ _) fun _ _ => ?_
  refine .bind (Bytes.failsAs_numberAt corrupt _ _ _) fun minor _ => ?_
  refine .bind (Bytes.failsAs_numberAt corrupt _ _ _) fun major _ => ?_
  refine .bind (Bytes.failsAs_numberAt corrupt _ _ _) fun start _ => ?_
  exact .bind (Bytes.failsAs_numberAt corrupt _ _ _) fun count _ => .ok _

theorem Navigation.failsAs_parse (header : kinds .corruptHeader) (data : Bytes) :
    FailsAs kinds (parse data) := by
  refine .bind (.require corrupt) fun _ _ => ?_
  refine .bind (Signature.failsAs_check corrupt header _ _) fun _ _ => ?_
  refine .bind (Bytes.failsAs_numberAt corrupt _ _ _) fun size _ => ?_
  refine .bind (Bytes.failsAs_numberAt corrupt _ _ _) fun root _ => ?_
  exact .bind (.require corrupt) fun _ _ => .ok _

theorem BlockHeader.failsAs_parse (header : kinds .corruptHeader) (data : Bytes) (offset : Nat) :
    FailsAs kinds (parse data offset) := by
  refine .bind (.require corrupt) fun _ _ => ?_
  refine .bind (Signature.failsAs_check corrupt header _ _) fun _ _ => ?_
  refine .bind (Bytes.failsAs_numberAt corrupt _ _ _) fun size _ => ?_
  split
  · refine .bind (Bytes.failsAs_numberAt corrupt _ _ _) fun unusedSize _ => ?_
    refine .bind (Bytes.failsAs_numberAt corrupt _ _ _) fun index _ => ?_
    exact .bind (Bytes.failsAs_numberAt corrupt _ _ _) fun usedSize _ => .ok _
  · exact .error corrupt

theorem HierarchyEntry.failsAs_parse (data : Bytes) (offset : Nat) :
    FailsAs kinds (parse data offset) := by
  refine .bind (.require corrupt) fun _ _ => ?_
  refine .bind (Bytes.failsAs_numberAt corrupt _ _ _) fun nameHash _ => ?_
  refine .bind (Bytes.failsAs_numberAt corrupt _ _ _) fun parent _ => ?_
  refine .bind (Bytes.failsAs_numberAt corrupt _ _ _) fun firstSubKey _ => ?_
  refine .bind (Bytes.failsAs_numberAt corrupt _ _ _) fun nextSibling _ => ?_
  refine .bind (Bytes.failsAs_numberAt corrupt _ _ _) fun entryNumber _ => ?_
  exact .bind (Bytes.failsAs_numberAt corrupt _ _ _) fun blockNumber _ => .ok _

theorem ValueEntry.failsAs_parse (data : Bytes) (offset : Nat) :
    FailsAs kinds (parse data offset) := by
  rw [parse_eq]
  split
  · split
    · exact .ok _
    · exact .error corrupt
  · exact .error corrupt

/-- No value is longer than the bytes it was read from, so the next one is looked for among them. -/
theorem ValueEntry.failsAs_parseAll (data : Bytes) (offset : Nat) (found : List ValueEntry)
    (count : Nat) : FailsAs kinds (parseAll data offset found count) := by
  induction count generalizing data offset found with
  | zero => exact .ok _
  | succ count ih =>
    refine .bind (failsAs_parse corrupt data offset) fun entry parsed => ?_
    have inside := size_le_of_parse parsed
    rw [Bytes.skip_of_le inside]
    exact ih _ _ _

theorem KeyNameEntry.failsAs_parse (data : Bytes) (offset : Nat) :
    FailsAs kinds (parse data offset) := by
  rw [parse_eq]
  repeat' split
  · exact .map (ValueEntry.failsAs_parseAll corrupt _ _ _ _) _
  all_goals exact .error corrupt

theorem DataBlock.failsAs_cut (header : BlockHeader) (limit position : Nat) (rest : Bytes)
    (found : List BlockEntry) :
    FailsAs kinds (cut header limit position rest.length rest found) := by
  rw [cut_eq]
  split
  · split
    · exact failsAs_cut header limit _ (rest.drop (rest.number 0 4)) _
    · exact .error corrupt
  · exact .ok _
termination_by rest.length
decreasing_by
  rw [List.length_drop]
  omega

theorem DataBlock.failsAs_ofData (header : BlockHeader) (data : Bytes) :
    FailsAs kinds (ofData header data) :=
  .bind (failsAs_cut corrupt _ _ _ _ _) fun _ _ => .ok _

theorem Navigation.failsAs_checkEntry (navigation : Navigation) (offset : Nat) :
    FailsAs kinds (navigation.checkEntry offset) := by
  by_cases holds : navigation.Holds offset
  · rw [checkEntry, dif_pos holds]
    exact .ok _
  · rw [checkEntry, dif_neg holds]
    exact .error corrupt

theorem failsAs_integerBytes (bits : Nat) (data : Bytes) (offset : Nat) :
    FailsAs kinds (integerBytes bits data offset) := by
  unfold integerBytes
  dsimp only
  split
  · exact .error corrupt
  · split
    · exact .error corrupt
    · exact .ok _

theorem ValueData.failsAs_parse (data : Bytes) (type : ValueType) (codepage : Codepage)
    (offset : Nat) : FailsAs kinds (parse data type codepage offset) := by
  unfold parse
  split
  · exact .ok _
  · cases type with
    | dword | dwordBigEndian | qword =>
      exact .map (.map (failsAs_integerBytes corrupt _ _ _) _) _
    | _ => exact .ok _

end Parsers

/-- What is not there to be read is corrupt data, or a read that failed. -/
theorem Source.failsAs_fetch (corrupt : kinds .corruptData) (io : kinds .io) (source : Source)
    (offset length : Nat) : FailsAs kinds (source.fetch offset length) := by
  cases source with
  | mapped content =>
    simp only [fetch, read]
    split
    · exact .ok _
    · exact .error corrupt
  | stream attached =>
    rw [fetch_stream]
    split
    · split
      · exact .ok _
      · exact .error io
    · exact .error corrupt
  | reader attached =>
    rw [fetch_reader]
    split
    · unfold Reader.read
      split
      · exact .ok _
      · exact .error io
    · exact .error corrupt

namespace Reads

variable {reads : Reads} (read : ∀ offset length, FailsAs kinds (reads offset length))
  (corrupt : kinds .corruptData)

include read corrupt

theorem failsAs_readKey (offset : Nat) : FailsAs kinds (reads.readKey offset) := by
  refine .bind (read _ _) fun data _ => ?_
  exact .bind (HierarchyEntry.failsAs_parse corrupt _ _) fun entry _ => .ok _

theorem failsAs_keyAt (navigation : Navigation) (offset : Nat) :
    FailsAs kinds (reads.keyAt navigation offset) :=
  .bind (navigation.failsAs_checkEntry corrupt offset) fun _ _ => failsAs_readKey read corrupt offset

theorem failsAs_dataBlock (headers : List BlockHeader) (number : Nat) :
    FailsAs kinds (reads.dataBlock headers number) := by
  unfold dataBlock
  split
  · exact .error corrupt
  · exact .bind (read _ _) fun data _ => DataBlock.failsAs_ofData corrupt _ _

theorem failsAs_nameEntryAt (headers : List BlockHeader) (location : Location) :
    FailsAs kinds (reads.nameEntryAt headers location) := by
  refine .bind (failsAs_dataBlock read corrupt headers location.block) fun block _ => ?_
  split
  · exact .error corrupt
  · exact KeyNameEntry.failsAs_parse corrupt _ _

theorem failsAs_nameEntry (headers : List BlockHeader) (key : Key) :
    FailsAs kinds (reads.nameEntry headers key) := by
  unfold nameEntry
  split
  · exact .ok _
  · exact .map (failsAs_nameEntryAt read corrupt headers _) _

theorem failsAs_chainFrom (navigation : Navigation) (owner : Nat) (passed : Passed navigation)
    (next : Option Nat) (error : Error)
    (broken : (reads.chainFrom navigation owner passed next).failure = some error) :
    kinds error.kind := by
  induction passed, next using Reads.chainFrom.induct reads navigation owner with
  | case1 passed =>
    rw [chainFrom] at broken
    cases broken
  | case2 passed offset repeated =>
    rw [chainFrom] at broken
    simp only [dif_pos repeated] at broken
    cases broken
    exact corrupt
  | case3 passed offset fresh failed checked =>
    rw [chainFrom] at broken
    simp only [dif_neg fresh, checked] at broken
    cases broken
    exact navigation.failsAs_checkEntry corrupt offset _ checked
  | case4 passed offset fresh holds checked failed missing =>
    rw [chainFrom_of_holds reads fresh holds, missing] at broken
    cases broken
    exact failsAs_readKey read corrupt offset _ missing
  | case5 passed offset fresh holds checked key found smaller ih =>
    rw [chainFrom_of_holds reads fresh holds, found] at broken
    exact ih broken

theorem failsAs_scan (header : kinds .corruptHeader) (size offset : Nat) (found : List BlockHeader) :
    FailsAs kinds (reads.scan size offset found) := by
  induction offset, found using Reads.scan.induct size with
  | case1 offset found before held ih =>
    rw [scan]
    simp only [before, held, if_true]
    refine .bind (read _ _) fun data _ => ?_
    split
    · refine .bind (BlockHeader.failsAs_parse corrupt header data offset) fun block _ => ?_
      exact .bind (.require corrupt) fun _ _ => ih block
    · exact .bind (.require corrupt) fun _ _ => .ok _
  | case2 offset found before short =>
    rw [scan]
    simp only [before, short, if_true, if_false]
    exact .ok _
  | case3 offset found past =>
    rw [scan]
    simp only [past, if_false]
    exact .ok _

theorem failsAs_attach (header : kinds .corruptHeader) (size : Nat) (codepage : Codepage) :
    FailsAs kinds (reads.attach size codepage) := by
  refine .bind (read _ _) fun data _ => ?_
  refine .bind (FileHeader.failsAs_parse corrupt header _) fun fileHeader _ => ?_
  refine .bind (read _ _) fun data _ => ?_
  refine .bind (Navigation.failsAs_parse corrupt header _) fun navigation _ => ?_
  refine .bind (.require corrupt) fun _ _ => ?_
  exact .bind (failsAs_scan read corrupt header _ _ _) fun dataBlocks _ => .ok _

end Reads

/-- Whether all that operations go back to fails with these kinds of errors only. -/
structure Access.FailAs (kinds : ErrorKind → Prop) (access : Access) : Prop where
  rootKey : FailsAs kinds access.rootKey
  parent : ∀ key, FailsAs kinds (access.parent key)
  chain : ∀ key error, (access.chain key).failure = some error → kinds error.kind
  nameEntry : ∀ key, FailsAs kinds (access.nameEntry key)

theorem Reads.failAs_access {reads : Reads}
    (read : ∀ offset length, FailsAs kinds (reads offset length)) (corrupt : kinds .corruptData)
    (hive : Hive) : (reads.access hive).FailAs kinds where
  rootKey := by
    simp only [access, rootKey]
    split
    · exact .error corrupt
    · exact failsAs_keyAt read corrupt _ _
  parent key := by
    simp only [access, parent]
    split
    · exact .ok _
    · exact .map (failsAs_keyAt read corrupt _ _) _
  chain key := failsAs_chainFrom read corrupt _ _ _ _
  nameEntry := failsAs_nameEntry read corrupt _

namespace Chain

variable {chain : Chain} (broken : ∀ error, chain.failure = some error → kinds error.kind)

include broken

theorem failsAs_whole : FailsAs kinds chain.whole := by
  unfold whole
  split
  · exact .ok _
  · rename_i error failed
    exact .error (broken error failed)

theorem failsAs_visit {visit : β → Key → Except Error (ForInStep β)}
    (visits : ∀ state key, FailsAs kinds (visit state key)) (start : β) :
    FailsAs kinds (chain.visit visit start) := by
  obtain ⟨keys, failure⟩ := chain
  induction keys generalizing start with
  | nil =>
    cases failure with
    | none => exact .ok _
    | some error => exact .error (broken error rfl)
  | cons key rest ih =>
    refine .bind (visits start key) fun step _ => ?_
    cases step with
    | done final => exact .ok _
    | yield following => exact ih following broken

theorem failsAs_get (argument : kinds .invalidArgument) (index : Nat) :
    FailsAs kinds (chain.get index) := by
  unfold get
  split
  · exact .ok _
  · rename_i error _ failed
    exact .error (broken error failed)
  · exact .error argument

end Chain

namespace ValueEntry

variable (mistyped : kinds .valueType) (value : ValueEntry)

include mistyped

theorem failsAs_number32 (corrupt : kinds .corruptData) : FailsAs kinds value.number32 := by
  unfold number32
  split
  · exact .map (failsAs_integerBytes corrupt _ _ _) _
  · exact .map (failsAs_integerBytes corrupt _ _ _) _
  · exact .error mistyped

theorem failsAs_number64 (corrupt : kinds .corruptData) : FailsAs kinds value.number64 := by
  unfold number64
  split
  · exact .map (failsAs_integerBytes corrupt _ _ _) _
  · exact .error mistyped

theorem failsAs_text (codepage : Codepage) : FailsAs kinds (value.text codepage) := by
  unfold text
  split
  · exact .ok _
  · exact .error mistyped

theorem failsAs_binary : FailsAs kinds value.binary := by
  unfold binary
  split
  · exact .ok _
  · exact .error mistyped

end ValueEntry

theorem Getter.failsAs_read (corrupt : kinds .corruptData) (mistyped : kinds .valueType)
    (getter : Getter α) (entry : ValueEntry) (codepage : Codepage) :
    FailsAs kinds (getter.read entry codepage) := by
  cases getter with
  | parsed => exact ValueData.failsAs_parse corrupt _ _ codepage _
  | number32 => exact entry.failsAs_number32 mistyped corrupt
  | number64 => exact entry.failsAs_number64 mistyped corrupt
  | text => exact entry.failsAs_text mistyped codepage
  | binary => exact entry.failsAs_binary mistyped
  | _ => exact .ok _

namespace Value

/-- Only its index can leave a value without an entry. -/
theorem failsAs_entry (outside : kinds .outOfRange) (value : Value) : FailsAs kinds value.entry := by
  unfold entry
  split
  · exact .ok _
  · exact .error outside

theorem failsAs_entries (outside : kinds .outOfRange) (values : List Value) :
    FailsAs kinds (entries values) := by
  unfold entries
  induction values with
  | nil => exact .ok _
  | cons value rest ih =>
    rw [List.mapM_cons]
    exact .bind (value.failsAs_entry outside) fun _ _ => .bind ih fun _ _ => .ok _

theorem failsAs_atIndex (argument : kinds .invalidArgument) (found : Option KeyNameEntry) (index : Nat) :
    FailsAs kinds (atIndex found index) := by
  cases listed : (KeyNameEntry.valuesOf found)[index]? with
  | none =>
    rw [atIndex_of_none found index listed]
    exact .error argument
  | some shown =>
    obtain ⟨value, looked, _⟩ := atIndex_of_some found index listed
    rw [looked]
    exact .ok _

theorem failsAs_named (absent : kinds .notFound) (found : Option KeyNameEntry) (codepage : Codepage)
    (name : String) : FailsAs kinds (named found codepage name) := by
  cases first : (KeyNameEntry.valuesOf found).find? fun entry => Name.same (entry.decodedName codepage) name with
  | none =>
    rw [named_of_none found first]
    exact .error absent
  | some shown =>
    obtain ⟨value, looked, _⟩ := named_of_some found first
    rw [looked]
    exact .ok _

end Value

namespace Access

variable {access : Access} (fails : access.FailAs kinds) (codepage : Codepage)

include fails

theorem failsAs_name (key : Key) : FailsAs kinds (access.name codepage key) := by
  refine .bind (fails.nameEntry key) fun found _ => ?_
  cases found with
  | none => exact .ok _
  | some entry => exact .ok _

theorem failsAs_findSubKey (key : Key) (name : String) :
    FailsAs kinds (access.findSubKey codepage key name) := by
  refine Chain.failsAs_visit (fails.chain key) (fun _ sub => ?_) none
  refine .bind (failsAs_name fails codepage sub) fun found _ => ?_
  split
  · exact .ok _
  · exact .ok _

theorem failsAs_subKeyByName (absent : kinds .notFound) (key : Key) (name : String) :
    FailsAs kinds (access.subKeyByName codepage key name) := by
  refine .bind (failsAs_findSubKey fails codepage key name) fun found _ => ?_
  cases found with
  | none => exact .error absent
  | some sub => exact .ok _

theorem failsAs_descend (absent : kinds .notFound) (path : String) (key : Key)
    (segments : List String) : FailsAs kinds (access.descend codepage path key segments) := by
  induction segments generalizing key with
  | nil => exact .ok _
  | cons segment rest ih =>
    refine .bind (failsAs_findSubKey fails codepage key segment) fun found _ => ?_
    cases found with
    | none => exact .error absent
    | some sub => exact ih sub

theorem failsAs_views (key : Key) : FailsAs kinds (access.views key) :=
  .bind (fails.nameEntry key) fun _ _ => .ok _

theorem failsAs_values (key : Key) : FailsAs kinds (access.values key) := by
  rw [values_eq]
  exact .map (fails.nameEntry key) _

theorem failsAs_value (argument : kinds .invalidArgument) (key : Key) (index : Nat) :
    FailsAs kinds (access.value key index) := by
  rw [value_eq]
  refine .bind (failsAs_values fails key) fun values _ => ?_
  cases values[index]? with
  | none => exact .error argument
  | some value => exact .ok _

theorem failsAs_valueByName (absent : kinds .notFound) (key : Key) (name : String) :
    FailsAs kinds (access.valueByName codepage key name) := by
  rw [valueByName_eq]
  refine .bind (failsAs_values fails key) fun values _ => ?_
  cases values.find? fun value => Name.same (value.decodedName codepage) name with
  | none => exact .error absent
  | some value => exact .ok _

end Access

/-- An operation fails as what it goes back to, or for its arguments. -/
theorem Operation.failsAs_reading (corrupt : kinds .corruptData) (argument : kinds .invalidArgument)
    (absent : kinds .notFound) (mistyped : kinds .valueType) {access : Access}
    (fails : access.FailAs kinds) (codepage : Codepage) (operation : Operation α) :
    FailsAs kinds (operation.reading access codepage) := by
  cases operation with
  | rootKey => exact fails.rootKey
  | keyByPath path =>
    exact .bind fails.rootKey fun root _ => Access.failsAs_descend fails codepage absent path root _
  | parent key => exact fails.parent key
  | numberOfSubKeys key => exact .map (Chain.failsAs_whole (fails.chain key)) _
  | subKey key index => exact Chain.failsAs_get (fails.chain key) argument index
  | subKeys key => exact Chain.failsAs_whole (fails.chain key)
  | subKeyByName key wanted => exact Access.failsAs_subKeyByName fails codepage absent key wanted
  | subKeyByPath key path => exact Access.failsAs_descend fails codepage absent path key _
  | name key => exact Access.failsAs_name fails codepage key
  | numberOfValues key => exact .map (Access.failsAs_views fails key) _
  | value key index => exact Access.failsAs_value fails argument key index
  | values key => exact Access.failsAs_values fails key
  | valueByName key wanted => exact Access.failsAs_valueByName fails codepage absent key wanted
  | valueName entry => exact .ok _
  | parsed entry => exact ValueData.failsAs_parse corrupt _ _ codepage _
  | number32 entry => exact entry.failsAs_number32 mistyped corrupt
  | number64 entry => exact entry.failsAs_number64 mistyped corrupt
  | text entry => exact entry.failsAs_text mistyped codepage
  | binary entry => exact entry.failsAs_binary mistyped

end RegistryHive
