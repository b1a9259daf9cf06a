import RegistryHive.Proofs.Caches

namespace RegistryHive

namespace Reads

/-- The data blocks from `offset` onward, those found before in `found`, latest first. -/
def scan (reads : Reads) (size offset : Nat) (found : List BlockHeader) :
    Except Error (List BlockHeader) := do
  if offset < size then
    if offset + BlockHeader.byteSize ≤ size then
      let data ← reads offset BlockHeader.byteSize
      if Signature.dataBlock.opens data then
        let block ← BlockHeader.parse data offset
        require (block.nextOffset ≤ size) (.truncated offset block.size (size - offset))
        have := block.holdsHeader
        reads.scan size (offset + block.size) (block :: found)
      else
        require found.isEmpty (.invalidFormat (.noBlockSignature offset))
        return []
    else return found.reverse
  else return found.reverse
termination_by size - offset

def attach (reads : Reads) (size : Nat) (codepage : Codepage) : Except Error Hive := do
  let header ← FileHeader.parse (← reads 0 FileHeader.byteSize)
  let navigation ← Navigation.parse (← reads Navigation.start Navigation.headerSize)
  require (Navigation.start + navigation.size ≤ size)
    (.truncated Navigation.start navigation.size (size - Navigation.start))
  let dataBlocks ← reads.scan size header.dataBlocksOffset []
  return { header, navigation, dataBlocks, codepage }

/-- The codepage has no part in opening. -/
theorem attach_codepage {reads : Reads} {size : Nat} {codepage : Codepage} {hive : Hive}
    (opens : reads.attach size codepage = .ok hive) (other : Codepage) :
    reads.attach size other = .ok { hive with codepage := other } := by
  have recoded : reads.attach size other =
      (reads.attach size codepage).map fun hive => { hive with codepage := other } := by
    simp only [attach, bind, Except.bind]
    repeat' split
    all_goals rfl
  rw [recoded, opens]
  rfl

/-- All data blocks that a scan finds end within the size. -/
theorem inside_of_scan {reads : Reads} {size offset : Nat} {found blocks : List BlockHeader}
    (earlier : ∀ block ∈ found, block.nextOffset ≤ size)
    (scanned : reads.scan size offset found = .ok blocks) :
    ∀ block ∈ blocks, block.nextOffset ≤ size := by
  induction offset, found using Reads.scan.induct size with
  | case1 offset found before held ih =>
    rw [scan] at scanned
    simp only [before, held, if_true] at scanned
    obtain ⟨data, _, scanned⟩ := exists_of_bind scanned
    by_cases opens : Signature.dataBlock.opens data = true
    · simp only [opens, if_true] at scanned
      obtain ⟨block, _, scanned⟩ := exists_of_bind scanned
      obtain ⟨_, within, scanned⟩ := exists_of_bind scanned
      refine ih block (fun other member => ?_) scanned
      rcases List.mem_cons.mp member with same | member
      · rw [same]
        exact require_ok_iff.mp within
      · exact earlier other member
    · simp only [opens] at scanned
      obtain ⟨_, _, none⟩ := exists_of_bind scanned
      cases none
      simp
  | case2 offset found before short =>
    rw [scan] at scanned
    simp only [before, short, if_true, if_false] at scanned
    cases scanned
    intro block member
    exact earlier block (List.mem_reverse.mp member)
  | case3 offset found past =>
    rw [scan] at scanned
    simp only [past, if_false] at scanned
    cases scanned
    intro block member
    exact earlier block (List.mem_reverse.mp member)

theorem inside_of_attach {reads : Reads} {size : Nat} {codepage : Codepage} {hive : Hive}
    (opens : reads.attach size codepage = .ok hive) :
    ∀ block ∈ hive.dataBlocks, block.nextOffset ≤ size := by
  obtain ⟨_, _, opens⟩ := exists_of_bind opens
  obtain ⟨header, _, opens⟩ := exists_of_bind opens
  obtain ⟨_, _, opens⟩ := exists_of_bind opens
  obtain ⟨navigation, _, opens⟩ := exists_of_bind opens
  obtain ⟨_, _, opens⟩ := exists_of_bind opens
  obtain ⟨blocks, scanned, same⟩ := exists_of_bind opens
  cases same
  exact inside_of_scan (by simp) scanned

end Reads

namespace Hive

open RegistryHive.Action

variable {reads : Reads} {kept : Store → Prop}

theorem steady_scan (agrees : ∀ store, kept store → store.source.fetch = reads)
    (size offset : Nat) (found : List BlockHeader) :
    Steady kept (scan size offset found) (reads.scan size offset found) := by
  induction offset, found using Hive.scan.induct size with
  | case1 offset found before ih =>
    rw [scan, Reads.scan]
    simp only [before, if_true]
    refine (steady_checkAbort kept "open").bind_ok ?_
    split
    · refine Steady.bind (steady_read agrees _ _) fun data _ => ?_
      split
      · refine Steady.bind (Steady.lift _) fun block _ => ?_
        exact Steady.bind (Steady.lift _) fun _ _ => ih block
      · exact Steady.bind (Steady.lift _) fun _ _ => Steady.pure []
    · exact Steady.pure _
  | case2 offset found past =>
    rw [scan, Reads.scan]
    simp only [past, if_false]
    exact Steady.pure _

/-- Opening reads headers only: it fills no cache. -/
theorem steady_attach (session : Session) (codepage : Codepage) :
    Steady (· = session.store) (attach codepage)
      (Reads.attach session.source.fetch session.source.size codepage) := by
  have agrees (store : Store) (same : store = session.store) :
      store.source.fetch = session.source.fetch := by
    rw [same]
    exact session.source.fetch_rewound
  refine (steady_checkAbort _ "open").bind_ok ?_
  refine Steady.bind (steady_read agrees _ _) fun data _ => ?_
  refine Steady.bind (Steady.lift _) fun header _ => ?_
  refine Steady.bind (steady_read agrees _ _) fun data _ => ?_
  refine Steady.bind (Steady.lift _) fun navigation _ => ?_
  refine Steady.get fun now same => ?_
  have size : now.source.size = session.source.size := by
    rw [← now.source.size_rewound, ← session.source.size_rewound]
    exact congrArg (·.source.size) same
  simp only [size]
  refine Steady.bind (Steady.lift _) fun _ _ => ?_
  refine Steady.bind (steady_scan agrees _ _ _) fun dataBlocks _ => ?_
  exact Steady.pure _

theorem store_of_attach {codepage : Codepage} {session opened : Session} {hive : Hive}
    (opens : attach codepage session = .ok hive opened) : opened.store = session.store := by
  have fixed := (steady_attach session codepage).keeps session rfl
  rwa [(answer_of_eq opens).2] at fixed

theorem reads_of_attach {codepage : Codepage} {session opened : Session} {hive : Hive}
    (opens : attach codepage session = .ok hive opened) :
    Reads.attach session.source.fetch session.source.size codepage = .ok hive :=
  (steady_attach session codepage).eq_of_ok rfl (answer_of_eq opens).1

/-- A source that reads as a registry file is opened, where no signal disturbs it. No cache is filled. -/
theorem exists_session {source : Source} {codepage : Codepage} {hive : Hive}
    (reading : Reads.attach source.fetch source.size codepage = .ok hive) :
    ∃ session, attach codepage { source } = .ok hive session ∧ session.Quiet ∧
      session.store = ⟨source.rewound, ∅, ∅⟩ := by
  let session : Session := { source }
  have steady := steady_attach session codepage
  have quiet : session.Quiet := ⟨rfl, fun _ _ => rfl⟩
  have answered : (attach codepage).answer session = .ok hive := (steady.answer_eq rfl quiet).trans reading
  exact ⟨_, eq_ok_of_answer answered, steady.hushed _ rfl quiet, steady.keeps _ rfl⟩

theorem codepage_of_attach {codepage : Codepage} {hive : Hive} {session opened : Session}
    (accepted : attach codepage session = .ok hive opened) : hive.codepage = codepage := by
  have reading := reads_of_attach accepted
  have same := Except.ok.inj (reading.symm.trans (Reads.attach_codepage reading codepage))
  rw [same]

end Hive

end RegistryHive
