import RegistryHive.Proofs.Caches

/-! Walks along the sub keys. A walk shows its visitor the keys of the chain one by one, and looks no
further once the visitor is done: damage behind that point does not matter. -/
namespace RegistryHive

namespace Chain

variable {β : Type}

theorem whole_eq_ok {chain : Chain} {keys : List Key} :
    chain.whole = .ok keys ↔ chain = ⟨keys, none⟩ := by
  obtain ⟨found, failure⟩ := chain
  cases failure <;> simp [whole]

theorem whole_eq_error {chain : Chain} {error : Error} :
    chain.whole = .error error ↔ ∃ keys, chain = ⟨keys, some error⟩ := by
  obtain ⟨found, failure⟩ := chain
  cases failure <;> simp [whole]

theorem visit_cons (visit : β → Key → Except Error (ForInStep β)) (start : β) (key : Key)
    (rest : Chain) :
    Chain.visit ⟨key :: rest.keys, rest.failure⟩ visit start = (do
      match ← visit start key with
      | .done final => return final
      | .yield following => rest.visit visit following) := rfl

/-- A visitor that is never done sees all keys, and then what broke the chain. -/
theorem visit_of_yield (chain : Chain) (step : β → Key → β) (start : β) :
    chain.visit (fun state key => .ok (.yield (step state key))) start =
      chain.whole.map (·.foldl step start) := by
  obtain ⟨keys, failure⟩ := chain
  induction keys generalizing start with
  | nil => cases failure <;> rfl
  | cons key rest ih =>
    have following := ih (step start key)
    cases failure <;> exact following

theorem foldl_cons_reverse (keys found : List Key) :
    keys.foldl (fun found key => key :: found) found = keys.reverse ++ found := by
  induction keys generalizing found with
  | nil => rfl
  | cons key rest ih => simp [ih]

theorem foldl_count (keys : List Key) (count : Nat) :
    keys.foldl (fun count _ => count + 1) count = count + keys.length := by
  induction keys generalizing count with
  | nil => rfl
  | cons key rest ih =>
    simp only [List.foldl_cons, ih, List.length_cons]
    omega

/-- The visitor that looks for the key at a place. -/
def stopAt (index : Nat) (state : Nat × Option Key) (key : Key) :
    Except Error (ForInStep (Nat × Option Key)) :=
  if state.1 = index then .ok (.done (state.1, some key)) else .ok (.yield (state.1 + 1, none))

theorem visit_stopAt (chain : Chain) (index count : Nat) (before : count ≤ index) :
    chain.visit (stopAt index) (count, none) =
      match chain.keys[index - count]?, chain.failure with
      | some key, _ => .ok (index, some key)
      | none, some error => .error error
      | none, none => .ok (count + chain.keys.length, none) := by
  obtain ⟨keys, failure⟩ := chain
  induction keys generalizing count with
  | nil => cases failure <;> rfl
  | cons key rest ih =>
    by_cases here : count = index
    · subst here
      simp [visit, visitKeys, stopAt, bind, Except.bind, pure, Except.pure]
    · have following := ih (count + 1) (by omega)
      have shifted : index - count = index - (count + 1) + 1 := by omega
      simp only [visit, visitKeys, stopAt, here, if_false, bind, Except.bind, shifted,
        List.getElem?_cons_succ, List.length_cons] at following ⊢
      rw [following]
      simp only [Nat.add_assoc, Nat.add_comm 1]

end Chain

namespace Hive

open RegistryHive.Action

variable {β : Type} {reads : Reads} {kept : Store → Prop}

theorem steady_walkFrom (agrees : ∀ store, kept store → store.source.fetch = reads) (hive : Hive)
    (owner : Nat) {visit : β → Key → Action (ForInStep β)}
    {answer : β → Key → Except Error (ForInStep β)}
    (visits : ∀ state key, Steady kept (visit state key) (answer state key))
    (passed : Passed hive.navigation) (next : Option Nat) (state : β) :
    Steady kept (hive.walkFrom owner visit passed next state)
      ((reads.chainFrom hive.navigation owner passed next).visit answer state) := by
  induction passed, next, state using Hive.walkFrom.induct hive owner with
  | case1 passed state =>
    rw [walkFrom, Reads.chainFrom]
    exact Steady.pure state
  | case2 passed state offset ih =>
    rw [walkFrom, Reads.chainFrom]
    refine (steady_checkAbort kept "sub_keys").bind_ok ?_
    by_cases repeated : offset = owner ∨ offset ∈ passed.offsets
    · simp only [repeated, dite_true]
      exact Steady.throw _
    · simp only [repeated, dite_false]
      cases checked : hive.navigation.checkEntry offset with
      | error error => exact (Steady.lift (.error error)).bind_error
      | ok inside =>
        refine (Steady.lift (.ok inside)).bind_ok ?_
        cases read : reads.readKey offset with
        | error error => exact (read ▸ steady_readKey agrees offset).bind_error
        | ok key =>
          refine (read ▸ steady_readKey agrees offset).bind_ok ?_
          simp only [Chain.visit_cons]
          refine Steady.bind (visits state key) fun step _ => ?_
          cases step with
          | done final => exact Steady.pure final
          | yield following => exact ih repeated inside.down key following

end Hive

namespace Key

open RegistryHive.Action

variable {β : Type} {reads : Reads} {kept : Store → Prop}

theorem steady_walkSubKeys (agrees : ∀ store, kept store → store.source.fetch = reads)
    (hive : Hive) (key : Key) {visit : β → Key → Action (ForInStep β)}
    {answer : β → Key → Except Error (ForInStep β)}
    (visits : ∀ state sub, Steady kept (visit state sub) (answer state sub)) (start : β) :
    Steady kept (key.walkSubKeys hive visit start)
      ((reads.chain hive.navigation key).visit answer start) :=
  hive.steady_walkFrom agrees key.offset visits .nothing _ start

theorem steady_numberOfSubKeys (agrees : ∀ store, kept store → store.source.fetch = reads)
    (hive : Hive) (key : Key) :
    Steady kept (key.numberOfSubKeys hive)
      ((reads.chain hive.navigation key).whole.map List.length) := by
  have visits (count : Nat) (_ : Key) : Steady kept (pure (ForInStep.yield (count + 1)))
      (.ok (.yield (count + 1))) := Steady.pure _
  have walk := key.steady_walkSubKeys agrees hive visits 0
  rw [Chain.visit_of_yield] at walk
  simpa only [Chain.foldl_count, Nat.zero_add] using! walk

theorem steady_subKeys (agrees : ∀ store, kept store → store.source.fetch = reads) (hive : Hive)
    (key : Key) : Steady kept (key.subKeys hive) (reads.chain hive.navigation key).whole := by
  have visits (found : List Key) (sub : Key) : Steady kept (pure (ForInStep.yield (sub :: found)))
      (.ok (.yield (sub :: found))) := Steady.pure _
  have walk := key.steady_walkSubKeys agrees hive visits []
  rw [Chain.visit_of_yield] at walk
  have reversed := Steady.bind walk fun found _ => Steady.pure found.reverse
  cases result : (reads.chain hive.navigation key).whole with
  | error error => simpa only [result] using! reversed
  | ok keys =>
    simp only [result, Except.map, Chain.foldl_cons_reverse, List.append_nil] at reversed
    simpa only [bind, Except.bind, List.reverse_reverse] using! reversed

theorem steady_subKey (agrees : ∀ store, kept store → store.source.fetch = reads) (hive : Hive)
    (key : Key) (index : Nat) :
    Steady kept (key.subKey hive index) ((reads.chain hive.navigation key).get index) := by
  have visits (state : Nat × Option Key) (sub : Key) : Steady kept
      (if state.1 = index then return .done (state.1, some sub)
        else return .yield (state.1 + 1, none)) (Chain.stopAt index state sub) := by
    unfold Chain.stopAt
    split
    · exact Steady.pure _
    · exact Steady.pure _
  have walk := key.steady_walkSubKeys agrees hive visits (0, none)
  rw [Chain.visit_stopAt _ index 0 (Nat.zero_le index), Nat.sub_zero, Nat.zero_add] at walk
  unfold Chain.get
  cases found : (reads.chain hive.navigation key).keys[index]? with
  | some sub => exact (found ▸ walk).bind_ok (Steady.pure sub)
  | none =>
    simp only [found] at walk
    cases failed : (reads.chain hive.navigation key).failure with
    | some error => exact (failed ▸ walk).bind_error
    | none => exact (failed ▸ walk).bind_ok (Steady.throw _)

end Key

end RegistryHive
