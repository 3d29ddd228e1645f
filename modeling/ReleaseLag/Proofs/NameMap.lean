import ReleaseLag.NameMap
import Mathlib.Data.List.Induction

/-!
# `ReleaseLag.Proofs.NameMap`: maps made of pairs

A map made of pairs with different names holds just these pairs.
-/

set_option autoImplicit false

namespace ReleaseLag.Proofs

variable {α : Type}

/-- What is found in a map made of pairs with different names. -/
theorem get?_ofList_eq_some_iff {pairs : List (Text × α)} (hnodup : (pairs.map Prod.fst).Nodup)
    (name : Text) (value : α) :
    (NameMap.ofList pairs).get? name = some value ↔ (name, value) ∈ pairs := by
  induction pairs using List.reverseRecOn with
  | nil => simp [NameMap.ofList]
  | append_singleton pairs pair ih =>
    obtain ⟨last, held⟩ := pair
    rw [List.map_append, List.nodup_append] at hnodup
    obtain ⟨hpairs, -, hdisjoint⟩ := hnodup
    have hlast : last ∉ pairs.map Prod.fst := fun hmem =>
      hdisjoint last hmem last (List.mem_singleton_self last) rfl
    rw [NameMap.ofList_concat, NameMap.get?_insert, List.mem_append, List.mem_singleton]
    by_cases hname : name = last
    · have hnot : (name, value) ∉ pairs := fun hmem =>
        hlast (hname ▸ List.mem_map_of_mem hmem)
      simp only [hname, if_true, Option.some.injEq, Prod.mk.injEq, true_and]
      rw [hname] at hnot
      simp [hnot, eq_comm]
    · simp [hname, ih hpairs]

/-- The values found under the names of pairs are those of the pairs, in a
map that holds them. -/
theorem filterMap_get? {pairs : List (Text × α)} {m : NameMap α}
    (hheld : ∀ pair ∈ pairs, m.get? pair.1 = some pair.2) :
    (pairs.map Prod.fst).filterMap m.get? = pairs.map Prod.snd := by
  induction pairs with
  | nil => rfl
  | cons pair pairs ih =>
    obtain ⟨hpair, hpairs⟩ := List.forall_mem_cons.mp hheld
    rw [List.map_cons, List.filterMap_cons_some hpair, ih hpairs, List.map_cons]

end ReleaseLag.Proofs
