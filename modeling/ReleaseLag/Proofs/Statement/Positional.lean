import ReleaseLag.Proofs.Statement.Numbering
import Mathlib.Data.List.Induction
import Mathlib.Data.List.Nodup

/-!
# `ReleaseLag.Proofs.Statement.Positional`: statements and their numbers

The order of a statement is that of first use: `FirstUse` says so without
regard to how it was found, and noting one more name keeps it
(`FirstUse.concat`). `Numbers` collects what a statement is to its text and its
values. Every name of the order has a value, so none is left out when the values
are looked up, and the `k`-th value is that of the `k`-th name
(`map_some_filterMap`).

A text has such a statement, or a first placeholder without a value
(`bound_or_lacks`), and never both, so either case tells what `Statement.ofSql`
gives (`ofSql_of_bound`, `ofSql_of_lacks`). The main statement is `ofSql_exact`.
-/

set_option autoImplicit false

namespace ReleaseLag.Proofs.Statement

open ReleaseLag.Sql
open ReleaseLag.Sql.Piece (scan)
open ReleaseLag.Statement
open ReleaseLag.Proofs.Sql

/-! ### The order of first use -/

/-- The names that are used, each once, in the order in which they are used
first. -/
structure FirstUse (names used : List Text) : Prop where
  nodup : names.Nodup
  mem_iff : ∀ name, name ∈ names ↔ name ∈ used
  ordered : names.Pairwise fun a b => used.idxOf a < used.idxOf b

/-- A name that is used once more is noted if it is new. -/
theorem FirstUse.concat {names used : List Text} (h : FirstUse names used) (name : Text) :
    FirstUse (noteName names name) (used ++ [name]) := by
  have hstays : ∀ other ∈ names, (used ++ [name]).idxOf other = used.idxOf other := by
    intro other hother
    rw [List.idxOf_append, if_pos ((h.mem_iff other).mp hother)]
  have hordered : names.Pairwise fun a b => (used ++ [name]).idxOf a < (used ++ [name]).idxOf b :=
    h.ordered.imp_of_mem fun {a b} ha hb hlt => by rwa [hstays a ha, hstays b hb]
  by_cases hknown : name ∈ names
  · have hnote : noteName names name = names := by simp [noteName, hknown]
    rw [hnote]
    refine ⟨h.nodup, fun other => ?_, hordered⟩
    rw [List.mem_append, List.mem_singleton, ← h.mem_iff]
    constructor
    · exact .inl
    · rintro (hother | rfl)
      · exact hother
      · exact hknown
  · have hnote : noteName names name = names ++ [name] := by simp [noteName, hknown]
    have hnew : name ∉ used := fun hmem => hknown ((h.mem_iff name).mpr hmem)
    rw [hnote]
    refine ⟨?_, fun other => by simp [h.mem_iff], ?_⟩
    · refine List.nodup_append.mpr ⟨h.nodup, List.nodup_singleton name, ?_⟩
      intro other hother last hlast heq
      rw [heq, List.mem_singleton.mp hlast] at hother
      exact hknown hother
    · -- The new name stands behind everything that was used before.
      refine List.pairwise_append.mpr ⟨hordered, List.pairwise_singleton _ _, ?_⟩
      intro other hother last hlast
      rw [List.mem_singleton.mp hlast, hstays other hother, List.idxOf_append, if_neg hnew]
      have hbefore := List.idxOf_lt_length_of_mem ((h.mem_iff other).mp hother)
      omega

/-- Noting one name after the other gives the order of first use. -/
theorem firstUse_firstUses (used : List Text) : FirstUse (firstUses [] used) used := by
  induction used using List.reverseRecOn with
  | nil => exact ⟨.nil, fun name => Iff.rfl, .nil⟩
  | append_singleton used name ih =>
    rw [firstUses_append]
    exact ih.concat name

/-- The number of a name is its place in the order, counted from 1. -/
theorem numbered_getElem {names : List Text} (h : names.Nodup) (k : Nat) (hk : k < names.length) :
    numbered names names[k] = '$' :: Decimal.ofNat (k + 1) := by
  rw [numbered, h.idxOf_getElem]

/-! ### Places in the text -/

/-- A placeholder that is found stands in the text at its position. -/
theorem exists_split_of_placed {position found : Nat} {s name : Text}
    (h : (name, found) ∈ placed (scan position s)) :
    ∃ front back, s = front ++ '@' :: (name ++ back) ∧ position + Text.size front = found := by
  fun_induction scan position s with
  | case1 => cases h
  | case2 position c s other rest hplace ih =>
    obtain ⟨rfl, htake⟩ := Piece.placeholder?_eq_some hplace
    rcases List.mem_cons.mp h with heq | hlater
    · cases heq
      exact ⟨[], rest, by simp [Text.takeName_spell htake], rfl⟩
    · obtain ⟨front, back, rfl, hfound⟩ := ih hlater
      refine ⟨'@' :: (other ++ front), back, by simp [← Text.takeName_spell htake], ?_⟩
      have hat : '@'.utf8Size = 1 := rfl
      simp only [Text.size_cons, Text.size_append, hat]
      omega
  | case3 position c s hplace ih =>
    obtain ⟨front, back, hrest, hfound⟩ := ih h
    refine ⟨(Piece.run c s).1 ++ front, back, ?_, ?_⟩
    · rw [← Piece.run_spell c s, hrest, List.append_assoc]
    · rw [Text.size_append]
      omega

/-! ### Values -/

/-- Where something is found for each element, nothing is left out. -/
theorem map_some_filterMap {α β : Type} {f : α → Option β} {l : List α}
    (h : ∀ a ∈ l, (f a).isSome = true) : (l.filterMap f).map some = l.map f := by
  induction l with
  | nil => rfl
  | cons a l ih =>
    obtain ⟨ha, hl⟩ := List.forall_mem_cons.mp h
    obtain ⟨b, hb⟩ := Option.isSome_iff_exists.mp ha
    rw [List.filterMap_cons_some hb, List.map_cons, ih hl, List.map_cons, hb]

/-! ### Statements -/

/-- A statement of a query text and values: it keeps both, its order is that of
first use, and its positional text is the text with the placeholder of the
`k`-th name of the order replaced by the number `k`. Each number is used, and
the values it binds are, one for each number, those of the names in order.
Names that the text does not use have no number. -/
structure Numbers (sql : Text) (params : NameMap ParamValue) (s : Statement) : Prop where
  sql_eq : s.sql = sql
  params_eq : s.params = params
  order : FirstUse s.order (uses (Piece.ofText sql))
  text : s.positionalSql = (Piece.ofText sql).flatMap (fill (numbered s.order))
  number : ∀ k (h : k < s.order.length),
    numbered s.order s.order[k] = '$' :: Decimal.ofNat (k + 1)
      ∧ ∃ position, (s.order[k], position) ∈ placed (Piece.ofText sql)
  values : s.positionalParams.length = s.order.length
    ∧ s.positionalParams.map some = s.order.map params.get?

variable {sql : Text} {params : NameMap ParamValue}

/-- A name that is used is the name of some placeholder. -/
theorem exists_placed_of_mem_uses {pieces : List Piece} {name : Text} (h : name ∈ uses pieces) :
    ∃ position, (name, position) ∈ placed pieces := by
  rw [← map_fst_placed] at h
  obtain ⟨⟨used, position⟩, hplaced, rfl⟩ := List.mem_map.mp h
  exact ⟨position, hplaced⟩

/-- A text whose placeholders all have values has a statement. -/
theorem ofSql_of_bound (h : ∀ name ∈ uses (Piece.ofText sql), (params.get? name).isSome = true) :
    ∃ s, Statement.ofSql sql params = .ok s ∧ Numbers sql params s := by
  have horder := firstUse_firstUses (uses (Piece.ofText sql))
  -- A name of the order is used in the text, so it has a value as well.
  have hbound : ∀ name ∈ firstUses [] (uses (Piece.ofText sql)), (params.get? name).isSome = true :=
    fun name hname => h name ((horder.mem_iff name).mp hname)
  have hvalues := map_some_filterMap hbound
  have hcount := congrArg List.length hvalues
  rw [List.length_map, List.length_map] at hcount
  refine ⟨_, by rw [Statement.ofSql, number_eq_ok [] h]; rfl, ?_⟩
  exact {
    sql_eq := rfl
    params_eq := rfl
    order := horder
    text := rfl
    number := fun k hk => ⟨numbered_getElem horder.nodup k hk,
      exists_placed_of_mem_uses ((horder.mem_iff _).mp (List.getElem_mem hk))⟩
    values := ⟨hcount, hvalues⟩ }

/-- A text with a placeholder that has no value has none: the first such
placeholder is the error. -/
theorem ofSql_of_lacks {name : Text} {position : Nat}
    (h : (placed (Piece.ofText sql)).find? (lacksValue params) = some (name, position)) :
    Statement.ofSql sql params = .error (.template ⟨position, .unboundPlaceholder name⟩) := by
  rw [Statement.ofSql, number_eq_error [] h, error_bind]

/-- All placeholders have values, or there is a first that has none. -/
theorem bound_or_lacks (sql : Text) (params : NameMap ParamValue) :
    (∀ name ∈ uses (Piece.ofText sql), (params.get? name).isSome = true)
      ∨ ∃ name position,
          (placed (Piece.ofText sql)).find? (lacksValue params) = some (name, position) := by
  cases hfirst : (placed (Piece.ofText sql)).find? (lacksValue params) with
  | some placeholder => exact .inr ⟨placeholder.1, placeholder.2, rfl⟩
  | none =>
    refine .inl fun name hname => ?_
    obtain ⟨position, hplaced⟩ := exists_placed_of_mem_uses hname
    have hheld := List.find?_eq_none.mp hfirst (name, position) hplaced
    simpa [lacksValue, Option.isSome_iff_ne_none] using hheld

/-- A text that has a statement has values for all its placeholders. -/
theorem numbers_of_ofSql {s : Statement} (h : Statement.ofSql sql params = .ok s) :
    (∀ name ∈ uses (Piece.ofText sql), (params.get? name).isSome = true) ∧ Numbers sql params s := by
  rcases bound_or_lacks sql params with hbound | ⟨name, position, hlacks⟩
  · obtain ⟨t, ht, hnumbers⟩ := ofSql_of_bound hbound
    rw [h] at ht
    cases ht
    exact ⟨hbound, hnumbers⟩
  · rw [ofSql_of_lacks hlacks] at h
    cases h

/-- The only error is that of the first placeholder without a value. -/
theorem ofSql_eq_error_iff {e : Error} :
    Statement.ofSql sql params = .error e ↔ ∃ name position,
      (placed (Piece.ofText sql)).find? (lacksValue params) = some (name, position)
        ∧ e = .template ⟨position, .unboundPlaceholder name⟩ := by
  constructor
  · intro h
    rcases bound_or_lacks sql params with hbound | ⟨name, position, hlacks⟩
    · obtain ⟨s, hs, -⟩ := ofSql_of_bound hbound
      rw [h] at hs
      cases hs
    · rw [ofSql_of_lacks hlacks] at h
      exact ⟨name, position, hlacks, (Except.error.inj h).symm⟩
  · rintro ⟨name, position, hlacks, rfl⟩
    exact ofSql_of_lacks hlacks

/-- Statements number their placeholders correctly, for any text and values:

1. a text has a statement if and only if each name of a placeholder has a
   value;
2. otherwise the first placeholder without a value is the error;
3. the pieces spell the text, and a placeholder's position is the byte its at
   sign stands at;
4. a statement `Numbers` the text. -/
theorem ofSql_exact (sql : Text) (params : NameMap ParamValue) :
    ((∃ s, Statement.ofSql sql params = .ok s)
        ↔ ∀ name ∈ uses (Piece.ofText sql), (params.get? name).isSome = true)
      ∧ (∀ e, Statement.ofSql sql params = .error e ↔ ∃ name position,
          (placed (Piece.ofText sql)).find? (lacksValue params) = some (name, position)
            ∧ e = .template ⟨position, .unboundPlaceholder name⟩)
      ∧ ((Piece.ofText sql).flatMap Piece.spell = sql
          ∧ ∀ name position, (name, position) ∈ placed (Piece.ofText sql) →
            ∃ front back, sql = front ++ '@' :: (name ++ back) ∧ Text.size front = position)
      ∧ ∀ s, Statement.ofSql sql params = .ok s → Numbers sql params s := by
  refine ⟨⟨fun ⟨s, hs⟩ => (numbers_of_ofSql hs).1, fun hbound => ?_⟩, fun e => ofSql_eq_error_iff,
    ⟨Piece.spell_ofText sql, fun name position hplaced => ?_⟩,
    fun s hs => (numbers_of_ofSql hs).2⟩
  · obtain ⟨s, hs, -⟩ := ofSql_of_bound hbound
    exact ⟨s, hs⟩
  · obtain ⟨front, back, hsql, hfront⟩ := exists_split_of_placed hplaced
    rw [Nat.zero_add] at hfront
    exact ⟨front, back, hsql, hfront⟩

end ReleaseLag.Proofs.Statement
