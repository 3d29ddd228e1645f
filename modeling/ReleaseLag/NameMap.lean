import ReleaseLag.Text.Order

/-!
# `ReleaseLag.NameMap`: values under names

A finite map from names to values. Its entries stand in the order of their
names (`Text.before`); each name has one entry. The last value put under a name is the one it
has (`get?_insert`), and sorted entries are determined by which there are (`eq_of_mem_iff`).
-/

set_option autoImplicit false

namespace ReleaseLag

/-- Values under names, sorted by name. -/
structure NameMap (α : Type) where
  entries : List (Text × α)
  sorted : entries.Pairwise fun a b => Text.before a.1 b.1

namespace NameMap

variable {α : Type}

/-- No names at all. -/
def empty : NameMap α :=
  ⟨[], .nil⟩

/-- Puts a value under a name in sorted entries. -/
def put (name : Text) (value : α) : List (Text × α) → List (Text × α)
  | [] => [(name, value)]
  | (other, held) :: rest =>
    if name = other then (name, value) :: rest
    else if Text.before name other then (name, value) :: (other, held) :: rest
    else (other, held) :: put name value rest

/-- An entry after `put` is the new one or was there before. -/
theorem mem_put {name : Text} {value : α} {entries : List (Text × α)} {entry : Text × α}
    (h : entry ∈ put name value entries) : entry = (name, value) ∨ entry ∈ entries := by
  induction entries with
  | nil => simpa [put] using h
  | cons head rest ih => grind [put]

/-- Entries stay sorted. -/
theorem sorted_put (name : Text) (value : α) {entries : List (Text × α)}
    (h : entries.Pairwise fun a b => Text.before a.1 b.1) :
    (put name value entries).Pairwise fun a b => Text.before a.1 b.1 := by
  induction entries with
  | nil => simp [put]
  | cons head rest ih =>
    obtain ⟨other, held⟩ := head
    obtain ⟨hhead, hrest⟩ := List.pairwise_cons.mp h
    by_cases heq : name = other
    · subst heq
      simp only [put]
      exact List.pairwise_cons.mpr ⟨hhead, hrest⟩
    · by_cases hlt : Text.before name other
      · simp only [put, if_neg heq, if_pos hlt]
        refine List.pairwise_cons.mpr ⟨fun entry hmem => ?_, h⟩
        rcases List.mem_cons.mp hmem with rfl | hmem
        · exact hlt
        · exact Text.before_trans hlt (hhead entry hmem)
      · simp only [put, if_neg heq, if_neg hlt]
        refine List.pairwise_cons.mpr ⟨fun entry hmem => ?_, ih hrest⟩
        rcases mem_put hmem with rfl | hmem
        · exact Text.before_of_not_before heq hlt
        · exact hhead entry hmem

/-- The map with a value under a name, in place of the one it may have had. -/
def insert (m : NameMap α) (name : Text) (value : α) : NameMap α :=
  ⟨put name value m.entries, sorted_put name value m.sorted⟩

/-- The value under a name. -/
def get? (m : NameMap α) (name : Text) : Option α :=
  m.entries.lookup name

/-- The map of a list of pairs, the later of two with one name winning. -/
def ofList (pairs : List (Text × α)) : NameMap α :=
  pairs.foldl (fun m (name, value) => m.insert name value) empty

theorem lookup_put (name other : Text) (value : α) (entries : List (Text × α)) :
    (put name value entries).lookup other
      = if other = name then some value else entries.lookup other := by
  induction entries with
  | nil => grind [put]
  | cons entry rest ih =>
    obtain ⟨key, held⟩ := entry
    grind [put]

@[simp] theorem get?_empty (name : Text) : (empty : NameMap α).get? name = none := rfl

/-- A name has the value put under it last, and other names keep theirs. -/
theorem get?_insert (m : NameMap α) (name other : Text) (value : α) :
    (m.insert name value).get? other = if other = name then some value else m.get? other :=
  lookup_put name other value m.entries

/-- A list of pairs with one more at its end. -/
theorem ofList_concat (pairs : List (Text × α)) (name : Text) (value : α) :
    ofList (pairs ++ [(name, value)]) = (ofList pairs).insert name value := by
  simp [ofList]

/-- Names that are found have an entry, and entries are found. -/
theorem get?_eq_some_iff (m : NameMap α) (name : Text) (value : α) :
    m.get? name = some value ↔ (name, value) ∈ m.entries := by
  obtain ⟨entries, hsorted⟩ := m
  induction entries with
  | nil => simp [get?]
  | cons head rest ih =>
    obtain ⟨other, held⟩ := head
    obtain ⟨hhead, hrest⟩ := List.pairwise_cons.mp hsorted
    have ih := ih hrest
    simp only [get?] at ih ⊢
    by_cases heq : name = other
    · subst heq
      -- Later entries have greater names, so the first one is the only candidate.
      have hnot : (name, value) ∉ rest := fun hmem => Text.not_before_self name (hhead _ hmem)
      simp [hnot, eq_comm]
    · have : (name == other) = false := by simpa using heq
      simp [List.lookup_cons, this, heq, ih]

/-- Sorted entries without repetition are determined by their members. -/
theorem eq_of_mem_iff {xs ys : List (Text × α)}
    (hxs : xs.Pairwise fun a b => Text.before a.1 b.1) (hys : ys.Pairwise fun a b => Text.before a.1 b.1)
    (h : ∀ entry, entry ∈ xs ↔ entry ∈ ys) : xs = ys := by
  induction xs generalizing ys with
  | nil =>
    cases ys with
    | nil => rfl
    | cons y ys => exact absurd ((h y).mpr List.mem_cons_self) List.not_mem_nil
  | cons x xs ih =>
    cases ys with
    | nil => exact absurd ((h x).mp List.mem_cons_self) List.not_mem_nil
    | cons y ys =>
      obtain ⟨hx, hxs'⟩ := List.pairwise_cons.mp hxs
      obtain ⟨hy, hys'⟩ := List.pairwise_cons.mp hys
      have hxy : x = y := by
        rcases List.mem_cons.mp ((h x).mp List.mem_cons_self) with heq | hmem
        · exact heq
        · rcases List.mem_cons.mp ((h y).mpr List.mem_cons_self) with heq | hmem'
          · exact heq.symm
          · exact absurd (Text.before_trans (hx y hmem') (hy x hmem)) (Text.not_before_self x.1)
      subst hxy
      congr 1
      refine ih hxs' hys' fun entry => ⟨fun hmem => ?_, fun hmem => ?_⟩
      · rcases List.mem_cons.mp ((h entry).mp (List.mem_cons_of_mem _ hmem)) with rfl | hmem'
        · exact absurd (hx _ hmem) (Text.not_before_self _)
        · exact hmem'
      · rcases List.mem_cons.mp ((h entry).mpr (List.mem_cons_of_mem _ hmem)) with rfl | hmem'
        · exact absurd (hy _ hmem) (Text.not_before_self _)
        · exact hmem'

end NameMap

end ReleaseLag
