import ReleaseLag.Proofs.Sql.Regions
import ReleaseLag.Proofs.Template.Parts

/-!
# `ReleaseLag.Proofs.Template.Inertness`: names leave the query as it was

Two data have the same shape if they bind the same fields, and each of them
alike but for the names. `rendersAlike_of_sameShape` is about the same
template rendered for both: it fails with the same error, or the two texts
are the same literal texts with names between, and the scanner of statements
gives each character of a literal text the same class in both. A name between
quotes, in a comment, behind an at sign or between two dashes is covered like
any other, since nothing is supposed of where names stand.

The induction over the tree is `alike_partsAll`. Along the parts,
`literalRegions_eq` carries the region that is open: a name keeps it, and a
literal text leaves the same one open in front of any name.
-/

set_option autoImplicit false

namespace ReleaseLag.Proofs.Template

open ReleaseLag.Template
open ReleaseLag.Sql (Region regionsFrom)
open ReleaseLag.Proofs.Sql (SameStart classes classes_eq_regions regionsFrom_name
  regionsFrom_of_sameStart)

/-! ### The shape of data -/

/-- What a binding is, without its names. -/
inductive Shape
  | name
  | names (count : Nat)
  | absent
  deriving DecidableEq

/-- The shape of a binding. -/
def shapeOf : Binding → Shape
  | .name _ => .name
  | .names ns => .names ns.length
  | .absent => .absent

/-- Data that bind the same fields, each to a name, to as many names, or to
none. -/
def SameShape (d e : Data) : Prop :=
  ∀ field, (d.get? field).map shapeOf = (e.get? field).map shapeOf

/-- The entries of data without their names. -/
def outline (entries : List (Text × Binding)) : List (Text × Shape) :=
  entries.map fun entry => (entry.1, shapeOf entry.2)

variable {d e : Data}

theorem mem_outline (d : Data) (field : Text) (shape : Shape) :
    (field, shape) ∈ outline d.entries ↔ (d.get? field).map shapeOf = some shape := by
  simp only [outline, List.mem_map, Prod.exists, Prod.mk.injEq, Option.map_eq_some_iff,
    NameMap.get?_eq_some_iff]
  constructor
  · rintro ⟨_, binding, hmem, rfl, hshape⟩
    exact ⟨binding, hmem, hshape⟩
  · rintro ⟨binding, hmem, hshape⟩
    exact ⟨field, binding, hmem, rfl, hshape⟩

theorem sorted_outline (d : Data) :
    (outline d.entries).Pairwise fun a b => Text.before a.1 b.1 :=
  List.pairwise_map.mpr d.sorted

/-- The same is found in both data if entry by entry they are the same, names
apart. -/
theorem sameShape_iff : SameShape d e ↔ outline d.entries = outline e.entries := by
  constructor
  · intro h
    refine NameMap.eq_of_mem_iff (sorted_outline d) (sorted_outline e) fun (field, shape) => ?_
    rw [mem_outline, mem_outline, h]
  · intro h field
    refine Option.ext fun shape => ?_
    rw [← mem_outline, ← mem_outline, h]

/-- Bindings of one shape differ in names only. -/
theorem bindings_of_shapeOf {b c : Binding} (h : shapeOf b = shapeOf c) :
    (∃ n m, b = .name n ∧ c = .name m)
      ∨ (∃ ns ms, b = .names ns ∧ c = .names ms ∧ ns.length = ms.length)
      ∨ b = .absent ∧ c = .absent := by
  cases b with
  | name n =>
    cases c with
    | name m => exact .inl ⟨n, m, rfl, rfl⟩
    | names ms => cases h
    | absent => cases h
  | names ns =>
    cases c with
    | name m => cases h
    | names ms => exact .inr (.inl ⟨ns, ms, rfl, rfl, Shape.names.inj h⟩)
    | absent => cases h
  | absent =>
    cases c with
    | name m => cases h
    | names ms => cases h
    | absent => exact .inr (.inr ⟨rfl, rfl⟩)

/-- Whether a binding fits a kind shows in its shape. -/
theorem fits_eq_of_shapeOf {b c : Binding} (h : shapeOf b = shapeOf c) (kind : FieldKind) :
    b.fits kind = c.fits kind := by
  obtain ⟨n, m, rfl, rfl⟩ | ⟨ns, ms, rfl, rfl, -⟩ | ⟨rfl, rfl⟩ := bindings_of_shapeOf h
  · cases kind <;> rfl
  · cases kind <;> rfl
  · rfl

/-- Entries with the same outline pass alike. -/
theorem checkData_of_outline (schema : Schema) {es fs : List (Text × Binding)}
    (h : outline es = outline fs) : checkData schema es = checkData schema fs := by
  induction es generalizing fs with
  | nil =>
    cases fs with
    | nil => rfl
    | cons entry fs => cases h
  | cons entry es ih =>
    cases fs with
    | nil => cases h
    | cons other fs =>
      obtain ⟨field, b⟩ := entry
      obtain ⟨field', c⟩ := other
      obtain ⟨hhead, hrest⟩ := List.cons.inj h
      obtain ⟨rfl, hshape⟩ := Prod.mk.inj hhead
      rw [checkData, checkData, ih hrest]
      simp only [fits_eq_of_shapeOf hshape]

/-- In data of the same shape, a field is bound alike. -/
theorem shapeOf_binding (h : SameShape d e) (field : Text) :
    shapeOf (d.binding field) = shapeOf (e.binding field) := by
  have hgetD : ∀ data : Data,
      shapeOf (data.binding field) = ((data.get? field).map shapeOf).getD .absent := by
    intro data
    unfold Data.binding
    cases data.get? field with
    | none => rfl
    | some b => rfl
  rw [hgetD, hgetD, h field]

/-- A block is kept for both data or for none. -/
theorem isPresent_of_sameShape (h : SameShape d e) (field : Text) :
    d.isPresent field = e.isPresent field := by
  unfold Data.isPresent
  obtain ⟨n, m, hd, he⟩ | ⟨ns, ms, hd, he, hlength⟩ | ⟨hd, he⟩ :=
    bindings_of_shapeOf (shapeOf_binding h field)
  · rw [hd, he]
  · rw [hd, he]
    cases ns with
    | nil =>
      rw [List.length_nil, eq_comm, List.length_eq_zero_iff] at hlength
      rw [hlength]
    | cons n ns =>
      obtain ⟨m, ms, rfl⟩ := List.exists_cons_of_length_eq_add_one hlength.symm
      rfl
  · rw [hd, he]

/-! ### The same parts, names apart -/

/-- Two results that are the same error, or parts that are the same with names
at the same places. -/
inductive Alike : Except Template.Error (List Part) → Except Template.Error (List Part) → Prop
  | failed (error : Template.Error) : Alike (.error error) (.error error)
  | found {ps qs : List Part} (h : ps.map Part.fixed? = qs.map Part.fixed?) :
    Alike (.ok ps) (.ok qs)

theorem Alike.followedBy {x y x' y' : Except Template.Error (List Part)} (hx : Alike x x')
    (hy : Alike y y') : Alike (followedBy x y) (followedBy x' y') := by
  cases hx with
  | failed error => exact .failed error
  | found hfront =>
    cases hy with
    | failed error => exact .failed error
    | found hrest =>
      refine .found ?_
      rw [List.map_append, List.map_append, hfront, hrest]

/-- As many names give parts that are alike, if any two names do. -/
theorem Alike.eachOf {f g : ParamName → Except Template.Error (List Part)}
    (h : ∀ n m, Alike (f n) (g m)) {ns ms : List ParamName} (hlength : ns.length = ms.length) :
    Alike (eachOf f ns) (eachOf g ms) := by
  induction ns generalizing ms with
  | nil =>
    rw [List.length_nil, eq_comm, List.length_eq_zero_iff] at hlength
    subst hlength
    exact .found rfl
  | cons n ns ih =>
    obtain ⟨m, ms, rfl⟩ := List.exists_cons_of_length_eq_add_one hlength.symm
    rw [eachOf_cons, eachOf_cons]
    exact (h n m).followedBy (ih (Nat.succ.inj hlength))

/-- Whether a variable has a name depends on what is in scope only. -/
theorem isSome_lookup (vars : List (Text × ParamName)) (var : Text) :
    (vars.lookup var).isSome = (vars.map Prod.fst).contains var := by
  induction vars with
  | nil => rfl
  | cons bound vars ih =>
    obtain ⟨other, n⟩ := bound
    rw [List.lookup_cons, List.map_cons, List.contains_cons, ← ih]
    cases var == other with
    | true => rfl
    | false => rfl

mutual

/-- A node has parts alike for data of the same shape. -/
theorem alike_partsOf (h : SameShape d e) {vars vars' : List (Text × ParamName)}
    (hvars : vars.map Prod.fst = vars'.map Prod.fst) (node : Node) :
    Alike (partsOf d vars node) (partsOf e vars' node) := by
  cases node with
  | text s => exact .found rfl
  | field name position =>
    rw [partsOf, partsOf]
    obtain ⟨n, m, hd, he⟩ | ⟨ns, ms, hd, he, -⟩ | ⟨hd, he⟩ :=
      bindings_of_shapeOf (shapeOf_binding h name)
    · rw [hd, he]
      exact .found rfl
    · rw [hd, he]
      exact .failed _
    · rw [hd, he]
      exact .failed _
  | var name position =>
    rw [partsOf, partsOf]
    have hscope : (vars.lookup name).isSome = (vars'.lookup name).isSome := by
      rw [isSome_lookup, isSome_lookup, hvars]
    cases hd : vars.lookup name with
    | none =>
      cases he : vars'.lookup name with
      | none => exact .failed _
      | some m => simp [hd, he] at hscope
    | some n =>
      cases he : vars'.lookup name with
      | none => simp [hd, he] at hscope
      | some m => exact .found rfl
  | cond field body position =>
    rw [partsOf, partsOf, isPresent_of_sameShape h field]
    split
    · exact alike_partsAll h hvars body
    · exact .found rfl
  | each var list body position =>
    rw [partsOf, partsOf]
    obtain ⟨n, m, hd, he⟩ | ⟨ns, ms, hd, he, hlength⟩ | ⟨hd, he⟩ :=
      bindings_of_shapeOf (shapeOf_binding h list)
    · rw [hd, he]
      exact .failed _
    · rw [hd, he]
      refine Alike.eachOf (fun n m => ?_) hlength
      -- Only which variables are in scope matters, and the range adds the same one.
      have hinner : ((var, n) :: vars).map Prod.fst = ((var, m) :: vars').map Prod.fst := by
        rw [List.map_cons, List.map_cons, hvars]
      exact alike_partsAll h hinner body
    · rw [hd, he]
      exact .failed _

/-- Nodes have parts alike for data of the same shape. -/
theorem alike_partsAll (h : SameShape d e) {vars vars' : List (Text × ParamName)}
    (hvars : vars.map Prod.fst = vars'.map Prod.fst) (nodes : List Node) :
    Alike (partsAll d vars nodes) (partsAll e vars' nodes) := by
  cases nodes with
  | nil => exact .found rfl
  | cons node nodes =>
    rw [partsAll, partsAll]
    exact (alike_partsOf h hvars node).followedBy (alike_partsAll h hvars nodes)

end

/-- A template has parts alike for data of the same shape. -/
theorem alike_parts (h : SameShape d e) (template : ReleaseLag.Template) :
    Alike (parts template d) (parts template e) := by
  have hcheck := checkData_of_outline template.schema (sameShape_iff.mp h)
  rw [parts, parts, hcheck]
  cases checkData template.schema e.entries with
  | error error => exact .failed error
  | ok u => exact alike_partsAll h rfl template.nodes

/-! ### The classes of literal text -/

/-- What is found at the characters of literal texts in a list that has one
entry for each character that the parts spell. -/
def literalRegions : List Part → List Region → List Region
  | [], _ => []
  | .literal s :: ps, found =>
    found.take s.length ++ literalRegions ps (found.drop s.length)
  | .name n :: ps, found => literalRegions ps (found.drop n.text.length)

/-- A name has a character that it begins with. -/
theorem isNameStart_spell (n : ParamName) (rest : Text) :
    (n.text ++ rest).head?.any Text.isNameStart = true := by
  have hname := n.wellFormed
  cases htext : n.text with
  | nil => simp [htext, Text.isName] at hname
  | cons c name =>
    rw [htext] at hname
    obtain ⟨hstart, -⟩ := Bool.and_eq_true_iff.mp hname
    exact hstart

/-- Parts that are the same with names at the same places. -/
inductive DifferInNames : List Part → List Part → Prop
  | nil : DifferInNames [] []
  | literal (s : Text) {ps qs : List Part} (h : DifferInNames ps qs) :
    DifferInNames (.literal s :: ps) (.literal s :: qs)
  | name (n m : ParamName) {ps qs : List Part} (h : DifferInNames ps qs) :
    DifferInNames (.name n :: ps) (.name m :: qs)

theorem differInNames_of_fixed {ps qs : List Part}
    (h : ps.map Part.fixed? = qs.map Part.fixed?) : DifferInNames ps qs := by
  induction ps generalizing qs with
  | nil =>
    rw [List.map_nil, eq_comm, List.map_eq_nil_iff] at h
    subst h
    exact .nil
  | cons p ps ih =>
    obtain ⟨q, qs, rfl, hfront, hrest⟩ := List.map_eq_cons_iff.mp h.symm
    have hrest := ih hrest.symm
    cases p with
    | literal s =>
      cases q with
      | literal t =>
        cases hfront
        exact .literal s hrest
      | name m => cases hfront
    | name n =>
      cases q with
      | literal t => cases hfront
      | name m => exact .name n m hrest

/-- From in front, such parts look the same. -/
theorem sameStart_spellAll {ps qs : List Part} (h : DifferInNames ps qs) :
    SameStart (spellAll ps).head? (spellAll qs).head? := by
  induction h with
  | nil => exact .inl rfl
  | literal s h ih =>
    cases s with
    -- An empty text leaves the look to what is behind it.
    | nil => exact ih
    | cons c s => exact .inl rfl
  | name n m h ih => exact .inr ⟨isNameStart_spell n _, isNameStart_spell m _⟩

/-- Behind a name, the regions are those of what follows it. -/
theorem drop_regionsFrom_name (current : Region) (n : ParamName) (rest : Text) :
    (regionsFrom current (n.text ++ rest)).drop n.text.length = regionsFrom current rest := by
  rw [regionsFrom_name n.wellFormed, List.drop_left' List.length_replicate]

/-- The literal texts of such parts are in the same regions. -/
theorem literalRegions_eq {ps qs : List Part} (h : DifferInNames ps qs) (current : Region) :
    literalRegions ps (regionsFrom current (spellAll ps))
      = literalRegions qs (regionsFrom current (spellAll qs)) := by
  -- At the front of the parts that are left, the same region is open in both.
  induction h generalizing current with
  | nil => rfl
  | literal s h ih =>
    obtain ⟨inside, after, hlength, hps, hqs⟩ :=
      regionsFrom_of_sameStart (sameStart_spellAll h) s current
    simp only [spellAll_cons, Part.spell, literalRegions, hps, hqs,
      List.take_left' hlength, List.drop_left' hlength, ih]
  | name n m h ih =>
    simp only [spellAll_cons, Part.spell, literalRegions, drop_regionsFrom_name, ih]

/-! ### Two renderings of a template -/

/-- A template renders to the same text for both data, up to names. Either
both fail, with the same error, or

1. `first`, `second`: the two texts are these parts, as rendering puts them
   together;
2. `sameText`: the parts are the same literal texts in the same order, with
   names at the same places;
3. `sameClasses`: each character of a literal text is of the same class for the
   scanner of statements. -/
inductive RendersAlike (template : ReleaseLag.Template) (d e : Data) : Prop
  | failed (error : Template.Error) (first : template.render d = .error error)
    (second : template.render e = .error error)
  | rendered (ps qs : List Part)
    (first : parts template d = .ok ps ∧ template.render d = .ok (spellAll ps))
    (second : parts template e = .ok qs ∧ template.render e = .ok (spellAll qs))
    (sameText : ps.map Part.fixed? = qs.map Part.fixed?)
    (sameClasses : literalRegions ps (classes (spellAll ps))
      = literalRegions qs (classes (spellAll qs)))

/-- Names cannot change the lexical structure of a query. -/
theorem rendersAlike_of_sameShape {d e : Data} (h : SameShape d e)
    (template : ReleaseLag.Template) : RendersAlike template d e := by
  have halike := alike_parts h template
  have hfirst := render_eq_parts template d
  have hsecond := render_eq_parts template e
  generalize hps : parts template d = x at halike hfirst
  generalize hqs : parts template e = y at halike hsecond
  cases halike with
  | failed error => exact .failed error hfirst hsecond
  | @found ps qs hsame =>
    refine .rendered ps qs ⟨hps, hfirst⟩ ⟨hqs, hsecond⟩ hsame ?_
    rw [classes_eq_regions, classes_eq_regions]
    exact literalRegions_eq (differInNames_of_fixed hsame) .plain

/-- A scalar field and a list. -/
def placesSchema : Schema :=
  .ofList [(['A'], .scalar), (['L'], .list)]

/-- Names between quotes, between two dashes, behind an at sign, against each
other and in a comment. -/
def placesSource : Text :=
  ("'\x7b\x7b.A\x7d\x7d'-\x7b\x7b.A\x7d\x7d-@\x7b\x7b.A\x7d\x7d\x7b\x7b.A\x7d\x7d --"
    ++ "\x7b\x7brange $v := .L\x7d\x7d\x7b\x7b$v\x7d\x7d\x7b\x7bend\x7d\x7d").toList

/-- The template of `placesSource`. -/
def placesTemplate : ReleaseLag.Template where
  nodes := [.text ['\''], .field ['A'] 1, .text ['\'', '-'], .field ['A'] 9, .text ['-', '@'],
    .field ['A'] 17, .field ['A'] 23, .text [' ', '-', '-'],
    .each ['v'] ['L'] [.var ['v'] 50] 32]
  schema := placesSchema

/-- Data for `placesSource` with short names. -/
def shortNames : Data :=
  .ofList [(['A'], .name ⟨['a'], by decide⟩), (['L'], .names [⟨['q'], by decide⟩])]

/-- Data for `placesSource` with longer names. -/
def longNames : Data :=
  .ofList [(['A'], .name ⟨['_', '1'], by decide⟩), (['L'], .names [⟨['A', 'S', 'C'], by decide⟩])]

/-- The texts for short and for longer names have their quotes, dashes and
placeholder in the same places. -/
theorem rendersAlike_places : Template.compile placesSchema placesSource = .ok placesTemplate
    ∧ SameShape shortNames longNames
    ∧ placesTemplate.render shortNames = .ok "'a'-a-@aa --q".toList
    ∧ placesTemplate.render longNames = .ok "'_1'-_1-@_1_1 --ASC".toList
    ∧ RendersAlike placesTemplate shortNames longNames := by
  have htokens : Token.tokenize placesSource = .ok
      [.text ['\''], .action (.field ['A']) 1, .text ['\'', '-'], .action (.field ['A']) 9,
        .text ['-', '@'], .action (.field ['A']) 17, .action (.field ['A']) 23,
        .text [' ', '-', '-'], .action (.openRange ['v'] ['L']) 32, .action (.var ['v']) 50,
        .action .close 56] :=
    toOption_eq_some_iff.mp (by decide +kernel)
  have hcompile : Template.compile placesSchema placesSource = .ok placesTemplate := by
    rw [Template.compile, htokens]
    rfl
  have hshape : SameShape shortNames longNames := sameShape_iff.mpr rfl
  exact ⟨hcompile, hshape, rfl, rfl, rendersAlike_of_sameShape hshape placesTemplate⟩

end ReleaseLag.Proofs.Template
