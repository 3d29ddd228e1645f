import ReleaseLag.Proofs.Template.Bindings
import ReleaseLag.Proofs.Template.Scoping

/-!
# `ReleaseLag.Proofs.Template.Soundness`: templates that compile do not go wrong

Evaluation goes through the nodes of a template in order, into a block if its
field is present, and through the body of a range once for each name:
`visitsAll` lists what it comes to. Two kinds of node stop it, a scalar field
that is not bound and a range over a list that is not; `stuck?` gives the
error. That a variable is unbound or an optional field absent where it is
substituted cannot happen: `Supports` is the invariant, and says that what a
place may use by its blocks is there whenever evaluation gets to the place.

`agrees_visitsAll` is the induction over the tree: rendering gives a text if
no node that is visited stops it, and otherwise the error of the first one.
`sound_of_compile` is the statement about sources.
-/

set_option autoImplicit false

namespace ReleaseLag.Proofs.Template

open ReleaseLag.Template

/-! ### What evaluation comes to -/

/-- The names that a range goes through. -/
def namesOf (data : Data) (list : Text) : List ParamName :=
  match data.binding list with
  | .names ns => ns
  | _ => []

mutual

/-- The nodes that evaluation comes to in a node, beginning with the node. -/
def visits (data : Data) : Node → List Node
  | .text s => [.text s]
  | .field name position => [.field name position]
  | .var name position => [.var name position]
  | .cond field body position =>
    .cond field body position :: (if data.isPresent field then visitsAll data body else [])
  | .each var list body position =>
    .each var list body position :: (namesOf data list).flatMap fun _ => visitsAll data body

/-- The nodes that evaluation comes to in a list of nodes. -/
def visitsAll (data : Data) : List Node → List Node
  | [] => []
  | node :: nodes => visits data node ++ visitsAll data nodes

end

/-- The error of a node that evaluation cannot get past: the substitution of a
scalar field that is not bound, or a range over a list that is not. -/
def stuck? (schema : Schema) (data : Data) : Node → Option Template.Error
  | .field name position =>
    if schema.get? name = some .scalar ∧ data.get? name = none then
      some ⟨position, .unboundField name⟩
    else none
  | .each _ list _ position =>
    if schema.get? list = some .list ∧ data.get? list = none then
      some ⟨position, .unboundList list⟩
    else none
  | _ => none

/-! ### Results that agree with what was visited -/

variable {schema : Schema} {data : Data} {α β : Type}

/-- A result is good if evaluation comes to no node that it cannot get past,
and otherwise the error of the first one. -/
def Agrees (schema : Schema) (data : Data) (visited : List Node) (result : Except Template.Error α) : Prop :=
  match visited.findSome? (stuck? schema data) with
  | none => ∃ a, result = .ok a
  | some e => result = .error e

theorem agrees_ok (a : α) : Agrees schema data [] (.ok a : Except Template.Error α) :=
  ⟨a, rfl⟩

/-- Steps agree with what they come to one after the other. -/
theorem Agrees.bind {first second : List Node} {x : Except Template.Error α} {f : α → Except Template.Error β}
    (hx : Agrees schema data first x) (hf : ∀ a, x = .ok a → Agrees schema data second (f a)) :
    Agrees schema data (first ++ second) (x >>= f) := by
  unfold Agrees at hx ⊢
  rw [List.findSome?_append]
  -- The second step is only come to if the first gave a result.
  cases hfirst : first.findSome? (stuck? schema data) with
  | none =>
    rw [hfirst] at hx
    obtain ⟨a, ha⟩ := hx
    have hsecond := hf a ha
    unfold Agrees at hsecond
    rw [ha, ok_bind, Option.none_or]
    exact hsecond
  | some e =>
    rw [hfirst] at hx
    rw [hx, error_bind]
    rfl

/-- What is made of a result agrees if the result does. -/
theorem Agrees.map {visited : List Node} {x : Except Template.Error α} (hx : Agrees schema data visited x)
    (g : α → β) : Agrees schema data visited (do return g (← x)) := by
  have hbind := hx.bind fun a _ => agrees_ok (g a)
  rwa [List.append_nil] at hbind

/-- A node that evaluation gets past adds nothing. -/
theorem Agrees.cons {node : Node} {visited : List Node} {x : Except Template.Error α}
    (hnode : stuck? schema data node = none) (hx : Agrees schema data visited x) :
    Agrees schema data (node :: visited) x := by
  unfold Agrees at hx ⊢
  rwa [List.findSome?_cons, hnode]

/-- A node that evaluation cannot get past gives its error. -/
theorem agrees_stuck {node : Node} {visited : List Node} {e : Template.Error}
    (hnode : stuck? schema data node = some e) :
    Agrees schema data (node :: visited) (.error e : Except Template.Error α) := by
  unfold Agrees
  rw [List.findSome?_cons, hnode]

/-- Going through the same nodes for each name. -/
theorem Agrees.mapM {visited : List Node} {f : ParamName → Except Template.Error α} {ns : List ParamName}
    (h : ∀ n ∈ ns, Agrees schema data visited (f n)) :
    Agrees schema data (ns.flatMap fun _ => visited) (ns.mapM f) := by
  induction ns with
  | nil => exact agrees_ok []
  | cons n ns ih =>
    obtain ⟨hn, hns⟩ := List.forall_mem_cons.mp h
    rw [List.flatMap_cons, List.mapM_cons]
    exact hn.bind fun a _ => (ih hns).map (a :: ·)

/-! ### What blocks promise -/

/-- The fields that blocks depend on are present, and the variables that they
declare have names. -/
structure Supports (data : Data) (guards vars : List Text)
    (env : List (Text × ParamName)) : Prop where
  present : ∀ field ∈ guards, data.isPresent field = true
  bound : ∀ var ∈ vars, ∃ n, env.lookup var = some n

theorem Supports.nil (data : Data) : Supports data [] [] [] where
  present := fun _ hmem => absurd hmem List.not_mem_nil
  bound := fun _ hmem => absurd hmem List.not_mem_nil

variable {guards vars : List Text} {env : List (Text × ParamName)}

/-- Inside a block whose body is kept. -/
theorem Supports.guarded {field : Text} (h : Supports data guards vars env)
    (hpresent : data.isPresent field = true) : Supports data (field :: guards) vars env where
  present := List.forall_mem_cons.mpr ⟨hpresent, h.present⟩
  bound := h.bound

/-- Inside a range, for one of its names. -/
theorem Supports.declared (h : Supports data guards vars env) (var : Text) (n : ParamName) :
    Supports data guards (var :: vars) ((var, n) :: env) where
  present := h.present
  bound := by
    intro other hmem
    rw [List.lookup_cons]
    by_cases heq : other = var
    · exact ⟨n, by simp [heq]⟩
    · have hmem : other ∈ vars := (List.mem_cons.mp hmem).resolve_left heq
      have hne : (other == var) = false := by simpa using heq
      simpa [hne] using h.bound other hmem

/-! ### Rendering -/

/-- A field that is allowed is stuck or renders. -/
theorem agrees_field (hfits : Fits schema data) (hsupports : Supports data guards vars env)
    {name : Text} {position : Nat} (hscoped : (Node.field name position).Scoped schema guards vars) :
    Agrees schema data [.field name position] ((Node.field name position).render data env) := by
  have hname : ∀ n, data.binding name = .name n → stuck? schema data (.field name position) = none →
      Agrees schema data [.field name position] ((Node.field name position).render data env) := by
    intro n hbinding hnode
    rw [Node.render, hbinding]
    exact Agrees.cons hnode (agrees_ok n.text)
  rcases hscoped with hscalar | ⟨hoptional, hguard⟩
  · by_cases hbound : data.get? name = none
    · have hnode : stuck? schema data (.field name position)
          = some ⟨position, .unboundField name⟩ := if_pos ⟨hscalar, hbound⟩
      rw [Node.render, binding_of_none hbound]
      exact agrees_stuck hnode
    · obtain ⟨n, hbinding⟩ := exists_name_of_scalar hfits hscalar hbound
      exact hname n hbinding (if_neg fun h => hbound h.2)
  · -- The guard makes sure that there is a name.
    obtain ⟨n, hbinding⟩ := exists_name_of_isPresent hfits hoptional (hsupports.present name hguard)
    refine hname n hbinding (if_neg fun h => ?_)
    rw [hoptional] at h
    cases h.1

mutual

/-- Rendering a node agrees with what it comes to. -/
theorem agrees_visits (hfits : Fits schema data) {guards vars : List Text}
    {env : List (Text × ParamName)} (hsupports : Supports data guards vars env) :
    ∀ node : Node, node.Scoped schema guards vars →
      Agrees schema data (visits data node) (node.render data env)
  | .text s, _ => Agrees.cons rfl (agrees_ok s)
  | .field name position, hscoped => by
    rw [visits]
    exact agrees_field hfits hsupports hscoped
  | .var name position, hscoped => by
    obtain ⟨n, hbound⟩ := hsupports.bound name hscoped
    rw [visits, Node.render, hbound]
    exact Agrees.cons rfl (agrees_ok n.text)
  | .cond field body position, hscoped => by
    rw [visits, Node.render]
    refine Agrees.cons rfl ?_
    by_cases hpresent : data.isPresent field = true
    · rw [if_pos hpresent, if_pos hpresent]
      exact agrees_visitsAll hfits (hsupports.guarded hpresent) body hscoped.2
    · rw [if_neg hpresent, if_neg hpresent]
      exact agrees_ok []
  | .each var list body position, hscoped => by
    obtain ⟨hlist, -, hbody⟩ := hscoped
    rw [visits, Node.render]
    by_cases hbound : data.get? list = none
    · have hnode : stuck? schema data (.each var list body position)
          = some ⟨position, .unboundList list⟩ := if_pos ⟨hlist, hbound⟩
      rw [binding_of_none hbound]
      exact agrees_stuck hnode
    · -- Each name is a variable's value once; the guards stay as they are.
      obtain ⟨ns, hbinding⟩ := exists_names_of_list hfits hlist hbound
      have hnames : namesOf data list = ns := by rw [namesOf, hbinding]
      rw [hbinding, hnames]
      refine Agrees.cons (if_neg fun h => hbound h.2) ?_
      refine (Agrees.mapM fun n _ => ?_).map List.flatten
      exact agrees_visitsAll hfits (hsupports.declared var n) body hbody

/-- Rendering nodes agrees with what they come to. -/
theorem agrees_visitsAll (hfits : Fits schema data) {guards vars : List Text}
    {env : List (Text × ParamName)} (hsupports : Supports data guards vars env) :
    ∀ nodes : List Node, ScopedAll schema guards vars nodes →
      Agrees schema data (visitsAll data nodes) (renderAll data env nodes)
  | [], _ => agrees_ok []
  | node :: nodes, hscoped => by
    rw [visitsAll, renderAll]
    exact (agrees_visits hfits hsupports node hscoped.1).bind fun text _ =>
      (agrees_visitsAll hfits hsupports nodes hscoped.2).map (text ++ ·)

end

/-! ### Lists that are ranged over -/

mutual

/-- The lists that the ranges in a node go over, whether evaluation comes to
them or not. -/
def rangedLists : Node → List Text
  | .cond _ body _ => rangedListsAll body
  | .each _ list body _ => list :: rangedListsAll body
  | _ => []

@[inherit_doc rangedLists]
def rangedListsAll : List Node → List Text
  | [] => []
  | node :: nodes => rangedLists node ++ rangedListsAll nodes

end

variable {var list : Text} {inner : List Node} {position : Nat}

mutual

theorem mem_rangedLists : ∀ node : Node,
    .each var list inner position ∈ visits data node → list ∈ rangedLists node
  | .text s, hmem => by simp [visits] at hmem
  | .field name _, hmem => by simp [visits] at hmem
  | .var name _, hmem => by simp [visits] at hmem
  | .cond field body _, hmem => by
    rw [visits] at hmem
    rw [rangedLists]
    rcases List.mem_cons.mp hmem with heq | hmem
    · cases heq
    · split at hmem
      · exact mem_rangedListsAll body hmem
      · cases hmem
  | .each _ _ body _, hmem => by
    rw [visits] at hmem
    rw [rangedLists]
    rcases List.mem_cons.mp hmem with heq | hmem
    · cases heq
      exact List.mem_cons_self
    · obtain ⟨n, -, hmem⟩ := List.mem_flatMap.mp hmem
      exact List.mem_cons_of_mem _ (mem_rangedListsAll body hmem)

theorem mem_rangedListsAll : ∀ nodes : List Node,
    .each var list inner position ∈ visitsAll data nodes → list ∈ rangedListsAll nodes
  | [], hmem => by cases hmem
  | node :: nodes, hmem => by
    rw [visitsAll] at hmem
    rw [rangedListsAll]
    rcases List.mem_append.mp hmem with hmem | hmem
    · exact List.mem_append_left _ (mem_rangedLists node hmem)
    · exact List.mem_append_right _ (mem_rangedListsAll nodes hmem)

end

/-- Evaluation gets past every node if the fields it may need are bound. -/
theorem stuck?_eq_none {nodes : List Node}
    (hscalars : ∀ field, schema.get? field = some .scalar → data.get? field ≠ none)
    (hlists : ∀ list ∈ rangedListsAll nodes, data.get? list ≠ none) :
    ∀ node ∈ visitsAll data nodes, stuck? schema data node = none := by
  intro node hmem
  cases node with
  | text s => rfl
  | field name position => exact if_neg fun h => hscalars name h.1 h.2
  | var name position => rfl
  | cond field body position => rfl
  | each var list body position =>
    exact if_neg fun h => hlists list (mem_rangedListsAll nodes hmem) h.2

/-- What evaluation cannot get past is a scalar field or a range. -/
theorem fault_of_stuck? {node : Node} {e : Template.Error}
    (h : stuck? schema data node = some e) :
    (∃ field, e.fault = .unboundField field ∧ schema.get? field = some .scalar)
      ∨ ∃ list, e.fault = .unboundList list := by
  cases node with
  | text s => cases h
  | field name position =>
    obtain ⟨hscalar, heq⟩ := Option.ite_none_right_eq_some.mp h
    cases heq
    exact .inl ⟨name, rfl, hscalar.1⟩
  | var name position => cases h
  | cond field body position => cases h
  | each var list body position =>
    obtain ⟨-, heq⟩ := Option.ite_none_right_eq_some.mp h
    cases heq
    exact .inr ⟨list, rfl⟩

/-! ### Templates that compile -/

/-- How a template and data can go wrong, and how they cannot:

1. `fails_iff`: rendering fails if and only if the data do not keep to the
   schema, or evaluation comes to a node that it cannot get past;
2. `first`: with data that keep to the schema, the error is that of the first
   such node, at its position;
3. `never`: no variable is found unbound, and no field but a scalar one;
4. `total`: data that keep to the schema and bind all scalar fields and all
   lists that are ranged over render. -/
structure Sound (schema : Schema) (template : Template) (data : Data) : Prop where
  fails_iff : (∃ e, template.render data = .error e)
    ↔ Misfits schema data
      ∨ ∃ node ∈ visitsAll data template.nodes, (stuck? schema data node).isSome = true
  first : Fits schema data → ∀ e, template.render data = .error e
    ↔ ∃ before node after, visitsAll data template.nodes = before ++ node :: after
      ∧ stuck? schema data node = some e ∧ ∀ other ∈ before, stuck? schema data other = none
  never : ∀ e, template.render data = .error e → (∀ var, e.fault ≠ .unboundVariable var)
    ∧ ∀ field, e.fault = .unboundField field → schema.get? field = some .scalar
  total : Fits schema data
    → (∀ field, schema.get? field = some .scalar → data.get? field ≠ none)
    → (∀ list ∈ rangedListsAll template.nodes, data.get? list ≠ none)
    → ∃ text, template.render data = .ok text

/-- With data that keep to the schema, the error is that of the first node
that evaluation cannot get past. -/
theorem render_eq_error_iff {template : Template} (hscoped : ScopedAll schema [] [] template.nodes)
    (hschema : template.schema = schema) (hfits : Fits schema data) {e : Template.Error} :
    template.render data = .error e
      ↔ (visitsAll data template.nodes).findSome? (stuck? schema data) = some e := by
  have hagrees := agrees_visitsAll hfits (Supports.nil data) template.nodes hscoped
  have hchecked : checkData schema data.entries = .ok () := checkData_eq_ok_iff.mpr hfits
  unfold Agrees at hagrees
  rw [Template.render, hschema, hchecked, ok_bind]
  cases hstuck : (visitsAll data template.nodes).findSome? (stuck? schema data) with
  | none =>
    rw [hstuck] at hagrees
    obtain ⟨text, htext⟩ := hagrees
    simp [htext]
  | some d =>
    rw [hstuck] at hagrees
    simp [hagrees]

/-- Data that do not keep to the schema fail before anything is rendered. -/
theorem render_of_misfits {template : Template} (hschema : template.schema = schema)
    (hmisfits : Misfits schema data) :
    ∃ e, template.render data = .error e ∧ checkData schema data.entries = .error e := by
  cases hchecked : checkData schema data.entries with
  | ok u => exact absurd hmisfits (not_misfits_iff.mpr (checkData_eq_ok_iff.mp hchecked))
  | error e => exact ⟨e, by rw [Template.render, hschema, hchecked, error_bind], rfl⟩

/-- Templates that compile do not go wrong, whatever data they are rendered
with and however their blocks are nested. -/
theorem sound_of_compile {source : Text} {template : Template}
    (hcompile : Template.compile schema source = .ok template) (data : Data) :
    Sound schema template data := by
  obtain ⟨hschema, hscoped⟩ := scopedAll_of_compile hcompile
  have herror : Fits schema data → ∀ e, template.render data = .error e
      ↔ (visitsAll data template.nodes).findSome? (stuck? schema data) = some e :=
    fun hfits e => render_eq_error_iff hscoped hschema hfits
  constructor
  case fails_iff =>
    by_cases hmisfits : Misfits schema data
    · obtain ⟨e, he, -⟩ := render_of_misfits hschema hmisfits
      exact iff_of_true ⟨e, he⟩ (.inl hmisfits)
    · have hfits := not_misfits_iff.mp hmisfits
      simp only [herror hfits, hmisfits, false_or, ← List.findSome?_isSome_iff]
      exact Option.isSome_iff_exists.symm
  case first =>
    intro hfits e
    exact (herror hfits e).trans List.findSome?_eq_some_iff
  case never =>
    intro e he
    by_cases hmisfits : Misfits schema data
    · obtain ⟨d, hd, hchecked⟩ := render_of_misfits hschema hmisfits
      rw [hd] at he
      cases he
      obtain ⟨field, hfault | ⟨kind, hfault⟩⟩ := fault_of_checkData hchecked
      · simp [hfault]
      · simp [hfault]
    · rw [herror (not_misfits_iff.mp hmisfits)] at he
      obtain ⟨node, -, hnode⟩ := List.exists_of_findSome?_eq_some he
      rcases fault_of_stuck? hnode with ⟨field, hfault, hscalar⟩ | ⟨list, hfault⟩
      · simp [hfault, hscalar]
      · simp [hfault]
  case total =>
    intro hfits hscalars hlists
    cases hrender : template.render data with
    | ok text => exact ⟨text, rfl⟩
    | error e =>
      obtain ⟨node, hmem, hnode⟩ := List.exists_of_findSome?_eq_some ((herror hfits e).mp hrender)
      rw [stuck?_eq_none hscalars hlists node hmem] at hnode
      cases hnode

/-- A scalar field, a list and an optional field. -/
def sampleSchema : Schema :=
  .ofList [(['S'], .scalar), (['L'], .list), (['O'], .optional)]

/-- A range with a block inside, and a scalar behind it. -/
def sampleSource : Text :=
  ("\x7b\x7brange $v := .L\x7d\x7d\x7b\x7bif .O\x7d\x7d\x7b\x7b.O\x7d\x7d\x7b\x7bend\x7d\x7d"
    ++ "\x7b\x7b$v\x7d\x7d\x7b\x7bend\x7d\x7d\x7b\x7b.S\x7d\x7d").toList

/-- The template of `sampleSource`. -/
def sampleTemplate : Template where
  nodes := [.each ['v'] ['L'] [.cond ['O'] [.field ['O'] 27] 18, .var ['v'] 40] 0, .field ['S'] 53]
  schema := sampleSchema

/-- Data that bind the list and nothing else. -/
def sampleData : Data :=
  .ofList [(['L'], .names [⟨['p'], by decide⟩])]

/-- The range is gone through with the optional field absent, and the scalar
behind it stops evaluation. -/
theorem sound_sample : Template.compile sampleSchema sampleSource = .ok sampleTemplate
    ∧ Sound sampleSchema sampleTemplate sampleData
    ∧ sampleTemplate.render sampleData = .error ⟨53, .unboundField ['S']⟩ := by
  have htokens : Token.tokenize sampleSource = .ok
      [.action (.openRange ['v'] ['L']) 0, .action (.openIf ['O']) 18, .action (.field ['O']) 27,
        .action .close 33, .action (.var ['v']) 40, .action .close 46,
        .action (.field ['S']) 53] :=
    toOption_eq_some_iff.mp (by decide +kernel)
  have hcompile : Template.compile sampleSchema sampleSource = .ok sampleTemplate := by
    rw [Template.compile, htokens]
    rfl
  exact ⟨hcompile, sound_of_compile hcompile sampleData, rfl⟩

end ReleaseLag.Proofs.Template
