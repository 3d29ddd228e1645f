import ReleaseLag.Proofs.Except
import ReleaseLag.Template.Render

/-!
# `ReleaseLag.Proofs.Template.Parts`: what a query text is put together from

A rendered text is literal text of the template with names of parameters
between, but the text alone does not show where one ends and the other
begins. `parts` goes through a template as rendering does and keeps them
apart; `render_eq_parts` says that rendering spells the parts, and fails
where no parts are found.
-/

set_option autoImplicit false

namespace ReleaseLag.Proofs.Template

open ReleaseLag.Template

/-- A stretch of rendered text: literal text of the template, or a name that
the data bind. -/
inductive Part
  | literal (s : Text)
  | name (n : ParamName)
  deriving DecidableEq

namespace Part

/-- The text of a part. -/
def spell : Part → Text
  | literal s => s
  | name n => n.text

/-- The text of a part that does not come from the data. -/
def fixed? : Part → Option Text
  | literal s => some s
  | name _ => none

end Part

/-- The text of parts, one after the other. -/
def spellAll (ps : List Part) : Text :=
  ps.flatMap Part.spell

section Results

variable {α β ε : Type}

/-- A result with another behind it. -/
def followedBy (x y : Except ε (List β)) : Except ε (List β) := do
  return (← x) ++ (← y)

/-- The results for the elements of a list, one behind the other. -/
def eachOf (f : α → Except ε (List β)) (l : List α) : Except ε (List β) := do
  return (← l.mapM f).flatten

/-- The result for the first element stands in front of the others. -/
theorem eachOf_cons (f : α → Except ε (List β)) (a : α) (l : List α) :
    eachOf f (a :: l) = followedBy (f a) (eachOf f l) := by
  unfold eachOf followedBy
  rw [List.mapM_cons]
  cases f a with
  | error e => rfl
  | ok front =>
    cases l.mapM f with
    | error e => rfl
    | ok rest => rfl

@[simp] theorem followedBy_ok (x y : List β) :
    followedBy (.ok x : Except ε (List β)) (.ok y) = .ok (x ++ y) := rfl

theorem nil_followedBy (x : Except ε (List β)) : followedBy (.ok []) x = x := by
  cases x <;> rfl

theorem followedBy_nil (x : Except ε (List β)) : followedBy x (.ok []) = x := by
  cases x with
  | error e => rfl
  | ok front => rw [followedBy_ok, List.append_nil]

theorem followedBy_assoc (x y z : Except ε (List β)) :
    followedBy (followedBy x y) z = followedBy x (followedBy y z) := by
  cases x with
  | error e => rfl
  | ok front =>
    cases y with
    | error e => rfl
    | ok middle =>
      cases z with
      | error e => rfl
      | ok back => simp

/-- Renaming errors goes through results that stand behind each other. -/
theorem mapError_followedBy {δ : Type} (f : ε → δ) (x y : Except ε (List β)) :
    (followedBy x y).mapError f = followedBy (x.mapError f) (y.mapError f) := by
  cases x with
  | error e => rfl
  | ok front => cases y <;> rfl

theorem mapError_eachOf {δ : Type} (f : ε → δ) (g : α → Except ε (List β)) (l : List α) :
    (eachOf g l).mapError f = eachOf (fun a => (g a).mapError f) l := by
  induction l with
  | nil => rfl
  | cons a l ih => rw [eachOf_cons, eachOf_cons, mapError_followedBy, ih]

/-- A result that is the same for each element is there once for each. -/
theorem eachOf_const_ok (y : List β) (l : List α) :
    eachOf (fun _ => (.ok y : Except ε (List β))) l
      = .ok (List.replicate l.length y).flatten := by
  induction l with
  | nil => rfl
  | cons a l ih =>
    rw [eachOf_cons, ih, followedBy_ok, List.length_cons, List.replicate_succ, List.flatten_cons]

/-- An error that is the same for each element is that of the first. -/
theorem eachOf_const_error {l : List α} (h : l ≠ []) (e : ε) :
    eachOf (fun _ => (.error e : Except ε (List β))) l = .error e := by
  cases l with
  | nil => exact absurd rfl h
  | cons a l => rfl

end Results

mutual

/-- The parts that a node renders to, with the variables in scope, innermost
first. -/
def partsOf (data : Data) (vars : List (Text × ParamName)) :
    Node → Except Template.Error (List Part)
  | .text s => .ok [.literal s]
  | .field name position =>
    match data.binding name with
    | .name n => .ok [.name n]
    | _ => .error ⟨position, .unboundField name⟩
  | .var name position =>
    match vars.lookup name with
    | some n => .ok [.name n]
    | none => .error ⟨position, .unboundVariable name⟩
  | .cond field body _ => if data.isPresent field then partsAll data vars body else .ok []
  | .each var list body position =>
    match data.binding list with
    | .names ns => eachOf (fun n => partsAll data ((var, n) :: vars) body) ns
    | _ => .error ⟨position, .unboundList list⟩

/-- The parts that nodes render to. -/
def partsAll (data : Data) (vars : List (Text × ParamName)) :
    List Node → Except Template.Error (List Part)
  | [] => .ok []
  | node :: nodes => followedBy (partsOf data vars node) (partsAll data vars nodes)

end

/-- The parts that a template renders to for some data. -/
def parts (template : ReleaseLag.Template) (data : Data) :
    Except Template.Error (List Part) := do
  checkData template.schema data.entries
  partsAll data [] template.nodes

/-! ### Parts and rendering -/

variable {α ε : Type} {data : Data}

@[simp] theorem spellAll_nil : spellAll [] = [] := rfl

@[simp] theorem spellAll_cons (p : Part) (ps : List Part) :
    spellAll (p :: ps) = p.spell ++ spellAll ps :=
  List.flatMap_cons

@[simp] theorem spellAll_append (ps qs : List Part) :
    spellAll (ps ++ qs) = spellAll ps ++ spellAll qs :=
  List.flatMap_append

/-- Parts with others behind them spell their texts in this order. -/
theorem followedBy_spellAll (x y : Except ε (List Part)) :
    followedBy (x.map spellAll) (y.map spellAll) = (followedBy x y).map spellAll := by
  cases x with
  | error e => rfl
  | ok ps =>
    cases y with
    | error e => rfl
    | ok qs => exact congrArg Except.ok (spellAll_append ps qs).symm

/-- So do the parts for the elements of a list. -/
theorem eachOf_spellAll (f : α → Except ε (List Part)) (l : List α) :
    eachOf (fun a => (f a).map spellAll) l = (eachOf f l).map spellAll := by
  induction l with
  | nil => rfl
  | cons a l ih => rw [eachOf_cons, eachOf_cons, ih, followedBy_spellAll]

mutual

/-- Rendering a node spells its parts. -/
theorem render_eq_partsOf (vars : List (Text × ParamName)) (node : Node) :
    node.render data vars = (partsOf data vars node).map spellAll := by
  cases node with
  | text s => simp [Node.render, partsOf, Except.map, Part.spell]
  | field name position =>
    rw [Node.render, partsOf]
    cases data.binding name with
    | name n => simp [Except.map, Part.spell]
    | names ns => rfl
    | absent => rfl
  | var name position =>
    rw [Node.render, partsOf]
    cases vars.lookup name with
    | some n => simp [Except.map, Part.spell]
    | none => rfl
  | cond field body position =>
    rw [Node.render, partsOf]
    split
    · exact renderAll_eq_partsAll vars body
    · rfl
  | each var list body position =>
    rw [Node.render, partsOf]
    cases data.binding list with
    | name n => rfl
    | names ns =>
      have hbody : (fun n => renderAll data ((var, n) :: vars) body)
          = fun n => (partsAll data ((var, n) :: vars) body).map spellAll :=
        funext fun n => renderAll_eq_partsAll ((var, n) :: vars) body
      simp only [hbody]
      exact eachOf_spellAll _ ns
    | absent => rfl

/-- Rendering nodes spells their parts. -/
theorem renderAll_eq_partsAll (vars : List (Text × ParamName)) (nodes : List Node) :
    renderAll data vars nodes = (partsAll data vars nodes).map spellAll := by
  cases nodes with
  | nil => rfl
  | cons node nodes =>
    rw [renderAll, partsAll, render_eq_partsOf vars node, renderAll_eq_partsAll vars nodes]
    exact followedBy_spellAll _ _

end

/-- Rendering a template spells its parts. -/
theorem render_eq_parts (template : ReleaseLag.Template) (data : Data) :
    render template data = (parts template data).map spellAll := by
  rw [render, parts]
  cases checkData template.schema data.entries with
  | error e => rfl
  | ok u => exact renderAll_eq_partsAll [] template.nodes

end ReleaseLag.Proofs.Template
