import ReleaseLag.Proofs.Except
import ReleaseLag.Template.Render

/-!
# `ReleaseLag.Proofs.Template.Rendering`: rendering, node by node

What a list of nodes renders to when each node renders: the texts one after
the other, and for a range the texts of its body for each name.
-/

set_option autoImplicit false

namespace ReleaseLag.Proofs.Template

open ReleaseLag.Template

variable {data : Data} {vars : List (Text × ParamName)}

/-- The text of a node stands in front of the text of those behind it. -/
theorem renderAll_cons_ok {node : Node} {nodes : List Node} {text rest : Text}
    (hnode : node.render data vars = .ok text) (hnodes : renderAll data vars nodes = .ok rest) :
    renderAll data vars (node :: nodes) = .ok (text ++ rest) := by
  rw [renderAll, hnode, ok_bind, hnodes, ok_bind, pure_eq_ok]

/-- A field with a name renders to the name. -/
theorem render_field_ok {field : Text} {n : ParamName} (position : Nat)
    (h : data.binding field = .name n) : (Node.field field position).render data vars = .ok n.text := by
  rw [Node.render, h]

/-- A variable in scope renders to its name. -/
theorem render_var_ok {var : Text} {n : ParamName} (position : Nat)
    (h : vars.lookup var = some n) : (Node.var var position).render data vars = .ok n.text := by
  rw [Node.render, h]

/-- A range renders to the texts of its body, one for each name. -/
theorem render_each_ok {var list : Text} {body : List Node} {ns : List ParamName}
    {text : ParamName → Text} (position : Nat) (hlist : data.binding list = .names ns)
    (hbody : ∀ n ∈ ns, renderAll data ((var, n) :: vars) body = .ok (text n)) :
    (Node.each var list body position).render data vars = .ok (ns.flatMap text) := by
  rw [Node.render, hlist]
  simp only [mapM_eq_ok hbody, ok_bind, pure_eq_ok, List.flatMap_def]

end ReleaseLag.Proofs.Template
