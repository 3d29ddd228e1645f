import ReleaseLag.Proofs.Template.Parts
import ReleaseLag.Proofs.Template.Printing

/-!
# `ReleaseLag.Proofs.Template.Moving`: templates further on in a source

What stands in front of a source moves its tokens by as many bytes and changes
nothing else of them (`spelled_moved`). Nodes that are moved render alike, and
an error points as many bytes further on (`renderAll_moved`).

Rendering also depends on the variables in scope, but only on those that a
node may use: `renderAll_of_agree` compares two environments on the variables
that `ScopedAll` allows. A whole template may use none, so it renders the same
inside any ranges (`renderAll_of_closed`).
-/

set_option autoImplicit false

namespace ReleaseLag.Proofs.Template

open ReleaseLag.Template

/-! ### Positions -/

/-- A token as many bytes further on. -/
def movedToken (k : Nat) : Token → Token
  | .text s => .text s
  | .action a position => .action a (k + position)

mutual

/-- A node as many bytes further on. -/
def moved (k : Nat) : Node → Node
  | .text s => .text s
  | .field name position => .field name (k + position)
  | .var name position => .var name (k + position)
  | .cond field body position => .cond field (movedAll k body) (k + position)
  | .each var list body position => .each var list (movedAll k body) (k + position)

/-- Nodes as many bytes further on. -/
def movedAll (k : Nat) : List Node → List Node
  | [] => []
  | node :: nodes => moved k node :: movedAll k nodes

end

/-- An error that points as many bytes further on. -/
def movedError (k : Nat) (e : Template.Error) : Template.Error :=
  ⟨k + e.position, e.fault⟩

theorem movedAll_append (k : Nat) (xs ys : List Node) :
    movedAll k (xs ++ ys) = movedAll k xs ++ movedAll k ys := by
  induction xs with
  | nil => rfl
  | cons x xs ih => simp [movedAll, ih]

theorem map_movedToken_ofText (k : Nat) (s : Text) :
    (Token.ofText s).map (movedToken k) = Token.ofText s := by
  unfold Token.ofText
  split <;> rfl

/-- A text is a source further on if it is one, and its tokens move along. -/
theorem spelled_moved {k position : Nat} {s : Text} {tokens : List Token}
    (h : Spelled position s tokens) : Spelled (k + position) s (tokens.map (movedToken k)) := by
  induction h with
  | last hopen hclose =>
    rw [map_movedToken_ofText]
    exact .last hopen hclose
  | @action position lead body rest a tokens hopen hclose hbody _ ih =>
    have hbehind : k + (position + Text.size lead + Text.size body + 4)
        = k + position + Text.size lead + Text.size body + 4 := by omega
    have hspelled := Spelled.action hopen hclose hbody (hbehind ▸ ih)
    rw [List.map_append, map_movedToken_ofText, List.map_cons, movedToken, ← Nat.add_assoc]
    exact hspelled

/-! ### Rendering -/

variable {data : Data}

/-- Nodes behind each other render to texts behind each other. -/
theorem renderAll_append (env : List (Text × ParamName)) (xs ys : List Node) :
    renderAll data env (xs ++ ys)
      = followedBy (renderAll data env xs) (renderAll data env ys) := by
  induction xs with
  | nil => exact (nil_followedBy _).symm
  | cons x xs ih =>
    show followedBy (x.render data env) (renderAll data env (xs ++ ys))
      = followedBy (followedBy (x.render data env) (renderAll data env xs)) (renderAll data env ys)
    rw [ih, followedBy_assoc]

mutual

/-- A node that is moved renders alike. -/
theorem render_moved (k : Nat) (env : List (Text × ParamName)) (node : Node) :
    (moved k node).render data env = (node.render data env).mapError (movedError k) := by
  cases node with
  | text s => rfl
  | field name position =>
    rw [moved, Node.render, Node.render]
    cases data.binding name <;> rfl
  | var name position =>
    rw [moved, Node.render, Node.render]
    cases env.lookup name <;> rfl
  | cond field body position =>
    rw [moved, Node.render, Node.render]
    split
    · exact renderAll_moved k env body
    · rfl
  | each var list body position =>
    rw [moved, Node.render, Node.render]
    cases data.binding list with
    | names ns =>
      have hbody : (fun n => renderAll data ((var, n) :: env) (movedAll k body))
          = fun n => (renderAll data ((var, n) :: env) body).mapError (movedError k) :=
        funext fun n => renderAll_moved k ((var, n) :: env) body
      simp only [hbody]
      exact (mapError_eachOf (movedError k) _ ns).symm
    | name n => rfl
    | absent => rfl

/-- Nodes that are moved render alike. -/
theorem renderAll_moved (k : Nat) (env : List (Text × ParamName)) (nodes : List Node) :
    renderAll data env (movedAll k nodes) = (renderAll data env nodes).mapError (movedError k) := by
  cases nodes with
  | nil => rfl
  | cons node nodes =>
    show followedBy ((moved k node).render data env) (renderAll data env (movedAll k nodes))
      = (followedBy (node.render data env) (renderAll data env nodes)).mapError (movedError k)
    rw [mapError_followedBy, render_moved k env node, renderAll_moved k env nodes]

end

/-! ### Variables that are not used -/

/-- Two environments give these variables the same names, if any. -/
def AgreeOn (vars : List Text) (env other : List (Text × ParamName)) : Prop :=
  ∀ var ∈ vars, env.lookup var = other.lookup var

/-- Environments still agree inside a range. -/
theorem AgreeOn.declared {vars : List Text} {env other : List (Text × ParamName)}
    (h : AgreeOn vars env other) (var : Text) (n : ParamName) :
    AgreeOn (var :: vars) ((var, n) :: env) ((var, n) :: other) := by
  intro name hmem
  rw [List.lookup_cons, List.lookup_cons]
  by_cases heq : name = var
  · simp [heq]
  · have hmem : name ∈ vars := (List.mem_cons.mp hmem).resolve_left heq
    rw [h name hmem]

mutual

/-- A node renders the same where the variables that it may use have the same
names. -/
theorem render_of_agree {schema : Schema} {guards vars : List Text}
    {env other : List (Text × ParamName)} (hagree : AgreeOn vars env other) (node : Node)
    (hscoped : node.Scoped schema guards vars) :
    node.render data env = node.render data other := by
  cases node with
  | text s => rfl
  | field name position => rfl
  | var name position =>
    rw [Node.render, Node.render, hagree name hscoped]
  | cond field body position =>
    rw [Node.render, Node.render, renderAll_of_agree hagree body hscoped.2]
  | each var list body position =>
    have hbody : (fun n => renderAll data ((var, n) :: env) body)
        = fun n => renderAll data ((var, n) :: other) body :=
      funext fun n => renderAll_of_agree (hagree.declared var n) body hscoped.2.2
    rw [Node.render, Node.render, hbody]

/-- Nodes render the same where the variables that they may use have the same
names. -/
theorem renderAll_of_agree {schema : Schema} {guards vars : List Text}
    {env other : List (Text × ParamName)} (hagree : AgreeOn vars env other) (nodes : List Node)
    (hscoped : ScopedAll schema guards vars nodes) :
    renderAll data env nodes = renderAll data other nodes := by
  cases nodes with
  | nil => rfl
  | cons node nodes =>
    rw [renderAll, renderAll, render_of_agree hagree node hscoped.1,
      renderAll_of_agree hagree nodes hscoped.2]

end

/-- Nodes that may use no variables render the same inside any ranges. -/
theorem renderAll_of_closed {schema : Schema} {guards : List Text} {nodes : List Node}
    (hscoped : ScopedAll schema guards [] nodes) (env : List (Text × ParamName)) :
    renderAll data env nodes = renderAll data [] nodes :=
  renderAll_of_agree (fun _ hmem => absurd hmem List.not_mem_nil) nodes hscoped

end ReleaseLag.Proofs.Template
