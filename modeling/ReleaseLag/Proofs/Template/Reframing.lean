import ReleaseLag.Proofs.Template.Moving
import ReleaseLag.Proofs.Template.Scoping
import ReleaseLag.Proofs.Template.Steps

/-!
# `ReleaseLag.Proofs.Template.Reframing`: tokens taken inside other blocks

Tokens that are taken from the beginning of a source may also be taken further
on, behind other nodes and inside blocks that are already open. `Reframed`
relates the two states: the blocks opened since then are the same, moved, and
under them lies what was there at the start. A step leads from related states
to related states (`exists_step_of_reframed`), since each check that passes
still passes with more fields guarded and more variables declared. The one
check that could fail is that of a range, so the tokens must not declare a
variable that an outer range has.

`steps_reframed` is what remains at the end: the same nodes, moved, behind
those that were there.
-/

set_option autoImplicit false

namespace ReleaseLag.Proofs.Template

open ReleaseLag.Template

variable {schema : Schema} {outer : List Frame} {before other : List Node} {k : Nat}

/-! ### Related states -/

/-- A state that was reached from a template's beginning, with the nodes
`before` there, and one that was reached by the same tokens further on, inside
the blocks `outer` and with the nodes `other` there. -/
inductive Reframed (outer : List Frame) (before other : List Node) (k : Nat) :
    Progress → Progress → Prop
  | base (nodes : List Node) :
      Reframed outer before other k ⟨[], before ++ nodes⟩ ⟨outer, other ++ movedAll k nodes⟩
  | block {frames frames' : List Frame} {around around' : List Node} (opener : Opener)
      (position : Nat) (nodes : List Node) :
      Reframed outer before other k ⟨frames, around⟩ ⟨frames', around'⟩ →
      Reframed outer before other k ⟨⟨opener, position, around⟩ :: frames, nodes⟩
        ⟨⟨opener, k + position, around'⟩ :: frames', movedAll k nodes⟩

namespace Reframed

variable {progress progress' : Progress}

/-- Where no block has been opened, or all have been closed. -/
theorem of_no_frames {nodes : List Node} (h : Reframed outer before other k ⟨[], nodes⟩ progress') :
    ∃ inner, nodes = before ++ inner ∧ progress' = ⟨outer, other ++ movedAll k inner⟩ := by
  cases h with
  | base inner => exact ⟨inner, rfl, rfl⟩

/-- Further on, outer blocks depend on more fields. -/
theorem guards_eq (h : Reframed outer before other k progress progress') :
    guardsOf progress'.frames = guardsOf progress.frames ++ guardsOf outer := by
  induction h with
  | base nodes => rfl
  | block opener position nodes _ ih =>
    show guardOf _ ++ guardsOf _ = guardOf _ ++ guardsOf _ ++ _
    rw [ih, List.append_assoc]
    rfl

/-- Further on, outer blocks declare more variables. -/
theorem vars_eq (h : Reframed outer before other k progress progress') :
    varsOf progress'.frames = varsOf progress.frames ++ varsOf outer := by
  induction h with
  | base nodes => rfl
  | block opener position nodes _ ih =>
    show varOf _ ++ varsOf _ = varOf _ ++ varsOf _ ++ _
    rw [ih, List.append_assoc]
    rfl

theorem add (h : Reframed outer before other k progress progress') (node : Node) :
    Reframed outer before other k (progress.add node) (progress'.add (moved k node)) := by
  have hmoved : ∀ nodes, movedAll k nodes ++ [moved k node] = movedAll k (nodes ++ [node]) :=
    fun nodes => (movedAll_append k nodes [node]).symm
  cases h with
  | base nodes =>
    unfold Progress.add
    rw [List.append_assoc, List.append_assoc, hmoved]
    exact .base _
  | block opener position nodes h =>
    unfold Progress.add
    rw [hmoved]
    exact .block opener position _ h

theorem enter (h : Reframed outer before other k progress progress') (opener : Opener)
    (position : Nat) :
    Reframed outer before other k (progress.enter opener position)
      (progress'.enter opener (k + position)) :=
  .block opener position [] h

theorem leave (h : Reframed outer before other k progress progress')
    (hopen : progress.frames ≠ []) :
    Reframed outer before other k progress.leave progress'.leave := by
  cases h with
  | base nodes => exact absurd rfl hopen
  | block opener position nodes h =>
    -- The block becomes a node, so leaving it adds that node, moved, to those around.
    have hnode : (Frame.mk opener (k + position) []).node (movedAll k nodes)
        = moved k ((Frame.mk opener position []).node nodes) := by
      cases opener <;> rfl
    have hadd := h.add ((Frame.mk opener position []).node nodes)
    rw [← hnode] at hadd
    exact hadd

end Reframed

/-! ### Steps -/

/-- Tokens open no range over a variable that open blocks declare. -/
def NewVars (frames : List Frame) (tokens : List Token) : Prop :=
  ∀ var list position, .action (.openRange var list) position ∈ tokens → var ∉ varsOf frames

/-- A check that passes does so inside more blocks, unless they declare the
variable of a range. -/
theorem checkAction_reframed {progress progress' : Progress} {a : Action}
    (h : Reframed outer before other k progress progress')
    (hnew : ∀ var list, a = .openRange var list → var ∉ varsOf outer)
    (hcheck : checkAction schema progress.frames a = .ok ()) :
    checkAction schema progress'.frames a = .ok () := by
  cases a with
  | field name =>
    rcases checkField_eq_ok_iff.mp hcheck with hscalar | ⟨hoptional, hguard⟩
    · exact checkField_eq_ok_iff.mpr (.inl hscalar)
    · refine checkField_eq_ok_iff.mpr (.inr ⟨hoptional, ?_⟩)
      rw [h.guards_eq]
      exact List.mem_append_left _ hguard
  | var name =>
    have hdeclared : name ∈ varsOf progress.frames := checkVar_eq_ok_iff.mp hcheck
    refine checkVar_eq_ok_iff.mpr ?_
    rw [h.vars_eq]
    exact List.mem_append_left _ hdeclared
  | openIf field => exact hcheck
  | openRange var list =>
    -- This is the one check that more declared variables could make fail.
    obtain ⟨hkind, hinside⟩ := checkRange_eq_ok_iff.mp hcheck
    refine checkRange_eq_ok_iff.mpr ⟨hkind, ?_⟩
    rw [h.vars_eq, List.mem_append, not_or]
    exact ⟨hinside, hnew var list rfl⟩
  | close =>
    cases h with
    | base nodes => cases hcheck
    | block opener position nodes h => rfl

/-- What an action changes, it changes further on too. -/
theorem act_reframed {progress progress' : Progress} {a : Action} {position : Nat}
    (h : Reframed outer before other k progress progress')
    (hcheck : checkAction schema progress.frames a = .ok ()) :
    Reframed outer before other k (progress.act position a) (progress'.act (k + position) a) := by
  cases a with
  | field name => exact h.add (.field name position)
  | var name => exact h.add (.var name position)
  | openIf field => exact h.enter (.cond field) position
  | openRange var list => exact h.enter (.each var list) position
  | close =>
    have hopen : progress.frames ≠ [] := by
      intro hnone
      rw [checkAction, hnone] at hcheck
      cases hcheck
    exact h.leave hopen

/-- A step that succeeds does so further on, and what it leads to is still
related. -/
theorem exists_step_of_reframed {progress progress' after : Progress} {token : Token}
    (h : Reframed outer before other k progress progress') (hnew : NewVars outer [token])
    (hstep : step schema progress token = .ok after) :
    ∃ after', step schema progress' (movedToken k token) = .ok after'
      ∧ Reframed outer before other k after after' := by
  cases token with
  | text s =>
    cases hstep
    exact ⟨_, rfl, h.add (.text s)⟩
  | action a position =>
    obtain ⟨hcheck, rfl⟩ := step_action_eq_ok hstep
    have hvars : ∀ var list, a = .openRange var list → var ∉ varsOf outer := by
      rintro var list rfl
      exact hnew var list position List.mem_cons_self
    have hcheck' := checkAction_reframed h hvars hcheck
    refine ⟨progress'.act (k + position) a, ?_, act_reframed h hcheck⟩
    rw [movedToken, step, hcheck']
    rfl

/-- Steps that succeed do so further on. -/
theorem exists_steps_of_reframed {tokens : List Token} {progress progress' after : Progress}
    (h : Reframed outer before other k progress progress') (hnew : NewVars outer tokens)
    (hsteps : tokens.foldlM (step schema) progress = .ok after) :
    ∃ after', (tokens.map (movedToken k)).foldlM (step schema) progress' = .ok after'
      ∧ Reframed outer before other k after after' := by
  induction tokens generalizing progress progress' with
  | nil =>
    cases hsteps
    exact ⟨progress', rfl, h⟩
  | cons token tokens ih =>
    rw [List.foldlM_cons] at hsteps
    obtain ⟨between, hfirst, hlater⟩ := bind_eq_ok_iff.mp hsteps
    have hnewFirst : NewVars outer [token] := fun var list position hmem =>
      hnew var list position (List.mem_singleton.mp hmem ▸ List.mem_cons_self)
    have hnewLater : NewVars outer tokens := fun var list position hmem =>
      hnew var list position (List.mem_cons_of_mem token hmem)
    obtain ⟨between', hfirst', hbetween⟩ := exists_step_of_reframed h hnewFirst hfirst
    obtain ⟨after', hlater', hafter⟩ := ih hbetween hnewLater hlater
    refine ⟨after', ?_, hafter⟩
    rw [List.map_cons, List.foldlM_cons, hfirst', ok_bind, hlater']

/-- Tokens that leave no block open give the same nodes, moved, behind any
others and inside any blocks that declare none of their variables. -/
theorem steps_reframed {tokens : List Token} {nodes : List Node}
    (hsteps : tokens.foldlM (step schema) ⟨[], before⟩ = .ok ⟨[], nodes⟩)
    (hnew : NewVars outer tokens) (other : List Node) (k : Nat) :
    ∃ inner, nodes = before ++ inner
      ∧ (tokens.map (movedToken k)).foldlM (step schema) ⟨outer, other⟩
        = .ok ⟨outer, other ++ movedAll k inner⟩ := by
  have hstart : Reframed outer before other k ⟨[], before ++ []⟩ ⟨outer, other ++ movedAll k []⟩ :=
    .base []
  rw [movedAll, List.append_nil, List.append_nil] at hstart
  obtain ⟨after, hrun, hafter⟩ := exists_steps_of_reframed hstart hnew hsteps
  obtain ⟨inner, hinner, rfl⟩ := hafter.of_no_frames
  exact ⟨inner, hinner, hrun⟩

end ReleaseLag.Proofs.Template
