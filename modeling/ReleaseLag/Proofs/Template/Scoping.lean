import ReleaseLag.Proofs.Except
import ReleaseLag.Template.WellFormed

/-!
# `ReleaseLag.Proofs.Template.Scoping`: what compiles is well scoped

While a template is assembled, the open blocks stand on a stack of frames.
`guardsOf` and `varsOf` read the stack as the two lists that `ScopedAll` is
about, and each check that `assemble` makes is the condition on one kind of
node (`checkField_eq_ok_iff` and the three after it). `FramesScoped` is the
invariant: everything on the stack is allowed where it stands. Closing a block
moves its frame into the nodes, so `scopedAll_of_assemble` follows by going
through the tokens.
-/

set_option autoImplicit false

namespace ReleaseLag.Proofs.Template

open ReleaseLag.Template

/-! ### The stack -/

/-- The field that a block depends on. -/
def guardOf (frame : Frame) : List Text :=
  match frame.opener with
  | .cond field => [field]
  | .each _ _ => []

/-- The variable that a block declares. -/
def varOf (frame : Frame) : List Text :=
  match frame.opener with
  | .cond _ => []
  | .each var _ => [var]

/-- The fields that open blocks depend on. -/
def guardsOf (frames : List Frame) : List Text :=
  frames.flatMap guardOf

/-- The variables that open blocks declare. -/
def varsOf (frames : List Frame) : List Text :=
  frames.flatMap varOf

theorem guards_eq_true_iff {frames : List Frame} {field : Text} :
    Frame.guards frames field = true ↔ field ∈ guardsOf frames := by
  simp only [Frame.guards, List.any_eq_true, guardsOf, List.mem_flatMap, decide_eq_true_eq]
  refine exists_congr fun frame => and_congr_right fun _ => ?_
  unfold guardOf
  cases frame.opener <;> simp [eq_comm]

theorem binds_eq_true_iff {frames : List Frame} {var : Text} :
    Frame.binds frames var = true ↔ var ∈ varsOf frames := by
  simp only [Frame.binds, List.any_eq_true, varsOf, List.mem_flatMap]
  refine exists_congr fun frame => and_congr_right fun _ => ?_
  unfold varOf
  cases frame.opener <;> simp [eq_comm]

/-! ### The checks -/

variable {schema : Schema} {frames : List Frame} {u : Unit}

theorem kindOf_eq_ok_iff {field : Text} {kind : FieldKind} :
    kindOf schema field = .ok kind ↔ schema.get? field = some kind := by
  unfold kindOf
  cases schema.get? field <;> simp

/-- A field may be substituted if it is always bound, or guarded. -/
theorem checkField_eq_ok_iff {field : Text} :
    checkField schema frames field = .ok u
      ↔ schema.get? field = some .scalar
        ∨ schema.get? field = some .optional ∧ field ∈ guardsOf frames := by
  simp only [checkField, bind_eq_ok_iff, kindOf_eq_ok_iff, ← guards_eq_true_iff]
  constructor
  · rintro ⟨kind, hkind, h⟩
    cases kind with
    | scalar => exact .inl hkind
    | optional =>
      cases hguard : Frame.guards frames field with
      | true => exact .inr ⟨hkind, rfl⟩
      | false => simp [hguard] at h
    | list => cases h
  · rintro (hkind | ⟨hkind, hguard⟩)
    · exact ⟨.scalar, hkind, rfl⟩
    · exact ⟨.optional, hkind, by simp [hguard]⟩

/-- A variable may be substituted if an open block declares it. -/
theorem checkVar_eq_ok_iff {var : Text} : checkVar frames var = .ok u ↔ var ∈ varsOf frames := by
  rw [checkVar, ← binds_eq_true_iff]
  by_cases h : Frame.binds frames var = true <;> simp [h]

/-- A block may depend on a field that can be absent or empty. -/
theorem checkIf_eq_ok_iff {field : Text} :
    checkIf schema field = .ok u
      ↔ schema.get? field = some .optional ∨ schema.get? field = some .list := by
  simp only [checkIf, bind_eq_ok_iff, kindOf_eq_ok_iff]
  constructor
  · rintro ⟨kind, hkind, h⟩
    cases kind with
    | scalar => cases h
    | optional => exact .inl hkind
    | list => exact .inr hkind
  · rintro (hkind | hkind)
    · exact ⟨.optional, hkind, rfl⟩
    · exact ⟨.list, hkind, rfl⟩

/-- A range may go over a list with a variable that no open block declares. -/
theorem checkRange_eq_ok_iff {var list : Text} :
    checkRange schema frames var list = .ok u
      ↔ schema.get? list = some .list ∧ var ∉ varsOf frames := by
  simp only [checkRange, bind_eq_ok_iff, kindOf_eq_ok_iff, ← binds_eq_true_iff]
  constructor
  · rintro ⟨kind, hkind, h⟩
    cases kind with
    | scalar => cases h
    | optional => cases h
    | list =>
      refine ⟨hkind, fun hbinds => ?_⟩
      simp [hbinds] at h
  · rintro ⟨hkind, hnew⟩
    exact ⟨.list, hkind, by simp [hnew]⟩

theorem checkAt_eq_ok_iff {position : Nat} {check : Except Fault Unit} :
    checkAt position check = .ok u ↔ check = .ok u :=
  mapError_eq_ok_iff

/-! ### Assembling -/

/-- Each open block is allowed inside those around it, and so are the nodes in
front of it. -/
def FramesScoped (schema : Schema) : List Frame → Prop
  | [] => True
  | frame :: frames =>
    ScopedAll schema (guardsOf frames) (varsOf frames) frame.before
      ∧ (match frame.opener with
        | .cond field => schema.get? field = some .optional ∨ schema.get? field = some .list
        | .each var list => schema.get? list = some .list ∧ var ∉ varsOf frames)
      ∧ FramesScoped schema frames

/-- One more node that is allowed behind nodes that are. -/
theorem scopedAll_concat {guards vars : List Text} {nodes : List Node} {node : Node}
    (hnodes : ScopedAll schema guards vars nodes) (hnode : node.Scoped schema guards vars) :
    ScopedAll schema guards vars (nodes ++ [node]) :=
  (scopedAll_append schema guards vars nodes [node]).mpr ⟨hnodes, hnode, trivial⟩

/-- A block that is closed is allowed where it was opened. -/
theorem scopedAll_close {frame : Frame} {nodes : List Node}
    (hframes : FramesScoped schema (frame :: frames))
    (hnodes : ScopedAll schema (guardsOf (frame :: frames)) (varsOf (frame :: frames)) nodes) :
    ScopedAll schema (guardsOf frames) (varsOf frames) (frame.before ++ [frame.node nodes]) := by
  obtain ⟨hbefore, hopener, -⟩ := hframes
  obtain ⟨opener, position, before⟩ := frame
  refine scopedAll_concat hbefore ?_
  cases opener with
  | cond field => exact ⟨hopener, hnodes⟩
  | each var list => exact ⟨hopener.1, hopener.2, hnodes⟩

/-- What is assembled from tokens is well scoped, if what was there before
them is. -/
theorem scopedAll_of_assemble {nodes result : List Node} {tokens : List Token}
    (h : assemble schema frames nodes tokens = .ok result) (hframes : FramesScoped schema frames)
    (hnodes : ScopedAll schema (guardsOf frames) (varsOf frames) nodes) :
    ScopedAll schema [] [] result := by
  -- One case for each equation: an open block goes on the stack with the nodes
  -- in front of it, and a closed one comes off with them.
  fun_induction assemble schema frames nodes tokens with
  | case1 nodes =>
    cases h
    exact hnodes
  | case2 => cases h
  | case3 frames nodes s tokens ih => exact ih h hframes (scopedAll_concat hnodes trivial)
  | case4 frames nodes name position tokens ih =>
    obtain ⟨u, hcheck, h⟩ := bind_eq_ok_iff.mp h
    rw [checkAt_eq_ok_iff, checkField_eq_ok_iff] at hcheck
    exact ih h hframes (scopedAll_concat hnodes hcheck)
  | case5 frames nodes name position tokens ih =>
    obtain ⟨u, hcheck, h⟩ := bind_eq_ok_iff.mp h
    rw [checkAt_eq_ok_iff, checkVar_eq_ok_iff] at hcheck
    exact ih h hframes (scopedAll_concat hnodes hcheck)
  | case6 frames nodes field position tokens ih =>
    obtain ⟨u, hcheck, h⟩ := bind_eq_ok_iff.mp h
    rw [checkAt_eq_ok_iff, checkIf_eq_ok_iff] at hcheck
    exact ih h ⟨hnodes, hcheck, hframes⟩ trivial
  | case7 frames nodes var list position tokens ih =>
    obtain ⟨u, hcheck, h⟩ := bind_eq_ok_iff.mp h
    rw [checkAt_eq_ok_iff, checkRange_eq_ok_iff] at hcheck
    exact ih h ⟨hnodes, hcheck, hframes⟩ trivial
  | case8 => cases h
  | case9 nodes frame frames position tokens ih =>
    exact ih h hframes.2.2 (scopedAll_close hframes hnodes)

/-- A template that compiles keeps to its schema. -/
theorem scopedAll_of_compile {source : Text} {template : Template}
    (h : Template.compile schema source = .ok template) :
    template.schema = schema ∧ ScopedAll schema [] [] template.nodes := by
  simp only [Template.compile, bind_eq_ok_iff, pure_eq_ok, Except.ok.injEq] at h
  obtain ⟨tokens, -, nodes, hnodes, rfl⟩ := h
  exact ⟨rfl, scopedAll_of_assemble hnodes trivial trivial⟩

end ReleaseLag.Proofs.Template
