import ReleaseLag.Proofs.Except
import ReleaseLag.Template.Node

/-!
# `ReleaseLag.Proofs.Template.Steps`: assembling one token at a time

`assemble` goes through the tokens once. Here its arguments are one state, the
blocks that are open and the nodes of the innermost, and `step` takes one
token to the next state: an action is checked, and then it changes the state
in a way of its own. `assemble_eq` says that assembling is these steps and a
look at what is left open, so a fact about all tokens follows from the fact
about one by induction over `List.foldlM`.

A step fails only at an action, with what its check found (`error_of_step`).
Which blocks are open can be counted without any checks:
`position_of_steps` says that `openAfter` finds the same stack.
-/

set_option autoImplicit false

namespace ReleaseLag.Proofs.Template

open ReleaseLag.Template

/-! ### States -/

/-- The blocks that are open, innermost first, and the nodes that the current
one already has. -/
structure Progress where
  frames : List Frame
  nodes : List Node

namespace Progress

/-- One more node in the current block. -/
def add (progress : Progress) (node : Node) : Progress :=
  ⟨progress.frames, progress.nodes ++ [node]⟩

/-- A new block inside the current one. -/
def enter (progress : Progress) (opener : Opener) (position : Nat) : Progress :=
  ⟨⟨opener, position, progress.nodes⟩ :: progress.frames, []⟩

/-- The current block becomes a node of the one around it. -/
def leave (progress : Progress) : Progress :=
  match progress.frames with
  | [] => progress
  | frame :: frames => ⟨frames, frame.before ++ [frame.node progress.nodes]⟩

/-- What an action at a position changes, where it is allowed. -/
def act (progress : Progress) (position : Nat) : Action → Progress
  | .field name => progress.add (.field name position)
  | .var name => progress.add (.var name position)
  | .openIf field => progress.enter (.cond field) position
  | .openRange var list => progress.enter (.each var list) position
  | .close => progress.leave

/-- The nodes, if no block is left open. -/
def finish (progress : Progress) : Except Error (List Node) :=
  match progress.frames with
  | [] => .ok progress.nodes
  | frame :: _ => .error ⟨frame.position, .missingEnd⟩

end Progress

/-! ### Steps -/

/-- The check of an action inside open blocks. -/
def checkAction (schema : Schema) (frames : List Frame) : Action → Except Fault Unit
  | .field name => checkField schema frames name
  | .var name => checkVar frames name
  | .openIf field => checkIf schema field
  | .openRange var list => checkRange schema frames var list
  | .close => if frames.isEmpty then .error .unmatchedEnd else .ok ()

/-- The state after one more token. -/
def step (schema : Schema) (progress : Progress) : Token → Except Error Progress
  | .text s => .ok (progress.add (.text s))
  | .action a position => do
    checkAt position (checkAction schema progress.frames a)
    return progress.act position a

variable {schema : Schema}

/-- Assembling is a step for each token and the end. -/
theorem assemble_eq (frames : List Frame) (nodes : List Node) (tokens : List Token) :
    assemble schema frames nodes tokens
      = tokens.foldlM (step schema) ⟨frames, nodes⟩ >>= Progress.finish := by
  induction tokens generalizing frames nodes with
  | nil => cases frames <;> rfl
  | cons token tokens ih =>
    rw [List.foldlM_cons, bind_assoc]
    cases token with
    | text s =>
      rw [assemble, ih]
      rfl
    | action a position =>
      show _ = (checkAt position (checkAction schema frames a) >>= fun _ =>
        pure (Progress.act ⟨frames, nodes⟩ position a)) >>= _
      rw [bind_assoc]
      cases a with
      | close =>
        -- The end of a block is the one action whose equations look at the stack.
        cases frames with
        | nil => rfl
        | cons frame frames =>
          rw [assemble, ih]
          rfl
      | _ =>
        rw [assemble]
        exact congrArg _ (funext fun _ => ih _ _)

/-- The steps that tokens take from the beginning of a source. -/
def stepsOf (schema : Schema) (tokens : List Token) : Except Error Progress :=
  tokens.foldlM (step schema) ⟨[], []⟩

/-- Compiling is tokenizing, a step for each token and the end. -/
theorem compile_eq (source : Text) :
    Template.compile schema source = do
      let tokens ← Token.tokenize source
      let progress ← stepsOf schema tokens
      let nodes ← progress.finish
      return { nodes, schema } := by
  simp only [Template.compile, assemble_eq, bind_assoc, stepsOf]

/-- A source compiles to the nodes that its tokens give, if they leave no
block open. -/
theorem compile_eq_ok_iff {source : Text} {template : Template} :
    Template.compile schema source = .ok template
      ↔ ∃ tokens, Token.tokenize source = .ok tokens
        ∧ stepsOf schema tokens = .ok ⟨[], template.nodes⟩ ∧ template.schema = schema := by
  rw [compile_eq, bind_eq_ok_iff]
  refine exists_congr fun tokens => and_congr_right fun _ => ?_
  rw [bind_eq_ok_iff]
  constructor
  · rintro ⟨⟨frames, nodes⟩, hsteps, h⟩
    obtain ⟨closed, hfinish, h⟩ := bind_eq_ok_iff.mp h
    cases h
    cases frames with
    | nil =>
      cases hfinish
      exact ⟨hsteps, rfl⟩
    | cons frame frames => cases hfinish
  · rintro ⟨hsteps, rfl⟩
    exact ⟨⟨[], template.nodes⟩, hsteps, rfl⟩

/-- Tokens that are taken without a fault are taken one part after the other. -/
theorem stepsOf_append_eq_ok_iff {front back : List Token} {progress : Progress} :
    stepsOf schema (front ++ back) = .ok progress
      ↔ ∃ between, stepsOf schema front = .ok between
        ∧ back.foldlM (step schema) between = .ok progress := by
  rw [stepsOf, List.foldlM_append]
  exact bind_eq_ok_iff

/-- A test finds its own fault. -/
theorem fault_of_test {c : Prop} [Decidable c] {fault other : Fault}
    (h : (if c then throw fault else pure ()) = (.error other : Except Fault Unit)) :
    other = fault := by
  split at h
  · cases h
    rfl
  · cases h

/-- A fault that an action can have where it stands. The other two are found at
the end of a block and outside of actions. -/
def isOfAction : Fault → Bool
  | .missingEnd => false
  | .strayClose => false
  | _ => true

theorem isOfAction_of_kindOf {field : Text} {fault : Fault}
    (h : kindOf schema field = .error fault) : isOfAction fault = true := by
  unfold kindOf at h
  split at h <;> cases h
  rfl

/-- The check of an action finds faults of actions. -/
theorem isOfAction_of_checkAction {frames : List Frame} {a : Action} {fault : Fault}
    (h : checkAction schema frames a = .error fault) : isOfAction fault = true := by
  cases a with
  | field name =>
    rcases bind_eq_error_iff.mp h with hkind | ⟨kind, -, h⟩
    · exact isOfAction_of_kindOf hkind
    · cases kind with
      | scalar => cases h
      | optional => exact fault_of_test h ▸ rfl
      | list =>
        cases h
        rfl
  | var name =>
    simp only [checkAction, checkVar] at h
    split at h <;> cases h
    rfl
  | openIf field =>
    rcases bind_eq_error_iff.mp h with hkind | ⟨kind, -, h⟩
    · exact isOfAction_of_kindOf hkind
    · exact fault_of_test h ▸ rfl
  | openRange var list =>
    rcases bind_eq_error_iff.mp h with hkind | ⟨kind, -, h⟩
    · exact isOfAction_of_kindOf hkind
    · cases kind with
      | list => exact fault_of_test h ▸ rfl
      | scalar =>
        cases h
        rfl
      | optional =>
        cases h
        rfl
  | close =>
    simp only [checkAction] at h
    split at h <;> cases h
    rfl

/-- A step fails at an action only, with what its check finds. -/
theorem error_of_step {progress : Progress} {token : Token} {e : Error}
    (h : step schema progress token = .error e) :
    (∃ a, token = .action a e.position) ∧ isOfAction e.fault = true := by
  cases token with
  | text s => cases h
  | action a position =>
    rw [step, bind_eq_error_iff] at h
    rcases h with hcheck | ⟨u, -, hpure⟩
    · obtain ⟨fault, hfault, rfl⟩ := mapError_eq_error_iff.mp hcheck
      exact ⟨⟨a, rfl⟩, isOfAction_of_checkAction hfault⟩
    · cases hpure

/-- What a step does when it succeeds. -/
theorem step_action_eq_ok {progress after : Progress} {a : Action} {position : Nat}
    (h : step schema progress (.action a position) = .ok after) :
    checkAction schema progress.frames a = .ok () ∧ after = progress.act position a := by
  obtain ⟨u, hcheck, hafter⟩ := bind_eq_ok_iff.mp h
  cases hafter
  exact ⟨mapError_eq_ok_iff.mp hcheck, rfl⟩

/-! ### Open blocks -/

/-- The positions of the blocks that are open behind a token, innermost first,
if those in front of it are given. -/
def openAfter (positions : List Nat) : Token → List Nat
  | .action (.openIf _) position => position :: positions
  | .action (.openRange _ _) position => position :: positions
  | .action .close _ => positions.tail
  | _ => positions

/-- The positions of the blocks that tokens open and do not close, innermost
first. -/
def openBlocks (tokens : List Token) : List Nat :=
  tokens.foldl openAfter []

/-- A step opens and closes the blocks that its token does. -/
theorem position_of_step {progress after : Progress} {token : Token}
    (h : step schema progress token = .ok after) :
    after.frames.map Frame.position = openAfter (progress.frames.map Frame.position) token := by
  cases token with
  | text s =>
    cases h
    rfl
  | action a position =>
    obtain ⟨-, rfl⟩ := step_action_eq_ok h
    cases a with
    | close =>
      obtain ⟨frames, nodes⟩ := progress
      cases frames <;> rfl
    | _ => rfl

/-- Steps open and close the blocks that their tokens do. -/
theorem position_of_steps {progress after : Progress} {tokens : List Token}
    (h : tokens.foldlM (step schema) progress = .ok after) :
    after.frames.map Frame.position
      = tokens.foldl openAfter (progress.frames.map Frame.position) := by
  induction tokens generalizing progress with
  | nil =>
    cases h
    rfl
  | cons token tokens ih =>
    rw [List.foldlM_cons] at h
    obtain ⟨between, hfirst, hlater⟩ := bind_eq_ok_iff.mp h
    rw [ih hlater, position_of_step hfirst, List.foldl_cons]

/-- A block that is open behind a token is opened by it or was open before. -/
theorem eq_or_mem_of_mem_openAfter {positions : List Nat} {token : Token} {position : Nat}
    (h : position ∈ openAfter positions token) :
    (∃ a, token = .action a position) ∨ position ∈ positions := by
  unfold openAfter at h
  split at h
  · next field start =>
    rcases List.mem_cons.mp h with rfl | hmem
    · exact .inl ⟨_, rfl⟩
    · exact .inr hmem
  · next var list start =>
    rcases List.mem_cons.mp h with rfl | hmem
    · exact .inl ⟨_, rfl⟩
    · exact .inr hmem
  · exact .inr (List.mem_of_mem_tail h)
  · exact .inr h

/-- A block that is open behind tokens stands at an action of theirs or was
open before. -/
theorem exists_action_of_mem_openAfter {tokens : List Token} {positions : List Nat} {position : Nat}
    (h : position ∈ tokens.foldl openAfter positions) :
    (∃ a, .action a position ∈ tokens) ∨ position ∈ positions := by
  induction tokens generalizing positions with
  | nil => exact .inr h
  | cons token tokens ih =>
    rcases ih h with ⟨a, hmem⟩ | hopen
    · exact .inl ⟨a, List.mem_cons_of_mem token hmem⟩
    · rcases eq_or_mem_of_mem_openAfter hopen with ⟨a, rfl⟩ | hbefore
      · exact .inl ⟨a, List.mem_cons_self⟩
      · exact .inr hbefore

/-- As many ends as there are open blocks close them all. -/
theorem exists_nodes_of_closes {frames : List Frame} {nodes : List Node} {positions : List Nat}
    (h : positions.length = frames.length) :
    ∃ closed, (positions.map (Token.action .close)).foldlM (step schema) ⟨frames, nodes⟩
      = .ok ⟨[], closed⟩ := by
  induction frames generalizing nodes positions with
  | nil =>
    cases List.length_eq_zero_iff.mp h
    exact ⟨nodes, rfl⟩
  | cons frame frames ih =>
    cases positions with
    | nil => cases h
    | cons position positions => exact ih (Nat.succ.inj h)

end ReleaseLag.Proofs.Template
