import ReleaseLag.Proofs.Template.Printing
import ReleaseLag.Proofs.Template.Scoping

/-!
# `ReleaseLag.Proofs.Template.RoundTrip`: compiling undoes printing

Trees and sources determine each other, positions apart. One direction goes
from the tree: its printed text has the tokens of `tokensAll`, and
`assemble_tokensAll` says that these become the nodes again, inside any open
blocks and behind any nodes, if the nodes are well scoped there. The other
goes from the source: `writtenAll_of_assemble` carries along the tokens that
whatever is assembled can be printed. While tokens are left, something will
follow the nodes so far, so their last text may not end in a brace.

`compile_undoes_print` puts the two together.
-/

set_option autoImplicit false

namespace ReleaseLag.Proofs.Template

open ReleaseLag.Template

variable {schema : Schema}

/-! ### From tokens to nodes -/

mutual

/-- The tokens of a printed node become the node, where it was printed. -/
theorem assemble_tokens {frames : List Frame} {before : List Node} {start : Nat}
    {later : List Token} :
    ∀ node : Node, node.Scoped schema (guardsOf frames) (varsOf frames) →
      assemble schema frames before (tokens start node ++ later)
        = assemble schema frames (before ++ [node.locate start]) later
  | .text s, _ => by
    rw [tokens, List.singleton_append, assemble, Node.locate]
  | .field name _, hscoped => by
    have hcheck : checkAt start (checkField schema frames name) = .ok () :=
      checkAt_eq_ok_iff.mpr (checkField_eq_ok_iff.mpr hscoped)
    rw [tokens, List.singleton_append, assemble, hcheck, ok_bind, Node.locate]
  | .var name _, hscoped => by
    have hcheck : checkAt start (checkVar frames name) = .ok () :=
      checkAt_eq_ok_iff.mpr (checkVar_eq_ok_iff.mpr hscoped)
    rw [tokens, List.singleton_append, assemble, hcheck, ok_bind, Node.locate]
  | .cond field body _, hscoped => by
    obtain ⟨hkind, hbody⟩ := hscoped
    have hcheck : checkAt start (checkIf schema field) = .ok () :=
      checkAt_eq_ok_iff.mpr (checkIf_eq_ok_iff.mpr hkind)
    -- The body is assembled inside the block, and its end puts the block back.
    let inside : List Frame := ⟨.cond field, start, before⟩ :: frames
    have hinside : ScopedAll schema (guardsOf inside) (varsOf inside) body := hbody
    simp only [tokens, List.cons_append, List.append_assoc]
    rw [assemble, hcheck, ok_bind, assemble_tokensAll body hinside]
    rfl
  | .each var list body _, hscoped => by
    obtain ⟨hkind, hnew, hbody⟩ := hscoped
    have hcheck : checkAt start (checkRange schema frames var list) = .ok () :=
      checkAt_eq_ok_iff.mpr (checkRange_eq_ok_iff.mpr ⟨hkind, hnew⟩)
    let inside : List Frame := ⟨.each var list, start, before⟩ :: frames
    have hinside : ScopedAll schema (guardsOf inside) (varsOf inside) body := hbody
    simp only [tokens, List.cons_append, List.append_assoc]
    rw [assemble, hcheck, ok_bind, assemble_tokensAll body hinside]
    rfl

/-- The tokens of printed nodes become the nodes. -/
theorem assemble_tokensAll {frames : List Frame} {before : List Node} {start : Nat}
    {later : List Token} :
    ∀ nodes : List Node, ScopedAll schema (guardsOf frames) (varsOf frames) nodes →
      assemble schema frames before (tokensAll start nodes ++ later)
        = assemble schema frames (before ++ locateAll start nodes) later
  | [], _ => by
    rw [tokensAll, locateAll, List.nil_append, List.append_nil]
  | node :: nodes, hscoped => by
    obtain ⟨hnode, hnodes⟩ := hscoped
    rw [tokensAll, locateAll, List.append_assoc, assemble_tokens node hnode,
      assemble_tokensAll nodes hnodes, List.append_assoc, List.singleton_append]

end

/-! ### What is assembled can be printed -/

/-- One more node behind nodes that something follows. -/
theorem writtenAll_concat {inFront : Bool} {nodes : List Node} {node : Node}
    (hnodes : WrittenAll true nodes) (hnode : node.Written inFront)
    (hapart : ¬((nodes.getLast?.any Node.isText) = true ∧ node.isText = true)) :
    WrittenAll inFront (nodes ++ [node]) := by
  induction nodes with
  | nil => simpa [WrittenAll] using hnode
  | cons first nodes ih =>
    obtain ⟨hfirst, hnext, hnodes⟩ := hnodes
    have hwritten : first.Written (inFront || !(nodes ++ [node]).isEmpty) := by
      rw [Bool.true_or] at hfirst
      rwa [List.isEmpty_eq_false_iff.mpr (by simp), Bool.not_false, Bool.or_true]
    cases nodes with
    | nil =>
      have hlast : ¬(first.isText = true ∧ node.isText = true) := by simpa using hapart
      exact ⟨hwritten, by simpa using hlast, ih hnodes (by simp)⟩
    | cons second nodes =>
      have hrest : ¬(((second :: nodes).getLast?.any Node.isText) = true ∧ node.isText = true) := by
        simpa using hapart
      exact ⟨hwritten, hnext, ih hnodes hrest⟩

/-- Open blocks have names, and nodes in front that can be printed. -/
def FramesWritten (frames : List Frame) : Prop :=
  ∀ frame ∈ frames, WrittenAll true frame.before
    ∧ match frame.opener with
      | .cond field => Text.isName field = true
      | .each var list => Text.isName var = true ∧ Text.isName list = true

/-- A block that is closed can be printed. -/
theorem writtenAll_close {inFront : Bool} {frame : Frame} {frames : List Frame} {nodes : List Node}
    (hframes : FramesWritten (frame :: frames)) (hnodes : WrittenAll true nodes) :
    WrittenAll inFront (frame.before ++ [frame.node nodes]) := by
  obtain ⟨hbefore, hopener⟩ := hframes frame List.mem_cons_self
  obtain ⟨opener, position, before⟩ := frame
  cases opener with
  | cond field => exact writtenAll_concat hbefore ⟨hopener, hnodes⟩ (fun h => by cases h.2)
  | each var list =>
    exact writtenAll_concat hbefore ⟨hopener.1, hopener.2, hnodes⟩ (fun h => by cases h.2)

/-- What is assembled from the tokens of a source can be printed. -/
theorem writtenAll_of_assemble {frames : List Frame} {nodes result : List Node}
    {tokens : List Token} (h : assemble schema frames nodes tokens = .ok result)
    (hframes : FramesWritten frames) (hnodes : WrittenAll (!tokens.isEmpty) nodes)
    (hapart : ¬((nodes.getLast?.any Node.isText) = true ∧ (tokens.head?.any isText) = true))
    (htokens : WrittenTokens tokens) : WrittenAll false result := by
  fun_induction assemble schema frames nodes tokens with
  | case1 nodes =>
    cases h
    exact hnodes
  | case2 => cases h
  | case3 frames nodes s tokens ih =>
    obtain ⟨hliteral, hnext, htokens⟩ := htokens
    have hlast : ¬((nodes.getLast?.any Node.isText) = true ∧ (Node.text s).isText = true) := by
      simpa [isText, Node.isText] using hapart
    refine ih h hframes (writtenAll_concat hnodes hliteral hlast) ?_ htokens
    simp [hnext]
  | case4 frames nodes name position tokens ih =>
    obtain ⟨u, -, h⟩ := bind_eq_ok_iff.mp h
    obtain ⟨hname, htokens⟩ := htokens
    refine ih h hframes (writtenAll_concat hnodes hname (fun h => by cases h.2)) ?_ htokens
    simp [Node.isText]
  | case5 frames nodes name position tokens ih =>
    obtain ⟨u, -, h⟩ := bind_eq_ok_iff.mp h
    obtain ⟨hname, htokens⟩ := htokens
    refine ih h hframes (writtenAll_concat hnodes hname (fun h => by cases h.2)) ?_ htokens
    simp [Node.isText]
  | case6 frames nodes field position tokens ih =>
    obtain ⟨u, -, h⟩ := bind_eq_ok_iff.mp h
    obtain ⟨hname, htokens⟩ := htokens
    exact ih h (List.forall_mem_cons.mpr ⟨⟨hnodes, hname⟩, hframes⟩) trivial (by simp) htokens
  | case7 frames nodes var list position tokens ih =>
    obtain ⟨u, -, h⟩ := bind_eq_ok_iff.mp h
    obtain ⟨hnames, htokens⟩ := htokens
    exact ih h (List.forall_mem_cons.mpr ⟨⟨hnodes, hnames⟩, hframes⟩) trivial (by simp) htokens
  | case8 => cases h
  | case9 frame frames nodes position tokens ih =>
    have hrest : FramesWritten frames := fun other hmem => hframes other (List.mem_cons_of_mem _ hmem)
    refine ih h hrest (writtenAll_close hframes hnodes) ?_ htokens.2
    unfold Frame.node
    cases frame.opener <;> simp [Node.isText]

/-! ### Trees up to positions -/

mutual

/-- A node with every position in it set to zero. -/
def unplaced : Node → Node
  | .text s => .text s
  | .field name _ => .field name 0
  | .var name _ => .var name 0
  | .cond field body _ => .cond field (unplacedAll body) 0
  | .each var list body _ => .each var list (unplacedAll body) 0

/-- Nodes with every position in them set to zero. -/
def unplacedAll : List Node → List Node
  | [] => []
  | node :: nodes => unplaced node :: unplacedAll nodes

end

mutual

/-- A node keeps everything but its positions where it is printed. -/
theorem unplaced_locate (start : Nat) (node : Node) : unplaced (node.locate start) = unplaced node := by
  cases node with
  | text s => rfl
  | field name position => rfl
  | var name position => rfl
  | cond field body position => simp only [Node.locate, unplaced, unplacedAll_locateAll]
  | each var list body position => simp only [Node.locate, unplaced, unplacedAll_locateAll]

theorem unplacedAll_locateAll (start : Nat) (nodes : List Node) :
    unplacedAll (locateAll start nodes) = unplacedAll nodes := by
  cases nodes with
  | nil => rfl
  | cons node nodes =>
    simp only [locateAll, unplacedAll, unplaced_locate start node, unplacedAll_locateAll]

end

mutual

/-- The nodes of a tree, each in front of those inside it. -/
def within : Node → List Node
  | .cond field body position => .cond field body position :: withinAll body
  | .each var list body position => .each var list body position :: withinAll body
  | node => [node]

@[inherit_doc within]
def withinAll : List Node → List Node
  | [] => []
  | node :: nodes => within node ++ withinAll nodes

end

/-- The position of a node; texts have none. -/
def position? : Node → Option Nat
  | .text _ => none
  | .field _ position => some position
  | .var _ position => some position
  | .cond _ _ position => some position
  | .each _ _ _ position => some position

/-- A stretch of a text begins at a byte. -/
def StandsAt (source stretch : Text) (position : Nat) : Prop :=
  ∃ before after, source = before ++ stretch ++ after ∧ Text.size before = position

/-- A part of a stretch begins behind the bytes in front of it. -/
theorem StandsAt.inside {source front stretch back : Text} {position : Nat}
    (h : StandsAt source (front ++ stretch ++ back) position) :
    StandsAt source stretch (position + Text.size front) := by
  obtain ⟨before, after, rfl, rfl⟩ := h
  exact ⟨before ++ front, back ++ after, by simp, Text.size_append before front⟩

mutual

/-- Where a node is printed, each node inside it stands at its position. -/
theorem standsAt_locate {source : Text} {start : Nat} (node : Node)
    (hstands : StandsAt source node.print start) {inner : Node}
    (hmem : inner ∈ within (node.locate start)) {position : Nat}
    (hposition : position? inner = some position) : StandsAt source inner.print position := by
  cases node with
  | text s =>
    cases List.mem_singleton.mp hmem
    cases hposition
  | field name _ =>
    cases List.mem_singleton.mp hmem
    cases hposition
    exact hstands
  | var name _ =>
    cases List.mem_singleton.mp hmem
    cases hposition
    exact hstands
  | cond field body p =>
    rcases List.mem_cons.mp hmem with rfl | hmem
    · cases hposition
      have hprint := Node.print_locate start (.cond field body p)
      rw [Node.locate] at hprint
      rwa [hprint]
    · exact standsAt_locateAll body hstands.inside hmem hposition
  | each var list body p =>
    rcases List.mem_cons.mp hmem with rfl | hmem
    · cases hposition
      have hprint := Node.print_locate start (.each var list body p)
      rw [Node.locate] at hprint
      rwa [hprint]
    · exact standsAt_locateAll body hstands.inside hmem hposition

/-- Where nodes are printed, each node inside them stands at its position. -/
theorem standsAt_locateAll {source : Text} {start : Nat} (nodes : List Node)
    (hstands : StandsAt source (printAll nodes) start) {inner : Node}
    (hmem : inner ∈ withinAll (locateAll start nodes)) {position : Nat}
    (hposition : position? inner = some position) : StandsAt source inner.print position := by
  cases nodes with
  | nil => cases hmem
  | cons node nodes =>
    have hnode : StandsAt source ([] ++ node.print ++ printAll nodes) start := hstands
    have hnodes : StandsAt source (node.print ++ printAll nodes ++ []) start := by
      rw [List.append_nil]
      exact hstands
    rw [locateAll, withinAll] at hmem
    rcases List.mem_append.mp hmem with hmem | hmem
    · exact standsAt_locate node hnode.inside hmem hposition
    · exact standsAt_locateAll nodes hnodes.inside hmem hposition

end

/-- A node with a position begins with braces. -/
theorem braces_of_position? {node : Node} {position : Nat} (h : position? node = some position) :
    ['{', '{'] <+: node.print := by
  have htext : node.isText = false := by
    cases node with
    | text s => cases h
    | _ => rfl
  have hbraces := braces_print htext []
  rwa [List.append_nil] at hbraces

/-! ### Round trips -/

/-- Well-formed nodes are what their source compiles to. -/
theorem compile_printAll {nodes : List Node} (h : WellFormed schema nodes) :
    Template.compile schema (printAll nodes) = .ok ⟨locateAll 0 nodes, schema⟩ := by
  obtain ⟨hscoped, hwritten⟩ := h
  have hend : Spelled (0 + Text.size (printAll nodes)) [] [] :=
    .last (by decide) (by decide)
  have hspelled := spelled_printAll nodes hwritten rfl hend
  rw [List.append_nil] at hspelled
  have htokens : Token.tokenize (printAll nodes) = .ok (tokensAll 0 nodes ++ []) :=
    tokenizeFrom_eq_ok_iff.mpr hspelled
  have hassemble : assemble schema [] [] (tokensAll 0 nodes ++ []) = .ok (locateAll 0 nodes) := by
    rw [assemble_tokensAll nodes hscoped, List.nil_append, assemble]
  rw [Template.compile, htokens, ok_bind, hassemble, ok_bind, pure_eq_ok]

/-- What a source compiles to is well formed. -/
theorem wellFormed_of_compile {source : Text} {template : Template}
    (h : Template.compile schema source = .ok template) :
    template.schema = schema ∧ WellFormed schema template.nodes := by
  obtain ⟨hschema, hscoped⟩ := scopedAll_of_compile h
  simp only [Template.compile, bind_eq_ok_iff, pure_eq_ok, Except.ok.injEq] at h
  obtain ⟨tokens, htokens, nodes, hnodes, rfl⟩ := h
  have hwritten := writtenTokens_of_spelled (tokenizeFrom_eq_ok_iff.mp htokens)
  have hframes : FramesWritten [] := fun frame hmem => absurd hmem List.not_mem_nil
  exact ⟨hschema, hscoped, writtenAll_of_assemble hnodes hframes trivial (by simp) hwritten⟩

/-- A template is what the source of nodes compiles to:

1. `compiles`: the source compiles to the template;
2. `schema_eq`, `same`: the template has the schema it was compiled for, and
   these nodes, positions apart;
3. `places`: each node in it has the position at which its braces open in the
   source;
4. `nodes_eq`: these are the positions that `locateAll` counts out. -/
structure CompiledFrom (schema : Schema) (nodes : List Node) (template : Template) : Prop where
  compiles : Template.compile schema (printAll nodes) = .ok template
  schema_eq : template.schema = schema
  same : unplacedAll template.nodes = unplacedAll nodes
  places : ∀ node ∈ withinAll template.nodes, ∀ position, position? node = some position →
    ['{', '{'] <+: node.print ∧ StandsAt (printAll nodes) node.print position
  nodes_eq : template.nodes = locateAll 0 nodes

theorem compiledFrom_of_wellFormed {nodes : List Node} (h : WellFormed schema nodes) :
    CompiledFrom schema nodes ⟨locateAll 0 nodes, schema⟩ where
  compiles := compile_printAll h
  schema_eq := rfl
  same := unplacedAll_locateAll 0 nodes
  places := by
    intro node hmem position hposition
    have hwhole : StandsAt (printAll nodes) (printAll nodes) 0 := ⟨[], [], by simp, rfl⟩
    exact ⟨braces_of_position? hposition, standsAt_locateAll nodes hwhole hmem hposition⟩
  nodes_eq := rfl

/-- Compiling undoes printing, and accepts exactly the well-formed trees:

1. the source of a well-formed tree compiles to the tree;
2. what any source compiles to is a well-formed tree, and its own source
   compiles to it again. -/
theorem compile_undoes_print (schema : Schema) :
    (∀ nodes, WellFormed schema nodes → ∃ template, CompiledFrom schema nodes template)
      ∧ ∀ source template, Template.compile schema source = .ok template →
          WellFormed schema template.nodes
            ∧ ∃ again, CompiledFrom schema template.nodes again := by
  refine ⟨fun nodes hnodes => ⟨_, compiledFrom_of_wellFormed hnodes⟩, ?_⟩
  intro source template hcompile
  obtain ⟨-, hnodes⟩ := wellFormed_of_compile hcompile
  exact ⟨hnodes, _, compiledFrom_of_wellFormed hnodes⟩

/-- Single braces may stand next to actions, and an opening one at the end. -/
example : WellFormed (.ofList [(['O'], .optional)])
    [.text ['}'], .cond ['O'] [.field ['O'] 0, .text ['}']] 0, .text ['{']] := by
  have hkind : (NameMap.ofList [(['O'], FieldKind.optional)]).get? ['O'] = some .optional := rfl
  have hname : Text.isName ['O'] = true := by decide
  have hclose : ∀ inFront, IsLiteral inFront ['}'] := by
    intro inFront
    exact ⟨by decide, by decide, by decide, by simp⟩
  have hopen : IsLiteral false ['{'] := ⟨by decide, by decide, by decide, by simp⟩
  simp [WellFormed, ScopedAll, Node.Scoped, WrittenAll, Node.Written, Node.isText, *]

end ReleaseLag.Proofs.Template
