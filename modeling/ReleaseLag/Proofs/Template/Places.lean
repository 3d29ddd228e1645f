import ReleaseLag.Proofs.Template.Steps

/-!
# `ReleaseLag.Proofs.Template.Places`: the nodes of a tree and where they are

A place in a tree is a node with the way to it: the index of each block around
it, outermost first, and its own index in the innermost one. `nodeAt?` follows
such a way down, and `placesAll` goes through the whole tree. The two agree
(`mem_placesAll_iff`), so no node is left out, and the lexicographic order of
the ways puts a block in front of what is inside it and that in front of what
stands behind the block. This is the order in which `placesAll` lists them
(`pairwise_placesAll`), so none is listed twice.

For a tree that was compiled it is the order of the source too. `rows` keeps of
a place its node and the number of blocks around it, and `tokenRows_of_steps`
says that these are the tokens of the source without the ends of blocks, each
with the number of blocks that the tokens in front of it leave open. The
invariant is about an unfinished tree: the rows of the nodes in front of each
open block and of the block itself, outermost first, are the tokens so far.
-/

set_option autoImplicit false

namespace ReleaseLag.Proofs.Template

open ReleaseLag.Template

/-! ### Trees from the top -/

/-- The nodes inside a block. No other node has any. -/
def bodyOf : Node → List Node
  | .cond _ body _ => body
  | .each _ _ body _ => body
  | _ => []

mutual

theorem bodyOf_induction {motive : List Node → Prop} (nil : motive [])
    (cons : ∀ node nodes, motive (bodyOf node) → motive nodes → motive (node :: nodes)) :
    ∀ node : Node, motive (bodyOf node)
  | .text _ => nil
  | .field _ _ => nil
  | .var _ _ => nil
  | .cond _ body _ => forest_induction nil cons body
  | .each _ _ body _ => forest_induction nil cons body

/-- What holds of no nodes, and of nodes if it holds of the body of the first
and of the others, holds of all nodes. -/
@[elab_as_elim]
theorem forest_induction {motive : List Node → Prop} (nil : motive [])
    (cons : ∀ node nodes, motive (bodyOf node) → motive nodes → motive (node :: nodes)) :
    ∀ nodes : List Node, motive nodes
  | [] => nil
  | node :: nodes =>
    cons node nodes (bodyOf_induction nil cons node) (forest_induction nil cons nodes)

end

/-- The node at an index, or further down: each index in the path goes into the
body of the node reached before. -/
def nodeAt? (nodes : List Node) (first : Nat) : List Nat → Option Node
  | [] => nodes[first]?
  | next :: path => nodes[first]?.bind fun node => nodeAt? (bodyOf node) next path

/-- A node with the way to it, which is an index among the nodes at the top and
one more for each block on the way. -/
structure Place where
  first : Nat
  path : List Nat
  node : Node

namespace Place

/-- The number of blocks around a place. -/
def blocks (place : Place) : Nat :=
  place.path.length

/-- The way to a place. -/
def way (place : Place) : List Nat :=
  place.first :: place.path

/-- A place in a block, as a place in what is around the block. -/
def inside (index : Nat) (place : Place) : Place :=
  ⟨index, place.way, place.node⟩

/-- Going through the tree from the front, one place comes before another. -/
def Before (place other : Place) : Prop :=
  List.Lex (· < ·) place.way other.way

@[simp] theorem blocks_inside (index : Nat) (place : Place) :
    (place.inside index).blocks = place.blocks + 1 := rfl

@[simp] theorem node_inside (index : Nat) (place : Place) :
    (place.inside index).node = place.node := rfl

end Place

mutual

/-- The places inside a node. -/
def placesIn : Node → List Place
  | .cond _ body _ => placesAll 0 body
  | .each _ _ body _ => placesAll 0 body
  | _ => []

/-- The places in nodes, the first of which has a given index. -/
def placesAll (index : Nat) : List Node → List Place
  | [] => []
  | node :: nodes =>
    ⟨index, [], node⟩ :: (placesIn node).map (Place.inside index) ++ placesAll (index + 1) nodes

end

/-- A node comes first, then what is inside it, then the other nodes. -/
theorem placesAll_cons (index : Nat) (node : Node) (nodes : List Node) :
    placesAll index (node :: nodes)
      = ⟨index, [], node⟩ :: (placesAll 0 (bodyOf node)).map (Place.inside index)
        ++ placesAll (index + 1) nodes := by
  cases node <;> rfl

theorem nodeAt?_cons_succ (node : Node) (nodes : List Node) (index : Nat) (path : List Nat) :
    nodeAt? (node :: nodes) (index + 1) path = nodeAt? nodes index path := by
  cases path <;> rfl

/-- The places in nodes are those that a way leads to. -/
theorem mem_placesAll_iff {nodes : List Node} {index : Nat} {place : Place} :
    place ∈ placesAll index nodes
      ↔ ∃ i, place.first = index + i ∧ nodeAt? nodes i place.path = some place.node := by
  induction nodes using forest_induction generalizing index place with
  | nil =>
    have hnone : ∀ i, nodeAt? [] i place.path = none := fun i => by cases place.path <;> rfl
    simp [placesAll, hnone]
  | cons node nodes body later =>
    rw [placesAll_cons, List.cons_append, List.mem_cons, List.mem_append, List.mem_map]
    constructor
    · rintro (rfl | ⟨inner, hinner, rfl⟩ | hlater)
      · exact ⟨0, rfl, rfl⟩
      · obtain ⟨i, hfirst, hnode⟩ := body.mp hinner
        rw [Nat.zero_add] at hfirst
        refine ⟨0, rfl, ?_⟩
        show nodeAt? (bodyOf node) inner.first inner.path = some inner.node
        rw [hfirst, hnode]
      · obtain ⟨i, hfirst, hnode⟩ := later.mp hlater
        refine ⟨i + 1, by omega, ?_⟩
        rw [nodeAt?_cons_succ, hnode]
    · obtain ⟨first, path, found⟩ := place
      rintro ⟨i, hfirst, hnode⟩
      obtain rfl : first = index + i := hfirst
      cases i with
      | zero =>
        -- The way leads to the first node or into its body.
        cases path with
        | nil =>
          cases hnode
          exact .inl rfl
        | cons next path =>
          have hinner : ⟨next, path, found⟩ ∈ placesAll 0 (bodyOf node) :=
            body.mpr ⟨next, (Nat.zero_add next).symm, hnode⟩
          exact .inr (.inl ⟨_, hinner, rfl⟩)
      | succ i =>
        have hnext : index + (i + 1) = index + 1 + i := by omega
        rw [nodeAt?_cons_succ] at hnode
        exact .inr (.inr (later.mpr ⟨i, hnext, hnode⟩))

/-- A place comes before all those at later indices. -/
theorem before_of_mem_placesAll {nodes : List Node} {place other : Place}
    (h : other ∈ placesAll (place.first + 1) nodes) : place.Before other := by
  obtain ⟨i, hfirst, -⟩ := mem_placesAll_iff.mp h
  have hlt : place.first < other.first := by omega
  exact .rel hlt

/-- The places in nodes are listed from the front, and none of them twice. -/
theorem pairwise_placesAll (index : Nat) (nodes : List Node) :
    (placesAll index nodes).Pairwise Place.Before := by
  induction nodes using forest_induction generalizing index with
  | nil => exact .nil
  | cons node nodes body later =>
    have hbody : ((placesAll 0 (bodyOf node)).map (Place.inside index)).Pairwise Place.Before :=
      List.pairwise_map.mpr ((body 0).imp fun hbefore => .cons hbefore)
    rw [placesAll_cons, List.cons_append, List.pairwise_cons, List.pairwise_append]
    refine ⟨?_, hbody, later (index + 1), ?_⟩
    · intro place hplace
      rcases List.mem_append.mp hplace with hinside | hlater
      · -- The way to a block is the beginning of the ways into it.
        obtain ⟨inner, -, rfl⟩ := List.mem_map.mp hinside
        exact .cons .nil
      · exact before_of_mem_placesAll hlater
    · intro place hinside other hother
      obtain ⟨inner, -, rfl⟩ := List.mem_map.mp hinside
      exact before_of_mem_placesAll hother

/-! ### Rows -/

/-- The node at a place and the number of blocks around it, if the whole tree
stands inside a number of blocks. -/
def Place.row (blocks : Nat) (place : Place) : Nat × Node :=
  (blocks + place.blocks, place.node)

/-- The nodes of a tree from the front, each with the number of blocks around
it. -/
def rows (blocks : Nat) (nodes : List Node) : List (Nat × Node) :=
  (placesAll 0 nodes).map (Place.row blocks)

theorem map_row_placesAll_cons (blocks index : Nat) (node : Node) (nodes : List Node) :
    (placesAll index (node :: nodes)).map (Place.row blocks)
      = (blocks, node) :: rows (blocks + 1) (bodyOf node)
        ++ (placesAll (index + 1) nodes).map (Place.row blocks) := by
  have hrow : Place.row blocks ∘ Place.inside index = Place.row (blocks + 1) := by
    funext place
    have hblocks : blocks + (place.blocks + 1) = blocks + 1 + place.blocks := by omega
    exact congrArg (·, place.node) hblocks
  rw [placesAll_cons, List.map_append, List.map_cons, List.map_map, hrow]
  rfl

/-- There are no indices in rows. -/
theorem map_row_placesAll (blocks index : Nat) (nodes : List Node) :
    (placesAll index nodes).map (Place.row blocks) = rows blocks nodes := by
  -- Only the nodes at the top have the index in their ways first; in a body it
  -- starts anew, so the induction need not go down.
  induction nodes generalizing index with
  | nil => rfl
  | cons node nodes ih =>
    rw [rows, map_row_placesAll_cons, map_row_placesAll_cons, ih, ih]

/-- The row of a node, those of its body, which is inside one block more, and
those of the other nodes. -/
theorem rows_cons (blocks : Nat) (node : Node) (nodes : List Node) :
    rows blocks (node :: nodes)
      = (blocks, node) :: rows (blocks + 1) (bodyOf node) ++ rows blocks nodes := by
  rw [← map_row_placesAll blocks 1 nodes]
  exact map_row_placesAll_cons blocks 0 node nodes

theorem rows_append (blocks : Nat) (xs ys : List Node) :
    rows blocks (xs ++ ys) = rows blocks xs ++ rows blocks ys := by
  induction xs with
  | nil => rfl
  | cons x xs ih =>
    rw [List.cons_append, rows_cons, rows_cons, ih, List.append_assoc]

/-! ### Tokens -/

/-- The token that a node begins with. -/
def tokenOf : Node → Token
  | .text s => .text s
  | .field name position => .action (.field name) position
  | .var name position => .action (.var name) position
  | .cond field _ position => .action (.openIf field) position
  | .each var list _ position => .action (.openRange var list) position

/-- A token ends a block. -/
def isEnd : Token → Bool
  | .action .close _ => true
  | _ => false

/-- The rows of nodes with tokens for the nodes. -/
def tokenRows (blocks : Nat) (nodes : List Node) : List (Nat × Token) :=
  (rows blocks nodes).map fun row => (row.1, tokenOf row.2)

/-- The rows of open blocks and of what is in front of them. The body of an
innermost block stands inside as many blocks as there are. -/
def openRows : List Frame → List (Nat × Token)
  | [] => []
  | frame :: frames =>
    openRows frames ++ tokenRows frames.length (frame.before ++ [frame.node []])

/-- The rows of an unfinished tree. -/
def Progress.tokenRows (progress : Progress) : List (Nat × Token) :=
  openRows progress.frames ++ Template.tokenRows progress.frames.length progress.nodes

/-- Tokens, each with the number of blocks that are open in front of it. -/
def nested (positions : List Nat) : List Token → List (Nat × Token)
  | [] => []
  | token :: tokens => (positions.length, token) :: nested (openAfter positions token) tokens

theorem mem_of_mem_nested {positions : List Nat} {tokens : List Token} {row : Nat × Token}
    (h : row ∈ nested positions tokens) : row.2 ∈ tokens := by
  induction tokens generalizing positions with
  | nil => cases h
  | cons token tokens ih =>
    rcases List.mem_cons.mp h with rfl | hlater
    · exact List.mem_cons_self
    · exact List.mem_cons_of_mem token (ih hlater)

theorem tokenRows_append (blocks : Nat) (xs ys : List Node) :
    tokenRows blocks (xs ++ ys) = tokenRows blocks xs ++ tokenRows blocks ys := by
  rw [tokenRows, rows_append, List.map_append]
  rfl

/-- The rows of one more node. -/
theorem tokenRows_concat (blocks : Nat) (nodes : List Node) (node : Node) :
    tokenRows blocks (nodes ++ [node])
      = tokenRows blocks nodes ++ (blocks, tokenOf node) :: tokenRows (blocks + 1) (bodyOf node) := by
  have hnone : rows blocks [] = [] := rfl
  rw [tokenRows_append]
  simp only [tokenRows, rows_cons, hnone, List.append_nil, List.map_cons]

/-! ### Steps -/

/-- A block has the nodes that its frame is given. -/
theorem bodyOf_node (frame : Frame) (body : List Node) : bodyOf (frame.node body) = body := by
  obtain ⟨opener, position, before⟩ := frame
  cases opener <;> rfl

/-- What a block begins with does not depend on its body. -/
theorem tokenOf_node (frame : Frame) (body : List Node) :
    tokenOf (frame.node body) = tokenOf (frame.node []) := by
  obtain ⟨opener, position, before⟩ := frame
  cases opener <;> rfl

namespace Progress

theorem tokenRows_add (progress : Progress) {node : Node} (hbody : bodyOf node = []) :
    (progress.add node).tokenRows
      = progress.tokenRows ++ [(progress.frames.length, tokenOf node)] := by
  show openRows progress.frames ++ Template.tokenRows _ (progress.nodes ++ [node]) = _
  rw [tokenRows_concat, hbody, ← List.append_assoc]
  rfl

theorem tokenRows_enter (progress : Progress) (opener : Opener) (position : Nat) :
    (progress.enter opener position).tokenRows
      = progress.tokenRows
        ++ [(progress.frames.length, tokenOf ((Frame.mk opener position []).node []))] := by
  show openRows progress.frames ++ Template.tokenRows _ (progress.nodes ++ [_]) ++ [] = _
  rw [List.append_nil, tokenRows_concat, bodyOf_node, ← List.append_assoc]
  rfl

/-- The rows of a block that is closed are those of the open block and of the
nodes in it. -/
theorem tokenRows_leave (progress : Progress) : progress.leave.tokenRows = progress.tokenRows := by
  obtain ⟨frames, nodes⟩ := progress
  cases frames with
  | nil => rfl
  | cons frame frames =>
    show openRows frames ++ Template.tokenRows _ (frame.before ++ [frame.node nodes])
      = openRows frames ++ Template.tokenRows _ (frame.before ++ [frame.node []]) ++ _
    have hnone : Template.tokenRows (frames.length + 1) [] = [] := rfl
    simp only [tokenRows_concat, bodyOf_node, tokenOf_node frame nodes, hnone, List.append_assoc,
      List.cons_append, List.nil_append]
    rfl

end Progress

variable {schema : Schema}

/-- A step adds the row of its token, and none for the end of a block. -/
theorem tokenRows_of_step {progress after : Progress} {token : Token}
    (h : step schema progress token = .ok after) :
    after.tokenRows = progress.tokenRows
      ++ [(progress.frames.length, token)].filter fun row => !isEnd row.2 := by
  cases token with
  | text s =>
    cases h
    exact progress.tokenRows_add rfl
  | action a position =>
    obtain ⟨-, rfl⟩ := step_action_eq_ok h
    cases a with
    | field name => exact progress.tokenRows_add rfl
    | var name => exact progress.tokenRows_add rfl
    | openIf field => exact progress.tokenRows_enter (.cond field) position
    | openRange var list => exact progress.tokenRows_enter (.each var list) position
    | close =>
      rw [Progress.act, Progress.tokenRows_leave]
      exact (List.append_nil _).symm

/-- Steps add the rows of their tokens, each with the number of blocks that are
open in front of it. -/
theorem tokenRows_of_steps {progress after : Progress} {tokens : List Token}
    (h : tokens.foldlM (step schema) progress = .ok after) :
    after.tokenRows = progress.tokenRows
      ++ (nested (progress.frames.map Frame.position) tokens).filter fun row => !isEnd row.2 := by
  induction tokens generalizing progress with
  | nil =>
    cases h
    exact (List.append_nil _).symm
  | cons token tokens ih =>
    rw [List.foldlM_cons] at h
    obtain ⟨between, hfirst, hlater⟩ := bind_eq_ok_iff.mp h
    -- `nested` counts open blocks by their positions, a state by its frames.
    have hopen : (progress.frames.map Frame.position).length = progress.frames.length :=
      List.length_map Frame.position
    rw [ih hlater, tokenRows_of_step hfirst, position_of_step hfirst, List.append_assoc,
      ← List.filter_append, nested, hopen]
    rfl

/-- The rows of a compiled tree are the tokens of its source, in order, without
the ends of blocks. -/
theorem tokenRows_of_compile {source : Text} {template : Template}
    (h : Template.compile schema source = .ok template) :
    ∃ tokens, Token.tokenize source = .ok tokens
      ∧ tokenRows 0 template.nodes = (nested [] tokens).filter fun row => !isEnd row.2 := by
  obtain ⟨tokens, htokens, hsteps, -⟩ := compile_eq_ok_iff.mp h
  exact ⟨tokens, htokens, tokenRows_of_steps hsteps⟩

end ReleaseLag.Proofs.Template
