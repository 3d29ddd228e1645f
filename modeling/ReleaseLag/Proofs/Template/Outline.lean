import Mathlib.Data.List.Forall2
import ReleaseLag.Proofs.Template.Places
import ReleaseLag.Proofs.Template.Printing
import ReleaseLag.Proofs.Text.Words
import ReleaseLag.Template.Outline
import ReleaseLag.Text.Split

/-!
# `ReleaseLag.Proofs.Template.Outline`: an outline mirrors its tree

An outline has one line for each place in the tree whose node is not white
space only. What the line says is given by `Says`, which speaks of the words of
a text and not of how they are joined and cut; `says_iff` is the link to the
code. `outlineAll_eq` goes through the tree once and finds the rows of
`Proofs/Template/Places`, so everything that is known of these holds of the
lines.

That a line is a single line has two reasons. A text is shown with its words
joined by spaces, and no other white space is left in it, be it a line break or
not. And a name holds no white space at all, for which the template must have
been compiled: `named_of_compile` takes it from the tokens of the source.
-/

set_option autoImplicit false

namespace ReleaseLag.Proofs.Template

open ReleaseLag.Template
open ReleaseLag.Proofs.Text (IsGap ReadsAs Unbroken readsAs_words unbroken_append_iff
  unbroken_collapse collapse_eq_nil_iff isWord_of_isName)

/-! ### Lines -/

/-- A node that an outline leaves out. -/
def IsBlankText (node : Node) : Prop :=
  ∃ s, node = .text s ∧ IsGap s

/-- What an outline shows of a text: its words with one space between each two,
all of that if it is at most 48 characters long, and otherwise the first 48
characters and an ellipsis. -/
inductive Shows : Text → Text → Prop
  | whole {s : Text} {words : List Text} (hwords : ReadsAs s words)
      (hlength : ([' '].intercalate words).length ≤ 48) : Shows s ([' '].intercalate words)
  | cut {s front back : Text} {words : List Text} (hwords : ReadsAs s words)
      (hsplit : [' '].intercalate words = front ++ back) (hlength : front.length = 48)
      (hback : back ≠ []) : Shows s (front ++ ['…'])

/-- What an outline says of a node. -/
inductive Says : Node → Text → Prop
  | text {s shown : Text} (h : Shows s shown) :
      Says (.text s) ("text \"".toList ++ shown ++ ['"'])
  | field (name : Text) (position : Nat) :
      Says (.field name position) ("param .".toList ++ name)
  | var (name : Text) (position : Nat) :
      Says (.var name position) ("param $".toList ++ name)
  | cond (field : Text) (body : List Node) (position : Nat) :
      Says (.cond field body position) ("if .".toList ++ field)
  | each (var list : Text) (body : List Node) (position : Nat) :
      Says (.each var list body position) ("range $".toList ++ var ++ " := .".toList ++ list)

/-- What the line of a node says, behind the blanks that indent it. -/
def label : Node → Text
  | .text s => "text \"".toList ++ preview (Text.collapse s) ++ ['"']
  | .field name _ => "param .".toList ++ name
  | .var name _ => "param $".toList ++ name
  | .cond field _ _ => "if .".toList ++ field
  | .each var list _ _ => "range $".toList ++ var ++ " := .".toList ++ list

theorem label_text (s : Text) :
    label (.text s) = "text \"".toList ++ preview (Text.collapse s) ++ ['"'] := rfl

theorem preview_of_le {s : Text} (h : s.length ≤ 48) : preview s = s :=
  if_pos h

theorem preview_of_lt {s : Text} (h : 48 < s.length) : preview s = s.take 48 ++ ['…'] :=
  if_neg (Nat.not_le_of_lt h)

/-- The preview of the collapsed text is what should be shown, and nothing else
is. -/
theorem shows_iff {s shown : Text} : Shows s shown ↔ shown = preview (Text.collapse s) := by
  constructor
  · intro h
    cases h with
    | whole hwords hlength => rw [Text.collapse, hwords.words_eq, preview_of_le hlength]
    | @cut front back _ hwords hsplit hlength hback =>
      have hlong : 48 < (front ++ back).length := by
        have hpos : 0 < back.length := List.length_pos_iff.mpr hback
        rw [List.length_append]
        omega
      rw [Text.collapse, hwords.words_eq, hsplit, preview_of_lt hlong, ← hlength, List.take_left]
  · rintro rfl
    have hwords := readsAs_words s
    rcases Nat.lt_or_ge 48 (Text.collapse s).length with hlong | hshort
    · have hfront : ((Text.collapse s).take 48).length = 48 := by
        rw [List.length_take]
        omega
      have hback : (Text.collapse s).drop 48 ≠ [] := by
        rw [Ne, List.drop_eq_nil_iff]
        omega
      rw [preview_of_lt hlong]
      exact .cut hwords (List.take_append_drop 48 _).symm hfront hback
    · rw [preview_of_le hshort]
      exact .whole hwords hshort

/-- The label of a node is what should be said of it, and nothing else is. -/
theorem says_iff {node : Node} {said : Text} : Says node said ↔ said = label node := by
  constructor
  · intro h
    cases h with
    | text hshows => rw [shows_iff.mp hshows, label_text]
    | _ => rfl
  · rintro rfl
    cases node with
    | text s =>
      rw [label_text]
      exact .text (shows_iff.mpr rfl)
    | field name position => exact .field name position
    | var name position => exact .var name position
    | cond field body position => exact .cond field body position
    | each var list body position => exact .each var list body position

/-- A token is the beginning of something that has a line. -/
def hasLine : Token → Bool
  | .text s => !s.all Text.isBlank
  | .action .close _ => false
  | .action _ _ => true

/-- The line of a node inside a number of blocks, without its end. -/
def line (blocks : Nat) (node : Node) : Text :=
  List.replicate (2 * blocks) ' ' ++ label node

theorem hasLine_tokenOf {node : Node} : hasLine (tokenOf node) = true ↔ ¬IsBlankText node := by
  cases node with
  | text s => simp [hasLine, tokenOf, IsBlankText, IsGap]
  | _ => simp [hasLine, tokenOf, IsBlankText]

theorem outlineLine_eq (depth : Nat) (content : Text) :
    outlineLine depth content = List.replicate (2 * depth) ' ' ++ content ++ ['\n'] := by
  have hblanks : [' ', ' '] = List.replicate 2 ' ' := rfl
  rw [outlineLine, hblanks, List.flatten_replicate_replicate, Nat.mul_comm]

/-- The lines of a text are the one that shows it, if it is not white space. -/
theorem textLines_eq (depth : Nat) (s : Text) :
    textLines depth s
      = if s.all Text.isBlank then [] else [outlineLine depth (label (.text s))] := by
  have hblank : s.all Text.isBlank = true ↔ Text.collapse s = [] := by
    rw [collapse_eq_nil_iff, List.all_eq_true]
    rfl
  rw [textLines]
  cases hcollapse : Text.collapse s with
  | nil => rw [if_pos (hblank.mpr hcollapse)]
  | cons c rest =>
    rw [if_neg (by simp [hblank, hcollapse]), label_text, hcollapse]

/-- The lines of a node are its own, unless it is white space, and those of its
body. -/
theorem outline_eq (depth : Nat) (node : Node) :
    node.outline depth = (if hasLine (tokenOf node) then [line depth node ++ ['\n']] else [])
      ++ outlineAll (depth + 1) (bodyOf node) := by
  cases node with
  | text s =>
    rw [Node.outline, textLines_eq, outlineLine_eq]
    show _ = (if (!s.all Text.isBlank) = true then [line depth (.text s) ++ ['\n']] else []) ++ []
    cases s.all Text.isBlank <;> simp [line]
  | _ =>
    rw [Node.outline, outlineLine_eq]
    rfl

/-- The lines of a tree are those of its rows. -/
theorem outlineAll_eq (depth : Nat) (nodes : List Node) :
    outlineAll depth nodes = ((rows depth nodes).filter fun row => hasLine (tokenOf row.2)).map
      fun row => line row.1 row.2 ++ ['\n'] := by
  induction nodes using forest_induction generalizing depth with
  | nil => rfl
  | cons node nodes body later =>
    rw [outlineAll, outline_eq, rows_cons, body, later]
    simp only [List.cons_append, List.filter_cons, List.filter_append]
    cases hasLine (tokenOf node) <;> simp

/-- The places of a tree that have a line. -/
def shownPlaces (nodes : List Node) : List Place :=
  (placesAll 0 nodes).filter fun place => hasLine (tokenOf place.node)

/-- The lines of a tree, without their ends. -/
def linesOf (nodes : List Node) : List Text :=
  (shownPlaces nodes).map fun place => line place.blocks place.node

theorem row_zero (place : Place) : place.row 0 = (place.blocks, place.node) :=
  congrArg (·, place.node) (Nat.zero_add place.blocks)

/-- The rows that have a line are those of the places that have one. -/
theorem filter_rows (nodes : List Node) :
    ((rows 0 nodes).filter fun row => hasLine (tokenOf row.2))
      = (shownPlaces nodes).map fun place => (place.blocks, place.node) := by
  rw [rows, List.filter_map]
  exact List.map_congr_left fun place _ => row_zero place

/-- An outline is its lines, each with its end. -/
theorem outline_template (template : Template) :
    outline template = (linesOf template.nodes).flatMap (· ++ ['\n']) := by
  rw [outline, outlineAll_eq, filter_rows, List.map_map, linesOf, List.flatMap_map]
  rfl

/-- A place has a line exactly if a way leads to it and its node is not white
space. -/
theorem mem_shownPlaces_iff {nodes : List Node} {place : Place} :
    place ∈ shownPlaces nodes
      ↔ nodeAt? nodes place.first place.path = some place.node ∧ ¬IsBlankText place.node := by
  rw [shownPlaces, List.mem_filter, hasLine_tokenOf, mem_placesAll_iff]
  simp

/-! ### White space in lines -/

theorem unbroken_preview {s : Text} (h : Unbroken s) : Unbroken (preview s) := by
  rcases Nat.lt_or_ge 48 s.length with hlong | hshort
  · rw [preview_of_lt hlong, unbroken_append_iff]
    exact ⟨fun c hmem => h c (List.mem_of_mem_take hmem), by decide⟩
  · rwa [preview_of_le hshort]

theorem unbroken_append_name {front name : Text} (hfront : Unbroken front)
    (hname : Text.isName name = true) : Unbroken (front ++ name) :=
  unbroken_append_iff.mpr ⟨hfront, (isWord_of_isName hname).unbroken⟩

/-- What is said of a node has no white space but spaces, if the names in it
are names. -/
theorem unbroken_label {node : Node}
    (h : ∀ a position, tokenOf node = .action a position → Named a) : Unbroken (label node) := by
  cases node with
  | text s =>
    have hopening : Unbroken "text \"".toList := by decide
    have hclosing : Unbroken ['"'] := by decide
    rw [label_text, unbroken_append_iff, unbroken_append_iff]
    exact ⟨⟨hopening, unbroken_preview (unbroken_collapse s)⟩, hclosing⟩
  | field name position =>
    have hopening : Unbroken "param .".toList := by decide
    exact unbroken_append_name hopening (h _ _ rfl)
  | var name position =>
    have hopening : Unbroken "param $".toList := by decide
    exact unbroken_append_name hopening (h _ _ rfl)
  | cond field body position =>
    have hopening : Unbroken "if .".toList := by decide
    exact unbroken_append_name hopening (h _ _ rfl)
  | each var list body position =>
    have hopening : Unbroken "range $".toList := by decide
    have hmiddle : Unbroken " := .".toList := by decide
    obtain ⟨hvar, hlist⟩ : Named (.openRange var list) := h _ _ rfl
    have hfront := unbroken_append_iff.mpr ⟨unbroken_append_name hopening hvar, hmiddle⟩
    exact unbroken_append_name hfront hlist

theorem unbroken_line {blocks : Nat} {node : Node} (h : Unbroken (label node)) :
    Unbroken (line blocks node) := by
  refine unbroken_append_iff.mpr ⟨fun c hmem _ => ?_, h⟩
  exact List.eq_of_mem_replicate hmem

variable {schema : Schema}

/-! ### The outline of a compiled template -/

/-- The places that have a line are the tokens of the source that do. -/
theorem shownPlaces_of_compile {source : Text} {template : Template}
    (h : Template.compile schema source = .ok template) :
    ∃ tokens, Token.tokenize source = .ok tokens
      ∧ ((shownPlaces template.nodes).map fun place => (place.blocks, tokenOf place.node))
        = (nested [] tokens).filter fun row => hasLine row.2 := by
  obtain ⟨tokens, htokens, hrows⟩ := tokenRows_of_compile h
  have hend : ∀ token : Token, (hasLine token && !isEnd token) = hasLine token := by
    intro token
    cases token with
    | text s => exact Bool.and_true _
    | action a position => cases a <;> rfl
  refine ⟨tokens, htokens, ?_⟩
  calc (shownPlaces template.nodes).map (fun place => (place.blocks, tokenOf place.node))
      = (((rows 0 template.nodes).filter fun row => hasLine (tokenOf row.2)).map fun row =>
          (row.1, tokenOf row.2)) := by
        rw [filter_rows, List.map_map]
        rfl
    _ = (tokenRows 0 template.nodes).filter (fun row => hasLine row.2) := by
        rw [tokenRows, List.filter_map]
        rfl
    _ = (nested [] tokens).filter (fun row => hasLine row.2) := by
        rw [hrows, List.filter_filter]
        simp only [hend]

/-- The names in the nodes of a compiled template are names. -/
theorem named_of_compile {source : Text} {template : Template}
    (h : Template.compile schema source = .ok template) {place : Place}
    (hmem : place ∈ shownPlaces template.nodes) {a : Action} {position : Nat}
    (htoken : tokenOf place.node = .action a position) : Named a := by
  obtain ⟨tokens, htokens, hshown⟩ := shownPlaces_of_compile h
  have hrow : (place.blocks, tokenOf place.node)
      ∈ (shownPlaces template.nodes).map fun place => (place.blocks, tokenOf place.node) :=
    List.mem_map.mpr ⟨place, hmem, rfl⟩
  rw [hshown, htoken] at hrow
  have hwritten := writtenTokens_of_spelled (tokenizeFrom_eq_ok_iff.mp htokens)
  exact named_of_mem hwritten (mem_of_mem_nested (List.mem_filter.mp hrow).1)

/-- A line of a place: two blanks for each block around it, and what is said of
its node. -/
def IsLineOf (place : Place) (text : Text) : Prop :=
  ∃ said, Says place.node said ∧ text = List.replicate (2 * place.blocks) ' ' ++ said

/-- How the outline of a compiled template mirrors its tree, with the places and
the lines of the outline in order:

1. `complete`: the places are those that a way through the tree leads to, but
   for texts of white space;
2. `preorder`: they stand in the order of the ways to them, a block in front of
   what is inside it, and none of them twice;
3. `inSource`: they are the tokens of the source in their order, without the
   ends of blocks and texts of white space, and there are as many blocks around
   each as those in front of it leave open;
4. `shown`: there is one line for each place, and it is indented by two blanks
   for each block;
5. `ended`: the outline is these lines, each with a line feed behind it, and a
   line feed stands nowhere else;
6. `unbroken`: there is no white space in a line but spaces. -/
structure Mirrors (source : Text) (template : Template) (places : List Place)
    (lines : List Text) : Prop where
  complete : ∀ place : Place, place ∈ places
    ↔ nodeAt? template.nodes place.first place.path = some place.node ∧ ¬IsBlankText place.node
  preorder : places.Pairwise Place.Before
  inSource : ∃ tokens, Token.tokenize source = .ok tokens
    ∧ (places.map fun place => (place.blocks, tokenOf place.node))
      = (nested [] tokens).filter fun row => hasLine row.2
  shown : List.Forall₂ IsLineOf places lines
  ended : Text.pieces '\n' (outline template) = lines ++ [[]]
  unbroken : ∀ text ∈ lines, Unbroken text

/-- The outline of a template has a line for each node that is not white space,
in the order of the source, and no line is broken. -/
theorem outline_mirrors_tree {source : Text} {template : Template}
    (h : Template.compile schema source = .ok template) :
    ∃ places lines, Mirrors source template places lines := by
  -- A tree that was not compiled could have a line feed in a name.
  have hunbroken : ∀ text ∈ linesOf template.nodes, Unbroken text := by
    intro text hmem
    obtain ⟨place, hplace, rfl⟩ := List.mem_map.mp hmem
    exact unbroken_line (unbroken_label fun a position => named_of_compile h hplace)
  refine ⟨shownPlaces template.nodes, linesOf template.nodes, ?_⟩
  constructor
  case complete => exact fun place => mem_shownPlaces_iff
  case preorder => exact (pairwise_placesAll 0 template.nodes).filter _
  case inSource => exact shownPlaces_of_compile h
  case shown =>
    rw [linesOf, List.forall₂_map_right_iff, List.forall₂_same]
    exact fun place _ => ⟨label place.node, says_iff.mpr rfl, rfl⟩
  case ended =>
    rw [outline_template]
    exact Text.pieces_terminated fun text hmem => (hunbroken text hmem).newline_not_mem
  case unbroken => exact hunbroken

/-- A list and an optional field. -/
def layeredSchema : Schema :=
  .ofList [(['L'], .list), (['O'], .optional)]

/-- Texts with line breaks of several kinds, one of nothing else, and two that
are as long as a line can show and longer. -/
def layeredSource : Text :=
  "a\u2028\n b\x7b\x7bif .O\x7d\x7d\u00a0\u0085\n\x7b\x7brange $v := .L\x7d\x7d".toList
    ++ List.replicate 47 'x' ++ "éß\x7b\x7b$v\x7d\x7d\x7b\x7bend\x7d\x7d\x7b\x7bend\x7d\x7d".toList
    ++ List.replicate 47 'x' ++ "é\n".toList

/-- The template of `layeredSource`. -/
def layeredTemplate : Template where
  nodes := [.text "a\u2028\n b".toList,
    .cond ['O'] [.text "\u00a0\u0085\n".toList,
      .each ['v'] ['L'] [.text (List.replicate 47 'x' ++ "éß".toList), .var ['v'] 90] 21] 7,
    .text (List.replicate 47 'x' ++ "é\n".toList)]
  schema := layeredSchema

/-- The longer text is cut behind a character of two bytes. -/
theorem outline_mirrors_tree_layered :
    Template.compile layeredSchema layeredSource = .ok layeredTemplate
      ∧ outline layeredTemplate = "text \"a b\"\nif .O\n  range $v := .L\n    text \"".toList
        ++ List.replicate 47 'x' ++ "é…\"\n    param $v\ntext \"".toList
        ++ List.replicate 47 'x' ++ "é\"\n".toList
      ∧ ∃ places lines, Mirrors layeredSource layeredTemplate places lines := by
  have htokens : Token.tokenize layeredSource = .ok
      [.text "a\u2028\n b".toList, .action (.openIf ['O']) 7, .text "\u00a0\u0085\n".toList,
        .action (.openRange ['v'] ['L']) 21, .text (List.replicate 47 'x' ++ "éß".toList),
        .action (.var ['v']) 90, .action .close 96, .action .close 103,
        .text (List.replicate 47 'x' ++ "é\n".toList)] :=
    toOption_eq_some_iff.mp (by decide +kernel)
  have hcompile : Template.compile layeredSchema layeredSource = .ok layeredTemplate := by
    rw [Template.compile, htokens]
    rfl
  exact ⟨hcompile, by decide +kernel, outline_mirrors_tree hcompile⟩

end ReleaseLag.Proofs.Template
