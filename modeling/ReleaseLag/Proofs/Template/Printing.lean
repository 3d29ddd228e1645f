import ReleaseLag.Proofs.Template.Tokens
import ReleaseLag.Template.Printer
import ReleaseLag.Template.WellFormed

/-!
# `ReleaseLag.Proofs.Template.Printing`: printed nodes as tokens

`tokensAll` lists the tokens of nodes at the bytes they are printed at.
`spelled_printAll` says that the printed text is a source of just these
tokens, in front of any source that may stand there. What may stand behind
nodes hangs on their last text: `MayFollow` asks for the braces of an action
where `WrittenAll` was told that something follows, and for the end otherwise.

The other direction is `writtenTokens_of_spelled`: the tokens of a source are
texts and names as `WrittenAll` wants them.
-/

set_option autoImplicit false

namespace ReleaseLag.Proofs.Template

open ReleaseLag.Template

/-! ### One action -/

/-- The names in an action are names. -/
def Named : Action → Prop
  | .field name => Text.isName name = true
  | .var name => Text.isName name = true
  | .openIf field => Text.isName field = true
  | .openRange var list => Text.isName var = true ∧ Text.isName list = true
  | .close => True

/-- The printed body of an action spells it. -/
theorem spelled_body {a : Action} (h : Named a) : a.Spelled a.body := by
  have hspace : IsSpaces [' '] := rfl
  have hne : [' '] ≠ ([] : Text) := List.cons_ne_nil ' ' []
  have hcore : a.Core a.body := by
    cases a with
    | field name => exact .field h
    | var name => exact .var h
    | openIf field => exact .openIf hspace hne h
    | openRange var list =>
      have hrange := Action.Core.openRange hspace hne h.1 hspace hspace h.2
      simpa [Action.body] using hrange
    | close => exact .close
  exact ⟨[], a.body, [], rfl, hcore, rfl, by simp⟩

/-- What is spelt has names for its names. -/
theorem named_of_spelled {a : Action} {body : Text} (h : a.Spelled body) : Named a := by
  obtain ⟨_, core, _, -, hcore, -, -⟩ := h
  cases hcore with
  | field hname => exact hname
  | var hname => exact hname
  | openIf _ _ hname => exact hname
  | openRange _ _ hvar _ _ hlist => exact ⟨hvar, hlist⟩
  | close => trivial

/-- The braces of an action are four bytes. -/
theorem size_braced (body : Text) : Text.size (braced body) = Text.size body + 4 := by
  have hbrace : '{'.utf8Size = 1 ∧ '}'.utf8Size = 1 := by decide
  simp only [braced, Text.size_append, Text.size_cons, Text.size_nil, hbrace]
  omega

/-- A printed action in front of a source. -/
theorem spelled_action {a : Action} {position : Nat} {rest : Text} {tokens : List Token}
    (h : Named a) (hrest : Spelled (position + Text.size a.print) rest tokens) :
    Spelled position (a.print ++ rest) (.action a position :: tokens) := by
  have hnone : ¬['{', '{'] <:+: [] ++ ['{'] := by decide
  have hstray : ¬['}', '}'] <:+: ([] : Text) := by decide
  have hstart : position + Text.size [] + Text.size a.body + 4 = position + Text.size a.print := by
    rw [Action.print, size_braced, Text.size_nil]
    omega
  rw [← hstart] at hrest
  simpa [Action.print, braced, Token.ofText] using
    Spelled.action hnone hstray (spelled_body h) hrest

/-! ### Text in front of an action -/

/-- A text without a pair that does not end in a brace has no pair with one
more brace behind it. -/
theorem not_pair_of_getLast_ne {s : Text} (hopen : ¬['{', '{'] <:+: s) (hlast : s.getLast? ≠ some '{') :
    ¬['{', '{'] <:+: s ++ ['{'] := by
  have hbrace : ¬['{', '{'] <:+: ['{'] := by decide
  exact Text.not_pair_append hopen hbrace fun hmeet => hlast hmeet.1

/-- A text without a pair of braces, even with one more brace behind it, does
not end in one. -/
theorem getLast_ne_of_not_pair {s : Text} (h : ¬['{', '{'] <:+: s ++ ['{']) :
    s.getLast? ≠ some '{' :=
  fun hlast => h (Text.pair_infix_append_iff.mpr (.inr (.inr ⟨hlast, rfl⟩)))

/-- A source that begins with the braces of an action has no text in front. -/
theorem exists_action_of_spelled {position : Nat} {s : Text} {tokens : List Token}
    (h : Spelled position s tokens) (hbraces : ['{', '{'] <+: s) :
    ∃ a body rest later, s = ['{', '{'] ++ body ++ ['}', '}'] ++ rest ∧ a.Spelled body
      ∧ Spelled (position + Text.size body + 4) rest later ∧ tokens = .action a position :: later := by
  cases h with
  | last hopen _ => exact absurd hbraces.isInfix hopen
  | @action _ lead body rest a later hopen _ hbody hrest =>
    cases lead with
    | nil => exact ⟨a, body, rest, later, rfl, hbody, by simpa using hrest, rfl⟩
    | cons c lead =>
      -- The text and the brace behind it would begin with the pair.
      have hfront : (c :: lead) ++ ['{'] <+: (c :: lead) ++ ['{', '{'] ++ body ++ ['}', '}'] ++ rest :=
        ⟨'{' :: body ++ ['}', '}'] ++ rest, by simp⟩
      have hpair : ['{', '{'] <+: (c :: lead) ++ ['{'] :=
        List.prefix_of_prefix_length_le hbraces hfront (by simp)
      exact absurd hpair.isInfix hopen

/-- A run of text, which may be empty, in front of an action. -/
theorem spelled_run {s rest : Text} {position : Nat} {tokens : List Token}
    (hopen : ¬['{', '{'] <:+: s) (hclose : ¬['}', '}'] <:+: s) (hlast : s.getLast? ≠ some '{')
    (hbraces : ['{', '{'] <+: rest) (hrest : Spelled (position + Text.size s) rest tokens) :
    Spelled position (s ++ rest) (Token.ofText s ++ tokens) := by
  obtain ⟨a, body, behind, later, rfl, hbody, hbehind, rfl⟩ := exists_action_of_spelled hrest hbraces
  have hspelled := Spelled.action (not_pair_of_getLast_ne hopen hlast) hclose hbody hbehind
  simpa using hspelled

/-- A literal text in front of an action. -/
theorem spelled_text {s rest : Text} {position : Nat} {tokens : List Token}
    (h : IsLiteral true s) (hbraces : ['{', '{'] <+: rest)
    (hrest : Spelled (position + Text.size s) rest tokens) :
    Spelled position (s ++ rest) (.text s :: tokens) := by
  obtain ⟨hne, hopen, hclose, hlast⟩ := h
  have htext : Token.ofText s = [.text s] := if_neg (by simpa using hne)
  have hspelled := spelled_run hopen hclose (hlast rfl) hbraces hrest
  rwa [htext] at hspelled

/-! ### Printed nodes -/

mutual

/-- The tokens of a node that is printed at a position. -/
def tokens (start : Nat) : Node → List Token
  | .text s => [.text s]
  | .field name _ => [.action (.field name) start]
  | .var name _ => [.action (.var name) start]
  | .cond field body _ =>
    let inner := start + Text.size (Action.openIf field).print
    .action (.openIf field) start :: tokensAll inner body
      ++ [.action .close (inner + Text.size (printAll body))]
  | .each var list body _ =>
    let inner := start + Text.size (Action.openRange var list).print
    .action (.openRange var list) start :: tokensAll inner body
      ++ [.action .close (inner + Text.size (printAll body))]

/-- The tokens of nodes that are printed at a position. -/
def tokensAll (start : Nat) : List Node → List Token
  | [] => []
  | node :: nodes => tokens start node ++ tokensAll (start + Text.size node.print) nodes

end

/-- What may stand behind nodes: an action if something is said to follow, and
nothing otherwise. -/
def MayFollow (inFront : Bool) (rest : Text) : Prop :=
  if inFront then ['{', '{'] <+: rest else rest = []

theorem braces_print_action (a : Action) (rest : Text) : ['{', '{'] <+: a.print ++ rest :=
  ⟨a.body ++ ['}', '}'] ++ rest, by simp [Action.print, braced]⟩

/-- All nodes but texts begin with braces. -/
theorem braces_print {node : Node} (h : node.isText = false) (rest : Text) :
    ['{', '{'] <+: node.print ++ rest := by
  cases node with
  | text s => cases h
  | field name position => exact braces_print_action _ rest
  | var name position => exact braces_print_action _ rest
  | cond field body position =>
    rw [Node.print, List.append_assoc, List.append_assoc]
    exact braces_print_action _ _
  | each var list body position =>
    rw [Node.print, List.append_assoc, List.append_assoc]
    exact braces_print_action _ _

/-- What stands behind a text is an action, or nothing. -/
theorem mayFollow_text {inFront : Bool} {s : Text} {nodes : List Node} {rest : Text}
    (hapart : ¬((Node.text s).isText = true ∧ (nodes.head?.any Node.isText) = true))
    (hrest : MayFollow inFront rest) : MayFollow (inFront || !nodes.isEmpty) (printAll nodes ++ rest) := by
  cases nodes with
  | nil => simpa [printAll] using hrest
  | cons next nodes =>
    have hnext : next.isText = false := by simpa [Node.isText] using hapart
    rw [printAll, List.append_assoc]
    simpa [MayFollow] using braces_print hnext _

/-- Nothing is a source of no tokens. -/
theorem eq_nil_of_spelled_nil {position : Nat} {s : Text} {later : List Token}
    (h : Spelled position s later) (hs : s = []) : later = [] := by
  cases h with
  | last _ _ => simp [Token.ofText, hs]
  | action _ _ _ _ => simp at hs

/-- The last text of a source. -/
theorem spelled_lastText {s rest : Text} {position : Nat} {later : List Token}
    (h : IsLiteral false s) (hnone : rest = [])
    (hrest : Spelled (position + Text.size s) rest later) :
    Spelled position (s ++ rest) (.text s :: later) := by
  have htext : Token.ofText s = [.text s] := if_neg (by simpa using h.1)
  have hspelled : Spelled position s (Token.ofText s) := .last h.2.1 h.2.2.1
  rw [eq_nil_of_spelled_nil hrest hnone, hnone, List.append_nil, ← htext]
  exact hspelled

/-- A block is its opening, its body and its end. -/
theorem spelled_block {opener : Action} {body : List Node} {start : Nat} {rest : Text}
    {later : List Token} (h : Named opener)
    (hbody : ∀ rest later, ['{', '{'] <+: rest →
      Spelled (start + Text.size opener.print + Text.size (printAll body)) rest later →
      Spelled (start + Text.size opener.print) (printAll body ++ rest)
        (tokensAll (start + Text.size opener.print) body ++ later))
    (hrest : Spelled (start + Text.size (opener.print ++ printAll body ++ Action.close.print)) rest
      later) :
    Spelled start (opener.print ++ printAll body ++ Action.close.print ++ rest)
      (.action opener start :: tokensAll (start + Text.size opener.print) body
        ++ [.action .close (start + Text.size opener.print + Text.size (printAll body))]
        ++ later) := by
  rw [Text.size_append, Text.size_append, ← Nat.add_assoc, ← Nat.add_assoc] at hrest
  have hclose : Named .close := trivial
  have hend := spelled_action hclose hrest
  have hinner := hbody _ _ (braces_print_action .close rest) hend
  have hblock := spelled_action h hinner
  simpa using hblock

mutual

/-- The printed text of a node is a source of its tokens. -/
theorem spelled_print {inFront : Bool} {start : Nat} {rest : Text} {later : List Token} (node : Node)
    (hwritten : node.Written inFront) (hfollow : node.isText = true → MayFollow inFront rest)
    (hrest : Spelled (start + Text.size node.print) rest later) :
    Spelled start (node.print ++ rest) (tokens start node ++ later) := by
  cases node with
  | text s =>
    have hfollow := hfollow rfl
    cases inFront with
    | true => exact spelled_text hwritten hfollow hrest
    | false => exact spelled_lastText hwritten hfollow hrest
  | field name position => exact spelled_action hwritten hrest
  | var name position => exact spelled_action hwritten hrest
  | cond field body position =>
    obtain ⟨hfield, hbody⟩ := hwritten
    have hname : Named (.openIf field) := hfield
    exact spelled_block hname (fun _ _ => spelled_printAll body hbody) hrest
  | each var list body position =>
    obtain ⟨hvar, hlist, hbody⟩ := hwritten
    have hnames : Named (.openRange var list) := ⟨hvar, hlist⟩
    exact spelled_block hnames (fun _ _ => spelled_printAll body hbody) hrest

/-- The printed text of nodes is a source of their tokens. -/
theorem spelled_printAll {inFront : Bool} {start : Nat} {rest : Text} {later : List Token}
    (nodes : List Node) (hwritten : WrittenAll inFront nodes) (hfollow : MayFollow inFront rest)
    (hrest : Spelled (start + Text.size (printAll nodes)) rest later) :
    Spelled start (printAll nodes ++ rest) (tokensAll start nodes ++ later) := by
  cases nodes with
  | nil => simpa [printAll, tokensAll] using hrest
  | cons node nodes =>
    obtain ⟨hnode, hapart, hnodes⟩ := hwritten
    rw [printAll, Text.size_append, ← Nat.add_assoc] at hrest
    have hbehind := spelled_printAll nodes hnodes hfollow hrest
    rw [printAll, tokensAll, List.append_assoc, List.append_assoc]
    refine spelled_print node hnode (fun htext => ?_) hbehind
    cases node with
    | text s => exact mayFollow_text hapart hfollow
    | _ => cases htext

end

/-! ### Tokens of a source -/

/-- A token is literal text. -/
def isText : Token → Bool
  | .text _ => true
  | .action _ _ => false

/-- Tokens as sources hold them: texts that can stand where they do, no two of
them in a row, and actions with names. -/
def WrittenTokens : List Token → Prop
  | [] => True
  | .text s :: later =>
    IsLiteral (!later.isEmpty) s ∧ later.head?.any isText = false ∧ WrittenTokens later
  | .action a _ :: later => Named a ∧ WrittenTokens later

/-- The tokens of a source are as sources hold them. -/
theorem writtenTokens_of_spelled {position : Nat} {s : Text} {tokens : List Token}
    (h : Spelled position s tokens) : WrittenTokens tokens := by
  induction h with
  | @last position s hopen hclose =>
    unfold Token.ofText
    split
    · trivial
    · next hne =>
      have hliteral : IsLiteral false s :=
        ⟨fun hnil => hne (by simp [hnil]), hopen, hclose, fun hfalse => by cases hfalse⟩
      exact ⟨hliteral, rfl, trivial⟩
  | @action position lead body rest a later hopen hclose hbody _ ih =>
    have haction : WrittenTokens (.action a (position + Text.size lead) :: later) :=
      ⟨named_of_spelled hbody, ih⟩
    unfold Token.ofText
    split
    · exact haction
    · next hne =>
      have hinside : ¬['{', '{'] <:+: lead := not_pair_left hopen
      have hliteral : IsLiteral true lead :=
        ⟨fun hnil => hne (by simp [hnil]), hinside, hclose, fun _ => getLast_ne_of_not_pair hopen⟩
      exact ⟨hliteral, rfl, haction⟩

/-- The names in the tokens of a source are names. -/
theorem named_of_mem {tokens : List Token} (h : WrittenTokens tokens) {a : Action} {position : Nat}
    (hmem : .action a position ∈ tokens) : Named a := by
  induction tokens with
  | nil => cases hmem
  | cons token tokens ih =>
    cases token with
    | text s =>
      obtain ⟨-, -, hlater⟩ := h
      exact ih hlater (by simpa using hmem)
    | action b start =>
      obtain ⟨hnamed, hlater⟩ := h
      rcases List.mem_cons.mp hmem with heq | hmem
      · cases heq
        exact hnamed
      · exact ih hlater hmem

end ReleaseLag.Proofs.Template
