import ReleaseLag.Proofs.Template.Parts
import ReleaseLag.Proofs.Template.RoundTrip

/-!
# `ReleaseLag.Proofs.Template.Braces`: no action is left in a rendered text

Single braces may stand anywhere in literal text, and rendering brings
together texts that are far apart in the source: a block may vanish between
them, or a range put its last text in front of its first. That no two of them
make the braces of an action is due to the tokenizer alone. It cuts at the
first pair of braces, so a text in front of an action never ends in one, and
the only text that can is the last of the whole source.

`Clear` is what nodes render to where something may stand behind them, and
where nothing does. `Clear.append` is the one place at which two texts meet,
and `clear_renderAll` carries it through the tree and through every name that
a range goes over.
-/

set_option autoImplicit false

namespace ReleaseLag.Proofs.Template

open ReleaseLag.Template

/-! ### Texts without doubled braces -/

/-- A text has no doubled brace, and it ends in none if something may stand
behind it. -/
def Clear (inFront : Bool) (s : Text) : Prop :=
  ¬['{', '{'] <:+: s ∧ (inFront = true → s.getLast? ≠ some '{')

theorem Clear.nil (inFront : Bool) : Clear inFront [] :=
  ⟨by decide, fun _ => by decide⟩

/-- What may stand in front of something may stand at the end. -/
theorem Clear.of_true {inFront : Bool} {s : Text} (h : Clear true s) : Clear inFront s :=
  ⟨h.1, fun _ => h.2 rfl⟩

/-- Two texts make no pair where they meet, if the first does not end in a
brace. -/
theorem Clear.append {inFront : Bool} {s t : Text} (hs : Clear true s) (ht : Clear inFront t) :
    Clear inFront (s ++ t) := by
  constructor
  · exact Text.not_pair_append hs.1 ht.1 fun hmeet => hs.2 rfl hmeet.1
  · intro hfront hend
    rw [List.getLast?_append, Option.or_eq_some_iff] at hend
    rcases hend with hend | ⟨-, hend⟩
    · exact ht.2 hfront hend
    · exact hs.2 rfl hend

/-- A text without braces. -/
theorem clear_of_not_mem {inFront : Bool} {s : Text} (h : '{' ∉ s) : Clear inFront s :=
  ⟨fun hpair => h (hpair.subset List.mem_cons_self), fun _ hend => h (List.mem_of_getLast? hend)⟩

theorem clear_of_isLiteral {inFront : Bool} {s : Text} (h : IsLiteral inFront s) :
    Clear inFront s :=
  ⟨h.2.1, h.2.2.2⟩

/-- There are no braces in the name of a parameter. -/
theorem clear_name (inFront : Bool) (n : ParamName) : Clear inFront n.text :=
  clear_of_not_mem (not_mem_name n.wellFormed (by decide))

/-- Texts that may all stand in front of something, one behind the other. -/
theorem clear_eachOf {α : Type} {f : α → Except Template.Error Text}
    (h : ∀ a text, f a = .ok text → Clear true text) :
    ∀ (l : List α) {text : Text}, eachOf f l = .ok text → Clear true text
  | [], text, hall => by
    cases hall
    exact Clear.nil true
  | a :: l, text, hall => by
    rw [eachOf_cons] at hall
    obtain ⟨front, hfront, hall⟩ := bind_eq_ok_iff.mp hall
    obtain ⟨rest, hrest, hall⟩ := bind_eq_ok_iff.mp hall
    cases hall
    exact (h a front hfront).append (clear_eachOf h l hrest)

/-! ### Rendering -/

variable {data : Data}

mutual

/-- A node renders to a text without doubled braces, whatever the data. -/
theorem clear_render {inFront : Bool} {env : List (Text × ParamName)} {text : Text} :
    ∀ node : Node, node.Written inFront → node.render data env = .ok text → Clear inFront text
  | .text s, hwritten, hrender => by
    cases hrender
    exact clear_of_isLiteral hwritten
  | .field name position, _, hrender => by
    rw [Node.render] at hrender
    split at hrender <;> cases hrender
    exact clear_name inFront _
  | .var name position, _, hrender => by
    rw [Node.render] at hrender
    split at hrender <;> cases hrender
    exact clear_name inFront _
  | .cond field body position, hwritten, hrender => by
    rw [Node.render] at hrender
    split at hrender
    · exact (clear_renderAll body hwritten.2 hrender).of_true
    · cases hrender
      exact Clear.nil inFront
  | .each var list body position, hwritten, hrender => by
    rw [Node.render] at hrender
    split at hrender
    · next ns _ =>
      have hbody : ∀ n text, renderAll data ((var, n) :: env) body = .ok text → Clear true text :=
        fun _ _ h => clear_renderAll body hwritten.2.2 h
      exact (clear_eachOf hbody ns hrender).of_true
    · cases hrender

/-- Nodes render to a text without doubled braces, whatever the data. -/
theorem clear_renderAll {inFront : Bool} {env : List (Text × ParamName)} {text : Text} :
    ∀ nodes : List Node, WrittenAll inFront nodes → renderAll data env nodes = .ok text →
      Clear inFront text
  | [], _, hrender => by
    cases hrender
    exact Clear.nil inFront
  | node :: nodes, hwritten, hrender => by
    obtain ⟨hnode, -, hnodes⟩ := hwritten
    rw [renderAll] at hrender
    obtain ⟨front, hfront, hrender⟩ := bind_eq_ok_iff.mp hrender
    obtain ⟨rest, hrest, hrender⟩ := bind_eq_ok_iff.mp hrender
    cases hrender
    cases nodes with
    | nil =>
      cases hrest
      rw [List.isEmpty_nil, Bool.not_true, Bool.or_false] at hnode
      rw [List.append_nil]
      exact clear_render node hnode hfront
    | cons next nodes =>
      -- With another node behind it, a text was written in front of something.
      rw [List.isEmpty_cons, Bool.not_false, Bool.or_true] at hnode
      exact (clear_render node hnode hfront).append (clear_renderAll (next :: nodes) hnodes hrest)

end

/-! ### Templates that compile -/

/-- No action is left in what a template renders to, whatever blocks vanish or
are repeated. -/
theorem render_leaves_no_action {schema : Schema} {source text : Text} {template : Template}
    (hcompile : Template.compile schema source = .ok template)
    (hrender : template.render data = .ok text) : ¬['{', '{'] <:+: text := by
  obtain ⟨-, -, hwritten⟩ := wellFormed_of_compile hcompile
  obtain ⟨u, -, hnodes⟩ := bind_eq_ok_iff.mp hrender
  exact (clear_renderAll template.nodes hwritten hnodes).1

/-- A list and an optional field. -/
def bracesSchema : Schema :=
  .ofList [(['L'], .list), (['O'], .optional)]

/-- Braces on both sides of a block, of a range and of what it repeats. -/
def bracesSource : Text :=
  ("a\x7d\x7b\x7bif .O\x7d\x7dx\x7b\x7bend\x7d\x7d\x7bb"
    ++ "\x7b\x7brange $v := .L\x7d\x7d\x7b,\x7d\x7b\x7b$v\x7d\x7d\x7b\x7bend\x7d\x7d\x7b").toList

/-- The template of `bracesSource`. -/
def bracesTemplate : Template where
  nodes := [.text "a\x7d".toList, .cond ['O'] [.text ['x']] 2, .text "\x7bb".toList,
    .each ['v'] ['L'] [.text "\x7b,\x7d".toList, .var ['v'] 42] 21, .text ['\x7b']]
  schema := bracesSchema

/-- Data that bind the list to two names and do not bind the optional field. -/
def bracesData : Data :=
  .ofList [(['L'], .names [⟨['u'], by decide⟩, ⟨['w'], by decide⟩])]

/-- The block vanishes and the range is gone through twice. -/
theorem render_leaves_no_action_sample :
    Template.compile bracesSchema bracesSource = .ok bracesTemplate
      ∧ bracesTemplate.render bracesData = .ok "a\x7d\x7bb\x7b,\x7du\x7b,\x7dw\x7b".toList
      ∧ ¬['{', '{'] <:+: "a\x7d\x7bb\x7b,\x7du\x7b,\x7dw\x7b".toList := by
  have htokens : Token.tokenize bracesSource = .ok
      [.text "a\x7d".toList, .action (.openIf ['O']) 2, .text ['x'], .action .close 12,
        .text "\x7bb".toList, .action (.openRange ['v'] ['L']) 21, .text "\x7b,\x7d".toList,
        .action (.var ['v']) 42, .action .close 48, .text ['\x7b']] :=
    toOption_eq_some_iff.mp (by decide +kernel)
  have hcompile : Template.compile bracesSchema bracesSource = .ok bracesTemplate := by
    rw [Template.compile, htokens]
    rfl
  have hrender : bracesTemplate.render bracesData
      = .ok "a\x7d\x7bb\x7b,\x7du\x7b,\x7dw\x7b".toList := rfl
  exact ⟨hcompile, hrender, render_leaves_no_action hcompile hrender⟩

end ReleaseLag.Proofs.Template
