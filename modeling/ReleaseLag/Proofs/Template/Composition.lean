import ReleaseLag.Proofs.Template.Bindings
import ReleaseLag.Proofs.Template.Reframing
import ReleaseLag.Proofs.Template.Splicing

/-!
# `ReleaseLag.Proofs.Template.Composition`: templates made of templates

A source behind another is a source unless their ends meet in a brace, and a
source with a block around it is one unless it ends in an opening brace. What
they compile to renders to what the parts do: one behind the other, once or
not at all, or once for each name of a list.

Where two sources are joined, only two runs of text grow together: the last
of the one and the first of the other. Everything in front of them has the
tokens that it had, and everything behind has its tokens moved
(`spelled_join`). `steps_reframed` takes these to nodes, behind the nodes of the first
source and inside the block around the second.
-/

set_option autoImplicit false

namespace ReleaseLag.Proofs.Template

open ReleaseLag.Template

variable {schema : Schema} {data : Data}

/-! ### Sources -/

/-- One text ends and another begins with a character. -/
def Meet (c : Char) (s t : Text) : Prop :=
  s.getLast? = some c ∧ t.head? = some c

/-- A run of text grows together with the first run of the source behind it.
The other tokens of that source move along. -/
theorem spelled_behind_run {position start k : Nat} {run s : Text} {tokens : List Token}
    (h : Spelled position s tokens) (hplace : start + Text.size run = k + position)
    (hopen : ¬['{', '{'] <:+: run) (hclose : ¬['}', '}'] <:+: run)
    (hmeetOpen : ¬Meet '{' run s) (hmeetClose : ¬Meet '}' run s) :
    ∃ first back, tokens = Token.ofText first ++ back
      ∧ Spelled start (run ++ s) (Token.ofText (run ++ first) ++ back.map (movedToken k)) := by
  cases h with
  | last hopen' hclose' =>
    refine ⟨s, [], (List.append_nil _).symm, ?_⟩
    rw [List.map_nil, List.append_nil]
    exact .last (Text.not_pair_append hopen hopen' hmeetOpen)
      (Text.not_pair_append hclose hclose' hmeetClose)
  | @action _ lead body rest a later hopen' hclose' hbody hrest =>
    refine ⟨lead, .action a (position + Text.size lead) :: later, rfl, ?_⟩
    -- The brace behind the text belongs to the action, so it counts as its end.
    have hjoinOpen : ¬['{', '{'] <:+: run ++ lead ++ ['{'] := by
      rw [List.append_assoc]
      refine Text.not_pair_append hopen hopen' fun hmeet => hmeetOpen ⟨hmeet.1, ?_⟩
      cases lead with
      | nil => rfl
      | cons c lead => exact hmeet.2
    have hjoinClose : ¬['}', '}'] <:+: run ++ lead := by
      refine Text.not_pair_append hclose hclose' fun hmeet => hmeetClose ⟨hmeet.1, ?_⟩
      cases lead with
      | nil => cases hmeet.2
      | cons c lead => exact hmeet.2
    have hstart : start + Text.size (run ++ lead) = k + (position + Text.size lead) := by
      rw [Text.size_append]
      omega
    have hbehind : k + (position + Text.size lead + Text.size body + 4)
        = start + Text.size (run ++ lead) + Text.size body + 4 := by omega
    have hspelled := Spelled.action hjoinOpen hjoinClose hbody (hbehind ▸ spelled_moved hrest)
    rw [hstart] at hspelled
    simpa [movedToken] using hspelled

/-- Two sources that do not meet in a brace are a source together. Its tokens
are those of the first and those of the second, moved, except for the runs
where the two are joined. -/
theorem spelled_join {s₁ s₂ : Text} {tokens₁ tokens₂ : List Token}
    (h₁ : Spelled 0 s₁ tokens₁) (h₂ : Spelled 0 s₂ tokens₂)
    (hmeetOpen : ¬Meet '{' s₁ s₂) (hmeetClose : ¬Meet '}' s₁ s₂) :
    ∃ front run first back, tokens₁ = front ++ Token.ofText run
      ∧ tokens₂ = Token.ofText first ++ back
      ∧ Spelled 0 (s₁ ++ s₂)
        (front ++ (Token.ofText (run ++ first) ++ back.map (movedToken (Text.size s₁)))) := by
  obtain ⟨lead, run, front, rfl, rfl, hopen, hclose, hgoes⟩ := exists_run_of_spelled h₁
  -- What its last run ends in, the whole source does.
  have hmeet : ∀ c, Meet c run s₂ → Meet c (lead ++ run) s₂ := by
    intro c h
    refine ⟨?_, h.2⟩
    rw [List.getLast?_append, h.1]
    rfl
  have hplace : 0 + Text.size lead + Text.size run = Text.size (lead ++ run) + 0 := by
    rw [Text.size_append]
    omega
  obtain ⟨first, back, rfl, hjoined⟩ := spelled_behind_run h₂ hplace hopen hclose
    (mt (hmeet '{') hmeetOpen) (mt (hmeet '}') hmeetClose)
  have hspelled := hgoes _ _ hjoined
  rw [← List.append_assoc] at hspelled
  exact ⟨front, run, first, back, rfl, rfl, hspelled⟩

/-! ### Runs of text as nodes -/

/-- A run of text as nodes: none for the empty text. -/
def textNodes (s : Text) : List Node :=
  if s.isEmpty then [] else [.text s]

theorem steps_ofText (progress : Progress) (s : Text) :
    (Token.ofText s).foldlM (step schema) progress
      = .ok ⟨progress.frames, progress.nodes ++ textNodes s⟩ := by
  unfold Token.ofText textNodes
  split
  · rw [List.append_nil]
    rfl
  · rfl

theorem renderAll_textNodes (env : List (Text × ParamName)) (s : Text) :
    renderAll data env (textNodes s) = .ok s := by
  unfold textNodes
  split
  · next hempty => rw [List.isEmpty_iff.mp hempty, renderAll]
  · exact followedBy_nil (.ok s)

/-! ### One template behind another -/

/-- Two sources that do not meet in a brace compile together, to nodes that
render to the texts of both. -/
theorem compile_append {s₁ s₂ : Text} {t₁ t₂ : Template}
    (h₁ : Template.compile schema s₁ = .ok t₁) (h₂ : Template.compile schema s₂ = .ok t₂)
    (hmeetOpen : ¬Meet '{' s₁ s₂) (hmeetClose : ¬Meet '}' s₁ s₂) :
    ∃ nodes, Template.compile schema (s₁ ++ s₂) = .ok ⟨nodes, schema⟩
      ∧ ∀ data env, renderAll data env nodes = followedBy (renderAll data env t₁.nodes)
        ((renderAll data env t₂.nodes).mapError (movedError (Text.size s₁))) := by
  obtain ⟨tokens₁, htokens₁, hsteps₁, -⟩ := compile_eq_ok_iff.mp h₁
  obtain ⟨tokens₂, htokens₂, hsteps₂, -⟩ := compile_eq_ok_iff.mp h₂
  obtain ⟨front, run, first, back, rfl, rfl, hspelled⟩ :=
    spelled_join (tokenizeFrom_eq_ok_iff.mp htokens₁) (tokenizeFrom_eq_ok_iff.mp htokens₂)
      hmeetOpen hmeetClose
  -- Both token lists are taken up to the runs that grow together.
  obtain ⟨⟨frames, nodes₁⟩, hfront, hrun⟩ := stepsOf_append_eq_ok_iff.mp hsteps₁
  obtain ⟨between, hfirst, hback⟩ := stepsOf_append_eq_ok_iff.mp hsteps₂
  rw [steps_ofText] at hrun
  rw [stepsOf, steps_ofText] at hfirst
  cases hfirst
  obtain ⟨rfl, hnodes₁⟩ : frames = [] ∧ nodes₁ ++ textNodes run = t₁.nodes := by
    simpa using hrun
  have hnew : NewVars [] back := fun _ _ _ _ => List.not_mem_nil
  obtain ⟨inner, hinner, hmoved⟩ :=
    steps_reframed hback hnew (nodes₁ ++ textNodes (run ++ first)) (Text.size s₁)
  refine ⟨nodes₁ ++ textNodes (run ++ first) ++ movedAll (Text.size s₁) inner, ?_, ?_⟩
  · refine compile_eq_ok_iff.mpr ⟨_, tokenizeFrom_eq_ok_iff.mpr hspelled, ?_, rfl⟩
    refine stepsOf_append_eq_ok_iff.mpr ⟨⟨[], nodes₁⟩, hfront, ?_⟩
    rw [List.foldlM_append, steps_ofText, ok_bind, hmoved]
  · intro data env
    have htexts : (.ok (run ++ first) : Except Template.Error Text)
        = followedBy (.ok run) (.ok first) := rfl
    rw [← hnodes₁, hinner]
    simp only [List.nil_append, renderAll_append, renderAll_textNodes, renderAll_moved,
      mapError_followedBy, mapError_ok, htexts, followedBy_assoc]

/-! ### A block around a template -/

/-- The action that opens a block. -/
def openAction : Opener → Action
  | .cond field => .openIf field
  | .each var list => .openRange var list

/-- A range of a source declares a variable. -/
def Declares (source var : Text) : Prop :=
  ∃ tokens list position, Token.tokenize source = .ok tokens
    ∧ .action (.openRange var list) position ∈ tokens

/-- A source that does not end in a brace compiles inside a block that is
allowed and declares none of its variables: to the block around its nodes,
moved. -/
theorem compile_wrapped (opener : Opener) {s : Text} {t : Template}
    (h : Template.compile schema s = .ok t) (hlast : s.getLast? ≠ some '{')
    (hnamed : Named (openAction opener))
    (hcheck : checkAction schema [] (openAction opener) = .ok ())
    (hnew : ∀ var ∈ varOf ⟨opener, 0, []⟩, ¬Declares s var) :
    Template.compile schema ((openAction opener).print ++ s ++ Action.close.print)
      = .ok ⟨[(Frame.mk opener 0 []).node
          (movedAll (Text.size (openAction opener).print) t.nodes)], schema⟩ := by
  obtain ⟨tokens, htokens, hsteps, -⟩ := compile_eq_ok_iff.mp h
  let k := Text.size (openAction opener).print
  have hclose : Named .close := trivial
  have hend : Spelled (0 + k + Text.size s + Text.size Action.close.print) [] [] :=
    .last (by decide) (by decide)
  have hbehind := spelled_action hclose hend
  have hinside : Spelled (0 + k) s (tokens.map (movedToken k)) := by
    rw [Nat.add_comm]
    exact spelled_moved (tokenizeFrom_eq_ok_iff.mp htokens)
  have hbody := spelled_append hinside hlast (braces_print_action .close []) hbehind
  have hwhole := spelled_action hnamed hbody
  rw [List.append_nil, ← List.append_assoc] at hwhole
  have hvars : NewVars [⟨opener, 0, []⟩] tokens := by
    intro var list position hmem hvar
    have hvar : var ∈ varOf ⟨opener, 0, []⟩ := by simpa [varsOf] using hvar
    exact hnew var hvar ⟨tokens, list, position, htokens, hmem⟩
  obtain ⟨inner, hinner, hmoved⟩ := steps_reframed hsteps hvars [] k
  cases hinner
  refine compile_eq_ok_iff.mpr ⟨_, tokenizeFrom_eq_ok_iff.mpr hwhole, ?_, rfl⟩
  -- The block is entered, gone through, and left.
  have henter : step schema ⟨[], []⟩ (.action (openAction opener) 0)
      = .ok ⟨[⟨opener, 0, []⟩], []⟩ := by
    rw [step, hcheck]
    cases opener <;> rfl
  rw [stepsOf, List.foldlM_cons, henter, ok_bind, List.foldlM_append, hmoved, ok_bind]
  rfl

/-! ### What they render to -/

/-- A template renders data that keep to its schema as its nodes do. -/
theorem render_of_fits {template : Template} (hschema : template.schema = schema)
    (hfits : Fits schema data) : template.render data = renderAll data [] template.nodes := by
  have hchecked : checkData schema data.entries = .ok () := checkData_eq_ok_iff.mpr hfits
  rw [Template.render, hschema, hchecked, ok_bind]

/-- A template of one node renders as the node does. -/
theorem render_single (hfits : Fits schema data) (node : Node) :
    Template.render ⟨[node], schema⟩ data = node.render data [] := by
  rw [render_of_fits rfl hfits]
  exact followedBy_nil _

/-- A field is bound to a name, or to at least one. -/
def BoundToNames (data : Data) (field : Text) : Prop :=
  (∃ n, data.get? field = some (.name n)) ∨ ∃ ns, data.get? field = some (.names ns) ∧ ns ≠ []

theorem isPresent_iff {field : Text} : data.isPresent field = true ↔ BoundToNames data field := by
  rw [Data.isPresent, Data.binding, BoundToNames]
  cases hbinding : data.get? field with
  | none => simp
  | some binding => cases binding <;> simp

/-- A block around a template keeps it or leaves it out. -/
theorem render_cond_moved {template : Template} (hschema : template.schema = schema)
    (hfits : Fits schema data) (k : Nat) (field : Text) (position : Nat) :
    (Node.cond field (movedAll k template.nodes) position).render data []
      = if data.isPresent field then (template.render data).mapError (movedError k)
        else .ok [] := by
  rw [Node.render, render_of_fits hschema hfits, renderAll_moved]

/-- A range around a template renders it once for each name. The template uses
no variables, so the name makes no difference. -/
theorem render_each_moved {template : Template} (hschema : template.schema = schema)
    (hscoped : ScopedAll schema [] [] template.nodes) (hfits : Fits schema data) (k : Nat)
    (var : Text) {list : Text} (position : Nat) {ns : List ParamName}
    (hbound : data.get? list = some (.names ns)) :
    (Node.each var list (movedAll k template.nodes) position).render data []
      = eachOf (fun _ => (template.render data).mapError (movedError k)) ns := by
  have hbody : (fun n => renderAll data [(var, n)] (movedAll k template.nodes))
      = fun _ => (template.render data).mapError (movedError k) := by
    funext n
    rw [renderAll_moved, renderAll_of_closed hscoped, render_of_fits hschema hfits]
  rw [Node.render, binding_of_some hbound, hbody]
  rfl

/-- How templates compose:

1. `joins`: a source behind another compiles, unless one ends and the other
   begins with the same kind of brace, and it renders to the text of the one
   and then that of the other;
2. `guards`: a source with a block around it that depends on an optional field
   or a list compiles, unless it ends in an opening brace. With data that keep
   to the schema it renders as before if the field is bound to a name or to
   names, and to nothing otherwise;
3. `repeats`: a source with a range over a list around it compiles, unless it
   ends in an opening brace or declares the range's variable. With data that
   keep to the schema it renders as before, once for each name of the list.

Errors of a part point as many bytes further on as stand in front of it. -/
structure Composes (schema : Schema) : Prop where
  joins : ∀ s₁ s₂ t₁ t₂, Template.compile schema s₁ = .ok t₁ → Template.compile schema s₂ = .ok t₂ →
    ¬Meet '{' s₁ s₂ → ¬Meet '}' s₁ s₂ →
    ∃ joined, Template.compile schema (s₁ ++ s₂) = .ok joined
      ∧ ∀ data, joined.render data
        = followedBy (t₁.render data) ((t₂.render data).mapError (movedError (Text.size s₁)))
  guards : ∀ field s t, schema.get? field = some .optional ∨ schema.get? field = some .list →
    Text.isName field = true → Template.compile schema s = .ok t → s.getLast? ≠ some '{' →
    ∃ guarded,
      Template.compile schema ((Action.openIf field).print ++ s ++ Action.close.print) = .ok guarded
      ∧ ∀ data, Fits schema data →
        (BoundToNames data field → guarded.render data
          = (t.render data).mapError (movedError (Text.size (Action.openIf field).print)))
        ∧ (¬BoundToNames data field → guarded.render data = .ok [])
  repeats : ∀ list var s t, schema.get? list = some .list →
    Text.isName list = true → Text.isName var = true → Template.compile schema s = .ok t →
    s.getLast? ≠ some '{' → ¬Declares s var →
    ∃ ranged,
      Template.compile schema ((Action.openRange var list).print ++ s ++ Action.close.print)
        = .ok ranged
      ∧ ∀ data, Fits schema data → ∀ ns, data.get? list = some (.names ns) →
        (∀ text, t.render data = .ok text →
          ranged.render data = .ok (List.replicate ns.length text).flatten)
        ∧ (∀ e, t.render data = .error e → ns ≠ [] → ranged.render data
          = .error (movedError (Text.size (Action.openRange var list).print) e))
        ∧ (ns = [] → ranged.render data = .ok [])

/-- Templates compose, for any schema. -/
theorem templates_compose (schema : Schema) : Composes schema := by
  constructor
  case joins =>
    intro s₁ s₂ t₁ t₂ h₁ h₂ hmeetOpen hmeetClose
    obtain ⟨nodes, hcompile, hrender⟩ := compile_append h₁ h₂ hmeetOpen hmeetClose
    refine ⟨⟨nodes, schema⟩, hcompile, fun data => ?_⟩
    obtain ⟨hschema₁, -⟩ := scopedAll_of_compile h₁
    obtain ⟨hschema₂, -⟩ := scopedAll_of_compile h₂
    rw [Template.render, Template.render, Template.render, hschema₁, hschema₂]
    cases checkData schema data.entries with
    | error e => rfl
    | ok u => exact hrender data []
  case guards =>
    intro field s t hkind hname h hlast
    have hcheck : checkAction schema [] (.openIf field) = .ok () := checkIf_eq_ok_iff.mpr hkind
    have hnew : ∀ var ∈ varOf ⟨.cond field, 0, []⟩, ¬Declares s var :=
      fun _ hmem => absurd hmem List.not_mem_nil
    let k := Text.size (Action.openIf field).print
    refine ⟨⟨[.cond field (movedAll k t.nodes) 0], schema⟩,
      compile_wrapped (.cond field) h hlast hname hcheck hnew, fun data hfits => ?_⟩
    obtain ⟨hschema, -⟩ := scopedAll_of_compile h
    rw [render_single hfits, render_cond_moved hschema hfits, ← isPresent_iff]
    exact ⟨fun hpresent => if_pos hpresent, fun habsent => if_neg habsent⟩
  case repeats =>
    intro list var s t hkind hlist hvar h hlast hdeclares
    have hnamed : Named (.openRange var list) := ⟨hvar, hlist⟩
    have hcheck : checkAction schema [] (.openRange var list) = .ok () :=
      checkRange_eq_ok_iff.mpr ⟨hkind, List.not_mem_nil⟩
    have hnew : ∀ other ∈ varOf ⟨.each var list, 0, []⟩, ¬Declares s other := by
      intro other hmem
      rwa [List.mem_singleton.mp hmem]
    let k := Text.size (Action.openRange var list).print
    refine ⟨⟨[.each var list (movedAll k t.nodes) 0], schema⟩,
      compile_wrapped (.each var list) h hlast hnamed hcheck hnew,
      fun data hfits ns hbound => ?_⟩
    obtain ⟨hschema, hscoped⟩ := scopedAll_of_compile h
    rw [render_single hfits, render_each_moved hschema hscoped hfits k var 0 hbound]
    refine ⟨fun text htext => ?_, fun e he hne => ?_, fun hnone => ?_⟩
    · rw [htext]
      exact eachOf_const_ok text ns
    · rw [he]
      exact eachOf_const_error hne _
    · rw [hnone]
      rfl

/-- A scalar field, an optional field and a list. -/
def partSchema : Schema :=
  .ofList [(['S'], .scalar), (['O'], .optional), (['L'], .list)]

/-- Data that bind all of them. -/
def partData : Data :=
  .ofList [(['S'], .name ⟨['m'], by decide⟩), (['O'], .name ⟨['n'], by decide⟩),
    (['L'], .names [⟨['g'], by decide⟩, ⟨['h'], by decide⟩])]

/-- Data without the optional field. -/
def bareData : Data :=
  .ofList [(['S'], .name ⟨['m'], by decide⟩)]

def firstPart : Text := "x=\x7b\x7b.S\x7d\x7d,".toList

def firstTemplate : Template where
  nodes := [.text ['x', '='], .field ['S'] 2, .text [',']]
  schema := partSchema

def secondPart : Text := "y=\x7b\x7b.S\x7d\x7d;".toList

def secondTemplate : Template where
  nodes := [.text ['y', '='], .field ['S'] 2, .text [';']]
  schema := partSchema

/-- Two parts behind each other, one in a block that is kept or left out, and one
in a range over two names. -/
theorem templates_compose_sample :
    Template.compile partSchema firstPart = .ok firstTemplate
      ∧ Template.compile partSchema secondPart = .ok secondTemplate
      ∧ (∃ joined, Template.compile partSchema (firstPart ++ secondPart) = .ok joined
        ∧ joined.render partData = .ok "x=m,y=m;".toList)
      ∧ (∃ guarded, Template.compile partSchema
          "\x7b\x7bif .O\x7d\x7dx=\x7b\x7b.S\x7d\x7d,\x7b\x7bend\x7d\x7d".toList = .ok guarded
        ∧ guarded.render partData = .ok "x=m,".toList ∧ guarded.render bareData = .ok [])
      ∧ ∃ ranged, Template.compile partSchema
          "\x7b\x7brange $v := .L\x7d\x7dx=\x7b\x7b.S\x7d\x7d,\x7b\x7bend\x7d\x7d".toList
            = .ok ranged
        ∧ ranged.render partData = .ok "x=m,x=m,".toList := by
  have htokens : Token.tokenize firstPart = .ok
      [.text ['x', '='], .action (.field ['S']) 2, .text [',']] :=
    toOption_eq_some_iff.mp (by decide +kernel)
  have hfirst : Template.compile partSchema firstPart = .ok firstTemplate := by
    rw [Template.compile, htokens]
    rfl
  have hsecond : Template.compile partSchema secondPart = .ok secondTemplate := by
    have htokens : Token.tokenize secondPart = .ok
        [.text ['y', '='], .action (.field ['S']) 2, .text [';']] :=
      toOption_eq_some_iff.mp (by decide +kernel)
    rw [Template.compile, htokens]
    rfl
  have hfits : Fits partSchema partData := checkData_eq_ok_iff.mp rfl
  have hbare : Fits partSchema bareData := checkData_eq_ok_iff.mp rfl
  have hdeclares : ¬Declares firstPart ['v'] := by
    rintro ⟨tokens, list, position, hfound, hmem⟩
    rw [htokens] at hfound
    cases hfound
    simp at hmem
  obtain ⟨hjoins, hguards, hrepeats⟩ := templates_compose partSchema
  obtain ⟨joined, hjoined, hjoin⟩ := hjoins firstPart secondPart _ _ hfirst hsecond
    (fun hmeet => absurd hmeet.1 (by decide)) (fun hmeet => absurd hmeet.1 (by decide))
  obtain ⟨guarded, hguarded, hguard⟩ := hguards ['O'] firstPart _ (.inl rfl) rfl hfirst (by decide)
  obtain ⟨ranged, hranged, hrange⟩ :=
    hrepeats ['L'] ['v'] firstPart _ rfl rfl rfl hfirst (by decide) hdeclares
  have hkept : BoundToNames partData ['O'] := isPresent_iff.mp rfl
  have hdropped : ¬BoundToNames bareData ['O'] := mt isPresent_iff.mpr (by decide)
  exact ⟨hfirst, hsecond, ⟨joined, hjoined, hjoin partData⟩,
    ⟨guarded, hguarded, (hguard partData hfits).1 hkept, (hguard bareData hbare).2 hdropped⟩,
    ranged, hranged, (hrange partData hfits _ rfl).1 _ rfl⟩

/-- Two texts that meet in a brace are no source together. -/
example : (Token.tokenize ['{']).toOption = some [.text ['{']]
    ∧ (Token.tokenize (['{'] ++ ['{'])).toOption = none := by
  decide +kernel

end ReleaseLag.Proofs.Template
