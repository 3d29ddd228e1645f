import ReleaseLag.Proofs.Template.Splicing
import ReleaseLag.Proofs.Template.Steps

/-!
# `ReleaseLag.Proofs.Template.Faults`: where a template goes wrong

The position of a compile error cuts the source in two, and the error says
something of either part. What begins at the position is the braces that the
error is about. What ends there is in order: it has tokens where the tokenizer
fails (`stopped_of_tokenizeFrom`), and its tokens are taken without a fault where
a later one is not allowed, since they are a prefix of those of the source
(`exists_cut_of_spelled`) and steps through a list go through its prefixes first.

A block that is not closed is found at the end of the source, so its error
says one thing more: the source becomes a template by closing the blocks that
are open (`compile_closed`).
-/

set_option autoImplicit false

namespace ReleaseLag.Proofs.Template

open ReleaseLag.Template

variable {schema : Schema}

/-! ### Faults of tokens -/

/-- The braces that a fault is about. -/
def mark : Fault → Text
  | .strayClose => ['}', '}']
  | _ => ['{', '{']

theorem mark_of_isOfAction {fault : Fault} (h : isOfAction fault = true) :
    mark fault = ['{', '{'] := by
  cases fault <;> first | rfl | cases h

/-- Braces that close nothing, and the text in front of them. -/
theorem error_of_literal {position : Nat} {s : Text} {e : Error}
    (h : Token.literal position s = .error e) : ∃ before after, s = before ++ '}' :: '}' :: after
      ∧ ¬['}', '}'] <:+: before ∧ e = ⟨position + Text.size before, .strayClose⟩ := by
  unfold Token.literal at h
  split at h
  · next before after hcut =>
    cases h
    obtain ⟨heq, hfirst⟩ := Text.cutPair_eq_some_iff.mp hcut
    exact ⟨before, after, heq, not_pair_left hfirst, rfl⟩
  · cases h

/-- A body that is no action is reported where its braces open. -/
theorem error_of_command {position : Nat} {body : Text} {e : Error}
    (h : Token.command position body = .error e) :
    e = ⟨position, .unrecognizedAction (Text.trim body)⟩ := by
  unfold Token.command at h
  split at h
  · cases h
  · cases h
    rfl

/-- Where the tokenizer fails, it has read the text in front of the fault, and
the braces that the fault is about come next. -/
structure Stopped (position : Nat) (s : Text) (e : Error) (before after : Text) : Prop where
  split : s = before ++ after
  place : e.position = position + Text.size before
  tokens : ∃ tokens, Spelled position before tokens
  stands : mark e.fault <+: after
  fault : e.fault ≠ .missingEnd

/-- A fault at the braces behind a run of text. -/
theorem stopped_of_run {position : Nat} {lead after : Text} {fault : Fault}
    (hopen : ¬['{', '{'] <:+: lead) (hclose : ¬['}', '}'] <:+: lead) (hmark : mark fault <+: after)
    (hfault : fault ≠ .missingEnd) :
    Stopped position (lead ++ after) ⟨position + Text.size lead, fault⟩ lead after where
  split := rfl
  place := rfl
  tokens := ⟨Token.ofText lead, .last hopen hclose⟩
  stands := hmark
  fault := hfault

/-- Braces in a stretch of text that close nothing are a fault behind the text
in front of them. -/
theorem stopped_of_literal {position : Nat} {lead : Text} {e : Error} (rest : Text)
    (hopen : ¬['{', '{'] <:+: lead) (h : Token.literal position lead = .error e) :
    ∃ before after, Stopped position (lead ++ rest) e before after := by
  obtain ⟨before, after, rfl, hclose, rfl⟩ := error_of_literal h
  have hmark : mark .strayClose <+: '}' :: '}' :: after ++ rest := ⟨after ++ rest, rfl⟩
  have hstopped : Stopped position (before ++ ('}' :: '}' :: after ++ rest))
      ⟨position + Text.size before, .strayClose⟩ before ('}' :: '}' :: after ++ rest) :=
    stopped_of_run (not_pair_left hopen) hclose hmark Fault.noConfusion
  rw [← List.append_assoc] at hstopped
  exact ⟨before, _, hstopped⟩

/-- A fault behind an action. -/
theorem Stopped.behind {position : Nat} {lead body rest before after : Text} {a : Action} {e : Error}
    (hopen : ¬['{', '{'] <:+: lead ++ ['{']) (hclose : ¬['}', '}'] <:+: lead)
    (hbody : a.Spelled body)
    (h : Stopped (position + Text.size lead + Text.size body + 4) rest e before after) :
    Stopped position (lead ++ ['{', '{'] ++ body ++ ['}', '}'] ++ rest) e
      (lead ++ ['{', '{'] ++ body ++ ['}', '}'] ++ before) after := by
  obtain ⟨rfl, hplace, ⟨tokens, htokens⟩, hstands, hfault⟩ := h
  constructor
  case split => simp
  case place =>
    rw [hplace, size_behind]
    omega
  case tokens => exact ⟨_, .action hopen hclose hbody htokens⟩
  case stands => exact hstands
  case fault => exact hfault

/-- The tokenizer stops at the first fault of a source. -/
theorem stopped_of_tokenizeFrom {position : Nat} {s : Text} {e : Error}
    (h : Token.tokenizeFrom position s = .error e) :
    ∃ before after, Stopped position s e before after := by
  fun_induction Token.tokenizeFrom position s with
  | case1 position s hopen =>
    obtain ⟨before, after, hstopped⟩ :=
      stopped_of_literal [] (Text.cutPair_eq_none_iff.mp hopen) h
    rw [List.append_nil] at hstopped
    exact ⟨before, after, hstopped⟩
  | case2 position s lead behind hopen ih =>
    obtain ⟨rfl, hpair⟩ := Text.cutPair_eq_some_iff.mp hopen
    have hlead : ¬['{', '{'] <:+: lead := not_pair_left hpair
    have hbraces : ['{', '{'] <+: '{' :: '{' :: behind := ⟨behind, rfl⟩
    rcases bind_eq_error_iff.mp h with hliteral | ⟨leading, hleading, h⟩
    · exact stopped_of_literal _ hlead hliteral
    · obtain ⟨hclosed, rfl⟩ := literal_eq_ok_iff.mp hleading
      -- The action is not closed, its body spells nothing, or the fault is behind it.
      split at h
      · cases h
        exact ⟨lead, _, stopped_of_run hlead hclosed hbraces Fault.noConfusion⟩
      · next body rest hclose =>
        rcases bind_eq_error_iff.mp h with hcommand | ⟨token, hcommand, h⟩
        · cases error_of_command hcommand
          exact ⟨lead, _, stopped_of_run hlead hclosed hbraces Fault.noConfusion⟩
        · obtain ⟨a, hbody, rfl⟩ := command_eq_ok_iff.mp hcommand
          rcases bind_eq_error_iff.mp h with hrest | ⟨tokens, -, hpure⟩
          · obtain ⟨before, after, hstopped⟩ := ih body rest hclose hrest
            have hbehind := hstopped.behind hpair hclosed hbody
            rw [(Text.cutPair_eq_some_iff.mp hclose).1]
            exact ⟨_, after, by simpa using hbehind⟩
          · cases hpure

/-! ### Errors of a source -/

/-- A source whose tokens are taken without a fault compiles, or has a block
that is not closed. -/
theorem compile_of_stepsOf {source : Text} {tokens : List Token} {progress : Progress}
    (htokens : Token.tokenize source = .ok tokens) (hsteps : stepsOf schema tokens = .ok progress) :
    (∃ template, Template.compile schema source = .ok template)
      ∨ ∃ position, Template.compile schema source = .error ⟨position, .missingEnd⟩ := by
  rw [compile_eq, htokens, ok_bind, hsteps, ok_bind, Progress.finish]
  cases progress.frames with
  | nil => exact .inl ⟨_, rfl⟩
  | cons frame frames => exact .inr ⟨frame.position, rfl⟩

/-- Where an error points, in a source that it cuts in two:

1. `split`, `place`, `room`: the position is the byte between the two parts,
   and two more bytes follow it;
2. `stands`: what follows begins with the braces that the error is about;
3. `lexical`: if the source has no tokens, what is in front has;
4. `prior`: if the source has tokens, what is in front compiles, or has
   nothing wrong with it but a block that is not closed;
5. `unclosed`: if that is what is wrong with the source, the position is that
   of the innermost block that its tokens leave open, and the source compiles
   with an end behind it for each such block, unless it ends in a brace. -/
structure PointsAt (schema : Schema) (source : Text) (e : Error) (before after : Text) : Prop where
  split : source = before ++ after
  place : e.position = Text.size before
  room : e.position + 2 ≤ Text.size source
  stands : mark e.fault <+: after
  lexical : (¬∃ tokens, Token.tokenize source = .ok tokens) →
    ∃ tokens, Token.tokenize before = .ok tokens
  prior : (∃ tokens, Token.tokenize source = .ok tokens) →
    (∃ template, Template.compile schema before = .ok template)
      ∨ ∃ position, Template.compile schema before = .error ⟨position, .missingEnd⟩
  unclosed : e.fault = .missingEnd → ∃ tokens outer, Token.tokenize source = .ok tokens
    ∧ openBlocks tokens = e.position :: outer
    ∧ (source.getLast? ≠ some '{' →
      ∃ template, Template.compile schema (source ++ ends (outer.length + 1)) = .ok template)

/-- Behind a position come the two bytes of the braces that stand there. -/
theorem room_of_stands {before after : Text} {e : Error} (hplace : e.position = Text.size before)
    (hstands : mark e.fault <+: after) : e.position + 2 ≤ Text.size (before ++ after) := by
  obtain ⟨rest, rfl⟩ := hstands
  have hmark : Text.size (mark e.fault) = 2 := by
    unfold mark
    split <;> decide
  rw [hplace, Text.size_append, Text.size_append, hmark]
  omega

/-- A source whose tokens leave blocks open compiles with their ends behind
it. -/
theorem compile_closed {source : Text} {tokens : List Token} {frame : Frame} {frames : List Frame}
    {nodes : List Node} (htokens : Token.tokenize source = .ok tokens)
    (hsteps : stepsOf schema tokens = .ok ⟨frame :: frames, nodes⟩)
    (hlast : source.getLast? ≠ some '{') :
    ∃ template, Template.compile schema (source ++ ends (frames.length + 1)) = .ok template := by
  obtain ⟨positions, hlength, hends⟩ := spelled_ends (0 + Text.size source) (frames.length + 1)
  have hbraces : ['{', '{'] <+: ends (frames.length + 1) := braces_print_action .close _
  have hspelled := spelled_append (tokenizeFrom_eq_ok_iff.mp htokens) hlast hbraces hends
  have hclosed : Token.tokenize (source ++ ends (frames.length + 1))
      = .ok (tokens ++ positions.map (Token.action .close)) := tokenizeFrom_eq_ok_iff.mpr hspelled
  obtain ⟨closed, hcloses⟩ : ∃ closed, (positions.map (Token.action .close)).foldlM (step schema)
      ⟨frame :: frames, nodes⟩ = .ok ⟨[], closed⟩ := exists_nodes_of_closes hlength
  have hall : stepsOf schema (tokens ++ positions.map (Token.action .close)) = .ok ⟨[], closed⟩ :=
    stepsOf_append_eq_ok_iff.mpr ⟨_, hsteps, hcloses⟩
  exact ⟨⟨closed, schema⟩, compile_eq_ok_iff.mpr ⟨_, hclosed, hall, rfl⟩⟩

/-- An error at an action of a source whose tokens are taken without a fault up
to there. -/
theorem pointsAt_of_action {source : Text} {e : Error} {a : Action} {front back : List Token}
    {progress : Progress} (htokens : Token.tokenize source = .ok (front ++ .action a e.position :: back))
    (hfront : stepsOf schema front = .ok progress) (hmark : mark e.fault = ['{', '{'])
    (hunclosed : e.fault = .missingEnd → ∃ outer,
      openBlocks (front ++ .action a e.position :: back) = e.position :: outer
        ∧ (source.getLast? ≠ some '{' →
          ∃ template, Template.compile schema (source ++ ends (outer.length + 1)) = .ok template)) :
    ∃ before after, PointsAt schema source e before after := by
  obtain ⟨before, after, rfl, hplace, hbefore, hbraces⟩ :=
    exists_cut_of_spelled (tokenizeFrom_eq_ok_iff.mp htokens)
  rw [Nat.zero_add] at hplace
  have hstands : mark e.fault <+: after := hmark ▸ hbraces
  have hinFront : Token.tokenize before = .ok front := tokenizeFrom_eq_ok_iff.mpr hbefore
  refine ⟨before, after, ?_⟩
  constructor
  case split => rfl
  case place => exact hplace
  case room => exact room_of_stands hplace hstands
  case stands => exact hstands
  case lexical => exact fun hnone => absurd ⟨_, htokens⟩ hnone
  case prior => exact fun _ => compile_of_stepsOf hinFront hfront
  case unclosed =>
    intro hmissing
    obtain ⟨outer, hopen, hends⟩ := hunclosed hmissing
    exact ⟨_, outer, htokens, hopen, hends⟩

/-- An error of the tokenizer. -/
theorem pointsAt_of_tokenize {source : Text} {e : Error} (h : Token.tokenize source = .error e) :
    ∃ before after, PointsAt schema source e before after := by
  obtain ⟨before, after, rfl, hplace, ⟨tokens, htokens⟩, hstands, hfault⟩ :=
    stopped_of_tokenizeFrom h
  rw [Nat.zero_add] at hplace
  refine ⟨before, after, ?_⟩
  constructor
  case split => rfl
  case place => exact hplace
  case room => exact room_of_stands hplace hstands
  case stands => exact hstands
  case lexical => exact fun _ => ⟨tokens, tokenizeFrom_eq_ok_iff.mpr htokens⟩
  case prior =>
    rintro ⟨tokens, htokens⟩
    rw [h] at htokens
    cases htokens
  case unclosed => exact fun hmissing => absurd hmissing hfault

/-- An error of a token that is not allowed: those in front of it are. -/
theorem pointsAt_of_refused {source : Text} {e : Error} {tokens : List Token}
    (htokens : Token.tokenize source = .ok tokens) (h : stepsOf schema tokens = .error e) :
    ∃ before after, PointsAt schema source e before after := by
  obtain ⟨front, token, back, progress, rfl, hfront, hstep⟩ := foldlM_eq_error h
  obtain ⟨⟨a, rfl⟩, hfault⟩ := error_of_step hstep
  refine pointsAt_of_action htokens hfront (mark_of_isOfAction hfault) fun hmissing => ?_
  rw [hmissing] at hfault
  cases hfault

/-- An error of the end of a source: every token is allowed, and a block is
left open. -/
theorem pointsAt_of_open {source : Text} {tokens : List Token} {frame : Frame}
    {frames : List Frame} {nodes : List Node} (htokens : Token.tokenize source = .ok tokens)
    (h : stepsOf schema tokens = .ok ⟨frame :: frames, nodes⟩) :
    ∃ before after, PointsAt schema source ⟨frame.position, .missingEnd⟩ before after := by
  have hopen : openBlocks tokens = frame.position :: frames.map Frame.position :=
    (position_of_steps h).symm
  have hmem : frame.position ∈ openBlocks tokens := by
    rw [hopen]
    exact List.mem_cons_self
  rcases exists_action_of_mem_openAfter hmem with ⟨a, haction⟩ | hnone
  · obtain ⟨front, back, rfl⟩ := List.mem_iff_append.mp haction
    obtain ⟨progress, hfront, -⟩ := stepsOf_append_eq_ok_iff.mp h
    refine pointsAt_of_action htokens hfront rfl fun _ => ⟨_, hopen, fun hlast => ?_⟩
    rw [List.length_map]
    exact compile_closed htokens h hlast
  · cases hnone

/-- The error of a source points at the first thing that is wrong with it. -/
theorem compile_error_points {source : Text} {e : Error}
    (h : Template.compile schema source = .error e) :
    ∃ before after, PointsAt schema source e before after := by
  rw [compile_eq] at h
  rcases bind_eq_error_iff.mp h with htokens | ⟨tokens, htokens, h⟩
  · exact pointsAt_of_tokenize htokens
  rcases bind_eq_error_iff.mp h with hsteps | ⟨⟨frames, nodes⟩, hsteps, h⟩
  · exact pointsAt_of_refused htokens hsteps
  rcases bind_eq_error_iff.mp h with hfinish | ⟨nodes, -, hpure⟩
  · cases frames with
    | nil => cases hfinish
    | cons frame frames =>
      cases hfinish
      exact pointsAt_of_open htokens hsteps
  · cases hpure

/-- An optional field and a list. -/
def unclosedSchema : Schema :=
  .ofList [(['O'], .optional), (['L'], .list)]

/-- A block with a range inside, and neither is closed. -/
def unclosedSource : Text :=
  "a\x7b\x7bif .O\x7d\x7db\x7b\x7brange $v := .L\x7d\x7d\x7b\x7b$v\x7d\x7d".toList

/-- The error of two blocks that are left open points at the inner one. -/
theorem compile_error_points_unclosed :
    Template.compile unclosedSchema unclosedSource = .error ⟨11, .missingEnd⟩
      ∧ ∃ before after, PointsAt unclosedSchema unclosedSource ⟨11, .missingEnd⟩ before after := by
  have htokens : Token.tokenize unclosedSource = .ok
      [.text ['a'], .action (.openIf ['O']) 1, .text ['b'], .action (.openRange ['v'] ['L']) 11,
        .action (.var ['v']) 29] := toOption_eq_some_iff.mp (by decide +kernel)
  have hcompile : Template.compile unclosedSchema unclosedSource = .error ⟨11, .missingEnd⟩ := by
    rw [Template.compile, htokens]
    rfl
  exact ⟨hcompile, compile_error_points hcompile⟩

end ReleaseLag.Proofs.Template
