import ReleaseLag.Proofs.Except
import ReleaseLag.Template.Grammar

/-!
# `ReleaseLag.Proofs.Template.Tokens`: the tokenizer reads the grammar

The tokenizer and the grammar of sources say the same in two ways.
`ofBody?_eq_some_iff` is about the body of one action: what is read is what is
spelt, with blanks wherever the grammar has them. `tokenizeFrom_eq_ok_iff` is
about whole sources. Cutting at the first pair of braces finds the end of the
text in front of an action because that text has no pair, not even with the
brace behind it, and the end of the action because no body holds a closing
brace.
-/

set_option autoImplicit false

namespace ReleaseLag.Proofs.Template

open ReleaseLag.Template
open ReleaseLag.Template.Action (isSpace skipSpace skipSpace1? takeField takeVar takeDefine)

/-! ### Blanks -/

theorem isNameChar_of_isSpace {c : Char} (h : isSpace c = true) : Text.isNameChar c = false := by
  simp only [isSpace, Bool.or_eq_true, decide_eq_true_eq] at h
  rcases h with ((rfl | rfl) | rfl) | rfl <;> decide

/-- No name goes on behind blanks. -/
theorem apart_of_isSpaces {gap rest : Text} (hgap : IsSpaces gap)
    (hrest : ∀ c ∈ rest.head?, Text.isNameChar c = false) :
    ∀ c ∈ (gap ++ rest).head?, Text.isNameChar c = false := by
  cases gap with
  | nil => exact hrest
  | cons d gap =>
    intro c hc
    cases hc
    exact isNameChar_of_isSpace (List.all_eq_true.mp hgap d List.mem_cons_self)

/-- Blanks in front of something else are all that is skipped. -/
theorem skipSpace_append {gap rest : Text} (hgap : IsSpaces gap)
    (hrest : ∀ c ∈ rest.head?, isSpace c = false) : skipSpace (gap ++ rest) = rest := by
  rw [skipSpace]
  exact (cut_append (List.all_eq_true.mp hgap) hrest).2

theorem skipSpace_of_isSpaces {gap : Text} (hgap : IsSpaces gap) : skipSpace gap = [] := by
  have h : skipSpace (gap ++ []) = [] := skipSpace_append hgap (by simp)
  rwa [List.append_nil] at h

/-- What is skipped is blanks. -/
theorem exists_spaces_skipSpace (s : Text) : ∃ gap, IsSpaces gap ∧ s = gap ++ skipSpace s :=
  ⟨s.takeWhile isSpace, List.all_takeWhile, List.takeWhile_append_dropWhile.symm⟩

/-- A first blank is found, and the others are skipped with it. -/
theorem skipSpace1?_append {gap rest : Text} (hgap : IsSpaces gap) (hne : gap ≠ [])
    (hrest : ∀ c ∈ rest.head?, isSpace c = false) : skipSpace1? (gap ++ rest) = some rest := by
  cases gap with
  | nil => exact absurd rfl hne
  | cons c gap =>
    obtain ⟨hc, hgap⟩ : isSpace c = true ∧ IsSpaces gap := by simpa [IsSpaces] using hgap
    rw [List.cons_append, skipSpace1?, if_pos hc, skipSpace_append hgap hrest]

theorem exists_spaces_of_skipSpace1? {s rest : Text} (h : skipSpace1? s = some rest) :
    ∃ gap, IsSpaces gap ∧ gap ≠ [] ∧ s = gap ++ rest := by
  cases s with
  | nil => cases h
  | cons c s =>
    rw [skipSpace1?] at h
    split at h
    · next hc =>
      cases h
      obtain ⟨gap, hgap, heq⟩ := exists_spaces_skipSpace s
      refine ⟨c :: gap, ?_, List.cons_ne_nil c gap, congrArg (c :: ·) heq⟩
      show (c :: gap).all isSpace = true
      rw [List.all_cons, hc, hgap, Bool.and_self]
    · cases h

/-! ### Fields and variables -/

theorem takeField_eq_some {s name rest : Text} (h : takeField s = some (name, rest)) :
    Text.isName name = true ∧ s = '.' :: name ++ rest := by
  unfold takeField at h
  split at h
  · exact ⟨Text.isName_of_takeName h, congrArg ('.' :: ·) (Text.takeName_spell h).symm⟩
  · cases h

theorem takeVar_eq_some {s name rest : Text} (h : takeVar s = some (name, rest)) :
    Text.isName name = true ∧ s = '$' :: name ++ rest := by
  unfold takeVar at h
  split at h
  · exact ⟨Text.isName_of_takeName h, congrArg ('$' :: ·) (Text.takeName_spell h).symm⟩
  · cases h

theorem takeDefine_eq_some {s rest : Text} (h : takeDefine s = some rest) :
    s = ':' :: '=' :: rest := by
  unfold takeDefine at h
  split at h
  · cases h
    rfl
  · cases h

/-! ### Commands -/

/-- A command that is read is spelt in front of what is left. -/
theorem core_of_take {s rest : Text} {a : Action} (h : Action.take s = some (a, rest)) :
    ∃ core, a.Core core ∧ s = core ++ rest := by
  -- One case for each equation of the reader, which are those of `Core` and the
  -- text that begins like none of them.
  unfold Action.take at h
  split at h <;>
    simp only [Option.bind_eq_bind, Option.bind_eq_some_iff, Option.pure_def, Option.some.injEq,
      Prod.mk.injEq, reduceCtorEq] at h
  · obtain ⟨_, hgap, ⟨name, rest⟩, hfield, rfl, rfl⟩ := h
    obtain ⟨gap, hspaces, hne, rfl⟩ := exists_spaces_of_skipSpace1? hgap
    obtain ⟨hname, rfl⟩ := takeField_eq_some hfield
    exact ⟨_, .openIf hspaces hne hname, by simp⟩
  · obtain ⟨_, hgap, ⟨loopVar, s⟩, hvar, t, hdefine, ⟨list, rest⟩, hfield, rfl, rfl⟩ := h
    obtain ⟨gap, hspaces, hne, rfl⟩ := exists_spaces_of_skipSpace1? hgap
    obtain ⟨hloopVar, rfl⟩ := takeVar_eq_some hvar
    obtain ⟨before, hbefore, hs⟩ := exists_spaces_skipSpace s
    obtain ⟨after, hafter, ht⟩ := exists_spaces_skipSpace t
    obtain ⟨hlist, hfield⟩ := takeField_eq_some hfield
    rw [takeDefine_eq_some hdefine] at hs
    rw [hfield] at ht
    exact ⟨_, .openRange hspaces hne hloopVar hbefore hafter hlist, by simp [hs, ht]⟩
  · obtain ⟨rfl, rfl⟩ := h
    exact ⟨_, .close, rfl⟩
  · obtain ⟨⟨name, rest⟩, hname, rfl, rfl⟩ := h
    exact ⟨_, .field (Text.isName_of_takeName hname),
      congrArg ('.' :: ·) (Text.takeName_spell hname).symm⟩
  · obtain ⟨⟨name, rest⟩, hname, rfl, rfl⟩ := h
    exact ⟨_, .var (Text.isName_of_takeName hname),
      congrArg ('$' :: ·) (Text.takeName_spell hname).symm⟩

/-- A command is read off whole, unless its last name goes on behind it. -/
theorem take_core {a : Action} {core rest : Text} (h : a.Core core)
    (hrest : ∀ c ∈ rest.head?, Text.isNameChar c = false) :
    Action.take (core ++ rest) = some (a, rest) := by
  cases h with
  | field hname => simp [Action.take, Text.takeName_append hname hrest]
  | var hname => simp [Action.take, Text.takeName_append hname hrest]
  | @openIf gap name hgap hne hname =>
    have hskip : ∀ t, skipSpace1? (gap ++ '.' :: t) = some ('.' :: t) := fun t =>
      skipSpace1?_append hgap hne (by rintro c ⟨⟩; rfl)
    have hfield : takeField ('.' :: (name ++ rest)) = some (name, rest) :=
      Text.takeName_append hname hrest
    simp [Action.take, hskip, hfield]
  | @openRange gap before after loopVar list hgap hne hloopVar hbefore hafter hlist =>
    have hskip : ∀ t, skipSpace1? (gap ++ '$' :: t) = some ('$' :: t) := fun t =>
      skipSpace1?_append hgap hne (by rintro c ⟨⟩; rfl)
    have hvar : ∀ t, takeVar ('$' :: (loopVar ++ (before ++ ':' :: t)))
        = some (loopVar, before ++ ':' :: t) := fun t =>
      Text.takeName_append hloopVar (apart_of_isSpaces hbefore (by rintro c ⟨⟩; rfl))
    have hdefine : ∀ t, skipSpace (before ++ ':' :: t) = ':' :: t := fun t =>
      skipSpace_append hbefore (by rintro c ⟨⟩; rfl)
    have hpoint : ∀ t, skipSpace (after ++ '.' :: t) = '.' :: t := fun t =>
      skipSpace_append hafter (by rintro c ⟨⟩; rfl)
    have hfield : takeField ('.' :: (list ++ rest)) = some (list, rest) :=
      Text.takeName_append hlist hrest
    simp [Action.take, hskip, hvar, hdefine, takeDefine, hpoint, hfield]
  | close => rfl

/-- No command begins with a blank. -/
theorem isSpace_head_core {a : Action} {core : Text} (h : a.Core core) (rest : Text) :
    ∀ c ∈ (core ++ rest).head?, isSpace c = false := by
  cases h <;> (rintro c ⟨⟩; rfl)

/-- An action is read off a body exactly if the body spells it. -/
theorem ofBody?_eq_some_iff {body : Text} {a : Action} :
    Action.ofBody? body = some a ↔ a.Spelled body := by
  simp only [Action.ofBody?, Option.bind_eq_bind, Option.bind_eq_some_iff]
  constructor
  · rintro ⟨⟨b, rest⟩, htake, hend⟩
    obtain ⟨before, hbefore, hbody⟩ := exists_spaces_skipSpace body
    obtain ⟨after, hafter, hrest⟩ := exists_spaces_skipSpace rest
    obtain ⟨core, hcore, heq⟩ := core_of_take htake
    split at hend
    · next hempty =>
      cases hend
      have hnil : skipSpace rest = [] := List.isEmpty_iff.mp hempty
      rw [hnil, List.append_nil] at hrest
      refine ⟨before, core, after, hbefore, hcore, hafter, ?_⟩
      rw [hbody, heq, hrest, List.append_assoc]
    · cases hend
  · rintro ⟨before, core, after, hbefore, hcore, hafter, rfl⟩
    have hskip : skipSpace (before ++ core ++ after) = core ++ after := by
      rw [List.append_assoc]
      exact skipSpace_append hbefore (isSpace_head_core hcore after)
    have hapart : ∀ c ∈ (after ++ []).head?, Text.isNameChar c = false :=
      apart_of_isSpaces hafter (by simp)
    rw [List.append_nil] at hapart
    refine ⟨(a, after), ?_, ?_⟩
    · rw [hskip, take_core hcore hapart]
    · simp [skipSpace_of_isSpaces hafter]

/-! ### Where an action ends -/

theorem not_mem_name {name : Text} {c : Char} (h : Text.isName name = true)
    (hc : Text.isNameChar c = false) : c ∉ name := by
  intro hmem
  rw [Text.isNameChar_of_mem h c hmem] at hc
  cases hc

theorem not_mem_spaces {gap : Text} {c : Char} (h : IsSpaces gap) (hc : isSpace c = false) :
    c ∉ gap := by
  intro hmem
  rw [List.all_eq_true.mp h c hmem] at hc
  cases hc

/-- No body holds a closing brace. -/
theorem close_not_mem_of_spelled {a : Action} {body : Text} (h : a.Spelled body) : '}' ∉ body := by
  obtain ⟨before, core, after, hbefore, hcore, hafter, rfl⟩ := h
  have hspaces : ∀ gap, IsSpaces gap → '}' ∉ gap := fun gap hgap => not_mem_spaces hgap (by decide)
  have hnames : ∀ name, Text.isName name = true → '}' ∉ name := fun name hname =>
    not_mem_name hname (by decide)
  have hmiddle : '}' ∉ core := by
    cases hcore with
    | field hname => simp [hnames _ hname]
    | var hname => simp [hnames _ hname]
    | openIf hgap _ hname => simp [hspaces _ hgap, hnames _ hname]
    | openRange hgap _ hloopVar hbefore hafter hlist =>
      simp [hspaces _ hgap, hspaces _ hbefore, hspaces _ hafter, hnames _ hloopVar, hnames _ hlist]
    | close => decide
  simp [hspaces _ hbefore, hspaces _ hafter, hmiddle]

/-- A text that a character does not occur in has no pair of it, even with one
more behind it. -/
theorem not_pair_concat {c : Char} {s : Text} (h : c ∉ s) : ¬[c, c] <:+: s ++ [c] := by
  intro hpair
  have hcount := hpair.sublist.count_le c
  rw [List.count_append, List.count_eq_zero_of_not_mem h] at hcount
  simp at hcount

/-- No part in front of a text without a pair has one. -/
theorem not_pair_left {c : Char} {s rest : Text} (h : ¬[c, c] <:+: s ++ rest) : ¬[c, c] <:+: s :=
  fun hpair => h (hpair.trans (List.prefix_append s rest).isInfix)

/-! ### Sources -/

theorem literal_eq_ok_iff {position : Nat} {s : Text} {tokens : List Token} :
    Token.literal position s = .ok tokens ↔ ¬['}', '}'] <:+: s ∧ tokens = Token.ofText s := by
  rw [← Text.cutPair_eq_none_iff, Token.literal]
  cases Text.cutPair '}' s <;> simp [eq_comm]

theorem command_eq_ok_iff {position : Nat} {body : Text} {token : Token} :
    Token.command position body = .ok token
      ↔ ∃ a : Action, a.Spelled body ∧ token = .action a position := by
  simp only [← ofBody?_eq_some_iff, Token.command]
  cases Action.ofBody? body <;> simp [eq_comm]

/-- A source without an action is one stretch of text. -/
theorem tokenizeFrom_of_none {position : Nat} {s : Text} (h : Text.cutPair '{' s = none) :
    Token.tokenizeFrom position s = Token.literal position s := by
  rw [Token.tokenizeFrom]
  split
  · rfl
  · next hopen =>
    rw [h] at hopen
    cases hopen

/-- A source with an action is the text in front of it, the action and what
follows. -/
theorem tokenizeFrom_of_some {position : Nat} {s before rest body after : Text}
    (hopen : Text.cutPair '{' s = some (before, rest))
    (hclose : Text.cutPair '}' rest = some (body, after)) :
    Token.tokenizeFrom position s = do
      let leading ← Token.literal position before
      let token ← Token.command (position + Text.size before) body
      let tokens ← Token.tokenizeFrom (position + Text.size before + Text.size body + 4) after
      return leading ++ token :: tokens := by
  rw [Token.tokenizeFrom]
  split
  · next hnone =>
    rw [hopen] at hnone
    cases hnone
  · next hsome =>
    rw [hopen] at hsome
    cases hsome
    congr
    funext leading
    split
    · next hnone =>
      rw [hclose] at hnone
      cases hnone
    · next hsome =>
      rw [hclose] at hsome
      cases hsome
      rfl

/-- A source gives tokens exactly if it is spelt of them. -/
theorem tokenizeFrom_eq_ok_iff {position : Nat} {s : Text} {tokens : List Token} :
    Token.tokenizeFrom position s = .ok tokens ↔ Spelled position s tokens := by
  constructor
  · intro h
    fun_induction Token.tokenizeFrom position s generalizing tokens with
    | case1 position s hopen =>
      obtain ⟨hclose, rfl⟩ := literal_eq_ok_iff.mp h
      exact .last (Text.cutPair_eq_none_iff.mp hopen) hclose
    | case2 position s lead behind hopen ih =>
      obtain ⟨leading, hleading, h⟩ := bind_eq_ok_iff.mp h
      obtain ⟨hstray, rfl⟩ := literal_eq_ok_iff.mp hleading
      obtain ⟨rfl, hlead⟩ := Text.cutPair_eq_some_iff.mp hopen
      split at h
      · cases h
      · next body rest hclose =>
        obtain ⟨token, hcommand, h⟩ := bind_eq_ok_iff.mp h
        obtain ⟨tokens, hrest, h⟩ := bind_eq_ok_iff.mp h
        obtain ⟨a, hbody, rfl⟩ := command_eq_ok_iff.mp hcommand
        cases h
        rw [(Text.cutPair_eq_some_iff.mp hclose).1]
        have hspelled := Spelled.action hlead hstray hbody (ih body rest hclose hrest)
        simpa using hspelled
  · intro h
    induction h with
    | @last position s hopen hclose =>
      rw [tokenizeFrom_of_none (Text.cutPair_eq_none_iff.mpr hopen)]
      exact literal_eq_ok_iff.mpr ⟨hclose, rfl⟩
    | @action position lead body rest a tokens hopen hclose hbody _ ih =>
      -- The tokenizer cuts where the grammar has the braces of this action.
      have hcutOpen : Text.cutPair '{' (lead ++ ['{', '{'] ++ body ++ ['}', '}'] ++ rest)
          = some (lead, body ++ '}' :: '}' :: rest) :=
        Text.cutPair_eq_some_iff.mpr ⟨by simp, hopen⟩
      have hcutClose : Text.cutPair '}' (body ++ '}' :: '}' :: rest) = some (body, rest) :=
        Text.cutPair_eq_some_iff.mpr ⟨rfl, not_pair_concat (close_not_mem_of_spelled hbody)⟩
      have hcommand : Token.command (position + Text.size lead) body
          = .ok (.action a (position + Text.size lead)) := command_eq_ok_iff.mpr ⟨a, hbody, rfl⟩
      rw [tokenizeFrom_of_some hcutOpen hcutClose, literal_eq_ok_iff.mpr ⟨hclose, rfl⟩, ok_bind,
        hcommand, ok_bind, ih, ok_bind, pure_eq_ok]

end ReleaseLag.Proofs.Template
