import ReleaseLag.Template.Token

/-!
# `ReleaseLag.Template.Grammar`: what sources are

`Action.Spelled` lists the bodies that each action may have. `Spelled` says
which texts are sources and which tokens they hold: stretches of literal text
without doubled braces, and between each two of them an action. A stretch in
front of an action does not end in an opening brace, since the action would
begin there.
-/

set_option autoImplicit false

namespace ReleaseLag.Template

/-- A run of blanks, which may be empty. -/
def IsSpaces (s : Text) : Prop :=
  s.all Action.isSpace = true

/-- The bodies of actions, without blanks at either end. -/
inductive Action.Core : Action → Text → Prop
  | field {name : Text} : Text.isName name = true → Core (.field name) ('.' :: name)
  | var {name : Text} : Text.isName name = true → Core (.var name) ('$' :: name)
  | openIf {gap name : Text} : IsSpaces gap → gap ≠ [] → Text.isName name = true →
      Core (.openIf name) (['i', 'f'] ++ gap ++ '.' :: name)
  | openRange {gap before after loopVar list : Text} : IsSpaces gap → gap ≠ [] →
      Text.isName loopVar = true → IsSpaces before → IsSpaces after → Text.isName list = true →
      Core (.openRange loopVar list)
        (['r', 'a', 'n', 'g', 'e'] ++ gap ++ '$' :: loopVar ++ before ++ [':', '='] ++ after
          ++ '.' :: list)
  | close : Core .close ['e', 'n', 'd']

/-- A body of an action: blanks may stand at either end. -/
def Action.Spelled (a : Action) (body : Text) : Prop :=
  ∃ before core after, IsSpaces before ∧ a.Core core ∧ IsSpaces after
    ∧ body = before ++ core ++ after

/-- A text is a source that holds given tokens, from a position on. -/
inductive Spelled : Nat → Text → List Token → Prop
  | last {position : Nat} {s : Text} :
      ¬['{', '{'] <:+: s → ¬['}', '}'] <:+: s → Spelled position s (Token.ofText s)
  | action {position : Nat} {lead body rest : Text} {a : Action} {tokens : List Token} :
      ¬['{', '{'] <:+: lead ++ ['{'] → ¬['}', '}'] <:+: lead → a.Spelled body →
      Spelled (position + Text.size lead + Text.size body + 4) rest tokens →
      Spelled position (lead ++ ['{', '{'] ++ body ++ ['}', '}'] ++ rest)
        (Token.ofText lead ++ .action a (position + Text.size lead) :: tokens)

end ReleaseLag.Template
