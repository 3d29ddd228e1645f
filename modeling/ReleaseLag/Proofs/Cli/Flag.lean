import ReleaseLag.Cli.Arguments
import ReleaseLag.Proofs.Except

/-!
# `ReleaseLag.Proofs.Cli.Flag`: arguments with and without `--dry-run`

Arguments are read from left to right, one `readWord` for each that is no command
(`readLevel_cons`). The flag is a field of what was read so far that no other
option looks at. So reading that ends without it takes the same course if it is
set from the start: `Heedless` says this of a step, and `readLevel_flagged` of all
arguments of a level.

The arguments in front of a command do not depend on those behind it
(`readLevel_command`). With both, `read_with_dryRun` puts the flag behind the word
`count`, and it spells the same invocation with a dry run in place of a real one.
-/

set_option autoImplicit false

namespace ReleaseLag.Proofs.Cli

open ReleaseLag.Cli

/-! ### Options with the flag -/

/-- Options with the flag among them. -/
def Given.flagged (g : Given) : Given :=
  { g with dryRun := true }

section

variable {g after : Given} {s : Switch} {value : Text}

/-- No option but the flag itself asks whether it was given. -/
theorem has_flagged (hs : s ≠ .dryRun) : (Given.flagged g).has s = g.has s := by
  cases s with
  | dryRun => exact absurd rfl hs
  | _ => rfl

/-- A value that was judged is put beside the flag as it is put without it. -/
theorem bind_flagged {α : Type} (judged : Except Halt α) {put flaggedPut : α → Given}
    (h : ∀ a, flaggedPut a = Given.flagged (put a)) :
    (judged >>= fun a => .ok (flaggedPut a))
      = (judged >>= fun a => .ok (put a)).map Given.flagged := by
  cases judged with
  | error halt => rfl
  | ok a => exact congrArg Except.ok (h a)

/-- Another option is put beside the flag as it is put without it. -/
theorem put_flagged (hs : s ≠ .dryRun) :
    (Given.flagged g).put s value = (g.put s value).map Given.flagged := by
  cases s with
  | dryRun => exact absurd rfl hs
  | start | stop | pageSize => exact bind_flagged _ fun _ => rfl
  | format =>
    simp only [Given.put]
    cases Format.ofWord? value with
    | some format => rfl
    | none => rfl
  | _ => rfl

/-- Only the flag sets the flag. -/
theorem dryRun_of_put (h : g.put s value = .ok after) :
    after.dryRun = (g.dryRun || decide (s = .dryRun)) := by
  cases s with
  | start | stop | pageSize =>
    obtain ⟨_, -, hafter⟩ := bind_eq_ok_iff.mp h
    cases hafter
    simp
  | format =>
    simp only [Given.put] at h
    split at h
    · cases h
      simp
    · cases h
  | help | version => cases h
  | dryRun =>
    cases h
    simp
  | _ =>
    cases h
    simp

/-- An option that leaves the flag out is taken as it is taken beside the flag. -/
theorem take_flagged {value : Option Text} (h : g.take s value = .ok after)
    (hafter : after.dryRun = false) :
    g.dryRun = false ∧ (Given.flagged g).take s value = .ok (Given.flagged after) := by
  rw [Given.take] at h
  split at h
  · cases h
  · next hvalue =>
    split at h
    · cases h
    · next hrepeated =>
      rw [dryRun_of_put h, Bool.or_eq_false_iff, decide_eq_false_iff_not] at hafter
      obtain ⟨hreal, hs⟩ := hafter
      refine ⟨hreal, ?_⟩
      rw [Given.take, if_neg hvalue, has_flagged hs, if_neg hrepeated, put_flagged hs, h]
      rfl

end

/-! ### Steps of reading -/

/-- A state of reading with the flag among its options. -/
def Progress.flagged (p : Progress) : Progress :=
  { p with given := Given.flagged p.given }

/-- A step of reading that does not heed the flag: if it ends without the flag, it
began without it, and it goes the same way beside it. -/
def Heedless (step : Progress → Except Halt Progress) : Prop :=
  ∀ p q, step p = .ok q → q.given.dryRun = false →
    p.given.dryRun = false ∧ step (Progress.flagged p) = .ok (Progress.flagged q)

theorem Heedless.bind {first second : Progress → Except Halt Progress} (hfirst : Heedless first)
    (hsecond : Heedless second) : Heedless fun p => first p >>= second := by
  intro p q h hq
  obtain ⟨between, hbetween, h⟩ := bind_eq_ok_iff.mp h
  obtain ⟨hreal, hsecond⟩ := hsecond between q h hq
  obtain ⟨hreal, hfirst⟩ := hfirst p between hbetween hreal
  refine ⟨hreal, ?_⟩
  show (first (Progress.flagged p) >>= second) = _
  rw [hfirst, ok_bind, hsecond]

theorem heedless_settle : Heedless Progress.settle := by
  intro p q h hq
  obtain ⟨given, pending⟩ := p
  cases pending with
  | none =>
    cases h
    exact ⟨hq, rfl⟩
  | some pending =>
    obtain ⟨after, htake, hafter⟩ := bind_eq_ok_iff.mp h
    cases hafter
    obtain ⟨hreal, htake⟩ := take_flagged htake hq
    refine ⟨hreal, ?_⟩
    show ((Given.flagged given).take pending.switch pending.value >>= _) = _
    rw [htake]
    rfl

theorem heedless_accept (s : Switch) (value : Option Text) :
    Heedless fun p => p.accept s value := by
  refine heedless_settle.bind fun p q h hq => ?_
  obtain ⟨after, htake, hafter⟩ := bind_eq_ok_iff.mp h
  cases hafter
  obtain ⟨hreal, htake⟩ := take_flagged htake hq
  refine ⟨hreal, ?_⟩
  show ((Given.flagged p.given).take s value >>= _) = _
  rw [htake]
  rfl

theorem heedless_await (s : Switch) : Heedless fun p => p.await s := by
  refine heedless_settle.bind fun p q h hq => ?_
  cases h
  exact ⟨hq, rfl⟩

theorem heedless_error (halt : Halt) : Heedless fun _ => .error halt := by
  intro p q h
  cases h

theorem heedless_ite {first second : Progress → Except Halt Progress} (condition : Prop)
    [Decidable condition] (hfirst : Heedless first) (hsecond : Heedless second) :
    Heedless fun p => if condition then first p else second p := by
  by_cases h : condition
  · simpa only [if_pos h] using hfirst
  · simpa only [if_neg h] using hsecond

theorem heedless_readLong (level : Level) (body : Text) :
    Heedless fun p => p.readLong level body := by
  simp only [Progress.readLong]
  cases level.ofLong? (body.takeWhile (· != '=')) with
  | none => exact heedless_error _
  | some s =>
    cases (body.dropWhile (· != '=')).tail? with
    | none =>
      show Heedless fun p => if s.takesValue = true then p.await s else p.accept s none
      exact heedless_ite _ (heedless_await s) (heedless_accept s none)
    | some value =>
      show Heedless fun p => if s.takesValue = true then p.accept s (some value)
        else .error (.usage (.unexpectedValue value s))
      exact heedless_ite _ (heedless_accept s (some value)) (heedless_error _)

theorem heedless_readShorts (level : Level) (letters : Text) :
    Heedless fun p => p.readShorts level letters := by
  induction letters with
  | nil =>
    intro p q h hq
    cases h
    exact ⟨hq, rfl⟩
  | cons letter rest ih =>
    simp only [Progress.readShorts]
    cases level.ofShort? letter with
    | none => exact heedless_error _
    | some s =>
      refine heedless_ite _ ?_ ((heedless_accept s none).bind ih)
      -- What follows the letter is its value, with an equals sign or without.
      split
      · exact heedless_await s
      · exact heedless_accept s _
      · exact heedless_accept s _

/-! ### The arguments of a level -/

/-- An argument that is neither a command nor two hyphens, as a step of
reading. -/
def readWord (level : Level) (word : Text) (p : Progress) : Except Halt Progress :=
  match word with
  | '-' :: '-' :: body => p.readLong level body
  | '-' :: letter :: more => p.readShorts level (letter :: more)
  | _ => if p.awaits then .ok (p.supply word) else .error (.usage (stray level false word))

/-- The first argument of a level is a command, or ends the options, or is a step
in front of the others. -/
theorem readLevel_cons (level : Level) (p : Progress) (word : Text) (rest : List Text) :
    readLevel level p (word :: rest)
      = match if p.awaits then none else level.command? word with
        | some command => .ok (p, some (command, rest))
        | none =>
          if word = ['-', '-'] then
            match rest with
            | [] => .ok (p, none)
            | next :: _ => .error (.usage (stray level true next))
          else readWord level word p >>= fun p => readLevel level p rest := by
  rw [readLevel.eq_def]
  dsimp only
  cases (if p.awaits then none else level.command? word) with
  | some command => rfl
  | none =>
    dsimp only
    split
    · cases rest <;> rfl
    · next body hbody =>
      rw [if_neg (by simpa using hbody)]
      rfl
    · next letter more hhyphens hletter =>
      have hshorts : readWord level ('-' :: letter :: more) p
          = p.readShorts level (letter :: more) := by
        rw [readWord]
        exact hletter
      rw [if_neg (by simpa using hhyphens), hshorts]
    · next hhyphens hlong hshort =>
      have hplain : readWord level word p
          = if p.awaits then .ok (p.supply word)
            else .error (.usage (stray level false word)) := by
        rw [readWord]
        · exact hlong
        · exact hshort
      rw [hplain, if_neg hhyphens]
      split <;> rfl

theorem heedless_readWord (level : Level) (word : Text) : Heedless (readWord level word) := by
  unfold readWord
  split
  · exact heedless_readLong level _
  · exact heedless_readShorts level _
  · intro p q h hq
    dsimp only at h
    split at h
    · next hawaits =>
      cases h
      exact ⟨hq, if_pos hawaits⟩
    · cases h

/-- Arguments of a level that leave the flag out take the same course beside it. -/
theorem readLevel_flagged {level : Level} {p q : Progress} {arguments : List Text}
    {next : Option (Command × List Text)} (h : readLevel level p arguments = .ok (q, next))
    (hq : q.given.dryRun = false) :
    p.given.dryRun = false
      ∧ readLevel level (Progress.flagged p) arguments = .ok (Progress.flagged q, next) := by
  -- That the flag is not set is known at the end, and carried to the front.
  induction arguments generalizing p with
  | nil =>
    cases h
    exact ⟨hq, rfl⟩
  | cons word rest ih =>
    have hawaits : (Progress.flagged p).awaits = p.awaits := rfl
    rw [readLevel_cons] at h ⊢
    rw [hawaits]
    cases hcommand : (if p.awaits then none else level.command? word) with
    | some command =>
      rw [hcommand] at h
      cases h
      exact ⟨hq, rfl⟩
    | none =>
      simp only [hcommand] at h
      by_cases hhyphens : word = ['-', '-']
      · rw [if_pos hhyphens] at h
        simp only [if_pos hhyphens]
        cases rest with
        | nil =>
          cases h
          exact ⟨hq, rfl⟩
        | cons stopped others => cases h
      · rw [if_neg hhyphens] at h
        simp only [if_neg hhyphens]
        obtain ⟨between, hword, hrest⟩ := bind_eq_ok_iff.mp h
        obtain ⟨hreal, hrest⟩ := ih hrest
        obtain ⟨hreal, hword⟩ := heedless_readWord level word p between hword hreal
        refine ⟨hreal, ?_⟩
        rw [hword, ok_bind, hrest]

/-- A word that is a command is the word of that command. -/
theorem word_of_command? {level : Level} {word : Text} {command : Command}
    (h : level.command? word = some command) : word = command.word.toList := by
  cases level with
  | outer =>
    have hfound := List.find?_some h
    exact (of_decide_eq_true hfound).symm
  | inner _ => cases h

/-- The arguments in front of a command are read the same whatever follows it. -/
theorem readLevel_command {level : Level} {p q : Progress} {arguments rest : List Text}
    {command : Command} (h : readLevel level p arguments = .ok (q, some (command, rest))) :
    ∃ front, arguments = front ++ command.word.toList :: rest
      ∧ ∀ others, readLevel level p (front ++ command.word.toList :: others)
        = .ok (q, some (command, others)) := by
  induction arguments generalizing p with
  | nil => cases h
  | cons word arguments ih =>
    rw [readLevel_cons] at h
    cases hcommand : (if p.awaits then none else level.command? word) with
    | some found =>
      rw [hcommand] at h
      cases h
      have hword : word = command.word.toList := by
        split at hcommand
        · cases hcommand
        · exact word_of_command? hcommand
      subst hword
      refine ⟨[], rfl, fun others => ?_⟩
      rw [List.nil_append, readLevel_cons, hcommand]
    | none =>
      simp only [hcommand] at h
      by_cases hhyphens : word = ['-', '-']
      · rw [if_pos hhyphens] at h
        cases arguments <;> cases h
      · rw [if_neg hhyphens] at h
        obtain ⟨between, hword, hrest⟩ := bind_eq_ok_iff.mp h
        obtain ⟨front, rfl, hothers⟩ := ih hrest
        refine ⟨word :: front, rfl, fun others => ?_⟩
        rw [List.cons_append, readLevel_cons]
        simp only [hcommand, if_neg hhyphens, hword, ok_bind, hothers]

/-! ### Whole invocations -/

/-- Arguments spell a count if they have options in front of the command and
options of the count behind it. -/
theorem read_eq_count_iff {environmentUrl : Option Text} {arguments : List Text} {common : Common}
    {options : CountOptions} :
    read environmentUrl arguments = .ok (.count common options)
      ↔ ∃ outer rest inner next outerEnd innerEnd,
        readLevel .outer .start arguments = .ok (outer, some (.count, rest))
          ∧ readLevel (.inner .count) .start rest = .ok (inner, next)
          ∧ inner.settle = .ok innerEnd
          ∧ CountOptions.ofGiven innerEnd.given = .ok options
          ∧ outer.settle = .ok outerEnd
          ∧ common = .of outerEnd.given innerEnd.given environmentUrl := by
  constructor
  · intro h
    obtain ⟨⟨outer, next⟩, houter, h⟩ := bind_eq_ok_iff.mp h
    cases next with
    | none =>
      obtain ⟨_, -, hthrow⟩ := bind_eq_ok_iff.mp h
      cases hthrow
    | some following =>
      obtain ⟨command, rest⟩ := following
      cases command with
      | help => cases h
      | template =>
        obtain ⟨⟨inner, next⟩, -, h⟩ := bind_eq_ok_iff.mp h
        obtain ⟨innerEnd, -, h⟩ := bind_eq_ok_iff.mp h
        obtain ⟨_, hinvocation, h⟩ := bind_eq_ok_iff.mp h
        obtain ⟨outerEnd, -, h⟩ := bind_eq_ok_iff.mp h
        cases hinvocation
        cases h
      | count =>
        obtain ⟨⟨inner, next⟩, hinner, h⟩ := bind_eq_ok_iff.mp h
        obtain ⟨innerEnd, hsettle, h⟩ := bind_eq_ok_iff.mp h
        obtain ⟨found, hoptions, h⟩ := bind_eq_ok_iff.mp h
        obtain ⟨_, hinvocation, h⟩ := bind_eq_ok_iff.mp h
        obtain ⟨outerEnd, hend, h⟩ := bind_eq_ok_iff.mp h
        cases hinvocation
        cases h
        exact ⟨outer, rest, inner, next, outerEnd, innerEnd, houter, hinner, hsettle, hoptions,
          hend, rfl⟩
  · intro ⟨outer, rest, inner, next, outerEnd, innerEnd, houter, hinner, hsettle, hoptions, hend,
      hcommon⟩
    rw [Cli.read, houter]
    simp [hinner, hsettle, hoptions, hend, hcommon]

/-- The options of a count beside the flag are those without it, for a dry run. -/
theorem ofGiven_flagged {g : Given} {options : CountOptions}
    (h : CountOptions.ofGiven g = .ok options) :
    g.dryRun = options.dryRun
      ∧ CountOptions.ofGiven (Given.flagged g) = .ok { options with dryRun := true } := by
  unfold CountOptions.ofGiven at h ⊢
  split at h
  · next htarget hreferences hstart hstop =>
    cases h
    refine ⟨rfl, ?_⟩
    simp only [Given.flagged, htarget, hreferences, hstart, hstop]
  · cases h

/-- With the flag right behind the word `count`, arguments spell the same
invocation, run dry. -/
theorem read_with_dryRun {environmentUrl : Option Text} {arguments : List Text} {common : Common}
    {options : CountOptions} (h : read environmentUrl arguments = .ok (.count common options))
    (hreal : options.dryRun = false) :
    ∃ front rest, arguments = front ++ "count".toList :: rest
      ∧ read environmentUrl (front ++ "count".toList :: "--dry-run".toList :: rest)
        = .ok (.count common { options with dryRun := true }) := by
  obtain ⟨outer, rest, inner, next, outerEnd, innerEnd, houter, hinner, hsettle, hoptions, hend,
    rfl⟩ := read_eq_count_iff.mp h
  obtain ⟨front, rfl, hothers⟩ := readLevel_command houter
  obtain ⟨hgiven, hflagged⟩ := ofGiven_flagged hoptions
  obtain ⟨hinnerReal, hsettle⟩ := heedless_settle inner innerEnd hsettle (hgiven.trans hreal)
  obtain ⟨-, hinner⟩ := readLevel_flagged hinner hinnerReal
  -- The flag is the first argument of the count, and sets itself.
  have hfirst : readLevel (.inner .count) .start ("--dry-run".toList :: rest)
      = .ok (Progress.flagged inner, next) := by
    rw [readLevel_cons, ← hinner]
    rfl
  refine ⟨front, rest, rfl, read_eq_count_iff.mpr ?_⟩
  exact ⟨outer, _, _, next, outerEnd, _, hothers _, hfirst, hsettle, hflagged, hend, rfl⟩

end ReleaseLag.Proofs.Cli
