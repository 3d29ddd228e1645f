import ReleaseLag.Proofs.Sql.Regions
import ReleaseLag.Proofs.Sql.Scan
import ReleaseLag.Sql.Lexer
import ReleaseLag.Sql.Turn

/-!
# `ReleaseLag.Proofs.Sql.Lexing`: scanning by pieces is lexing

The scanner jumps from piece to piece, the lexer goes from character to
character. `placed_scan` says that they find the same placeholders at the same
bytes: the lexer passes over what the scanner takes as a run, and is in plain
text behind it (`foundFrom_run`), and it passes over the name of a placeholder
that both have found (`foundFrom_name`).

Three other ways to read a text come to the same. A lexer that knows escaped
quotes differs only in the state between the two, and there no at sign stands
(`foundFrom_escapes`). The regions of the characters are its states
(`placeholdersFrom_eq_foundFrom`). A loop that puts stretches of text together
until a placeholder comes never breaks off (`turnsFrom_scan`). The main
statement, `scan_finds_placeholders`, has all of them.
-/

set_option autoImplicit false

namespace ReleaseLag.Proofs.Sql

open ReleaseLag.Sql
open ReleaseLag.Sql.Piece (scan placeholder? quotedRun isOpener)
open ReleaseLag.Sql.Lexer (Quote Rule State foundFrom)

/-! ### Stretches that the lexer passes over -/

/-- A character that leaves the lexer in its state and is no placeholder. -/
def Passes (state : State) (c : Char) : Prop :=
  (∀ following, state.next .ends c following = state) ∧ ¬(state = .plain ∧ c = '@')

/-- A step of the lexer that finds no placeholder. -/
theorem foundFrom_cons {rule : Rule} {state : State} {c : Char}
    (h : ¬(state = .plain ∧ c = '@')) (position : Nat) (rest : Text) :
    foundFrom rule state position (c :: rest)
      = foundFrom rule (state.next rule c rest.head?) (position + c.utf8Size) rest := by
  rw [foundFrom, if_neg fun hfound => h ⟨hfound.1, hfound.2.1⟩]

/-- Characters that the lexer passes only move its position. -/
theorem foundFrom_append {state : State} {s : Text} (h : ∀ c ∈ s, Passes state c)
    (position : Nat) (rest : Text) :
    foundFrom .ends state position (s ++ rest)
      = foundFrom .ends state (position + Text.size s) rest := by
  induction s generalizing position with
  | nil => rfl
  | cons c s ih =>
    obtain ⟨⟨hkeeps, hno⟩, hs⟩ := List.forall_mem_cons.mp h
    rw [List.cons_append, foundFrom_cons hno, hkeeps, ih hs, Text.size_cons, Nat.add_assoc]

/-- The lexer passes over the longest stretch of characters that it passes. -/
theorem foundFrom_takeWhile {state : State} {p : Char → Bool}
    (h : ∀ c, p c = true → Passes state c) (position : Nat) (s : Text) :
    foundFrom .ends state position s
      = foundFrom .ends state (position + Text.size (s.takeWhile p)) (s.dropWhile p) := by
  have hpasses : ∀ c ∈ s.takeWhile p, Passes state c := fun c hmem => h c (List.mem_takeWhile_imp hmem)
  rw [← foundFrom_append hpasses, List.takeWhile_append_dropWhile]

/-- In plain text, the lexer passes what opens nothing. -/
theorem passes_of_plain {c : Char} (h : isOpener c = false) : Passes .plain c := by
  obtain ⟨⟨⟨hquote, hdouble⟩, hdash⟩, hat⟩ :
      ((c ≠ '\'' ∧ c ≠ '"') ∧ c ≠ '-') ∧ c ≠ '@' := by simpa [isOpener] using h
  exact ⟨fun following => by simp [State.next, hquote, hdouble, hdash], fun hfound => hat hfound.2⟩

/-! ### The runs of the scanner -/

/-- What a quote encloses is passed over, with the quote that closes it. -/
theorem foundFrom_quotedRun (quote : Quote) (position : Nat) (s : Text) :
    foundFrom .ends (.quoted quote) position s
      = foundFrom .ends .plain (position + Text.size (quotedRun quote.char s).1)
          (quotedRun quote.char s).2 := by
  have hpasses : ∀ c, (c != quote.char) = true → Passes (.quoted quote) c := by
    intro c hc
    have hne : c ≠ quote.char := by simpa using hc
    exact ⟨fun following => by simp [State.next, hne], by simp⟩
  rw [foundFrom_takeWhile hpasses]
  unfold quotedRun
  cases hrest : s.dropWhile (· != quote.char) with
  | nil => rfl
  | cons close rest =>
    -- The stretch ends in front of a quote of the same kind.
    have hhead := List.head?_dropWhile_not (· != quote.char) s
    have hclose : close = quote.char := by simpa [hrest] using hhead
    have hplain : State.next .ends (.quoted quote) quote.char rest.head? = .plain := by
      simp [State.next]
    rw [hclose, foundFrom_cons (by simp), hplain, Text.size_append, Nat.add_assoc]
    rfl

/-- A comment is passed over up to the end of its line. -/
theorem foundFrom_comment (position : Nat) (s : Text) :
    foundFrom .ends .comment position s
      = foundFrom .ends .plain (position + Text.size (s.takeWhile (· != '\n')))
          (s.dropWhile (· != '\n')) := by
  have hpasses : ∀ c, (c != '\n') = true → Passes .comment c := by
    intro c hc
    have hne : c ≠ '\n' := by simpa using hc
    exact ⟨fun following => by simp [State.next, hne], by simp⟩
  rw [foundFrom_takeWhile hpasses]
  cases hrest : s.dropWhile (· != '\n') with
  | nil => rfl
  | cons c rest =>
    have hhead := List.head?_dropWhile_not (· != '\n') s
    have hbreak : c = '\n' := by simpa [hrest] using hhead
    -- A line break leads to plain text from a comment and from plain text.
    rw [hbreak]
    rfl

/-- A run of the scanner is passed over whole. -/
theorem foundFrom_run {c : Char} {s : Text} (h : placeholder? c s = none) (position : Nat) :
    foundFrom .ends .plain position (c :: s)
      = foundFrom .ends .plain (position + Text.size (Piece.run c s).1) (Piece.run c s).2 := by
  have hstep : foundFrom .ends .plain position (c :: s)
      = foundFrom .ends (State.next .ends .plain c s.head?) (position + c.utf8Size) s := by
    have hnone : ¬(c = '@' ∧ s.head?.any Text.isNameStart) := by
      rintro ⟨rfl, hstart⟩
      have htake : Text.takeName s = none := h
      rw [← Text.isSome_takeName, htake] at hstart
      cases hstart
    rw [foundFrom, if_neg fun hfound => hnone hfound.2]
  rw [hstep]
  unfold Piece.run
  split
  · next hquote =>
    rcases hquote with rfl | rfl
    · show foundFrom .ends (.quoted .single) _ s = _
      rw [foundFrom_quotedRun, Text.size_cons, Nat.add_assoc]
      rfl
    · show foundFrom .ends (.quoted .double) _ s = _
      rw [foundFrom_quotedRun, Text.size_cons, Nat.add_assoc]
      rfl
  · next hquote =>
    obtain ⟨hsingle, hdouble⟩ := not_or.mp hquote
    split
    · next hcomment =>
      have hstate : State.next .ends .plain c s.head? = .comment := by
        simp [State.next, hcomment]
      rw [hstate, foundFrom_comment, Text.size_cons, Nat.add_assoc]
    · next hdash =>
      have hstate : State.next .ends .plain c s.head? = .plain := by
        simp [State.next, hsingle, hdouble, hdash]
      rw [hstate]
      split
      · simp
      · have hpasses : ∀ d, (!isOpener d) = true → Passes .plain d :=
          fun d hd => passes_of_plain (by simpa using hd)
        rw [foundFrom_takeWhile hpasses, Text.size_cons, Nat.add_assoc]

/-- A placeholder is found with its name, and behind the name the text is
plain. -/
theorem foundFrom_name {s name rest : Text} (h : Text.takeName s = some (name, rest))
    (position : Nat) :
    foundFrom .ends .plain position ('@' :: s)
      = (name, position)
          :: foundFrom .ends .plain (position + 1 + Text.size name) rest := by
  have hstart : s.head?.any Text.isNameStart = true := by
    rw [← Text.isSome_takeName, h]
    rfl
  have hchars := Text.isNameChar_of_mem (Text.isName_of_takeName h)
  have hlongest : s.takeWhile Text.isNameChar = name := by
    rw [← Text.takeName_spell h]
    exact (cut_append hchars (Text.apart_of_takeName h)).1
  have hpasses : ∀ c ∈ name, Passes .plain c :=
    fun c hmem => passes_of_plain (isOpener_of_isNameChar (hchars c hmem))
  rw [foundFrom, if_pos ⟨rfl, rfl, hstart⟩, hlongest, ← Text.takeName_spell h]
  show (name, position) :: foundFrom .ends .plain (position + 1) (name ++ rest) = _
  rw [foundFrom_append hpasses]

/-- The scanner finds what the lexer finds, wherever a text begins. -/
theorem placed_scan (position : Nat) (s : Text) :
    placed (scan position s) = foundFrom .ends .plain position s := by
  fun_induction scan position s with
  | case1 => rfl
  | case2 position c s name rest h ih =>
    obtain ⟨rfl, htake⟩ := Piece.placeholder?_eq_some h
    rw [placed, ih, foundFrom_name htake]
  | case3 position c s h ih => rw [placed, ih, foundFrom_run h]

/-! ### Escaped quotes -/

/-- The state in which a lexer is that knows no escaped quotes. It has left the
literal in front of the second of two quotes. -/
def unescaped : State → State
  | .escaped _ => .plain
  | state => state

/-- Two quotes leave a literal and enter it again, or they stay in it. -/
theorem next_unescaped {state : State} {c : Char} (h : ∀ quote, state = .escaped quote → c = quote.char)
    (following : Option Char) :
    unescaped (state.next .escapes c following) = (unescaped state).next .ends c following := by
  cases state with
  | plain =>
    show unescaped (State.next .ends .plain c following) = State.next .ends .plain c following
    simp only [State.next]
    split_ifs <;> rfl
  | quoted quote =>
    by_cases hc : c = quote.char
    · by_cases hdoubled : following = some quote.char
      · simp [State.next, unescaped, hc, hdoubled]
      · simp [State.next, unescaped, hc, hdoubled]
    · simp [State.next, unescaped, hc]
  | escaped quote =>
    rw [h quote rfl]
    cases quote <;> rfl
  | comment =>
    show unescaped (State.next .ends .comment c following) = State.next .ends .comment c following
    simp only [State.next]
    split_ifs <;> rfl

/-- In front of an escaped quote there is the second of the two. -/
theorem following_of_escaped {state : State} {c : Char} {following : Option Char} {quote : Quote}
    (h : state.next .escapes c following = .escaped quote) : following = some quote.char := by
  cases state with
  | quoted inside =>
    simp only [State.next] at h
    split_ifs at h with _ hdoubled
    cases h
    exact hdoubled.2
  | plain =>
    simp only [State.next] at h
    split_ifs at h
  | escaped inside => cases h
  | comment =>
    simp only [State.next] at h
    split_ifs at h

/-- A quote that is escaped is no placeholder, nor is one that opens a
literal. -/
theorem foundFrom_escapes {state : State} {s : Text}
    (h : ∀ quote, state = .escaped quote → s.head? = some quote.char) (position : Nat) :
    foundFrom .escapes state position s = foundFrom .ends (unescaped state) position s := by
  induction s generalizing state position with
  | nil => rfl
  | cons c s ih =>
    have hc : ∀ quote, state = .escaped quote → c = quote.char :=
      fun quote heq => Option.some.inj (h quote heq)
    have hlater : foundFrom .escapes (state.next .escapes c s.head?) (position + c.utf8Size) s
        = foundFrom .ends (unescaped (state.next .escapes c s.head?)) (position + c.utf8Size) s :=
      ih (fun quote => following_of_escaped) _
    rw [next_unescaped hc s.head?] at hlater
    have hfound : (state = .plain ∧ c = '@' ∧ s.head?.any Text.isNameStart)
        ↔ (unescaped state = .plain ∧ c = '@' ∧ s.head?.any Text.isNameStart) := by
      cases state with
      | escaped quote =>
        have hne : c ≠ '@' := by
          rw [hc quote rfl]
          cases quote <;> decide
        simp [hne]
      | _ => rfl
    simp only [foundFrom, hlater, hfound]

/-! ### Regions -/

/-- The state of the lexer in a region. The name of a placeholder is plain
text. -/
def stateOf : Region → State
  | .plain => .plain
  | .literal => .quoted .single
  | .identifier => .quoted .double
  | .comment => .comment
  | .placeholder => .plain

/-- Behind a character, the lexer is in the state of the region. -/
theorem stateOf_step (current : Region) (c : Char) (following : Option Char) :
    stateOf (current.step c following).2 = (stateOf current).next .ends c following := by
  have hopened : stateOf (Region.opened c following).2 = State.next .ends .plain c following := by
    simp only [Region.opened, State.next]
    split_ifs <;> rfl
  cases current with
  | plain => exact hopened
  | placeholder =>
    simp only [Region.step]
    split
    · next hname => exact ((passes_of_plain (isOpener_of_isNameChar hname)).1 following).symm
    · exact hopened
  | literal =>
    by_cases hc : c = '\''
    · simp [Region.step, State.next, stateOf, Quote.char, hc]
    · simp [Region.step, State.next, stateOf, Quote.char, hc]
  | identifier =>
    by_cases hc : c = '"'
    · simp [Region.step, State.next, stateOf, Quote.char, hc]
    · simp [Region.step, State.next, stateOf, Quote.char, hc]
  | comment =>
    simp only [Region.step, State.next, stateOf]
    split_ifs <;> rfl

/-- A placeholder begins where its region is opened. -/
theorem opens_placeholder_iff (current : Region) (c : Char) (following : Option Char) :
    ((current.step c following).1 = .placeholder ∧ c = '@')
      ↔ (stateOf current = .plain ∧ c = '@' ∧ following.any Text.isNameStart) := by
  have hopened : ((Region.opened c following).1 = .placeholder ∧ c = '@')
      ↔ (c = '@' ∧ following.any Text.isNameStart) := by
    by_cases hat : c = '@'
    · by_cases hstart : following.any Text.isNameStart
      · simp [Region.opened, hat, hstart]
      · simp [Region.opened, hat, hstart]
    · simp [hat]
  cases current with
  | plain =>
    simp only [stateOf, true_and]
    exact hopened
  | placeholder =>
    by_cases hat : c = '@'
    · -- An at sign is no character of a name, so it opens what it can.
      have hname : Text.isNameChar '@' = false := by decide
      simpa [Region.step, stateOf, hat, hname] using hopened
    · simp [hat]
  | literal => simp [Region.step, stateOf]
  | identifier => simp [Region.step, stateOf]
  | comment =>
    by_cases hbreak : c = '\n'
    · simp [Region.step, stateOf, hbreak]
    · simp [Region.step, stateOf, hbreak]

/-- The regions of a text have the placeholders that the lexer finds. -/
theorem placeholdersFrom_eq_foundFrom (current : Region) (position : Nat) (s : Text) :
    placeholdersFrom current position s = foundFrom .ends (stateOf current) position s := by
  induction s generalizing current position with
  | nil => rfl
  | cons c s ih => simp only [placeholdersFrom, foundFrom, ih, stateOf_step, opens_placeholder_iff]

/-! ### Turns -/

/-- The turns on a text use it up. What they cut spells the text since the last
placeholder and the text itself, with the placeholders of the scan. -/
theorem turnsFrom_scan (position : Nat) (before s : Text) :
    (Turn.turnsFrom position before s).left = []
      ∧ (Turn.turnsFrom position before s).pieces.flatMap Piece.spell = before ++ s
      ∧ placed (Turn.turnsFrom position before s).pieces = placed (scan position s) := by
  -- The text since the last placeholder grows from turn to turn.
  fun_induction scan position s generalizing before with
  | case1 position =>
    rw [Turn.turnsFrom]
    cases before with
    | nil => exact ⟨rfl, rfl, rfl⟩
    | cons c before => exact ⟨rfl, by simp [Turn.ending, Piece.spell], rfl⟩
  | case2 position c s name rest h ih =>
    obtain ⟨hleft, hspell, hplaced⟩ := ih []
    obtain ⟨rfl, htake⟩ := Piece.placeholder?_eq_some h
    rw [Turn.turnsFrom_placeholder h]
    refine ⟨hleft, ?_, ?_⟩
    · simp only [List.flatMap_cons, Piece.spell, hspell, List.nil_append, ← Text.takeName_spell htake]
      simp
    · simp only [placed, hplaced]
  | case3 position c s h ih =>
    obtain ⟨hleft, hspell, hplaced⟩ := ih (before ++ (Piece.run c s).1)
    rw [Turn.turnsFrom_run h]
    refine ⟨hleft, ?_, hplaced⟩
    rw [hspell, List.append_assoc, Piece.run_spell]

/-- Scanning by pieces comes to what a lexer finds that reads one character
after the other:

1. the turns of the scan use the whole text up, so that in none of them all
   readers refuse;
2. the pieces, be they cut in turns or by `Piece.ofText`, spell the text;
3. their placeholders, with the bytes they stand at, are those that the lexer
   finds, and it finds the same whether a doubled quote inside a literal ends it
   or is an escaped quote;
4. the regions of the characters have the same placeholders. -/
theorem scan_finds_placeholders (s : Text) :
    (Turn.turns s).left = []
      ∧ (∀ pieces ∈ [(Turn.turns s).pieces, Piece.ofText s],
          pieces.flatMap Piece.spell = s ∧ ∀ rule, placed pieces = Lexer.found rule s)
      ∧ placeholders s = Lexer.found .ends s := by
  have hfound : ∀ rule, placed (Piece.ofText s) = Lexer.found rule s := by
    intro rule
    cases rule with
    | ends => exact placed_scan 0 s
    | escapes =>
      have hescapes : foundFrom .escapes .plain 0 s = foundFrom .ends .plain 0 s :=
        foundFrom_escapes (by rintro quote ⟨⟩) 0
      exact (placed_scan 0 s).trans hescapes.symm
  obtain ⟨hleft, hspell, hplaced⟩ := turnsFrom_scan 0 [] s
  refine ⟨hleft, ?_, placeholdersFrom_eq_foundFrom .plain 0 s⟩
  simp only [List.forall_mem_cons]
  exact ⟨⟨hspell, fun rule => hplaced.trans (hfound rule)⟩, ⟨Piece.spell_ofText s, hfound⟩, by simp⟩

/-- An escaped quote goes on with the literal, one dash opens nothing, and an at
sign needs the beginning of a name. -/
example : Lexer.found .escapes "'it''s @y' @_z-@w @1 @@v --@c".toList
    = [("_z".toList, 11), ("w".toList, 15), ("v".toList, 22)] := by decide

end ReleaseLag.Proofs.Sql
