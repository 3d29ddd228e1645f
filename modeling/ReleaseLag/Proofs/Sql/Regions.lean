import ReleaseLag.Sql.Piece
import ReleaseLag.Sql.Region
import Mathlib.Data.List.TakeWhile

/-!
# `ReleaseLag.Proofs.Sql.Regions`: the classes of characters

The scanner cuts query text into pieces, and a piece shows by how it begins
what its characters belong to: `classes` lists that for a text.
`classes_eq_regions` says that reading the text one character at a time, with
one character of look-ahead, comes to the same.

The characters of a name keep every region (`step_of_isNameChar`): inside a
literal, an identifier or a comment they do not end it, after an at sign they
go on with the name, and elsewhere they open nothing. Nor can the character in
front tell which name follows it (`regionsFrom_of_sameStart`), since it looks
for a dash or for the beginning of any name.
-/

set_option autoImplicit false

namespace ReleaseLag.Proofs.Sql

open ReleaseLag.Sql
open ReleaseLag.Sql.Piece (scan placeholder? quotedRun isOpener)

/-- What the characters of a piece belong to. -/
def regionOf : Piece → Region
  | .placeholder _ _ => .placeholder
  | .text ('\'' :: _) => .literal
  | .text ('"' :: _) => .identifier
  | .text ('-' :: '-' :: _) => .comment
  | .text _ => .plain

/-- The regions of the characters of a piece. -/
def pieceRegions (p : Piece) : List Region :=
  List.replicate p.spell.length (regionOf p)

/-- The lexical class of each character of a text, by the pieces it is
scanned as. -/
def classes (s : Text) : List Region :=
  (Piece.ofText s).flatMap pieceRegions

/-- A step gives the region of a character and the one that may go on. -/
theorem regionsFrom_cons (current : Region) (c : Char) (rest : Text) :
    regionsFrom current (c :: rest)
      = (current.step c rest.head?).1 :: regionsFrom (current.step c rest.head?).2 rest :=
  rfl

/-! ### Stretches that keep a region -/

/-- Plain characters open nothing. -/
theorem opened_of_plain {c : Char} (h : isOpener c = false) (next : Option Char) :
    Region.opened c next = (.plain, .plain) := by
  obtain ⟨⟨⟨hquote, hdouble⟩, hdash⟩, hat⟩ :
      ((c ≠ '\'' ∧ c ≠ '"') ∧ c ≠ '-') ∧ c ≠ '@' := by simpa [isOpener] using h
  simp [Region.opened, hquote, hdouble, hdash, hat]

/-- No character of a name is one that opens or ends a region. -/
theorem ne_of_isNameChar {c d : Char} (hc : Text.isNameChar c = true)
    (hd : Text.isNameChar d = false) : c ≠ d := by
  rintro rfl
  rw [hc] at hd
  cases hd

/-- The characters of a name open nothing. -/
theorem isOpener_of_isNameChar {c : Char} (h : Text.isNameChar c = true) : isOpener c = false := by
  have hquote : c ≠ '\'' := ne_of_isNameChar h (by decide)
  have hdouble : c ≠ '"' := ne_of_isNameChar h (by decide)
  have hdash : c ≠ '-' := ne_of_isNameChar h (by decide)
  have hat : c ≠ '@' := ne_of_isNameChar h (by decide)
  simp [isOpener, hquote, hdouble, hdash, hat]

/-- The characters of a name keep every region. -/
theorem step_of_isNameChar {c : Char} (h : Text.isNameChar c = true) (current : Region)
    (next : Option Char) : current.step c next = (current, current) := by
  have hquote : c ≠ '\'' := ne_of_isNameChar h (by decide)
  have hdouble : c ≠ '"' := ne_of_isNameChar h (by decide)
  have hbreak : c ≠ '\n' := ne_of_isNameChar h (by decide)
  cases current with
  | plain => exact opened_of_plain (isOpener_of_isNameChar h) next
  | literal => simp [Region.step, hquote]
  | identifier => simp [Region.step, hdouble]
  | comment => simp [Region.step, hbreak]
  | placeholder => simp [Region.step, h]

/-- A stretch whose characters all keep a region is in that region, whatever
follows it. -/
theorem regionsFrom_append_of_keeps {current : Region} {s : Text}
    (h : ∀ c ∈ s, ∀ next, current.step c next = (current, current)) (rest : Text) :
    regionsFrom current (s ++ rest)
      = List.replicate s.length current ++ regionsFrom current rest := by
  induction s with
  | nil => rfl
  | cons c s ih =>
    obtain ⟨hc, hs⟩ := List.forall_mem_cons.mp h
    rw [List.cons_append, regionsFrom_cons, hc, ih hs]
    rfl

/-- The longest stretch of characters that keep a region is in it. -/
theorem regionsFrom_takeWhile {current : Region} {p : Char → Bool}
    (h : ∀ c, p c = true → ∀ next, current.step c next = (current, current)) (s : Text) :
    regionsFrom current s
      = List.replicate (s.takeWhile p).length current ++ regionsFrom current (s.dropWhile p) := by
  have hkeeps : ∀ c ∈ s.takeWhile p, ∀ next, current.step c next = (current, current) :=
    fun c hmem => h c (List.mem_takeWhile_imp hmem)
  rw [← regionsFrom_append_of_keeps hkeeps, List.takeWhile_append_dropWhile]

/-- A name is in the region that it stands in. -/
theorem regionsFrom_name {name : Text} (h : Text.isName name = true) (current : Region)
    (rest : Text) :
    regionsFrom current (name ++ rest)
      = List.replicate name.length current ++ regionsFrom current rest :=
  regionsFrom_append_of_keeps
    (fun c hmem => step_of_isNameChar (Text.isNameChar_of_mem h c hmem) current) rest

/-! ### Where regions end -/

/-- Behind a whole name, the text is read as if nothing was open. -/
theorem regionsFrom_placeholder {rest : Text}
    (h : ∀ c ∈ rest.head?, Text.isNameChar c = false) :
    regionsFrom .placeholder rest = regionsFrom .plain rest := by
  cases rest with
  | nil => rfl
  | cons c rest =>
    have hstep : Region.step .placeholder c rest.head? = Region.step .plain c rest.head? := by
      simp [Region.step, h c rfl]
    rw [regionsFrom_cons, regionsFrom_cons, hstep]

/-- A line break ends a comment and is not in it. -/
theorem regionsFrom_comment_break (rest : Text) :
    regionsFrom .comment ('\n' :: rest) = regionsFrom .plain ('\n' :: rest) :=
  rfl

/-! ### The pieces of a text -/

/-- What stands between quotes is in the region that the quote opens, and
behind the closing quote nothing is open. -/
theorem regionsFrom_quotedRun (quote : Char) (region : Region)
    (hstep : ∀ c next, region.step c next = (region, if c = quote then .plain else region))
    (s : Text) :
    regionsFrom region s
      = List.replicate (quotedRun quote s).1.length region
        ++ regionsFrom .plain (quotedRun quote s).2 := by
  have hkeeps : ∀ c, (c != quote) = true → ∀ next, region.step c next = (region, region) := by
    intro c hc next
    have hne : c ≠ quote := by simpa using hc
    rw [hstep, if_neg hne]
  rw [regionsFrom_takeWhile hkeeps]
  unfold quotedRun
  cases hrest : s.dropWhile (· != quote) with
  | nil => rfl
  | cons close rest =>
    have hhead := List.head?_dropWhile_not (· != quote) s
    have hclose : close = quote := by simpa [hrest] using hhead
    rw [regionsFrom_cons, hstep, if_pos hclose]
    simp [List.replicate_succ']

/-- A comment runs up to the end of its line. -/
theorem regionsFrom_comment (s : Text) :
    regionsFrom .comment s
      = List.replicate (s.takeWhile (· != '\n')).length .comment
        ++ regionsFrom .plain (s.dropWhile (· != '\n')) := by
  have hkeeps : ∀ c, (c != '\n') = true → ∀ next,
      Region.comment.step c next = (.comment, .comment) := by
    intro c hc next
    have hne : c ≠ '\n' := by simpa using hc
    simp [Region.step, hne]
  rw [regionsFrom_takeWhile hkeeps]
  cases hrest : s.dropWhile (· != '\n') with
  | nil => rfl
  | cons c rest =>
    have hhead := List.head?_dropWhile_not (· != '\n') s
    have hbreak : c = '\n' := by simpa [hrest] using hhead
    rw [hbreak, regionsFrom_comment_break]

/-- Plain characters are plain up to the next one that could open something. -/
theorem regionsFrom_plainRun (s : Text) :
    regionsFrom .plain s
      = List.replicate (s.takeWhile (!isOpener ·)).length .plain
        ++ regionsFrom .plain (s.dropWhile (!isOpener ·)) := by
  refine regionsFrom_takeWhile (fun c hc next => ?_) s
  have hplain : isOpener c = false := by simpa using hc
  exact opened_of_plain hplain next

/-- An at sign with no name after it begins no placeholder. -/
theorem not_opened_of_placeholder?_eq_none {c : Char} {s : Text}
    (h : placeholder? c s = none) : ¬ (c = '@' ∧ s.head?.any Text.isNameStart) := by
  rintro ⟨rfl, hstart⟩
  have hnone : Text.takeName s = none := h
  rw [← Text.isSome_takeName, hnone] at hstart
  cases hstart

/-- Text that begins with no quote and no two dashes is plain. -/
theorem regionOf_of_ne {c : Char} {s : Text} (hquote : ¬ (c = '\'' ∨ c = '"'))
    (hdash : ¬ (c = '-' ∧ s.head? = some '-')) : regionOf (.text (c :: s)) = .plain := by
  unfold regionOf
  split <;> simp_all

/-- The characters of a run are all in one region, and behind it nothing is
open. -/
theorem regionsFrom_run {c : Char} {s : Text} (h : placeholder? c s = none) :
    regionsFrom .plain (c :: s)
      = pieceRegions (.text (Piece.run c s).1) ++ regionsFrom .plain (Piece.run c s).2 := by
  unfold Piece.run
  split
  · next hquote =>
    rcases hquote with rfl | rfl
    · have hinside := regionsFrom_quotedRun '\'' .literal (fun _ _ => rfl) s
      show Region.literal :: regionsFrom .literal s = _
      rw [hinside]
      rfl
    · have hinside := regionsFrom_quotedRun '"' .identifier (fun _ _ => rfl) s
      show Region.identifier :: regionsFrom .identifier s = _
      rw [hinside]
      rfl
  · next hquote =>
    split
    · next hcomment =>
      obtain ⟨rfl, hhead⟩ := hcomment
      obtain ⟨rest, rfl⟩ := List.head?_eq_some_iff.mp hhead
      show Region.comment :: regionsFrom .comment ('-' :: rest) = _
      rw [regionsFrom_comment]
      rfl
    · next hdash =>
      -- A dash or an at sign that opens nothing is plain, as plain text is.
      have hopened : Region.plain.step c s.head? = (.plain, .plain) := by
        obtain ⟨hquote, hdouble⟩ := not_or.mp hquote
        have hat := not_opened_of_placeholder?_eq_none h
        simp [Region.step, Region.opened, hquote, hdouble, hdash, hat]
      rw [regionsFrom_cons, hopened]
      show Region.plain :: regionsFrom .plain s = _
      split
      · have hregion : regionOf (.text [c]) = .plain := regionOf_of_ne hquote (by simp)
        simp [pieceRegions, hregion, Piece.spell]
      · next hopener =>
        have hne : c ≠ '-' := by
          rintro rfl
          exact hopener rfl
        rw [regionsFrom_plainRun, pieceRegions, regionOf_of_ne hquote (fun hc => hne hc.1)]
        rfl

/-- The classes of the pieces are the regions of the text they are cut from,
wherever it begins. -/
theorem pieceRegions_scan (position : Nat) (s : Text) :
    (scan position s).flatMap pieceRegions = regions s := by
  unfold regions
  fun_induction scan position s with
  | case1 => rfl
  | case2 position c s name rest h ih =>
    obtain ⟨rfl, htake⟩ := Piece.placeholder?_eq_some h
    have hname := Text.isName_of_takeName htake
    have hstart : s.head?.any Text.isNameStart = true := by
      rw [← Text.isSome_takeName, htake]
      rfl
    have hopened : Region.plain.step '@' s.head? = (.placeholder, .placeholder) := by
      simp [Region.step, Region.opened, hstart]
    rw [List.flatMap_cons, ih, regionsFrom_cons, hopened, ← Text.takeName_spell htake,
      regionsFrom_name hname,
      regionsFrom_placeholder (Text.apart_of_takeName htake)]
    rfl
  | case3 position c s h ih =>
    rw [List.flatMap_cons, ih, regionsFrom_run h]

/-- The class of each character is its region. -/
theorem classes_eq_regions (s : Text) : classes s = regions s :=
  pieceRegions_scan 0 s

/-! ### What the next character can decide -/

/-- Two places that look the same from in front of them: the next character is
the same, or a name begins at both. -/
def SameStart (a b : Option Char) : Prop :=
  a = b ∨ (a.any Text.isNameStart ∧ b.any Text.isNameStart)

/-- Where a name begins, no dash follows. -/
theorem ne_dash_of_isNameStart {next : Option Char} (h : next.any Text.isNameStart = true) :
    next ≠ some '-' := by
  rintro rfl
  revert h
  decide

/-- A step does not tell such places apart. -/
theorem step_of_sameStart {a b : Option Char} (h : SameStart a b) (current : Region) (c : Char) :
    current.step c a = current.step c b := by
  rcases h with rfl | ⟨ha, hb⟩
  · rfl
  · have hopened : Region.opened c a = Region.opened c b := by
      simp [Region.opened, ha, hb, ne_dash_of_isNameStart ha, ne_dash_of_isNameStart hb]
    cases current with
    | plain => exact hopened
    | placeholder =>
      show (if Text.isNameChar c then _ else Region.opened c a) = _
      rw [hopened]
      rfl
    | literal => rfl
    | identifier => rfl
    | comment => rfl

/-- In front of such places, a text has the same regions and leaves the same
one open. -/
theorem regionsFrom_of_sameStart {first second : Text} (h : SameStart first.head? second.head?)
    (s : Text) (current : Region) :
    ∃ inside after, inside.length = s.length
      ∧ regionsFrom current (s ++ first) = inside ++ regionsFrom after first
      ∧ regionsFrom current (s ++ second) = inside ++ regionsFrom after second := by
  induction s generalizing current with
  | nil => exact ⟨[], current, rfl, rfl, rfl⟩
  | cons c s ih =>
    -- Only the last character of the text looks at what is behind it.
    have hnext : SameStart (s ++ first).head? (s ++ second).head? := by
      cases s with
      | nil => exact h
      | cons d s => exact .inl rfl
    obtain ⟨inside, after, hlength, hfirst, hsecond⟩ := ih (current.step c (s ++ first).head?).2
    refine ⟨(current.step c (s ++ first).head?).1 :: inside, after, ?_, ?_, ?_⟩
    · rw [List.length_cons, hlength, List.length_cons]
    · rw [List.cons_append, regionsFrom_cons, hfirst, List.cons_append]
    · rw [List.cons_append, regionsFrom_cons, ← step_of_sameStart hnext, hsecond,
        List.cons_append]

end ReleaseLag.Proofs.Sql
