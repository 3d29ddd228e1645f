import ReleaseLag.Proofs.Template.Printing

/-!
# `ReleaseLag.Proofs.Template.Division`: what the tokenizer accepts

A division cuts a source into actions and the runs of text between them. It is
data of its own: `Division.source` puts the stretches together again, and
`Division.Valid` is the grammar, one stretch at a time. The tokenizer accepts a
source exactly if it has a valid division (`spelled_piecesFrom` and
`exists_division_of_spelled`), and there is at most one, because each cut of a
valid division is the first place where the tokenizer can cut
(`Segment.cutOpen`, `Segment.cutClose`).

`Division.pieces` lists the tokens beside the stretches they are read off.
`tokenize_divides_source` says that these stretches tile the source and that
each action stands at the byte behind those in front of it.
-/

set_option autoImplicit false

namespace ReleaseLag.Proofs.Template

open ReleaseLag.Template

/-! ### Runs and segments -/

/-- A run of literal text, which may be empty. -/
def IsRun (s : Text) : Prop :=
  ¬['{', '{'] <:+: s ∧ ¬['}', '}'] <:+: s

/-- An action, given by the text between its braces, and the run of text
directly in front of it. -/
structure Segment where
  lead : Text
  body : Text
  action : Action

namespace Segment

/-- The source of a segment. -/
def source (segment : Segment) : Text :=
  segment.lead ++ braced segment.body

/-- A segment of a source: the run in front does not end in an opening brace,
and the body spells the action. -/
def Valid (segment : Segment) : Prop :=
  IsRun segment.lead ∧ segment.lead.getLast? ≠ some '{' ∧ segment.action.Spelled segment.body

theorem size_source (segment : Segment) :
    Text.size segment.source = Text.size segment.lead + Text.size segment.body + 4 := by
  rw [source, Text.size_append, size_braced, Nat.add_assoc]

/-- The first pair of opening braces is the one that opens the action. -/
theorem cutOpen {segment : Segment} (h : segment.Valid) (rest : Text) :
    Text.cutPair '{' (segment.source ++ rest)
      = some (segment.lead, segment.body ++ '}' :: '}' :: rest) := by
  obtain ⟨hrun, hlast, -⟩ := h
  exact Text.cutPair_eq_some_iff.mpr
    ⟨by simp [source, braced], not_pair_of_getLast_ne hrun.1 hlast⟩

/-- The first pair of closing braces behind them is the one that closes it. -/
theorem cutClose {segment : Segment} (h : segment.Valid) (rest : Text) :
    Text.cutPair '}' (segment.body ++ '}' :: '}' :: rest) = some (segment.body, rest) :=
  Text.cutPair_eq_some_iff.mpr ⟨rfl, not_pair_concat (close_not_mem_of_spelled h.2.2)⟩

/-- A text that begins with a segment is no run. -/
theorem not_isRun {segment : Segment} (h : segment.Valid) (rest : Text) :
    ¬IsRun (segment.source ++ rest) := by
  intro hrun
  have hnone := Text.cutPair_eq_none_iff.mpr hrun.1
  rw [cutOpen h rest] at hnone
  cases hnone

/-- Two segments that begin the same text are the same. -/
theorem eq_of_source_append_eq {segment other : Segment} {rest behind : Text}
    (hsegment : segment.Valid) (hother : other.Valid)
    (heq : segment.source ++ rest = other.source ++ behind) : segment = other ∧ rest = behind := by
  obtain ⟨lead, body, action⟩ := segment
  obtain ⟨lead', body', action'⟩ := other
  have hopen := cutOpen hsegment rest
  rw [heq, cutOpen hother behind] at hopen
  simp only [Option.some.injEq, Prod.mk.injEq] at hopen
  obtain ⟨rfl, hinside⟩ := hopen
  have hclose := cutClose hsegment rest
  simp only [← hinside, cutClose hother behind, Option.some.injEq, Prod.mk.injEq] at hclose
  obtain ⟨rfl, rfl⟩ := hclose
  -- One body is read as one action.
  have haction : some action = some action' :=
    (ofBody?_eq_some_iff.mpr hsegment.2.2).symm.trans (ofBody?_eq_some_iff.mpr hother.2.2)
  cases haction
  exact ⟨rfl, rfl⟩

end Segment

/-! ### Divisions -/

/-- The actions of a source, each with the run in front of it, and the run
behind the last one. -/
structure Division where
  segments : List Segment
  last : Text

namespace Division

/-- The stretches of a division, one after the other. -/
def source (d : Division) : Text :=
  d.segments.flatMap Segment.source ++ d.last

/-- A division that keeps to the grammar of sources. -/
def Valid (d : Division) : Prop :=
  (∀ segment ∈ d.segments, segment.Valid) ∧ IsRun d.last

/-- No source has two valid divisions. -/
theorem eq_of_source_eq {d other : Division} (hd : d.Valid) (hother : other.Valid)
    (heq : d.source = other.source) : d = other := by
  obtain ⟨segments, last⟩ := d
  obtain ⟨segments', last'⟩ := other
  -- Both sources begin with a segment or neither does, since no run begins like one.
  induction segments generalizing segments' with
  | nil =>
    cases segments' with
    | nil => exact congrArg (Division.mk []) heq
    | cons segment segments' =>
      have hfirst := (List.forall_mem_cons.mp hother.1).1
      have hlast : last = segment.source ++ (mk segments' last').source := by
        simpa [source] using heq
      exact absurd (hlast ▸ hd.2) (Segment.not_isRun hfirst _)
  | cons segment segments ih =>
    obtain ⟨hfirst, hsegments⟩ := List.forall_mem_cons.mp hd.1
    cases segments' with
    | nil =>
      have hlast : last' = segment.source ++ (mk segments last).source := by
        simpa [source] using heq.symm
      exact absurd (hlast ▸ hother.2) (Segment.not_isRun hfirst _)
    | cons segment' segments' =>
      obtain ⟨hfirst', hsegments'⟩ := List.forall_mem_cons.mp hother.1
      simp only [source, List.flatMap_cons, List.append_assoc] at heq
      obtain ⟨rfl, hrest⟩ := Segment.eq_of_source_append_eq hfirst hfirst' heq
      have hsame := ih ⟨hsegments, hd.2⟩ segments' ⟨hsegments', hother.2⟩ hrest
      simp only [mk.injEq] at hsame
      obtain ⟨rfl, rfl⟩ := hsame
      rfl

end Division

/-! ### Pieces -/

/-- A token with the stretch of the source that it is read off. -/
structure Piece where
  token : Token
  slice : Text

namespace Piece

/-- A run of text as pieces: none at all for the empty run. -/
def ofRun (s : Text) : List Piece :=
  (Token.ofText s).map fun token => ⟨token, s⟩

/-- A piece fits at a byte: a text is the stretch itself and not empty, and an
action has its braces around a body that spells it and says where they open. -/
def Fits (position : Nat) (piece : Piece) : Prop :=
  match piece.token with
  | .text s => piece.slice = s ∧ s ≠ []
  | .action a start => start = position ∧ ∃ body, piece.slice = braced body ∧ a.Spelled body

theorem token_ofRun (s : Text) : (ofRun s).map token = Token.ofText s := by
  rw [ofRun, List.map_map]
  exact List.map_id _

theorem slice_ofRun (s : Text) : ((ofRun s).map slice).flatten = s := by
  unfold ofRun Token.ofText
  split
  · next hempty => simp [List.isEmpty_iff.mp hempty]
  · simp

end Piece

/-- Pieces tile a text from a byte on: each one fits where the slices of those
in front of it end. -/
def Tiles (position : Nat) (pieces : List Piece) : Prop :=
  ∀ before piece after, pieces = before ++ piece :: after →
    piece.Fits (position + Text.size (before.map Piece.slice).flatten)

theorem Tiles.cons {position : Nat} {piece : Piece} {pieces : List Piece}
    (hpiece : piece.Fits position) (h : Tiles (position + Text.size piece.slice) pieces) :
    Tiles position (piece :: pieces) := by
  intro before other after heq
  cases before with
  | nil =>
    obtain ⟨rfl, -⟩ := List.cons.inj heq
    exact hpiece
  | cons first before =>
    obtain ⟨rfl, hlater⟩ := List.cons.inj heq
    have hother := h before other after hlater
    rw [Nat.add_assoc, ← Text.size_append] at hother
    exact hother

/-- A run in front of pieces that tile what follows it. -/
theorem Tiles.ofRun_append {position : Nat} {s : Text} {pieces : List Piece}
    (h : Tiles (position + Text.size s) pieces) : Tiles position (Piece.ofRun s ++ pieces) := by
  unfold Piece.ofRun Token.ofText
  split
  · next hempty => simpa [List.isEmpty_iff.mp hempty] using h
  · next hne =>
    have hpiece : (Piece.mk (.text s) s).Fits position := ⟨rfl, by simpa using hne⟩
    exact .cons hpiece h

/-- The pieces of segments and a last run, from a byte on. -/
def piecesFrom (position : Nat) : List Segment → Text → List Piece
  | [], last => Piece.ofRun last
  | segment :: segments, last =>
    Piece.ofRun segment.lead
      ++ ⟨.action segment.action (position + Text.size segment.lead), braced segment.body⟩
      :: piecesFrom (position + Text.size segment.source) segments last

/-- The pieces of a division: its runs that are not empty and its actions, in
order. -/
def Division.pieces (d : Division) : List Piece :=
  piecesFrom 0 d.segments d.last

/-- The slices of the pieces are the source. -/
theorem slice_piecesFrom (position : Nat) (segments : List Segment) (last : Text) :
    ((piecesFrom position segments last).map Piece.slice).flatten
      = segments.flatMap Segment.source ++ last := by
  induction segments generalizing position with
  | nil => exact Piece.slice_ofRun last
  | cons segment segments ih =>
    simp only [piecesFrom, List.map_append, List.flatten_append, Piece.slice_ofRun, List.map_cons,
      List.flatten_cons, ih, List.flatMap_cons, Segment.source, List.append_assoc]

/-- The pieces tile the source. -/
theorem tiles_piecesFrom {position : Nat} {segments : List Segment} {last : Text}
    (hvalid : ∀ segment ∈ segments, segment.Valid) :
    Tiles position (piecesFrom position segments last) := by
  induction segments generalizing position with
  | nil =>
    have hnone : Tiles (position + Text.size last) [] := fun before _ _ heq => by simp at heq
    have hlast := hnone.ofRun_append
    rwa [List.append_nil] at hlast
  | cons segment segments ih =>
    obtain ⟨⟨-, -, hbody⟩, hsegments⟩ := List.forall_mem_cons.mp hvalid
    have hrest : Tiles (position + Text.size segment.source)
        (piecesFrom (position + Text.size segment.source) segments last) := ih hsegments
    rw [Segment.source, Text.size_append, ← Nat.add_assoc] at hrest
    have haction : (Piece.mk (.action segment.action (position + Text.size segment.lead))
        (braced segment.body)).Fits (position + Text.size segment.lead) :=
      ⟨rfl, segment.body, rfl, hbody⟩
    rw [piecesFrom, Segment.source, Text.size_append, ← Nat.add_assoc]
    exact (Tiles.cons haction hrest).ofRun_append

/-! ### The tokenizer -/

/-- A segment in front of a source that is spelt of its tokens. -/
theorem spelled_segment {position : Nat} {segment : Segment} {rest : Text} {tokens : List Token}
    (h : segment.Valid) (hrest : Spelled (position + Text.size segment.source) rest tokens) :
    Spelled position (segment.source ++ rest) (Token.ofText segment.lead
      ++ .action segment.action (position + Text.size segment.lead) :: tokens) := by
  obtain ⟨⟨hopen, hclose⟩, hlast, hbody⟩ := h
  rw [Segment.size_source, ← Nat.add_assoc, ← Nat.add_assoc] at hrest
  have hspelled := Spelled.action (not_pair_of_getLast_ne hopen hlast) hclose hbody hrest
  simpa [Segment.source, braced] using hspelled

/-- The pieces of a valid division hold the tokens of its source. -/
theorem spelled_piecesFrom {position : Nat} {segments : List Segment} {last : Text}
    (hsegments : ∀ segment ∈ segments, segment.Valid) (hlast : IsRun last) :
    Spelled position (segments.flatMap Segment.source ++ last)
      ((piecesFrom position segments last).map Piece.token) := by
  induction segments generalizing position with
  | nil =>
    show Spelled position last ((Piece.ofRun last).map Piece.token)
    rw [Piece.token_ofRun]
    exact .last hlast.1 hlast.2
  | cons segment segments ih =>
    obtain ⟨hsegment, hsegments⟩ := List.forall_mem_cons.mp hsegments
    rw [List.flatMap_cons, List.append_assoc, piecesFrom, List.map_append, Piece.token_ofRun]
    exact spelled_segment hsegment (ih hsegments)

/-- A text that is spelt of tokens has a valid division with these tokens. -/
theorem exists_division_of_spelled {position : Nat} {s : Text} {tokens : List Token}
    (h : Spelled position s tokens) : ∃ d : Division, d.Valid ∧ d.source = s
      ∧ (piecesFrom position d.segments d.last).map Piece.token = tokens := by
  induction h with
  | @last position s hopen hclose =>
    have hvalid : (Division.mk [] s).Valid := ⟨List.forall_mem_nil _, hopen, hclose⟩
    exact ⟨⟨[], s⟩, hvalid, rfl, Piece.token_ofRun s⟩
  | @action position lead body rest a later hopen hclose hbody _ ih =>
    obtain ⟨⟨segments, last⟩, ⟨hsegments, hlast⟩, rfl, htokens⟩ := ih
    let segment : Segment := ⟨lead, body, a⟩
    have hsegment : segment.Valid :=
      ⟨⟨not_pair_left hopen, hclose⟩, getLast_ne_of_not_pair hopen, hbody⟩
    have hstart : position + Text.size segment.source
        = position + Text.size lead + Text.size body + 4 := by
      rw [Segment.size_source, ← Nat.add_assoc, ← Nat.add_assoc]
    refine ⟨⟨segment :: segments, last⟩,
      ⟨List.forall_mem_cons.mpr ⟨hsegment, hsegments⟩, hlast⟩, ?_, ?_⟩
    · simp [Division.source, Segment.source, braced, segment]
    · show (piecesFrom position (segment :: segments) last).map Piece.token = _
      rw [piecesFrom, List.map_append, List.map_cons, Piece.token_ofRun, hstart, htokens]

/-- How the tokenizer takes a source apart, given its valid division:

1. `unique`: the source has no other one;
2. `tokens_eq`: the tokens are the runs that are not empty and the actions, in
   order;
3. `slices`: the runs and the slices of the actions, one after the other, are
   the source;
4. `tiles`: each text is its slice, and each action has the position of the
   first byte of its slice, which is braces around a body that spells it. -/
structure Divided (source : Text) (d : Division) : Prop where
  unique : ∀ other : Division, other.Valid → other.source = source → other = d
  tokens_eq : Token.tokenize source = .ok (d.pieces.map Piece.token)
  slices : (d.pieces.map Piece.slice).flatten = source
  tiles : Tiles 0 d.pieces

/-- The tokenizer accepts the sources that have a valid division, and gives
the tokens of that division. -/
theorem tokenize_divides_source (source : Text) :
    ((∃ tokens, Token.tokenize source = .ok tokens) ↔ ∃ d : Division, d.Valid ∧ d.source = source)
      ∧ ∀ d : Division, d.Valid → d.source = source → Divided source d := by
  constructor
  · constructor
    · rintro ⟨tokens, htokens⟩
      have hspelled := tokenizeFrom_eq_ok_iff.mp htokens
      obtain ⟨d, hvalid, hsource, -⟩ := exists_division_of_spelled hspelled
      exact ⟨d, hvalid, hsource⟩
    · rintro ⟨d, hvalid, rfl⟩
      exact ⟨_, tokenizeFrom_eq_ok_iff.mpr (spelled_piecesFrom hvalid.1 hvalid.2)⟩
  · rintro d hvalid rfl
    constructor
    case unique =>
      intro other hother heq
      exact Division.eq_of_source_eq hother hvalid heq
    case tokens_eq =>
      exact tokenizeFrom_eq_ok_iff.mpr (spelled_piecesFrom hvalid.1 hvalid.2)
    case slices => exact slice_piecesFrom 0 d.segments d.last
    case tiles => exact tiles_piecesFrom hvalid.1

/-- Of three braces the first two open an action, so no run ends in a brace in
front of one. -/
example : Token.tokenize "\x7b\x7b\x7b.F\x7d\x7d".toList
    = .error ⟨0, .unrecognizedAction ['{', '.', 'F']⟩ := by
  rw [Token.tokenize, Token.tokenizeFrom]
  rfl

end ReleaseLag.Proofs.Template
