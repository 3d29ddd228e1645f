import Mathlib.Data.List.Forall2
import ReleaseLag.Cli.Server
import ReleaseLag.Proofs.Paging.Assembly

/-!
# `ReleaseLag.Proofs.Cli.Wire`: what a server receives and what it sends

`Carries` says which values on the wire are the parameters of a statement: strings
and numbers as they are, and a moment as the whole microseconds since the first day
of 2000. Microseconds are cut off toward that day from either side, which
`CutsTo` says by bounds. `Sends` says which item of an answer a reply is: a cell that
is null has no value, and everything else is passed on. `Reaches` says what is found
behind a database URL.

Each of them holds of one thing only, and that is what the program has there
(`carries_values_iff`, `connect_eq_iff`). No item that a server sends is time that
passes (`prompt_of_reaches`).
-/

set_option autoImplicit false

namespace ReleaseLag.Proofs.Cli

open ReleaseLag.Cli
open ReleaseLag.Proofs.Paging

/-- A relation that a function decides relates lists just if the function takes
one to the other. -/
theorem forall₂_iff_map_eq {α β : Type} {R : α → β → Prop} {f : α → β}
    (h : ∀ a b, R a b ↔ f a = b) {as : List α} {bs : List β} :
    List.Forall₂ R as bs ↔ as.map f = bs := by
  have hR : R = fun a b => f a = b := by
    funext a b
    exact propext (h a b)
  rw [hR, ← List.forall₂_map_left_iff (R := Eq), List.forall₂_eq_eq_eq]

/-! ### Values -/

/-- The whole microseconds of a number of nanoseconds, as far from zero as the
nanoseconds are or nearer by less than one. -/
def CutsTo (nanos micros : Int) : Prop :=
  0 ≤ micros * 1000 ∧ micros * 1000 ≤ nanos ∧ nanos < micros * 1000 + 1000
    ∨ micros * 1000 ≤ 0 ∧ nanos ≤ micros * 1000 ∧ micros * 1000 < nanos + 1000

/-- A parameter as it is on the wire. -/
inductive Carries : ParamValue → WireValue → Prop
  | text (s : Text) : Carries (.string s) (.text s)
  | integer (n : Int) : Carries (.int n) (.integer n)
  | micros {t epoch : Instant} {n : Int} (hepoch : Instant.ofDate? ⟨2000, 1, 1⟩ = some epoch)
      (h : CutsTo ((t.secs - epoch.secs) * 1000000000 + (t.nanos - epoch.nanos)) n) :
      Carries (.timestamp t) (.micros n)

/-- Nothing else is as near. -/
theorem cutsTo_iff {nanos micros : Int} : CutsTo nanos micros ↔ micros = nanos.tdiv 1000 := by
  unfold CutsTo
  rcases Int.le_total 0 nanos with hpos | hneg
  · rw [Int.tdiv_eq_ediv_of_nonneg hpos]
    omega
  · -- Below zero it is the magnitude that is cut, so the division is that of `-nanos`.
    have hmagnitude : nanos.tdiv 1000 = -((-nanos) / 1000) := by
      rw [← Int.tdiv_eq_ediv_of_nonneg (Int.neg_nonneg_of_nonpos hneg), Int.neg_tdiv, Int.neg_neg]
    rw [hmagnitude]
    omega

theorem carries_timestamp_iff {t : Instant} {wire : WireValue} :
    Carries (.timestamp t) wire ↔ wire = .micros t.microsSince2000 := by
  have hepoch : Instant.ofDate? ⟨2000, 1, 1⟩ = some ⟨946684800, 0, by decide⟩ := by decide
  have hnanos : (t.secs - 946684800) * 1000000000 + ((t.nanos : Int) - (0 : Nat))
      = (t.secs - 946684800) * 1000000000 + t.nanos := by omega
  constructor
  · intro h
    cases h with
    | micros hfound hcuts =>
      obtain rfl := Option.some.inj (hepoch.symm.trans hfound)
      rw [hnanos, cutsTo_iff] at hcuts
      exact congrArg WireValue.micros hcuts
  · rintro rfl
    refine .micros hepoch ?_
    rw [hnanos]
    exact cutsTo_iff.mpr rfl

/-- A parameter is sent in one way only. -/
theorem carries_iff {value : ParamValue} {wire : WireValue} :
    Carries value wire ↔ .ofParam value = wire := by
  cases value with
  | string s =>
    constructor
    · rintro ⟨⟩
      rfl
    · rintro rfl
      exact .text s
  | int n =>
    constructor
    · rintro ⟨⟩
      rfl
    · rintro rfl
      exact .integer n
  | timestamp t => exact carries_timestamp_iff.trans eq_comm

/-- A statement is sent with its values in the order of its placeholders. -/
theorem carries_values_iff {s : Statement} {values : List WireValue} :
    List.Forall₂ Carries s.positionalParams values ↔ (Query.ofStatement s).values = values :=
  forall₂_iff_map_eq (f := WireValue.ofParam) fun _ _ => carries_iff

/-! ### Replies -/

/-- A cell of a column has its value, or the reason why it has none if it is null. -/
inductive HasCell {α : Type} (column : Column) : Option α → Except Text α → Prop
  | value (a : α) : HasCell column (some a) (.ok a)
  | null : HasCell column none
      (.error ("error occurred while decoding column \"".toList ++ column.name.toList
        ++ "\": unexpected null; try decoding as an `Option`".toList))

/-- A reply as an item of an answer. -/
inductive Sends : Reply → Item → Prop
  | row {releaseDate : Option Instant} {count : Option Int} {row : Row}
      (hdate : HasCell .releaseDate releaseDate row.releaseDate)
      (hcount : HasCell .count count row.count) : Sends (.row releaseDate count) (.row row)
  | fail (message : Text) :
      Sends (.fail message)
        (.fail (.queryExecution (.store ("error returned from database: ".toList ++ message))))

/-- What is found behind a database URL: the answers of a server, an error if there
is none, or an error about the URL. -/
inductive Reaches (server : Server) (url : Text) : Except Error (List (List Item)) → Prop
  | url {fault : Connection.Options.Fault} (h : Connection.Options.read url = .error fault) :
      Reaches server url (.error (.queryExecution (.store fault.message)))
  | nothing {options : Connection.Options} {failure : Connection.Options → Text}
      (hurl : Connection.Options.read url = .ok options) (h : server = .unreachable failure) :
      Reaches server url (.error (.queryExecution (.store (failure options))))
  | server {options : Connection.Options} {replies : List (List Reply)} {script : List (List Item)}
      (hurl : Connection.Options.read url = .ok options) (h : server = .scripted replies)
      (hsends : List.Forall₂ (List.Forall₂ Sends) replies script) :
      Reaches server url (.ok script)

theorem hasCell_iff {α : Type} {column : Column} {value : Option α} {read : Except Text α} :
    HasCell column value read ↔ cell column value = read := by
  cases value with
  | none =>
    constructor
    · rintro ⟨⟩
      rfl
    · rintro rfl
      exact .null
  | some a =>
    constructor
    · rintro ⟨⟩
      rfl
    · rintro rfl
      exact .value a

theorem sends_iff {reply : Reply} {item : Item} : Sends reply item ↔ reply.item = item := by
  cases reply with
  | row releaseDate count =>
    constructor
    · rintro ⟨hdate, hcount⟩
      rw [Reply.item, hasCell_iff.mp hdate, hasCell_iff.mp hcount]
    · rintro rfl
      exact .row (hasCell_iff.mpr rfl) (hasCell_iff.mpr rfl)
  | fail message =>
    constructor
    · rintro ⟨⟩
      rfl
    · rintro rfl
      exact .fail message

/-- A script of replies is answered item by item. -/
theorem forall₂_sends_iff {replies : List (List Reply)} {script : List (List Item)} :
    List.Forall₂ (List.Forall₂ Sends) replies script
      ↔ (replies.map fun sent => sent.map Reply.item) = script := by
  have hsent : ∀ sent items, List.Forall₂ Sends sent items ↔ sent.map Reply.item = items :=
    fun _ _ => forall₂_iff_map_eq (f := Reply.item) fun _ _ => sends_iff
  exact forall₂_iff_map_eq hsent

section

variable {server : Server} {url : Text} {script : List (List Item)}

/-- What is found behind a URL is what a connection comes to. -/
theorem connect_eq_iff {reached : Except Error (List (List Item))} :
    server.connect url = reached ↔ Reaches server url reached := by
  unfold Server.connect
  constructor
  · rintro rfl
    cases hurl : Connection.Options.read url with
    | error fault => exact .url hurl
    | ok options =>
      cases server with
      | unreachable failure => exact .nothing hurl rfl
      | scripted replies => exact .server hurl rfl (forall₂_sends_iff.mpr rfl)
  · intro h
    cases h with
    | url h => rw [h]
    | nothing hurl h => rw [hurl, h]
    | server hurl h hsends => rw [hurl, h, ← forall₂_sends_iff.mp hsends]

/-- A server that answers has replies, and its answers are their items. -/
theorem exists_replies_of_reaches (h : Reaches server url (.ok script)) :
    ∃ replies, server = .scripted replies
      ∧ script = replies.map fun sent => sent.map Reply.item := by
  cases h with
  | server _ hserver hsends => exact ⟨_, hserver, (forall₂_sends_iff.mp hsends).symm⟩

/-- A server replies at once. -/
theorem prompt_of_reaches (h : Reaches server url (.ok script)) :
    ∀ answer ∈ script, ∀ item ∈ answer, Prompt item := by
  obtain ⟨replies, -, rfl⟩ := exists_replies_of_reaches h
  intro answer hanswer item hitem
  obtain ⟨sent, -, rfl⟩ := List.mem_map.mp hanswer
  obtain ⟨reply, -, rfl⟩ := List.mem_map.mp hitem
  cases reply <;> trivial

end

end ReleaseLag.Proofs.Cli
