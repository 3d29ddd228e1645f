import Mathlib.Data.List.Forall2
import ReleaseLag.Proofs.Cli.Tinted
import ReleaseLag.Proofs.Text.Words
import ReleaseLag.Proofs.Time.Written

/-!
# `ReleaseLag.Proofs.Cli.Reports`: what the printed reports hold

For each report a grammar says which texts are that report of a value: the query
text without the white space around it and a line for each parameter, a row or a
member for each record and the token of the next page, the message of an error and
of what caused it. Numbers and moments in them are the written forms of
`Proofs.Text.Numerals` and `Proofs.Time.Written`.

What the program prints shows such a text (`shows_statement`, `showsPage_page`,
`shows_error`, `shows_note`). The colours are dealt with once, line by line:
lines that are tinted come to a tinted report (`shows_of_lines`).
-/

set_option autoImplicit false

namespace ReleaseLag.Proofs.Cli

open ReleaseLag.Cli
open ReleaseLag.Proofs.Text
open ReleaseLag.Proofs.Time

/-! ### Lines -/

/-- Each line is followed by a line feed. -/
inductive IsPrinted : List Text → Text → Prop
  | nil : IsPrinted [] []
  | cons {line rest : Text} {lines : List Text} (h : IsPrinted lines rest) :
      IsPrinted (line :: lines) (line ++ '\n' :: rest)

theorem isPrinted_text (lines : List Text) : IsPrinted lines (Report.text lines) := by
  induction lines with
  | nil => exact .nil
  | cons line lines ih =>
    rw [Report.text, List.flatMap_cons, List.append_assoc]
    exact .cons ih

theorem tinted_text {color : Bool} {out shown : List Text}
    (h : List.Forall₂ (Tinted color) out shown) :
    Tinted color (Report.text out) (Report.text shown) := by
  induction h with
  | nil => exact .nil
  | cons hline _ ih =>
    rw [Report.text, Report.text, List.flatMap_cons, List.flatMap_cons]
    exact (hline.append (Tinted.refl ['\n'])).append ih

/-- Tinted lines show what the lines themselves are printed as. -/
theorem shows_of_lines {color : Bool} {kind : Text → Prop} {out shown : List Text}
    (htinted : List.Forall₂ (Tinted color) out shown)
    (hkind : ∀ printed, IsPrinted shown printed → kind printed) :
    Shows color kind (Report.text out) :=
  ⟨Report.text shown, hkind _ (isPrinted_text shown), tinted_text htinted⟩

/-- Lines that are tinted the same way for each entry of a list. -/
theorem tinted_map {α : Type} {color : Bool} {out shown : α → Text}
    (h : ∀ a, Tinted color (out a) (shown a)) (entries : List α) :
    List.Forall₂ (Tinted color) (entries.map out) (entries.map shown) := by
  rw [List.forall₂_map_left_iff, List.forall₂_map_right_iff, List.forall₂_same]
  exact fun a _ => h a

/-- A label in a style, a space and what belongs to the label. -/
theorem tinted_labelled {color : Bool} {style : Style} {label lead value shown : Text}
    (hstyle : HasNumbers style) (hlead : label ++ [' '] = lead)
    (hvalue : Tinted color value shown) :
    Tinted color (Report.labelled (style.paint color label) value) (lead ++ shown) := by
  rw [← hlead, List.append_assoc]
  exact (tinted_paint hstyle label).append ((Tinted.refl [' ']).append hvalue)

/-! ### Statements -/

/-- A value on display: a string between quotes, a number, a moment in universal
time. -/
inductive Displays : ParamValue → Text → Prop
  | string (s : Text) : Displays (.string s) ('\'' :: s ++ ['\''])
  | int {n : Int} {s : Text} (h : IsInteger n s) : Displays (.int n) s
  | timestamp {t : Instant} {s : Text} (h : IsMoment t "+00:00".toList s) :
      Displays (.timestamp t) s

/-- A parameter and its value. -/
inductive IsBinding : Text × ParamValue → Text → Prop
  | intro {name shown : Text} {value : ParamValue} (h : Displays value shown) :
      IsBinding (name, value) ("  @".toList ++ name ++ " = ".toList ++ shown)

/-- A statement: its query text without the white space around it, and a line for
each parameter. -/
inductive IsStatement (s : Statement) : Text → Prop
  | intro {sql out : Text} {bindings : List Text} (hsql : IsTrimmed s.sql sql)
      (hbindings : List.Forall₂ IsBinding s.params.entries bindings)
      (hprinted : IsPrinted
        (["Generated SQL:".toList, sql, [], "Parameters:".toList] ++ bindings) out) :
      IsStatement s out

theorem displays_display (value : ParamValue) : Displays value value.display := by
  cases value with
  | string s => exact .string s
  | int n => exact .int (isInteger_ofInt n)
  | timestamp t => exact .timestamp (isMoment_text t _)

theorem shows_statement (color : Bool) (s : Statement) :
    Shows color (IsStatement s) (Report.statement color s) := by
  have hbindings : List.Forall₂ IsBinding s.params.entries (s.params.entries.map fun entry =>
      "  @".toList ++ entry.1 ++ " = ".toList ++ entry.2.display) := by
    rw [List.forall₂_map_right_iff, List.forall₂_same]
    exact fun entry _ => .intro (displays_display entry.2)
  refine shows_of_lines ?_ fun _ => .intro (isTrimmed_trim s.sql) hbindings
  refine .cons (tinted_paint (by decide) _) (.cons (tinted_paint (by decide) _)
    (.cons .nil (.cons (tinted_paint (by decide) _) (tinted_map ?_ _))))
  exact fun entry => (Tinted.refl _).append (tinted_paint (by decide) _)

/-! ### Pages -/

/-- A row of a table: the day of a record, filled up to ten characters, and its
count. -/
inductive IsRow (r : Record) : Text → Prop
  | intro {day count : Text} (hday : IsDayOf r.releaseDate day) (hcount : IsInteger r.count count) :
      IsRow r (day ++ List.replicate (10 - day.length) ' ' ++ " │ ".toList ++ count)

/-- The lines of a table: a heading, a row for each record and their number, or a
word that there are none. -/
inductive HasRows : List Record → List Text → Prop
  | none : HasRows [] ["(no results)".toList]
  | rows {records : List Record} {rows : List Text} {number : Text} (hne : records ≠ [])
      (hrows : List.Forall₂ IsRow records rows) (hnumber : IsNatural records.length number) :
      HasRows records
        (["release    │ count".toList, "───────────┼──────".toList] ++ rows
          ++ [[], number ++ " row(s) returned".toList])

/-- The line with the token of the next page, if there is a next page. -/
inductive HasToken : Option Text → List Text → Prop
  | none : HasToken none []
  | some (token : Text) : HasToken (some token) ["Next page token: ".toList ++ token]

/-- A page as a table. -/
inductive IsTable (page : Page) : Text → Prop
  | intro {rows token : List Text} {out : Text} (hrows : HasRows page.records rows)
      (htoken : HasToken page.nextToken token) (hprinted : IsPrinted (rows ++ token) out) :
      IsTable page out

/-- A record as a member of a JSON document. -/
inductive IsMember (r : Record) : Text → Prop
  | intro {moment count : Text} (hmoment : IsMoment r.releaseDate "Z".toList moment)
      (hcount : IsInteger r.count count) :
      IsMember r
        ("    \x7b\n      \"release_date\": \"".toList ++ moment ++ "\",\n      \"count\": ".toList
          ++ count ++ "\n    \x7d".toList)

/-- Records as a JSON array: its members with commas between them. -/
inductive IsArray : List Record → Text → Prop
  | empty : IsArray [] "[]".toList
  | members {records : List Record} {members : List Text} (hne : records ≠ [])
      (hmembers : List.Forall₂ IsMember records members) :
      IsArray records ("[\n".toList ++ ",\n".toList.intercalate members ++ "\n  ]".toList)

/-- A token as a JSON value. -/
inductive IsToken : Option Text → Text → Prop
  | null : IsToken none "null".toList
  | string (token : Text) : IsToken (some token) ("\"".toList ++ token ++ "\"".toList)

/-- A page as a JSON document. -/
inductive IsDocument (page : Page) : Text → Prop
  | intro {records token : Text} (hrecords : IsArray page.records records)
      (htoken : IsToken page.nextToken token) :
      IsDocument page
        ("\x7b\n  \"records\": ".toList ++ records ++ ",\n  \"next_page_token\": ".toList ++ token
          ++ "\n\x7d\n".toList)

/-- What is printed of a page in a format. Documents have no colours. -/
inductive ShowsPage (color : Bool) (page : Page) : Format → Text → Prop
  | table {out : Text} (h : Shows color (IsTable page) out) : ShowsPage color page .table out
  | json {out : Text} (h : IsDocument page out) : ShowsPage color page .json out

section

variable (color : Bool)

/-- The lines of the rows are tinted lines of a table. -/
theorem hasRows_tableLines {records : List Record} (hne : records ≠ []) :
    ∃ rows, HasRows records rows
      ∧ List.Forall₂ (Tinted color) (Report.tableLines color records) rows := by
  have hrows : List.Forall₂ IsRow records (records.map fun r =>
      Report.tableRow r.releaseDate.date.text (Decimal.ofInt r.count)) := by
    rw [List.forall₂_map_right_iff, List.forall₂_same]
    exact fun r _ => .intro (isDayOf_date r.releaseDate) (isInteger_ofInt r.count)
  have hheading : Report.tableRow "release".toList "count".toList
      = "release    │ count".toList := by decide +kernel
  have hrule : Report.tableRule = "───────────┼──────".toList := by decide +kernel
  have hnumber : Tinted color
      (Report.labelled (Style.cyan.paint color (Decimal.ofNat records.length))
        "row(s) returned".toList)
      (Decimal.ofNat records.length ++ [' '] ++ "row(s) returned".toList) :=
    tinted_labelled (by decide) rfl (Tinted.refl _)
  have hspace : [' '] ++ "row(s) returned".toList = " row(s) returned".toList := by
    decide +kernel
  rw [List.append_assoc, hspace] at hnumber
  refine ⟨_, .rows hne hrows (isNatural_ofNat _), ?_⟩
  rw [Report.tableLines, hheading, hrule]
  refine .cons (tinted_paint (by decide) _) (.cons (tinted_paint (by decide) _)
    (List.rel_append (tinted_map ?_ records) (.cons .nil (.cons hnumber .nil))))
  exact fun r => (Tinted.refl _).append (tinted_paint (by decide) _)

theorem shows_table (page : Page) : Shows color (IsTable page) (Report.table color page) := by
  have hrows : ∃ rows, HasRows page.records rows ∧ List.Forall₂ (Tinted color)
      (if page.records.isEmpty then [Style.dimmed.paint color "(no results)".toList]
        else Report.tableLines color page.records) rows := by
    cases hrecords : page.records with
    | nil => exact ⟨_, .none, .cons (tinted_paint (by decide) _) .nil⟩
    | cons r records => exact hasRows_tableLines color (List.cons_ne_nil r records)
  have htoken : ∃ lines, HasToken page.nextToken lines ∧ List.Forall₂ (Tinted color)
      (page.nextToken.toList.map fun token =>
        Report.labelled (Style.dimmed.paint color "Next page token:".toList)
          (Style.yellow.paint color token)) lines := by
    cases page.nextToken with
    | none => exact ⟨_, .none, .nil⟩
    | some token =>
      have htoken : Tinted color (Style.yellow.paint color token) token :=
        tinted_paint (by decide) token
      exact ⟨_, .some token, .cons (tinted_labelled (by decide) (by decide +kernel) htoken) .nil⟩
  obtain ⟨rows, hrows, hrowsTinted⟩ := hrows
  obtain ⟨lines, htoken, htokenTinted⟩ := htoken
  exact shows_of_lines (List.rel_append hrowsTinted htokenTinted) fun _ => .intro hrows htoken

theorem isArray_jsonRecords (records : List Record) :
    IsArray records (Report.jsonRecords records) := by
  unfold Report.jsonRecords
  cases records with
  | nil => exact .empty
  | cons r records =>
    refine .members (List.cons_ne_nil r records) ?_
    rw [List.forall₂_map_right_iff, List.forall₂_same]
    exact fun r _ => .intro (isMoment_text r.releaseDate _) (isInteger_ofInt r.count)

theorem isToken_jsonToken (token : Option Text) : IsToken token (Report.jsonToken token) := by
  cases token with
  | none => exact .null
  | some token => exact .string token

theorem showsPage_page (format : Format) (page : Page) :
    ShowsPage color page format (Report.page color format page) := by
  cases format with
  | table => exact .table (shows_table color page)
  | json =>
    exact .json (.intro (isArray_jsonRecords page.records) (isToken_jsonToken page.nextToken))

end

/-! ### Errors and notes -/

/-- An error, and on a line of its own what caused it. -/
inductive IsError (e : Error) : Text → Prop
  | alone {out : Text} (hsource : e.source = none)
      (h : IsPrinted ["Error: ".toList ++ e.message.toList] out) : IsError e out
  | caused {source : String} {out : Text} (hsource : e.source = some source)
      (h : IsPrinted ["Error: ".toList ++ e.message.toList,
        "  caused by: ".toList ++ source.toList] out) : IsError e out

/-- Nothing, or a note of where a connection is about to be made. -/
inductive IsNote : Text → Prop
  | none : IsNote []
  | connecting {url out : Text} (h : IsPrinted ["Connecting to: ".toList ++ url] out) : IsNote out

theorem shows_error (color : Bool) (e : Error) :
    Shows color (IsError e) (Report.error color e) := by
  have hmessage : Tinted color
      (Report.labelled (Style.boldRed.paint color "Error:".toList) e.message.toList)
      ("Error: ".toList ++ e.message.toList) :=
    tinted_labelled (by decide) (by decide +kernel) (Tinted.refl _)
  unfold Report.error
  cases hsource : e.source with
  | none => exact shows_of_lines (.cons hmessage .nil) fun _ => .alone hsource
  | some source =>
    have hcaused : Tinted color
        ("  ".toList
          ++ Report.labelled (Style.dimmed.paint color "caused by:".toList) source.toList)
        ("  ".toList ++ ("caused by: ".toList ++ source.toList)) :=
      (Tinted.refl _).append (tinted_labelled (by decide) (by decide +kernel) (Tinted.refl _))
    rw [← List.append_assoc] at hcaused
    exact shows_of_lines (.cons hmessage (.cons hcaused .nil)) fun _ => .caused hsource

theorem shows_no_note (color : Bool) : Shows color IsNote [] :=
  ⟨[], .none, .nil⟩

theorem shows_note (color verbose : Bool) (url : Text) :
    Shows color IsNote (if verbose then Report.connecting color url else []) := by
  cases verbose with
  | false => exact shows_no_note color
  | true =>
    have hurl : Tinted color
        (Report.labelled (Style.dimmed.paint color "Connecting to:".toList) url)
        ("Connecting to: ".toList ++ url) :=
      tinted_labelled (by decide) (by decide +kernel) (Tinted.refl _)
    exact shows_of_lines (.cons hurl .nil) fun _ => .connecting

end ReleaseLag.Proofs.Cli
