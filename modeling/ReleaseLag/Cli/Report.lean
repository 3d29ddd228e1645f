import ReleaseLag.Cli.Paint
import ReleaseLag.Cli.Value
import ReleaseLag.Lagging.Query
import ReleaseLag.Paging.Page
import ReleaseLag.Template.Outline

/-!
# `ReleaseLag.Cli.Report`: what the program prints

Each report is a list of lines. A page is printed as a table for people or as
a JSON document for programs.
-/

set_option autoImplicit false

namespace ReleaseLag.Cli.Report

/-- Lines as one text. -/
def text (lines : List Text) : Text :=
  lines.flatMap fun line => line ++ ['\n']

/-- A label and what belongs to it. -/
def labelled (label value : Text) : Text :=
  label ++ ' ' :: value

/-- A statement that is not sent: its query text and its parameters. -/
def statement (color : Bool) (s : Statement) : Text :=
  text <|
    [Style.boldGreen.paint color "Generated SQL:".toList,
      Style.white.paint color (Text.trim s.sql),
      [],
      Style.cyan.paint color "Parameters:".toList]
      ++ s.params.entries.map fun (name, value) =>
        "  @".toList ++ name ++ " = ".toList ++ Style.yellow.paint color value.display

/-- The number of characters that a date takes in a table. -/
def dateWidth : Nat := 10

/-- A cell of the first column. -/
def dateCell (s : Text) : Text :=
  List.rightpad dateWidth ' ' s

/-- The columns of a table have a bar between them. -/
def tableRow (first second : Text) : Text :=
  dateCell first ++ " │ ".toList ++ second

/-- The line below the heading of a table. -/
def tableRule : Text :=
  List.replicate dateWidth '─' ++ "─┼─".toList ++ List.replicate 5 '─'

/-- The lines of a table that has rows. -/
def tableLines (color : Bool) (records : List Record) : List Text :=
  [Style.boldWhite.paint color (tableRow "release".toList "count".toList),
    Style.dimmed.paint color tableRule]
    ++ records.map (fun r =>
      tableRow r.releaseDate.date.text (Style.cyan.paint color (Decimal.ofInt r.count)))
    ++ [[],
      labelled (Style.cyan.paint color (Decimal.ofNat records.length)) "row(s) returned".toList]

/-- A page as a table. -/
def table (color : Bool) (page : Page) : Text :=
  text <|
    (if page.records.isEmpty then [Style.dimmed.paint color "(no results)".toList]
      else tableLines color page.records)
      ++ page.nextToken.toList.map fun token =>
        labelled (Style.dimmed.paint color "Next page token:".toList)
          (Style.yellow.paint color token)

/-- A record as a member of the JSON document of its page. -/
def jsonRecord (r : Record) : Text :=
  "    \x7b\n      \"release_date\": \"".toList ++ r.releaseDate.json
    ++ "\",\n      \"count\": ".toList ++ Decimal.ofInt r.count ++ "\n    \x7d".toList

/-- The records of a page as a JSON array. -/
def jsonRecords (records : List Record) : Text :=
  if records.isEmpty then "[]".toList
  else
    "[\n".toList ++ [',', '\n'].intercalate (records.map jsonRecord) ++ "\n  ]".toList

/-- A token as a JSON value. Tokens need no escapes. -/
def jsonToken : Option Text → Text
  | some token => '"' :: token ++ ['"']
  | none => "null".toList

/-- A page as a JSON document. -/
def json (page : Page) : Text :=
  "\x7b\n  \"records\": ".toList ++ jsonRecords page.records
    ++ ",\n  \"next_page_token\": ".toList ++ jsonToken page.nextToken ++ "\n\x7d\n".toList

/-- A page in a format. -/
def page (color : Bool) : Format → Page → Text
  | .table, p => table color p
  | .json, p => json p

/-- The template of every count, as source and as outline. -/
def template (color : Bool) (t : Template) : Text :=
  text [Style.boldCyan.paint color "Lagging feature count template".toList,
    [],
    Style.boldGreen.paint color "Skeleton:".toList,
    Style.dimmed.paint color (Text.trim Lagging.skeleton.toList),
    [],
    Style.boldGreen.paint color "Structure:".toList]
    ++ t.outline

/-- An error, and on a line of its own what caused it. -/
def error (color : Bool) (e : Error) : Text :=
  text <|
    labelled (Style.boldRed.paint color "Error:".toList) e.message.toList
      :: e.source.toList.map fun source =>
        "  ".toList
          ++ labelled (Style.dimmed.paint color "caused by:".toList) source.toList

/-- A note that a connection is about to be made. -/
def connecting (color : Bool) (url : Text) : Text :=
  text [labelled (Style.dimmed.paint color "Connecting to:".toList) url]

end ReleaseLag.Cli.Report
