import ReleaseLag.Lagging.Request
import ReleaseLag.Statement.Basic
import ReleaseLag.Template.Render

/-!
# `ReleaseLag.Lagging.Query`: the statement of a request

One template serves every request. A feature counts for a release date if
each reference browser had a release with it by then and the target had none;
the dates are those of releases of any of the browsers, newest first. Request
values travel as parameters, so the query text depends only on how many
references there are and on whether there is a cursor.
-/

set_option autoImplicit false

namespace ReleaseLag.Lagging

open Template

/-- The source of the template. -/
def skeleton : String := "
SELECT releases.release_date AS release_date,
       (
           SELECT COUNT(DISTINCT wf.feature_key)
           FROM web_features wf
           WHERE
           -- Available in every reference browser on or before this release date
             \x7b\x7brange $browser := .OtherBrowserParams\x7d\x7d
               EXISTS (
                 SELECT 1
                 FROM browser_feature_availabilities bfa
                 JOIN browser_releases br
                   ON bfa.browser_name = br.browser_name
                  AND bfa.browser_version = br.browser_version
                 WHERE bfa.web_feature_id = wf.id
                   AND bfa.browser_name = @\x7b\x7b $browser \x7d\x7d
                   AND br.release_date <= releases.release_date
               )
               AND
             \x7b\x7bend\x7d\x7d
             NOT EXISTS ( -- Not yet available in the target browser
               SELECT 1
               FROM browser_feature_availabilities bfa_target
               JOIN browser_releases br_target
                 ON bfa_target.browser_name = br_target.browser_name
                AND bfa_target.browser_version = br_target.browser_version
               WHERE bfa_target.web_feature_id = wf.id
                 AND br_target.browser_name = @\x7b\x7b .TargetBrowserParam \x7d\x7d
                 AND br_target.release_date <= releases.release_date
             )
       ) AS count
FROM (
    SELECT DISTINCT release_date
    FROM browser_releases
    WHERE browser_name IN (\x7b\x7brange $param := .OtherBrowserParams\x7d\x7d@\x7b\x7b $param \x7d\x7d, \x7b\x7bend\x7d\x7d@\x7b\x7b .TargetBrowserParam \x7d\x7d)
) releases
WHERE releases.release_date >= @startAt
  AND releases.release_date < @endAt
  \x7b\x7bif .ReleaseDateCursorParam\x7d\x7d
  AND releases.release_date < @\x7b\x7b .ReleaseDateCursorParam \x7d\x7d
  \x7b\x7bend\x7d\x7d
ORDER BY releases.release_date DESC
LIMIT @limit
"

/-- The field for the parameter of the target browser. -/
def targetField : Text := "TargetBrowserParam".toList

/-- The field for the parameters of the reference browsers. -/
def referencesField : Text := "OtherBrowserParams".toList

/-- The field for the parameter of the cursor. -/
def cursorField : Text := "ReleaseDateCursorParam".toList

/-- The fields of the template. -/
def schema : Schema :=
  .ofList [(targetField, .scalar), (referencesField, .list), (cursorField, .optional)]

/-- The template, if its source is one. -/
def template : Except Template.Error Template :=
  Template.compile schema skeleton.toList

/-- The parameter of the target browser. -/
def targetParam : ParamName := ⟨"targetBrowserParam".toList, by decide⟩

/-- The parameter of the cursor. -/
def cursorParam : ParamName := ⟨"releaseDateCursor".toList, by decide⟩

/-- The parameter of the window's start. -/
def startParam : ParamName := ⟨"startAt".toList, by decide⟩

/-- The parameter of the window's end. -/
def endParam : ParamName := ⟨"endAt".toList, by decide⟩

/-- The parameter of the page size. -/
def limitParam : ParamName := ⟨"limit".toList, by decide⟩

/-- The text that the names of reference parameters begin with. -/
def referenceStem : Text := ['o', 't', 'h', 'e', 'r', 'B', 'r', 'o', 'w', 's', 'e', 'r']

/-- Digits are characters of names. -/
theorem all_isNameChar_ofNat (n : Nat) : (Decimal.ofNat n).all Text.isNameChar = true := by
  rw [List.all_eq_true]
  intro c hc
  have := Decimal.isDigit_of_mem_ofNat hc
  simp [Text.isNameChar, Char.isAlphanum, this]

/-- The parameter of the reference browser with an index. -/
def referenceParam (index : Nat) : ParamName where
  text := referenceStem ++ Decimal.ofNat index
  wellFormed := by
    have h : (['t', 'h', 'e', 'r', 'B', 'r', 'o', 'w', 's', 'e', 'r'] ++ Decimal.ofNat index).all
        Text.isNameChar = true := by
      rw [List.all_append, all_isNameChar_ofNat]
      decide
    have hstart : Text.isNameStart 'o' = true := by decide
    exact Bool.and_eq_true_iff.2 ⟨hstart, h⟩

/-- The parameters of so many reference browsers. -/
def referenceParams (count : Nat) : List ParamName :=
  (List.range count).map referenceParam

/-- The values of a request under the names of its parameters. -/
def params (r : Request) (cursor : Option Instant) : NameMap ParamValue :=
  .ofList <|
    [(targetParam.text, .string r.target)]
      ++ r.references.mapIdx (fun i browser => ((referenceParam i).text, .string browser))
      ++ (cursor.map fun t => (cursorParam.text, .timestamp t)).toList
      ++ [(startParam.text, .timestamp r.window.start), (endParam.text, .timestamp r.window.stop),
        (limitParam.text, .int r.pageSize)]

/-- What the template is rendered with: the names, not the values. -/
def data (r : Request) (cursor : Option Instant) : Data :=
  .ofList [(targetField, .name targetParam),
    (referencesField, .names (referenceParams r.references.length)),
    (cursorField, .ofOption (cursor.map fun _ => cursorParam))]

/-- The statement of a request. Everything about the request is checked
before anything is rendered. -/
def statement (r : Request) (maxPageSize : Nat) : Except Error Statement := do
  r.check maxPageSize
  let cursor ← r.cursor
  let template ← template.mapError .template
  let sql ← (template.render (data r cursor)).mapError .template
  Statement.ofSql sql (params r cursor)

end ReleaseLag.Lagging
