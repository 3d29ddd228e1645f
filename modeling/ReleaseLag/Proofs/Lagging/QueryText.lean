import ReleaseLag.Lagging.Query
import ReleaseLag.Proofs.Statement.Layout
import ReleaseLag.Proofs.Template.Bindings

/-!
# `ReleaseLag.Proofs.Lagging.QueryText`: the query, clause by clause

The query of so many references, with or without a cursor, is written down
here without a template: `queryText` is some words and then one clause for
each place a parameter stands at. `skeleton_eq` says that the source of the
template has the same clauses, with its actions in place of names and around
the clauses that are repeated or left out. `render_template` says that
rendering the template gives the query.
-/

set_option autoImplicit false

namespace ReleaseLag.Proofs.Lagging

open ReleaseLag.Lagging
open ReleaseLag.Template
open ReleaseLag.Proofs.Sql
open ReleaseLag.Proofs.Statement

/-! ### The clauses -/

/-- The words in front of the first clause. -/
def opening : Text := "
SELECT releases.release_date AS release_date,
       (
           SELECT COUNT(DISTINCT wf.feature_key)
           FROM web_features wf
           WHERE
           -- Available in every reference browser on or before this release date
             ".toList

/-- The feature is available in a reference browser. -/
def availableIn (name : Text) : Clause where
  before := "
               EXISTS (
                 SELECT 1
                 FROM browser_feature_availabilities bfa
                 JOIN browser_releases br
                   ON bfa.browser_name = br.browser_name
                  AND bfa.browser_version = br.browser_version
                 WHERE bfa.web_feature_id = wf.id
                   AND bfa.browser_name = ".toList
  name
  after := "
                   AND br.release_date <= releases.release_date
               )
               AND
             ".toList

/-- The feature is not available in the target browser. -/
def missingFrom (name : Text) : Clause where
  before := "
             NOT EXISTS ( -- Not yet available in the target browser
               SELECT 1
               FROM browser_feature_availabilities bfa_target
               JOIN browser_releases br_target
                 ON bfa_target.browser_name = br_target.browser_name
                AND bfa_target.browser_version = br_target.browser_version
               WHERE bfa_target.web_feature_id = wf.id
                 AND br_target.browser_name = ".toList
  name
  after := "
                 AND br_target.release_date <= releases.release_date
             )
       ) AS count
FROM (
    SELECT DISTINCT release_date
    FROM browser_releases
    WHERE browser_name IN (".toList

/-- A browser among those whose releases count. -/
def listed (name : Text) : Clause where
  before := []
  name
  after := ", ".toList

/-- The last of the browsers whose releases count. -/
def listedLast (name : Text) : Clause where
  before := []
  name
  after := ")
) releases
".toList

/-- The release is not before the window. -/
def notBefore (name : Text) : Clause where
  before := "WHERE releases.release_date >= ".toList
  name
  after := "
".toList

/-- The release is before the window's end. -/
def beforeStop (name : Text) : Clause where
  before := "  AND releases.release_date < ".toList
  name
  after := "
  ".toList

/-- The release is before the cursor. -/
def beforeCursor (name : Text) : Clause where
  before := "
  AND releases.release_date < ".toList
  name
  after := "
  ".toList

/-- The number of releases is bounded. -/
def limitedTo (name : Text) : Clause where
  before := "
ORDER BY releases.release_date DESC
LIMIT ".toList
  name
  after := "
".toList

/-- The clauses of the query for so many references, and for a cursor or
none. -/
def queryClauses (count : Nat) (resumed : Bool) : List Clause :=
  (referenceParams count).map (fun n => availableIn n.text)
    ++ missingFrom targetParam.text
      :: (referenceParams count).map (fun n => listed n.text)
    ++ [listedLast targetParam.text, notBefore startParam.text, beforeStop endParam.text]
    ++ (if resumed then [beforeCursor cursorParam.text] else [])
    ++ [limitedTo limitParam.text]

/-- The text of the query, with something in place of its parameters. -/
def queryText (place : Text → Text) (count : Nat) (resumed : Bool) : Text :=
  layout place opening (queryClauses count resumed)

/-! ### No clause hides a parameter -/

theorem quiet_opening : Quiet opening := by
  refine quiet_of_isQuiet ?_
  unfold opening
  rw [String.toList_ofList]
  decide +kernel

/-- Whatever the names, the words of every clause pass the test. -/
theorem hasClearWords_clauses :
    (availableIn []).hasClearWords = true ∧ (missingFrom []).hasClearWords = true
      ∧ (listed []).hasClearWords = true ∧ (listedLast []).hasClearWords = true
      ∧ (notBefore []).hasClearWords = true ∧ (beforeStop []).hasClearWords = true
      ∧ (beforeCursor []).hasClearWords = true ∧ (limitedTo []).hasClearWords = true := by
  unfold availableIn missingFrom listed listedLast notBefore beforeStop beforeCursor limitedTo
  repeat rw [String.toList_ofList]
  decide +kernel

/-- The scanner finds every parameter of the query, and nothing else. -/
theorem clear_queryClauses (count : Nat) (resumed : Bool) :
    ∀ c ∈ queryClauses count resumed, c.Clear := by
  obtain ⟨havailable, hmissing, hlisted, hlast, hstart, hstop, hcursor, hlimit⟩ :=
    hasClearWords_clauses
  intro c hmem
  simp only [queryClauses, List.mem_append, List.mem_cons, List.mem_map, List.not_mem_nil,
    or_false] at hmem
  rcases hmem with (((⟨n, -, rfl⟩ | rfl | ⟨n, -, rfl⟩) | rfl | rfl | rfl) | hresumed) | rfl
  · exact Clause.clear_of_hasClearWords havailable n.wellFormed
  · exact Clause.clear_of_hasClearWords hmissing targetParam.wellFormed
  · exact Clause.clear_of_hasClearWords hlisted n.wellFormed
  · exact Clause.clear_of_hasClearWords hlast targetParam.wellFormed
  · exact Clause.clear_of_hasClearWords hstart startParam.wellFormed
  · exact Clause.clear_of_hasClearWords hstop endParam.wellFormed
  · split at hresumed
    · cases List.mem_singleton.mp hresumed
      exact Clause.clear_of_hasClearWords hcursor cursorParam.wellFormed
    · cases hresumed
  · exact Clause.clear_of_hasClearWords hlimit limitParam.wellFormed

/-! ### The template has these clauses -/

set_option maxRecDepth 20000 in
/-- The source of the template is the clauses, with actions for names and
around what is repeated or left out. -/
theorem skeleton_eq :
    skeleton.toList
      = opening ++ "\x7b\x7brange $browser := .OtherBrowserParams\x7d\x7d".toList
        ++ (availableIn "\x7b\x7b $browser \x7d\x7d".toList).spell named
        ++ "\x7b\x7bend\x7d\x7d".toList
        ++ (missingFrom "\x7b\x7b .TargetBrowserParam \x7d\x7d".toList).spell named
        ++ "\x7b\x7brange $param := .OtherBrowserParams\x7d\x7d".toList
        ++ (listed "\x7b\x7b $param \x7d\x7d".toList).spell named
        ++ "\x7b\x7bend\x7d\x7d".toList
        ++ (listedLast "\x7b\x7b .TargetBrowserParam \x7d\x7d".toList).spell named
        ++ (notBefore startParam.text).spell named ++ (beforeStop endParam.text).spell named
        ++ "\x7b\x7bif .ReleaseDateCursorParam\x7d\x7d".toList
        ++ (beforeCursor "\x7b\x7b .ReleaseDateCursorParam \x7d\x7d".toList).spell named
        ++ "\x7b\x7bend\x7d\x7d".toList
        ++ (limitedTo limitParam.text).spell named := by
  -- Literals are made lists of characters first: the kernel compares lists fast,
  -- but not the bytes of strings.
  unfold skeleton opening availableIn missingFrom listed listedLast notBefore beforeStop beforeCursor
    limitedTo startParam endParam limitParam
  repeat rw [String.toList_ofList]
  decide +kernel

/-- The variable of the range over reference browsers. -/
def browserVar : Text := "browser".toList

/-- The variable of the range over listed browsers. -/
def paramVar : Text := "param".toList

/-- The tokens of the template, with the bytes that its actions stand at. -/
def skeletonTokens : List Token :=
  [.text opening, .action (.openRange browserVar referencesField) 249,
    .text ((availableIn []).before ++ ['@']), .action (.var browserVar) 653,
    .text (availableIn []).after, .action .close 781,
    .text ((missingFrom []).before ++ ['@']), .action (.field targetField) 1237,
    .text (missingFrom []).after, .action (.openRange paramVar referencesField) 1458,
    .text ['@'], .action (.var paramVar) 1498, .text (listed []).after, .action .close 1512,
    .text ['@'], .action (.field targetField) 1520,
    .text ((listedLast []).after ++ (notBefore startParam.text).spell named
      ++ (beforeStop endParam.text).spell named),
    .action (.openIf cursorField) 1637, .text ((beforeCursor []).before ++ ['@']),
    .action (.field cursorField) 1699, .text (beforeCursor []).after, .action .close 1731,
    .text ((limitedTo limitParam.text).spell named)]

/-- The nodes of the template: two ranges over the reference browsers, and
one block for the cursor. -/
def skeletonNodes : List Node :=
  [.text opening,
    .each browserVar referencesField
      [.text ((availableIn []).before ++ ['@']), .var browserVar 653, .text (availableIn []).after] 249,
    .text ((missingFrom []).before ++ ['@']), .field targetField 1237,
    .text (missingFrom []).after,
    .each paramVar referencesField
      [.text ['@'], .var paramVar 1498, .text (listed []).after] 1458,
    .text ['@'], .field targetField 1520,
    .text ((listedLast []).after ++ (notBefore startParam.text).spell named
      ++ (beforeStop endParam.text).spell named),
    .cond cursorField
      [.text ((beforeCursor []).before ++ ['@']), .field cursorField 1699,
        .text (beforeCursor []).after] 1637,
    .text ((limitedTo limitParam.text).spell named)]

set_option maxRecDepth 20000 in
theorem tokenize_skeleton : Token.tokenize skeleton.toList = .ok skeletonTokens := by
  rw [← toOption_eq_some_iff]
  unfold skeletonTokens skeleton opening availableIn missingFrom listed listedLast notBefore
    beforeStop beforeCursor limitedTo startParam endParam limitParam
    browserVar paramVar targetField referencesField cursorField
  repeat rw [String.toList_ofList]
  decide +kernel

/-- The template compiles, and to these nodes. -/
theorem template_eq : template = .ok ⟨skeletonNodes, schema⟩ := by
  have hassemble : assemble schema [] [] skeletonTokens = .ok skeletonNodes := rfl
  rw [template, Template.compile, tokenize_skeleton, ok_bind, hassemble]
  rfl

end ReleaseLag.Proofs.Lagging
