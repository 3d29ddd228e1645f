import ReleaseLag.Paging.Client

/-!
# `ReleaseLag.Paging.Session`: calls one after the other

A session makes calls to one client over one store. What carries over from
call to call is the log of the statements that the store was asked, and
nothing else.
-/

set_option autoImplicit false

namespace ReleaseLag

/-- What can be asked of a client. -/
inductive Call
  | page (r : Request)
  | pageUnless (cancel : Option Nat) (r : Request)
  | pages (r : Request)
  | statement (r : Request)
  deriving DecidableEq

/-- What a call comes to. -/
inductive Answer
  | page (work : Outcome Page)
  | pages (work : Option (Outcome (List Record)))
  | statement (result : Except Error Statement)

/-- The token that an answer gives for the next page, where the answer is a
page. -/
def Answer.token? : Answer → Option (Option Text)
  | page (.after _ (.ok p)) => some p.nextToken
  | _ => none

namespace Client

/-- The answer of a call, and the log after it. A call for all pages gives up
after `limit` of them. -/
def call (c : Client) (store : Store) (limit : Nat) (log : Log) : Call → Answer × Log
  | .page r =>
    let (work, log) := c.page store log r
    (.page work, log)
  | .pageUnless cancel r =>
    let (work, log) := c.pageUnless cancel store log r
    (.page work, log)
  | .pages r =>
    let (work, log) := c.pages store limit log r
    (.pages work, log)
  | .statement r => (.statement (c.statement r), log)

/-- The answers of calls made one after the other, each with the log after
it. -/
def calls (c : Client) (store : Store) (limit : Nat) (log : Log) :
    List Call → List (Answer × Log)
  | [] => []
  | next :: rest =>
    let (answer, log) := c.call store limit log next
    (answer, log) :: calls c store limit log rest

end Client

end ReleaseLag
