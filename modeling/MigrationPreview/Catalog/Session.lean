import MigrationPreview.Catalog.Query
import MigrationPreview.Catalog.Reply
import MigrationPreview.Failure

/-!
# Sessions with a database server

A session sends queries to a server over one connection, which is opened when it is first needed and
again after the server has closed it. The server is given by what it answers: so many refused
connections, and the replies to the queries, one after the other, whatever the queries are.

## Main definitions

* `Server`: the state of a session
* `Stop`: why a call ends without a result
* `Session`: calls in a session
* `Session.connect`, `Session.send`, `Session.sendForRow`: the steps of a call
-/

namespace MigrationPreview

/-- The state of a session with a server. -/
structure Server where
  /-- The replies that the server still gives. A query behind the last one fails. -/
  replies : List Reply
  /-- How many connections the server still refuses. -/
  refusals : Nat := 0
  /-- Whether a connection is open. -/
  connected : Bool := false
  /-- How many connections were attempted. -/
  attempts : Nat := 0
  /-- The queries that were sent, the last one first. -/
  sent : List Query := []
  deriving DecidableEq

/-- Why a call ends without a result. -/
inductive Stop where
  | failure (cause : Failure)
  /-- The value in a column cannot be decoded. -/
  | undecodable (column : String)
  deriving DecidableEq

/-- Calls in a session. -/
abbrev Session := ExceptT Stop (StateM Server)

namespace Session

/-- Ends a call with a failure. -/
def fail {α : Type} (cause : Failure) : Session α := throw (.failure cause)

/-- Opens a connection unless one is open. -/
def connect : Session Unit := do
  let server ← get
  if server.connected then return
  match server.refusals with
  | 0 => set { server with connected := true, attempts := server.attempts + 1 }
  | n + 1 =>
    set { server with refusals := n, attempts := server.attempts + 1 }
    fail (.pool "Error occurred while creating a new object: db error")

/-- Sends a query. The failure of a query is made of its message. -/
def send (query : Query) (failure : String → Failure) : Session ResultSet := do
  let server ← get
  -- a query is sent, and uses up a reply, even if it fails
  let server := { server with sent := query :: server.sent, replies := server.replies.drop 1 }
  match (← get).replies with
  | .result found :: _ => set server; return found
  | .closed :: _ =>
    set { server with connected := false }
    fail (failure "connection closed")
  | _ => set server; fail (failure "db error")

/-- Sends a query that has to give exactly one row. -/
def sendForRow (query : Query) (failure : String → Failure) : Session Row := do
  match (← send query failure).toRows with
  | [row] => return row
  | _ => fail (failure "query returned an unexpected number of rows")

/-- The value that was decoded from a column. -/
def decoded {α : Type} (column : String) : Option α → Session α
  | some value => return value
  | none => throw (.undecodable column)

end Session

end MigrationPreview
