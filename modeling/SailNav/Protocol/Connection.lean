import SailNav.Json.Reader
import SailNav.Json.Writer
import SailNav.Protocol.Method
import SailNav.Protocol.Render

/-!
# Connections

A session at the end of a line. Messages come in as JSON values and go out as JSON values, each a
request with a number, a notification without one, or a reply that carries the number of a request.
Behind a connection there is no disk (`SailNav.Disk.empty`): it serves the documents that the editor
has open.
-/

namespace SailNav

/-- A message from the editor. -/
inductive Incoming where
  | request (id : Json) (method : String) (params : Option Json)
  | notification (method : String) (params : Option Json)
  /-- A reply to a question, which may be refused. -/
  | reply (id : Json) (refused : Bool)
  deriving Inhabited

namespace Incoming

def ofJson? (json : Json) : Option Incoming :=
  match json.get? "method", json.get? "id" with
  | some (.str method), some id => some (.request id method (json.get? "params"))
  | some (.str method), none => some (.notification method (json.get? "params"))
  | some _, _ => none
  | none, some id => some (.reply id (json.get? "error").isSome)
  | none, none => none

end Incoming

/-- A message to the editor. -/
inductive Outgoing where
  | answer (id : Json) (result : Except Refusal Answer)
  | notice (notice : Notice)
  | question (id : Nat) (question : Question)

namespace Outgoing

/-- What every message says of itself. -/
def version : String × Json := ("jsonrpc", .str "2.0")

def toJson : Outgoing → Json
  | answer id (.ok a) => .obj [version, ("id", id), ("result", a.toJson)]
  | answer id (.error r) =>
    .obj [version, ("id", id),
      ("error", .obj [("code", .int r.code), ("message", .str r.message)])]
  | notice n => .obj [version, ("method", .str n.method), ("params", n.params)]
  | question id q =>
    .obj [version, ("id", .nat id), ("method", .str q.method), ("params", q.params)]

/-- A message with the length that stands before it on the line. -/
def frame (m : Outgoing) : String :=
  let body := m.toJson.write
  "Content-Length: " ++ toString body.utf8ByteSize ++ "\r\n\r\n" ++ body

end Outgoing

/-- The length that a line before a message announces. -/
def announcedLength? (line : String) : Option Nat :=
  match line.splitOn ":" with
  | [key, value] => if key = "Content-Length" then (Text.trimString value).toNat? else none
  | _ => none

/-- A session with the questions that wait for a reply. -/
structure Connection where
  session : Session
  nextQuestion : Nat
  waiting : Table Nat Question

namespace Connection

/-- A connection before its first message. -/
def fresh (echoesLog : Bool) : Connection := ⟨.fresh echoesLog, 0, .empty⟩

/-- What a connection makes of a message. -/
structure Turn where
  connection : Connection
  outgoing : List Outgoing
  events : List LogEvent

/-- Sends what happens to the editor and to the log, in the order in which it happens. -/
def emit (c : Connection) (effects : List Effect) : Turn :=
  effects.foldl
    (fun t e =>
      match e with
      | .log event => { t with events := t.events ++ [event] }
      | .send n => { t with outgoing := t.outgoing ++ [.notice n] }
      | .ask q =>
        let id := t.connection.nextQuestion
        { t with
          connection :=
            { t.connection with
              nextQuestion := id + 1
              waiting := t.connection.waiting.put id q }
          outgoing := t.outgoing ++ [.question id q] })
    ⟨c, [], []⟩

/-- Takes a reply to a question. A reply to no question means nothing. -/
def replied (c : Connection) (id : Json) (refused : Bool) : Turn :=
  match (id.natOfBits? 64).bind fun n => (c.waiting.get? n).map (n, ·) with
  | none => ⟨c, [], []⟩
  | some (n, q) =>
    ⟨{ c with waiting := c.waiting.erase n }, [],
     q.answered (if refused then some .unknownMethod else none)⟩

/-- Takes a message. -/
def receive (c : Connection) : Incoming → Turn
  | .request id method params =>
    let (session, effects, result) := c.session.receiveRequest .empty method params
    let t := ({ c with session := session } : Connection).emit effects
    { t with outgoing := t.outgoing ++ result.toList.map (.answer id) }
  | .notification method params =>
    let (session, effects) := c.session.receiveNotification .empty method params
    ({ c with session := session } : Connection).emit effects
  | .reply id refused => c.replied id refused

end Connection

end SailNav
