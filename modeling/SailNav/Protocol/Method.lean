import SailNav.Protocol.Parameters

/-!
# The methods of the protocol

What the name of a request stands for. Besides the requests that are answered there are those that
the protocol knows and this library does not answer; they are refused as if they were unknown, but
only when their parameters make sense, and only in a session that has begun.

A name that starts with `$/` is a remark, which may be overlooked. So a request with such a name has
no answer at all, like every request that comes with or after the exit.
-/

namespace SailNav

/-- What the name of a request stands for. -/
inductive Method where
  | introduce
  | shutdown
  | definition
  | documentSymbols
  | workspaceSymbols
  /-- A request that is known and not answered. -/
  | unanswered (name : String)
  /-- The name of a notification, which cannot be a request. -/
  | notification
  /-- Giving up a request, which cannot be a request itself. -/
  | cancel
  /-- The end of everything. -/
  | exit
  /-- A name that is not known and may be overlooked. -/
  | remark
  | unknown
  deriving DecidableEq, Repr, Inhabited

namespace Method

/-! ### Names -/

/-- The names of notifications that a session hears only after it has begun. -/
def notifications : List String :=
  ["initialized", "textDocument/didOpen", "textDocument/didChange", "textDocument/willSave",
   "textDocument/didSave", "textDocument/didClose", "workspace/didChangeConfiguration",
   "workspace/didChangeWorkspaceFolders", "workspace/didChangeWatchedFiles",
   "workspace/didCreateFiles", "workspace/didRenameFiles", "workspace/didDeleteFiles"]

def ofName (name : String) : Method :=
  match name with
  | "initialize" => introduce
  | "shutdown" => shutdown
  | "textDocument/definition" => definition
  | "textDocument/documentSymbol" => documentSymbols
  | "workspace/symbol" => workspaceSymbols
  | "$/cancelRequest" => cancel
  | "exit" => exit
  | name =>
    if name ∈ notifications then notification
    else if (Parameters.shapeOf? name).isSome then unanswered name
    else if name.startsWith "$/" then remark
    else unknown

/-! ### When a request comes -/

/-- Whether a request has no answer, not even a refusal. -/
def isUnheard (m : Method) (phase : Phase) : Bool :=
  phase = .exited || m = exit || m = remark

/-- Why a session does not take a request, if it does not. -/
def refusedIn? (m : Method) (phase : Phase) : Option Refusal :=
  match m, phase with
  | unknown, _ => some .unknownMethod
  | cancel, _ => some .invalidRequest
  | introduce, .uninitialized => none
  | _, .uninitialized => some .notInitialized
  | introduce, _ | notification, _ => some .invalidRequest
  | _, .initialized => none
  | _, _ => some .invalidRequest

/-! ### What a request asks for -/

/-- The request, by its method and parameters. -/
def request (m : Method) (params : Option Json) : Except Refusal Request :=
  let read (ofJson? : Json → Option Request) : Except Refusal Request :=
    match params.bind ofJson? with
    | some r => .ok r
    | none => .error .invalidParams
  match m with
  | introduce => read fun json => (Introduction.ofJson? json).map .introduce
  | shutdown => if params.isNone then .ok .shutdown else .error .invalidParams
  | definition => read Request.definition?
  | documentSymbols => read Request.documentSymbols?
  | workspaceSymbols => read Request.workspaceSymbols?
  | unanswered name =>
    let fits := (Parameters.shapeOf? name).any fun shape => params.any shape
    .error (if fits then .unknownMethod else .invalidParams)
  | notification | cancel | exit => .error .invalidRequest
  | remark | unknown => .error .unknownMethod

end Method

namespace Session

/-! ### Messages -/

/-- The session after a request that cannot be read. A request to shut down counts even so. -/
def afterUnread (s : Session) (m : Method) : Session :=
  if m = .shutdown then { s with phase := .shutDown } else s

/-- The session after a request, what happens, and the answer, unless there is none. -/
def receiveRequest (s : Session) (d : Disk) (name : String) (params : Option Json) :
    Session × List Effect × Option (Except Refusal Answer) :=
  let m := Method.ofName name
  if m.isUnheard s.phase then (if m = .exit then { s with phase := .exited } else s, [], none)
  else
    match m.refusedIn? s.phase with
    | some r => (s, [], some (.error r))
    | none =>
      match m.request params with
      | .error r => (s.afterUnread m, [], some (.error r))
      | .ok r =>
        let (s, effects, answer) := s.perform d r
        (s, effects, some (.ok answer))

/-- The session after a notification, and what happens. The exit is heard at any time. Any other
notification that cannot be read, or that comes before or after the session, means nothing; a
request sent as a notification is not answered, and only shutting down has an effect then. -/
def receiveNotification (s : Session) (d : Disk) (name : String) (params : Option Json) :
    Session × List Effect :=
  if name = "exit" then ({ s with phase := .exited }, [])
  else if s.phase ≠ .initialized then (s, [])
  else if name = "shutdown" then ({ s with phase := .shutDown }, [])
  else
    match params.bind (Notification.ofJson? name) with
    | some n => s.notice d n
    | none => (s, [])

end Session

end SailNav
