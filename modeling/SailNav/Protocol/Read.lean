import SailNav.Json.Fields
import SailNav.Protocol.Capabilities
import SailNav.Session.Request
import SailNav.Url.Parse

/-!
# Messages from JSON

How the messages of the language server protocol are read. A message with one field of the wrong
type cannot be read at all.
-/

namespace SailNav

/-! ### Places -/

namespace Url

def ofJson? (json : Json) : Option Url := json.str?.bind parse?

/-- The URL of a document, in a structure of its own. -/
def ofDocument? (json : Json) : Option Url := do (← json.record? ["uri"]).field? ofJson? "uri"

end Url

namespace Position

def ofJson? (json : Json) : Option Position := do
  let json ← json.record? ["line", "character"]
  let line ← json.field? (Json.natOfBits? 32) "line"
  return ⟨line, ← json.field? (Json.natOfBits? 32) "character"⟩

end Position

namespace Range

def ofJson? (json : Json) : Option Range := do
  let json ← json.record? ["start", "end"]
  return ⟨← json.field? Position.ofJson? "start", ← json.field? Position.ofJson? "end"⟩

end Range

namespace Edit

def ofJson? (json : Json) : Option Edit := do
  let json ← json.record? ["range", "rangeLength", "text"]
  let range ← json.optionalField? Range.ofJson? "range"
  let _ ← json.optionalField? (Json.natOfBits? 32) "rangeLength"
  return ⟨range, ← json.field? Json.str? "text"⟩

end Edit

/-! ### The workspace -/

namespace WorkspaceFolder

def ofJson? (json : Json) : Option WorkspaceFolder := do
  let json ← json.record? ["uri", "name"]
  return ⟨← json.field? Url.ofJson? "uri", ← json.field? Json.str? "name"⟩

end WorkspaceFolder

namespace Session.FileChange

/-- The number of a deletion among the kinds of changes. -/
def deletion : Int := 3

def ofJson? (json : Json) : Option FileChange := do
  let json ← json.record? ["uri", "type"]
  return ⟨← json.field? Url.ofJson? "uri", (← json.field? Json.int32? "type") == deletion⟩

end Session.FileChange

namespace Introduction

/-- A program that is named, perhaps with its version. -/
def program? (json : Json) : Option Unit := do
  let json ← json.record? ["name", "version"]
  let _ ← json.field? Json.str? "name"
  let _ ← json.optionalField? Json.str? "version"

/-- How much the editor wants to be told of what is going on. -/
def trace? (json : Json) : Option Unit := do
  if (← json.choice?) ∈ ["off", "messages", "verbose"] then some () else none

/-- What an editor says of itself, field by field. -/
def fields : List String :=
  ["processId", "rootPath", "rootUri", "initializationOptions", "capabilities", "trace",
   "workspaceFolders", "clientInfo", "locale"]

/-- An editor without a list of folders may have one folder, the root. -/
def ofJson? (json : Json) : Option Introduction := do
  let json ← json.record? fields
  let _ ← json.optionalField? (Json.natOfBits? 32) "processId"
  let _ ← json.optionalField? Json.str? "rootPath"
  let root ← json.optionalField? Url.ofJson? "rootUri"
  let capabilities ← json.get? "capabilities"
  guard (Capabilities.shape capabilities)
  let _ ← json.optionalField? trace? "trace"
  let folders ← json.optionalField? (Json.listOf? WorkspaceFolder.ofJson?) "workspaceFolders"
  let _ ← json.optionalField? program? "clientInfo"
  let _ ← json.optionalField? Json.str? "locale"
  let rootFolders := root.toList.map fun u => ⟨u, "root"⟩
  return ⟨folders.getD rootFolders, json.given? "initializationOptions",
    Capabilities.watchesFiles capabilities⟩

end Introduction

/-! ### Requests -/

namespace Request

/-- The name of a piece of work that the editor has begun: a number or a text. -/
def token? (json : Json) : Option Unit :=
  if json.str?.isSome || json.int32?.isSome then some () else none

/-- The parameters of a request that may be long work. -/
def work? (json : Json) : Option Json := do
  let json ← json.members?
  let _ ← json.optionalField? token? "workDoneToken"
  let _ ← json.optionalField? token? "partialResultToken"
  return json

def definition? (json : Json) : Option Request := do
  let json ← work? json
  return .definition (← json.field? Url.ofDocument? "textDocument")
    (← json.field? Position.ofJson? "position")

def documentSymbols? (json : Json) : Option Request := do
  return .documentSymbols (← (← work? json).field? Url.ofDocument? "textDocument")

def workspaceSymbols? (json : Json) : Option Request := do
  return .workspaceSymbols (← (← work? json).field? Json.str? "query")

end Request

/-! ### Notifications -/

namespace Notification

def opened? (json : Json) : Option Notification := do
  let json ← json.record? ["textDocument"]
  let document ←
    json.field? (Json.record? ["uri", "languageId", "version", "text"]) "textDocument"
  let _ ← document.field? Json.str? "languageId"
  return .opened (← document.field? Url.ofJson? "uri") (← document.field? Json.str? "text")
    (← document.field? Json.int32? "version")

def changed? (json : Json) : Option Notification := do
  let json ← json.record? ["textDocument", "contentChanges"]
  let document ← json.field? (Json.record? ["uri", "version"]) "textDocument"
  return .changed (← document.field? Url.ofJson? "uri")
    (← json.field? (Json.listOf? Edit.ofJson?) "contentChanges")
    (← document.field? Json.int32? "version")

def saved? (json : Json) : Option Notification := do
  let json ← json.record? ["textDocument", "text"]
  let _ ← json.optionalField? Json.str? "text"
  return .saved (← json.field? Url.ofDocument? "textDocument")

def closed? (json : Json) : Option Notification := do
  let json ← json.record? ["textDocument"]
  return .closed (← json.field? Url.ofDocument? "textDocument")

def configured? (json : Json) : Option Notification := do
  return .configured (← (← json.record? ["settings"]).get? "settings")

def foldersChanged? (json : Json) : Option Notification := do
  let json ← json.record? ["event"]
  let event ← json.field? (Json.record? ["added", "removed"]) "event"
  return .foldersChanged (← event.field? (Json.listOf? WorkspaceFolder.ofJson?) "added")
    (← event.field? (Json.listOf? WorkspaceFolder.ofJson?) "removed")

def filesChanged? (json : Json) : Option Notification := do
  let json ← json.record? ["changes"]
  return .filesChanged (← json.field? (Json.listOf? Session.FileChange.ofJson?) "changes")

/-- A notification by its method and its parameters. -/
def ofJson? (method : String) (params : Json) : Option Notification :=
  match method with
  | "initialized" => (params.record? []).map fun _ => .initialized
  | "textDocument/didOpen" => opened? params
  | "textDocument/didChange" => changed? params
  | "textDocument/didSave" => saved? params
  | "textDocument/didClose" => closed? params
  | "workspace/didChangeConfiguration" => configured? params
  | "workspace/didChangeWorkspaceFolders" => foldersChanged? params
  | "workspace/didChangeWatchedFiles" => filesChanged? params
  | _ => none

end Notification

end SailNav
