import SailNav.Session.Request

/-!
# Messages as JSON

How the answers to an editor, the notices and the questions to it are written in the language server
protocol. What is absent is left out.
-/

namespace SailNav

open Json (object nat)

/-! ### Places and symbols -/

namespace Position

def toJson (p : Position) : Json := .obj [("line", nat p.line), ("character", nat p.column)]

end Position

namespace Range

def toJson (r : Range) : Json := .obj [("start", r.start.toJson), ("end", r.stop.toJson)]

end Range

namespace DocumentRange

def toJson (p : DocumentRange) : Json := .obj [("uri", .str p.url.text), ("range", p.range.toJson)]

end DocumentRange

namespace Destination

def toJson : Destination → Json
  | nowhere => .null
  | one place => place.toJson
  | several places => .arr (places.map DocumentRange.toJson)

end Destination

namespace Symbol

def toJson (s : Symbol) : Json :=
  .obj
    [("name", .str s.name),
     ("kind", nat s.kind.symbolNumber),
     ("location", s.place.toJson),
     ("containerName", .str s.kind.text)]

end Symbol

/-! ### Notices -/

namespace Diagnostic

/-- The number of a warning among the degrees of faults. -/
def severity : Nat := 2

def toJson (f : Diagnostic) : Json :=
  .obj
    [("range", f.range.toJson),
     ("severity", nat severity),
     ("source", .str "sail-analyzer"),
     ("message", .str f.message)]

end Diagnostic

namespace ProgressValue

def toJson : ProgressValue → Json
  | begun title message =>
    object
      [("kind", some (.str "begin")),
       ("title", some (.str title)),
       ("cancellable", some (.bool false)),
       ("message", message.map .str),
       ("percentage", some (nat 0))]
  | report message percentage =>
    object
      [("kind", some (.str "report")),
       ("cancellable", some (.bool false)),
       ("message", message.map .str),
       ("percentage", percentage.map nat)]
  | ended message => object [("kind", some (.str "end")), ("message", message.map .str)]

end ProgressValue

namespace Notice

def method : Notice → String
  | diagnostics _ _ _ => "textDocument/publishDiagnostics"
  | progress _ _ => "$/progress"
  | logged _ => "window/logMessage"

/-- The number of a line that merely informs, among the degrees of lines. -/
def infoType : Nat := 3

def params : Notice → Json
  | diagnostics url faults version =>
    object
      [("uri", some (.str url.text)),
       ("diagnostics", some (.arr (faults.map Diagnostic.toJson))),
       ("version", version.map .int)]
  | progress token value => .obj [("token", .str token.text), ("value", value.toJson)]
  | logged message => .obj [("type", nat infoType), ("message", .str message)]

end Notice

/-! ### Questions -/

namespace Question

def method : Question → String
  | registerWatcher => "client/registerCapability"
  | createProgress _ => "window/workDoneProgress/create"

/-- That the editor tells of every source file. -/
def watcherParams : Json :=
  .obj [("registrations", .arr [.obj
    [("id", .str "sail-analyzer/watched-files"),
     ("method", .str "workspace/didChangeWatchedFiles"),
     ("registerOptions",
      .obj [("watchers", .arr [.obj [("globPattern", .str "**/*.sail")]])])]])]

def params : Question → Json
  | registerWatcher => watcherParams
  | createProgress token => .obj [("token", .str token.text)]

end Question

/-! ### Answers -/

namespace Answer

/-- What the session can do: it takes documents and their changes bit by bit, finds definitions and
symbols, and follows changes of the workspace. -/
def abilitiesJson : Json :=
  .obj
    [("capabilities", .obj
      [("textDocumentSync",
        .obj [("openClose", .bool true), ("change", nat 2), ("save", .bool true)]),
       ("definitionProvider", .bool true),
       ("documentSymbolProvider", .bool true),
       ("workspaceSymbolProvider", .bool true),
       ("workspace", .obj [("workspaceFolders",
        .obj [("supported", .bool true), ("changeNotifications", .bool true)])])]),
     ("serverInfo", .obj [("name", .str "sail-analyzer"), ("version", .str "0.1.0")])]

def toJson : Answer → Json
  | nothing => .null
  | abilities => abilitiesJson
  | destination place => place.toJson
  | symbols found => .arr (found.map Symbol.toJson)

end Answer

end SailNav
