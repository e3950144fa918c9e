import SailNav.Session.Diagnostic
import SailNav.Session.LogEvent

/-!
# What comes of a message

Handling a message from the editor changes the session, and may have effects: lines in the log,
notices to the editor, and questions to it. The effects stand in the order in which they happen.
-/

namespace SailNav

/-- Something that the editor is told. -/
inductive Notice where
  /-- All faults of a document, in place of what was told before. -/
  | diagnostics (url : Url) (faults : List Diagnostic) (version : Option Int)
  | progress (token : ProgressToken) (value : ProgressValue)
  /-- A line for the log that the editor shows. -/
  | logged (message : String)
  deriving DecidableEq, Repr, Inhabited

/-- Something that the editor is asked to do. -/
inductive Question where
  /-- To tell when a source file changes on the disk. -/
  | registerWatcher
  /-- To show a piece of work. -/
  | createProgress (token : ProgressToken)
  deriving DecidableEq, Repr, Inhabited

namespace Question

/-- What is logged when the editor does as it is asked, or refuses. -/
def answered : Question → Option Refusal → List LogEvent
  | registerWatcher, none => [.watcherRegistered]
  | registerWatcher, some cause => [.watcherRefused cause]
  | createProgress _, none => []
  | createProgress _, some cause => [.progressRefused cause]

end Question

/-- Something that happens while a message is handled. -/
inductive Effect where
  | log (event : LogEvent)
  | send (notice : Notice)
  | ask (question : Question)
  deriving DecidableEq, Repr, Inhabited

namespace Effect

def event? : Effect → Option LogEvent
  | log event => some event
  | _ => none

def notice? : Effect → Option Notice
  | send notice => some notice
  | _ => none

def question? : Effect → Option Question
  | ask question => some question
  | _ => none

/-- What is logged of some effects while there is no session: no notice leaves, and every question
is refused in the end. -/
def unheard (effects : List Effect) : List LogEvent :=
  effects.filterMap event? ++
    (effects.filterMap question?).flatMap fun q => q.answered (some .notInitialized)

end Effect

end SailNav
