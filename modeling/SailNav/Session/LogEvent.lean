import SailNav.Analysis.Navigate
import SailNav.Progress.Token
import SailNav.Session.Refusal
import SailNav.Settings.Basic
import SailNav.Text.Quoted
import SailNav.Workspace.Load

/-!
# The log

What is worth a line in the log, each event with its level and its wording. Lines and columns are
counted from one here, and in 32 bits.
-/

namespace SailNav

/-- Something that is logged. -/
inductive LogEvent where
  -- The session.
  | initializing
  | initialized
  | shuttingDown
  | settingsApplied
  | watcherRegistered
  | watcherRefused (cause : Refusal)
  -- The workspace.
  | scanDisabled
  | nothingToScan
  | fileTooLarge (size : Nat) (path : Path)
  | scanBegun (files : Nat)
  | scanFailed (path : Path) (cause : LoadError)
  | scanEnded (indexed skipped sites files : Nat)
  | foldersRemoved (folders files : Nat)
  | deletionNoticed (path : Path)
  | reloaded (path : Path) (definitions : Nat)
  | unloaded (path : Path) (cause : LoadError)
  -- Documents.
  | opened (name : String) (version : Int) (bytes definitions : Nat)
  | changed (name : String) (version : Int) (definitions : Nat)
  | changedUnopened (url : Url)
  | saved (name : String)
  | closed (name : String)
  | diagnosed (count : Nat) (url : Url)
  | nothingToDiagnose (url : Url)
  -- Requests.
  | definitionUntracked (name : String)
  | definitionOutside (name : String) (position : Position)
  | definitionFound (name : String) (position : Position) (destination : Destination)
  | candidates (count : Nat) (text : String) (policy : CandidatePolicy)
  | symbolsFound (query : String) (count : Nat)
  -- Progress.
  | progressBegun (token : ProgressToken)
  | progressEnded (token : ProgressToken)
  | progressCancelled (token : ProgressToken)
  | progressRefused (cause : Refusal)
  deriving DecidableEq, Repr, Inhabited

namespace LogEvent

def level : LogEvent → LogLevel
  | initializing | initialized | shuttingDown | settingsApplied | scanDisabled | nothingToScan
  | scanBegun _ | scanEnded _ _ _ _ | foldersRemoved _ _ | opened _ _ _ _ => .info
  | watcherRefused _ | scanFailed _ _ | changedUnopened _ => .warn
  | candidates _ _ _ => .trace
  | watcherRegistered | fileTooLarge _ _ | deletionNoticed _ | reloaded _ _ | unloaded _ _
  | changed _ _ _ | saved _ | closed _ | diagnosed _ _ | nothingToDiagnose _
  | definitionUntracked _ | definitionOutside _ _ | definitionFound _ _ _ | symbolsFound _ _
  | progressBegun _ | progressEnded _ | progressCancelled _ | progressRefused _ => .debug

/-! ### Wording -/

/-- A line or column as people count it. -/
def ordinal (n : Nat) : String := toString ((n + 1) % 0x100000000)

/-- A position in a document that goes by a name. -/
def place (name : String) (p : Position) : String :=
  name ++ ":" ++ ordinal p.line ++ ":" ++ ordinal p.column

/-- Where a definition was found. -/
def destinationText : Destination → String
  | .nowhere => "none"
  | .one place => place.url.shortName ++ ":" ++ ordinal place.range.start.line
  | .several places => toString places.length ++ " locations"

def policyText : CandidatePolicy → String
  | .first => "First"
  | .all => "All"

/-- The token of a piece of work. -/
def tokenText (t : ProgressToken) : String := "String(" ++ Text.quote t.text ++ ")"

def message : LogEvent → String
  | initializing => "Initializing sail-analyzer..."
  | initialized => "sail-analyzer initialized"
  | shuttingDown => "Shutting down sail-analyzer"
  | settingsApplied => "Applied updated sail-analyzer settings"
  | watcherRegistered => "Registered watcher for **/*.sail"
  | watcherRefused cause => "Client rejected file watcher registration: " ++ cause.text
  | scanDisabled =>
    "Skipping workspace scan because sail-analyzer.indexing.enabled=false"
  | nothingToScan => "No .sail files found in workspace"
  | fileTooLarge size path =>
    "Skipping large workspace file (" ++ toString size ++ " bytes): " ++ path.display
  | scanBegun files => "Indexing " ++ toString files ++ " .sail file(s) in workspace…"
  | scanFailed path cause => "Failed to index " ++ path.display ++ ": " ++ cause.message
  | scanEnded indexed skipped sites files =>
    "Workspace index complete: " ++ toString indexed ++ " file(s) indexed, " ++ toString skipped ++
      " open file(s) skipped, " ++ toString sites ++ " definition(s) across " ++ toString files ++
      " file(s)"
  | foldersRemoved folders files =>
    "Removed " ++ toString folders ++ " workspace folder(s), dropped " ++ toString files ++
      " file(s)"
  | deletionNoticed path => "Dropped deleted file " ++ path.display
  | reloaded path definitions =>
    "Re-indexed " ++ path.display ++ " from disk (" ++ toString definitions ++ " definitions)"
  | unloaded path cause => "Dropping " ++ path.display ++ " from the index: " ++ cause.message
  | opened name version bytes definitions =>
    "Opened " ++ name ++ " (v" ++ toString version ++ ", " ++ toString bytes ++ " bytes, " ++
      toString definitions ++ " definitions)"
  | changed name version definitions =>
    "Re-indexed " ++ name ++ " (v" ++ toString version ++ ", " ++ toString definitions ++
      " definitions)"
  | changedUnopened url => "Change for unopened document " ++ url.text
  | saved name => "Saved " ++ name
  | closed name => "Closed " ++ name
  | diagnosed count url =>
    "Publishing " ++ toString count ++ " diagnostic(s) for " ++ url.text
  | nothingToDiagnose url => "No snapshot to diagnose for " ++ url.text
  | definitionUntracked name => "goto-def " ++ name ++ ": file is not tracked"
  | definitionOutside name position =>
    "goto-def " ++ place name position ++ " is outside the document"
  | definitionFound name position destination =>
    "goto-def " ++ place name position ++ " → " ++ destinationText destination
  | candidates count text policy =>
    "[resolve] " ++ toString count ++ " candidates for '" ++ text ++ "', policy=" ++
      policyText policy
  | symbolsFound query count =>
    "[workspace-symbols] '" ++ query ++ "' → " ++ toString count ++ " hit(s)"
  | progressBegun token => "progress begin: " ++ token.displayTitle
  | progressEnded token => "progress end: " ++ tokenText token
  | progressCancelled token => "progress cancelled (drop): " ++ tokenText token
  | progressRefused cause => "workDoneProgress/create rejected: " ++ cause.text

/-- The name of a level in the log. -/
def levelText : LogLevel → String
  | .error => "ERROR"
  | .warn => "WARN"
  | .info => "INFO"
  | .debug => "DEBUG"
  | .trace => "TRACE"

/-- The line of the log. -/
def line (e : LogEvent) : String := levelText e.level ++ " " ++ e.message

end LogEvent

end SailNav
