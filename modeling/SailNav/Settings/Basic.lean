import SailNav.Analysis.Navigate
import SailNav.Text.Blank

/-!
# Settings

What the user can set, and the *normal form* of settings: numbers within their bounds, and a list of
excluded paths without blanks around a path, without empty paths and without repetition. Settings
come from the editor piece by piece (`SailNav.SettingsPatch`), and are brought into normal form
each time.
-/

namespace SailNav

/-- How much is logged. -/
inductive LogLevel where
  | error
  | warn
  | info
  | debug
  | trace
  deriving DecidableEq, Repr, Inhabited

namespace LogLevel

/-- Every level, from the least to the most talkative. -/
def all : List LogLevel := [error, warn, info, debug, trace]

/-- The level by its name in the settings. -/
def settingName : LogLevel → String
  | error => "error"
  | warn => "warn"
  | info => "info"
  | debug => "debug"
  | trace => "trace"

/-- Whether messages of the level `info` are wanted. -/
def allowsInfo : LogLevel → Bool
  | error | warn => false
  | info | debug | trace => true

end LogLevel

/-- The settings of workspace scans. -/
structure IndexingSettings where
  enabled : Bool
  /-- How many files are read at a time. -/
  concurrency : Nat
  maxFileSizeKb : Nat
  excludePaths : List String
  deriving DecidableEq, Repr, Inhabited

namespace IndexingSettings

/-- A number brought within bounds. -/
def clamp (low high n : Nat) : Nat := max low (min n high)

/-- A list without repetition, the first of equal elements staying. -/
def distinct (paths : List String) : List String :=
  (paths.foldl (fun seen p => if p ∈ seen then seen else p :: seen) []).reverse

/-- The normal form of a list of excluded paths. -/
def normalPaths (paths : List String) : List String :=
  distinct ((paths.map Text.trimString).filter fun p => !p.isEmpty)

/-- The normal form of the settings. -/
def normalize (s : IndexingSettings) : IndexingSettings where
  enabled := s.enabled
  concurrency := clamp 1 32 s.concurrency
  maxFileSizeKb := clamp 16 65536 s.maxFileSizeKb
  excludePaths := normalPaths s.excludePaths

/-- A number as far as 64 bits go: what is above the greatest such number is taken off. -/
def saturated (n : Nat) : Nat := n - (n - 0xFFFFFFFFFFFFFFFF)

/-- The greatest size of a file that is read, in bytes. -/
def maxFileSizeBytes (s : IndexingSettings) : Nat := saturated (s.maxFileSizeKb * 1024)

/-- What holds as long as nothing is set. -/
def initial : IndexingSettings := ⟨true, 4, 1024, []⟩

end IndexingSettings

/-- What the user can set. -/
structure Settings where
  indexing : IndexingSettings
  candidates : CandidatePolicy
  /-- Whether the faults of a text are shown in the editor. -/
  lexical : Bool
  level : LogLevel
  deriving DecidableEq, Repr, Inhabited

namespace Settings

/-- The normal form of settings. -/
def normalize (s : Settings) : Settings := { s with indexing := s.indexing.normalize }

/-- What holds as long as nothing is set. -/
def initial : Settings := ⟨.initial, .first, true, .info⟩

end Settings

end SailNav
