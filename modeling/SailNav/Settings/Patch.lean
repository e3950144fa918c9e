import SailNav.Json.Fields
import SailNav.Settings.Basic

/-!
# Settings from the editor

The editor sends settings as JSON, and not all of them at once. A *patch* holds those that are
given; the others stay as they are. A patch is all or nothing: one field of the wrong type, and
nothing of it counts. A field that is missing or `null` is not given, and fields that are not known
mean nothing.

The settings may stand in a section named `sail-analyzer` or by themselves. Both are tried, and what
the section gives goes over what stands outside.
-/

namespace SailNav

/-- The settings that are given. -/
structure SettingsPatch where
  enabled : Option Bool
  concurrency : Option Nat
  maxFileSizeKb : Option Nat
  excludePaths : Option (List String)
  candidates : Option CandidatePolicy
  lexical : Option Bool
  level : Option LogLevel
  deriving DecidableEq, Repr, Inhabited

namespace SettingsPatch

/-! ### Reading -/

def policy? (json : Json) : Option CandidatePolicy :=
  match json.choice? with
  | some "first" => some .first
  | some "all" => some .all
  | _ => none

def level? (json : Json) : Option LogLevel := do
  let name ← json.choice?
  LogLevel.all.find? fun level => level.settingName == name

/-- The patch that a JSON value gives, unless something in it has the wrong type. -/
def ofJson? (json : Json) : Option SettingsPatch := do
  let root ← json.members?
  let indexing := (← root.optionalField? Json.members? "indexing").getD .null
  let navigation := (← root.optionalField? Json.members? "navigation").getD .null
  let diagnostics := (← root.optionalField? Json.members? "diagnostics").getD .null
  let logging := (← root.optionalField? Json.members? "logging").getD .null
  return {
    enabled := ← indexing.optionalField? Json.bool? "enabled"
    concurrency := ← indexing.optionalField? (Json.natOfBits? 64) "concurrency"
    maxFileSizeKb := ← indexing.optionalField? (Json.natOfBits? 64) "maxFileSizeKb"
    excludePaths := ← indexing.optionalField? (Json.listOf? Json.str?) "excludePaths"
    candidates := ← navigation.optionalField? policy? "candidates"
    lexical := ← diagnostics.optionalField? Json.bool? "lexical"
    level := ← logging.optionalField? level? "level" }

/-! ### Applying -/

/-- The settings with those of a patch in their place. -/
def apply (p : SettingsPatch) (s : Settings) : Settings where
  indexing :=
    { enabled := p.enabled.getD s.indexing.enabled
      concurrency := p.concurrency.getD s.indexing.concurrency
      maxFileSizeKb := p.maxFileSizeKb.getD s.indexing.maxFileSizeKb
      excludePaths := p.excludePaths.getD s.indexing.excludePaths }
  candidates := p.candidates.getD s.candidates
  lexical := p.lexical.getD s.lexical
  level := p.level.getD s.level

end SettingsPatch

namespace Settings

/-- The section under which the settings may stand. -/
def sectionKey : String := "sail-analyzer"

/-- The JSON values that may hold settings, in the order in which they count. -/
def patchSources (payload : Json) : List Json := payload :: (payload.get? sectionKey).toList

/-- The settings with what the editor sends in its place. -/
def merge (s : Settings) (payload : Json) : Settings :=
  let patches := (patchSources payload).filterMap SettingsPatch.ofJson?
  (patches.foldl (fun s p => p.apply s) s).normalize

/-- The settings at the start, by what the editor sends with its first request. -/
def ofPayload (payload : Option Json) : Settings :=
  match payload with
  | some payload => initial.merge payload
  | none => initial

end Settings

end SailNav
