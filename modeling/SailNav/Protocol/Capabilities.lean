import SailNav.Json.Shape

/-!
# What an editor can do

An editor describes itself when a session begins. Hardly any of it matters to this library, but a
description that does not have the right shape (`SailNav.Capabilities.shape`) is refused. What does
matter is whether the editor tells of changes on the disk (`SailNav.Capabilities.watchesFiles`).
-/

namespace SailNav

namespace Capabilities

open Shape

/-! ### Parts -/

/-- Flags that need not be given. -/
def flags (keys : List String) : Shape := record (optionals keys truth)

/-- Whether a feature may be switched on and off. -/
def switched : Shape := flags ["dynamicRegistration"]

/-- A record of the values that are known, in a list that has to be given. -/
def known (key : String) (item : Shape) : Shape := record [required key (listOf item)]

/-- A record of the values that are known, in a list that need not be given. -/
def perhapsKnown (item : Shape) : Shape := record [optional "valueSet" (listOf item)]

/-- The tags that are known, or only whether there are some. -/
def tags : Field := defaulted "tagSupport" (either null (either truth (known "valueSet" int32)))

def markup : Shape := choice ["plaintext", "markdown"]

def refresh : Shape := flags ["refreshSupport"]

/-! ### The workspace -/

def workspaceFields : List String :=
  ["applyEdit", "workspaceEdit", "didChangeConfiguration", "didChangeWatchedFiles", "symbol",
   "executeCommand", "workspaceFolders", "configuration", "semanticTokens", "codeLens",
   "fileOperations", "inlineValue", "inlayHint", "diagnostic"]

def workspaceEdit : Shape :=
  record
    [optional "documentChanges" truth,
     optional "resourceOperations" (listOf (choice ["create", "rename", "delete"])),
     optional "failureHandling"
       (choice ["abort", "transactional", "textOnlyTransactional", "undo"]),
     optional "normalizesLineEndings" truth,
     optional "changeAnnotationSupport" (flags ["groupsOnLabel"])]

def workspaceSymbol : Shape :=
  record
    [optional "dynamicRegistration" truth, optional "symbolKind" (perhapsKnown int32), tags,
     optional "resolveSupport" (known "properties" text)]

def watchingFields : List String := ["dynamicRegistration", "relativePatternSupport"]

def workspace : Shape :=
  record (workspaceFields.zipWith optional
    [truth, workspaceEdit, switched, flags watchingFields, workspaceSymbol, switched, truth, truth,
     refresh, refresh,
     flags
       ["dynamicRegistration", "didCreate", "willCreate", "didRename", "willRename", "didDelete",
        "willDelete"],
     refresh, refresh, refresh])

/-! ### Documents -/

def completion : Shape :=
  record
    [optional "dynamicRegistration" truth,
     optional "completionItem"
       (record
         [optional "snippetSupport" truth, optional "commitCharactersSupport" truth,
          optional "documentationFormat" (listOf markup), optional "deprecatedSupport" truth,
          optional "preselectSupport" truth, tags, optional "insertReplaceSupport" truth,
          optional "resolveSupport" (known "properties" text),
          optional "insertTextModeSupport" (known "valueSet" int32),
          optional "labelDetailsSupport" truth]),
     optional "completionItemKind" (perhapsKnown int32), optional "contextSupport" truth,
     optional "insertTextMode" int32,
     optional "completionList" (record [optional "itemDefaults" (listOf text)])]

def signatureHelp : Shape :=
  record
    [optional "dynamicRegistration" truth,
     optional "signatureInformation"
       (record
         [optional "documentationFormat" (listOf markup),
          optional "parameterInformation" (flags ["labelOffsetSupport"]),
          optional "activeParameterSupport" truth]),
     optional "contextSupport" truth]

def documentSymbol : Shape :=
  record
    [optional "dynamicRegistration" truth, optional "symbolKind" (perhapsKnown int32),
     optional "hierarchicalDocumentSymbolSupport" truth, tags]

def codeAction : Shape :=
  record
    [optional "dynamicRegistration" truth,
     optional "codeActionLiteralSupport"
       (record [required "codeActionKind" (known "valueSet" text)]),
     optional "isPreferredSupport" truth, optional "disabledSupport" truth,
     optional "dataSupport" truth, optional "resolveSupport" (known "properties" text),
     optional "honorsChangeAnnotations" truth]

def rename : Shape :=
  record
    [optional "dynamicRegistration" truth, optional "prepareSupport" truth,
     optional "prepareSupportDefaultBehavior" int32, optional "honorsChangeAnnotations" truth]

def publishDiagnostics : Shape :=
  record
    [optional "relatedInformation" truth, tags, optional "versionSupport" truth,
     optional "codeDescriptionSupport" truth, optional "dataSupport" truth]

def foldingRange : Shape :=
  record
    [optional "dynamicRegistration" truth, optional "rangeLimit" nat32,
     optional "lineFoldingOnly" truth,
     optional "foldingRangeKind" (perhapsKnown (choice ["comment", "imports", "region"])),
     optional "foldingRange" (flags ["collapsedText"])]

def semanticTokens : Shape :=
  record
    [optional "dynamicRegistration" truth,
     required "requests"
       (record
         [optional "range" truth,
          optional "full" (either truth (object [optional "delta" truth]))]),
     required "tokenTypes" (listOf text), required "tokenModifiers" (listOf text),
     required "formats" (listOf text), optional "overlappingTokenSupport" truth,
     optional "multilineTokenSupport" truth, optional "serverCancelSupport" truth,
     optional "augmentsSyntaxTokens" truth]

def textDocument : Shape :=
  let linked := flags ["dynamicRegistration", "linkSupport"]
  record
    [optional "synchronization"
       (flags ["dynamicRegistration", "willSave", "willSaveWaitUntil", "didSave"]),
     optional "completion" completion,
     optional "hover"
       (record
         [optional "dynamicRegistration" truth, optional "contentFormat" (listOf markup)]),
     optional "signatureHelp" signatureHelp, optional "references" switched,
     optional "documentHighlight" switched, optional "documentSymbol" documentSymbol,
     optional "formatting" switched, optional "rangeFormatting" switched,
     optional "onTypeFormatting" switched, optional "declaration" linked,
     optional "definition" linked, optional "typeDefinition" linked,
     optional "implementation" linked, optional "codeAction" codeAction,
     optional "codeLens" switched,
     optional "documentLink" (flags ["dynamicRegistration", "tooltipSupport"]),
     optional "colorProvider" switched, optional "rename" rename,
     optional "publishDiagnostics" publishDiagnostics, optional "foldingRange" foldingRange,
     optional "selectionRange" switched, optional "linkedEditingRange" switched,
     optional "callHierarchy" switched, optional "semanticTokens" semanticTokens,
     optional "moniker" switched, optional "typeHierarchy" switched,
     optional "inlineValue" switched,
     optional "inlayHint"
       (record
         [optional "dynamicRegistration" truth,
          optional "resolveSupport" (known "properties" text)]),
     optional "diagnostic" (flags ["dynamicRegistration", "relatedDocumentSupport"])]

/-! ### The window and the rest -/

def window : Shape :=
  record
    [optional "workDoneProgress" truth,
     optional "showMessage"
       (record [optional "messageActionItem" (flags ["additionalPropertiesSupport"])]),
     optional "showDocument" (record [required "support" truth])]

def general : Shape :=
  record
    [optional "regularExpressions" (record [required "engine" text, optional "version" text]),
     optional "markdown"
       (record
         [required "parser" text, optional "version" text,
          optional "allowedTags" (listOf text)]),
     optional "staleRequestSupport"
       (record [required "cancel" truth, required "retryOnContentModified" (listOf text)]),
     optional "positionEncodings" (listOf text)]

def fields : List String := ["workspace", "textDocument", "window", "general", "experimental"]

/-- The shape of what an editor says of itself. -/
def shape : Shape :=
  record (fields.zipWith optional [workspace, textDocument, window, general, anything])

/-- Whether an editor is willing to tell of changes on the disk. -/
def watchesFiles (capabilities : Json) : Bool :=
  let part? (keys : List String) (key : String) (json : Json) : Option Json :=
    (json.record? keys).bind (·.given? key)
  let willing := do
    let workspace ← part? fields "workspace" capabilities
    let watching ← part? workspaceFields "didChangeWatchedFiles" workspace
    (← part? watchingFields "dynamicRegistration" watching).bool?
  willing.getD false

end Capabilities

end SailNav
