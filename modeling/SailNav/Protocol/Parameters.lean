import SailNav.Json.Shape
import SailNav.Protocol.Read

/-!
# Parameters of requests that are not answered

The protocol knows many requests that this library does not answer. It still tells an editor whether
their parameters make sense, so it knows the shapes of them all (`SailNav.Parameters.shapeOf?`).
-/

namespace SailNav

namespace Parameters

open Shape

/-! ### Places and documents -/

def url : Shape := fun json => (Url.ofJson? json).isSome

def position : Shape := fun json => (Position.ofJson? json).isSome

def range : Shape := fun json => (Range.ofJson? json).isSome

def location : Shape := record [required "uri" url, required "range" range]

/-- The identity of a document. -/
def document : Shape := record [required "uri" url]

/-- The name of a piece of work that the editor has begun. -/
def token : Shape := either int32 text

/-- A request that may be long work. -/
def work : List Field := [optional "workDoneToken" token]

/-- A request that may be long work and be answered in parts. -/
def partialWork : List Field := work ++ [optional "partialResultToken" token]

def inDocument : List Field := [required "textDocument" document]

def atPosition : List Field := inDocument ++ [required "position" position]

def inRange : List Field := inDocument ++ [required "range" range]

/-! ### Faults, edits and commands -/

/-- Text as it is shown: plain or with markup. -/
def shownText : Shape :=
  either text
    (record [required "kind" (choice ["plaintext", "markdown"]), required "value" text])

def diagnostic : Shape :=
  record
    [required "range" range, optional "severity" int32, optional "code" token,
     optional "codeDescription" (record [required "href" url]), optional "source" text,
     required "message" text,
     optional "relatedInformation"
       (listOf (record [required "location" location, required "message" text])),
     optional "tags" (listOf int32), optional "data" anything]

def command : Shape :=
  record
    [required "title" text, required "command" text, optional "arguments" (listOf anything)]

def textEdit : Shape := record [required "range" range, required "newText" text]

/-- Edits of one document, of a version that may be unknown. -/
def documentEdits : Shape :=
  record
    [required "textDocument" (record [required "uri" url, optional "version" int32]),
     required "edits" (listOf textEdit)]

/-- Making, renaming or deleting a file. -/
def fileOperation : Shape :=
  let making := record (optionals ["overwrite", "ignoreIfExists"] truth)
  tagged "kind"
    [("create",
      [required "uri" url, optional "options" making, optional "annotationId" text]),
     ("rename",
      [required "oldUri" url, required "newUri" url, optional "options" making,
       optional "annotationId" text]),
     ("delete",
      [required "uri" url,
       optional "options"
         (record
           (optionals ["recursive", "ignoreIfNotExists"] truth ++
             [optional "annotationId" text]))])]

def workspaceEdit : Shape :=
  record
    [defaulted "changes"
       (either null (dictionary (fun key => (Url.parse? key).isSome) (listOf textEdit))),
     optional "documentChanges" (listOf (either fileOperation documentEdits)),
     optional "changeAnnotations"
       (dictionary (fun _ => true)
         (record
           [required "label" text, optional "needsConfirmation" truth,
            optional "description" text]))]

/-- How a document is to be laid out. -/
def formatting : Shape :=
  objectWith
    ([required "tabSize" nat32, required "insertSpaces" truth] ++
      optionals ["trimTrailingWhitespace", "insertFinalNewline", "trimFinalNewlines"] truth)
    (either truth token)

/-! ### Items of earlier answers -/

/-- An item of a hierarchy of calls or types. -/
def hierarchyItem (tags : Shape) : Shape :=
  record
    [required "name" text, required "kind" int32, optional "tags" tags, optional "detail" text,
     required "uri" url, required "range" range, required "selectionRange" range,
     optional "data" anything]

def completionItem : Shape :=
  record
    [required "label" text,
     optional "labelDetails" (record (optionals ["detail", "description"] text)),
     optional "kind" int32, optional "detail" text, optional "documentation" shownText,
     optional "deprecated" truth, optional "preselect" truth, optional "sortText" text,
     optional "filterText" text, optional "insertText" text, optional "insertTextFormat" int32,
     optional "insertTextMode" int32,
     optional "textEdit"
       (either textEdit
         (record
           [required "newText" text, required "insert" range, required "replace" range])),
     optional "additionalTextEdits" (listOf textEdit), optional "command" command,
     optional "commitCharacters" (listOf text), optional "data" anything,
     optional "tags" (listOf int32)]

def codeAction : Shape :=
  record
    [required "title" text, optional "kind" text, optional "diagnostics" (listOf diagnostic),
     optional "edit" workspaceEdit, optional "command" command, optional "isPreferred" truth,
     optional "disabled" (record [required "reason" text]), optional "data" anything]

def inlayHint : Shape :=
  let part :=
    record
      [required "value" text, optional "tooltip" shownText, optional "location" location,
       optional "command" command]
  record
    [required "position" position, required "label" (either text (listOf part)),
     optional "kind" int32, optional "textEdits" (listOf textEdit),
     optional "tooltip" shownText, optional "paddingLeft" truth, optional "paddingRight" truth,
     optional "data" anything]

def workspaceSymbol : Shape :=
  record
    [required "name" text, required "kind" int32, optional "tags" (listOf int32),
     optional "containerName" text, required "location" (either location document),
     optional "data" anything]

/-- The signatures that an editor shows. -/
def signatures : Shape :=
  let parameter :=
    record
      [required "label" (either text (pairOf nat32)), optional "documentation" shownText]
  let signature :=
    record
      [required "label" text, optional "documentation" shownText,
       optional "parameters" (listOf parameter), optional "activeParameter" nat32]
  record
    [required "signatures" (listOf signature), optional "activeSignature" nat32,
     optional "activeParameter" nat32]

/-! ### Requests -/

/-- The requests about a position in a document. -/
def aboutPositions : List (String × Shape) :=
  [("textDocument/hover", object (atPosition ++ work)),
   ("textDocument/linkedEditingRange", object (atPosition ++ work)),
   ("textDocument/prepareCallHierarchy", object (atPosition ++ work)),
   ("textDocument/prepareTypeHierarchy", object (atPosition ++ work)),
   ("textDocument/declaration", object (atPosition ++ partialWork)),
   ("textDocument/typeDefinition", object (atPosition ++ partialWork)),
   ("textDocument/implementation", object (atPosition ++ partialWork)),
   ("textDocument/documentHighlight", object (atPosition ++ partialWork)),
   ("textDocument/moniker", object (atPosition ++ partialWork)),
   ("textDocument/prepareRename", record atPosition),
   ("textDocument/rename", object (atPosition ++ work ++ [required "newName" text])),
   ("textDocument/references",
    object (atPosition ++ partialWork ++
      [required "context" (record [required "includeDeclaration" truth])])),
   ("textDocument/completion",
    object (atPosition ++ partialWork ++
      [optional "context"
        (record [required "triggerKind" int32, optional "triggerCharacter" text])])),
   ("textDocument/signatureHelp",
    object (atPosition ++ work ++
      [optional "context"
        (record
          [required "triggerKind" int32, optional "triggerCharacter" text,
           required "isRetrigger" truth, optional "activeSignatureHelp" signatures])])),
   ("textDocument/onTypeFormatting",
    object (atPosition ++ [required "ch" text, required "options" formatting]))]

/-- The requests about a range in a document. -/
def aboutRanges : List (String × Shape) :=
  [("textDocument/semanticTokens/range", object (inRange ++ partialWork)),
   ("textDocument/inlayHint", object (inRange ++ work)),
   ("textDocument/inlineValue",
    object (inRange ++ work ++
      [required "context"
        (record [required "frameId" int32, required "stoppedLocation" range])])),
   ("textDocument/rangeFormatting",
    object (inRange ++ work ++ [required "options" formatting])),
   ("textDocument/colorPresentation",
    object (inRange ++ partialWork ++
      [required "color"
        (record (["red", "green", "blue", "alpha"].map (required · number)))])),
   ("textDocument/codeAction",
    object (inRange ++ partialWork ++
      [required "context"
        (record
          [required "diagnostics" (listOf diagnostic), optional "only" (listOf text),
           optional "triggerKind" int32])]))]

/-- The requests about a whole document. -/
def aboutDocuments : List (String × Shape) :=
  [("textDocument/documentLink", object (inDocument ++ partialWork)),
   ("textDocument/codeLens", object (inDocument ++ partialWork)),
   ("textDocument/foldingRange", object (inDocument ++ partialWork)),
   ("textDocument/documentColor", object (inDocument ++ partialWork)),
   ("textDocument/semanticTokens/full", object (inDocument ++ partialWork)),
   ("textDocument/semanticTokens/full/delta",
    object (inDocument ++ partialWork ++ [required "previousResultId" text])),
   ("textDocument/diagnostic",
    object (inDocument ++ partialWork ++ optionals ["identifier", "previousResultId"] text)),
   ("textDocument/selectionRange",
    object (inDocument ++ partialWork ++ [required "positions" (listOf position)])),
   ("textDocument/formatting",
    object (inDocument ++ work ++ [required "options" formatting])),
   ("textDocument/willSaveWaitUntil", record (inDocument ++ [required "reason" int32]))]

/-- The requests about an item of an earlier answer. -/
def aboutItems : List (String × Shape) :=
  let calls := object ([required "item" (hierarchyItem (listOf int32))] ++ partialWork)
  let types := object ([required "item" (hierarchyItem int32)] ++ partialWork)
  [("callHierarchy/incomingCalls", calls), ("callHierarchy/outgoingCalls", calls),
   ("typeHierarchy/supertypes", types), ("typeHierarchy/subtypes", types),
   ("completionItem/resolve", completionItem), ("codeAction/resolve", codeAction),
   ("inlayHint/resolve", inlayHint), ("workspaceSymbol/resolve", workspaceSymbol),
   ("codeLens/resolve",
    record [required "range" range, optional "command" command, optional "data" anything]),
   ("documentLink/resolve",
    record
      [required "range" range, optional "target" url, optional "tooltip" text,
       optional "data" anything])]

/-- The requests about the workspace. -/
def aboutWorkspace : List (String × Shape) :=
  let files (keys : List String) : Shape :=
    record [required "files" (listOf (record (keys.map (required · text))))]
  [("workspace/willCreateFiles", files ["uri"]),
   ("workspace/willRenameFiles", files ["oldUri", "newUri"]),
   ("workspace/willDeleteFiles", files ["uri"]),
   ("workspace/diagnostic",
    object (partialWork ++
      [optional "identifier" text,
       required "previousResultIds"
        (listOf (record [required "uri" url, required "value" text]))])),
   ("workspace/executeCommand",
    object (work ++ [required "command" text, defaulted "arguments" (listOf anything)]))]

/-- The shape of the parameters of a request that is not answered, by its name. -/
def shapeOf? (name : String) : Option Shape :=
  (aboutPositions ++ aboutRanges ++ aboutDocuments ++ aboutItems ++ aboutWorkspace).lookup name

end Parameters

end SailNav
