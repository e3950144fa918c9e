import SailNav.Session.Workspace

/-!
# The documents in a session

A document that is open in the editor is tracked with the text that the editor has. When it is
closed, what is on the disk counts again, if it is a source file of the workspace; otherwise the
document is no longer tracked.
-/

namespace SailNav

namespace Session

/-- Opens a document. -/
def opened (s : Session) (d : Disk) (u : Url) (text : String) (version : Int) :
    Session × List Effect :=
  let file := FileId.ofUrl d u
  let after := s.analysis.track file text
  let s := { s with documents := s.documents.openDocument u text version, analysis := after }
  (s,
   [.log (.opened u.shortName version text.utf8ByteSize (after.index.sitesOf file).length)] ++
     s.publish d u (some version) ++ s.echo ("Opened " ++ u.shortName))

/-- Changes an open document. -/
def changed (s : Session) (d : Disk) (u : Url) (edits : List Edit) (version : Int) :
    Session × List Effect :=
  let documents := s.documents.change u edits version
  match documents.text? u with
  | none => (s, [.log (.changedUnopened u)])
  | some text =>
    let file := FileId.ofUrl d u
    let after := s.analysis.track file text
    let s := { s with documents := documents, analysis := after }
    (s,
     [.log (.changed u.shortName version (after.index.sitesOf file).length)] ++
       s.publish d u (some version))

/-- Takes notice that a document was saved. -/
def saved (s : Session) (u : Url) : Session × List Effect :=
  (s, [.log (.saved u.shortName)] ++ s.echo ("Saved " ++ u.shortName))

/-- The path of a document that is a source file of the workspace. -/
def sourcePath? (s : Session) (d : Disk) (u : Url) : Option Path :=
  u.toPath?.filter fun p =>
    s.settings.indexing.enabled && p.isSailFile && d.isFile p && Workspace.isUnder d s.roots p

/-- Closes a document. -/
def closed (s : Session) (d : Disk) (u : Url) : Session × List Effect :=
  let s := { s with documents := s.documents.close u }
  let (s, reverted) :=
    match s.sourcePath? d u with
    | some p => s.reload d p
    | none => ({ s with analysis := s.analysis.close (.ofUrl d u) }, [])
  (s, reverted ++ withdraw u ++ [.log (.closed u.shortName)])

end Session

end SailNav
