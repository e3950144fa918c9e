import SailNav.Url.Host

/-!
# URLs

A URL names a document: by a scheme, perhaps a machine, and a path. `SailNav.Url` holds the parts in
the form in which they are printed, percent-encoded and with dot segments resolved, so equal URLs
are those that are printed alike.

The path of a URL is a *plain* text when it does not start with a slash and there is no machine, as
in `untitled:Untitled-1`. Every other path is a list of segments.
-/

namespace SailNav

namespace Url

/-- The path of a URL. -/
inductive Route where
  /-- A text without structure. -/
  | plain (text : String)
  /-- Segments, each behind a slash. -/
  | segments (names : List String)
  deriving DecidableEq, Repr, Inhabited

namespace Route

/-- The path as it is printed. -/
def text : Route → String
  | plain text => text
  | segments names => String.join (names.map ("/" ++ ·))

/-- What stands behind the last slash of a path. -/
def lastName : Route → String
  | plain text => String.ofList (text.toList.reverse.takeWhile (· != '/')).reverse
  | segments names => names.getLast?.getD ""

end Route

/-- Who asks for a document, on which machine, and at which port. -/
structure Authority where
  username : String
  password : Option String
  host : Host
  /-- The port, unless it is the one of the scheme. -/
  port : Option Nat
  deriving DecidableEq, Repr, Inhabited

namespace Authority

/-- No machine. -/
def noMachine : Authority := ⟨"", none, .empty, none⟩

/-- The authority as it is printed behind its two slashes. -/
def text (a : Authority) : String :=
  let credentials :=
    match a.password with
    | some password => a.username ++ ":" ++ password ++ "@"
    | none => if a.username.isEmpty then "" else a.username ++ "@"
  let port :=
    match a.port with
    | some port => ":" ++ toString port
    | none => ""
  credentials ++ a.host.text ++ port

end Authority

end Url

/-- The name of a document, as an editor gives it. -/
structure Url where
  scheme : String
  /-- What stands behind two slashes, if they are there. -/
  authority : Option Url.Authority
  route : Url.Route
  query : Option String
  fragment : Option String
  deriving DecidableEq, Repr, Inhabited

namespace Url

/-- The URL as it is printed. Where a path without authority starts with two slashes, a dot segment
is put before it, lest it be taken for an authority. -/
def text (u : Url) : String :=
  let head :=
    match u.authority with
    | some a => "//" ++ a.text
    | none =>
      match u.route with
      | .segments ("" :: _ :: _) => "/."
      | _ => ""
  let query := (u.query.map ("?" ++ ·)).getD ""
  let fragment := (u.fragment.map ("#" ++ ·)).getD ""
  u.scheme ++ ":" ++ head ++ u.route.text ++ query ++ fragment

/-- The machine of a URL. -/
def host (u : Url) : Host :=
  match u.authority with
  | some a => a.host
  | none => .empty

/-- The name by which the document of a URL is spoken of: the last part of its path. -/
def shortName (u : Url) : String := u.route.lastName

end Url

end SailNav
