import SailNav.Token.Kind
import SailNav.Token.Pattern

/-!
# What a comment is written for

A comment tells by its first characters whether it is documentation, and by its whole body whether
it heads a section: a *banner* is a body with an equals sign at both ends, such as
`// = Memory =`.
-/

namespace SailNav

namespace CommentStyle

/-- The bodies of banners: two equals signs with anything between them on the same line, and
blanks around. -/
def bannerBody : Pattern :=
  .chain [.star (.one (.oneOf " \t")), .char '=', .star (.one (.noneOf "\r\n")), .char '=',
    .star (.one (.oneOf " \t"))]

/-- Whether a text starts with a given one. -/
def startsWith (text : List Char) (start : String) : Bool := start.toList.isPrefixOf text

/-- The style of a comment from `//` to the end of its line. Three slashes start documentation,
four do not. -/
def ofLineComment (text : List Char) : CommentStyle :=
  let body := text.drop 2
  if bannerBody.accepts body then banner
  else if startsWith body "/" && !startsWith body "//" || startsWith body "!" then docLine
  else line

/-- The body of a block comment, which may have been left open. -/
def blockBody (text : List Char) : List Char :=
  let body := text.drop 2
  match body.reverse with
  | '/' :: '*' :: inner => inner.reverse
  | _ => body

/-- The style of a comment between `/*` and `*/`. The shortest of all is no documentation. -/
def ofBlockComment (text : List Char) : CommentStyle :=
  let body := blockBody text
  if text = "/**/".toList then block
  else if bannerBody.accepts body then banner
  else if startsWith body "*" || startsWith body "!" then docBlock
  else block

end CommentStyle

end SailNav
