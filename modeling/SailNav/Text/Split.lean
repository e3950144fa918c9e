/-!
# Cutting texts

A text is cut at every occurrence of a character, or only at the last one. The character is left
out.
-/

namespace SailNav

namespace Text

/-- A text cut at every occurrence of a character. There is one piece more than there are
occurrences. -/
def splitOn (sep : Char) (text : List Char) : List (List Char) :=
  let (last, taken) := text.foldl (fun (current, taken) c =>
    if c = sep then ([], current.reverse :: taken) else (c :: current, taken)) ([], [])
  (last.reverse :: taken).reverse

/-- A text cut at the last occurrence of a character. -/
def cutAtLast? (sep : Char) (text : List Char) : Option (List Char × List Char) :=
  match text.reverse.dropWhile (· != sep) with
  | _ :: before => some (before.reverse, (text.reverse.takeWhile (· != sep)).reverse)
  | [] => none

end Text

end SailNav
