import SailNav.Text.Blank
import SailNav.Text.HiddenTable

/-!
# Quoted text

A text between quotation marks, as it stands in the log. Marks, backslashes and characters that do
not show are written as escapes, so the text can be told from what stands around it.
-/

namespace SailNav

namespace Text

/-- A character that is written by its number: the hexadecimal digits between braces. -/
def escapeNumber (c : Char) : List Char :=
  '\\' :: 'u' :: '\x7b' :: Nat.toDigits 16 c.toNat ++ ['\x7d']

/-- A character as it is written between quotation marks. -/
def escape (c : Char) : List Char :=
  match c with
  | '\x00' => ['\\', '0']
  | '\t' => ['\\', 't']
  | '\n' => ['\\', 'n']
  | '\r' => ['\\', 'r']
  | '"' => ['\\', '"']
  | '\\' => ['\\', '\\']
  | c => if inRanges hiddenRanges c.toNat then escapeNumber c else [c]

/-- A text between quotation marks. -/
def quote (text : String) : String :=
  String.ofList ('"' :: text.toList.flatMap escape ++ ['"'])

example : quote "a\"b\\c\n" = "\"a\\\"b\\\\c\\n\"" := by decide +kernel

end Text

end SailNav
