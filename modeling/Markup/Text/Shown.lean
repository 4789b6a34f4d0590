import Markup.Text.Hidden

/-!
# Texts in messages

A message shows a text between double quotes. Quotes, backslashes and the common controls have an
escape of their own, hidden characters are written by code point, and everything else is shown as it
is.
-/

namespace Markup.Text

/-- A code point in hexadecimal between braces, after a backslash and a `u`. -/
def codePoint (c : Char) : List Char :=
  '\\' :: 'u' :: '\x7b' :: (Nat.toDigits 16 c.toNat ++ ['\x7d'])

/-- A character as a message shows it. -/
def shownChar (c : Char) : List Char :=
  match c with
  | '"' => ['\\', '"']
  | '\\' => ['\\', '\\']
  | '\n' => ['\\', 'n']
  | '\r' => ['\\', 'r']
  | '\t' => ['\\', 't']
  | '\x00' => ['\\', '0']
  | c => if isHidden c then codePoint c else [c]

/-- A text as a message shows it. -/
def shown (text : String) : String :=
  String.ofList ('"' :: (text.toList.flatMap shownChar ++ ['"']))

end Markup.Text
