import Gradebook.Text.Unprintable

namespace Gradebook

/-!
# Texts quoted in messages

A message shows a text between double quotes, so that blanks and characters
without a visible form can be told apart.
-/

namespace Text

/-- One character of a quoted text: quotes, backslashes and the common control
characters get a backslash, what has no visible form its code point. -/
def quotedChar (c : Char) : List Char :=
  if c = '"' then ['\\', '"']
  else if c = '\\' then ['\\', '\\']
  else if c = '\n' then ['\\', 'n']
  else if c = '\r' then ['\\', 'r']
  else if c = '\t' then ['\\', 't']
  else if c = '\x00' then ['\\', '0']
  else if isUnprintable c then
    ['\\', 'u', '\x7b'] ++ Nat.toDigits 16 c.toNat ++ ['\x7d']
  else [c]

/-- A text as a message shows it. -/
def quoted (s : String) : String :=
  String.ofList ('"' :: s.toList.flatMap quotedChar ++ ['"'])

end Text

end Gradebook
