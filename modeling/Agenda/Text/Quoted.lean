import Agenda.Text.Unprintable

/-!
Text quoted for messages. The quote, the backslash, tab, line feed, carriage return and the null
character have escapes of their own, other characters that cannot be printed are written by their
code point, and the rest stands for itself.
-/

namespace Agenda.Text

/-- The characters that show one character of a quoted text. -/
def quotedChar (c : Char) : List Char :=
  if c = '"' ∨ c = '\\' then ['\\', c]
  else if c = '\t' then ['\\', 't']
  else if c = '\n' then ['\\', 'n']
  else if c = '\r' then ['\\', 'r']
  else if c.toNat = 0 then ['\\', '0']
  else if isUnprintable c then '\\' :: 'u' :: '{' :: Nat.toDigits 16 c.toNat ++ ['}']
  else [c]

/-- A text between quotes. -/
def quote (s : String) : String := String.ofList ('"' :: s.toList.flatMap quotedChar ++ ['"'])

end Agenda.Text
