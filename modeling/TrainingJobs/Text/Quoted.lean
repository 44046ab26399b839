/-
Quoted texts, as a message shows a text that it does not understand: in quotes, with a backslash before a quote or a
backslash, short escapes for the commonest control characters, and a code point in braces for every other character
that does not show.
-/
import TrainingJobs.Text.Hidden

namespace TrainingJobs.Text

/-- the hexadecimal digits of a number, none of them a leading zero -/
def hexadecimal (n : Nat) : List Char := Nat.toDigits 16 n

/-- the code point of a character in braces -/
def codePoint (c : Char) : List Char := ['\\', 'u', '\x7b'] ++ hexadecimal c.toNat ++ ['\x7d']

/-- how a character stands in a quoted text -/
def quotedChar (c : Char) : List Char :=
  if c = '"' then ['\\', '"']
  else if c = '\\' then ['\\', '\\']
  else if c = '\n' then ['\\', 'n']
  else if c = '\r' then ['\\', 'r']
  else if c = '\t' then ['\\', 't']
  else if c = '\x00' then ['\\', '0']
  else if isHidden c then codePoint c
  else [c]

def quoted (s : String) : String := String.ofList ('"' :: (s.toList.flatMap quotedChar ++ ['"']))

end TrainingJobs.Text
