import SchemaForge.Text.CaseTable
import SchemaForge.Text.HiddenTable

/-!
# Texts shown in messages

A text between double quotes in which nothing is invisible: quotes, backslashes and line controls
are escaped, and characters without a visible form appear by their number.
-/

namespace SchemaForge.Text

/-- The spelling of one character in a message. -/
def showChar (c : Char) : List Char :=
  if c = '"' then ['\\', '"']
  else if c = '\\' then ['\\', '\\']
  else if c = '\n' then ['\\', 'n']
  else if c = '\r' then ['\\', 'r']
  else if c = '\t' then ['\\', 't']
  else if c.toNat = 0 then ['\\', '0']
  else if inRanges hiddenRanges c then
    ['\\', 'u', '\x7b'] ++ Nat.toDigits 16 c.toNat ++ ['\x7d']
  else [c]

/-- A text as it is shown in a message. -/
def shown (s : String) : String :=
  String.ofList ('"' :: (s.toList.flatMap showChar ++ ['"']))

end SchemaForge.Text
