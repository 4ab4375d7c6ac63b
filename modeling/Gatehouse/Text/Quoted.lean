import Gatehouse.Text.Unprintable

/-!
# Quoted texts

A text between double quotes as it is shown in messages: quotes, backslashes
and common controls have short escapes, and every other character that is not
shown as itself is given by its number.
-/

namespace Gatehouse

/-- The hexadecimal digits of a number, without leading zeros. -/
def hexText (n : Nat) : List Char := Nat.toDigits 16 n

/-- One character inside a quoted text. -/
def quoteChar (c : Char) : List Char :=
  if c = '\x00' then ['\\', '0']
  else if c = '\t' then ['\\', 't']
  else if c = '\r' then ['\\', 'r']
  else if c = '\n' then ['\\', 'n']
  else if c = '"' ∨ c = '\\' then ['\\', c]
  else if isUnprintable c then ['\\', 'u', '\x7b'] ++ hexText c.toNat ++ ['\x7d']
  else [c]

/-- A text between double quotes. -/
def quoted (text : String) : String :=
  String.ofList ('"' :: text.toList.flatMap quoteChar ++ ['"'])

/-- A list of texts between brackets, each quoted. -/
def quotedList (texts : List String) : String :=
  "[" ++ ", ".intercalate (texts.map quoted) ++ "]"

end Gatehouse
