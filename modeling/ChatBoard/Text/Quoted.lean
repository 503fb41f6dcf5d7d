import ChatBoard.Text.Hidden

/-!
# Quoted text

A text between double quotes, as error messages show it. A backslash escapes the quote, itself and
the tab, line feed, carriage return and NUL; a character that is not shown is written as its code
point in hexadecimal between braces.
-/

namespace ChatBoard.Text

/-- The lowercase hexadecimal numeral of a code point between the marks of a code point escape. -/
def codePointEscape (c : Char) : List Char :=
  ['\\', 'u', '\x7b'] ++ Nat.toDigits 16 c.toNat ++ ['\x7d']

/-- The written form of one character. -/
def quoteChar (c : Char) : List Char :=
  if c = '"' then ['\\', '"']
  else if c = '\\' then ['\\', '\\']
  else if c = '\t' then ['\\', 't']
  else if c = '\n' then ['\\', 'n']
  else if c = '\r' then ['\\', 'r']
  else if c.toNat = 0 then ['\\', '0']
  else if isHidden c then codePointEscape c
  else [c]

/-- A text between double quotes. -/
def quoted (s : String) : String :=
  String.ofList ('"' :: s.toList.flatMap quoteChar ++ ['"'])

end ChatBoard.Text
