import NewsScoring.Unicode.Printable

/-!
# Quoted text

`quote` sets a text in double quotes for a message, so that it shows on one line: quotes and
backslashes are escaped, the common controls have letters of their own, and every other character
that shows nothing by itself is written by its code.
-/

namespace NewsScoring.Text

/-- The lower-case hexadecimal digits of a number. -/
def hexadecimal (n : Nat) : List Char :=
  Nat.toDigits 16 n

/-- A character within quotes. -/
def quoteChar (c : Char) : List Char :=
  if c == '"' then ['\\', '"']
  else if c == '\\' then ['\\', '\\']
  else if c == '\n' then ['\\', 'n']
  else if c == '\r' then ['\\', 'r']
  else if c == '\t' then ['\\', 't']
  else if c.toNat == 0 then ['\\', '0']
  else if Unicode.isGraphemeExtend c || !Unicode.isPrintable c then
    "\\u".toList ++ Char.ofNat 0x7B :: (hexadecimal c.toNat ++ [Char.ofNat 0x7D])
  else [c]

/-- A text in double quotes. -/
def quote (text : String) : String :=
  String.ofList ('"' :: (text.toList.flatMap quoteChar ++ ['"']))

end NewsScoring.Text
