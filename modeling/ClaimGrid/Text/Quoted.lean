import ClaimGrid.Text.Printable

/-!
# Quoted texts

A text in double quotes on one line: quotes, backslashes and line breaks are escaped, and so is
every character that would not be seen as itself.

## Main definitions

* `Quoted.escape`: how a character is written inside the quotes.
* `Quoted.encode`: the quoted text.
-/

namespace ClaimGrid.Quoted

/-- A character by its number in hexadecimal. -/
def byNumber (c : Char) : List Char := "\\u\x7b".toList ++ Nat.toDigits 16 c.toNat ++ ['\x7d']

/-- How a character is written inside the quotes. -/
def escape (c : Char) : List Char :=
  if c = '"' then ['\\', '"']
  else if c = '\\' then ['\\', '\\']
  else if c = '\n' then ['\\', 'n']
  else if c = '\r' then ['\\', 'r']
  else if c = '\t' then ['\\', 't']
  else if c = '\x00' then ['\\', '0']
  else if Printable.isPrintable c then [c]
  else byNumber c

/-- The quoted text. -/
def encode (s : String) : String :=
  String.ofList ('"' :: s.toList.flatMap escape ++ ['"'])

end ClaimGrid.Quoted
