import ClaimGrid.Text.Numeral

/-!
# TOML texts

Texts stand between quotes or apostrophes, one or three of them. Between quotes, a backslash begins
an escape; between apostrophes it stands for itself. Only tripled marks allow line breaks.

## Main definitions

* `Toml.readBasic`, `Toml.readLiteral`: a text on one line.
* `Toml.readLongBasic`, `Toml.readLongLiteral`: a text over several lines.
* `Toml.readText?`: a text in any of the four forms.
-/

namespace ClaimGrid.Toml

/-- Whether a character may stand in a document at all, line breaks apart. -/
def isAllowed (c : Char) : Bool := c = '\t' || (' ' ≤ c && c ≠ '\x7f')

/-- The character that a letter after a backslash stands for. -/
def escaped? : Char → Option Char
  | 'b' => some '\x08'
  | 't' => some '\t'
  | 'n' => some '\n'
  | 'f' => some '\x0c'
  | 'r' => some '\r'
  | '"' => some '"'
  | '\\' => some '\\'
  | _ => none

/-- The character that hexadecimal digits name. -/
def charOfHex? (digits : List Char) : Option Char :=
  match Numeral.ofDigits? 16 digits with
  | some n => if n.isValidChar then some (Char.ofNat n) else none
  | none => none

/-- Puts a character in front of a text that was read. -/
def consChar (c : Option Char) (r : Option (List Char × List Char)) :
    Option (List Char × List Char) :=
  match c, r with
  | some c, some (content, rest) => some (c :: content, rest)
  | _, _ => none

/-- A text after its opening quote, and what follows its closing quote. -/
def readBasic : List Char → Option (List Char × List Char)
  | [] => none
  | '"' :: cs => some ([], cs)
  | '\\' :: 'u' :: a :: b :: c :: d :: cs => consChar (charOfHex? [a, b, c, d]) (readBasic cs)
  | '\\' :: 'U' :: a :: b :: c :: d :: e :: f :: g :: h :: cs =>
    consChar (charOfHex? [a, b, c, d, e, f, g, h]) (readBasic cs)
  | '\\' :: c :: cs => consChar (escaped? c) (readBasic cs)
  | c :: cs =>
    if isAllowed c && c ≠ '\\' then consChar (some c) (readBasic cs) else none

/-- A text after its opening apostrophe, and what follows its closing apostrophe. -/
def readLiteral : List Char → Option (List Char × List Char)
  | [] => none
  | '\'' :: cs => some ([], cs)
  | c :: cs => if isAllowed c then consChar (some c) (readLiteral cs) else none

/-- What follows a line break. -/
def afterLineBreak? : List Char → Option (List Char)
  | '\n' :: cs => some cs
  | '\r' :: '\n' :: cs => some cs
  | _ => none

/-- Whether only blanks stand before the next line break. -/
def endsLine (cs : List Char) : Bool :=
  (afterLineBreak? (cs.dropWhile fun c => c = ' ' || c = '\t')).isSome

/-- A text after its three opening quotes, and what follows its closing quotes. Up to two quotes may
stand right before the closing ones. While `trim` is set, blanks and line breaks are left out, as
they are after a backslash at the end of a line. -/
def readLongBasic (trim : Bool) : List Char → Option (List Char × List Char)
  | [] => none
  | '"' :: '"' :: '"' :: '"' :: '"' :: cs => some (['"', '"'], cs)
  | '"' :: '"' :: '"' :: '"' :: cs => some (['"'], cs)
  | '"' :: '"' :: '"' :: cs => some ([], cs)
  | '"' :: cs => consChar (some '"') (readLongBasic false cs)
  | '\\' :: 'u' :: a :: b :: c :: d :: cs =>
    consChar (charOfHex? [a, b, c, d]) (readLongBasic false cs)
  | '\\' :: 'U' :: a :: b :: c :: d :: e :: f :: g :: h :: cs =>
    consChar (charOfHex? [a, b, c, d, e, f, g, h]) (readLongBasic false cs)
  | '\\' :: c :: cs =>
    if endsLine (c :: cs) then readLongBasic true (c :: cs)
    else consChar (escaped? c) (readLongBasic false cs)
  | '\r' :: '\n' :: cs =>
    if trim then readLongBasic true cs else consChar (some '\n') (readLongBasic false cs)
  | c :: cs =>
    if trim && (c = ' ' || c = '\t' || c = '\n') then readLongBasic true cs
    else if c = '\n' || (isAllowed c && c ≠ '\\') then
      consChar (some c) (readLongBasic false cs)
    else none

/-- A text after its three opening apostrophes, and what follows its closing apostrophes. Up to two
apostrophes may stand right before the closing ones. -/
def readLongLiteral : List Char → Option (List Char × List Char)
  | [] => none
  | '\'' :: '\'' :: '\'' :: '\'' :: '\'' :: cs => some (['\'', '\''], cs)
  | '\'' :: '\'' :: '\'' :: '\'' :: cs => some (['\''], cs)
  | '\'' :: '\'' :: '\'' :: cs => some ([], cs)
  | '\r' :: '\n' :: cs => consChar (some '\n') (readLongLiteral cs)
  | c :: cs =>
    if c = '\n' || isAllowed c then consChar (some c) (readLongLiteral cs) else none

/-- What follows a line break right after the opening marks, which is not part of the text. -/
def dropFirstBreak (cs : List Char) : List Char := (afterLineBreak? cs).getD cs

/-- A text in any of the four forms, and what follows it. -/
def readText? : List Char → Option (List Char × List Char)
  | '"' :: '"' :: '"' :: cs => readLongBasic false (dropFirstBreak cs)
  | '\'' :: '\'' :: '\'' :: cs => readLongLiteral (dropFirstBreak cs)
  | '"' :: cs => readBasic cs
  | '\'' :: cs => readLiteral cs
  | _ => none

end ClaimGrid.Toml
