import ClaimGrid.Json.Value
import ClaimGrid.Text.Numeral

/-!
# Reading JSON

The reader accepts exactly one JSON value with blanks around it. Numbers have no leading zeros, and
texts no control characters; nothing follows the value.

## Main definitions

* `Json.readNumber`, `Json.readText`: the leaves.
* `Json.readValue`: a value at the head of a list of characters, and what follows it.
* `Json.read?`: the value that a text is.
-/

namespace ClaimGrid.Json

/-- The blanks that may stand between tokens. -/
def isBlank (c : Char) : Bool := c = ' ' || c = '\n' || c = '\t' || c = '\r'

/-- What follows leading blanks. -/
def skipBlanks (cs : List Char) : List Char := cs.dropWhile isBlank

/-! ### Numbers -/

/-- A run of at least one digit, and what follows it. -/
def digitRun? (cs : List Char) : Option (List Char × List Char) :=
  let digits := cs.takeWhile Char.isDigit
  if digits.isEmpty then none else some (digits, cs.dropWhile Char.isDigit)

/-- A run of digits without a needless leading zero, and what follows it. -/
def integerPart? (cs : List Char) : Option (List Char × List Char) :=
  match digitRun? cs with
  | some ('0' :: _ :: _, _) => none
  | r => r

/-- A fraction, if there is a point, and what follows it. -/
def fraction? : List Char → Option (List Char × List Char)
  | '.' :: cs => (digitRun? cs).map fun (digits, rest) => ('.' :: digits, rest)
  | cs => some ([], cs)

/-- An exponent, if there is one, and what follows it. -/
def exponent? : List Char → Option (List Char × List Char)
  | c :: cs =>
    if c = 'e' || c = 'E' then
      let (sign, rest) : List Char × List Char := match cs with
        | '+' :: rest => (['+'], rest)
        | '-' :: rest => (['-'], rest)
        | rest => ([], rest)
      (digitRun? rest).map fun (digits, rest) => (c :: sign ++ digits, rest)
    else some ([], c :: cs)
  | [] => some ([], [])

/-- A number at the head of the characters, and what follows it. -/
def readNumber (cs : List Char) : Option (Json × List Char) :=
  let (sign, cs) : List Char × List Char := match cs with
    | '-' :: cs => (['-'], cs)
    | cs => ([], cs)
  match integerPart? cs with
  | none => none
  | some (digits, cs) =>
    match fraction? cs with
    | none => none
    | some (fraction, cs) =>
      match exponent? cs with
      | none => none
      | some (exponent, cs) =>
        if sign.isEmpty && fraction.isEmpty && exponent.isEmpty then
          some (natural (Decimal.value digits), cs)
        else some (number (sign ++ digits ++ fraction ++ exponent), cs)

/-! ### Texts -/

/-- A character of a text, or the 16-bit unit that an escape names. -/
inductive Piece where
  | char (c : Char)
  | unit (n : Nat)

/-- The character that a letter after a backslash stands for. -/
def escaped? : Char → Option Char
  | '"' => some '"'
  | '\\' => some '\\'
  | '/' => some '/'
  | 'b' => some '\x08'
  | 'f' => some '\x0c'
  | 'n' => some '\n'
  | 'r' => some '\r'
  | 't' => some '\t'
  | _ => none

/-- The pieces of a text up to its closing quote, and what follows the quote. -/
def readPieces : List Char → Option (List Piece × List Char)
  | [] => none
  | '"' :: cs => some ([], cs)
  | '\\' :: 'u' :: a :: b :: c :: d :: cs =>
    match Numeral.ofDigits? 16 [a, b, c, d], readPieces cs with
    | some n, some (pieces, rest) => some (.unit n :: pieces, rest)
    | _, _ => none
  | '\\' :: c :: cs =>
    match escaped? c, readPieces cs with
    | some e, some (pieces, rest) => some (.char e :: pieces, rest)
    | _, _ => none
  | c :: cs =>
    if c.toNat < 32 || c = '\\' then none
    else (readPieces cs).map fun (pieces, rest) => (.char c :: pieces, rest)

/-- Whether a 16-bit unit is the first half of a surrogate pair. -/
def isHigh (n : Nat) : Bool := 0xD800 ≤ n && n < 0xDC00

/-- Whether a 16-bit unit is the second half of a surrogate pair. -/
def isLow (n : Nat) : Bool := 0xDC00 ≤ n && n < 0xE000

/-- The characters that pieces stand for; half of a surrogate pair stands for none. -/
def joinPieces : List Piece → Option (List Char)
  | [] => some []
  | .char c :: ps => (joinPieces ps).map (c :: ·)
  | .unit h :: .unit l :: ps =>
    if isHigh h then
      if isLow l then
        (joinPieces ps).map (Char.ofNat (0x10000 + (h - 0xD800) * 0x400 + (l - 0xDC00)) :: ·)
      else none
    else if isLow h then none
    else (joinPieces (.unit l :: ps)).map (Char.ofNat h :: ·)
  | .unit n :: ps =>
    if isHigh n || isLow n then none else (joinPieces ps).map (Char.ofNat n :: ·)

/-- A text after its opening quote, and what follows its closing quote. -/
def readText (cs : List Char) : Option (Option String × List Char) :=
  (readPieces cs).map fun (pieces, rest) => ((joinPieces pieces).map String.ofList, rest)

/-! ### Values -/

/-- What follows a word at the head of the characters. -/
def afterWord? : List Char → List Char → Option (List Char)
  | [], cs => some cs
  | w :: ws, c :: cs => if c = w then afterWord? ws cs else none
  | _ :: _, [] => none

mutual

/-- A value at the head of the characters, and what follows it. -/
def readValue : Nat → List Char → Option (Json × List Char)
  | 0, _ => none
  | fuel + 1, cs =>
    match skipBlanks cs with
    | 'n' :: cs => (afterWord? ['u', 'l', 'l'] cs).map fun rest => (null, rest)
    | 't' :: cs => (afterWord? ['r', 'u', 'e'] cs).map fun rest => (flag true, rest)
    | 'f' :: cs => (afterWord? ['a', 'l', 's', 'e'] cs).map fun rest => (flag false, rest)
    | '"' :: cs => (readText cs).map fun (content, rest) => (text content, rest)
    | '[' :: cs =>
      match skipBlanks cs with
      | ']' :: rest => some (array [], rest)
      | cs => (readItems fuel cs).map fun (items, rest) => (array items, rest)
    | '\x7b' :: cs =>
      match skipBlanks cs with
      | '\x7d' :: rest => some (object [], rest)
      | cs => (readMembers fuel cs).map fun (members, rest) => (object members, rest)
    | cs => readNumber cs

/-- The items of an array up to its closing bracket, and what follows the bracket. -/
def readItems : Nat → List Char → Option (List Json × List Char)
  | 0, _ => none
  | fuel + 1, cs =>
    match readValue fuel cs with
    | none => none
    | some (item, cs) =>
      match skipBlanks cs with
      | ']' :: rest => some ([item], rest)
      | ',' :: cs => (readItems fuel cs).map fun (items, rest) => (item :: items, rest)
      | _ => none

/-- The members of an object up to its closing brace, and what follows the brace. -/
def readMembers : Nat → List Char → Option (List (Option String × Json) × List Char)
  | 0, _ => none
  | fuel + 1, cs =>
    match skipBlanks cs with
    | '"' :: cs =>
      match readText cs with
      | none => none
      | some (name, cs) =>
        match skipBlanks cs with
        | ':' :: cs =>
          match readValue fuel cs with
          | none => none
          | some (value, cs) =>
            match skipBlanks cs with
            | '\x7d' :: rest => some ([(name, value)], rest)
            | ',' :: cs =>
              (readMembers fuel cs).map fun (members, rest) => ((name, value) :: members, rest)
            | _ => none
        | _ => none
    | _ => none

end

/-- The value that characters are, with blanks around it. Every level of the reader takes a
character, so their number bounds its depth. -/
def readAll? (cs : List Char) : Option Json :=
  match readValue (cs.length + 1) cs with
  | some (j, rest) => if (skipBlanks rest).isEmpty then some j else none
  | none => none

/-- The value that a text is. -/
def read? (s : String) : Option Json := readAll? s.toList

end ClaimGrid.Json
