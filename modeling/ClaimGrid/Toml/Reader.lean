import ClaimGrid.Toml.Scalar
import ClaimGrid.Toml.Table
import ClaimGrid.Toml.Text

/-!
# Reading TOML documents

A document is read as a list of statements, one a line, which are then put together to a table.

## Main definitions

* `Toml.readKey`: a dotted key.
* `Toml.readValue`: a value.
* `Toml.readStatements`: the statements of a document.
* `Toml.read?`: the table that a text describes.
-/

namespace ClaimGrid.Toml

/-! ### Blanks and comments -/

/-- The blanks that may stand inside a line. -/
def isBlank (c : Char) : Bool := c = ' ' || c = '\t'

/-- What follows leading blanks. -/
def skipBlanks (cs : List Char) : List Char := cs.dropWhile isBlank

/-- What follows the rest of a comment and the line break that ends it. -/
def afterComment? (cs : List Char) : Option (List Char) :=
  match cs.dropWhile isAllowed with
  | [] => some []
  | rest => afterLineBreak? rest

/-- What follows a line of which only blanks and a comment are left. -/
def afterLine? (cs : List Char) : Option (List Char) :=
  match skipBlanks cs with
  | [] => some []
  | '#' :: cs => afterComment? cs
  | cs => afterLineBreak? cs

/-- What follows blanks, line breaks and comments between the items of an array. A comment that is
not ended by a line break is refused. -/
def skipSpace (inComment : Bool) : List Char → Option (List Char)
  | [] => if inComment then none else some []
  | '\r' :: '\n' :: cs => skipSpace false cs
  | '\n' :: cs => skipSpace false cs
  | c :: cs =>
    if inComment then
      if isAllowed c then skipSpace true cs else none
    else if isBlank c then skipSpace false cs
    else if c = '#' then skipSpace true cs
    else some (c :: cs)

/-! ### Keys -/

/-- Whether a character may be part of a key without quotes. -/
def isKeyChar (c : Char) : Bool := c.isAlphanum || c = '_' || c = '-'

/-- One part of a key, and what follows it. -/
def readKeyPart : List Char → Option (List Char × List Char)
  | '"' :: cs => readBasic cs
  | '\'' :: cs => readLiteral cs
  | cs =>
    let part := cs.takeWhile isKeyChar
    if part.isEmpty then none else some (part, cs.dropWhile isKeyChar)

/-- The number of parts that a key stays below, and of levels that values are nested less deep
than. -/
def depthLimit : Nat := 80

/-- The parts of a dotted key, and what follows it and the blanks after it. -/
def readKeyParts : Nat → List Char → Option (List String × List Char)
  | 0, _ => none
  | fuel + 1, cs =>
    match readKeyPart (skipBlanks cs) with
    | none => none
    | some (part, cs) =>
      match skipBlanks cs with
      | '.' :: cs =>
        (readKeyParts fuel cs).map fun (parts, rest) => (String.ofList part :: parts, rest)
      | rest => some ([String.ofList part], rest)

/-- A dotted key as the tables it goes through and its last part, and what follows it. -/
def readKey (cs : List Char) : Option ((List String × String) × List Char) :=
  match readKeyParts depthLimit cs with
  | none => none
  | some (parts, rest) =>
    match parts.getLast? with
    | some name => if parts.length < depthLimit then some ((parts.dropLast, name), rest) else none
    | none => none

/-! ### Values -/

/-- A scalar at the head of the characters, and what follows it. A date may be followed by a blank
and a time of day. -/
def readScalar (cs : List Char) : Option (Toml × List Char) :=
  let lexeme := cs.takeWhile isScalarChar
  let rest := cs.dropWhile isScalarChar
  match isDate lexeme, rest with
  | true, ' ' :: after =>
    let time := after.takeWhile isScalarChar
    if isOffsetTime time then
      some (.moment (lexeme ++ ' ' :: time), after.dropWhile isScalarChar)
    else some (.moment lexeme, rest)
  | _, _ => (scalar? lexeme).map fun v => (v, rest)

mutual

/-- A value at the head of the characters, and what follows it; arrays and tables in it are nested
at most `depth` deep. -/
def readValue (depth : Nat) : Nat → List Char → Option (Toml × List Char)
  | 0, _ => none
  | fuel + 1, cs =>
    match cs with
    | '[' :: cs =>
      match depth with
      | 0 => none
      | depth + 1 => (readItems depth fuel cs).map fun (items, rest) => (.array items, rest)
    | '\x7b' :: cs =>
      match depth with
      | 0 => none
      | depth + 1 =>
        match skipBlanks cs with
        | '\x7d' :: rest => some (.table [], rest)
        | cs =>
          match readPairs depth fuel cs with
          | none => none
          | some (pairs, rest) =>
            (assignAll pairs []).map fun entries => (.table (finishEntries entries), rest)
    | cs =>
      match readText? cs with
      | some (content, rest) => some (.text (String.ofList content), rest)
      | none => readScalar cs

/-- The items of an array up to its closing bracket, and what follows the bracket. The last item may
be followed by a comma. -/
def readItems (depth : Nat) : Nat → List Char → Option (List Toml × List Char)
  | 0, _ => none
  | fuel + 1, cs =>
    match skipSpace false cs with
    | none => none
    | some (']' :: rest) => some ([], rest)
    | some cs =>
      match readValue depth fuel cs with
      | none => none
      | some (item, cs) =>
        match skipSpace false cs with
        | some (']' :: rest) => some ([item], rest)
        | some (',' :: cs) =>
          (readItems depth fuel cs).map fun (items, rest) => (item :: items, rest)
        | _ => none

/-- The assignments of a table on one line up to its closing brace, and what follows the brace. -/
def readPairs (depth : Nat) : Nat → List Char → Option (List Assignment × List Char)
  | 0, _ => none
  | fuel + 1, cs =>
    match readKey cs with
    | some ((path, name), '=' :: cs) =>
      match readValue depth fuel (skipBlanks cs) with
      | none => none
      | some (v, cs) =>
        match skipBlanks cs with
        | '\x7d' :: rest => some ([⟨path, name, v⟩], rest)
        | ',' :: cs =>
          (readPairs depth fuel cs).map fun (pairs, rest) => (⟨path, name, v⟩ :: pairs, rest)
        | _ => none
    | _ => none

end

/-! ### Statements -/

/-- An assignment on a line of its own, and what follows the line. -/
def readAssignment (cs : List Char) : Option (Statement × List Char) :=
  match readKey cs with
  | some ((path, name), '=' :: cs) =>
    match readValue (depthLimit - 1) (cs.length + 1) (skipBlanks cs) with
    | none => none
    | some (v, cs) => (afterLine? cs).map fun rest => (.assignment ⟨path, name, v⟩, rest)
  | _ => none

/-- A header after its opening bracket, and what follows its line. -/
def readHeader : List Char → Option (Statement × List Char)
  | '[' :: cs =>
    match readKey cs with
    | some ((path, name), ']' :: ']' :: cs) =>
      (afterLine? cs).map fun rest => (.arrayHeader path name, rest)
    | _ => none
  | cs =>
    match readKey cs with
    | some ((path, name), ']' :: cs) => (afterLine? cs).map fun rest => (.header path name, rest)
    | _ => none

/-- The statements of a document. -/
def readStatements : Nat → List Char → Option (List Statement)
  | 0, _ => none
  | fuel + 1, cs =>
    match skipBlanks cs with
    | [] => some []
    | '\n' :: cs => readStatements fuel cs
    | '\r' :: '\n' :: cs => readStatements fuel cs
    | '#' :: cs => (afterComment? cs).bind (readStatements fuel)
    | '[' :: cs =>
      match readHeader cs with
      | none => none
      | some (s, rest) => (readStatements fuel rest).map (s :: ·)
    | cs =>
      match readAssignment cs with
      | none => none
      | some (s, rest) => (readStatements fuel rest).map (s :: ·)

/-- A byte order mark at the beginning of a document is no part of it. -/
def skipMark : List Char → List Char
  | '\ufeff' :: cs => cs
  | cs => cs

/-- The table that characters describe. Every statement takes a character, so their number bounds
the number of statements. -/
def readAll? (cs : List Char) : Option Toml :=
  (readStatements (cs.length + 1) (skipMark cs)).bind build?

/-- The table that a text describes. -/
def read? (s : String) : Option Toml := readAll? s.toList

end ClaimGrid.Toml
