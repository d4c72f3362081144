import ClaimGrid.Text.Decimal

/-!
# JSON values and their compact text

## Main definitions

* `Json`: a value. Natural numbers are kept as numbers; any other number only as it is written.
* `Json.write`: the compact text of a value, as characters.
* `Json.render`: the compact text of a value.
-/

namespace ClaimGrid

/-- A JSON value. A text is absent when its escapes name half of a surrogate pair: such a text is
well formed, but stands for no characters. -/
inductive Json where
  | null
  | flag (b : Bool)
  /-- A number written as digits alone. -/
  | natural (n : Nat)
  /-- A number with a sign, a fraction or an exponent, as it is written. -/
  | number (lexeme : List Char)
  | text (content : Option String)
  | array (items : List Json)
  | object (members : List (Option String × Json))
  deriving Inhabited

namespace Json

/-- The two hexadecimal digits of a number below 256. -/
def hexDigits (n : Nat) : List Char := [Nat.digitChar (n / 16), Nat.digitChar (n % 16)]

/-- How a character is written inside the quotes. -/
def escape (c : Char) : List Char :=
  if c = '"' then ['\\', '"']
  else if c = '\\' then ['\\', '\\']
  else if c = '\n' then ['\\', 'n']
  else if c = '\r' then ['\\', 'r']
  else if c = '\t' then ['\\', 't']
  else if c = '\x08' then ['\\', 'b']
  else if c = '\x0c' then ['\\', 'f']
  else if c.toNat < 32 then '\\' :: 'u' :: '0' :: '0' :: hexDigits c.toNat
  else [c]

/-- A text in quotes. An absent text is written as half of a surrogate pair. -/
def writeText : Option String → List Char
  | some s => '"' :: s.toList.flatMap escape ++ ['"']
  | none => "\"\\ud800\"".toList

mutual

/-- The compact text of a value, as characters. -/
def write : Json → List Char
  | null => "null".toList
  | flag true => "true".toList
  | flag false => "false".toList
  | natural n => Decimal.digits n
  | number lexeme => lexeme
  | text content => writeText content
  | array items => '[' :: writeItems items
  | object members => '\x7b' :: writeMembers members

/-- The items of an array, with the closing bracket. -/
def writeItems : List Json → List Char
  | [] => [']']
  | [item] => write item ++ [']']
  | item :: items => write item ++ ',' :: writeItems items

/-- The members of an object, with the closing brace. -/
def writeMembers : List (Option String × Json) → List Char
  | [] => ['\x7d']
  | [(name, value)] => writeText name ++ ':' :: write value ++ ['\x7d']
  | (name, value) :: members => writeText name ++ ':' :: write value ++ ',' :: writeMembers members

end

/-- The compact text of a value. -/
def render (j : Json) : String := String.ofList j.write

/-- A record: members in order, named by texts. -/
def record (members : List (String × Json)) : Json :=
  object (members.map fun (name, value) => (some name, value))

end Json

end ClaimGrid
