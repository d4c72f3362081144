import ClaimGrid.Document.Fields
import ClaimGrid.Json.Reader

/-!
# Records in JSON

A record is written as an object or, without names, as the array of its fields in order. An object
may hold further members, but each field at most once; an array may be cut short, but holds nothing
beyond the fields.

## Main definitions

* `Json.member?`: the value of a field of an object.
* `Json.fields?`: the values of the fields of a record.
* `Json.ofChoices?`: one of several words, written as a text or as an object that maps it to null.
-/

namespace ClaimGrid.Json

/-- The values that an object holds under a name. -/
def valuesUnder (members : List (Option String × Json)) (name : String) : List Json :=
  members.filterMap fun (n, value) => if n = some name then some value else none

/-- Whether every member has a name made of characters. -/
def allNamed (members : List (Option String × Json)) : Bool := members.all fun (n, _) => n.isSome

/-- The value of a field of an object, if it is not left out; a repeated field is refused. -/
def member? (members : List (Option String × Json)) (name : String) : Option (Option Json) :=
  match valuesUnder members name with
  | [] => some none
  | [value] => some (some value)
  | _ => none

/-- The values of the fields of a record, in the order of their names. -/
def fields? (names : List String) : Json → Option (List (Option Json))
  | object members => if allNamed members then names.mapM (member? members) else none
  | array items =>
    if items.length ≤ names.length then
      some (items.map some ++ List.replicate (names.length - items.length) none)
    else none
  | _ => none

/-- The natural number that a value is. -/
def natural? : Json → Option Nat
  | natural n => some n
  | _ => none

instance : Document Json := ⟨fields?, natural?⟩

/-- The byte that a value is. -/
def byte? (j : Json) : Option UInt8 := (Document.bounded? 256 j).map UInt8.ofNat

/-- The items of an array. -/
def items? : Json → Option (List Json)
  | array items => some items
  | _ => none

/-- The word that a value is: a text, or an object whose only member maps the word to null. -/
def word? : Json → Option String
  | text content => content
  | object [(name, null)] => name
  | _ => none

/-- One of several choices, by its word. -/
def ofChoices? {β : Type} (choices : List (String × β)) (j : Json) : Option β :=
  j.word?.bind fun word => choices.lookup word

end ClaimGrid.Json
