/-!
# Documents

What the settings need to know of a document format: how the named fields of a record are found in
a value, and which values are natural numbers.

## Main definitions

* `Document`: a type of values in which records and natural numbers can be found.
* `Document.bounded?`: a natural number below a limit.
* `Document.boundedOr?`, `Document.recordOr?`: a field that may be left out.
-/

namespace ClaimGrid

/-- A type of values in which records and natural numbers can be found. -/
class Document (δ : Type) where
  /-- The values of the named fields of a record, in the order of the names; a field that is left
  out has no value. A value that is no record is refused. -/
  fields? : List String → δ → Option (List (Option δ))
  /-- The natural number that a value is. -/
  natural? : δ → Option Nat

namespace Document

variable {δ : Type} [Document δ]

/-- The natural number below `limit` that a value is. -/
def bounded? (limit : Nat) (d : δ) : Option Nat := (natural? d).filter (· < limit)

/-- The natural number below `limit` in a field, or a default if the field is left out. -/
def boundedOr? (limit default : Nat) : Option δ → Option Nat
  | none => some default
  | some d => bounded? limit d

/-- The record in a field, or a default if the field is left out. -/
def recordOr? {β : Type} (read : δ → Option β) (default : β) : Option δ → Option β
  | none => some default
  | some d => read d

end Document

end ClaimGrid
