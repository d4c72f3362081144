import ClaimGrid.Document.Fields
import ClaimGrid.Toml.Reader

/-!
# Records in TOML

A record is written as a table or, without names, as the array of its fields in order; what an array
holds beyond the fields is ignored, as are further entries of a table. A date or time counts as a
table without entries of its own.

## Main definitions

* `Toml.fields?`: the values of the fields of a record.
-/

namespace ClaimGrid.Toml

/-- The values of the fields of a record, in the order of their names. -/
def fields? (names : List String) : Toml → Option (List (Option Toml))
  | table entries => some (names.map fun name => entries.lookup name)
  | array items =>
    some ((items.take names.length).map some ++ List.replicate (names.length - items.length) none)
  | moment _ => some (names.map fun _ => none)
  | _ => none

/-- The natural number that a value is. -/
def naturalNumber? : Toml → Option Nat
  | integer n => if 0 ≤ n then some n.toNat else none
  | _ => none

instance : Document Toml := ⟨fields?, naturalNumber?⟩

end ClaimGrid.Toml
