/-!
# TOML values

## Main definitions

* `Toml`: a value. Floats and moments are kept as they are written.
* `Toml.Entries`: the entries of a table under construction.
* `Toml.Node`: an entry that may still grow.
-/

namespace ClaimGrid

/-- A TOML value. -/
inductive Toml where
  | text (s : String)
  | integer (n : Int)
  | float (lexeme : List Char)
  | flag (b : Bool)
  /-- A date, a time of day or both. -/
  | moment (lexeme : List Char)
  | array (items : List Toml)
  | table (entries : List (String × Toml))

namespace Toml

/-- How a table came into being, which decides how it may be extended. -/
inductive Origin where
  /-- It has a header of its own. -/
  | header
  /-- A longer header runs through it. -/
  | implied
  /-- A dotted key runs through it. -/
  | dotted
  deriving DecidableEq

/-- An entry of a table under construction. -/
inductive Node where
  /-- A finished value. -/
  | value (v : Toml)
  /-- A table that may be extended. -/
  | table (origin : Origin) (entries : List (String × Node))
  /-- Tables under one header, of which the last may be extended. -/
  | tables (elements : List (List (String × Node)))

/-- The entries of a table under construction, each name once. -/
abbrev Entries := List (String × Node)

mutual

/-- The value that an entry is when nothing is added any more. -/
def Node.finish : Node → Toml
  | .value v => v
  | .table _ entries => .table (finishEntries entries)
  | .tables elements => .array (finishElements elements)

/-- The entries of a finished table. -/
def finishEntries : List (String × Node) → List (String × Toml)
  | [] => []
  | (name, node) :: entries => (name, node.finish) :: finishEntries entries

/-- The elements of a finished array of tables. -/
def finishElements : List (List (String × Node)) → List Toml
  | [] => []
  | entries :: elements => .table (finishEntries entries) :: finishElements elements

end

end Toml

end ClaimGrid
