import ClaimGrid.Toml.Value

/-!
# Building TOML tables

A document is a list of statements: assignments and headers. An assignment adds to the table of the
last header; a dotted key opens tables on its way. No entry is given twice, and a table that has
its own header or is written as a value is not opened again.

## Main definitions

* `Toml.assign`: adds a value under a dotted key.
* `Toml.extend`: the change that a header and its assignments make to the root table.
* `Toml.Statement`, `Toml.build?`: the table that statements describe.
-/

namespace ClaimGrid.Toml

/-- The entry of a name. -/
def find? (name : String) (entries : Entries) : Option Node := entries.lookup name

/-- The entries with the entry of a name replaced, or added at the end. -/
def put (name : String) (node : Node) : Entries → Entries
  | [] => [(name, node)]
  | (n, old) :: entries =>
    if n = name then (name, node) :: entries else (n, old) :: put name node entries

/-- The last of several tables after a change. -/
def changeLast? (change : Entries → Option Entries) : List Entries → Option (List Entries)
  | [] => none
  | [entries] => (change entries).map fun entries => [entries]
  | entries :: elements => (changeLast? change elements).map (entries :: ·)

/-- Adds a value under a dotted key: `path` are the tables to go through and `name` is the last part
of the key. Tables on the way are opened if there are none; the table that receives the value must
have been opened by dotted keys. -/
def assign (path : List String) (name : String) (v : Toml) (entries : Entries) : Option Entries :=
  match path with
  | [] => if (find? name entries).isSome then none else some (put name (.value v) entries)
  | step :: path =>
    match find? step entries with
    | none => (assign path name v []).map fun sub => put step (.table .dotted sub) entries
    | some (.table origin sub) =>
      if origin = .header ∨ (path = [] ∧ origin ≠ .dotted) then none
      else (assign path name v sub).map fun sub => put step (.table origin sub) entries
    | some (.tables elements) =>
      if path = [] then none
      else (changeLast? (assign path name v) elements).map fun elements =>
        put step (.tables elements) entries
    | some (.value _) => none

/-- An assignment: the tables that the key goes through, its last part, and the value. -/
structure Assignment where
  /-- The tables that a dotted key goes through. -/
  path : List String
  /-- The last part of the key. -/
  name : String
  /-- The value. -/
  value : Toml

/-- The entries after assignments, in order. -/
def assignAll (assignments : List Assignment) (entries : Entries) : Option Entries :=
  assignments.foldlM (fun entries a => assign a.path a.name a.value entries) entries

/-- Changes the table that a header's path leads to. Tables on the way are opened if there are none,
and of several tables under one header the last one counts. -/
def within (path : List String) (change : Entries → Option Entries) (entries : Entries) :
    Option Entries :=
  match path with
  | [] => change entries
  | step :: path =>
    match find? step entries with
    | none => (within path change []).map fun sub => put step (.table .implied sub) entries
    | some (.table origin sub) =>
      (within path change sub).map fun sub => put step (.table origin sub) entries
    | some (.tables elements) =>
      (changeLast? (within path change) elements).map fun elements =>
        put step (.tables elements) entries
    | some (.value _) => none

/-- A statement of a document. -/
inductive Statement where
  /-- An assignment to the table of the last header. -/
  | assignment (a : Assignment)
  /-- A header that opens a table. -/
  | header (path : List String) (name : String)
  /-- A header that adds a table to an array of tables. -/
  | arrayHeader (path : List String) (name : String)

/-- Opens the table of a header, which must be new or only implied so far. -/
def openTable (name : String) (assignments : List Assignment) (entries : Entries) :
    Option Entries :=
  match find? name entries with
  | none => (assignAll assignments []).map fun sub => put name (.table .header sub) entries
  | some (.table .implied sub) =>
    (assignAll assignments sub).map fun sub => put name (.table .header sub) entries
  | some _ => none

/-- Adds a table to the array of tables under a header. -/
def openElement (name : String) (assignments : List Assignment) (entries : Entries) :
    Option Entries :=
  match find? name entries with
  | none => (assignAll assignments []).map fun sub => put name (.tables [sub]) entries
  | some (.tables elements) =>
    (assignAll assignments []).map fun sub => put name (.tables (elements ++ [sub])) entries
  | some _ => none

/-- The leading assignments of statements, and what follows them. -/
def leadingAssignments : List Statement → List Assignment × List Statement
  | .assignment a :: rest => (a :: (leadingAssignments rest).1, (leadingAssignments rest).2)
  | rest => ([], rest)

theorem length_leadingAssignments_le (statements : List Statement) :
    (leadingAssignments statements).2.length ≤ statements.length := by
  fun_induction leadingAssignments statements with
  | case1 a rest ih => exact Nat.le_succ_of_le ih
  | case2 rest h => exact Nat.le_refl _

/-- The root table after the sections that statements open. -/
def extend (statements : List Statement) (root : Entries) : Option Entries :=
  match statements with
  | [] => some root
  | .assignment _ :: _ => none
  | .header path name :: rest =>
    match within path (openTable name (leadingAssignments rest).1) root with
    | none => none
    | some root => extend (leadingAssignments rest).2 root
  | .arrayHeader path name :: rest =>
    match within path (openElement name (leadingAssignments rest).1) root with
    | none => none
    | some root => extend (leadingAssignments rest).2 root
termination_by statements.length
decreasing_by
  all_goals exact Nat.lt_succ_of_le (length_leadingAssignments_le rest)

/-- The table that statements describe. -/
def build? (statements : List Statement) : Option Toml :=
  match assignAll (leadingAssignments statements).1 [] with
  | none => none
  | some root =>
    (extend (leadingAssignments statements).2 root).map fun root => .table (finishEntries root)

end ClaimGrid.Toml
