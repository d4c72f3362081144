import ClaimGrid.Proofs.Association
import ClaimGrid.Proofs.Toml.Lines

/-!
# Tables of plain documents

A document of plain lines gives integers to keys of the root table and then, under one header each,
to keys of further tables. When no name is given twice in one table, the document describes exactly
these tables, whatever its layout is.

## Main definitions

* `Toml.plainLines`: settings of the root table, and of tables with headers, as lines.
* `Toml.plainTable`: the same settings as a table.

## Main results

* `Toml.assignAll_settings`: settings with new names come behind the entries that a table has.
* `Toml.build?_plainLines`: the lines build the table.
* `Toml.IsDocument.readAll?_eq`: so does a document of the lines.
-/

namespace ClaimGrid.Toml

/-- The lines of settings: keys with their integers. -/
def settingLines (settings : List (String × Nat)) : List PlainLine :=
  settings.map fun s => .setting s.1 s.2

/-- The lines of settings of the root table, followed by sections: headers with settings. -/
def plainLines (root : List (String × Nat)) (sections : List (String × List (String × Nat))) :
    List PlainLine :=
  settingLines root ++ sections.flatMap fun s => .header s.1 :: settingLines s.2

/-- Settings as a table. -/
def settingTable (settings : List (String × Nat)) : List (String × Toml) :=
  settings.map fun s => (s.1, integer s.2)

/-- Settings of the root table and sections as a table. -/
def plainTable (root : List (String × Nat)) (sections : List (String × List (String × Nat))) :
    List (String × Toml) :=
  settingTable root ++ sections.map fun s => (s.1, table (settingTable s.2))

/-! ### Entries with new names -/

section

variable {name : String} {entries : Entries}

theorem find?_eq_none (h : name ∉ entries.map Prod.fst) : find? name entries = none :=
  lookup_eq_none_iff_notMem.2 h

theorem put_eq_append (h : name ∉ entries.map Prod.fst) (node : Node) :
    put name node entries = entries ++ [(name, node)] := by
  induction entries with
  | nil => rfl
  | cons entry entries ih =>
    rw [List.map_cons, List.mem_cons, not_or] at h
    rw [put, if_neg (Ne.symm h.1), ih h.2, List.cons_append]

end

/-- Settings as entries of a table under construction. -/
def settingEntries (settings : List (String × Nat)) : Entries :=
  settings.map fun s => (s.1, .value (integer s.2))

/-- Settings as assignments. -/
def settingAssignments (settings : List (String × Nat)) : List Assignment :=
  settings.map fun s => ⟨[], s.1, integer s.2⟩

/-- Settings with new names come behind the entries that a table has. -/
theorem assignAll_settings {settings : List (String × Nat)} {entries : Entries}
    (h : (entries.map Prod.fst ++ settings.map Prod.fst).Nodup) :
    assignAll (settingAssignments settings) entries =
      some (entries ++ settingEntries settings) := by
  induction settings generalizing entries with
  | nil => exact congrArg some (List.append_nil entries).symm
  | cons s settings ih =>
    have hnew : s.1 ∉ entries.map Prod.fst := fun hmem =>
      (List.nodup_append.1 h).2.2 _ hmem _ List.mem_cons_self rfl
    have hassign : assign [] s.1 (integer s.2) entries =
        some (entries ++ [(s.1, .value (integer s.2))]) := by
      rw [assign, find?_eq_none hnew, put_eq_append hnew]
      rfl
    have hrest : assignAll (settingAssignments settings)
        (entries ++ [(s.1, .value (integer s.2))]) =
          some (entries ++ [(s.1, .value (integer s.2))] ++ settingEntries settings) :=
      ih (by simpa using h)
    rw [List.append_assoc] at hrest
    change (assign [] s.1 (integer s.2) entries).bind (assignAll (settingAssignments settings)) = _
    rw [hassign, Option.bind_some, hrest]
    rfl

/-! ### Sections -/

theorem statements_settingLines (settings : List (String × Nat)) :
    (settingLines settings).map PlainLine.statement =
      (settingAssignments settings).map Statement.assignment := by
  rw [settingLines, settingAssignments, List.map_map, List.map_map]
  rfl

/-- The statements of sections. -/
def sectionStatements (sections : List (String × List (String × Nat))) : List Statement :=
  sections.flatMap fun s =>
    .header [] s.1 :: (settingAssignments s.2).map Statement.assignment

theorem leadingAssignments_append (assignments : List Assignment)
    (sections : List (String × List (String × Nat))) :
    leadingAssignments (assignments.map Statement.assignment ++ sectionStatements sections) =
      (assignments, sectionStatements sections) := by
  induction assignments with
  | nil =>
    cases sections with
    | nil => rfl
    | cons s sections => rfl
  | cons a assignments ih =>
    rw [List.map_cons, List.cons_append, leadingAssignments, ih]

/-- Sections with new names come behind the entries of the root table. -/
theorem extend_sections {sections : List (String × List (String × Nat))} {root : Entries}
    (hnames : (root.map Prod.fst ++ sections.map Prod.fst).Nodup)
    (hsettings : ∀ s ∈ sections, (s.2.map Prod.fst).Nodup) :
    extend (sectionStatements sections) root =
      some (root ++ sections.map fun s => (s.1, .table .header (settingEntries s.2))) := by
  induction sections generalizing root with
  | nil => rw [List.map_nil, List.append_nil, sectionStatements, List.flatMap_nil, extend]
  | cons s sections ih =>
    obtain ⟨hs, hsettings⟩ := List.forall_mem_cons.1 hsettings
    have hnew : s.1 ∉ root.map Prod.fst := fun hmem =>
      (List.nodup_append.1 hnames).2.2 _ hmem _ List.mem_cons_self rfl
    have hassign : assignAll (settingAssignments s.2) [] = some (settingEntries s.2) :=
      assignAll_settings hs
    have hopen : within [] (openTable s.1 (settingAssignments s.2)) root =
        some (root ++ [(s.1, .table .header (settingEntries s.2))]) := by
      rw [within, openTable, find?_eq_none hnew, hassign, Option.map_some, put_eq_append hnew]
    have hrest : extend (sectionStatements sections)
        (root ++ [(s.1, .table .header (settingEntries s.2))]) =
          some (root ++ [(s.1, .table .header (settingEntries s.2))] ++
            sections.map fun s => (s.1, .table .header (settingEntries s.2))) :=
      ih (by simpa using hnames) hsettings
    rw [List.append_assoc] at hrest
    have hsections : sectionStatements (s :: sections) =
        .header [] s.1 :: ((settingAssignments s.2).map Statement.assignment ++
          sectionStatements sections) := rfl
    rw [hsections, extend, leadingAssignments_append, hopen]
    exact hrest

/-! ### Documents -/

theorem finishEntries_append (entries entries' : Entries) :
    finishEntries (entries ++ entries') = finishEntries entries ++ finishEntries entries' := by
  induction entries with
  | nil => rfl
  | cons entry entries ih =>
    rw [List.cons_append, finishEntries, finishEntries, ih, List.cons_append]

theorem finishEntries_map {ι : Type} (f : ι → String × Node) (l : List ι) :
    finishEntries (l.map f) = l.map fun x => ((f x).1, (f x).2.finish) := by
  induction l with
  | nil => rfl
  | cons x l ih => rw [List.map_cons, finishEntries, ih, List.map_cons]

theorem finish_settings (settings : List (String × Nat)) :
    finishEntries (settingEntries settings) = settingTable settings :=
  finishEntries_map ..

section

variable {root : List (String × Nat)} {sections : List (String × List (String × Nat))}

theorem statements_plainLines :
    (plainLines root sections).map PlainLine.statement =
      (settingAssignments root).map Statement.assignment ++ sectionStatements sections := by
  simp only [plainLines, List.map_append, List.map_flatMap, List.map_cons,
    statements_settingLines]
  rfl

/-- Lines that give no name twice in one table build the table of their settings. -/
theorem build?_plainLines (hnames : (root.map Prod.fst ++ sections.map Prod.fst).Nodup)
    (hsettings : ∀ s ∈ sections, (s.2.map Prod.fst).Nodup) :
    build? ((plainLines root sections).map PlainLine.statement) =
      some (table (plainTable root sections)) := by
  have hroot : assignAll (settingAssignments root) [] = some (settingEntries root) :=
    assignAll_settings (List.nodup_append.1 hnames).1
  have hentries : (settingEntries root).map Prod.fst = root.map Prod.fst := by
    rw [settingEntries, List.map_map]
    rfl
  rw [build?, statements_plainLines, leadingAssignments_append, hroot]
  dsimp only
  rw [extend_sections (hentries ▸ hnames) hsettings, Option.map_some, finishEntries_append,
    finish_settings, finishEntries_map, plainTable]
  refine congrArg (fun sections => some (table (settingTable root ++ sections))) ?_
  refine List.map_congr_left fun s _ => ?_
  rw [Node.finish, finish_settings]

/-- A byte order mark is neither a blank nor does it begin a statement. -/
theorem readStatements_mark (fuel : Nat) (cs : List Char) :
    readStatements (fuel + 1) ('\ufeff' :: cs) = none := rfl

/-- A document of lines that give no name twice in one table describes the table of their
settings. -/
theorem IsDocument.readAll?_eq {cs : List Char} (h : IsDocument (plainLines root sections) cs)
    (hlimits : ∀ l ∈ plainLines root sections, l.IsInLimits)
    (hnames : (root.map Prod.fst ++ sections.map Prod.fst).Nodup)
    (hsettings : ∀ s ∈ sections, (s.2.map Prod.fst).Nodup) :
    readAll? cs = some (table (plainTable root sections)) := by
  have hread := h.readStatements_eq hlimits (Nat.lt_succ_self cs.length)
  have hmark : skipMark cs = cs := by
    unfold skipMark
    split
    · rw [readStatements_mark] at hread
      cases hread
    · rfl
  rw [readAll?, hmark, hread, Option.bind_some, build?_plainLines hnames hsettings]

end

end ClaimGrid.Toml
