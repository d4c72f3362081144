import ClaimGrid.Proofs.Toml.Integers

/-!
# Documents of plain lines

A plain line gives an integer to a bare key, or is the header of a table with a bare name. Blanks
may stand in front of it, around the key, the name and the equals sign, and behind it. A line may
end with a comment, and lines with nothing but blanks and a comment may stand anywhere. Whatever the
layout is, the lines are read as the statements that they are, in their order.

## Main definitions

* `Toml.PlainLine`, `Toml.PlainLine.statement`: a plain line and what it says.
* `Toml.PlainLine.IsWritten`: the ways to write a line.
* `Toml.IsDocument`: the ways to write lines as a document.

## Main results

* `Toml.IsLineEnd.afterLine?_eq`: the end of a line is skipped.
* `Toml.PlainLine.IsWritten.readStatements_eq`: one line is read.
* `Toml.IsDocument.readStatements_eq`: a document is read.
-/

namespace ClaimGrid.Toml

/-! ### Blanks and comments -/

/-- Nothing but blanks. -/
def IsBlanks (cs : List Char) : Prop := ∀ c ∈ cs, isBlank c = true

/-- A comment, or nothing. -/
def IsComment (cs : List Char) : Prop :=
  cs = [] ∨ ∃ body, cs = '#' :: body ∧ ∀ c ∈ body, isAllowed c = true

/-- A line break in front of other characters; the end of the document stands for one. -/
inductive IsBreak : List Char → List Char → Prop
  | short (rest : List Char) : IsBreak ['\n'] rest
  | long (rest : List Char) : IsBreak ['\r', '\n'] rest
  | atEnd : IsBreak [] []

/-- The end of a line in front of other characters: blanks, a comment and a line break. -/
def IsLineEnd (cs rest : List Char) : Prop :=
  ∃ blanks comment lineBreak, IsBlanks blanks ∧ IsComment comment ∧ IsBreak lineBreak rest ∧
    cs = blanks ++ (comment ++ lineBreak)

theorem isBlanks_nil : IsBlanks [] := nofun

theorem IsBlanks.skipBlanks_append {blanks : List Char} (h : IsBlanks blanks) (cs : List Char) :
    skipBlanks (blanks ++ cs) = skipBlanks cs :=
  List.dropWhile_append_of_pos h

theorem IsBlanks.skipBlanks_eq {blanks : List Char} (h : IsBlanks blanks) {cs : List Char}
    (hcs : EndsRun isBlank cs) : skipBlanks (blanks ++ cs) = cs :=
  hcs.dropWhile_append h

/-- Blanks end a run of characters of another kind. -/
theorem IsBlanks.endsRun {p : Char → Bool} {blanks : List Char} (h : IsBlanks blanks)
    (hp : ∀ c, isBlank c = true → p c = false) {cs : List Char} (hcs : EndsRun p cs) :
    EndsRun p (blanks ++ cs) := by
  cases blanks with
  | nil => exact hcs
  | cons b blanks => exact endsRun_cons (hp b (h b List.mem_cons_self)) _

theorem eq_space_or_tab {c : Char} (h : isBlank c = true) : c = ' ' ∨ c = '\t' := by
  simpa [isBlank] using h

theorem isScalarChar_of_isBlank {c : Char} (h : isBlank c = true) : isScalarChar c = false := by
  rcases eq_space_or_tab h with rfl | rfl <;> decide

theorem isKeyChar_of_isBlank {c : Char} (h : isBlank c = true) : isKeyChar c = false := by
  rcases eq_space_or_tab h with rfl | rfl <;> decide

/-- A character of a kind that has no blanks is no blank. -/
theorem isBlank_eq_false {p : Char → Bool} (hp : ∀ c, isBlank c = true → p c = false) {c : Char}
    (hc : p c = true) : isBlank c = false :=
  Bool.eq_false_iff.2 fun hblank => Bool.false_ne_true ((hp c hblank).symm.trans hc)

section LineEnds

variable {lineBreak comment cs rest : List Char}

theorem afterComment?_eq {body : List Char} (hbody : ∀ c ∈ body, isAllowed c = true)
    (h : IsBreak lineBreak rest) : afterComment? (body ++ (lineBreak ++ rest)) = some rest := by
  have hends : EndsRun isAllowed (lineBreak ++ rest) := by
    cases h with
    | short rest | long rest => exact endsRun_cons (by decide) _
    | atEnd => exact nofun
  rw [afterComment?, hends.dropWhile_append hbody]
  cases h with
  | short rest | long rest | atEnd => rfl

/-- The end of a line is skipped. -/
theorem IsLineEnd.afterLine?_eq (h : IsLineEnd cs rest) : afterLine? (cs ++ rest) = some rest := by
  obtain ⟨blanks, comment, lineBreak, hblanks, hcomment, hbreak, rfl⟩ := h
  rw [afterLine?, List.append_assoc, hblanks.skipBlanks_append, List.append_assoc]
  rcases hcomment with rfl | ⟨body, rfl, hbody⟩
  · cases hbreak with
    | short rest | long rest | atEnd => rfl
  · exact afterComment?_eq hbody hbreak

/-- A line with nothing on it is skipped, or is the end of the document. -/
theorem IsLineEnd.readStatements_cases (h : IsLineEnd cs rest) :
    (cs ≠ [] ∧ ∀ fuel, readStatements (fuel + 1) (cs ++ rest) = readStatements fuel rest) ∨
      (rest = [] ∧ ∀ fuel, readStatements (fuel + 1) (cs ++ rest) = some []) := by
  obtain ⟨blanks, comment, lineBreak, hblanks, hcomment, hbreak, rfl⟩ := h
  have hskip : skipBlanks (blanks ++ (comment ++ lineBreak) ++ rest) =
      skipBlanks (comment ++ (lineBreak ++ rest)) := by
    rw [List.append_assoc, hblanks.skipBlanks_append, List.append_assoc]
  rcases hcomment with rfl | ⟨body, rfl, hbody⟩
  · cases hbreak with
    | short rest | long rest =>
      refine .inl ⟨by simp, fun fuel => ?_⟩
      rw [readStatements, hskip]
      rfl
    | atEnd =>
      refine .inr ⟨rfl, fun fuel => ?_⟩
      rw [readStatements, hskip]
      rfl
  · refine .inl ⟨by simp, fun fuel => ?_⟩
    have hmark : skipBlanks ('#' :: body ++ (lineBreak ++ rest)) =
        '#' :: (body ++ (lineBreak ++ rest)) :=
      isBlanks_nil.skipBlanks_eq (endsRun_cons (by decide) _)
    rw [readStatements, hskip, hmark]
    exact congrArg (Option.bind · (readStatements fuel)) (afterComment?_eq hbody hbreak)

/-- A number ends at the end of its line. -/
theorem IsLineEnd.endsRun (h : IsLineEnd cs rest) : EndsRun isScalarChar (cs ++ rest) := by
  obtain ⟨blanks, comment, lineBreak, hblanks, hcomment, hbreak, rfl⟩ := h
  rw [List.append_assoc]
  refine hblanks.endsRun (fun c => isScalarChar_of_isBlank) ?_
  rcases hcomment with rfl | ⟨body, rfl, -⟩
  · cases hbreak with
    | short rest | long rest => exact endsRun_cons (by decide) _
    | atEnd => exact nofun
  · exact endsRun_cons (by decide) _

end LineEnds

/-! ### Keys -/

/-- A name that is written as a key without quotes. -/
def IsBareKey (name : String) : Prop := name.toList ≠ [] ∧ ∀ c ∈ name.toList, isKeyChar c = true

namespace IsBareKey

variable {name : String} {before after rest : List Char}

theorem readKeyPart_eq (h : IsBareKey name) (hrest : EndsRun isKeyChar rest) :
    readKeyPart (name.toList ++ rest) = some (name.toList, rest) := by
  unfold readKeyPart
  split
  · rename_i heq
    exact absurd heq (append_ne_cons h.1 h.2 (by decide) _)
  · rename_i heq
    exact absurd heq (append_ne_cons h.1 h.2 (by decide) _)
  · dsimp only
    rw [hrest.takeWhile_append h.2, hrest.dropWhile_append h.2]
    exact if_neg fun hempty => h.1 (List.isEmpty_iff.1 hempty)

/-- A bare key is no blank. -/
theorem skipBlanks_eq (h : IsBareKey name) (hbefore : IsBlanks before) (rest : List Char) :
    skipBlanks (before ++ (name.toList ++ rest)) = name.toList ++ rest := by
  refine hbefore.skipBlanks_eq ?_
  obtain ⟨c, cs, hcs⟩ := List.exists_cons_of_ne_nil h.1
  have hc : isKeyChar c = true := h.2 c (hcs ▸ List.mem_cons_self)
  rw [hcs]
  exact endsRun_cons (isBlank_eq_false (fun _ => isKeyChar_of_isBlank) hc) _

/-- A bare key between blanks is read up to the equals sign or bracket behind it. -/
theorem readKey_eq (h : IsBareKey name) (hbefore : IsBlanks before) (hafter : IsBlanks after)
    {c : Char} (hc : c = '=' ∨ c = ']') (rest : List Char) :
    readKey (before ++ (name.toList ++ (after ++ c :: rest))) = some (([], name), c :: rest) := by
  have hkey : EndsRun isKeyChar (after ++ c :: rest) := by
    refine hafter.endsRun (fun _ => isKeyChar_of_isBlank) (endsRun_cons ?_ _)
    rcases hc with rfl | rfl <;> decide
  have hsign : skipBlanks (after ++ c :: rest) = c :: rest := by
    refine hafter.skipBlanks_eq (endsRun_cons ?_ _)
    rcases hc with rfl | rfl <;> decide
  have hparts : readKeyParts depthLimit (before ++ (name.toList ++ (after ++ c :: rest))) =
      some ([name], c :: rest) := by
    rw [depthLimit, readKeyParts, h.skipBlanks_eq hbefore, h.readKeyPart_eq hkey]
    dsimp only
    rw [hsign, String.ofList_toList]
    rcases hc with rfl | rfl <;> rfl
  rw [readKey, hparts]
  rfl

end IsBareKey

/-! ### Plain lines -/

/-- An integer under a bare key, or the header of a table with a bare name. -/
inductive PlainLine where
  | setting (name : String) (n : Nat)
  | header (name : String)

namespace PlainLine

/-- What a line says. -/
def statement : PlainLine → Statement
  | setting name n => .assignment ⟨[], name, .integer n⟩
  | header name => .header [] name

/-- Whether the integer of a line, if it has one, lies within the limits. -/
def IsInLimits : PlainLine → Prop
  | setting _ n => n < integerLimit
  | header _ => True

/-- The ways to write a line, up to what stands behind it. -/
inductive IsWritten : PlainLine → List Char → Prop
  | setting {name : String} {n : Nat} {indent before after lexeme : List Char}
      (hname : IsBareKey name) (hindent : IsBlanks indent) (hbefore : IsBlanks before)
      (hafter : IsBlanks after) (hlexeme : IsInteger n lexeme) :
      IsWritten (setting name n)
        (indent ++ (name.toList ++ (before ++ '=' :: (after ++ lexeme))))
  | header {name : String} {indent before after : List Char}
      (hname : IsBareKey name) (hindent : IsBlanks indent) (hbefore : IsBlanks before)
      (hafter : IsBlanks after) :
      IsWritten (header name) (indent ++ '[' :: (before ++ (name.toList ++ (after ++ [']']))))

theorem IsWritten.ne_nil {l : PlainLine} {cs : List Char} (h : l.IsWritten cs) : cs ≠ [] := by
  cases h <;> simp

section

variable {name : String} {n : Nat} {before after lexeme lineEnd rest : List Char}

theorem readAssignment_eq (hname : IsBareKey name) (hbefore : IsBlanks before)
    (hafter : IsBlanks after) (hlexeme : IsInteger n lexeme) (hn : n < integerLimit)
    (hend : IsLineEnd lineEnd rest) :
    readAssignment (name.toList ++ (before ++ '=' :: (after ++ (lexeme ++ (lineEnd ++ rest))))) =
      some ((setting name n).statement, rest) := by
  have hkey : readKey (name.toList ++ (before ++ '=' :: (after ++ (lexeme ++ (lineEnd ++ rest))))) =
      some (([], name), '=' :: (after ++ (lexeme ++ (lineEnd ++ rest)))) :=
    hname.readKey_eq isBlanks_nil hbefore (.inl rfl) _
  have hskip : skipBlanks (after ++ (lexeme ++ (lineEnd ++ rest))) =
      lexeme ++ (lineEnd ++ rest) := by
    obtain ⟨c, body, rfl, hc, -⟩ := hlexeme.exists_cons
    exact hafter.skipBlanks_eq
      (endsRun_cons (isBlank_eq_false (fun _ => isScalarChar_of_isBlank) hc) _)
  simp only [readAssignment, hkey, hskip, hlexeme.readValue_eq hn hend.endsRun,
    hend.afterLine?_eq, Option.map_some, statement]

theorem readHeader_eq (hname : IsBareKey name) (hbefore : IsBlanks before)
    (hafter : IsBlanks after) (hend : IsLineEnd lineEnd rest) :
    readHeader (before ++ (name.toList ++ (after ++ ']' :: (lineEnd ++ rest)))) =
      some ((header name).statement, rest) := by
  have hkey := hname.readKey_eq hbefore hafter (.inr rfl) (lineEnd ++ rest)
  unfold readHeader
  split
  · rename_i heq
    rw [← List.append_assoc] at heq
    have hchars : ∀ c ∈ before ++ name.toList, (isBlank c || isKeyChar c) = true :=
      List.forall_mem_append.2 ⟨fun c hc => by rw [hbefore c hc, Bool.true_or],
        fun c hc => by rw [hname.2 c hc, Bool.or_true]⟩
    have hne : before ++ name.toList ≠ [] := List.append_ne_nil_of_right_ne_nil _ hname.1
    exact absurd heq (append_ne_cons hne hchars (by decide) _)
  · simp only [hkey, hend.afterLine?_eq, Option.map_some, statement]

end

/-- A line is read as what it says. -/
theorem IsWritten.readStatements_eq {l : PlainLine} {cs lineEnd rest : List Char}
    (h : l.IsWritten cs) (hl : l.IsInLimits) (hend : IsLineEnd lineEnd rest) (fuel : Nat) :
    readStatements (fuel + 1) (cs ++ (lineEnd ++ rest)) =
      (readStatements fuel rest).map (l.statement :: ·) := by
  cases h with
  | @setting name n indent before after lexeme hname hindent hbefore hafter hlexeme =>
    have hread := readAssignment_eq hname hbefore hafter hlexeme hl hend
    rw [List.append_assoc, List.append_assoc, List.append_assoc, List.cons_append,
      List.append_assoc, readStatements, hname.skipBlanks_eq hindent]
    split
    case h_1 heq => exact absurd (List.append_eq_nil_iff.1 heq).1 hname.1
    case h_6 => rw [hread]
    all_goals
      rename_i heq
      exact absurd heq (append_ne_cons hname.1 hname.2 (by decide) _)
  | @header name indent before after hname hindent hbefore hafter =>
    have hread := readHeader_eq hname hbefore hafter hend
    have hskip (cs : List Char) : skipBlanks (indent ++ '[' :: cs) = '[' :: cs :=
      hindent.skipBlanks_eq (endsRun_cons (by decide) _)
    rw [List.append_assoc, List.cons_append, List.append_assoc, List.append_assoc,
      List.append_assoc, List.singleton_append, readStatements, hskip]
    simp only [hread]

end PlainLine

/-! ### Documents -/

/-- The ways to write lines as a document. -/
inductive IsDocument : List PlainLine → List Char → Prop
  | nil : IsDocument [] []
  | blank {ls : List PlainLine} {lineEnd rest : List Char} (hend : IsLineEnd lineEnd rest)
      (h : IsDocument ls rest) : IsDocument ls (lineEnd ++ rest)
  | line {l : PlainLine} {ls : List PlainLine} {cs lineEnd rest : List Char}
      (hl : l.IsWritten cs) (hend : IsLineEnd lineEnd rest) (h : IsDocument ls rest) :
      IsDocument (l :: ls) (cs ++ (lineEnd ++ rest))

/-- A document is read as what its lines say. -/
theorem IsDocument.readStatements_eq {ls : List PlainLine} {cs : List Char} (h : IsDocument ls cs)
    (hls : ∀ l ∈ ls, l.IsInLimits) {fuel : Nat} (hfuel : cs.length < fuel) :
    readStatements fuel cs = some (ls.map PlainLine.statement) := by
  induction h generalizing fuel with
  | nil =>
    obtain ⟨fuel, rfl⟩ := Nat.exists_eq_succ_of_ne_zero (Nat.ne_zero_of_lt hfuel)
    rfl
  | @blank ls lineEnd rest hend h ih =>
    obtain ⟨fuel, rfl⟩ := Nat.exists_eq_succ_of_ne_zero (Nat.ne_zero_of_lt hfuel)
    rcases hend.readStatements_cases with ⟨hne, hread⟩ | ⟨rfl, hread⟩
    · have hpos := List.length_pos_iff.2 hne
      rw [List.length_append] at hfuel
      rw [Nat.succ_eq_add_one, hread]
      exact ih hls (by omega)
    · have hnone : readStatements 1 [] = some (ls.map PlainLine.statement) :=
        ih hls Nat.zero_lt_one
      rw [Nat.succ_eq_add_one, hread, ← hnone]
      rfl
  | @line l ls cs lineEnd rest hl hend h ih =>
    obtain ⟨fuel, rfl⟩ := Nat.exists_eq_succ_of_ne_zero (Nat.ne_zero_of_lt hfuel)
    obtain ⟨hlimit, hls⟩ := List.forall_mem_cons.1 hls
    have hpos := List.length_pos_iff.2 hl.ne_nil
    rw [List.length_append, List.length_append] at hfuel
    rw [Nat.succ_eq_add_one, hl.readStatements_eq hlimit hend, ih hls (by omega)]
    rfl

end ClaimGrid.Toml
