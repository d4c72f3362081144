import ClaimGrid.Json.Reader
import ClaimGrid.Proofs.Runs

/-!
# Reading back what was written

The compact text of a value is read as that value. A number ends where no digit, point or exponent
follows, and a text where its closing quote stands; every escape stands for the character that it
was written for. The depth that the reader allows itself is the length of the text, and each level
of a value takes a character at least.

## Main definitions

* `Json.isPlain`: a value without numbers that are kept as they were written.
* `Json.pieceOf`: what the reader finds where a character was written.

## Main results

* `Json.readNumber_digits`, `Json.exists_writeText`: numbers and texts are read back.
* `Json.readValue_write`: so is a value, at the head of other characters.
* `Json.read?_render`: the text of a plain value is read as that value.
-/

namespace ClaimGrid.Json

/-! ### Numbers -/

/-- A number ends where these characters follow. -/
def EndsNumber (rest : List Char) : Prop :=
  ∀ c ∈ rest.head?, c.isDigit = false ∧ c ≠ '.' ∧ c ≠ 'e' ∧ c ≠ 'E'

theorem endsNumber_nil : EndsNumber [] := nofun

theorem endsNumber_cons {c : Char} {rest : List Char}
    (h : c.isDigit = false ∧ c ≠ '.' ∧ c ≠ 'e' ∧ c ≠ 'E') : EndsNumber (c :: rest) := by
  rintro c' ⟨⟩
  exact h

theorem EndsNumber.endsRun {rest : List Char} (h : EndsNumber rest) : EndsRun Char.isDigit rest :=
  fun c hc => (h c hc).1

variable {rest : List Char}

theorem digitRun?_digits (n : Nat) (h : EndsNumber rest) :
    digitRun? (Decimal.digits n ++ rest) = some (Decimal.digits n, rest) := by
  have hdigits : ∀ c ∈ Decimal.digits n, c.isDigit = true := fun c => Decimal.isDigit_of_mem_digits
  have htake : (Decimal.digits n ++ rest).takeWhile Char.isDigit = Decimal.digits n :=
    h.endsRun.takeWhile_append hdigits
  have hdrop : (Decimal.digits n ++ rest).dropWhile Char.isDigit = rest :=
    h.endsRun.dropWhile_append hdigits
  simp only [digitRun?, htake, hdrop, List.isEmpty_iff, Decimal.digits_ne_nil, if_false]

/-- A numeral has no needless leading zero. -/
theorem integerPart?_digits (n : Nat) (h : EndsNumber rest) :
    integerPart? (Decimal.digits n ++ rest) = some (Decimal.digits n, rest) := by
  rw [integerPart?, digitRun?_digits n h]
  split
  · rename_i hzero
    obtain ⟨hdigits, -⟩ := Prod.mk.inj (Option.some.inj hzero)
    have hn : n = 0 := Decimal.eq_zero_of_head?_digits (by rw [hdigits]; rfl)
    rw [hn, Decimal.digits] at hdigits
    cases hdigits
  · rfl

theorem fraction?_of_endsNumber (h : EndsNumber rest) : fraction? rest = some ([], rest) := by
  rw [fraction?]
  rintro cs rfl
  exact (h '.' rfl).2.1 rfl

theorem exponent?_of_endsNumber (h : EndsNumber rest) : exponent? rest = some ([], rest) := by
  cases rest with
  | nil => rfl
  | cons c rest =>
    obtain ⟨-, -, he, hE⟩ := h c rfl
    simp only [exponent?, he, hE, decide_false, Bool.or_false, Bool.false_eq_true, if_false]

/-- A numeral is read back. -/
theorem readNumber_digits (n : Nat) (h : EndsNumber rest) :
    readNumber (Decimal.digits n ++ rest) = some (natural n, rest) := by
  have hsign : ∀ cs, Decimal.digits n ++ rest ≠ '-' :: cs := by
    intro cs hcs
    cases hdigits : Decimal.digits n with
    | nil => exact Decimal.digits_ne_nil n hdigits
    | cons c ds =>
      have hc : c.isDigit = true := Decimal.isDigit_of_mem_digits (hdigits ▸ List.mem_cons_self)
      rw [hdigits] at hcs
      obtain ⟨rfl, -⟩ := List.cons.inj hcs
      cases hc
  rw [readNumber]
  · simp only [integerPart?_digits n h, fraction?_of_endsNumber h, exponent?_of_endsNumber h,
      List.isEmpty_nil, Bool.and_self, if_true, Decimal.value_digits]
  · exact hsign

/-! ### Texts -/

/-- What the reader finds where a character was written: its number for a control character without
an escape of its own, and the character otherwise. -/
def pieceOf (c : Char) : Piece :=
  if c.toNat < 32 ∧ c ∉ ['\n', '\r', '\t', '\x08', '\x0c'] then .unit c.toNat else .char c

theorem ofDigits?_hexDigits {n : Nat} (h : n < 32) :
    Numeral.ofDigits? 16 ('0' :: '0' :: hexDigits n) = some n := by
  have : ∀ n : Fin 32, Numeral.ofDigits? 16 ('0' :: '0' :: hexDigits n) = some n.val := by decide
  exact this ⟨n, h⟩

/-- An escape is read as one piece. -/
theorem readPieces_escape (c : Char) (cs : List Char) :
    readPieces (escape c ++ cs) = (readPieces cs).map fun p => (pieceOf c :: p.1, p.2) := by
  have hletter {l e : Char} (hl : l ≠ 'u') (he : escaped? l = some e) :
      readPieces ('\\' :: l :: cs) = (readPieces cs).map fun p => (Piece.char e :: p.1, p.2) := by
    rw [readPieces, he]
    · cases readPieces cs <;> rfl
    · rintro a b c' d cs' ⟨⟩
      exact absurd rfl hl
  by_cases hquote : c = '"'
  · subst hquote
    exact hletter (by decide) rfl
  by_cases hslash : c = '\\'
  · subst hslash
    exact hletter (by decide) rfl
  by_cases hblank : c ∈ ['\n', '\r', '\t', '\x08', '\x0c']
  · simp only [List.mem_cons, List.not_mem_nil, or_false] at hblank
    rcases hblank with rfl | rfl | rfl | rfl | rfl <;> exact hletter (by decide) rfl
  have hpiece : pieceOf c = if c.toNat < 32 then .unit c.toNat else .char c := by
    simp only [pieceOf, hblank, not_false_eq_true, and_true]
  simp only [List.mem_cons, List.not_mem_nil, or_false, not_or] at hblank
  obtain ⟨hn, hr, ht, hb, hf⟩ := hblank
  simp only [escape, hquote, hslash, hn, hr, ht, hb, hf, if_false, hpiece]
  split
  · rename_i hcontrol
    rw [hexDigits]
    simp only [List.cons_append, List.nil_append]
    rw [readPieces, ← hexDigits, ofDigits?_hexDigits hcontrol]
    cases readPieces cs <;> rfl
  · rename_i hcontrol
    rw [List.singleton_append, readPieces]
    · simp only [hcontrol, hslash, decide_false, Bool.or_self, Bool.false_eq_true, if_false]
    · exact hquote
    · rintro a b c' d cs' rfl -
      exact hslash rfl
    · rintro c' cs' rfl -
      exact hslash rfl

/-- The pieces of a text that was written end at its closing quote. -/
theorem readPieces_flatMap_escape (cs rest : List Char) :
    readPieces (cs.flatMap escape ++ '"' :: rest) = some (cs.map pieceOf, rest) := by
  induction cs with
  | nil => rw [List.flatMap_nil, List.nil_append, readPieces, List.map_nil]
  | cons c cs ih =>
    rw [List.flatMap_cons, List.append_assoc, readPieces_escape, ih, Option.map_some,
      List.map_cons]

/-- A number that is no half of a surrogate pair stands for its own character. -/
theorem joinPieces_unit {n : Nat} (h : n < 0xD800) (ps : List Piece) :
    joinPieces (.unit n :: ps) = (joinPieces ps).map (Char.ofNat n :: ·) := by
  have hhigh : isHigh n = false := by
    rw [isHigh, decide_eq_false (Nat.not_le.2 h), Bool.false_and]
  have hlow : isLow n = false := by
    rw [isLow, decide_eq_false (by omega), Bool.false_and]
  match ps with
  | [] => simp only [joinPieces, hhigh, hlow, Bool.or_self, Bool.false_eq_true, if_false]
  | .char c :: ps => simp only [joinPieces, hhigh, hlow, Bool.or_self, Bool.false_eq_true, if_false]
  | .unit l :: ps => simp only [joinPieces, hhigh, hlow, Bool.false_eq_true, if_false]

/-- The piece that is found where a character was written stands for that character. -/
theorem joinPieces_pieceOf (c : Char) (ps : List Piece) :
    joinPieces (pieceOf c :: ps) = (joinPieces ps).map (c :: ·) := by
  rw [pieceOf]
  split
  · rename_i h
    rw [joinPieces_unit (by omega), Char.ofNat_toNat]
  · rw [joinPieces]

theorem joinPieces_map_pieceOf (cs : List Char) : joinPieces (cs.map pieceOf) = some cs := by
  induction cs with
  | nil => rfl
  | cons c cs ih => rw [List.map_cons, joinPieces_pieceOf, ih, Option.map_some]

/-- A text is read back after its opening quote; so is the lack of one. -/
theorem exists_writeText (content : Option String) (rest : List Char) :
    ∃ cs, writeText content = '"' :: cs ∧ readText (cs ++ rest) = some (content, rest) := by
  cases content with
  | none => exact ⟨"\\ud800\"".toList, rfl, rfl⟩
  | some s =>
    refine ⟨s.toList.flatMap escape ++ ['"'], rfl, ?_⟩
    rw [List.append_assoc, List.singleton_append, readText, readPieces_flatMap_escape]
    simp only [Option.map_some, joinPieces_map_pieceOf, String.ofList_toList]

/-! ### Values -/

theorem skipBlanks_cons {c : Char} (h : isBlank c = false) (cs : List Char) :
    skipBlanks (c :: cs) = c :: cs := by
  rw [skipBlanks, List.dropWhile_cons, h, if_neg Bool.false_ne_true]

theorem isBlank_of_isDigit {c : Char} (h : c.isDigit = true) : isBlank c = false := by
  rw [isBlank, Bool.eq_false_iff]
  intro hblank
  simp only [Bool.or_eq_true, decide_eq_true_eq] at hblank
  rcases hblank with ((rfl | rfl) | rfl) | rfl <;> cases h

/-- A value that starts with a digit is a number. -/
theorem readValue_of_isDigit {c : Char} (h : c.isDigit = true) (fuel : Nat) (cs : List Char) :
    readValue (fuel + 1) (c :: cs) = readNumber (c :: cs) := by
  rw [readValue, skipBlanks_cons (isBlank_of_isDigit h)]
  split
  case h_7 => rfl
  all_goals
    rename_i heq
    obtain ⟨rfl, -⟩ := List.cons.inj heq
    cases h

mutual

/-- A value without numbers that are kept as they were written. -/
def isPlain : Json → Bool
  | number _ => false
  | array items => allPlain items
  | object members => membersPlain members
  | _ => true

/-- Whether every item of an array is plain. -/
def allPlain : List Json → Bool
  | [] => true
  | item :: items => item.isPlain && allPlain items

/-- Whether the value of every member of an object is plain. -/
def membersPlain : List (Option String × Json) → Bool
  | [] => true
  | (_, value) :: members => value.isPlain && membersPlain members

end

/-- A plain value starts neither with a blank nor with the end of an array. -/
theorem exists_write {j : Json} (h : j.isPlain = true) :
    ∃ c cs, write j = c :: cs ∧ isBlank c = false ∧ c ≠ ']' := by
  cases j with
  | null => exact ⟨_, _, rfl, rfl, by decide⟩
  | flag b => cases b <;> exact ⟨_, _, rfl, rfl, by decide⟩
  | natural n =>
    cases hdigits : Decimal.digits n with
    | nil => exact absurd hdigits (Decimal.digits_ne_nil n)
    | cons c cs =>
      have hc : c.isDigit = true := Decimal.isDigit_of_mem_digits (hdigits ▸ List.mem_cons_self)
      exact ⟨c, cs, by rw [write, hdigits], isBlank_of_isDigit hc, by rintro rfl; cases hc⟩
  | number lexeme => cases h
  | text content =>
    obtain ⟨cs, hcs, -⟩ := exists_writeText content []
    exact ⟨_, cs, by rw [write, hcs], rfl, by decide⟩
  | array items => exact ⟨_, _, by rw [write], rfl, by decide⟩
  | object members => exact ⟨_, _, by rw [write], rfl, by decide⟩

/-- The items of a plain array start like the first of them. -/
theorem exists_writeItems {item : Json} {items : List Json}
    (h : allPlain (item :: items) = true) :
    ∃ c cs, writeItems (item :: items) = c :: cs ∧ isBlank c = false ∧ c ≠ ']' := by
  rw [allPlain, Bool.and_eq_true] at h
  obtain ⟨c, cs, hcs, hc⟩ := exists_write h.1
  cases items <;> exact ⟨c, _, by simp only [writeItems, hcs, List.cons_append]; rfl, hc⟩

/-- The members of an object start with the quote of the first name. -/
theorem exists_writeMembers (name : Option String) (value : Json)
    (members : List (Option String × Json)) :
    ∃ cs, writeMembers ((name, value) :: members) = '"' :: cs := by
  obtain ⟨cs, hcs, -⟩ := exists_writeText name []
  cases members <;> exact ⟨_, by simp only [writeMembers, hcs, List.cons_append]; rfl⟩

/-! ### Reading what was written

The induction is on the value; its hypothesis bounds the depth from below, so that the items of an
array and the members of an object can be read with one level less. -/

theorem endsNumber_of_mem {c : Char} (h : c ∈ [',', ']', '\x7d']) (rest : List Char) :
    EndsNumber (c :: rest) := by
  simp only [List.mem_cons, List.not_mem_nil, or_false] at h
  rcases h with rfl | rfl | rfl <;> exact endsNumber_cons (by decide)

/-- An array that does not end at once is read item by item. -/
theorem readValue_bracket {c : Char} (hblank : isBlank c = false) (hend : c ≠ ']') (fuel : Nat)
    (cs : List Char) :
    readValue (fuel + 1) ('[' :: c :: cs) =
      (readItems fuel (c :: cs)).map fun p => (array p.1, p.2) := by
  rw [readValue, skipBlanks_cons rfl]
  simp only [skipBlanks_cons hblank]
  split
  · rename_i heq
    exact absurd (List.cons.inj heq).1 hend
  · rfl

/-- A member is read after its name, and what follows it decides whether it was the last. -/
theorem readMembers_writeText (fuel : Nat) (name : Option String) {value : Json}
    {cs rest : List Char} (h : readValue fuel cs = some (value, rest)) :
    (∀ {rest'}, skipBlanks rest = '\x7d' :: rest' →
      readMembers (fuel + 1) (writeText name ++ ':' :: cs) = some ([(name, value)], rest')) ∧
    ∀ {cs'}, skipBlanks rest = ',' :: cs' →
      readMembers (fuel + 1) (writeText name ++ ':' :: cs) =
        (readMembers fuel cs').map fun p => ((name, value) :: p.1, p.2) := by
  obtain ⟨body, hbody, hname⟩ := exists_writeText name (':' :: cs)
  rw [hbody, List.cons_append, readMembers, skipBlanks_cons rfl]
  simp only [hname, skipBlanks_cons (c := ':') rfl, h]
  refine ⟨fun hend => ?_, fun hnext => ?_⟩
  · simp only [hend]
  · simp only [hnext]

mutual

/-- A plain value is read back from the head of the characters. -/
theorem readValue_write : ∀ (j : Json) (fuel : Nat) (rest : List Char), j.isPlain = true →
    (write j).length ≤ fuel → EndsNumber rest → readValue fuel (write j ++ rest) = some (j, rest)
  | null, fuel + 1, rest, _, _, _ => rfl
  | flag b, fuel + 1, rest, _, _, _ => by cases b <;> rfl
  | natural n, fuel + 1, rest, _, _, hrest => by
    obtain ⟨c, cs, hcs⟩ := List.exists_cons_of_ne_nil (Decimal.digits_ne_nil n)
    have hc : c.isDigit = true := Decimal.isDigit_of_mem_digits (hcs ▸ List.mem_cons_self)
    rw [write, hcs, List.cons_append, readValue_of_isDigit hc, ← List.cons_append, ← hcs,
      readNumber_digits n hrest]
  | text content, fuel + 1, rest, _, _, _ => by
    obtain ⟨cs, hcs, hread⟩ := exists_writeText content rest
    rw [write, hcs, List.cons_append, readValue, skipBlanks_cons rfl]
    simp only [hread, Option.map_some]
  | array [], fuel + 1, rest, _, _, _ => rfl
  | array (item :: items), fuel + 1, rest, h, hfuel, _ => by
    rw [isPlain] at h
    rw [write, List.length_cons] at hfuel
    have hread := readItems_writeItems item items fuel rest h (Nat.le_of_succ_le_succ hfuel)
    obtain ⟨c, cs, hcs, hblank, hend⟩ := exists_writeItems h
    rw [hcs, List.cons_append] at hread
    rw [write, hcs, List.cons_append, List.cons_append, readValue_bracket hblank hend, hread,
      Option.map_some]
  | object [], fuel + 1, rest, _, _, _ => rfl
  | object ((name, value) :: members), fuel + 1, rest, h, hfuel, _ => by
    rw [isPlain] at h
    rw [write, List.length_cons] at hfuel
    have hread :=
      readMembers_writeMembers name value members fuel rest h (Nat.le_of_succ_le_succ hfuel)
    obtain ⟨cs, hcs⟩ := exists_writeMembers name value members
    rw [hcs, List.cons_append] at hread
    rw [write, hcs, List.cons_append, List.cons_append, readValue, skipBlanks_cons rfl]
    -- The brace is followed by a quote, so the object does not end at once.
    change (readMembers fuel ('"' :: (cs ++ rest))).map _ = _
    rw [hread, Option.map_some]
  | number _, _, _, h, _, _ => nomatch h
  | j, 0, rest, h, hfuel, _ => by
    obtain ⟨c, cs, hcs, -⟩ := exists_write h
    rw [hcs, List.length_cons] at hfuel
    omega

/-- The items of a plain array are read back. -/
theorem readItems_writeItems : ∀ (item : Json) (items : List Json) (fuel : Nat) (rest : List Char),
    allPlain (item :: items) = true → (writeItems (item :: items)).length ≤ fuel →
    readItems fuel (writeItems (item :: items) ++ rest) = some (item :: items, rest)
  | item, [], fuel + 1, rest, h, hfuel => by
    rw [allPlain, allPlain, Bool.and_true] at h
    rw [writeItems, List.length_append, List.length_singleton] at hfuel
    have hitem := readValue_write item fuel (']' :: rest) h (Nat.le_of_succ_le_succ hfuel)
      (endsNumber_of_mem (by decide) rest)
    rw [writeItems, List.append_assoc, List.singleton_append, readItems]
    simp only [hitem, skipBlanks_cons (c := ']') rfl]
  | item, next :: items, fuel + 1, rest, h, hfuel => by
    rw [allPlain, Bool.and_eq_true] at h
    have hitems := readItems_writeItems next items fuel rest h.2
    generalize hcs : writeItems (next :: items) = cs at hitems
    have hwrite : writeItems (item :: next :: items) = write item ++ ',' :: cs := by
      rw [← hcs, writeItems]
      nofun
    rw [hwrite, List.length_append, List.length_cons] at hfuel
    have hitem := readValue_write item fuel (',' :: (cs ++ rest)) h.1 (by omega)
      (endsNumber_of_mem (by decide) _)
    rw [hwrite, List.append_assoc, List.cons_append, readItems]
    simp only [hitem, skipBlanks_cons (c := ',') rfl, hitems (by omega), Option.map_some]
  | item, items, 0, rest, h, hfuel => by
    obtain ⟨c, cs, hcs, -⟩ := exists_writeItems h
    rw [hcs, List.length_cons] at hfuel
    omega

/-- The members of a plain object are read back. -/
theorem readMembers_writeMembers : ∀ (name : Option String) (value : Json)
    (members : List (Option String × Json)) (fuel : Nat) (rest : List Char),
    membersPlain ((name, value) :: members) = true →
    (writeMembers ((name, value) :: members)).length ≤ fuel →
    readMembers fuel (writeMembers ((name, value) :: members) ++ rest) =
      some ((name, value) :: members, rest)
  | name, value, [], fuel + 1, rest, h, hfuel => by
    rw [membersPlain, membersPlain, Bool.and_true] at h
    have hwrite : writeMembers [(name, value)] = writeText name ++ ':' :: write value ++ ['\x7d'] :=
      by rw [writeMembers]
    simp only [hwrite, List.length_append, List.length_cons] at hfuel
    have hvalue := readValue_write value fuel ('\x7d' :: rest) h (by omega)
      (endsNumber_of_mem (by decide) rest)
    simp only [hwrite, List.append_assoc, List.cons_append, List.nil_append]
    exact (readMembers_writeText fuel name hvalue).1 (skipBlanks_cons rfl rest)
  | name, value, next :: members, fuel + 1, rest, h, hfuel => by
    obtain ⟨nextName, nextValue⟩ := next
    rw [membersPlain, Bool.and_eq_true] at h
    have hmembers := readMembers_writeMembers nextName nextValue members fuel rest h.2
    generalize hcs : writeMembers ((nextName, nextValue) :: members) = cs at hmembers
    have hwrite : writeMembers ((name, value) :: (nextName, nextValue) :: members) =
        writeText name ++ ':' :: write value ++ ',' :: cs := by
      rw [← hcs, writeMembers]
      nofun
    simp only [hwrite, List.length_append, List.length_cons] at hfuel
    have hvalue := readValue_write value fuel (',' :: (cs ++ rest)) h.1 (by omega)
      (endsNumber_of_mem (by decide) _)
    simp only [hwrite, List.append_assoc, List.cons_append]
    rw [(readMembers_writeText fuel name hvalue).2 (skipBlanks_cons rfl _), hmembers (by omega),
      Option.map_some]
  | name, value, members, 0, rest, h, hfuel => by
    obtain ⟨cs, hcs⟩ := exists_writeMembers name value members
    rw [hcs, List.length_cons] at hfuel
    omega

end

/-- The compact text of a plain value is read as that value. -/
theorem read?_render {j : Json} (h : j.isPlain = true) : read? j.render = some j := by
  have hread := readValue_write j ((write j).length + 1) [] h (Nat.le_succ _) endsNumber_nil
  rw [List.append_nil] at hread
  rw [read?, readAll?, render, String.toList_ofList, hread]
  rfl

end ClaimGrid.Json
