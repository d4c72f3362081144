import ClaimGrid.Proofs.Runs
import ClaimGrid.Toml.Reader

/-!
# Reading integers

An integer is written with its decimal digits and maybe a plus sign, or with hexadecimal, octal or
binary digits behind a mark of their base. Between two digits a single underscore may stand. Such a
lexeme is read as its number. It is no date: a date has a hyphen behind its fourth digit.

## Main definitions

* `Toml.IsSpaced`: digits among which underscores stand.
* `Toml.IsInteger`: a lexeme that writes a natural number.

## Main results

* `Toml.IsSpaced.digits?_eq`: the underscores are left out.
* `Toml.IsInteger.integer?_eq`: a lexeme is read as the number that it writes.
* `Toml.IsInteger.readValue_eq`: so it is in front of other characters.
-/

namespace ClaimGrid

/-! ### Digits -/

namespace Numeral

variable {base : Nat} {c : Char}

theorem digit?_of_isDigit (h : c.isDigit = true) : digit? 10 c = some (Decimal.digitValue c) := by
  have hlt : c.toNat - 48 < 10 := by
    simp only [Char.isDigit, Bool.and_eq_true, decide_eq_true_eq] at h
    have hle : c.toNat ≤ 57 := h.2
    omega
  simp only [digit?, hexDigit?, h, if_true, Option.filter_some, hlt, decide_true,
    Decimal.digitValue]

theorem isAlphanum_of_digit? (h : (digit? base c).isSome) : c.isAlphanum = true := by
  obtain ⟨d, hd⟩ := Option.isSome_iff_exists.1 h
  have hhex : hexDigit? c = some d := (Option.filter_eq_some_iff.1 hd).1
  rw [hexDigit?] at hhex
  refine Bool.or_eq_true_iff.2 ?_
  split at hhex
  case isTrue hdigit => exact .inr hdigit
  case isFalse =>
    refine .inl (Bool.or_eq_true_iff.2 ?_)
    split at hhex
    case isTrue hlower =>
      exact .inr (Bool.and_eq_true_iff.2 ⟨decide_eq_true hlower.1,
        decide_eq_true (UInt32.le_trans hlower.2 (by decide))⟩)
    case isFalse =>
      split at hhex
      case isTrue hupper =>
        exact .inl (decide_eq_true ⟨hupper.1, UInt32.le_trans hupper.2 (by decide)⟩)
      case isFalse => cases hhex

theorem extend?_of_isDigit {cs : List Char} (h : ∀ c ∈ cs, c.isDigit = true) (n : Nat) :
    extend? 10 n cs = some (cs.foldl (fun n c => n * 10 + Decimal.digitValue c) n) := by
  induction cs generalizing n with
  | nil => rfl
  | cons c cs ih =>
    obtain ⟨hc, hcs⟩ := List.forall_mem_cons.1 h
    rw [extend?, digit?_of_isDigit hc, List.foldl_cons]
    exact ih hcs _

/-- The digits of a number stand for it. -/
theorem ofDigits?_digits (n : Nat) : ofDigits? 10 (Decimal.digits n) = some n := by
  rw [ofDigits?, extend?_of_isDigit fun c => Decimal.isDigit_of_mem_digits]
  exact congrArg some (Decimal.value_digits n)

theorem isSome_digit?_of_extend? {m n : Nat} {cs : List Char} (h : extend? base m cs = some n) :
    ∀ c ∈ cs, (digit? base c).isSome := by
  induction cs generalizing m with
  | nil => exact fun c hc => absurd hc List.not_mem_nil
  | cons c cs ih =>
    rw [extend?] at h
    cases hc : digit? base c with
    | none =>
      rw [hc] at h
      cases h
    | some d =>
      rw [hc] at h
      exact List.forall_mem_cons.2 ⟨by rw [hc]; rfl, ih h⟩

end Numeral

namespace Toml

/-! ### Underscores among digits -/

/-- Digits among which underscores stand: runs of digits that single underscores join. -/
def IsSpaced (digits cs : List Char) : Prop :=
  ∃ runs : List (List Char), [] ∉ runs ∧ runs.flatten = digits ∧ cs = ['_'].intercalate runs

theorem isSpaced_self {digits : List Char} (h : digits ≠ []) : IsSpaced digits digits :=
  ⟨[digits], by simpa using h.symm, by simp, by simp⟩

section

variable {base : Nat}

theorem digits?_cons {c : Char} (hc : (Numeral.digit? base c).isSome) (cs : List Char) :
    digits? base (c :: cs) =
      match cs with
      | [] => some [c]
      | '_' :: rest => (digits? base rest).map (c :: ·)
      | rest => (digits? base rest).map (c :: ·) := by
  have hsome : (Numeral.digit? base c).isNone = false := by
    rw [← Option.not_isSome, hc]
    rfl
  conv =>
    lhs
    unfold digits?
  rw [hsome]
  exact if_neg Bool.false_ne_true

theorem digit?_underscore : Numeral.digit? base '_' = none := rfl

/-- Between two digits nothing needs to stand. -/
theorem digits?_cons_cons {c d : Char} (hc : (Numeral.digit? base c).isSome)
    (hd : (Numeral.digit? base d).isSome) (cs : List Char) :
    digits? base (c :: d :: cs) = (digits? base (d :: cs)).map (c :: ·) := by
  rw [digits?_cons hc]
  split
  case h_1 heq => cases heq
  case h_2 heq =>
    obtain ⟨rfl, -⟩ := List.cons.inj heq
    rw [digit?_underscore] at hd
    cases hd
  case h_3 => rfl

/-- A run of digits is read up to its end or to the underscore behind it. -/
theorem digits?_run {run : List Char} (hne : run ≠ [])
    (h : ∀ c ∈ run, (Numeral.digit? base c).isSome) :
    digits? base run = some run ∧
      ∀ rest, digits? base (run ++ '_' :: rest) = (digits? base rest).map (run ++ ·) := by
  induction run with
  | nil => exact absurd rfl hne
  | cons c run ih =>
    obtain ⟨hc, hrun⟩ := List.forall_mem_cons.1 h
    cases run with
    | nil => exact ⟨digits?_cons hc [], fun rest => digits?_cons hc ('_' :: rest)⟩
    | cons d run =>
      have hd := hrun d List.mem_cons_self
      obtain ⟨halone, hjoined⟩ := ih (List.cons_ne_nil _ _) hrun
      refine ⟨by rw [digits?_cons_cons hc hd, halone, Option.map_some], fun rest => ?_⟩
      have hrest := hjoined rest
      rw [List.cons_append] at hrest
      rw [List.cons_append, List.cons_append, digits?_cons_cons hc hd, hrest, Option.map_map]
      rfl

/-- Runs of digits are read as one. -/
theorem digits?_intercalate {runs : List (List Char)} (hne : runs ≠ [])
    (hruns : ∀ run ∈ runs, run ≠ [] ∧ ∀ c ∈ run, (Numeral.digit? base c).isSome) :
    digits? base (['_'].intercalate runs) = some runs.flatten := by
  induction runs with
  | nil => exact absurd rfl hne
  | cons run runs ih =>
    obtain ⟨⟨hrun, hdigits⟩, hruns⟩ := List.forall_mem_cons.1 hruns
    obtain ⟨halone, hjoined⟩ := digits?_run hrun hdigits
    cases runs with
    | nil => simpa using halone
    | cons next runs =>
      rw [List.intercalate_cons_cons, List.append_assoc, List.singleton_append, hjoined,
        ih (List.cons_ne_nil _ _) hruns, Option.map_some, List.flatten_cons]
      rfl

end

namespace IsSpaced

variable {digits cs : List Char} {base : Nat}

/-- Digits are read without the underscores among them. -/
theorem digits?_eq (h : IsSpaced digits cs) (hne : digits ≠ [])
    (hdigits : ∀ c ∈ digits, (Numeral.digit? base c).isSome) :
    digits? base cs = some digits := by
  obtain ⟨runs, hruns, rfl, rfl⟩ := h
  refine digits?_intercalate ?_ fun run hrun => ?_
  · rintro rfl
    exact hne rfl
  · exact ⟨fun hnil => hruns (hnil ▸ hrun),
      fun c hc => hdigits c (List.mem_flatten.2 ⟨run, hrun, hc⟩)⟩

theorem natural?_eq {n : Nat} (h : IsSpaced digits cs) (hne : digits ≠ [])
    (hvalue : Numeral.ofDigits? base digits = some n) : natural? base cs = some n := by
  rw [natural?, h.digits?_eq hne (Numeral.isSome_digit?_of_extend? hvalue), Option.bind_some,
    hvalue]

/-- The first digit stands in front, and behind a single digit stands nothing. -/
theorem exists_cons {c : Char} {rest : List Char} (h : IsSpaced (c :: rest) cs) :
    ∃ tail, cs = c :: tail ∧ (rest = [] → tail = []) := by
  obtain ⟨runs, hruns, hflat, rfl⟩ := h
  match runs with
  | [] => cases hflat
  | [] :: runs => exact absurd List.mem_cons_self hruns
  | (d :: run) :: runs =>
    rw [List.flatten_cons, List.cons_append, List.cons.injEq] at hflat
    obtain ⟨rfl, hrest⟩ := hflat
    cases runs with
    | nil =>
      refine ⟨run, by simp, fun hnil => ?_⟩
      rw [hnil] at hrest
      simpa using hrest
    | cons next runs =>
      refine ⟨run ++ '_' :: ['_'].intercalate (next :: runs), ?_, fun hnil => ?_⟩
      · rw [List.intercalate_cons_cons, List.append_assoc, List.cons_append]
        rfl
      · rw [hnil, List.append_eq_nil_iff, List.flatten_cons, List.append_eq_nil_iff] at hrest
        exact absurd (hrest.2.1 ▸ List.mem_cons_of_mem _ List.mem_cons_self) hruns

theorem eq_underscore_or_mem {c : Char} (h : IsSpaced digits cs) (hc : c ∈ cs) :
    c = '_' ∨ c ∈ digits := by
  obtain ⟨runs, -, rfl, rfl⟩ := h
  induction runs with
  | nil => simp at hc
  | cons run runs ih =>
    cases runs with
    | nil => exact .inr (by simpa using hc)
    | cons next runs =>
      rw [List.intercalate_cons_cons, List.append_assoc, List.singleton_append, List.mem_append,
        List.mem_cons] at hc
      rw [List.flatten_cons, List.mem_append]
      rcases hc with hc | rfl | hc
      · exact .inr (.inl hc)
      · exact .inl rfl
      · exact (ih hc).imp_right .inr

end IsSpaced

/-! ### Integers -/

/-- A lexeme that writes a natural number. -/
inductive IsInteger (n : Nat) : List Char → Prop
  /-- Its decimal digits, maybe behind a plus sign. -/
  | decimal {sign cs : List Char} (hsign : sign = [] ∨ sign = ['+'])
      (h : IsSpaced (Decimal.digits n) cs) : IsInteger n (sign ++ cs)
  /-- Zero may be negative. -/
  | negativeZero (h : n = 0) : IsInteger n ['-', '0']
  /-- Digits in another base, behind its mark. -/
  | based {letter : Char} {base : Nat} {digits cs : List Char}
      (hbase : (letter, base) ∈ [('x', 16), ('o', 8), ('b', 2)]) (hne : digits ≠ [])
      (hvalue : Numeral.ofDigits? base digits = some n) (h : IsSpaced digits cs) :
      IsInteger n ('0' :: letter :: cs)

/-- Decimal digits start with a digit, and only zero, which is a single digit, starts with a
zero. -/
theorem IsSpaced.exists_cons_of_digits {n : Nat} {cs : List Char}
    (h : IsSpaced (Decimal.digits n) cs) :
    ∃ c rest, cs = c :: rest ∧ c.isDigit = true ∧ (c = '0' → rest = []) := by
  obtain ⟨c, digits, hdigits⟩ := List.exists_cons_of_ne_nil (Decimal.digits_ne_nil n)
  have hc : c.isDigit = true :=
    Decimal.isDigit_of_mem_digits (n := n) (hdigits ▸ List.mem_cons_self)
  rw [hdigits] at h
  obtain ⟨rest, rfl, hsingle⟩ := h.exists_cons
  refine ⟨c, rest, rfl, hc, ?_⟩
  rintro rfl
  refine hsingle ?_
  have hn : n = 0 := Decimal.eq_zero_of_head?_digits (by rw [hdigits]; rfl)
  have hzero : Decimal.digits 0 = ['0'] := by decide +kernel
  rw [hn, hzero] at hdigits
  exact (List.cons.inj hdigits).2.symm

theorem decimal?_eq {n : Nat} {cs : List Char} (h : IsSpaced (Decimal.digits n) cs) :
    decimal? cs = some n := by
  obtain ⟨c, rest, rfl, -, hzero⟩ := h.exists_cons_of_digits
  have hnatural : natural? 10 (c :: rest) = some n :=
    h.natural?_eq (Decimal.digits_ne_nil n) (Numeral.ofDigits?_digits n)
  unfold decimal?
  split
  · rename_i heq
    obtain ⟨rfl, rfl⟩ := List.cons.inj heq
    cases hzero rfl
  · exact hnatural

theorem integer?_eq_decimal? {c : Char} {rest : List Char} (hc : c.isDigit = true)
    (hzero : c = '0' → rest = []) :
    integer? (c :: rest) = ((decimal? (c :: rest)).filter (· < integerLimit)).map Int.ofNat := by
  unfold integer?
  split
  case h_6 => rfl
  case h_4 heq =>
    obtain ⟨rfl, -⟩ := List.cons.inj heq
    exact absurd hc (by decide)
  case h_5 heq =>
    obtain ⟨rfl, -⟩ := List.cons.inj heq
    exact absurd hc (by decide)
  all_goals
    rename_i heq
    obtain ⟨rfl, hrest⟩ := List.cons.inj heq
    rw [hzero rfl] at hrest
    cases hrest

/-- A lexeme without a hyphen behind its fourth character is no date. -/
theorem isDate_eq_false {cs : List Char} (h : '-' ∉ cs.drop 4) : isDate cs = false := by
  have hnone : afterDate? cs = none := by
    rw [afterDate?]
    cases hyear : fixedDigits? 4 cs with
    | none => rfl
    | some yearAndRest =>
      obtain ⟨year, rest⟩ := yearAndRest
      have hrest : rest = cs.drop 4 := by
        rw [fixedDigits?] at hyear
        split at hyear
        · exact (Prod.mk.inj (Option.some.inj hyear)).2.symm
        · cases hyear
      have hafter : after? '-' rest = none := by
        rw [hrest]
        cases hdrop : cs.drop 4 with
        | nil => rfl
        | cons d ds =>
          refine if_neg ?_
          rintro rfl
          exact h (hdrop ▸ List.mem_cons_self)
      simp only [Option.bind_eq_bind, Option.bind_some, hafter, Option.bind_none]
  rw [isDate, hnone]
  rfl

namespace IsInteger

variable {n : Nat} {cs : List Char}

/-- A lexeme is read as the number that it writes. -/
theorem integer?_eq (h : IsInteger n cs) (hn : n < integerLimit) :
    integer? cs = some (n : Int) := by
  have hkeep : ((some n).filter (· < integerLimit)).map Int.ofNat = some (n : Int) := by
    rw [Option.filter_some, decide_eq_true hn, if_pos rfl, Option.map_some, Int.ofNat_eq_natCast]
  cases h with
  | @decimal sign cs hsign h =>
    have hdecimal := decimal?_eq h
    rcases hsign with rfl | rfl
    · obtain ⟨c, rest, rfl, hc, hzero⟩ := h.exists_cons_of_digits
      rw [List.nil_append, integer?_eq_decimal? hc hzero, hdecimal, hkeep]
    · rw [List.singleton_append, integer?, hdecimal, hkeep]
  | negativeZero h =>
    subst h
    decide +kernel
  | based hbase hne hvalue h =>
    have hnatural := h.natural?_eq hne hvalue
    simp only [List.mem_cons, Prod.mk.injEq, List.not_mem_nil, or_false] at hbase
    rcases hbase with ⟨rfl, rfl⟩ | ⟨rfl, rfl⟩ | ⟨rfl, rfl⟩ <;> rw [integer?, hnatural, hkeep]

/-- A lexeme has no hyphen but in front. -/
theorem exists_cons (h : IsInteger n cs) :
    ∃ c rest, cs = c :: rest ∧ isScalarChar c = true ∧
      ∀ d ∈ rest, isScalarChar d = true ∧ d ≠ '-' := by
  have hchar {d : Char} (hd : d = '_' ∨ d.isAlphanum = true) :
      isScalarChar d = true ∧ d ≠ '-' := by
    rcases hd with rfl | hd
    · decide
    · refine ⟨by rw [isScalarChar, hd]; rfl, ?_⟩
      rintro rfl
      exact absurd hd (by decide)
  have hspaced {base : Nat} {digits cs : List Char} (h : IsSpaced digits cs)
      (hdigits : ∀ c ∈ digits, (Numeral.digit? base c).isSome) :
      ∀ d ∈ cs, isScalarChar d = true ∧ d ≠ '-' := fun d hd =>
    hchar ((h.eq_underscore_or_mem hd).imp_right fun hd =>
      Numeral.isAlphanum_of_digit? (hdigits d hd))
  cases h with
  | @decimal sign cs hsign h =>
    have hbody := hspaced h (Numeral.isSome_digit?_of_extend? (Numeral.ofDigits?_digits n))
    rcases hsign with rfl | rfl
    · obtain ⟨c, rest, rfl, -⟩ := h.exists_cons_of_digits
      obtain ⟨hc, hrest⟩ := List.forall_mem_cons.1 hbody
      exact ⟨c, rest, rfl, hc.1, hrest⟩
    · exact ⟨'+', cs, rfl, by decide, hbody⟩
  | negativeZero h =>
    exact ⟨'-', ['0'], rfl, by decide, List.forall_mem_singleton.2 (hchar (.inr (by decide)))⟩
  | @based letter base digits cs hbase hne hvalue h =>
    have hbody := hspaced h (Numeral.isSome_digit?_of_extend? hvalue)
    have hletter : letter.isAlphanum = true := by
      simp only [List.mem_cons, Prod.mk.injEq, List.not_mem_nil, or_false] at hbase
      rcases hbase with ⟨rfl, -⟩ | ⟨rfl, -⟩ | ⟨rfl, -⟩ <;> decide
    exact ⟨'0', letter :: cs, rfl, by decide,
      List.forall_mem_cons.2 ⟨hchar (.inr hletter), hbody⟩⟩

theorem scalar?_eq (h : IsInteger n cs) (hn : n < integerLimit) :
    scalar? cs = some (.integer n) := by
  have hinteger := h.integer?_eq hn
  have hne {word : List Char} (hword : integer? word = none) : cs ≠ word := by
    rintro rfl
    rw [hword] at hinteger
    cases hinteger
  rw [scalar?, if_neg (hne (by decide)), if_neg (hne (by decide)), hinteger]

/-- A lexeme in front of other characters is read as the number that it writes. -/
theorem readValue_eq (h : IsInteger n cs) (hn : n < integerLimit) {rest : List Char}
    (hrest : EndsRun isScalarChar rest) (depth fuel : Nat) :
    readValue depth (fuel + 1) (cs ++ rest) = some (.integer n, rest) := by
  have hscalar := h.scalar?_eq hn
  obtain ⟨c, body, rfl, hc, hbody⟩ := h.exists_cons
  have hlexeme : ∀ d ∈ c :: body, isScalarChar d = true :=
    List.forall_mem_cons.2 ⟨hc, fun d hd => (hbody d hd).1⟩
  have hdate : isDate (c :: body) = false :=
    isDate_eq_false fun hd => (hbody _ (List.mem_of_mem_drop hd)).2 rfl
  have hread : readScalar (c :: body ++ rest) = some (.integer n, rest) := by
    rw [readScalar, hrest.takeWhile_append hlexeme, hrest.dropWhile_append hlexeme, hdate, hscalar]
    rfl
  -- The first character opens neither a text nor an array nor a table.
  have hne {d : Char} (hd : isScalarChar d = false) (ds : List Char) :
      c :: body ++ rest ≠ d :: ds := append_ne_cons (List.cons_ne_nil _ _) hlexeme hd ds
  have htext : readText? (c :: body ++ rest) = none := by
    unfold readText?
    split
    case h_5 => rfl
    all_goals
      rename_i heq
      exact absurd heq (hne (by decide) _)
  rw [readValue, htext, hread]
  · exact fun ds => hne (by decide) ds
  · exact fun ds => hne (by decide) ds

end IsInteger

end Toml

end ClaimGrid
