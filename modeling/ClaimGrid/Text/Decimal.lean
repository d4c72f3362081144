/-!
# Decimal numerals

The decimal numeral of a natural number, and the number a run of digits stands for.

## Main definitions

* `Decimal.digits`: the digits of a number, most significant first, without leading zeros.
* `Decimal.value`: the number that a run of digits stands for.
* `Decimal.numeral`: the digits as a text.

## Main results

* `Decimal.value_digits`: the digits of `n` stand for `n`.
* `Decimal.isDigit_of_mem_digits`: a numeral holds digits only.
* `Decimal.eq_zero_of_head?_digits`: only the numeral of zero starts with a zero.
-/

namespace ClaimGrid.Decimal

/-- The character of a digit below ten. -/
def digitChar (d : Nat) : Char := Char.ofNat (48 + d)

/-- The number a digit character stands for. -/
def digitValue (c : Char) : Nat := c.toNat - 48

/-- The decimal digits of a number, most significant first. -/
def digits (n : Nat) : List Char :=
  if n < 10 then [digitChar n] else digits (n / 10) ++ [digitChar (n % 10)]
termination_by n
decreasing_by omega

/-- The number that a run of decimal digits stands for. -/
def value (cs : List Char) : Nat :=
  cs.foldl (fun n c => n * 10 + digitValue c) 0

/-- The decimal numeral of a number. -/
def numeral (n : Nat) : String := String.ofList (digits n)

theorem digitValue_digitChar {d : Nat} (hd : d < 10) : digitValue (digitChar d) = d := by
  have : ∀ d : Fin 10, digitValue (digitChar d) = d := by decide
  exact this ⟨d, hd⟩

theorem isDigit_digitChar {d : Nat} (hd : d < 10) : (digitChar d).isDigit = true := by
  have : ∀ d : Fin 10, (digitChar d).isDigit = true := by decide
  exact this ⟨d, hd⟩

theorem value_append_singleton (cs : List Char) (c : Char) :
    value (cs ++ [c]) = value cs * 10 + digitValue c := by
  simp [value]

theorem value_digits (n : Nat) : value (digits n) = n := by
  fun_induction digits n with
  | case1 n h => simp [value, digitValue_digitChar h]
  | case2 n h ih =>
    rw [value_append_singleton, ih, digitValue_digitChar (Nat.mod_lt _ (by decide))]
    omega

theorem isDigit_of_mem_digits {n : Nat} {c : Char} (hc : c ∈ digits n) : c.isDigit = true := by
  fun_induction digits n with
  | case1 n h =>
    rw [List.mem_singleton.1 hc]
    exact isDigit_digitChar h
  | case2 n h ih =>
    rcases List.mem_append.1 hc with hc | hc
    · exact ih hc
    · rw [List.mem_singleton.1 hc]
      exact isDigit_digitChar (Nat.mod_lt _ (by decide))

theorem digits_ne_nil (n : Nat) : digits n ≠ [] := by
  rw [digits]
  split <;> simp

theorem eq_zero_of_head?_digits {n : Nat} (h : (digits n).head? = some '0') : n = 0 := by
  fun_induction digits n with
  | case1 n hn =>
    have : ∀ d : Fin 10, digitChar d = '0' → d = 0 := by decide
    exact congrArg Fin.val (this ⟨n, hn⟩ (Option.some.inj h))
  | case2 n hn ih =>
    cases hfront : digits (n / 10) with
    | nil => exact absurd hfront (digits_ne_nil _)
    | cons c cs =>
      rw [hfront] at h ih
      have hzero : n / 10 = 0 := ih h
      omega

end ClaimGrid.Decimal
