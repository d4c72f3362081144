/-!
# Numerals in any base up to sixteen

## Main definitions

* `Numeral.digit?`: the digit that a character stands for in a base.
* `Numeral.ofDigits?`: the number that a run of digits stands for.
-/

namespace ClaimGrid.Numeral

/-- The number below sixteen that a hexadecimal digit stands for. -/
def hexDigit? (c : Char) : Option Nat :=
  if c.isDigit then some (c.toNat - 48)
  else if 'a' ≤ c ∧ c ≤ 'f' then some (c.toNat - 87)
  else if 'A' ≤ c ∧ c ≤ 'F' then some (c.toNat - 55)
  else none

/-- The digit that a character stands for in a base. -/
def digit? (base : Nat) (c : Char) : Option Nat := (hexDigit? c).filter (· < base)

/-- The number that a run of digits stands for in a base, the digits so far standing for `n`. -/
def extend? (base : Nat) : Nat → List Char → Option Nat
  | n, [] => some n
  | n, c :: cs =>
    match digit? base c with
    | some d => extend? base (n * base + d) cs
    | none => none

/-- The number that a run of digits stands for in a base. -/
def ofDigits? (base : Nat) (cs : List Char) : Option Nat := extend? base 0 cs

end ClaimGrid.Numeral
