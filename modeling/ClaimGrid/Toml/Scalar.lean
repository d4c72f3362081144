import ClaimGrid.Text.Decimal
import ClaimGrid.Text.Numeral
import ClaimGrid.Toml.Value

/-!
# TOML scalars

Numbers, flags, dates and times are single lexemes: runs of letters, digits and the signs
`+ - _ . :`. A lexeme is read as a whole.

## Main definitions

* `Toml.integer?`, `Toml.isFloat`, `Toml.isMoment`: the three kinds of lexemes.
* `Toml.scalar?`: the value of a lexeme.
* `Toml.roundsToInfinity`: whether a decimal number is too large for a double.
-/

namespace ClaimGrid.Toml

/-- Whether a character may be part of a scalar. -/
def isScalarChar (c : Char) : Bool :=
  c.isAlphanum || c = '+' || c = '-' || c = '_' || c = '.' || c = ':'

/-! ### Digits -/

/-- The digits of a non-empty run in which single underscores may stand between two digits. -/
def digits? (base : Nat) : List Char → Option (List Char)
  | [] => none
  | c :: cs =>
    if (Numeral.digit? base c).isNone then none
    else
      match cs with
      | [] => some [c]
      | '_' :: rest => (digits? base rest).map (c :: ·)
      | rest => (digits? base rest).map (c :: ·)

/-- The number that such a run stands for. -/
def natural? (base : Nat) (cs : List Char) : Option Nat :=
  (digits? base cs).bind (Numeral.ofDigits? base)

/-- The number that a decimal run without needless leading zeros stands for. -/
def decimal? : List Char → Option Nat
  | '0' :: _ :: _ => none
  | cs => natural? 10 cs

/-- A leading sign, if there is one, and what follows it. -/
def splitSign : List Char → Bool × List Char
  | '-' :: cs => (true, cs)
  | '+' :: cs => (false, cs)
  | cs => (false, cs)

/-! ### Integers -/

/-- Integers lie below this number, and not below its opposite. -/
def integerLimit : Nat := 9223372036854775808

/-- The integer that a lexeme is, if it lies within the limits. -/
def integer? : List Char → Option Int
  | '0' :: 'x' :: cs => ((natural? 16 cs).filter (· < integerLimit)).map Int.ofNat
  | '0' :: 'o' :: cs => ((natural? 8 cs).filter (· < integerLimit)).map Int.ofNat
  | '0' :: 'b' :: cs => ((natural? 2 cs).filter (· < integerLimit)).map Int.ofNat
  | '-' :: cs => ((decimal? cs).filter (· ≤ integerLimit)).map fun n => -Int.ofNat n
  | '+' :: cs => ((decimal? cs).filter (· < integerLimit)).map Int.ofNat
  | cs => ((decimal? cs).filter (· < integerLimit)).map Int.ofNat

/-! ### Floats -/

/-- The least number that a double rounds to infinity. -/
def infinityThreshold : Nat := Nat.pow 2 1024 - Nat.pow 2 970

/-- Whether `mantissa * 10 ^ exponent` rounds to infinity in a double. Far from the threshold the
number of digits decides, so that no huge power is computed. -/
def roundsToInfinity (mantissa : Nat) (exponent : Int) : Bool :=
  if mantissa = 0 then false
  else
    let magnitude := exponent + (Decimal.digits mantissa).length
    if magnitude > 310 then true
    else if magnitude < 300 then false
    else if exponent ≥ 0 then infinityThreshold ≤ mantissa * Nat.pow 10 exponent.toNat
    else infinityThreshold * Nat.pow 10 (-exponent).toNat ≤ mantissa

/-- An exponent after its letter: its value. -/
def exponent? (cs : List Char) : Option Int :=
  let (negative, cs) := splitSign cs
  (natural? 10 cs).map fun n => if negative then -Int.ofNat n else Int.ofNat n

/-- Whether a character may be part of a run of digits. -/
def isRunChar (c : Char) : Bool := c.isDigit || c = '_'

/-- What follows the integer part of a float: the digits of the fraction and the exponent. -/
def fractionAndExponent? : List Char → Option (List Char × Int)
  | '.' :: cs =>
    match digits? 10 (cs.takeWhile isRunChar), cs.dropWhile isRunChar with
    | some fraction, [] => some (fraction, 0)
    | some fraction, c :: rest =>
      if c = 'e' || c = 'E' then (exponent? rest).map fun e => (fraction, e) else none
    | none, _ => none
  | c :: cs => if c = 'e' || c = 'E' then (exponent? cs).map fun e => ([], e) else none
  | [] => none

/-- Whether a lexeme is a float. One that rounds to positive infinity is refused. -/
def isFloat (cs : List Char) : Bool :=
  let (negative, body) := splitSign cs
  if body = ['i', 'n', 'f'] || body = ['n', 'a', 'n'] then true
  else
    let whole := body.takeWhile isRunChar
    match decimal? whole, fractionAndExponent? (body.dropWhile isRunChar) with
    | some n, some (fraction, e) =>
      let mantissa := n * Nat.pow 10 fraction.length + Decimal.value fraction
      negative || !roundsToInfinity mantissa (e - fraction.length)
    | _, _ => false

/-! ### Dates and times -/

/-- The number that exactly `n` leading digits stand for, and what follows them. -/
def fixedDigits? (n : Nat) (cs : List Char) : Option (Nat × List Char) :=
  let digits := cs.take n
  if digits.length = n ∧ digits.all Char.isDigit then some (Decimal.value digits, cs.drop n)
  else none

/-- What follows a character. -/
def after? (c : Char) : List Char → Option (List Char)
  | d :: cs => if d = c then some cs else none
  | [] => none

/-- The number of days of a month. -/
def daysIn (year month : Nat) : Nat :=
  if month = 2 then
    if year % 4 = 0 ∧ (year % 100 ≠ 0 ∨ year % 400 = 0) then 29 else 28
  else if month = 4 ∨ month = 6 ∨ month = 9 ∨ month = 11 then 30 else 31

/-- What follows a date of the calendar. -/
def afterDate? (cs : List Char) : Option (List Char) := do
  let (year, cs) ← fixedDigits? 4 cs
  let cs ← after? '-' cs
  let (month, cs) ← fixedDigits? 2 cs
  let cs ← after? '-' cs
  let (day, cs) ← fixedDigits? 2 cs
  if 1 ≤ month ∧ month ≤ 12 ∧ 1 ≤ day ∧ day ≤ daysIn year month then some cs else none

/-- What follows a fraction of a second, if there is one. -/
def afterSecondFraction? : List Char → Option (List Char)
  | '.' :: cs =>
    if (cs.takeWhile Char.isDigit).isEmpty then none else some (cs.dropWhile Char.isDigit)
  | cs => some cs

/-- What follows a time of day. The sixtieth second is a leap second. -/
def afterTime? (cs : List Char) : Option (List Char) := do
  let (hour, cs) ← fixedDigits? 2 cs
  let cs ← after? ':' cs
  let (minute, cs) ← fixedDigits? 2 cs
  let cs ← after? ':' cs
  let (second, cs) ← fixedDigits? 2 cs
  if hour < 24 ∧ minute < 60 ∧ second ≤ 60 then afterSecondFraction? cs else none

/-- Whether characters are a distance from universal time, or nothing. -/
def isOffset : List Char → Bool
  | [] => true
  | ['Z'] | ['z'] => true
  | sign :: cs =>
    (sign = '+' || sign = '-') &&
      match fixedDigits? 2 cs with
      | some (hour, ':' :: cs) =>
        match fixedDigits? 2 cs with
        | some (minute, []) => hour < 24 && minute < 60
        | _ => false
      | _ => false

/-- Whether a lexeme is a date alone. -/
def isDate (cs : List Char) : Bool := afterDate? cs == some []

/-- Whether a lexeme is a time of day alone. -/
def isTime (cs : List Char) : Bool := afterTime? cs == some []

/-- Whether a lexeme is a time of day, with or without a distance from universal time. -/
def isOffsetTime (cs : List Char) : Bool := (afterTime? cs).any isOffset

/-- Whether a lexeme is a date, a time of day, or both joined by the letter T. -/
def isMoment (cs : List Char) : Bool :=
  isTime cs ||
    match afterDate? cs with
    | some [] => true
    | some (c :: rest) => (c = 'T' || c = 't') && isOffsetTime rest
    | none => false

/-! ### Scalars -/

/-- The value of a lexeme. -/
def scalar? (cs : List Char) : Option Toml :=
  if cs = ['t', 'r', 'u', 'e'] then some (.flag true)
  else if cs = ['f', 'a', 'l', 's', 'e'] then some (.flag false)
  else
    match integer? cs with
    | some n => some (.integer n)
    | none =>
      if isFloat cs then some (.float cs)
      else if isMoment cs then some (.moment cs)
      else none

end ClaimGrid.Toml
