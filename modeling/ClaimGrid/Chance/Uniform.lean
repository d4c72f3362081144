import ClaimGrid.Chance.WordStream

/-!
# Uniform draws

A number below `n` is drawn by scaling a word: the word times `n`, divided by the number of words.
A word is refused, and the next one taken, when the remainder of that division lies above a limit
chosen so that every result keeps equally many words.

## Main definitions

* `Scaling.scale?`: the number a word is scaled to, unless the word is refused.
* `Scaling.tightLimit`, `Scaling.shiftLimit`: the two limits in use.
* `WordStream.below32`, `WordStream.belowShifted32`, `WordStream.belowShifted64`: a drawn number, by
  width of the words and limit.

## Main results

* `Scaling.scale?_lt`: an accepted number is below `n`.
* `WordStream.below32_lt`, `WordStream.belowShifted32_lt`, `WordStream.belowShifted64_lt`: a drawn
  number is below `n`.
-/

namespace ClaimGrid

namespace Scaling

/-- The number of words of a width. -/
def wordCount (bits : Nat) : Nat := Nat.pow 2 bits

/-- The number below `n` that a word of the given width is scaled to, unless the word is refused. -/
def scale? (bits n limit word : Nat) : Option Nat :=
  if word * n % wordCount bits ≤ limit then some (word * n / wordCount bits) else none

/-- The limit that refuses as few words as possible. -/
def tightLimit (bits n : Nat) : Nat :=
  wordCount bits - 1 - wordCount bits % n

/-- The limit that is found without a division: `n` shifted to the top of the word, less one. -/
def shiftLimit (bits n : Nat) : Nat := n * wordCount (bits - 1 - n.log2) - 1

theorem wordCount_pos (bits : Nat) : 0 < wordCount bits := Nat.two_pow_pos bits

theorem scale_lt {bits n word : Nat} (hn : 0 < n) (hword : word < wordCount bits) :
    word * n / wordCount bits < n := by
  rw [Nat.div_lt_iff_lt_mul (wordCount_pos bits), Nat.mul_comm n]
  exact Nat.mul_lt_mul_of_pos_right hword hn

theorem scale?_lt {bits n limit word r : Nat} (hn : 0 < n) (hword : word < wordCount bits)
    (h : scale? bits n limit word = some r) : r < n := by
  unfold scale? at h
  split at h
  · exact Option.some.inj h ▸ scale_lt hn hword
  · exact absurd h (by simp)

/-- The number of words that may be refused before one is taken as it is. At worst half of the words
are refused, so fewer than one draw in 2 ^ 128 gets that far; the number bounds every draw. -/
def patience : Nat := 128

end Scaling

namespace WordStream

open Scaling

/-- A number below `n` from 32-bit words, refusing at most `k` of them. -/
def belowWithin32 (n limit : Nat) : Nat → WordStream → Nat × WordStream
  | 0, s =>
    let word := s.next
    (word.1.toNat * n / wordCount 32, word.2)
  | k + 1, s =>
    let word := s.next
    match scale? 32 n limit word.1.toNat with
    | some r => (r, word.2)
    | none => belowWithin32 n limit k word.2

/-- A number below `n` from 64-bit words, refusing at most `k` of them. -/
def belowWithin64 (n limit : Nat) : Nat → WordStream → Nat × WordStream
  | 0, s =>
    let word := s.next64
    (word.1.toNat * n / wordCount 64, word.2)
  | k + 1, s =>
    let word := s.next64
    match scale? 64 n limit word.1.toNat with
    | some r => (r, word.2)
    | none => belowWithin64 n limit k word.2

/-- A number below `n` from 32-bit words, with the tight limit. -/
def below32 (n : Nat) (s : WordStream) : Nat × WordStream :=
  belowWithin32 n (tightLimit 32 n) patience s

/-- A number below `n` from 32-bit words, with the shifted limit. -/
def belowShifted32 (n : Nat) (s : WordStream) : Nat × WordStream :=
  belowWithin32 n (shiftLimit 32 n) patience s

/-- A number below `n` from 64-bit words, with the shifted limit. -/
def belowShifted64 (n : Nat) (s : WordStream) : Nat × WordStream :=
  belowWithin64 n (shiftLimit 64 n) patience s

theorem belowWithin32_lt {n : Nat} (hn : 0 < n) (limit k : Nat) (s : WordStream) :
    (belowWithin32 n limit k s).1 < n := by
  induction k generalizing s with
  | zero => exact scale_lt hn s.next.1.toNat_lt
  | succ k ih =>
    unfold belowWithin32
    dsimp only
    split
    · rename_i r h
      exact scale?_lt hn s.next.1.toNat_lt h
    · exact ih _

theorem belowWithin64_lt {n : Nat} (hn : 0 < n) (limit k : Nat) (s : WordStream) :
    (belowWithin64 n limit k s).1 < n := by
  induction k generalizing s with
  | zero => exact scale_lt hn s.next64.1.toNat_lt
  | succ k ih =>
    unfold belowWithin64
    dsimp only
    split
    · rename_i r h
      exact scale?_lt hn s.next64.1.toNat_lt h
    · exact ih _

theorem below32_lt {n : Nat} (hn : 0 < n) (s : WordStream) : (s.below32 n).1 < n :=
  belowWithin32_lt hn _ _ s

theorem belowShifted32_lt {n : Nat} (hn : 0 < n) (s : WordStream) : (s.belowShifted32 n).1 < n :=
  belowWithin32_lt hn _ _ s

theorem belowShifted64_lt {n : Nat} (hn : 0 < n) (s : WordStream) : (s.belowShifted64 n).1 < n :=
  belowWithin64_lt hn _ _ s

end WordStream

end ClaimGrid
