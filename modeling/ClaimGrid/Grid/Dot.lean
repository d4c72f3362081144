import ClaimGrid.Text.Decimal

/-!
# Dots

A dot is a cell of the grid, named by its column `x` and its row `y`; rows count downwards.

## Main definitions

* `Dot`: a cell with 8-bit coordinates.
* `Dot.key`: the 16-bit key under which a dot is stored, and `Dot.ofKey` back.
* `Dot.distance`: the number of single steps between two dots.

## Main results

* `Dot.ofKey_key`, `Dot.key_ofKey`: dots and keys correspond one to one.
-/

namespace ClaimGrid

/-- A cell of the grid. -/
structure Dot where
  /-- Column, counted from the left. -/
  x : UInt8
  /-- Row, counted from the top. -/
  y : UInt8
  deriving DecidableEq, Inhabited

namespace Dot

/-- The key of a dot: its column in the high byte, its row in the low byte. -/
def key (d : Dot) : UInt16 := d.x.toUInt16 * 256 + d.y.toUInt16

/-- The dot that has a given key. -/
def ofKey (k : UInt16) : Dot := ⟨(k / 256).toUInt8, k.toUInt8⟩

/-- How far apart two coordinates are. -/
def gap (a b : UInt8) : Nat := max a.toNat b.toNat - min a.toNat b.toNat

/-- The number of single steps from one dot to the other, without wrapping. -/
def distance (a b : Dot) : Nat := gap a.x b.x + gap a.y b.y

/-- Dots are ordered by column, then by row. -/
instance : Ord Dot where
  compare a b := (compare a.x b.x).then (compare a.y b.y)

/-- A dot as it is written in messages. -/
def text (d : Dot) : String :=
  "(" ++ Decimal.numeral d.x.toNat ++ ", " ++ Decimal.numeral d.y.toNat ++ ")"

theorem toNat_key (d : Dot) : d.key.toNat = d.x.toNat * 256 + d.y.toNat := by
  have hx := d.x.toNat_lt
  have hy := d.y.toNat_lt
  simp only [key, UInt16.toNat_add, UInt16.toNat_mul, UInt8.toNat_toUInt16, UInt16.reduceToNat]
  omega

@[simp] theorem ofKey_key (d : Dot) : ofKey d.key = d := by
  have hx := d.x.toNat_lt
  have hy := d.y.toNat_lt
  obtain ⟨x, y⟩ := d
  simp only [ofKey, Dot.mk.injEq]
  constructor <;> apply UInt8.toNat_inj.1
  · simp only [UInt16.toNat_toUInt8, UInt16.toNat_div, toNat_key, UInt16.reduceToNat]
    simp only at hx hy
    omega
  · simp only [UInt16.toNat_toUInt8, toNat_key]
    simp only at hx hy
    omega

@[simp] theorem key_ofKey (k : UInt16) : (ofKey k).key = k := by
  apply UInt16.toNat_inj.1
  have hk := k.toNat_lt
  rw [toNat_key]
  simp only [ofKey, UInt16.toNat_toUInt8, UInt16.toNat_div, UInt16.reduceToNat]
  omega

theorem key_inj {a b : Dot} : a.key = b.key ↔ a = b :=
  ⟨fun h => by rw [← ofKey_key a, h, ofKey_key], fun h => h ▸ rfl⟩

end Dot

end ClaimGrid
