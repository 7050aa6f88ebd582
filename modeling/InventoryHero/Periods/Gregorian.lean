import InventoryHero.Periods.Division

/-!
# The Gregorian calendar

Months and years as a `Division` of the days, which are counted from 1 January 1970. The years of
`marchYears` start in March, so that the leap day comes last: four hundred years are split into
centuries, these into groups of four years, and these into years, and each time the last part is the
one with a day more or less. The months of such a year follow one pattern.
-/

set_option autoImplicit false

namespace InventoryHero.Periods.Gregorian

open Division

/-- Four hundred years, of which one period starts on 1 March of the year 0. -/
def eras : Division := uniform 146097 (by decide) (-719468)

def centuries : Division :=
  eras.split (uniform 36524 (by decide) 0) 4 (by decide) rfl (by
    intro n
    simp only [eras, uniform]
    omega)

/-- Groups of four years. -/
def quads : Division :=
  centuries.split (uniform 1461 (by decide) 0) 25 (by decide) rfl (by
    intro n
    simp only [centuries, split, splitStart, eras, uniform]
    omega)

/-- Years from March to February. -/
def marchYears : Division :=
  quads.split (uniform 365 (by decide) 0) 4 (by decide) rfl (by
    intro n
    simp only [quads, centuries, split, splitStart, eras, uniform]
    omega)

/-- The months of a year that starts in March: 31, 30, 31, 30 and 31 days, over again. -/
def monthPattern : Division where
  start m := (153 * m + 2) / 5
  number d := (5 * d + 2) / 153
  gc m d := by
    show (153 * m + 2) / 5 ≤ d ↔ m ≤ (5 * d + 2) / 153
    omega
  start_lt m := by omega

def months : Division :=
  marchYears.split monthPattern 12 (by decide) rfl (by
    intro n
    simp only [marchYears, quads, centuries, split, splitStart, eras, uniform, monthPattern]
    omega)

/-- Years from January to December: twelve months, from two months before March on. -/
def years : Division := months.group (uniform 12 (by decide) (-2))

-- 1 January 1970, and how long February is in 2000, 1900, 2024 and 2026
example : months.start (12 * 1969 + 10) = 0 ∧
    months.start (12 * 1999 + 12) - months.start (12 * 1999 + 11) = 29 ∧
    months.start (12 * 1899 + 12) - months.start (12 * 1899 + 11) = 28 ∧
    months.start (12 * 2023 + 12) - months.start (12 * 2023 + 11) = 29 ∧
    months.start (12 * 2025 + 12) - months.start (12 * 2025 + 11) = 28 := by decide

end InventoryHero.Periods.Gregorian
