/-!
# Shortest decimals

The decimal with the fewest digits that still denotes the binary number `m * 2 ^ q`, in exact `Nat`
arithmetic. All reals nearer to `m * 2 ^ q` than to its two neighbours denote it, and so do the two
midpoints when `m` is even. `Shortest.digits` tries grids of one, two, … digits: on each grid the
two points around the number are its only candidates, the first grid with a candidate inside wins,
of two candidates the nearer is taken, and a tie goes away from zero.
-/

namespace MethodBinding

/-- The decimal `coefficient * 10 ^ exponent`. -/
structure Decimal where
  coefficient : Nat
  exponent : Int
deriving DecidableEq

namespace Shortest

/-- The reals that denote a number, in quarters of its last place. -/
structure Interval where
  low : Nat
  middle : Nat
  high : Nat
  closed : Bool

/-- The interval of `m * 2 ^ q`; `narrow` says that the gap below the number is half the gap above,
as it is at a power of two. -/
def Interval.around (m : Nat) (narrow : Bool) : Interval where
  low := if narrow then 4 * m - 1 else 4 * m - 2
  middle := 4 * m
  high := 4 * m + 2
  closed := m % 2 == 0

/-- The number of decimal digits of `n`; zero has one. -/
def digitCount (n : Nat) : Nat := (Nat.toDigits 10 n).length

/-- The least `k` with `num / den < 10 ^ k`, for a positive quotient. -/
def magnitude (num den : Nat) : Int :=
  if den ≤ num then digitCount (num / den)
  else
    -- `10 ^ j ≤ den / num`, and equality needs one place more
    let j := digitCount (den / num) - 1
    if num * Nat.pow 10 j < den then -j else 1 - j

/-- The candidates of the grid of all `c * 10 ^ e`. A grid point is compared with a bound
`n * 2 ^ (q - 2)` of the interval after both have been made whole. -/
def candidate? (interval : Interval) (q e : Int) : Option Decimal :=
  let step := Nat.pow 10 e.toNat * Nat.pow 2 (2 - q).toNat
  let unit := Nat.pow 2 (q - 2).toNat * Nat.pow 10 (-e).toNat
  let low := interval.low * unit
  let middle := interval.middle * unit
  let high := interval.high * unit
  let inside (c : Nat) : Bool :=
    if interval.closed then low ≤ c * step && c * step ≤ high
    else low < c * step && c * step < high
  let below := middle / step
  let above := below + 1
  if inside below && (!inside above || middle - below * step < above * step - middle) then
    some ⟨below, e⟩
  else if inside above then some ⟨above, e⟩
  else none

/-- The first candidate on the grids with `places`, `places + 1`, … digits below `10 ^ top`. -/
def search (interval : Interval) (q top : Int) (places : Nat) : Nat → Option Decimal
  | 0 => none
  | grids + 1 =>
    match candidate? interval q (top - places) with
    | some d => some d
    | none => search interval q top (places + 1) grids

/-- The shortest decimal that denotes the positive number `m * 2 ^ q`. Seventeen digits always
do. -/
def digits (m : Nat) (q : Int) (narrow : Bool) : Decimal :=
  let top := magnitude (m * Nat.pow 2 q.toNat) (Nat.pow 2 (-q).toNat)
  (search (Interval.around m narrow) q top 1 17).getD ⟨0, 0⟩

end Shortest

end MethodBinding
