import HostBridge.Number.Binary64

/-!
# Shortest decimal digits of a binary64 number

A finite non-zero number `m * 2 ^ q` stands for all reals that round to it.  Its shortest decimal is
the one with the fewest digits in that interval, and of those the nearest.  All arithmetic is exact:
a decimal `c * 10 ^ g` is compared with a bound `x * 2 ^ q` by cross-multiplication.
-/

namespace HostBridge.Text

open HostBridge (Magnitude)

/-- A decimal number `digits * 10 ^ exponent`. -/
structure Decimal where
  digits : Nat
  exponent : Int
deriving DecidableEq, Repr

/-- The factors by which `c` and `x` are multiplied to compare `c * 10 ^ g` with `x * 2 ^ q`. -/
def scales (g q : Int) : Nat × Nat :=
  (Nat.pow 10 g.toNat * Nat.pow 2 (-q).toNat, Nat.pow 2 q.toNat * Nat.pow 10 (-g).toNat)

/-- Whether `10 ^ g ≤ m * 2 ^ q`. -/
def powerOfTenLe (g : Int) (m : Nat) (q : Int) : Bool :=
  let (a, b) := scales g q
  a ≤ m * b

/-- The largest `g` with `10 ^ g ≤ m * 2 ^ q`, found from an estimate that is off by one at most. -/
def decimalMagnitude (m : Nat) (q : Int) : Int :=
  let estimate := ((m.log2 : Int) + q) * 30103 / 100000
  if powerOfTenLe (estimate + 1) m q then estimate + 1
  else if powerOfTenLe estimate m q then estimate
  else estimate - 1

/-- The decimal on the grid of `10 ^ g` that lies in the interval of the number and is nearest to
it; of two that are equally near, the one with an even last digit. -/
def onGrid? (x : Magnitude) (g : Int) : Option Nat :=
  let (a, b) := scales g (x.exponent - 2)
  let value := 4 * x.mantissa * b
  let low := (4 * x.mantissa - (if x.narrowBelow then 1 else 2)) * b
  let high := (4 * x.mantissa + 2) * b
  let closed := x.mantissa % 2 == 0
  let inside (c : Nat) : Bool :=
    if closed then low ≤ c * a && c * a ≤ high else low < c * a && c * a < high
  let below := value / a
  let above := below + 1
  match inside below && below != 0, inside above with
  | false, false => none
  | true, false => some below
  | false, true => some above
  | true, true =>
    let down := value - below * a
    let up := above * a - value
    if down < up then some below
    else if up < down then some above
    else if below % 2 == 0 then some below else some above

/-- The first grid with a hit, from one digit on; 17 digits always suffice. -/
def shortestFrom (x : Magnitude) (magnitude : Int) : Nat → Nat → Decimal
  | 0, digits => ⟨x.mantissa, magnitude - digits⟩
  | fuel + 1, digits =>
    let g := magnitude - digits + 1
    match onGrid? x g with
    | some c => if c = Nat.pow 10 digits then ⟨1, magnitude + 1⟩ else ⟨c, g⟩
    | none => shortestFrom x magnitude fuel (digits + 1)

/-- The shortest decimal of a magnitude other than zero. -/
def shortest (x : Magnitude) : Decimal :=
  shortestFrom x (decimalMagnitude x.mantissa x.exponent) 17 1

end HostBridge.Text
