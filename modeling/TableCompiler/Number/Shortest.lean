import TableCompiler.Number.Double

/-!
# Shortest decimals — the fewest digits that read back

The reals that round to a finite double form an interval around it, whose ends belong to it exactly
if the significand is even. For one, two, … digits the two neighbours of the double on that decimal
grid are tested; the first grid with a point in the interval gives the digits, the nearer neighbour
winning. What happens halfway between two neighbours is for the caller to say.
-/

namespace TableCompiler.Number

/-- A decimal number `coefficient · 10^exponent`. -/
structure Decimal where
  coefficient : Nat
  exponent : Int
  deriving DecidableEq, Repr

/-- What to do when two shortest decimals are equally near. -/
inductive DecimalTie where
  | up
  | even
  deriving DecidableEq, Repr

/-- The exponent of the largest power of ten that is not above a positive ratio. -/
def floorLogTen (num den : Nat) : Int :=
  let guess := floorLogTwo num den * 30103 / 100000
  let reaches (e : Int) : Bool :=
    let power := scaleTen 1 1 e
    power.1 * den ≤ num * power.2
  if reaches (guess + 1) then guess + 1
  else if reaches guess then guess
  else guess - 1

/-- A decimal without the zeros at the end of its coefficient; `fuel` bounds their number. -/
def Decimal.strip : (fuel : Nat) → Decimal → Decimal
  | 0, d => d
  | fuel + 1, d =>
    if d.coefficient ≠ 0 && d.coefficient % 10 = 0 then
      Decimal.strip fuel ⟨d.coefficient / 10, d.exponent + 1⟩
    else d

/-- The neighbour of `m · 2^q` on the grid of `digits` digits that reads back, if there is one.
`narrow` says that the gap below is half the gap above. -/
def nearestOnGrid (tie : DecimalTie) (m : Nat) (q : Int) (narrow : Bool) (digits : Nat) :
    Option Decimal :=
  let start := scaleTwo m 1 q
  let place := floorLogTen start.1 start.2 - digits + 1
  let two := scaleTwo 1 1 (q - 2)
  let ten := scaleTen 1 1 place
  let factor := two.1 * ten.2
  let unit := two.2 * ten.1
  let value := 4 * m * factor
  let low := (4 * m - if narrow then 1 else 2) * factor
  let high := (4 * m + 2) * factor
  let below := value / unit
  let rest := value % unit
  let closed := m % 2 = 0
  let belowHits := low < below * unit || (closed && low = below * unit)
  let aboveHits := (below + 1) * unit < high || (closed && (below + 1) * unit = high)
  let preferAbove :=
    unit < 2 * rest || (2 * rest = unit && (tie = .up || below % 2 = 1))
  if belowHits && aboveHits then
    some ⟨if preferAbove then below + 1 else below, place⟩
  else if belowHits then some ⟨below, place⟩
  else if aboveHits then some ⟨below + 1, place⟩
  else none

/-- The first grid, from `digits` digits on, with a point that reads back. -/
def shortestFrom (tie : DecimalTie) (m : Nat) (q : Int) (narrow : Bool) :
    (fuel digits : Nat) → Decimal
  | 0, _ => ⟨m, q⟩
  | fuel + 1, digits =>
    match nearestOnGrid tie m q narrow digits with
    | some d => d.strip 20
    | none => shortestFrom tie m q narrow fuel (digits + 1)

/-- The shortest decimal for the magnitude of a finite double other than zero. -/
def Double.shortest (tie : DecimalTie) (x : Double) : Decimal :=
  let narrow := x.magnitude % Nat.pow 2 52 = 0 && Nat.pow 2 52 < x.magnitude
  shortestFrom tie x.unpack.1 x.unpack.2 narrow 17 1

end TableCompiler.Number
