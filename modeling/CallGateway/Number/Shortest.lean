/-
  CallGateway.Number.Shortest
  ───────────────────────────
  **THE FEWEST DIGITS THAT READ BACK.**

  The real numbers that round to a given double form an interval.  For one,
  two, … seventeen digits the double has two neighbours on the decimal grid
  of that many digits; the first grid with a neighbour inside the interval
  wins, and of two such neighbours the nearer, on a tie the even one.
-/
import CallGateway.Number.Binary64

namespace CallGateway

/-- A decimal number `0.d₁d₂… * 10 ^ point`, most significant digit first. -/
structure Decimal where
  -- The digits, without zeros at the end.
  digits : List Nat
  -- How many of the digits stand before the decimal point.
  point : Int
  deriving DecidableEq, Repr

namespace Decimal

/-- The decimal digits of a number, most significant first. -/
def digitsOf (n : Nat) : List Nat :=
  if n < 10 then [n] else digitsOf (n / 10) ++ [n % 10]

/-- A number without the zeros at its end, and how many there were. -/
def stripZeros (n : Nat) : Nat :=
  if h : n ≠ 0 ∧ n % 10 = 0 then stripZeros (n / 10) else n
termination_by n
decreasing_by omega

/-- The text of some digits. -/
def text (ds : List Nat) : String := String.join (ds.map toString)

/-- Positional notation, with at least one digit on either side of the
point. -/
def positional (d : Decimal) : String :=
  let n := d.digits.length
  if d.point ≤ 0 then "0." ++ text (List.replicate (-d.point).toNat 0 ++ d.digits)
  else
    let k := d.point.toNat
    if n ≤ k then text (d.digits ++ List.replicate (k - n) 0) ++ ".0"
    else text (d.digits.take k) ++ "." ++ text (d.digits.drop k)

/-- Exponent notation: one digit, the others after a point if there are
any, and the signed power of ten. -/
def scientific (d : Decimal) : String :=
  let e := d.point - 1
  let tail := if d.digits.length ≤ 1 then "" else "." ++ text (d.digits.drop 1)
  text (d.digits.take 1) ++ tail ++ "e" ++ (if e < 0 then "-" else "+") ++ toString e.natAbs

end Decimal

namespace Binary64

/-! ## The search. -/

/-- `10 ^ e ≤ num / den`. -/
def tenPowerLe (e : Int) (num den : Nat) : Bool :=
  Nat.pow 10 e.toNat * den ≤ num * Nat.pow 10 (-e).toNat

/-- How many digits of a positive quotient stand before the point; a count
below zero counts the zeros after it. -/
def pointOf (num den : Nat) : Int :=
  let guess := (Int.ofNat num.log2 - Int.ofNat den.log2) * 30103 / 100000 - 1
  (List.range 4).foldl (fun p _ => if tenPowerLe p num den then p + 1 else p) guess

/-- The decimal of `k` digits that is nearest to a positive double among
its two neighbours on that grid, if one of them rounds to the double. -/
def onGrid? (x : Binary64) (point : Int) (k : Nat) : Option Nat :=
  let (num, den) := x.ratio
  let step := point - Int.ofNat k
  let up := Nat.pow 10 step.toNat
  let down := Nat.pow 10 (-step).toNat
  -- the double in units of the grid is `value / unit`
  let value := num * down
  let unit := den * up
  -- a quarter of the last binary place, in the same units
  let quarter := down <<< x.exponent.toNat
  let narrow := x.mantissa = 1 <<< 52 ∧ -1074 < x.exponent
  let low := 4 * value - (if narrow then quarter else 2 * quarter)
  let high := 4 * value + 2 * quarter
  let inside (d : Nat) : Bool :=
    if x.mantissa % 2 = 0 then low ≤ 4 * (d * unit) && 4 * (d * unit) ≤ high
    else low < 4 * (d * unit) && 4 * (d * unit) < high
  let below := value / unit
  let above := below + 1
  match inside below, inside above with
  | true, true =>
    let twice := 2 * (value % unit)
    some (if twice < unit || (twice = unit && below % 2 = 0) then below else above)
  | true, false => some below
  | false, true => some above
  | false, false => none

/-- The shortest decimal that reads back as this double's magnitude. -/
def shortest (x : Binary64) : Decimal :=
  if x.isZero then ⟨[0], 1⟩ else
    let (num, den) := x.ratio
    let point := pointOf num den
    match (List.range 17).findSome? fun k => (x.onGrid? point (k + 1)).map (k + 1, ·) with
    | some (k, d) =>
      let digits := Decimal.digitsOf d
      ⟨Decimal.digitsOf (Decimal.stripZeros d), point + (Int.ofNat digits.length - Int.ofNat k)⟩
    | none => ⟨[0], 1⟩

/-- The sign of a double as text. -/
def sign (x : Binary64) : String := if x.negative then "-" else ""

/-- Positional notation from 10^-5 up to 10^16, exponent notation outside. -/
def compact (x : Binary64) : String :=
  let d := x.shortest
  if x.isZero || (-5 < d.point && d.point ≤ 16) then x.sign ++ d.positional
  else x.sign ++ d.scientific

end Binary64

end CallGateway
