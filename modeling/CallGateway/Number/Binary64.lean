/-
  CallGateway.Number.Binary64
  ───────────────────────────
  **DOUBLE-PRECISION NUMBERS IN EXACT ARITHMETIC.**

  A finite double is a sign, a mantissa below 2^53 and a power of two not
  below 2^-1074.  Every operation computes the exact quotient and rounds it
  once, to the nearest double and on a tie to the even mantissa.
-/
import CallGateway.Bytes

namespace CallGateway

/-- A finite double-precision number: `mantissa * 2 ^ exponent`, with a
sign that zero keeps too. -/
structure Binary64 where
  -- The sign; zero has one as well.
  negative : Bool
  mantissa : Nat
  -- The power of two, from -1074 to 971.
  exponent : Int
  deriving DecidableEq, Repr, Inhabited

namespace Binary64

/-! ## §1. Rounding. -/

/-- The integer nearest to `num / den`; a tie goes to the even one. -/
def nearest (num den : Nat) : Nat :=
  let quotient := num / den
  let twice := 2 * (num % den)
  if twice < den then quotient
  else if den < twice then quotient + 1
  else if quotient % 2 = 0 then quotient else quotient + 1

/-- The exponent of the last place of the double nearest to a positive
quotient: 53 binary digits are kept, fewer near the smallest doubles. -/
def unitExponent (num den : Nat) : Int :=
  let q : Int := max (Int.ofNat num.log2 - Int.ofNat den.log2 - 53) (-1074)
  if den <<< (q.toNat + 53) ≤ num <<< (-q).toNat then q + 1 else q

/-- The double nearest to `num / den`, if it is finite. -/
def ofRatio? (negative : Bool) (num den : Nat) : Option Binary64 :=
  let q := unitExponent num den
  let m := nearest (num <<< (-q).toNat) (den <<< q.toNat)
  let (m, q) := if m = 1 <<< 53 then (1 <<< 52, q + 1) else (m, q)
  if 971 < q then none else some ⟨negative, m, q⟩

/-- The double nearest to a natural number, which must not be beyond the
largest one. -/
def ofNat (n : Nat) : Binary64 := (ofRatio? false n 1).getD ⟨false, 0, -1074⟩

/-- Both zeros. -/
def isZero (x : Binary64) : Bool := x.mantissa = 0

/-- The magnitude as an exact quotient. -/
def ratio (x : Binary64) : Nat × Nat :=
  (x.mantissa <<< x.exponent.toNat, 1 <<< (-x.exponent).toNat)

/-- The rounded product of two magnitudes, if it is finite. -/
def mul? (x y : Binary64) : Option Binary64 :=
  ofRatio? x.negative (x.ratio.1 * y.ratio.1) (x.ratio.2 * y.ratio.2)

/-- The rounded quotient of two magnitudes, the second one at least 1. -/
def div (x y : Binary64) : Binary64 :=
  (ofRatio? x.negative (x.ratio.1 * y.ratio.2) (x.ratio.2 * y.ratio.1)).getD x

/-! ## §2. Scaling by powers of ten. -/

/-- The double nearest to a power of ten. -/
def powerOfTen (n : Nat) : Binary64 := ofNat (Nat.pow 10 n)

/-- Scale by a power of ten in one rounded step where the power is a
finite double, and in steps of 10^-308 below that. -/
def scale? (x : Binary64) (e : Int) : Option Binary64 :=
  if e.natAbs ≤ 308 then
    if 0 ≤ e then x.mul? (powerOfTen e.natAbs) else some (x.div (powerOfTen e.natAbs))
  else if x.isZero then some x
  else if 0 ≤ e then none
  else (x.div (powerOfTen 308)).scale? (e + 308)
termination_by e.natAbs

/-- The double written as `significand * 10 ^ e`, if it is finite. -/
def ofDecimal? (negative : Bool) (significand : Nat) (e : Int) : Option Binary64 := do
  let x ← (ofNat significand).scale? e
  return { x with negative := negative }

end Binary64

end CallGateway
