/-
Finite binary64 numbers in exact arithmetic: a sign and `mantissa * 2 ^ exponent`. The mantissa of a normal number lies
in [2^52, 2^53); a subnormal number and zero have the exponent -1074. `roundRatio` takes a quotient of naturals to the
nearest such number, an exact half to the even mantissa.

A decimal `digits * 10 ^ scale` is read in two roundings: the digits first, then their product or quotient with a
rounded power of ten.
-/
namespace TrainingJobs

/-- a finite binary64 number -/
structure Binary64 where
  negative : Bool
  mantissa : Nat
  exponent : Int
deriving DecidableEq, Repr, Inhabited

namespace Binary64

/-- the exponent of the subnormal numbers -/
def minExponent : Int := -1074

/-- the largest exponent of a finite number -/
def maxExponent : Int := 971

/-- the least mantissa of a normal number, 2^52 -/
def leastNormal : Nat := 4503599627370496

/-- the quotient rounded to a natural number, an exact half to the even one -/
def divHalfEven (num den : Nat) : Nat :=
  let q := num / den
  let twice := 2 * (num % den)
  if twice < den then q else if den < twice then q + 1 else q + q % 2

/-- the quotient of `num` and `den * 2 ^ e`, rounded -/
def scaledQuotient (num den : Nat) (e : Int) : Nat :=
  if e < 0 then divHalfEven (num * Nat.pow 2 e.natAbs) den else divHalfEven num (den * Nat.pow 2 e.natAbs)

/-- mantissa and exponent of the number nearest to `num / den`; none when that is too large -/
def roundRatio (num den : Nat) : Option (Nat × Int) :=
  if num = 0 then some (0, minExponent) else
  let guess : Int := (Nat.log2 num : Int) - Nat.log2 den - 52
  let small :=
    if guess < 0 then num * Nat.pow 2 guess.natAbs < den * leastNormal
    else num < den * Nat.pow 2 guess.natAbs * leastNormal
  let e := max (if small then guess - 1 else guess) minExponent
  let q := scaledQuotient num den e
  let (q, e) := if q = 2 * leastNormal then (leastNormal, e + 1) else (q, e)
  if e > maxExponent then none else some (q, e)

/-- a positive number as a quotient of naturals -/
def ratio (m : Nat) (e : Int) : Nat × Nat := if e < 0 then (m, Nat.pow 2 e.natAbs) else (m * Nat.pow 2 e.natAbs, 1)

/-- the rounded power of ten -/
def powerOfTen (k : Nat) : Nat × Nat := ((roundRatio (Nat.pow 10 k) 1).map fun (m, e) => ratio m e).getD (0, 1)

/-- the largest power of ten below infinity -/
def maxPower : Nat := 308

/-- division by powers of ten, the largest one first, until the rest of the scale is within range -/
def shrink : Nat → Nat → Int → Nat → Option (Nat × Int)
  | 0, _, _, _ => some (0, minExponent)
  | rounds + 1, m, e, scale =>
    let (num, den) := ratio m e
    let (pnum, pden) := powerOfTen (min scale maxPower)
    match roundRatio (num * pden) (den * pnum) with
    | none => none
    | some (m, e) => if scale ≤ maxPower || m = 0 then some (m, e) else shrink rounds m e (scale - maxPower)

/-- mantissa and exponent of `digits * 10 ^ scale`, read in two roundings; none when that is too large -/
def scaleTen (digits : Nat) (scale : Int) : Option (Nat × Int) :=
  match roundRatio digits 1 with
  | none => none
  | some (m, e) =>
    if m = 0 then some (0, minExponent)
    else if scale < 0 then shrink 3 m e scale.natAbs
    else if scale.natAbs ≤ maxPower then
      let (num, den) := ratio m e
      let (pnum, pden) := powerOfTen scale.natAbs
      roundRatio (num * pnum) (den * pden)
    else none

/-- the number that a decimal numeral stands for -/
def ofDecimal (negative : Bool) (digits : Nat) (scale : Int) : Option Binary64 :=
  (scaleTen digits scale).map fun (m, e) => ⟨negative, m, e⟩

end Binary64

end TrainingJobs
