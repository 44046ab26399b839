/-
The shortest decimal of a binary64 number: the fewest digits that round back to it, of several such decimals the nearest
to it. Positional from 1e-5 up to below 1e16, always with a fractional digit; scientific elsewhere, with a sign in every
exponent.
-/
import TrainingJobs.Decimal.Binary64
import TrainingJobs.Text.Numeral

namespace TrainingJobs

namespace Binary64

/-- the reals that round to a number: both ends as quotients of naturals, the ends included when the mantissa is even -/
structure Basin where
  low : Nat × Nat
  high : Nat × Nat
  closed : Bool

def basin (m : Nat) (e : Int) : Basin where
  low := if m = leastNormal && e > minExponent then ratio (4 * m - 1) (e - 2) else ratio (2 * m - 1) (e - 1)
  high := ratio (2 * m + 1) (e - 1)
  closed := m % 2 = 0

/-- the quotient lies among the reals of the basin -/
def Basin.holds (b : Basin) (num den : Nat) : Bool :=
  let above := compare (num * b.low.2) (b.low.1 * den)
  let below := compare (num * b.high.2) (b.high.1 * den)
  (above == .gt || (b.closed && above == .eq)) && (below == .lt || (b.closed && below == .eq))

/-- the decimal `d * 10 ^ k` as a quotient of naturals -/
def tenth (d : Nat) (k : Int) : Nat × Nat := if k < 0 then (d, Nat.pow 10 k.natAbs) else (d * Nat.pow 10 k.natAbs, 1)

/-- the point of the grid of spacing `10 ^ k` that lies in the basin nearest to the number, if one does -/
def onGrid (m : Nat) (e : Int) (k : Int) : Option Nat :=
  let (num, den) := ratio m e
  let (unum, uden) := tenth 1 k
  let d := num * uden / (den * unum)
  let twice := 2 * (num * uden % (den * unum))
  let hit := fun d => let (n, q) := tenth d k; (basin m e).holds n q
  let near := if twice < den * unum then d else if den * unum < twice then d + 1 else d + d % 2
  let far := if near = d then d + 1 else d
  if hit near && near ≠ 0 then some near else if hit far && far ≠ 0 then some far else none

/-- the decimal exponent of the leading digit of a positive number, plus one -/
def decimalPoint (m : Nat) (e : Int) : Int :=
  let (num, den) := ratio m e
  (Text.digits (num * Nat.pow 10 400 / den)).length - 400

/-- the first grid with a point in the basin, from the coarsest on: the digits and their scale -/
def search (m : Nat) (e : Int) (k : Int) : Nat → Nat × Int
  | 0 => (0, 0)
  | rounds + 1 =>
    match onGrid m e k with
    | some d => (d, k)
    | none => search m e (k - 1) rounds

/-- digits and scale of the shortest decimal of a positive number -/
def shortest (m : Nat) (e : Int) : Nat × Int := search m e (decimalPoint m e) 18

/-- the text of `d * 10 ^ k` -/
def layout (d : Nat) (k : Int) : List Char :=
  let ds := Text.digits d
  let point := ds.length + k
  if 0 ≤ k && point ≤ 16 then ds ++ List.replicate k.natAbs '0' ++ ['.', '0']
  else if 0 < point && point ≤ 16 then ds.take point.natAbs ++ '.' :: ds.drop point.natAbs
  else if -5 < point && point ≤ 0 then '0' :: '.' :: List.replicate point.natAbs '0' ++ ds
  else
    let head := if ds.length = 1 then ds else ds.take 1 ++ '.' :: ds.drop 1
    let mark := if 0 < point then ['e', '+'] else ['e']
    head ++ mark ++ (Text.signedDecimal (point - 1)).toList

/-- the shortest decimal that reads back as the number -/
def decimalText (x : Binary64) : List Char :=
  let sign := if x.negative then ['-'] else []
  if x.mantissa = 0 then sign ++ ['0', '.', '0']
  else let (d, k) := shortest x.mantissa x.exponent; sign ++ layout d k

end Binary64

end TrainingJobs
