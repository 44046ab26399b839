/-
How many nodes a launch needs: a fixed count or a range. In text a count is `n` and a range `min:max`, the numerals as
`Text.count?` reads them with blanks around each; a count is at least 1 and a range does not fall. On the wire a count
is an integer and a range its text.

- `check_eq_ok_iff`: what the checks accept.
-/
import TrainingJobs.Json.Typed
import TrainingJobs.Text.Blank

namespace TrainingJobs

inductive NodeCount where
  | fixed (nodes : UInt32)
  | range (min max : UInt32)
deriving DecidableEq, Repr

namespace NodeCount

instance : Inhabited NodeCount := ⟨fixed 1⟩

def min : NodeCount → UInt32
  | fixed n => n
  | range lo _ => lo

def max : NodeCount → UInt32
  | fixed n => n
  | range _ hi => hi

/-- the count itself if it is at least 1 and does not fall -/
def check : NodeCount → Except Misconfiguration NodeCount
  | fixed n => if n = 0 then .error .zeroNodes else .ok (fixed n)
  | range lo hi =>
    if lo = 0 then .error (.zeroMinNodes lo hi)
    else if hi < lo then .error (.invertedNodes lo hi)
    else .ok (range lo hi)

/-- at least one node, and no more at the low end than at the high end -/
def IsValid (c : NodeCount) : Prop := 1 ≤ c.min ∧ c.min ≤ c.max

theorem check_eq_ok_iff (c d : NodeCount) : c.check = .ok d ↔ c = d ∧ c.IsValid := by
  cases c with
  | fixed n =>
    simp only [check, IsValid, min, max]
    split
    · next h => subst h; simp
    · next h =>
      have : 1 ≤ n := UInt32.le_iff_toNat_le.2 (by have := mt UInt32.toNat_inj.1 h; simp at *; omega)
      simp [this]
  | range lo hi =>
    simp only [check, IsValid, min, max]
    split
    · next h => subst h; simp
    · next h =>
      have h1 : 1 ≤ lo := UInt32.le_iff_toNat_le.2 (by have := mt UInt32.toNat_inj.1 h; simp at *; omega)
      split
      · next h2 => simp [UInt32.not_le.2 h2]
      · next h2 => simp [h1, UInt32.not_lt.1 h2]

def text : NodeCount → String
  | fixed n => Text.decimal n.toNat
  | range lo hi => Text.decimal lo.toNat ++ ":" ++ Text.decimal hi.toNat

/-- the parts between the colons -/
def parts : List Char → List (List Char)
  | [] => [[]]
  | c :: rest =>
    if c = ':' then [] :: parts rest
    else match parts rest with
      | [] => [[c]]
      | part :: others => (c :: part) :: others

/-- one bound of the text `whole` -/
def bound (whole : String) (part : List Char) : Except Misconfiguration UInt32 :=
  let part := Text.trim part
  if part.head? = some '-' then .error (.negativeNodes whole)
  else match Text.count? part with
    | some n => .ok n
    | none => .error (.malformedNodes whole)

def parse (s : String) : Except Misconfiguration NodeCount :=
  match parts s.toList with
  | [n] => do check (fixed (← bound s n))
  | [lo, hi] => do
    let lo ← bound s lo
    let hi ← bound s hi
    check (range lo hi)
  | _ => .error (.malformedNodes s)

def ofInt (n : Int) : Except Misconfiguration NodeCount :=
  match countOf? n with
  | some c => check (fixed c)
  | none => .error (.nodesOutOfRange n)

def ofJson : Json → Reading NodeCount
  | .number (.int n) => if Json.isSigned64 n then (ofInt n).mapError .invalid else .error .malformed
  | .text s => (parse s).mapError .invalid
  | _ => .error .malformed

def toJson : NodeCount → Json
  | fixed n => .ofCount n
  | range lo hi => .text (range lo hi).text

end NodeCount

end TrainingJobs
