/-
Decimal numerals. A number is written without leading zeros; a count is read from an optional plus sign and ASCII
digits, leading zeros allowed, up to 4294967295.

- `natural?_digits`: a written number reads back;
- `digits_inj`: numbers are told apart by their digits;
- `count?_digits`: so does a count.
-/
namespace TrainingJobs.Text

def isDigit (c : Char) : Bool := '0' ≤ c && c ≤ '9'

/-- the decimal digits of a number, none of them a leading zero -/
def digits (n : Nat) : List Char := Nat.toDigits 10 n

def decimal (n : Nat) : String := String.ofList (digits n)

/-- a number with a minus sign in front when it is negative -/
def signedDecimal (n : Int) : String := if n < 0 then "-" ++ decimal n.natAbs else decimal n.natAbs

/-- the number a nonempty run of digits stands for -/
def natural? (cs : List Char) : Option Nat :=
  if cs.isEmpty || !cs.all isDigit then none else some (Nat.ofDigitChars 10 cs 0)

/-- a count of at most 32 bits, with an optional plus sign in front -/
def count? (cs : List Char) : Option UInt32 :=
  match natural? (if cs.head? = some '+' then cs.tail else cs) with
  | none => none
  | some n => if n < UInt32.size then some (UInt32.ofNat n) else none

theorem digits_ne_nil (n : Nat) : digits n ≠ [] := by simp [digits]

theorem isDigit_of_mem_digits {n : Nat} {c : Char} (h : c ∈ digits n) : isDigit c = true := by
  have := Nat.isDigit_of_mem_toDigits (b := 10) (by decide) (by decide) h
  simpa [isDigit, Char.isDigit, Char.le_def] using this

theorem natural?_digits (n : Nat) : natural? (digits n) = some n := by
  have h : (digits n).all isDigit = true := List.all_eq_true.2 fun _ => isDigit_of_mem_digits
  have e : (digits n).isEmpty = false := by simp [digits_ne_nil]
  rw [natural?, h, e]
  exact congrArg some Nat.ofDigitChars_ten_toDigits

theorem digits_inj {m n : Nat} (h : digits m = digits n) : m = n := by
  have hread : natural? (digits m) = natural? (digits n) := congrArg _ h
  rwa [natural?_digits, natural?_digits, Option.some.injEq] at hread

theorem count?_digits (n : UInt32) : count? (digits n.toNat) = some n := by
  have h : (digits n.toNat).head? ≠ some '+' := by
    intro h
    have := isDigit_of_mem_digits (List.mem_of_mem_head? h)
    exact absurd this (by decide)
  simp [count?, h, natural?_digits, n.toNat_lt]

end TrainingJobs.Text
