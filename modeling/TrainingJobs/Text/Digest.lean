/-
Fingerprints of texts: the 64-bit FNV-1a hash of the UTF-8 bytes, written as 16 lower-case hexadecimal digits.
-/
namespace TrainingJobs.Text

/-- the UTF-8 encoding of a text -/
def utf8 (s : String) : List UInt8 := s.toList.flatMap String.utf8EncodeChar

def fnvOffset : UInt64 := 0xcbf29ce484222325

def fnvPrime : UInt64 := 0x100000001b3

/-- one byte is mixed in by exclusive or, then spread by the prime -/
def fnvStep (hash : UInt64) (byte : UInt8) : UInt64 := (hash ^^^ byte.toUInt64) * fnvPrime

def fnv (bytes : List UInt8) : UInt64 := bytes.foldl fnvStep fnvOffset

def hexDigit (n : Nat) : Char := Char.ofNat (if n < 10 then 48 + n else 87 + n)

/-- the lowest `width` hexadecimal digits of a number, the highest of them first -/
def hexDigits : Nat → Nat → List Char
  | 0, _ => []
  | width + 1, n => hexDigits width (n / 16) ++ [hexDigit (n % 16)]

def fingerprint (s : String) : String := String.ofList (hexDigits 16 (fnv (utf8 s)).toNat)

theorem hexDigits_length (width n : Nat) : (hexDigits width n).length = width := by
  induction width generalizing n with
  | zero => rfl
  | succ width ih => simp [hexDigits, ih]

end TrainingJobs.Text
