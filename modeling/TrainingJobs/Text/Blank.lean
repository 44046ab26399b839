/-
Blank characters: the 25 characters with the Unicode property White_Space, and texts freed of them at both ends.
-/
namespace TrainingJobs.Text

/-- the Unicode property White_Space -/
def isBlank (c : Char) : Bool :=
  let n := c.toNat
  (0x09 ≤ n && n ≤ 0x0D) || n == 0x20 || n == 0x85 || n == 0xA0 || n == 0x1680 || (0x2000 ≤ n && n ≤ 0x200A) ||
    n == 0x2028 || n == 0x2029 || n == 0x202F || n == 0x205F || n == 0x3000

def trimStart (cs : List Char) : List Char := cs.dropWhile isBlank

def trimEnd (cs : List Char) : List Char := (cs.reverse.dropWhile isBlank).reverse

/-- the text without the blanks it starts and ends with -/
def trim (cs : List Char) : List Char := trimEnd (trimStart cs)

end TrainingJobs.Text
