/-
Labels as DNS-1123 has them: 1 to 63 characters of `a` to `z`, `0` to `9` and `-`, neither the first nor the last of
them `-`. `slug` turns any text into the part of a label that its ASCII letters and digits can give.
-/
namespace TrainingJobs.Text

def isLowerAlnum (c : Char) : Bool := ('a' ≤ c && c ≤ 'z') || ('0' ≤ c && c ≤ '9')

def isLabelChar (c : Char) : Bool := isLowerAlnum c || c == '-'

/-- the longest label, in bytes -/
def maxLabelLength : Nat := 63

/-- the characters are those of a label and it starts and ends with a letter or digit; any length but zero -/
def hasLabelForm (cs : List Char) : Bool :=
  cs.all isLabelChar && cs.head?.any isLowerAlnum && cs.getLast?.any isLowerAlnum

/-- a DNS-1123 label -/
def isLabel (s : String) : Bool := s.utf8ByteSize ≤ maxLabelLength && hasLabelForm s.toList

def dropDashes (cs : List Char) : List Char := cs.dropWhile (· == '-')

def dropDashesEnd (cs : List Char) : List Char := (dropDashes cs.reverse).reverse

/-- letters in lower case, digits as they are, one dash for every other run of characters;
`dashed` says that a dash has just been written -/
def collapse (dashed : Bool) : List Char → List Char
  | [] => []
  | c :: rest =>
    if isLowerAlnum c.toLower then c.toLower :: collapse false rest
    else if dashed then collapse true rest
    else '-' :: collapse true rest

/-- lower-case letters and digits, the runs of them joined by single dashes -/
def slug (s : String) : List Char := dropDashesEnd (dropDashes (collapse false s.toList))

end TrainingJobs.Text
