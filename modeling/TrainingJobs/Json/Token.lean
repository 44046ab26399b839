/-
JSON text in tokens: punctuation marks, texts and other scalars. The scanner reads one character a step; blanks between
tokens are space, tab, line feed and carriage return. A text ends with its quote, holds no control character and escapes
by backslash; `\u` names a UTF-16 unit. A text in which half of a surrogate pair stands alone has no content, and a
numeral too large for a binary64 number is void.
-/
import TrainingJobs.Json.Value
import TrainingJobs.Text.Numeral

namespace TrainingJobs.Json

inductive Token where
  | openList
  | closeList
  | openRecord
  | closeRecord
  | colon
  | comma
  /-- a text with its content -/
  | text (content : Option String)
  | scalar (value : Json)
deriving DecidableEq

/-- what has been read of a text -/
structure Piece where
  /-- the last character first -/
  read : List Char := []
  /-- no half of a surrogate pair stands alone -/
  whole : Bool := true
deriving DecidableEq

namespace Piece

def push (p : Piece) (c : Char) : Piece := { p with read := c :: p.read }

def spoil (p : Piece) : Piece := { p with whole := false }

def content? (p : Piece) : Option String := if p.whole then some (String.ofList p.read.reverse) else none

end Piece

/-- what has been read of the token at hand -/
inductive Scan where
  | between
  /-- the last character first -/
  | word (read : List Char)
  /-- the last character first -/
  | numeral (read : List Char)
  | text (piece : Piece)
  | escape (piece : Piece)
  /-- inside `\u`: a leading surrogate before it, the hexadecimal digits to come, the value so far -/
  | unit (piece : Piece) (lead : Option Nat) (missing : Nat) (value : Nat)
  /-- after a leading surrogate: the backslash of the trailing one has been read or not -/
  | trail (piece : Piece) (lead : Nat) (slash : Bool)
deriving DecidableEq

def word? (cs : List Char) : Option Token :=
  if cs = "null".toList then some (.scalar .null)
  else if cs = "true".toList then some (.scalar (.bool true))
  else if cs = "false".toList then some (.scalar (.bool false))
  else none

/-- the largest 64-bit number -/
def maxWord : Nat := 18446744073709551615

/-- digits before the point, as long as they fit 64 bits; each digit after that counts one power of ten -/
def wholeDigits (cs : List Char) : Nat × Int :=
  let step := fun ((n, k) : Nat × Int) (c : Char) =>
    let n' := n * 10 + (c.toNat - 48)
    if k = 0 && n' ≤ maxWord then (n', k) else (n, k + 1)
  cs.foldl step (0, 0)

/-- digits after the point, as long as they fit 64 bits; the others are dropped -/
def fractionDigits (n : Nat) (k : Int) : List Char → Nat × Int
  | [] => (n, k)
  | c :: rest =>
    let n' := n * 10 + (c.toNat - 48)
    if n' ≤ maxWord then fractionDigits n' (k - 1) rest else (n, k)

/-- the exponent of a numeral: nothing, or `e` with an optional sign and digits -/
def exponent? : List Char → Option Int
  | [] => some 0
  | mark :: rest =>
    if mark ≠ 'e' && mark ≠ 'E' then none
    else match rest with
      | '-' :: ds => (Text.natural? ds).map fun n => -(n : Int)
      | '+' :: ds => (Text.natural? ds).map Int.ofNat
      | ds => (Text.natural? ds).map Int.ofNat

def numberOrVoid : Option Number → Json
  | some n => .number n
  | none => .void

def unsignedNumeral? (negative : Bool) (cs : List Char) : Option Json :=
  let whole := cs.takeWhile Text.isDigit
  let rest := cs.dropWhile Text.isDigit
  let real := fun (n : Nat) (k : Int) => numberOrVoid ((Binary64.ofDecimal negative n k).map .real)
  if whole.isEmpty || (whole.length > 1 && whole.head? = some '0') then none
  else match rest with
    | [] =>
      let n := Nat.ofDigitChars 10 whole 0
      if negative && n = 0 then some (.number (.real ⟨true, 0, Binary64.minExponent⟩))
      else
        let n : Int := if negative then -(n : Int) else n
        some (if isWord n || (nearestReal? n).isSome then .number (.int n) else .void)
    | '.' :: rest =>
      let fraction := rest.takeWhile Text.isDigit
      if fraction.isEmpty then none
      else
        let (n, k) := wholeDigits whole
        let (n, k) := fractionDigits n k fraction
        (exponent? (rest.dropWhile Text.isDigit)).map fun e => real n (k + e)
    | rest =>
      let (n, k) := wholeDigits whole
      (exponent? rest).map fun e => real n (k + e)

/-- a number without superfluous zeros in front; a negative zero and one with a fraction or an exponent are binary64 -/
def numeral? : List Char → Option Token
  | '-' :: cs => (unsignedNumeral? true cs).map .scalar
  | cs => (unsignedNumeral? false cs).map .scalar

def hexValue? (c : Char) : Option Nat :=
  if Text.isDigit c then some (c.toNat - 48)
  else if 'a' ≤ c && c ≤ 'f' then some (c.toNat - 87)
  else if 'A' ≤ c && c ≤ 'F' then some (c.toNat - 55)
  else none

/-- the character that a backslash and `c` stand for -/
def unescape? (c : Char) : Option Char :=
  match c with
  | '"' => some '"'
  | '\\' => some '\\'
  | '/' => some '/'
  | 'b' => some '\x08'
  | 'f' => some '\x0c'
  | 'n' => some '\n'
  | 'r' => some '\r'
  | 't' => some '\t'
  | _ => none

/-- a complete UTF-16 unit, with the leading surrogate read before it -/
def unitRead (piece : Piece) (lead : Option Nat) (value : Nat) : Scan :=
  match lead with
  | none =>
    if 0xD800 ≤ value && value < 0xDC00 then .trail piece value false
    else if 0xDC00 ≤ value && value < 0xE000 then .text piece.spoil
    else .text (piece.push (Char.ofNat value))
  | some high =>
    if 0xDC00 ≤ value && value < 0xE000 then
      .text (piece.push (Char.ofNat (0x10000 + (high - 0xD800) * 0x400 + (value - 0xDC00))))
    else .text piece.spoil

/-- the start of a token -/
def start? (c : Char) : Option (List Token × Scan) :=
  if c = ' ' || c = '\n' || c = '\t' || c = '\r' then some ([], .between)
  else if c = '[' then some ([.openList], .between)
  else if c = ']' then some ([.closeList], .between)
  else if c = '\x7b' then some ([.openRecord], .between)
  else if c = '\x7d' then some ([.closeRecord], .between)
  else if c = ':' then some ([.colon], .between)
  else if c = ',' then some ([.comma], .between)
  else if c = '"' then some ([], .text {})
  else if c = '-' || Text.isDigit c then some ([], .numeral [c])
  else if 'a' ≤ c && c ≤ 'z' then some ([], .word [c])
  else none

/-- a finished token, then the character after it -/
def after? (token : Option Token) (c : Char) : Option (List Token × Scan) :=
  match token, start? c with
  | some t, some (ts, scan) => some (t :: ts, scan)
  | _, _ => none

def isNumeralChar (c : Char) : Bool := Text.isDigit c || c == '+' || c == '-' || c == '.' || c == 'e' || c == 'E'

/-- a character of a text -/
def inText (piece : Piece) (c : Char) : Option (List Token × Scan) :=
  if c = '"' then some ([.text piece.content?], .between)
  else if c = '\\' then some ([], .escape piece)
  else if c.toNat < 0x20 then none
  else some ([], .text (piece.push c))

/-- the character after a backslash -/
def inEscape (piece : Piece) (c : Char) : Option (List Token × Scan) :=
  if c = 'u' then some ([], .unit piece none 4 0)
  else (unescape? c).map fun x => ([], .text (piece.push x))

/-- one character: the tokens it completes and the new state -/
def advance (scan : Scan) (c : Char) : Option (List Token × Scan) :=
  match scan with
  | .between => start? c
  | .word read => if 'a' ≤ c && c ≤ 'z' then some ([], .word (c :: read)) else after? (word? read.reverse) c
  | .numeral read => if isNumeralChar c then some ([], .numeral (c :: read)) else after? (numeral? read.reverse) c
  | .text piece => inText piece c
  | .escape piece => inEscape piece c
  | .unit piece lead missing value =>
    (hexValue? c).map fun d =>
      if missing ≤ 1 then ([], unitRead piece lead (value * 16 + d))
      else ([], .unit piece lead (missing - 1) (value * 16 + d))
  | .trail piece lead true =>
    if c = 'u' then some ([], .unit piece (some lead) 4 0) else inEscape piece.spoil c
  | .trail piece lead false =>
    if c = '\\' then some ([], .trail piece lead true) else inText piece.spoil c

/-- the tokens of the rest of a text -/
def tokensFrom (scan : Scan) : List Char → Option (List Token)
  | [] =>
    match scan with
    | .between => some []
    | .word read => (word? read.reverse).map ([·])
    | .numeral read => (numeral? read.reverse).map ([·])
    | _ => none
  | c :: rest =>
    match advance scan c with
    | none => none
    | some (ts, scan) => (tokensFrom scan rest).map (ts ++ ·)

def tokens? (cs : List Char) : Option (List Token) := tokensFrom .between cs

end TrainingJobs.Json
