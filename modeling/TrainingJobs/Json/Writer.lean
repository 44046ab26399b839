/-
Writing JSON text, compact or in lines of two blanks an indent. Fields keep their order. A text escapes the quote, the
backslash and the characters below 0x20; all else stands as it is. What is void is written as null.
-/
import TrainingJobs.Json.Value
import TrainingJobs.Decimal.Shortest
import TrainingJobs.Text.Digest

namespace TrainingJobs.Json

/-- how a character stands in a text -/
def escapeChar (c : Char) : List Char :=
  if c = '"' then ['\\', '"']
  else if c = '\\' then ['\\', '\\']
  else if c = '\x08' then ['\\', 'b']
  else if c = '\x0c' then ['\\', 'f']
  else if c = '\n' then ['\\', 'n']
  else if c = '\r' then ['\\', 'r']
  else if c = '\t' then ['\\', 't']
  else if c.toNat < 0x20 then ['\\', 'u'] ++ Text.hexDigits 4 c.toNat
  else [c]

def quoted (s : String) : List Char := '"' :: (s.toList.flatMap escapeChar ++ ['"'])

def Number.write : Number → List Char
  | .int n => (Text.signedDecimal n).toList
  | .real x => x.decimalText

mutual
/-- the value on one line, without blanks -/
def write : Json → List Char
  | .null => "null".toList
  | .bool b => if b then "true".toList else "false".toList
  | .number n => Number.write n
  | .text s => quoted s
  | .list items => '[' :: (writeItems items ++ [']'])
  | .record fields => '\x7b' :: (writeFields fields ++ ['\x7d'])
  | .void => "null".toList

/-- the items, a comma after each but the last -/
def writeItems : List Json → List Char
  | [] => []
  | [x] => write x
  | x :: y :: rest => write x ++ ',' :: writeItems (y :: rest)

/-- the fields, a comma after each but the last -/
def writeFields : List (String × Json) → List Char
  | [] => []
  | [(name, x)] => quoted name ++ ':' :: write x
  | (name, x) :: y :: rest => quoted name ++ ':' :: (write x ++ ',' :: writeFields (y :: rest))
end

def compact (v : Json) : String := String.ofList (write v)

/-- a new line at that depth -/
def indent (depth : Nat) : List Char := '\n' :: List.replicate (2 * depth) ' '

mutual
/-- the value with each item and field on a line of its own; an empty list or record stays on its line -/
def writeLines (depth : Nat) : Json → List Char
  | .list (x :: rest) => '[' :: (linesOfItems (depth + 1) (x :: rest) ++ indent depth ++ [']'])
  | .record (x :: rest) => '\x7b' :: (linesOfFields (depth + 1) (x :: rest) ++ indent depth ++ ['\x7d'])
  | v => write v

def linesOfItems (depth : Nat) : List Json → List Char
  | [] => []
  | [x] => indent depth ++ writeLines depth x
  | x :: y :: rest => indent depth ++ writeLines depth x ++ ',' :: linesOfItems depth (y :: rest)

def linesOfFields (depth : Nat) : List (String × Json) → List Char
  | [] => []
  | [(name, x)] => indent depth ++ quoted name ++ ':' :: ' ' :: writeLines depth x
  | (name, x) :: y :: rest =>
    indent depth ++ quoted name ++ ':' :: ' ' :: (writeLines depth x ++ ',' :: linesOfFields depth (y :: rest))
end

def pretty (v : Json) : String := String.ofList (writeLines 0 v)

end TrainingJobs.Json
