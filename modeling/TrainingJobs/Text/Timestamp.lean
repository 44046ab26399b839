/-
Timestamps after RFC 3339, read with some freedom: blanks may stand around the numbers of the date and of the time, the
numbers may lack leading zeros, and `T` may be a space or in lower case. A year of more than four digits needs a sign.
The zone is `Z` or `UTC` in any case, or an offset of less than a day. In universal time too a timestamp lies within the
years for which there are dates.
-/
import TrainingJobs.Text.Blank
import TrainingJobs.Text.Numeral

namespace TrainingJobs.Text

/-- the number that the text starts with after blanks, of `width` digits at most, and what follows it -/
def leadingNumber? (width : Nat) (cs : List Char) : Option (Nat × List Char) :=
  let cs := trimStart cs
  let ds := (cs.take width).takeWhile isDigit
  if ds.isEmpty then none else some (Nat.ofDigitChars 10 ds 0, cs.drop ds.length)

/-- what follows the mark that the text starts with after blanks -/
def afterMark? (mark : Char) (cs : List Char) : Option (List Char) :=
  match trimStart cs with
  | [] => none
  | c :: rest => if c = mark then some rest else none

def isLeapYear (year : Int) : Bool := year % 4 = 0 && (year % 100 ≠ 0 || year % 400 = 0)

def daysOfMonth (year : Int) (month : Nat) : Nat :=
  if month = 2 then (if isLeapYear year then 29 else 28)
  else if month = 4 || month = 6 || month = 9 || month = 11 then 30
  else 31

structure Date where
  year : Int
  month : Nat
  day : Nat
deriving DecidableEq

namespace Date

def first : Date := ⟨-262143, 1, 1⟩

def last : Date := ⟨262142, 12, 31⟩

/-- a day of the calendar, within the years that fit a date of 32 bits -/
def isValid (d : Date) : Bool :=
  first.year ≤ d.year && d.year ≤ last.year && 1 ≤ d.month && d.month ≤ 12 && 1 ≤ d.day &&
    d.day ≤ daysOfMonth d.year d.month

/-- so many seconds after its midnight is still a time of some date -/
def reaches (d : Date) (seconds : Int) : Bool := (d != first || 0 ≤ seconds) && (d != last || seconds < 86400)

end Date

def year? (cs : List Char) : Option (Int × List Char) :=
  match trimStart cs with
  | '-' :: rest =>
    let ds := rest.takeWhile isDigit
    (natural? ds).map fun n => (-(n : Int), rest.drop ds.length)
  | '+' :: rest =>
    let ds := rest.takeWhile isDigit
    (natural? ds).map fun n => ((n : Int), rest.drop ds.length)
  | rest => (leadingNumber? 4 rest).map fun (n, rest) => ((n : Int), rest)

/-- the date and what follows it -/
def date? (cs : List Char) : Option (Date × List Char) := do
  let (year, cs) ← year? cs
  let (month, cs) ← leadingNumber? 2 (← afterMark? '-' cs)
  let (day, cs) ← leadingNumber? 2 (← afterMark? '-' cs)
  let date : Date := ⟨year, month, day⟩
  if date.isValid then some (date, cs) else none

/-- what follows the fraction of a second, if there is one -/
def afterFraction? : List Char → Option (List Char)
  | '.' :: rest =>
    match rest.takeWhile isDigit with
    | [] => none
    | ds => some (rest.drop ds.length)
  | cs => some cs

/-- the second of the day and what follows it; a leap second, which ends a minute, counts as the second before it -/
def timeOfDay? (cs : List Char) : Option (Nat × List Char) := do
  let (hour, cs) ← leadingNumber? 2 cs
  let (minute, cs) ← leadingNumber? 2 (← afterMark? ':' cs)
  let (second, cs) ← leadingNumber? 2 (← afterMark? ':' cs)
  let cs ← afterFraction? cs
  if hour ≤ 23 && minute ≤ 59 && second ≤ 60 then some (hour * 3600 + minute * 60 + min second 59, cs) else none

/-- the number of exactly two digits that the text starts with, and what follows it -/
def twoDigits? : List Char → Option (Nat × List Char)
  | a :: b :: rest => if isDigit a && isDigit b then some (Nat.ofDigitChars 10 [a, b] 0, rest) else none
  | _ => none

/-- the seconds of an offset, of hours and minutes with colons or blanks between them, and what follows it -/
def offset? (cs : List Char) : Option (Nat × List Char) := do
  let (hours, cs) ← twoDigits? cs
  let (minutes, cs) ← twoDigits? (cs.dropWhile fun c => c == ':' || isBlank c)
  if hours ≤ 23 && minutes ≤ 59 then some (hours * 3600 + minutes * 60, cs) else none

/-- how many seconds the zone is ahead of universal time, and what follows it -/
def zone? (cs : List Char) : Option (Int × List Char) :=
  let cs := trimStart cs
  if (cs.take 3).map Char.toUpper = "UTC".toList then some (0, cs.drop 3)
  else match cs with
    | [] => none
    | c :: rest =>
      if c = 'Z' || c = 'z' then some (0, rest)
      else if c = '+' then (offset? rest).map fun (n, rest) => ((n : Int), rest)
      else if c = '-' || c = '−' then (offset? rest).map fun (n, rest) => (-(n : Int), rest)
      else none

/-- what follows a timestamp -/
def afterTimestamp? (cs : List Char) : Option (List Char) := do
  let (date, cs) ← date? cs
  match cs with
  | [] => none
  | mark :: cs =>
    let (second, cs) ← if mark = 'T' || mark = 't' || mark = ' ' then timeOfDay? cs else none
    let (ahead, cs) ← zone? cs
    if date.reaches (second - ahead) then some cs else none

def isTimestamp (s : String) : Bool := (afterTimestamp? s.toList).any fun cs => cs.all isBlank

end TrainingJobs.Text
