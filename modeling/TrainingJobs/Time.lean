/-
Spans of time, and waiting. A span is counted in seconds and nanoseconds; in a text it is a number of milliseconds that
fills a word of 64 bits, so parts of a millisecond are not written, and neither are digits beyond the word. The clock of
a program moves by whole milliseconds, and how many of them a wait takes is up to the timer.
-/
import TrainingJobs.Json.Typed

namespace TrainingJobs

/-- a span of time: seconds, and nanoseconds of a second that has not passed -/
structure Duration where
  seconds : UInt64
  nanoseconds : Fin 1000000000
deriving DecidableEq, Repr, Inhabited

namespace Duration

/-- the span in nanoseconds -/
def total (d : Duration) : Nat := d.seconds.toNat * 1000000000 + d.nanoseconds.val

/-- whole milliseconds of it -/
def milliseconds (d : Duration) : Nat := d.seconds.toNat * 1000 + d.nanoseconds.val / 1000000

def ofMilliseconds (n : Nat) : Duration where
  seconds := .ofNat (n / 1000)
  nanoseconds := ⟨n % 1000 * 1000000, by omega⟩

/-- what is written of it -/
def word (d : Duration) : UInt64 := .ofNat d.milliseconds

/-- what is read of that -/
def ofWord (n : UInt64) : Duration := ofMilliseconds n.toNat

instance : Coe UInt64 Duration := ⟨ofWord⟩

def toJson (d : Duration) : Json := .ofWord d.word

def ofJson (v : Json) : Reading Duration := (Json.asWord v).map ofWord

end Duration

/-- how many milliseconds a wait of some span takes -/
structure Timer where
  span : Duration → Nat

namespace Timer

/-- A clock that counts nanoseconds in 64 bits. A wait ends with the millisecond in which it is over; one that the clock
cannot tell takes thirty years. -/
def clock64 : Timer where
  span d := if d.total < 0x10000000000000000 then (d.total + 999999) / 1000000 else 30 * 365 * 86400000

/-- how long something is delayed -/
def delay (t : Timer) (d : Option Duration) : Nat := d.elim 0 t.span

end Timer

/-- something that takes `duration` milliseconds -/
structure Wait where
  duration : Nat
  /-- it was given up before its end -/
  cut : Bool
deriving DecidableEq, Repr

/-- a delay cut short by a timeout; one that ends with the timeout is in time -/
def Timer.bounded (t : Timer) (delay : Option Duration) (timeout : Duration) : Wait :=
  if t.delay delay ≤ t.span timeout then ⟨t.delay delay, false⟩ else ⟨t.span timeout, true⟩

end TrainingJobs
