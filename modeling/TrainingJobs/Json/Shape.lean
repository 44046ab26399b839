/-
Shapes of JSON values, for records of which only the form matters. In a record of a shape every field may be absent or
null, and fields that the shape does not name may be anything.
-/
import TrainingJobs.Json.Typed
import TrainingJobs.Text.Timestamp

namespace TrainingJobs.Json

inductive Shape where
  | text
  | flag
  | int32
  | int64
  | time
  /-- an integer of 32 bits or a text -/
  | int32OrText
  /-- any value that is sound -/
  | any
  | list (item : Shape)
  | dict (value : Shape)
  | record (fields : List (String × Shape))
deriving Inhabited

namespace Shape

/-- fields that hold texts -/
def texts (names : List String) : List (String × Shape) := names.map fun name => (name, text)

def isInt32 (n : Int) : Bool := -2147483648 ≤ n && n ≤ 2147483647

mutual
/-- the value has the shape -/
def fits (s : Shape) : Json → Bool
  | .null => match s with
    | any => true
    | _ => false
  | .bool _ => match s with
    | flag | any => true
    | _ => false
  | .number n => match s, n with
    | int32, .int n | int32OrText, .int n => isInt32 n
    | int64, .int n => isSigned64 n
    | any, _ => true
    | _, _ => false
  | .text t => match s with
    | text | int32OrText | any => true
    | time => Text.isTimestamp t
    | _ => false
  | .list items => match s with
    | list item => allFit item items
    | any => allFit any items
    | _ => false
  | .record fields => match s with
    | dict value => valuesFit value fields
    | record known => fieldsFit known fields
    | any => valuesFit any fields
    | _ => false
  | .void => false

def allFit (s : Shape) : List Json → Bool
  | [] => true
  | x :: rest => fits s x && allFit s rest

def valuesFit (s : Shape) : List (String × Json) → Bool
  | [] => true
  | (_, x) :: rest => fits s x && valuesFit s rest

/-- every field that is known and not null has its shape -/
def fieldsFit (known : List (String × Shape)) : List (String × Json) → Bool
  | [] => true
  | (name, x) :: rest =>
    (match known.lookup name with
    | none => true
    | some s => x == .null || fits s x) && fieldsFit known rest
end

/-- a value of the shape -/
def check (s : Shape) (v : Json) : Reading Unit := if s.fits v then .ok () else .error .malformed

end Shape

/-- a field that is only checked -/
def checked (name : String) (presence : Presence) (check : Json → Reading Unit) : Slot Unit :=
  slot name presence check fun _ _ => ()

/-- a field that is only checked, and may be absent or null -/
def checkedOptional (name : String) (check : Json → Reading Unit) : Slot Unit :=
  checked name .defaulted fun v => (optional check v).map fun _ => ()

/-- a value that is only checked -/
def form {α : Type} (read : Json → Reading α) (v : Json) : Reading Unit := (read v).map fun _ => ()

end TrainingJobs.Json
