/-
Reading JSON text. The tokens drive a machine whose stack holds the lists and records that are still open; the text is
one value with nothing after it. Repeated field names are kept. A text without content is void, and so are a record with
a field of such a name and a list or record inside 127 others.
-/
import TrainingJobs.Json.Token

namespace TrainingJobs.Json

/-- a list or record that is still open, what it holds last first -/
inductive Frame where
  | list (items : List Json)
  /-- with the name of the field at hand; not sound if a name has no content -/
  | record (fields : List (String × Json)) (name : String) (sound : Bool)

/-- what may come next -/
inductive Awaited where
  | value
  /-- a value or the end of an empty list -/
  | item
  /-- a field name or the end of an empty record -/
  | field
  | name
  | colon
  /-- a comma or the end of the open list or record -/
  | comma
  | nothing (result : Json)

structure Parse where
  stack : List Frame
  awaited : Awaited

/-- how many lists and records may be open at once before the next one is void -/
def maxDepth : Nat := 127

/-- a value is complete -/
def Parse.supply (value : Json) : List Frame → Parse
  | [] => ⟨[], .nothing value⟩
  | .list items :: stack => ⟨.list (value :: items) :: stack, .comma⟩
  | .record fields name sound :: stack => ⟨.record ((name, value) :: fields) name sound :: stack, .comma⟩

/-- the innermost open list or record ends, if it is of that kind -/
def Parse.close (stack : List Frame) (record : Bool) : Option Parse :=
  match stack, record with
  | .list items :: stack, false =>
    some (.supply (if stack.length < maxDepth then .list items.reverse else .void) stack)
  | .record fields _ sound :: stack, true =>
    some (.supply (if sound && stack.length < maxDepth then .record fields.reverse else .void) stack)
  | _, _ => none

/-- a value begins -/
def Parse.begin (stack : List Frame) : Token → Option Parse
  | .scalar v => some (.supply v stack)
  | .text content => some (.supply ((content.map Json.text).getD .void) stack)
  | .openList => some ⟨.list [] :: stack, .item⟩
  | .openRecord => some ⟨.record [] "" true :: stack, .field⟩
  | _ => none

def Parse.nameField (stack : List Frame) : Token → Option Parse
  | .text content =>
    match stack with
    | .record fields _ sound :: stack =>
      some ⟨.record fields (content.getD "") (sound && content.isSome) :: stack, .colon⟩
    | _ => none
  | _ => none

def Parse.step (p : Parse) (t : Token) : Option Parse :=
  match p.awaited, t with
  | .item, .closeList => Parse.close p.stack false
  | .value, t | .item, t => Parse.begin p.stack t
  | .field, .closeRecord => Parse.close p.stack true
  | .field, t | .name, t => Parse.nameField p.stack t
  | .colon, .colon => some ⟨p.stack, .value⟩
  | .comma, .comma =>
    match p.stack with
    | .list _ :: _ => some ⟨p.stack, .value⟩
    | _ => some ⟨p.stack, .name⟩
  | .comma, .closeList => Parse.close p.stack false
  | .comma, .closeRecord => Parse.close p.stack true
  | _, _ => none

def parse? (ts : List Token) : Option Json :=
  match ts.foldlM Parse.step ⟨[], .value⟩ with
  | some ⟨_, .nothing value⟩ => some value
  | _ => none

/-- the value that a text denotes, fields as they are written -/
def read? (s : String) : Option Json := (tokens? s.toList).bind parse?

end TrainingJobs.Json