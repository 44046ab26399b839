/-
Typed values read from JSON values. A record is read field by field in the written order, so the first fault found is
the one reported; unknown fields are passed over, void or not, and a repeated known field is a fault. A record may also
be written as the list of its fields' values in the order of the declaration, where only fields with a default may be
left out at the end; a list of the wrong length is a fault that comes after those of its values. A name out of a fixed
set may also be written as a record of one field of that name, with the value null.

- `asCount_ofCount`, `asList_map`, `asPlain_json` and others: what is written reads back;
- `field?_record`, `field?_ofPresent`, `field?_ofDict`: which fields a written record has.
-/
import TrainingJobs.Count
import TrainingJobs.Error
import TrainingJobs.Json.Reader

namespace TrainingJobs

abbrev Reading (α : Type) := Except Unreadable α

namespace Json

/-- whether a field may be left out -/
inductive Presence where
  | required
  /-- absent means none -/
  | nullable
  /-- absent means the default -/
  | defaulted
deriving DecidableEq

/-- a field of a record: its name and how its value is put into the record -/
structure Slot (σ : Type) where
  name : String
  presence : Presence
  put : Json → σ → Reading σ

def slot {σ α : Type} (name : String) (presence : Presence) (read : Json → Reading α) (set : σ → α → σ) : Slot σ where
  name := name
  presence := presence
  put v s := (read v).map (set s)

/-- one written field: the record so far and the names seen so far -/
def takeField {σ : Type} (slots : List (Slot σ)) (acc : σ × List String) (field : String × Json) :
    Reading (σ × List String) :=
  match slots.find? fun slot => slot.name == field.1 with
  | none => .ok acc
  | some slot =>
    if acc.2.contains field.1 then .error .malformed
    else (slot.put field.2 acc.1).map fun s => (s, field.1 :: acc.2)

/-- a record read from its fields or from the list of their values, starting from the defaults -/
def readRecord {σ : Type} (slots : List (Slot σ)) (defaults : σ) : Json → Reading σ
  | .record fields => do
    let (s, seen) ← fields.foldlM (takeField slots) (defaults, [])
    if slots.all fun slot => slot.presence != .required || seen.contains slot.name then pure s
    else throw .malformed
  | .list items => do
    let s ← (slots.zip items).foldlM (fun s (slot, v) => slot.put v s) defaults
    if items.length ≤ slots.length && (slots.drop items.length).all fun slot => slot.presence == .defaulted then pure s
    else throw .malformed
  | _ => throw .malformed

def asBool : Json → Reading Bool
  | .bool b => .ok b
  | _ => .error .malformed

def asText : Json → Reading String
  | .text s => .ok s
  | _ => .error .malformed

/-- an integer within the bounds -/
def asInteger (low high : Int) : Json → Reading Int
  | .number (.int n) => if low ≤ n && n ≤ high then .ok n else .error .malformed
  | _ => .error .malformed

def asCount : Json → Reading UInt32
  | .number (.int n) =>
    match countOf? n with
    | some c => .ok c
    | none => .error .malformed
  | _ => .error .malformed

def asWord (v : Json) : Reading UInt64 := (asInteger 0 18446744073709551615 v).map fun n => UInt64.ofNat n.toNat

def asInt32 (v : Json) : Reading Int32 := (asInteger (-2147483648) 2147483647 v).map Int32.ofInt

/-- null is none -/
def optional {α : Type} (read : Json → Reading α) : Json → Reading (Option α)
  | .null => .ok none
  | v => (read v).map some

def asList {α : Type} (read : Json → Reading α) : Json → Reading (List α)
  | .list items => items.mapM read
  | _ => .error .malformed

/-- a record as a dictionary -/
def asDict {α : Type} (read : Json → Reading α) : Json → Reading (Dict α)
  | .record fields => fields.foldlM (fun d (name, v) => (read v).map (d.insert name)) ∅
  | _ => .error .malformed

/-- any value that is sound -/
def asPlain (v : Json) : Reading Plain :=
  match v.plain? with
  | some p => .ok p
  | none => .error .malformed

/-- one of the named values -/
def asOneOf {α : Type} (named : List (String × α)) (v : Json) : Reading α :=
  let name := match v with
    | .text s => some s
    | .record [(s, .null)] => some s
    | _ => none
  match name.bind fun s => named.lookup s with
  | some x => .ok x
  | none => .error .malformed

/-- a value from its JSON text -/
def parsed {α : Type} (read : Json → Reading α) (text : String) : Reading α :=
  match read? text with
  | none => .error .malformed
  | some v => read v

def ofNat (n : Nat) : Json := .number (.int n)

def ofCount (n : UInt32) : Json := ofNat n.toNat

def ofWord (n : UInt64) : Json := ofNat n.toNat

def ofInt32 (n : Int32) : Json := .number (.int n.toInt)

def ofInt64 (n : Int64) : Json := .number (.int n.toInt)

/-- none is null -/
def ofOption {α : Type} (write : α → Json) : Option α → Json
  | none => .null
  | some x => write x

def ofDict {α : Type} (write : α → Json) (d : Dict α) : Json := .record (d.entries.map fun e => (e.1, write e.2))

def ofTexts (ss : List String) : Json := .list (ss.map .text)

/-- a record without the fields that have no value -/
def ofPresent (fields : List (String × Option Json)) : Json :=
  .record (fields.filterMap fun (name, v) => v.map fun v => (name, v))

theorem asCount_ofCount (n : UInt32) : asCount (ofCount n) = .ok n := by
  simp [asCount, ofCount, ofNat, (countOf?_eq_some_iff n.toNat n).2 rfl]

theorem asWord_ofWord (n : UInt64) : asWord (ofWord n) = .ok n := by
  have h := n.toNat_lt
  have h' : (n.toNat : Int) ≤ 18446744073709551615 := by omega
  simp [asWord, ofWord, ofNat, asInteger, h', Except.map]

theorem asInt32_ofInt32 (n : Int32) : asInt32 (ofInt32 n) = .ok n := by
  have h := n.le_toInt
  have h' := n.toInt_lt
  have hl : -2147483648 ≤ n.toInt := by simpa using h
  have hu : n.toInt ≤ 2147483647 := by omega
  simp [asInt32, ofInt32, asInteger, hl, hu, Except.map]

theorem asPlain_json (p : Plain) : asPlain p.json = .ok p := by rw [asPlain, plain?_json]

theorem asList_map {α : Type} {read : Json → Reading α} {write : α → Json} (xs : List α)
    (h : ∀ a ∈ xs, read (write a) = .ok a) : asList read (.list (xs.map write)) = .ok xs := by
  rw [asList]
  induction xs with
  | nil => rfl
  | cons x rest ih =>
    rw [List.map_cons, List.mapM_cons, h x List.mem_cons_self, ih fun a ha => h a (List.mem_cons_of_mem _ ha)]
    rfl

theorem field?_record {fields : List (String × Json)} (h : (fields.map (·.1)).Nodup) (name : String) :
    (record fields).field? name = fields.lookup name := Dict.find?_ofList h name

theorem field?_ofPresent {fields : List (String × Option Json)} (h : (fields.map (·.1)).Nodup) (name : String) :
    (ofPresent fields).field? name = (fields.lookup name).join := by
  have hpresent : ((fields.filterMap fun (name, v) => v.map fun v => (name, v)).map (·.1)).Nodup := by
    refine h.sublist ?_
    induction fields with
    | nil => exact .slnil
    | cons f rest ih =>
      obtain ⟨n, v⟩ := f
      cases v with
      | none => exact (ih (List.nodup_cons.1 h).2).cons n
      | some v => exact (ih (List.nodup_cons.1 h).2).cons_cons n
  refine Option.ext fun v => ?_
  rw [ofPresent, field?_record hpresent, Dict.lookup_eq_some_iff_mem hpresent, Option.join_eq_some_iff,
    Dict.lookup_eq_some_iff_mem h, List.mem_filterMap]
  constructor
  · rintro ⟨⟨n, _ | v'⟩, hmem, heq⟩
    · cases heq
    · cases heq
      exact hmem
  · exact fun hmem => ⟨_, hmem, rfl⟩

theorem field?_ofDict {α : Type} (write : α → Json) (d : Dict α) (name : String) :
    (ofDict write d).field? name = (d.find? name).map write := by
  have h : ((d.entries.map fun e => (e.1, write e.2)).map (·.1)).Nodup := by
    rw [List.map_map]
    exact d.names_nodup
  rw [ofDict, field?_record h, Dict.lookup_map]
  rfl

end Json

end TrainingJobs
