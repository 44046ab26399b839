/-
JSON values. A record is the list of its fields as they were written, repeated names included; `tidy` gives the value
proper: fields sorted by name, the last of one name kept, and integers beyond 64 bits as binary64 numbers. A text may
hold what is well formed and stands for nothing, such as a number too large for binary64: that is void, and it is a
fault only where it is read.

- `tidy_tidy`: the value proper has nothing more to tidy.
-/
import TrainingJobs.Decimal.Binary64
import TrainingJobs.Dict

namespace TrainingJobs

inductive Number where
  | int (n : Int)
  | real (x : Binary64)
deriving DecidableEq, Repr, Inhabited

inductive Json where
  | null
  | bool (b : Bool)
  | number (n : Number)
  | text (s : String)
  | list (items : List Json)
  | record (fields : List (String × Json))
  /-- something that can only be passed over -/
  | void
deriving Repr, Inhabited

namespace Json

mutual
/-- equality of values, fields in their written order -/
def same : Json → Json → Bool
  | .null, .null => true
  | .bool a, .bool b => a == b
  | .number a, .number b => decide (a = b)
  | .text a, .text b => a == b
  | .list xs, .list ys => sameItems xs ys
  | .record xs, .record ys => sameFields xs ys
  | .void, .void => true
  | _, _ => false

def sameItems : List Json → List Json → Bool
  | [], [] => true
  | x :: xs, y :: ys => same x y && sameItems xs ys
  | _, _ => false

def sameFields : List (String × Json) → List (String × Json) → Bool
  | [], [] => true
  | (n, x) :: xs, (m, y) :: ys => n == m && same x y && sameFields xs ys
  | _, _ => false
end

mutual
theorem same_iff : ∀ (x y : Json), same x y = true ↔ x = y
  | .null, y => by cases y <;> simp [same]
  | .bool a, y => by cases y <;> simp [same]
  | .number a, y => by cases y <;> simp [same]
  | .text a, y => by cases y <;> simp [same]
  | .list xs, y => by
    cases y with
    | list ys => simp [same, sameItems_iff xs ys]
    | _ => simp [same]
  | .record xs, y => by
    cases y with
    | record ys => simp [same, sameFields_iff xs ys]
    | _ => simp [same]
  | .void, y => by cases y <;> simp [same]

theorem sameItems_iff : ∀ (xs ys : List Json), sameItems xs ys = true ↔ xs = ys
  | [], ys => by cases ys <;> simp [sameItems]
  | x :: xs, [] => by simp [sameItems]
  | x :: xs, y :: ys => by simp [sameItems, same_iff x y, sameItems_iff xs ys]

theorem sameFields_iff : ∀ (xs ys : List (String × Json)), sameFields xs ys = true ↔ xs = ys
  | [], ys => by cases ys <;> simp [sameFields]
  | x :: xs, [] => by simp [sameFields]
  | (n, x) :: xs, (m, y) :: ys => by
    simp [sameFields, same_iff x y, sameFields_iff xs ys, and_assoc]
end

instance : DecidableEq Json := fun x y => decidable_of_iff _ (same_iff x y)

/-- the integers of 64 bits with a sign -/
def isSigned64 (n : Int) : Bool := -9223372036854775808 ≤ n && n ≤ 9223372036854775807

/-- the integers of 64 bits without a sign -/
def isUnsigned64 (n : Int) : Bool := 0 ≤ n && n ≤ 18446744073709551615

/-- the integers that stay integers -/
def isWord (n : Int) : Bool := isSigned64 n || isUnsigned64 n

/-- as many leading digits as 64 bits hold, and the number of digits dropped -/
def leadingWord (n : Nat) : Nat → Nat × Nat
  | 0 => (n, 0)
  | rounds + 1 => if n < UInt64.size then (n, 0) else let (w, k) := leadingWord (n / 10) rounds; (w, k + 1)

/-- the binary64 number that an integer comes to by its leading digits, if it is not too large -/
def nearestReal? (n : Int) : Option Binary64 :=
  let (w, k) := leadingWord n.natAbs n.natAbs.log2
  Binary64.ofDecimal (n < 0) w k

/-- an integer beyond 64 bits is a binary64 number, or zero if it is too large for one -/
def Number.tidy : Number → Number
  | .int n => if isWord n then .int n else .real ((nearestReal? n).getD ⟨false, 0, Binary64.minExponent⟩)
  | .real x => .real x

mutual
/-- the value proper: fields sorted by name, the last of one name kept -/
def tidy : Json → Json
  | .null => .null
  | .bool b => .bool b
  | .number n => .number (Number.tidy n)
  | .text s => .text s
  | .list items => .list (tidyItems items)
  | .record fields => .record (Dict.ofList (tidyFields fields)).entries
  | .void => .void

def tidyItems : List Json → List Json
  | [] => []
  | x :: rest => tidy x :: tidyItems rest

def tidyFields : List (String × Json) → List (String × Json)
  | [] => []
  | (name, x) :: rest => (name, tidy x) :: tidyFields rest
end

theorem Number.tidy_tidy (n : Number) : Number.tidy (Number.tidy n) = Number.tidy n := by
  cases n with
  | int n => by_cases h : isWord n = true <;> simp [Number.tidy, h]
  | real x => rfl

theorem tidyFields_eq_self {fields : List (String × Json)} (h : ∀ f ∈ fields, tidy f.2 = f.2) :
    tidyFields fields = fields := by
  induction fields with
  | nil => rfl
  | cons f rest ih =>
    rw [tidyFields, h f List.mem_cons_self, ih fun g hg => h g (List.mem_cons_of_mem _ hg)]

mutual
theorem tidy_tidy : ∀ v : Json, tidy (tidy v) = tidy v
  | .null => rfl
  | .bool _ => rfl
  | .number n => by rw [tidy, tidy, Number.tidy_tidy]
  | .text _ => rfl
  | .list items => by rw [tidy, tidy, tidyItems_tidyItems items]
  | .record fields => by
    have h : tidyFields (Dict.ofList (tidyFields fields)).entries = (Dict.ofList (tidyFields fields)).entries :=
      tidyFields_eq_self fun f hf => tidy_of_mem_tidyFields fields f (Dict.mem_of_mem_ofList hf)
    rw [tidy, tidy, h, Dict.ofList_entries]
  | .void => rfl

theorem tidyItems_tidyItems : ∀ items : List Json, tidyItems (tidyItems items) = tidyItems items
  | [] => rfl
  | x :: rest => by rw [tidyItems, tidyItems, tidy_tidy x, tidyItems_tidyItems rest]

theorem tidy_of_mem_tidyFields : ∀ (fields : List (String × Json)) (f : String × Json), f ∈ tidyFields fields →
    tidy f.2 = f.2
  | [], f, h => by rw [tidyFields] at h; cases h
  | (name, x) :: rest, f, h => by
    rw [tidyFields] at h
    rcases List.mem_cons.1 h with rfl | h
    · exact tidy_tidy x
    · exact tidy_of_mem_tidyFields rest f h
end

mutual
/-- nothing in the value is void -/
def isSound : Json → Bool
  | .list items => areSound items
  | .record fields => fieldsAreSound fields
  | .void => false
  | _ => true

def areSound : List Json → Bool
  | [] => true
  | x :: rest => isSound x && areSound rest

def fieldsAreSound : List (String × Json) → Bool
  | [] => true
  | (_, x) :: rest => isSound x && fieldsAreSound rest
end

theorem fieldsAreSound_iff {fields : List (String × Json)} :
    fieldsAreSound fields = true ↔ ∀ f ∈ fields, isSound f.2 = true := by
  induction fields with
  | nil => simp [fieldsAreSound]
  | cons f rest ih => simp [fieldsAreSound, ih]

mutual
theorem isSound_tidy : ∀ v : Json, isSound v = true → isSound (tidy v) = true
  | .null, _ | .bool _, _ | .number _, _ | .text _, _ => rfl
  | .list items, h => areSound_tidyItems items h
  | .record fields, h => by
    rw [tidy, isSound, fieldsAreSound_iff]
    intro f hf
    exact fieldsAreSound_iff.1 (fieldsAreSound_tidyFields fields h) f (Dict.mem_of_mem_ofList hf)

theorem areSound_tidyItems : ∀ items : List Json, areSound items = true → areSound (tidyItems items) = true
  | [], _ => rfl
  | x :: rest, h => by
    rw [areSound, Bool.and_eq_true] at h
    rw [tidyItems, areSound, isSound_tidy x h.1, areSound_tidyItems rest h.2]
    rfl

theorem fieldsAreSound_tidyFields : ∀ fields : List (String × Json), fieldsAreSound fields = true →
    fieldsAreSound (tidyFields fields) = true
  | [], _ => rfl
  | (name, x) :: rest, h => by
    rw [fieldsAreSound, Bool.and_eq_true] at h
    rw [tidyFields, fieldsAreSound, isSound_tidy x h.1, fieldsAreSound_tidyFields rest h.2]
    rfl
end

/-- a value proper without anything void -/
structure Plain where
  json : Json
  tidy_eq : json.tidy = json
  sound : json.isSound = true
deriving DecidableEq

instance : Repr Plain := ⟨fun v => reprPrec v.json⟩

instance : Inhabited Plain := ⟨⟨.null, rfl, rfl⟩⟩

/-- the value proper of a sound value -/
def plain? (v : Json) : Option Plain :=
  if h : v.isSound = true then some ⟨v.tidy, tidy_tidy v, isSound_tidy v h⟩ else none

theorem plain?_json (v : Plain) : plain? v.json = some v := by
  cases v with
  | mk v h hs => simp [plain?, hs, h]

/-- the value of the field of that name, the last one if it is repeated -/
def field? (name : String) : Json → Option Json
  | .record fields => (Dict.ofList fields).find? name
  | _ => none

end Json

end TrainingJobs
