/-
Compact JSON texts tell values apart. No text of a value begins another one where the value is over, so a text that goes
on after its value still gives the value and what follows it. This takes values whose numbers are integers and in which
nothing is void: what is void is written like null.

- `escapeChar_inj`: the same of the characters of a text;
- `write_append_inj`: the same of values;
- `compact_inj`: equal texts come from equal values.
-/
import Mathlib.Tactic
import TrainingJobs.Json.Writer

namespace TrainingJobs.Json

/-! ## Numerals -/

/-- a numeral that stands in front of the text is over -/
def EndsNumeral (cs : List Char) : Prop := ∀ c ∈ cs.head?, Text.isDigit c = false

theorem endsNumeral_cons {c : Char} (h : Text.isDigit c = false) (cs : List Char) : EndsNumeral (c :: cs) := by
  rintro d ⟨⟩
  exact h

theorem digits_append_inj {m n : Nat} {r r' : List Char} (hr : EndsNumeral r) (hr' : EndsNumeral r')
    (h : Text.digits m ++ r = Text.digits n ++ r') : m = n ∧ r = r' := by
  have hfront : ∀ (n : Nat) (r : List Char), EndsNumeral r →
      (Text.digits n ++ r).takeWhile Text.isDigit = Text.digits n := by
    intro n r hr
    rw [List.takeWhile_append_of_pos fun c hc => Text.isDigit_of_mem_digits hc]
    cases r with
    | nil => simp
    | cons c cs => simp [hr c rfl]
  have hdigits : Text.digits m = Text.digits n := by rw [← hfront m r hr, h, hfront n r' hr']
  rw [hdigits] at h
  exact ⟨Text.digits_inj hdigits, List.append_cancel_left h⟩

/-- a numeral begins with a digit or with a minus sign -/
theorem write_int_eq (n : ℤ) :
    Number.write (.int n) = if n < 0 then '-' :: Text.digits n.natAbs else Text.digits n.natAbs := by
  rw [Number.write, Text.signedDecimal]
  split_ifs <;> simp [Text.decimal]

theorem digits_append_ne {c : Char} (hc : Text.isDigit c = false) (n : Nat) (r cs : List Char) :
    Text.digits n ++ r ≠ c :: cs := by
  intro h
  cases hdigits : Text.digits n with
  | nil => exact Text.digits_ne_nil n hdigits
  | cons d ds =>
    rw [hdigits, List.cons_append, List.cons.injEq] at h
    have hd : Text.isDigit d = true := Text.isDigit_of_mem_digits (hdigits ▸ List.mem_cons_self)
    rw [h.1, hc] at hd
    cases hd

theorem write_int_append_inj {m n : ℤ} {r r' : List Char} (hr : EndsNumeral r) (hr' : EndsNumeral r')
    (h : Number.write (.int m) ++ r = Number.write (.int n) ++ r') : m = n ∧ r = r' := by
  rw [write_int_eq, write_int_eq] at h
  split_ifs at h with hm hn hn
  · obtain ⟨habs, hrest⟩ := digits_append_inj hr hr' (List.cons.inj h).2
    exact ⟨by omega, hrest⟩
  · exact absurd h.symm (digits_append_ne rfl _ _ _)
  · exact absurd h (digits_append_ne rfl _ _ _)
  · obtain ⟨habs, hrest⟩ := digits_append_inj hr hr' h
    exact ⟨by omega, hrest⟩

/-! ## Texts -/

/-- the characters that do not stand for themselves in a text -/
def escapedCodes : List ℕ := 0x22 :: 0x5c :: List.range 0x20

theorem escapeChar_of_notMem {c : Char} (h : c.toNat ∉ escapedCodes) : escapeChar c = [c] := by
  have hne : ∀ d : Char, d.toNat ∈ escapedCodes → c ≠ d := by
    rintro d hd rfl
    exact h hd
  have hlow : ¬ c.toNat < 0x20 := fun hlow =>
    h (List.mem_cons_of_mem _ (List.mem_cons_of_mem _ (List.mem_range.2 hlow)))
  rw [escapeChar, if_neg (hne _ (by decide)), if_neg (hne _ (by decide)), if_neg (hne _ (by decide)),
    if_neg (hne _ (by decide)), if_neg (hne _ (by decide)), if_neg (hne _ (by decide)), if_neg (hne _ (by decide)),
    if_neg hlow]

theorem head?_escapeChar_of_mem {c : Char} (h : c.toNat ∈ escapedCodes) : (escapeChar c).head? = some '\\' := by
  have hall : ∀ n ∈ escapedCodes, (escapeChar (Char.ofNat n)).head? = some '\\' := by decide +kernel
  rw [← Char.ofNat_toNat c]
  exact hall c.toNat h

/-- a character's form does not begin that of another one -/
theorem eq_of_escapeChar_isPrefix {c d : Char} (h : escapeChar c <+: escapeChar d) : c = d := by
  have hescaped : ∀ m ∈ escapedCodes, ∀ n ∈ escapedCodes,
      escapeChar (Char.ofNat m) <+: escapeChar (Char.ofNat n) → Char.ofNat m = Char.ofNat n := by decide +kernel
  have hne : ∀ c : Char, c.toNat ∉ escapedCodes → c ≠ '\\' := by
    rintro c hc rfl
    exact hc (by decide)
  have hhead : ∀ x ∈ (escapeChar c).head?, (escapeChar d).head? = some x := by
    obtain ⟨cs, hcs⟩ := h
    intro x hx
    rw [← hcs, List.head?_append, hx]
    rfl
  by_cases hc : c.toNat ∈ escapedCodes
  · have hbackslash := hhead _ (head?_escapeChar_of_mem hc)
    by_cases hd : d.toNat ∈ escapedCodes
    · have hcd := hescaped _ hc _ hd
      rw [Char.ofNat_toNat, Char.ofNat_toNat] at hcd
      exact hcd h
    · rw [escapeChar_of_notMem hd] at hbackslash
      exact absurd (Option.some.inj hbackslash) (hne d hd)
  · have hfirst := hhead c (by rw [escapeChar_of_notMem hc]; rfl)
    by_cases hd : d.toNat ∈ escapedCodes
    · rw [head?_escapeChar_of_mem hd] at hfirst
      exact absurd (Option.some.inj hfirst).symm (hne c hc)
    · rw [escapeChar_of_notMem hd] at hfirst
      exact (Option.some.inj hfirst).symm

theorem escapeChar_append_inj {c d : Char} {r r' : List Char} (h : escapeChar c ++ r = escapeChar d ++ r') :
    c = d ∧ r = r' := by
  have hc : escapeChar c <+: escapeChar c ++ r := List.prefix_append _ _
  have hd : escapeChar d <+: escapeChar c ++ r := h ▸ List.prefix_append _ _
  have hcd : c = d := (List.prefix_or_prefix_of_prefix hc hd).elim eq_of_escapeChar_isPrefix
    fun hprefix => (eq_of_escapeChar_isPrefix hprefix).symm
  subst hcd
  exact ⟨rfl, List.append_cancel_left h⟩

theorem escapeChar_append_ne (c : Char) (r cs : List Char) : escapeChar c ++ r ≠ '"' :: cs := by
  intro h
  have hhead := congrArg List.head? h
  rw [List.head?_append, List.head?_cons] at hhead
  by_cases hc : c.toNat ∈ escapedCodes
  · rw [head?_escapeChar_of_mem hc] at hhead
    cases hhead
  · rw [escapeChar_of_notMem hc] at hhead
    cases hhead
    exact hc (by decide)

/-- a text ends with the first quote that is not escaped -/
theorem flatMap_escapeChar_inj {cs ds r r' : List Char}
    (h : cs.flatMap escapeChar ++ '"' :: r = ds.flatMap escapeChar ++ '"' :: r') : cs = ds ∧ r = r' := by
  induction cs generalizing ds with
  | nil =>
    cases ds with
    | nil => exact ⟨rfl, (List.cons.inj h).2⟩
    | cons d ds =>
      rw [List.flatMap_cons, List.append_assoc] at h
      exact absurd h.symm (escapeChar_append_ne d _ _)
  | cons c cs ih =>
    rw [List.flatMap_cons, List.append_assoc] at h
    cases ds with
    | nil => exact absurd h (escapeChar_append_ne c _ _)
    | cons d ds =>
      rw [List.flatMap_cons, List.append_assoc] at h
      obtain ⟨rfl, hrest⟩ := escapeChar_append_inj h
      obtain ⟨rfl, hr⟩ := ih hrest
      exact ⟨rfl, hr⟩

theorem quoted_append_inj {s t : String} {r r' : List Char} (h : quoted s ++ r = quoted t ++ r') : s = t ∧ r = r' := by
  simp only [quoted, List.cons_append, List.append_assoc, List.nil_append] at h
  obtain ⟨hchars, hr⟩ := flatMap_escapeChar_inj (List.cons.inj h).2
  exact ⟨String.toList_inj.1 hchars, hr⟩

/-! ## Values -/

mutual
/-- all numbers of the value are integers, and nothing in it is void -/
def isExact : Json → Bool
  | .number (.real _) => false
  | .list items => areExact items
  | .record fields => fieldsAreExact fields
  | .void => false
  | _ => true

def areExact : List Json → Bool
  | [] => true
  | x :: rest => isExact x && areExact rest

def fieldsAreExact : List (String × Json) → Bool
  | [] => true
  | (_, x) :: rest => isExact x && fieldsAreExact rest
end

@[simp] theorem isExact_bool (b : Bool) : isExact (.bool b) = true := rfl

@[simp] theorem isExact_int (n : ℤ) : isExact (.number (.int n)) = true := rfl

@[simp] theorem isExact_text (s : String) : isExact (.text s) = true := rfl

@[simp] theorem isExact_list (items : List Json) : isExact (.list items) = items.all isExact := by
  induction items with
  | nil => rfl
  | cons v rest ih => exact congrArg (isExact v && ·) ih

@[simp] theorem isExact_record (fields : List (String × Json)) :
    isExact (.record fields) = fields.all fun f => isExact f.2 := by
  induction fields with
  | nil => rfl
  | cons f rest ih => exact congrArg (isExact f.2 && ·) ih

/-- what a value is, as the character that begins it or one that stands for all that may -/
def lead : Json → Char
  | .null | .void => 'n'
  | .bool _ => 't'
  | .number _ => '0'
  | .text _ => '"'
  | .list _ => '['
  | .record _ => '\x7b'

def leadOf (c : Char) : Char := if Text.isDigit c || c == '-' then '0' else if c = 'f' then 't' else c

theorem write_eq_cons {v : Json} (hv : isExact v = true) : ∃ c cs, write v = c :: cs ∧ leadOf c = lead v := by
  cases v with
  | null => exact ⟨_, _, rfl, rfl⟩
  | bool b => cases b <;> exact ⟨_, _, rfl, rfl⟩
  | number n =>
    cases n with
    | int n =>
      rw [write, write_int_eq]
      split_ifs
      · exact ⟨_, _, rfl, rfl⟩
      · cases hdigits : Text.digits n.natAbs with
        | nil => exact absurd hdigits (Text.digits_ne_nil _)
        | cons d ds =>
          have hd : Text.isDigit d = true := Text.isDigit_of_mem_digits (hdigits ▸ List.mem_cons_self)
          exact ⟨d, ds, rfl, by simp [leadOf, hd, lead]⟩
    | real x => cases hv
  | text s => exact ⟨_, _, rfl, rfl⟩
  | list items => exact ⟨_, _, by rw [write], rfl⟩
  | record fields => exact ⟨_, _, by rw [write], rfl⟩
  | void => cases hv

theorem lead_eq {v w : Json} {r r' : List Char} (hv : isExact v = true) (hw : isExact w = true)
    (h : write v ++ r = write w ++ r') : lead v = lead w := by
  obtain ⟨c, cs, hc, hlead⟩ := write_eq_cons hv
  obtain ⟨d, ds, hd, hlead'⟩ := write_eq_cons hw
  rw [hc, hd] at h
  rw [← hlead, ← hlead', (List.cons.inj h).1]

/-- a value does not begin with the bracket that closes a list -/
theorem write_append_ne {v : Json} (hv : isExact v = true) (r cs : List Char) : write v ++ r ≠ ']' :: cs := by
  obtain ⟨c, ds, hc, hlead⟩ := write_eq_cons hv
  intro h
  rw [hc] at h
  obtain ⟨rfl, -⟩ := List.cons.inj h
  cases v <;> simp [lead, leadOf, Text.isDigit] at hlead

/-- what follows an item or a field: the closing bracket, or a comma and the others -/
def sequel {α : Type} (writeAll : List α → List Char) (close : Char) (r : List Char) : List α → List Char
  | [] => close :: r
  | x :: xs => ',' :: (writeAll (x :: xs) ++ close :: r)

section

variable {α : Type} {writeAll : List α → List Char} {close : Char}

theorem endsNumeral_sequel (h : Text.isDigit close = false) (r : List Char) (xs : List α) :
    EndsNumeral (sequel writeAll close r xs) := by
  cases xs with
  | nil => exact endsNumeral_cons h _
  | cons x xs => exact endsNumeral_cons rfl _

/-- a comma says that others follow, so equal sequels are of equal texts -/
theorem sequel_inj (hclose : close ≠ ',') {xs ys : List α} {r r' : List Char}
    (h : sequel writeAll close r xs = sequel writeAll close r' ys) :
    writeAll xs ++ close :: r = writeAll ys ++ close :: r' := by
  cases xs with
  | nil =>
    cases ys with
    | nil => rw [(List.cons.inj h).2]
    | cons y ys => exact absurd (List.cons.inj h).1 hclose
  | cons x xs =>
    cases ys with
    | nil => exact absurd (List.cons.inj h).1.symm hclose
    | cons y ys => exact (List.cons.inj h).2

end

theorem writeItems_cons (x : Json) (xs : List Json) (r : List Char) :
    writeItems (x :: xs) ++ ']' :: r = write x ++ sequel writeItems ']' r xs := by
  cases xs <;> simp [writeItems, sequel]

theorem writeFields_cons (name : String) (x : Json) (fields : List (String × Json)) (r : List Char) :
    writeFields ((name, x) :: fields) ++ '\x7d' :: r =
      quoted name ++ ':' :: (write x ++ sequel writeFields '\x7d' r fields) := by
  cases fields <;> simp [writeFields, sequel]

mutual
/-- no value's text, with what follows it, is that of another value or of another sequel -/
theorem write_append_inj : ∀ (v w : Json) {r r' : List Char}, isExact v = true → isExact w = true →
    EndsNumeral r → EndsNumeral r' → write v ++ r = write w ++ r' → v = w ∧ r = r'
  | .null, w, r, r', hv, hw, _, _, h => by
    have hlead := lead_eq hv hw h
    cases w with
    | null => exact ⟨rfl, List.append_cancel_left h⟩
    | void => cases hw
    | _ => simp [lead] at hlead
  | .bool b, w, r, r', hv, hw, _, _, h => by
    have hlead := lead_eq hv hw h
    cases w with
    | bool c =>
      cases b <;> cases c
      · exact ⟨rfl, List.append_cancel_left h⟩
      · simp [write] at h
      · simp [write] at h
      · exact ⟨rfl, List.append_cancel_left h⟩
    | _ => simp [lead] at hlead
  | .number n, w, r, r', hv, hw, hr, hr', h => by
    have hlead := lead_eq hv hw h
    cases w with
    | number m =>
      cases n with
      | real x => cases hv
      | int n =>
        cases m with
        | real x => cases hw
        | int m =>
          obtain ⟨rfl, hrest⟩ := write_int_append_inj hr hr' h
          exact ⟨rfl, hrest⟩
    | _ => simp [lead] at hlead
  | .text s, w, r, r', hv, hw, _, _, h => by
    have hlead := lead_eq hv hw h
    cases w with
    | text t =>
      obtain ⟨rfl, hrest⟩ := quoted_append_inj h
      exact ⟨rfl, hrest⟩
    | _ => simp [lead] at hlead
  | .list xs, w, r, r', hv, hw, _, _, h => by
    have hlead := lead_eq hv hw h
    cases w with
    | list ys =>
      simp only [write, List.cons_append, List.append_assoc, List.nil_append] at h
      obtain ⟨rfl, hrest⟩ := writeItems_append_inj xs ys hv hw (List.cons.inj h).2
      exact ⟨rfl, hrest⟩
    | _ => simp [lead] at hlead
  | .record xs, w, r, r', hv, hw, _, _, h => by
    have hlead := lead_eq hv hw h
    cases w with
    | record ys =>
      simp only [write, List.cons_append, List.append_assoc, List.nil_append] at h
      obtain ⟨rfl, hrest⟩ := writeFields_append_inj xs ys hv hw (List.cons.inj h).2
      exact ⟨rfl, hrest⟩
    | _ => simp [lead] at hlead
  | .void, _, _, _, hv, _, _, _, _ => by cases hv

theorem writeItems_append_inj : ∀ (xs ys : List Json) {r r' : List Char}, areExact xs = true → areExact ys = true →
    writeItems xs ++ ']' :: r = writeItems ys ++ ']' :: r' → xs = ys ∧ r = r'
  | [], [], _, _, _, _, h => ⟨rfl, (List.cons.inj h).2⟩
  | [], y :: ys, r, r', _, hys, h => by
    rw [areExact, Bool.and_eq_true] at hys
    rw [writeItems_cons] at h
    exact absurd h.symm (write_append_ne hys.1 _ _)
  | x :: xs, [], r, r', hxs, _, h => by
    rw [areExact, Bool.and_eq_true] at hxs
    rw [writeItems_cons] at h
    exact absurd h (write_append_ne hxs.1 _ _)
  | x :: xs, y :: ys, r, r', hxs, hys, h => by
    rw [areExact, Bool.and_eq_true] at hxs hys
    rw [writeItems_cons, writeItems_cons] at h
    obtain ⟨hxy, hsequel⟩ :=
      write_append_inj x y hxs.1 hys.1 (endsNumeral_sequel rfl _ _) (endsNumeral_sequel rfl _ _) h
    obtain ⟨hitems, hr⟩ := writeItems_append_inj xs ys hxs.2 hys.2 (sequel_inj (by decide) hsequel)
    exact ⟨by rw [hxy, hitems], hr⟩

theorem writeFields_append_inj : ∀ (xs ys : List (String × Json)) {r r' : List Char}, fieldsAreExact xs = true →
    fieldsAreExact ys = true → writeFields xs ++ '\x7d' :: r = writeFields ys ++ '\x7d' :: r' → xs = ys ∧ r = r'
  | [], [], _, _, _, _, h => ⟨rfl, (List.cons.inj h).2⟩
  | [], (m, y) :: ys, r, r', _, _, h => by
    rw [writeFields_cons] at h
    cases (List.cons.inj h).1
  | (n, x) :: xs, [], r, r', _, _, h => by
    rw [writeFields_cons] at h
    cases (List.cons.inj h).1
  | (n, x) :: xs, (m, y) :: ys, r, r', hxs, hys, h => by
    rw [fieldsAreExact, Bool.and_eq_true] at hxs hys
    rw [writeFields_cons, writeFields_cons] at h
    obtain ⟨hname, hvalue⟩ := quoted_append_inj h
    obtain ⟨hxy, hsequel⟩ := write_append_inj x y hxs.1 hys.1 (endsNumeral_sequel rfl _ _) (endsNumeral_sequel rfl _ _)
      (List.cons.inj hvalue).2
    obtain ⟨hfields, hr⟩ := writeFields_append_inj xs ys hxs.2 hys.2 (sequel_inj (by decide) hsequel)
    exact ⟨by rw [hname, hxy, hfields], hr⟩
end

/-- **A compact text is that of one value.** -/
theorem compact_inj {v w : Json} (hv : isExact v = true) (hw : isExact w = true) : v.compact = w.compact ↔ v = w := by
  refine ⟨fun h => ?_, fun h => by rw [h]⟩
  have hend : EndsNumeral [] := nofun
  rw [compact, compact, String.ofList_inj] at h
  exact (write_append_inj v w hv hw hend hend (congrArg (· ++ []) h)).1

end TrainingJobs.Json
