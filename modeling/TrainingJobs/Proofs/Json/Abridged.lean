/-
Written values with some of their fields left out. A layout tells the fields of a record, each with its default if it
has one; what is written may leave out any field that is at its default, at any depth, and put the others in any order.

- `putAll_perm`: fields with places of their own may be put in any order;
- `readRecord_eq_putAll`: a record of some of its fields reads like the list of their values;
- `Leads.readRecord_eq`: and it does so whatever their order;
- `Carried`: a value is written so that it is read again, whatever is left out of it and however it is ordered;
- `Carried.leaf`, `Carried.option`, `Carried.dict`, `Carried.record`: this is so of a value if it is so of its parts.
-/
import Mathlib.Tactic
import TrainingJobs.Proofs.Json.Record

namespace TrainingJobs.Json

/-! ## Order -/

/-- what stands for each other item by item still does in another order -/
theorem exists_perm_of_forall₂ {α β : Type} {R : α → β → Prop} {xs : List α} {ys zs : List β}
    (h : List.Forall₂ R xs ys) (hperm : ys.Perm zs) : ∃ xs', xs.Perm xs' ∧ List.Forall₂ R xs' zs := by
  have hcomp : Relation.Comp (List.Forall₂ R) List.Perm xs zs := ⟨ys, h, hperm⟩
  rwa [List.forall₂_comp_perm_eq_perm_comp_forall₂] at hcomp

namespace Slot

variable {σ : Type}

/-- two values may be put into a record in either order -/
def Independent (x y : Slot σ) : Prop :=
  ∀ v w s t, (x.put v s).bind (y.put w) = .ok t ↔ (y.put w s).bind (x.put v) = .ok t

theorem Independent.symm {x y : Slot σ} (h : Independent x y) : Independent y x :=
  fun v w s t => (h w v s t).symm

@[simp] theorem independent_slot {α β : Type} {name other : String} {presence presence' : Presence}
    {read : Json → Reading α} {read' : Json → Reading β} {set : σ → α → σ} {set' : σ → β → σ}
    (h : ∀ s a b, set' (set s a) b = set (set' s b) a) :
    Independent (slot name presence read set) (slot other presence' read' set') := by
  intro v w s t
  simp only [slot]
  cases read v <;> cases read' w <;> simp [Except.bind, Except.map, h]

/-- each slot has a name of its own and a place of its own in the record -/
structure Separate (slots : List (Slot σ)) : Prop where
  names : (slots.map Slot.name).Nodup
  places : slots.Pairwise Independent

end Slot

section

variable {σ : Type} {slots : List (Slot σ)}

theorem putAll_cons (s : σ) (e : Slot σ × Json) (rest : List (Slot σ × Json)) :
    putAll s (e :: rest) = (e.1.put e.2 s).bind fun s => putAll s rest := rfl

theorem of_putAll_cons {s t : σ} {e : Slot σ × Json} {rest : List (Slot σ × Json)}
    (h : putAll s (e :: rest) = .ok t) : ∃ mid, e.1.put e.2 s = .ok mid ∧ putAll mid rest = .ok t := of_bind_eq_ok h

theorem putAll_perm {xs ys : List (Slot σ × Json)} (hperm : xs.Perm ys)
    (hplaces : xs.Pairwise fun x y => x.1.Independent y.1) {s t : σ} (h : putAll s xs = .ok t) :
    putAll s ys = .ok t := by
  induction hperm generalizing s with
  | nil => exact h
  | cons x _ ih =>
    obtain ⟨mid, hx, hrest⟩ := of_putAll_cons h
    rw [putAll_cons, hx]
    exact ih (List.pairwise_cons.1 hplaces).2 hrest
  | swap x y rest =>
    obtain ⟨first, hy, hrest⟩ := of_putAll_cons h
    obtain ⟨both, hx, hrest⟩ := of_putAll_cons hrest
    have hplace : y.1.Independent x.1 := (List.pairwise_cons.1 hplaces).1 x List.mem_cons_self
    have hboth : (x.1.put x.2 s).bind (y.1.put y.2) = .ok both := by
      rw [← hplace, hy]
      exact hx
    obtain ⟨first', hx', hy'⟩ := of_bind_eq_ok hboth
    rw [putAll_cons, hx', Except.bind, putAll_cons, hy']
    exact hrest
  | trans hfirst _ ih ih' =>
    exact ih' ((hfirst.pairwise_iff Slot.Independent.symm).1 hplaces) (ih hplaces h)

/-- a record of some of its fields, in any order, if none is missing that is required -/
theorem readRecord_eq_putAll (hslots : (slots.map Slot.name).Nodup) {given : List (Slot σ × Json)}
    (hgiven : (given.map Prod.fst).Subperm slots)
    (hrequired : ∀ slot ∈ slots, slot.presence = .required → slot ∈ given.map Prod.fst) (defaults : σ) :
    readRecord slots defaults (.record (given.map fun e => (e.1.name, e.2))) = putAll defaults given := by
  have hnames : (given.map fun e => (e.1.name, e.2)).map Prod.fst = (given.map Prod.fst).map Slot.name := by
    rw [List.map_map, List.map_map]
    rfl
  have hvalues : (given.map Prod.fst).zip ((given.map fun e => (e.1.name, e.2)).map Prod.snd) = given := by
    rw [List.map_map, List.zip_map']
    exact List.map_id given
  have hnew : ((given.map Prod.fst).map Slot.name ++ []).Nodup := by
    obtain ⟨sub, hperm, hsub⟩ := hgiven
    rw [List.append_nil]
    exact (hperm.map Slot.name).nodup_iff.1 (hslots.sublist (hsub.map Slot.name))
  rw [readRecord, foldlM_takeField hslots hgiven.subset hnames hnew, hvalues]
  cases putAll defaults given with
  | error e => rfl
  | ok s =>
    refine if_pos (List.all_eq_true.2 fun slot hslot => ?_)
    by_cases hpresence : slot.presence = .required
    · have hmem := List.mem_map_of_mem (f := Slot.name) (hrequired slot hslot hpresence)
      simp only [List.append_nil, List.contains_eq_mem, List.mem_reverse, hmem, decide_true, Bool.or_true]
    · simp [hpresence]

end

/-! ## Layouts -/

/-- which fields a written value has, each with its default if it may be left out; of a dictionary the entries are no
fields and all stay -/
inductive Layout where
  | whole
  | dict (value : Layout)
  | record (fields : List (String × Option Json × Layout))

namespace Layout

/-- a record with all those fields at their defaults that have one -/
def atDefaults : Layout → Json
  | record fields => .record (fields.filterMap fun (name, d, _) => d.map fun d => (name, d))
  | _ => .null

end Layout

mutual
/-- the first value, with some fields that are at their defaults left out and the others in any order -/
inductive Abridged : Layout → Json → Json → Prop
  | whole (v : Json) : Abridged .whole v v
  | null (l : Layout) : Abridged l .null .null
  | dict {l : Layout} {es kept es' : List (String × Json)} (h : AbridgedValues l es kept) (hperm : kept.Perm es') :
      Abridged (.dict l) (.record es) (.record es')
  | record {fs : List (String × Option Json × Layout)} {es kept es' : List (String × Json)}
      (h : AbridgedFields fs es kept) (hperm : kept.Perm es') : Abridged (.record fs) (.record es) (.record es')

inductive AbridgedFields : List (String × Option Json × Layout) → List (String × Json) → List (String × Json) → Prop
  | nil : AbridgedFields [] [] []
  | leftOut {name : String} {d : Json} {l : Layout} {fs : List (String × Option Json × Layout)}
      {es kept : List (String × Json)} (h : AbridgedFields fs es kept) :
      AbridgedFields ((name, some d, l) :: fs) ((name, d) :: es) kept
  | kept {name : String} {d : Option Json} {l : Layout} {v v' : Json} {fs : List (String × Option Json × Layout)}
      {es kept : List (String × Json)} (hv : Abridged l v v') (h : AbridgedFields fs es kept) :
      AbridgedFields ((name, d, l) :: fs) ((name, v) :: es) ((name, v') :: kept)

inductive AbridgedValues : Layout → List (String × Json) → List (String × Json) → Prop
  | nil {l : Layout} : AbridgedValues l [] []
  | cons {name : String} {l : Layout} {v v' : Json} {es kept : List (String × Json)} (hv : Abridged l v v')
      (h : AbridgedValues l es kept) : AbridgedValues l ((name, v) :: es) ((name, v') :: kept)
end

/-- the value is written so that it is read again, as it is written, as a value proper, and with fields left out -/
structure Carried {α : Type} (l : Layout) (read : Json → Reading α) (v : Json) (a : α) : Prop where
  whole : Abridged l v v
  tidy : Abridged l v v.tidy
  reads : ∀ w, Abridged l v w → read w = .ok a

namespace Carried

variable {α σ : Type} {l : Layout} {read : Json → Reading α} {write : α → Json} {v : Json} {a : α}

theorem read_eq (h : Carried l read v a) : read v = .ok a := h.reads v h.whole

/-! ## Parts of values -/

theorem leaf (hread : read v = .ok a) (htidy : v.tidy = v) : Carried .whole read v a where
  whole := .whole v
  tidy := htidy.symm ▸ .whole v
  reads w hw := by cases hw <;> exact hread

theorem map {β : Type} (f : α → β) (h : Carried l read v a) : Carried l (fun w => (read w).map f) v (f a) :=
  ⟨h.whole, h.tidy, fun w hw => congrArg (Except.map f) (h.reads w hw)⟩

theorem option {x : Option α} (h : ∀ a ∈ x, Carried l read (write a) a) (hnull : ∀ a, write a ≠ .null) :
    Carried l (optional read) (ofOption write x) x := by
  cases x with
  | none => exact ⟨.null l, .null l, fun w hw => by cases hw <;> rfl⟩
  | some a =>
    have ha := h a rfl
    refine ⟨ha.whole, ha.tidy, fun w hw => ?_⟩
    have hw' : w ≠ .null := by
      rintro rfl
      generalize hv : ofOption write (some a) = v at hw
      cases hw <;> exact hnull a hv
    rw [optional, ha.reads w hw]
    · rfl
    · exact hw'

end Carried

/-! ## Dictionaries -/

section

variable {α : Type} {l : Layout} {read : Json → Reading α} {write : α → Json}

theorem foldlM_insert_eq {es : List (String × α)} {fields : List (String × Json)}
    (h : List.Forall₂ (fun e f => e.1 = f.1 ∧ read f.2 = .ok e.2) es fields) (d : Dict α) :
    fields.foldlM (fun d (name, v) => (read v).map (d.insert name)) d =
      .ok (es.foldl (fun d e => d.insert e.1 e.2) d) := by
  induction h generalizing d with
  | nil => rfl
  | @cons e f es fields hef _ ih =>
    rw [List.foldlM_cons, List.foldl_cons, ← ih]
    simp only [hef.2, hef.1]
    rfl

theorem forall₂_of_abridgedValues {es : List (String × α)} {kept : List (String × Json)}
    (hread : ∀ e ∈ es, ∀ w, Abridged l (write e.2) w → read w = .ok e.2)
    (h : AbridgedValues l (es.map fun e => (e.1, write e.2)) kept) :
    List.Forall₂ (fun e f => e.1 = f.1 ∧ read f.2 = .ok e.2) es kept := by
  induction es generalizing kept with
  | nil =>
    cases h
    exact .nil
  | cons e rest ih =>
    obtain ⟨he, hread⟩ := List.forall_mem_cons.1 hread
    cases h with
    | cons hv h => exact .cons ⟨rfl, he _ hv⟩ (ih hread h)

theorem abridgedValues_map {es : List (String × α)} {f : Json → Json}
    (h : ∀ e ∈ es, Abridged l (write e.2) (f (write e.2))) :
    AbridgedValues l (es.map fun e => (e.1, write e.2)) (es.map fun e => (e.1, f (write e.2))) := by
  induction es with
  | nil => exact .nil
  | cons e rest ih =>
    obtain ⟨he, hrest⟩ := List.forall_mem_cons.1 h
    exact .cons he (ih hrest)

theorem tidyFields_eq_map (fields : List (String × Json)) :
    tidyFields fields = fields.map fun f => (f.1, f.2.tidy) := by
  induction fields with
  | nil => rfl
  | cons f rest ih => rw [tidyFields, List.map_cons, ih]

theorem Carried.dict {d : Dict α} (h : ∀ e ∈ d.entries, Carried l read (write e.2) e.2) :
    Carried (.dict l) (asDict read) (ofDict write d) d where
  whole := .dict (abridgedValues_map (f := id) fun e he => (h e he).whole) (.refl _)
  tidy := by
    have hnames : ((d.entries.map fun e => (e.1, (write e.2).tidy)).map Prod.fst).Nodup := by
      rw [List.map_map]
      exact d.names_nodup
    rw [ofDict, Json.tidy, tidyFields_eq_map, List.map_map]
    exact .dict (abridgedValues_map (f := Json.tidy) fun e he => (h e he).tidy)
      (Dict.entries_ofList_perm hnames).symm
  reads w hw := by
    cases hw with
    | dict hvalues hperm =>
      have hkept := forall₂_of_abridgedValues (fun e he => (h e he).reads) hvalues
      obtain ⟨es, hes, hfields⟩ := exists_perm_of_forall₂ hkept hperm
      calc asDict read (.record _) = .ok (Dict.ofList es) := foldlM_insert_eq hfields ∅
        _ = .ok (Dict.ofList d.entries) := by rw [Dict.ofList_eq_of_perm hes.symm d.names_nodup]
        _ = .ok d := by rw [Dict.ofList_entries]

end

/-! ## Records -/

/-- fields of some of the slots, all that are required among them, lead from one record to another -/
def Leads {σ : Type} (slots : List (Slot σ)) (fields : List (String × Json)) (s t : σ) : Prop :=
  ∃ given : List (Slot σ × Json), given.map (fun e => (e.1.name, e.2)) = fields ∧ (given.map Prod.fst).Sublist slots ∧
    (∀ slot ∈ slots, slot.presence = .required → slot ∈ given.map Prod.fst) ∧ putAll s given = .ok t

namespace Leads

variable {σ α : Type} {name : String} {presence : Presence} {read : Json → Reading α} {set : σ → α → σ}
  {slots : List (Slot σ)} {fields fields' : List (String × Json)} {s t : σ}

theorem nil (s : σ) : Leads [] [] s s := ⟨[], rfl, .slnil, fun _ h => absurd h List.not_mem_nil, rfl⟩

theorem cons {v : Json} {a : α} (hv : read v = .ok a) (h : Leads slots fields (set s a) t) :
    Leads (slot name presence read set :: slots) ((name, v) :: fields) s t := by
  obtain ⟨given, rfl, hsub, hrequired, hput⟩ := h
  refine ⟨(slot name presence read set, v) :: given, rfl, hsub.cons_cons _, ?_, ?_⟩
  · exact List.forall_mem_cons.2
      ⟨fun _ => List.mem_cons_self, fun slot hslot h => List.mem_cons_of_mem _ (hrequired slot hslot h)⟩
  · rw [putAll_slot hv, hput]

theorem skip (hpresence : presence ≠ .required) (h : Leads slots fields s t) :
    Leads (slot name presence read set :: slots) fields s t := by
  obtain ⟨given, hfields, hsub, hrequired, hput⟩ := h
  exact ⟨given, hfields, hsub.cons _, List.forall_mem_cons.2 ⟨fun h => absurd h hpresence, hrequired⟩, hput⟩

/-- a record of such fields, in any order, is read as the one that they lead to -/
theorem readRecord_eq (h : Leads slots fields s t) (hslots : Slot.Separate slots) (hperm : fields.Perm fields') :
    readRecord slots s (.record fields') = .ok t := by
  obtain ⟨given, rfl, hsub, hrequired, hput⟩ := h
  have hfields : List.Forall₂ (fun e f => (e.1.name, e.2) = f) given (given.map fun e => (e.1.name, e.2)) :=
    List.forall₂_map_right_iff.2 (List.forall₂_same.2 fun _ _ => rfl)
  obtain ⟨given', hgiven, hfields'⟩ := exists_perm_of_forall₂ hfields hperm
  have heq := List.forall₂_map_left_iff.2 hfields'
  rw [List.forall₂_eq_eq_eq] at heq
  rw [← heq, readRecord_eq_putAll hslots.names]
  · exact putAll_perm hgiven (List.pairwise_map.1 (hslots.places.sublist hsub)) hput
  · exact (hgiven.map Prod.fst).symm.subperm.trans hsub.subperm
  · exact fun slot hslot hpresence => (hgiven.map Prod.fst).subset (hrequired slot hslot hpresence)

end Leads

/-- what is written of a record leads from its defaults to it, slot by slot; a field that may be left out has the
default with which the record starts -/
inductive Steps {σ : Type} :
    List (Slot σ) → List (String × Option Json × Layout) → List (String × Json) → σ → σ → Prop
  | nil (s : σ) : Steps [] [] [] s s
  | required {α : Type} {name : String} {l : Layout} {read : Json → Reading α} {set : σ → α → σ} {v : Json} {a : α}
      {slots : List (Slot σ)} {fs : List (String × Option Json × Layout)} {es : List (String × Json)} {s t : σ}
      (hv : Carried l read v a) (h : Steps slots fs es (set s a) t) :
      Steps (slot name .required read set :: slots) ((name, none, l) :: fs) ((name, v) :: es) s t
  | defaulted {α : Type} {name : String} {presence : Presence} {l : Layout} {read : Json → Reading α} {set : σ → α → σ}
      {v d : Json} {a a₀ : α} {slots : List (Slot σ)} {fs : List (String × Option Json × Layout)}
      {es : List (String × Json)} {s t : σ} (hv : Carried l read v a) (hd : read d = .ok a₀) (hs : set s a₀ = s)
      (hpresence : presence ≠ .required) (h : Steps slots fs es (set s a) t) :
      Steps (slot name presence read set :: slots) ((name, some d, l) :: fs) ((name, v) :: es) s t

namespace Steps

variable {σ : Type} {slots : List (Slot σ)} {fs : List (String × Option Json × Layout)} {es : List (String × Json)}
  {s t : σ}

theorem names (h : Steps slots fs es s t) : es.map Prod.fst = slots.map Slot.name := by
  induction h with
  | nil => rfl
  | required _ _ ih => exact congrArg _ ih
  | defaulted _ _ _ _ _ ih => exact congrArg _ ih

theorem whole (h : Steps slots fs es s t) : AbridgedFields fs es es := by
  induction h with
  | nil => exact .nil
  | required hv _ ih => exact .kept hv.whole ih
  | defaulted hv _ _ _ _ ih => exact .kept hv.whole ih

theorem tidy (h : Steps slots fs es s t) : AbridgedFields fs es (tidyFields es) := by
  induction h with
  | nil => exact .nil
  | required hv _ ih => exact .kept hv.tidy ih
  | defaulted hv _ _ _ _ ih => exact .kept hv.tidy ih

/-- the fields that are kept lead to the record as well -/
theorem leads_kept (h : Steps slots fs es s t) {kept : List (String × Json)} (hkept : AbridgedFields fs es kept) :
    Leads slots kept s t := by
  induction h generalizing kept with
  | nil s =>
    cases hkept
    exact .nil s
  | required hv _ ih =>
    cases hkept with
    | kept hv' hkept => exact .cons (hv.reads _ hv') (ih hkept)
  | defaulted hv hd hs hpresence _ ih =>
    cases hkept with
    | leftOut hkept =>
      -- a value that is written like the default is the default, and the record has it to begin with
      have ha := Except.ok.inj (hv.read_eq.symm.trans hd)
      have hrest := ih hkept
      rw [ha, hs] at hrest
      exact hrest.skip hpresence
    | kept hv' hkept => exact .cons (hv.reads _ hv') (ih hkept)

end Steps

theorem Carried.record {σ : Type} {slots : List (Slot σ)} {fs : List (String × Option Json × Layout)}
    {es : List (String × Json)} {defaults t : σ} (hslots : Slot.Separate slots) (h : Steps slots fs es defaults t) :
    Carried (.record fs) (readRecord slots defaults) (.record es) t where
  whole := .record h.whole (.refl _)
  tidy := by
    have hnames : ((tidyFields es).map Prod.fst).Nodup := by
      rw [tidyFields_eq_map, List.map_map]
      exact h.names ▸ hslots.names
    rw [Json.tidy]
    exact .record h.tidy (Dict.entries_ofList_perm hnames).symm
  reads w hw := by
    cases hw with
    | record hfields hperm => exact (h.leads_kept hfields).readRecord_eq hslots hperm

/-! ## Values without fields -/

theorem tidy_int {n : ℤ} (hlow : -9223372036854775808 ≤ n) (hhigh : n ≤ 18446744073709551615) :
    (number (.int n)).tidy = number (.int n) := by
  have hword : isWord n = true := by
    simp only [isWord, isSigned64, isUnsigned64, Bool.or_eq_true, Bool.and_eq_true, decide_eq_true_eq]
    omega
  rw [tidy, Number.tidy, if_pos hword]

theorem carried_text (s : String) : Carried .whole asText (.text s) s := .leaf rfl rfl

theorem carried_bool (b : Bool) : Carried .whole asBool (.bool b) b := .leaf rfl rfl

theorem tidy_ofCount (n : UInt32) : (ofCount n).tidy = ofCount n := by
  have := n.toNat_lt
  exact tidy_int (by omega) (by omega)

theorem carried_count (n : UInt32) : Carried .whole asCount (.ofCount n) n := .leaf (asCount_ofCount n) (tidy_ofCount n)

theorem carried_word (n : UInt64) : Carried .whole asWord (.ofWord n) n := by
  have := n.toNat_lt
  exact .leaf (asWord_ofWord n) (tidy_int (by omega) (by omega))

theorem carried_int32 (n : Int32) : Carried .whole asInt32 (.ofInt32 n) n := by
  have := n.le_toInt
  have := n.toInt_lt
  exact .leaf (asInt32_ofInt32 n) (tidy_int (by omega) (by omega))

theorem carried_texts (xs : List String) : Carried .whole (asList asText) (.ofTexts xs) xs := by
  have htidy : tidyItems (xs.map text) = xs.map text := by
    induction xs with
    | nil => rfl
    | cons x rest ih => rw [List.map_cons, tidyItems, ih, tidy]
  refine .leaf (asList_map xs fun _ _ => rfl) ?_
  rw [ofTexts, tidy, htidy]

theorem carried_optionalText (x : Option String) : Carried .whole (optional asText) (.ofOption .text x) x :=
  .option (fun s _ => carried_text s) nofun

theorem carried_optionalCount (x : Option UInt32) : Carried .whole (optional asCount) (.ofOption .ofCount x) x :=
  .option (fun n _ => carried_count n) nofun

theorem carried_optionalWord (x : Option UInt64) : Carried .whole (optional asWord) (.ofOption .ofWord x) x :=
  .option (fun n _ => carried_word n) nofun

theorem carried_dictOfTexts (d : Dict String) : Carried (.dict .whole) (asDict asText) (.ofDict .text d) d :=
  .dict fun e _ => carried_text e.2

theorem carried_plain (p : Plain) : Carried .whole asPlain p.json p := .leaf (asPlain_json p) p.tidy_eq

end TrainingJobs.Json
