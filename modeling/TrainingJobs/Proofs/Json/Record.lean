/-
Records read field by field. Fields of which none is unknown or repeated are read like the list of their values. Of any
record that is read, each field shows what is written for it, wherever it stands. Writers that tell values apart make
records and dictionaries that do.

- `foldlM_takeField`: known fields without repetition, read value by value;
- `of_readRecord`: one field of a record that is read, whatever else is written there;
- `ofDict_injective`, `ofOption_injective`: what is written of different values is different;
- `ofPresent_inj`: fields that are left out when they have no value are told apart all the same.
-/
import TrainingJobs.Json.Typed
import TrainingJobs.Proofs.Fallible

namespace TrainingJobs.Json

/-! ## Reading -/

section

variable {σ : Type} {slots : List (Slot σ)}

/-- values put into a record, each at its slot -/
def putAll (s : σ) (values : List (Slot σ × Json)) : Reading σ := values.foldlM (fun s e => e.1.put e.2 s) s

/-- a value that reads back is put into the record as what it was -/
theorem putAll_slot {α : Type} {name : String} {presence : Presence} {read : Json → Reading α} {set : σ → α → σ}
    {v : Json} {a : α} (h : read v = .ok a) (s : σ) (rest : List (Slot σ × Json)) :
    putAll s ((slot name presence read set, v) :: rest) = putAll (set s a) rest := by
  have hput : (slot name presence read set).put v s = .ok (set s a) := congrArg (Except.map (set s)) h
  rw [putAll, List.foldlM_cons, hput]
  rfl

theorem takeField_eq (hslots : (slots.map Slot.name).Nodup) {slot : Slot σ} (hslot : slot ∈ slots) {seen : List String}
    (hseen : slot.name ∉ seen) (s : σ) (v : Json) :
    takeField slots (s, seen) (slot.name, v) = (slot.put v s).map fun s => (s, slot.name :: seen) := by
  have hfind : slots.find? (fun slot' => slot'.name == slot.name) = some slot := by
    cases h : slots.find? fun slot' => slot'.name == slot.name with
    | none => exact absurd (List.find?_eq_none.1 h slot hslot) (by simp)
    | some found =>
      have hname : found.name = slot.name :=
        beq_iff_eq.1 (List.find?_some (p := fun slot' : Slot σ => slot'.name == slot.name) h)
      rw [List.inj_on_of_nodup_map hslots (List.mem_of_find?_eq_some h) hslot hname]
  rw [takeField, hfind]
  exact if_neg (by simpa using hseen)

/-- the fields that are left to read, one for each slot, when those before them have been read -/
theorem foldlM_takeField (hslots : (slots.map Slot.name).Nodup) {left : List (Slot σ)} {fields : List (String × Json)}
    {seen : List String} (hleft : left ⊆ slots) (hnames : fields.map Prod.fst = left.map Slot.name)
    (hnew : (left.map Slot.name ++ seen).Nodup) (s : σ) :
    fields.foldlM (takeField slots) (s, seen) =
      (putAll s (left.zip (fields.map Prod.snd))).map fun s => (s, (left.map Slot.name).reverse ++ seen) := by
  induction left generalizing fields seen s with
  | nil =>
    cases fields with
    | nil => rfl
    | cons f fields => cases hnames
  | cons slot left ih =>
    cases fields with
    | nil => cases hnames
    | cons f fields =>
      obtain ⟨name, v⟩ := f
      obtain ⟨rfl, hrest⟩ := List.cons.inj hnames
      obtain ⟨hslot, hleft⟩ := List.cons_subset.1 hleft
      rw [List.map_cons, List.cons_append, List.nodup_cons, List.mem_append, not_or] at hnew
      have hnext : (left.map Slot.name ++ slot.name :: seen).Nodup :=
        List.perm_middle.nodup_iff.2 (List.nodup_cons.2 ⟨by simpa using hnew.1, hnew.2⟩)
      rw [List.foldlM_cons, takeField_eq hslots hslot hnew.1.2, List.map_cons, List.map_cons, List.zip_cons_cons,
        putAll, List.foldlM_cons]
      cases slot.put v s with
      | error e => rfl
      | ok s' =>
        refine (ih hleft hrest hnext s').trans ?_
        rw [List.reverse_cons, List.append_assoc]
        rfl

end

/-! ## Single fields -/

section

variable {σ α β : Type} {slots : List (Slot σ)} {name : String} {read : Json → Reading α} {get : σ → α}

/-- what `get` shows of a record is put there by the slot of that name alone, as `read` reads it -/
structure Shows (slots : List (Slot σ)) (name : String) (read : Json → Reading α) (get : σ → α) : Prop where
  own : ∀ slot ∈ slots, slot.name = name → ∀ v s s', slot.put v s = .ok s' → read v = .ok (get s')
  others : ∀ slot ∈ slots, slot.name ≠ name → ∀ v s s', slot.put v s = .ok s' → get s' = get s

theorem of_put_slot {presence : Presence} {set : σ → α → σ} {v : Json} {s s' : σ}
    (h : (slot name presence read set).put v s = .ok s') : ∃ a, read v = .ok a ∧ set s a = s' := by
  change (read v).map (set s) = .ok s' at h
  cases hread : read v with
  | error e =>
    rw [hread] at h
    cases h
  | ok a =>
    rw [hread] at h
    exact ⟨a, rfl, Except.ok.inj h⟩

namespace Shows

theorem nil : Shows [] name read get :=
  ⟨fun _ h => absurd h List.not_mem_nil, fun _ h => absurd h List.not_mem_nil⟩

theorem cons_own {presence : Presence} {set : σ → α → σ} (hset : ∀ s a, get (set s a) = a)
    (h : Shows slots name read get) : Shows (slot name presence read set :: slots) name read get := by
  refine ⟨List.forall_mem_cons.2 ⟨fun _ v s s' hput => ?_, h.own⟩,
    List.forall_mem_cons.2 ⟨fun hne => absurd rfl hne, h.others⟩⟩
  obtain ⟨a, hread, rfl⟩ := of_put_slot hput
  rw [hread, hset]

theorem cons_other {other : String} {presence : Presence} {read' : Json → Reading β} {set : σ → β → σ}
    (hne : other ≠ name) (hset : ∀ s b, get (set s b) = get s) (h : Shows slots name read get) :
    Shows (slot other presence read' set :: slots) name read get := by
  refine ⟨List.forall_mem_cons.2 ⟨fun hname => absurd hname hne, h.own⟩,
    List.forall_mem_cons.2 ⟨fun _ v s s' hput => ?_, h.others⟩⟩
  obtain ⟨b, _, rfl⟩ := of_put_slot hput
  exact hset s b

end Shows

/-- a field that is passed over, or the one of a slot that has not been seen -/
theorem of_takeField {acc acc' : σ × List String} {field : String × Json}
    (h : takeField slots acc field = .ok acc') : (field.1 ∉ slots.map Slot.name ∧ acc' = acc) ∨
      ∃ slot ∈ slots, slot.name = field.1 ∧ field.1 ∉ acc.2 ∧
        ∃ s, slot.put field.2 acc.1 = .ok s ∧ acc' = (s, field.1 :: acc.2) := by
  unfold takeField at h
  split at h
  · next hnone =>
    refine .inl ⟨fun hmem => ?_, (Except.ok.inj h).symm⟩
    obtain ⟨slot, hslot, hname⟩ := List.mem_map.1 hmem
    exact List.find?_eq_none.1 hnone slot hslot (beq_iff_eq.2 hname)
  · next slot hsome =>
    split_ifs at h with hseen
    have hname : slot.name = field.1 := beq_iff_eq.1 (List.find?_some (p := fun slot : Slot σ => slot.name == field.1) hsome)
    refine .inr ⟨slot, List.mem_of_find?_eq_some hsome, hname, by simpa using hseen, ?_⟩
    cases hput : slot.put field.2 acc.1 with
    | error e =>
      rw [hput] at h
      cases h
    | ok s =>
      rw [hput] at h
      exact ⟨s, rfl, (Except.ok.inj h).symm⟩

/-- once its field has been read, a part of the record stays, and there is no second field of its name -/
theorem of_foldlM_takeField (h : Shows slots name read get) (hname : name ∈ slots.map Slot.name)
    {fields : List (String × Json)} {acc acc' : σ × List String}
    (hread : fields.foldlM (takeField slots) acc = .ok acc') :
    (name ∈ acc.2 → get acc'.1 = get acc.1) ∧ ∀ v, (name, v) ∈ fields → read v = .ok (get acc'.1) := by
  induction fields generalizing acc with
  | nil =>
    cases hread
    exact ⟨fun _ => rfl, fun v hv => absurd hv List.not_mem_nil⟩
  | cons field rest ih =>
    rw [List.foldlM_cons] at hread
    obtain ⟨mid, hfield, hrest⟩ := of_bind_eq_ok hread
    obtain ⟨hstays, hfields⟩ := ih hrest
    rcases of_takeField hfield with ⟨hunknown, rfl⟩ | ⟨slot, hslot, hslotName, hnew, s, hput, rfl⟩
    · refine ⟨hstays, fun v hv => ?_⟩
      rcases List.mem_cons.1 hv with rfl | hv
      · exact absurd hname hunknown
      · exact hfields v hv
    by_cases hown : slot.name = name
    · rw [hslotName] at hown
      refine ⟨fun hseen => absurd (hown ▸ hseen) hnew, fun v hv => ?_⟩
      rcases List.mem_cons.1 hv with rfl | hv
      · rw [hstays List.mem_cons_self]
        exact h.own slot hslot hslotName v _ s hput
      · exact hfields v hv
    · refine ⟨fun hseen => ?_, fun v hv => ?_⟩
      · rw [hstays (List.mem_cons_of_mem _ hseen)]
        exact h.others slot hslot hown _ _ s hput
      · rcases List.mem_cons.1 hv with rfl | hv
        · exact absurd hslotName hown
        · exact hfields v hv

/-- of values put at different slots, each part of the record stays as its own has it -/
theorem of_putAll (h : Shows slots name read get) {values : List (Slot σ × Json)} (hslots : ∀ e ∈ values, e.1 ∈ slots)
    (hnodup : (values.map fun e => e.1.name).Nodup) {s s' : σ} (hread : putAll s values = .ok s') :
    ((∀ e ∈ values, e.1.name ≠ name) → get s' = get s) ∧
      ∀ e ∈ values, e.1.name = name → read e.2 = .ok (get s') := by
  induction values generalizing s with
  | nil =>
    cases hread
    exact ⟨fun _ => rfl, fun e he => absurd he List.not_mem_nil⟩
  | cons first rest ih =>
    rw [putAll, List.foldlM_cons] at hread
    obtain ⟨mid, hput, hrest⟩ := of_bind_eq_ok hread
    obtain ⟨hfirst, hslots⟩ := List.forall_mem_cons.1 hslots
    obtain ⟨hnew, hnodup⟩ := List.nodup_cons.1 hnodup
    obtain ⟨hstays, hvalues⟩ := ih hslots hnodup hrest
    refine ⟨fun hothers => ?_, fun e he hname => ?_⟩
    · obtain ⟨hother, hothers⟩ := List.forall_mem_cons.1 hothers
      rw [hstays hothers]
      exact h.others first.1 hfirst hother _ _ mid hput
    · rcases List.mem_cons.1 he with rfl | he
      · have hothers : ∀ e' ∈ rest, e'.1.name ≠ name := fun e' he' hsame =>
          hnew (List.mem_map.2 ⟨e', he', hsame.trans hname.symm⟩)
        rw [hstays hothers]
        exact h.own e.1 hfirst hname _ _ mid hput
      · exact hvalues e he hname

theorem map_fst_zip_isPrefix (xs : List α) (ys : List β) : (xs.zip ys).map Prod.fst <+: xs := by
  rw [List.zip_eq_zip_take_min, List.map_fst_zip (by simp)]
  exact List.take_prefix _ xs

/-- a written record gives a field that value, by its name or by its place -/
def Gives (slots : List (Slot σ)) (name : String) (v : Json) : Json → Prop
  | .record fields => (name, v) ∈ fields
  | .list items => ∃ slot, slot.name = name ∧ (slot, v) ∈ slots.zip items
  | _ => False

/-- what is read of a record shows what it gives -/
theorem of_readRecord (h : Shows slots name read get) (hslots : (slots.map Slot.name).Nodup)
    (hname : name ∈ slots.map Slot.name) {written v : Json} (hgives : Gives slots name v written) {defaults s : σ}
    (hread : readRecord slots defaults written = .ok s) : read v = .ok (get s) := by
  cases written with
  | record fields =>
    obtain ⟨⟨s', seen⟩, hfields, hall⟩ := of_bind_eq_ok hread
    dsimp only at hall
    split_ifs at hall
    cases hall
    exact (of_foldlM_takeField h hname hfields).2 v hgives
  | list items =>
    obtain ⟨slot, hslotName, hslot⟩ := hgives
    obtain ⟨s', hitems, hall⟩ := of_bind_eq_ok hread
    split_ifs at hall
    cases hall
    have hnodup : ((slots.zip items).map fun e => e.1.name).Nodup := by
      have hnames := hslots.sublist ((map_fst_zip_isPrefix slots items).sublist.map Slot.name)
      rwa [List.map_map] at hnames
    have hsub : ∀ e ∈ slots.zip items, e.1 ∈ slots := fun e he => (List.of_mem_zip he).1
    exact (of_putAll h hsub hnodup hitems).2 _ hslot hslotName
  | _ => cases hgives

end

/-! ## Writing -/

theorem ofInt64_injective : Function.Injective ofInt64 := by
  intro m n h
  simpa [ofInt64, Int64.toInt_inj] using h

section

variable {α : Type} {write : α → Json}

theorem ofDict_injective (hwrite : Function.Injective write) : Function.Injective (ofDict write) := by
  intro d e h
  have hpair : Function.Injective fun e : String × α => (e.1, write e.2) := by
    intro x y hxy
    exact Prod.ext (Prod.ext_iff.1 hxy).1 (hwrite (Prod.ext_iff.1 hxy).2)
  have hentries : d.entries = e.entries := List.map_injective_iff.2 hpair (Json.record.inj h)
  cases d
  cases e
  simpa using hentries

theorem ofOption_injective (hwrite : Function.Injective write) (hnull : ∀ a, write a ≠ .null) :
    Function.Injective (ofOption write) := by
  intro x y h
  cases x with
  | none =>
    cases y with
    | none => rfl
    | some b => exact absurd h.symm (hnull b)
  | some a =>
    cases y with
    | none => exact absurd h (hnull a)
    | some b => rw [hwrite h]

end

/-- fields that have no value are not written, and still each is told by its name -/
theorem ofPresent_inj {fields fields' : List (String × Option Json)} (h : ofPresent fields = ofPresent fields')
    (hnames : fields.map Prod.fst = fields'.map Prod.fst) (hnodup : (fields.map Prod.fst).Nodup) :
    fields = fields' := by
  induction fields generalizing fields' with
  | nil =>
    cases fields' with
    | nil => rfl
    | cons f rest => cases hnames
  | cons f rest ih =>
    cases fields' with
    | nil => cases hnames
    | cons f' rest' =>
      obtain ⟨name, x⟩ := f
      obtain ⟨name', x'⟩ := f'
      obtain ⟨rfl, hrest⟩ := List.cons.inj hnames
      have hfield : x = x' := by
        have hvalue := congrArg (Json.field? name) h
        rw [field?_ofPresent hnodup, field?_ofPresent (hnames ▸ hnodup)] at hvalue
        simpa [Dict.lookup_cons_eq_ite] using hvalue
      subst hfield
      have htail : ofPresent rest = ofPresent rest' := by
        cases x with
        | none => exact h
        | some v => exact congrArg Json.record (List.cons.inj (Json.record.inj h)).2
      rw [ih htail hrest (List.nodup_cons.1 hnodup).2]

end TrainingJobs.Json
