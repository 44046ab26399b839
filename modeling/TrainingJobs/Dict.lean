/-
Dictionaries: entries under distinct names, kept in the order of the names (code point by code point, which is also
the byte order of their UTF-8 forms). Two dictionaries with the same look-ups are equal.

- `find?_insert`: what an insertion does to every look-up;
- `entries_insert_of_find?`: what it does to the entries, if the name has a value;
- `ofList_entries`: a dictionary is made up of its entries;
- `ext_find?`: look-ups decide equality;
- `entries_filter_of_find?`: a name has one entry at most;
- `find?_overlay`: of two dictionaries laid over each other, the upper one decides;
- `entries_ofList_perm`: entries of distinct names all stay;
- `ofList_eq_of_perm`: their order does not matter.
-/
namespace TrainingJobs

universe u v

/-- entries in strictly increasing order of their names -/
structure Dict (α : Type u) where
  entries : List (String × α)
  sorted : entries.Pairwise fun a b => a.1 < b.1
deriving DecidableEq

namespace Dict

variable {α : Type u} {β : Type v}

def empty : Dict α := ⟨[], List.Pairwise.nil⟩

instance : EmptyCollection (Dict α) := ⟨empty⟩

instance : Inhabited (Dict α) := ⟨empty⟩

instance [Repr α] : Repr (Dict α) := ⟨fun d => reprPrec d.entries⟩

/-- puts an entry at its place; an entry of that name is replaced -/
def insertEntry (name : String) (value : α) : List (String × α) → List (String × α)
  | [] => [(name, value)]
  | (n, v) :: rest =>
    if name < n then (name, value) :: (n, v) :: rest
    else if name = n then (name, value) :: rest
    else (n, v) :: insertEntry name value rest

theorem lt_of_not_lt_of_ne {a b : String} (h : ¬ a < b) (hne : a ≠ b) : b < a := by
  have hle : b ≤ a := String.not_lt.1 h
  exact String.not_le.1 fun h' => hne (String.le_antisymm h' hle)

theorem mem_insertEntry {name : String} {value : α} {es : List (String × α)} {e : String × α}
    (h : e ∈ insertEntry name value es) : e = (name, value) ∨ e ∈ es := by
  induction es with
  | nil => simpa [insertEntry] using h
  | cons x rest ih =>
    rw [insertEntry] at h
    split at h
    · simpa using h
    · split at h
      · rcases List.mem_cons.1 h with h | h
        · exact .inl h
        · exact .inr (List.mem_cons_of_mem _ h)
      · rcases List.mem_cons.1 h with h | h
        · exact .inr (h ▸ List.mem_cons_self)
        · exact (ih h).imp_right (List.mem_cons_of_mem _)

theorem pairwise_insertEntry (name : String) (value : α) (es : List (String × α))
    (h : es.Pairwise fun a b => a.1 < b.1) : (insertEntry name value es).Pairwise fun a b => a.1 < b.1 := by
  induction es with
  | nil => simp [insertEntry]
  | cons x rest ih =>
    obtain ⟨hx, hrest⟩ := List.pairwise_cons.1 h
    rw [insertEntry]
    split
    · next hlt =>
      refine List.pairwise_cons.2 ⟨fun b hb => ?_, h⟩
      rcases List.mem_cons.1 hb with rfl | hb
      · exact hlt
      · exact String.lt_trans hlt (hx b hb)
    · next hnlt =>
      split
      · next heq => exact List.pairwise_cons.2 ⟨fun b hb => heq ▸ hx b hb, hrest⟩
      · next hne =>
        refine List.pairwise_cons.2 ⟨fun b hb => ?_, ih hrest⟩
        rcases mem_insertEntry hb with rfl | hb
        · exact lt_of_not_lt_of_ne hnlt hne
        · exact hx b hb

/-- the dictionary with one entry more, in place of an entry of that name -/
def insert (d : Dict α) (name : String) (value : α) : Dict α :=
  ⟨insertEntry name value d.entries, pairwise_insertEntry name value d.entries d.sorted⟩

/-- entries in turn; of two with one name the later one stays -/
def ofList (es : List (String × α)) : Dict α := es.foldl (fun d e => d.insert e.1 e.2) empty

def erase (d : Dict α) (name : String) : Dict α :=
  ⟨d.entries.filter (·.1 ≠ name), d.sorted.filter _⟩

def find? (d : Dict α) (name : String) : Option α := d.entries.lookup name

def contains (d : Dict α) (name : String) : Bool := (d.find? name).isSome

def size (d : Dict α) : Nat := d.entries.length

def isEmpty (d : Dict α) : Bool := d.entries.isEmpty

def names (d : Dict α) : List String := d.entries.map (·.1)

def values (d : Dict α) : List α := d.entries.map (·.2)

/-- the same names with other values -/
def map (f : String → α → β) (d : Dict α) : Dict β :=
  ⟨d.entries.map fun e => (e.1, f e.1 e.2), List.pairwise_map.2 d.sorted⟩

/-- both dictionaries in one; where both have a name, `other` decides -/
def overlay (d other : Dict α) : Dict α := other.entries.foldl (fun d e => d.insert e.1 e.2) d

theorem lookup_cons_eq_ite (x : String × α) (es : List (String × α)) (name : String) :
    (x :: es).lookup name = if x.1 = name then some x.2 else es.lookup name := by
  rw [List.lookup_cons]
  by_cases hname : x.1 = name
  · rw [if_pos hname, hname, beq_self_eq_true]
  · rw [if_neg hname, beq_eq_false_iff_ne.2 (Ne.symm hname)]

theorem lookup_insertEntry (name : String) (value : α) (es : List (String × α)) (n : String) :
    (insertEntry name value es).lookup n = if name = n then some value else es.lookup n := by
  induction es with
  | nil => rw [insertEntry, lookup_cons_eq_ite]
  | cons x rest ih => grind [insertEntry, lookup_cons_eq_ite]

theorem lookup_filter (name : String) (es : List (String × α)) (n : String) :
    (es.filter (·.1 ≠ name)).lookup n = if name = n then none else es.lookup n := by
  induction es with
  | nil => simp
  | cons x rest ih => grind [lookup_cons_eq_ite]

@[simp] theorem find?_empty (name : String) : (∅ : Dict α).find? name = none := rfl

theorem find?_insert (d : Dict α) (name : String) (value : α) (n : String) :
    (d.insert name value).find? n = if name = n then some value else d.find? n :=
  lookup_insertEntry name value d.entries n

theorem find?_erase (d : Dict α) (name n : String) :
    (d.erase name).find? n = if name = n then none else d.find? n :=
  lookup_filter name d.entries n

theorem lookup_eq_none_of_lt {name : String} {es : List (String × α)} (h : ∀ e ∈ es, name < e.1) :
    es.lookup name = none := by
  refine List.lookup_eq_none_iff.2 fun e he => bne_iff_ne.2 fun hname => ?_
  exact String.lt_irrefl name (by simpa [← hname] using h e he)

theorem entries_eq_of_lookup_eq {es fs : List (String × α)} (he : es.Pairwise fun a b => a.1 < b.1)
    (hf : fs.Pairwise fun a b => a.1 < b.1) (h : ∀ n, es.lookup n = fs.lookup n) : es = fs := by
  induction es generalizing fs with
  | nil =>
    cases fs with
    | nil => rfl
    | cons y fs => simpa [lookup_cons_eq_ite] using h y.1
  | cons x es ih =>
    cases fs with
    | nil => simpa [lookup_cons_eq_ite] using h x.1
    | cons y fs =>
      obtain ⟨hx, hes⟩ := List.pairwise_cons.1 he
      obtain ⟨hy, hfs⟩ := List.pairwise_cons.1 hf
      have below : ∀ {a b : String × α} {gs : List (String × α)}, a.1 < b.1 → (∀ g ∈ gs, b.1 < g.1) →
          (b :: gs).lookup a.1 = none := fun hab hb =>
        lookup_eq_none_of_lt fun e he => by
          rcases List.mem_cons.1 he with rfl | he
          · exact hab
          · exact String.lt_trans hab (hb e he)
      have hname : x.1 = y.1 := by
        refine Classical.byContradiction fun hne => ?_
        by_cases hlt : x.1 < y.1
        · have := h x.1
          rw [below hlt hy] at this
          simp [lookup_cons_eq_ite] at this
        · have hlt' := lt_of_not_lt_of_ne hlt hne
          have := h y.1
          rw [below hlt' hx] at this
          simp [lookup_cons_eq_ite] at this
      have hval : x.2 = y.2 := by simpa [lookup_cons_eq_ite, hname] using h x.1
      have hrest : es = fs := by
        refine ih hes hfs fun n => ?_
        by_cases hn : x.1 = n
        · subst hn
          rw [lookup_eq_none_of_lt hx, lookup_eq_none_of_lt (hname ▸ hy)]
        · have hn' : y.1 ≠ n := hname ▸ hn
          simpa [lookup_cons_eq_ite, hn, hn'] using h n
      rw [hrest, show x = y from Prod.ext hname hval]

/-- the entries of a name that has one are that one -/
theorem entries_filter_of_find? {d : Dict α} {name : String} {value : α} (h : d.find? name = some value) :
    d.entries.filter (·.1 = name) = [(name, value)] := by
  have hentries : ∀ es : List (String × α), (es.Pairwise fun a b => a.1 < b.1) → es.lookup name = some value →
      es.filter (·.1 = name) = [(name, value)] := by
    intro es hes hlookup
    induction es with
    | nil => cases hlookup
    | cons x rest ih =>
      obtain ⟨n, v⟩ := x
      obtain ⟨hx, hrest⟩ := List.pairwise_cons.1 hes
      by_cases hname : n = name
      · have hvalue : v = value := by simpa [lookup_cons_eq_ite, hname] using hlookup
        have hnone : rest.filter (·.1 = name) = [] := by
          rw [List.filter_eq_nil_iff]
          intro e he hsame
          have hlt : n < e.1 := hx e he
          rw [of_decide_eq_true hsame, hname] at hlt
          exact String.lt_irrefl name hlt
        rw [List.filter_cons_of_pos (by simpa using hname), hnone, hname, hvalue]
      · have hlookup : rest.lookup name = some value := by simpa [lookup_cons_eq_ite, hname] using hlookup
        rw [List.filter_cons_of_neg (by simpa using hname), ih hrest hlookup]
  exact hentries d.entries d.sorted h

theorem mem_of_mem_foldl_insert {es : List (String × α)} {d : Dict α} {e : String × α}
    (h : e ∈ (es.foldl (fun d e => d.insert e.1 e.2) d).entries) : e ∈ d.entries ∨ e ∈ es := by
  induction es generalizing d with
  | nil => exact Or.inl h
  | cons x rest ih =>
    rcases ih h with h | h
    · rcases mem_insertEntry h with rfl | h
      · exact Or.inr List.mem_cons_self
      · exact Or.inl h
    · exact Or.inr (List.mem_cons_of_mem _ h)

theorem mem_of_mem_ofList {es : List (String × α)} {e : String × α} (h : e ∈ (ofList es).entries) : e ∈ es :=
  (mem_of_mem_foldl_insert h).resolve_left fun h => by cases h

theorem insertEntry_append {name : String} (value : α) {es : List (String × α)} (h : ∀ e ∈ es, e.1 < name) :
    insertEntry name value es = es ++ [(name, value)] := by
  induction es with
  | nil => rfl
  | cons x rest ih =>
    have hx := h x List.mem_cons_self
    have hne : name ≠ x.1 := fun e => String.lt_irrefl _ (e ▸ hx)
    rw [insertEntry, if_neg (fun hlt => String.lt_irrefl _ (String.lt_trans hlt hx)), if_neg hne,
      ih fun e he => h e (List.mem_cons_of_mem _ he), List.cons_append]

theorem entries_foldl_insert {es : List (String × α)} {d : Dict α} (hes : es.Pairwise fun a b => a.1 < b.1)
    (h : ∀ a ∈ d.entries, ∀ b ∈ es, a.1 < b.1) :
    (es.foldl (fun d e => d.insert e.1 e.2) d).entries = d.entries ++ es := by
  induction es generalizing d with
  | nil => simp
  | cons x rest ih =>
    obtain ⟨hx, hrest⟩ := List.pairwise_cons.1 hes
    have hi : (d.insert x.1 x.2).entries = d.entries ++ [x] :=
      insertEntry_append x.2 fun e he => h e he x List.mem_cons_self
    rw [List.foldl_cons, ih hrest, hi, List.append_assoc]
    · rfl
    · intro a ha b hb
      rw [hi] at ha
      rcases List.mem_append.1 ha with ha | ha
      · exact h a ha b (List.mem_cons_of_mem _ hb)
      · rw [List.mem_singleton.1 ha]; exact hx b hb

/-- entries in order make up the dictionary that has them -/
theorem ofList_entries (d : Dict α) : ofList d.entries = d := by
  have h : (ofList d.entries).entries = d.entries := by
    rw [ofList, entries_foldl_insert d.sorted (fun a ha => by cases ha)]
    rfl
  cases d with
  | mk es hes =>
    cases h' : ofList es with
    | mk fs hfs => rw [h'] at h; simpa using h

/-- entries that are in order already stay as they are -/
theorem entries_ofList_of_sorted {es : List (String × α)} (h : es.Pairwise fun a b => a.1 < b.1) :
    (ofList es).entries = es :=
  congrArg entries (ofList_entries ⟨es, h⟩)

theorem names_nodup (d : Dict α) : d.names.Nodup :=
  List.pairwise_map.2 (d.sorted.imp fun {a b} (hlt : a.1 < b.1) heq => String.lt_irrefl b.1 (by rwa [heq] at hlt))

theorem map_names (d : Dict α) (f : String → β) : d.names.map f = d.entries.map fun e => f e.1 :=
  List.map_map

/-- among entries of distinct names, the look-up of a name finds the entry that has it -/
theorem lookup_eq_some_iff_mem {es : List (String × α)} (h : (es.map (·.1)).Nodup) (name : String) (value : α) :
    es.lookup name = some value ↔ (name, value) ∈ es := by
  induction es with
  | nil => simp
  | cons x rest ih =>
    obtain ⟨n, v⟩ := x
    obtain ⟨hn, hrest⟩ := List.nodup_cons.1 h
    by_cases hname : n = name
    · have hout : (name, value) ∉ rest := fun hmem => hn (hname ▸ List.mem_map.2 ⟨_, hmem, rfl⟩)
      simp [hname, hout, eq_comm]
    · simp [lookup_cons_eq_ite, hname, ih hrest, Ne.symm hname]

theorem lookup_map (f : α → β) (es : List (String × α)) (name : String) :
    (es.map fun e => (e.1, f e.2)).lookup name = (es.lookup name).map f := by
  induction es with
  | nil => rfl
  | cons x rest ih => by_cases hname : x.1 = name <;> simp [lookup_cons_eq_ite, hname, ih]

/-- where both dictionaries have a name, the upper one decides -/
theorem find?_overlay (d other : Dict α) (name : String) :
    (d.overlay other).find? name = (other.find? name).or (d.find? name) := by
  have hfoldl : ∀ (es : List (String × α)) (d : Dict α), (es.map (·.1)).Nodup →
      (es.foldl (fun d e => d.insert e.1 e.2) d).find? name = (es.lookup name).or (d.find? name) := by
    intro es
    induction es with
    | nil => intro d _; rfl
    | cons x rest ih =>
      intro d hes
      obtain ⟨hx, hrest⟩ := List.nodup_cons.1 hes
      rw [List.foldl_cons, ih _ hrest, find?_insert]
      by_cases hname : x.1 = name
      · have hnone : rest.lookup name = none := by
          refine Option.eq_none_iff_forall_ne_some.2 fun value hvalue => hx ?_
          exact List.mem_map.2 ⟨_, (lookup_eq_some_iff_mem hrest name value).1 hvalue, hname.symm⟩
        simp [lookup_cons_eq_ite, hname, hnone]
      · simp [lookup_cons_eq_ite, hname]
  exact hfoldl other.entries d other.names_nodup

theorem find?_eq_some_iff (d : Dict α) (name : String) (value : α) :
    d.find? name = some value ↔ (name, value) ∈ d.entries :=
  lookup_eq_some_iff_mem d.names_nodup name value

theorem contains_iff (d : Dict α) (name : String) : d.contains name = true ↔ name ∈ d.names := by
  rw [contains, Option.isSome_iff_exists]
  constructor
  · rintro ⟨value, hvalue⟩
    exact List.mem_map.2 ⟨_, (d.find?_eq_some_iff name value).1 hvalue, rfl⟩
  · intro h
    obtain ⟨e, he, rfl⟩ := List.mem_map.1 h
    exact ⟨e.2, (d.find?_eq_some_iff e.1 e.2).2 he⟩

theorem mem_names_insert (d : Dict α) (name : String) (value : α) (n : String) :
    n ∈ (d.insert name value).names ↔ n = name ∨ n ∈ d.names := by
  rw [← contains_iff, ← contains_iff, contains, contains, find?_insert]
  by_cases hname : name = n
  · simp [hname]
  · simp [hname, Ne.symm hname]

/-- under a name that has a value, a new value takes its place -/
theorem entries_insert_of_find? {d : Dict α} {name : String} {old : α} (h : d.find? name = some old) (value : α) :
    (d.insert name value).entries = d.entries.map fun e => if e.1 = name then (name, value) else e := by
  have hentries : ∀ es : List (String × α), (es.Pairwise fun a b => a.1 < b.1) → es.lookup name = some old →
      insertEntry name value es = es.map fun e => if e.1 = name then (name, value) else e := by
    intro es hes hlookup
    induction es with
    | nil => cases hlookup
    | cons x rest ih =>
      obtain ⟨hx, hrest⟩ := List.pairwise_cons.1 hes
      have hnlt : ¬ name < x.1 := fun hlt => by
        have hnone : (x :: rest).lookup name = none := lookup_eq_none_of_lt fun e he => by
          rcases List.mem_cons.1 he with rfl | he
          · exact hlt
          · exact String.lt_trans hlt (hx e he)
        rw [hnone] at hlookup
        cases hlookup
      rw [insertEntry, if_neg hnlt, List.map_cons]
      by_cases hname : name = x.1
      · have hothers : rest.map (fun e => if e.1 = name then (name, value) else e) = rest := by
          refine (List.map_congr_left fun e he => if_neg fun hsame => ?_).trans (List.map_id rest)
          exact String.lt_irrefl name (by simpa [hsame, ← hname] using hx e he)
        rw [if_pos hname, if_pos hname.symm, hothers]
      · have hlookup : rest.lookup name = some old := by simpa [lookup_cons_eq_ite, Ne.symm hname] using hlookup
        rw [if_neg hname, if_neg (Ne.symm hname), ih hrest hlookup]
  exact hentries d.entries d.sorted h

theorem insertEntry_perm {name : String} (value : α) {es : List (String × α)} (h : name ∉ es.map (·.1)) :
    (insertEntry name value es).Perm ((name, value) :: es) := by
  induction es with
  | nil => exact .refl _
  | cons x rest ih =>
    obtain ⟨hx, hrest⟩ := not_or.1 fun h' => h (List.mem_cons.2 h')
    by_cases hlt : name < x.1
    · rw [insertEntry, if_pos hlt]
    · rw [insertEntry, if_neg hlt, if_neg hx]
      exact ((ih hrest).cons x).trans (.swap (name, value) x rest)

/-- entries of distinct names are the entries of their dictionary, in some order -/
theorem entries_ofList_perm {es : List (String × α)} (h : (es.map (·.1)).Nodup) : (ofList es).entries.Perm es := by
  have hfoldl : ∀ (es : List (String × α)) (d : Dict α), (d.names ++ es.map (·.1)).Nodup →
      (es.foldl (fun d e => d.insert e.1 e.2) d).entries.Perm (d.entries ++ es) := by
    intro es
    induction es with
    | nil => intro d _; rw [List.append_nil]; exact .refl _
    | cons x rest ih =>
      intro d hd
      have hx : x.1 ∉ d.names := fun hmem => (List.nodup_append.1 hd).2.2 _ hmem _ List.mem_cons_self rfl
      have hinsert : (d.insert x.1 x.2).entries.Perm (x :: d.entries) := insertEntry_perm x.2 hx
      have hnames : ((d.insert x.1 x.2).names ++ rest.map (·.1)).Perm (d.names ++ (x :: rest).map (·.1)) :=
        ((hinsert.map (·.1)).append_right _).trans List.perm_middle.symm
      exact (ih _ (hnames.nodup_iff.2 hd)).trans ((hinsert.append_right rest).trans List.perm_middle.symm)
  exact hfoldl es empty h

theorem find?_ofList {es : List (String × α)} (h : (es.map (·.1)).Nodup) (name : String) :
    (ofList es).find? name = es.lookup name := by
  refine Option.ext fun value => ?_
  rw [find?_eq_some_iff, lookup_eq_some_iff_mem h, (entries_ofList_perm h).mem_iff]

/-- dictionaries with the same look-ups are equal -/
theorem ext_find? {d e : Dict α} (h : ∀ n, d.find? n = e.find? n) : d = e := by
  cases d with
  | mk es hes =>
    cases e with
    | mk fs hfs => simp only [Dict.mk.injEq]; exact entries_eq_of_lookup_eq hes hfs h

/-- of entries of distinct names the order does not matter -/
theorem ofList_eq_of_perm {es fs : List (String × α)} (hperm : es.Perm fs) (h : (fs.map (·.1)).Nodup) :
    ofList es = ofList fs := by
  refine ext_find? fun n => Option.ext fun v => ?_
  have hes : (es.map (·.1)).Nodup := (hperm.map _).nodup_iff.2 h
  rw [find?_ofList hes, find?_ofList h, lookup_eq_some_iff_mem hes, lookup_eq_some_iff_mem h, hperm.mem_iff]

end Dict

end TrainingJobs
