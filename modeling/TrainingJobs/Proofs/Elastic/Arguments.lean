/-
The settings of the rendezvous in the arguments of `torchrun`. They are joined by commas, each as `key=value`, and
nothing in a key or a value is escaped. So what shows in the arguments are the pieces between the commas and not the
settings: a value may hold what looks like a further setting. Where keys hold neither mark and no value has an equals
sign behind a comma, every setting begins at a piece with an equals sign, and the settings are read back.

- `arguments_eq_iff`: launches that differ in their settings have the same arguments just when the pieces are the same;
- `regroup_pieces`: the pieces of clear settings fall back into these settings;
- `readSettings_arguments`: clear settings are read back from the arguments;
- `arguments_tell_clear_settings`: all of it;
- `comma_passes_for_separator`: one setting that looks like two.
-/
import Mathlib.Tactic
import TrainingJobs.Elastic.Mode

namespace TrainingJobs

/-! ## Lists in pieces -/

theorem splitOn_intercalate_flatMap {α : Type} [BEq α] [LawfulBEq α] (mark : α) {parts : List (List α)}
    (h : parts ≠ []) : ([mark].intercalate parts).splitOn mark = parts.flatMap (List.splitOn mark) := by
  induction parts with
  | nil => exact absurd rfl h
  | cons first rest ih =>
    cases rest with
    | nil => simp
    | cons next others =>
      calc ([mark].intercalate (first :: next :: others)).splitOn mark
          = (first ++ mark :: [mark].intercalate (next :: others)).splitOn mark := by simp [List.intercalate]
        _ = first.splitOn mark ++ (next :: others).flatMap (List.splitOn mark) := by
          rw [List.splitOn_append_cons_self, ih (List.cons_ne_nil _ _)]
        _ = (first :: next :: others).flatMap (List.splitOn mark) := List.flatMap_cons.symm

theorem splitOn_append_of_notMem {α : Type} [BEq α] [LawfulBEq α] {mark : α} {xs : List α} (h : mark ∉ xs)
    (ys : List α) : (xs ++ ys).splitOn mark = (ys.splitOn mark).modifyHead (xs ++ ·) := by
  induction xs with
  | nil => exact (congrFun List.modifyHead_id _).symm
  | cons x rest ih =>
    obtain ⟨hx, hrest⟩ := not_or.1 (mt List.mem_cons.2 h)
    rw [List.cons_append, List.splitOn_cons_eq_if_modifyHead, if_neg (by simpa using Ne.symm hx), ih hrest,
      List.modifyHead_modifyHead]
    rfl

theorem splitOn_inj {α : Type} [BEq α] [LawfulBEq α] {mark : α} {xs ys : List α}
    (h : xs.splitOn mark = ys.splitOn mark) : xs = ys := by
  have hjoin : [mark].intercalate (xs.splitOn mark) = [mark].intercalate (ys.splitOn mark) := congrArg _ h
  rwa [List.intercalate_splitOn, List.intercalate_splitOn] at hjoin

namespace ElasticLaunch

/-! ## What shows of the settings -/

/-- the settings of a rendezvous, each as its key and the text of its value -/
def settings (rendezvous : Dict Json.Plain) : List (String × String) :=
  rendezvous.entries.map fun e => (e.1, settingText e.2.json)

/-- a setting as it stands in the arguments -/
def written (setting : String × String) : List Char := setting.1.toList ++ '=' :: setting.2.toList

/-- what stands between the commas once the settings are joined -/
def pieces (rendezvous : Dict Json.Plain) : List (List Char) :=
  (settings rendezvous).flatMap fun setting => (written setting).splitOn ','

theorem toList_rendezvousText (l : ElasticLaunch) :
    l.rendezvousText.toList = [','].intercalate ((settings l.rendezvous).map written) := by
  rw [rendezvousText, String.toList_intercalate, List.map_map, settings, List.map_map]
  refine congrArg _ (List.map_congr_left fun e _ => ?_)
  simp [written, String.toList_append]

theorem settings_eq_nil_iff (rendezvous : Dict Json.Plain) : settings rendezvous = [] ↔ rendezvous.isEmpty = true := by
  rw [settings, List.map_eq_nil_iff, Dict.isEmpty, List.isEmpty_iff]

theorem splitOn_rendezvousText {l : ElasticLaunch} (h : ¬ l.rendezvous.isEmpty = true) :
    l.rendezvousText.toList.splitOn ',' = pieces l.rendezvous := by
  have hsome : (settings l.rendezvous).map written ≠ [] := by
    rwa [Ne, List.map_eq_nil_iff, settings_eq_nil_iff]
  rw [toList_rendezvousText, splitOn_intercalate_flatMap ',' hsome, List.flatMap_map]
  rfl

theorem pieces_eq_nil_iff (rendezvous : Dict Json.Plain) : pieces rendezvous = [] ↔ rendezvous.isEmpty = true := by
  rw [← settings_eq_nil_iff, pieces, List.flatMap_eq_nil_iff]
  constructor
  · intro h
    rw [List.eq_nil_iff_forall_not_mem]
    intro setting hsetting
    exact List.splitOn_ne_nil ',' _ (h setting hsetting)
  · intro h
    simp [h]

/-- the arguments before the one for the rendezvous settings -/
def fixedArguments (l : ElasticLaunch) : List String := ({ l with rendezvous := ∅ } : ElasticLaunch).torchrunArguments

theorem torchrunArguments_eq (l : ElasticLaunch) : l.torchrunArguments =
    l.fixedArguments ++ if l.rendezvous.isEmpty then [] else ["--rdzv-conf=" ++ l.rendezvousText] := rfl

/-- **The arguments show the pieces between the commas, and no more of the settings.** -/
theorem arguments_eq_iff (l : ElasticLaunch) (r r' : Dict Json.Plain) :
    ({ l with rendezvous := r } : ElasticLaunch).torchrunArguments =
      ({ l with rendezvous := r' } : ElasticLaunch).torchrunArguments ↔ pieces r = pieces r' := by
  rw [torchrunArguments_eq, torchrunArguments_eq]
  change l.fixedArguments ++ _ = l.fixedArguments ++ _ ↔ _
  rw [List.append_right_inj]
  by_cases hr : r.isEmpty = true <;> by_cases hr' : r'.isEmpty = true
  · rw [if_pos hr, if_pos hr', (pieces_eq_nil_iff r).2 hr, (pieces_eq_nil_iff r').2 hr']
    exact iff_of_true rfl rfl
  · rw [if_pos hr, if_neg hr', (pieces_eq_nil_iff r).2 hr]
    exact iff_of_false (by simp) fun h => hr' ((pieces_eq_nil_iff r').1 h.symm)
  · rw [if_neg hr, if_pos hr', (pieces_eq_nil_iff r').2 hr']
    exact iff_of_false (by simp) fun h => hr ((pieces_eq_nil_iff r).1 h)
  · have hsplit := splitOn_rendezvousText (l := { l with rendezvous := r }) hr
    have hsplit' := splitOn_rendezvousText (l := { l with rendezvous := r' }) hr'
    rw [if_neg hr, if_neg hr', ← hsplit, ← hsplit', List.cons.injEq, String.append_right_inj]
    constructor
    · rintro ⟨h, _⟩
      rw [h]
    · intro h
      exact ⟨String.toList_inj.1 (splitOn_inj h), rfl⟩

/-! ## Settings read back -/

/-- joins every piece without an equals sign to the piece before it -/
def regroup : List (List Char) → List (List Char)
  | [] => []
  | piece :: rest =>
    match regroup rest with
    | [] => [piece]
    | next :: others => if '=' ∈ next then piece :: next :: others else (piece ++ ',' :: next) :: others

/-- key and value, apart at the first equals sign -/
def splitSetting (cs : List Char) : String × String :=
  (String.ofList (cs.takeWhile (· ≠ '=')), String.ofList (cs.dropWhile (· ≠ '=')).tail)

/-- the settings that an argument for the rendezvous names, if there is such an argument -/
def readSettings (arguments : List String) : List (String × String) :=
  match arguments.findSome? fun argument => "--rdzv-conf=".toList.isPrefixOf? argument.toList with
  | none => []
  | some cs => (regroup (cs.splitOn ',')).map splitSetting

/-- neither mark in the key, and no equals sign behind a comma of the value -/
structure Clear (setting : String × String) : Prop where
  comma : ',' ∉ setting.1.toList
  equals : '=' ∉ setting.1.toList
  value : ∀ piece ∈ (setting.2.toList.splitOn ',').tail, '=' ∉ piece

instance (setting : String × String) : Decidable (Clear setting) :=
  decidable_of_iff (',' ∉ setting.1.toList ∧ '=' ∉ setting.1.toList ∧
      ∀ piece ∈ (setting.2.toList.splitOn ',').tail, '=' ∉ piece)
    ⟨fun h => ⟨h.1, h.2.1, h.2.2⟩, fun h => ⟨h.comma, h.equals, h.value⟩⟩

theorem splitSetting_written {setting : String × String} (h : '=' ∉ setting.1.toList) :
    splitSetting (written setting) = setting := by
  have hkey : ∀ c ∈ setting.1.toList, decide (c ≠ '=') = true := by
    intro c hc
    rw [decide_eq_true_iff]
    rintro rfl
    exact h hc
  rw [splitSetting, written, List.takeWhile_append_of_pos hkey, List.dropWhile_append_of_pos hkey]
  simp

/-- behind the first piece of a clear setting no piece of it holds an equals sign -/
theorem Clear.splitOn_written {setting : String × String} (h : Clear setting) :
    ∃ first more, (written setting).splitOn ',' = first :: more ∧ ∀ piece ∈ more, '=' ∉ piece := by
  have hmark : ',' ∉ setting.1.toList ++ ['='] := by simp [h.comma]
  have hsplit : (written setting).splitOn ',' =
      (setting.2.toList.splitOn ',').modifyHead (setting.1.toList ++ ['='] ++ ·) := by
    rw [← splitOn_append_of_notMem hmark, written, List.append_assoc, List.singleton_append]
  have hvalue := h.value
  cases hpieces : setting.2.toList.splitOn ',' with
  | nil => exact absurd hpieces (List.splitOn_ne_nil _ _)
  | cons first more =>
    rw [hpieces] at hsplit hvalue
    exact ⟨_, more, hsplit, hvalue⟩

theorem notMem_intercalate {parts : List (List Char)} (h : ∀ piece ∈ parts, '=' ∉ piece) :
    '=' ∉ [','].intercalate parts := by
  induction parts with
  | nil => simp
  | cons first rest ih =>
    obtain ⟨hfirst, hrest⟩ := List.forall_mem_cons.1 h
    cases rest with
    | nil => simpa using hfirst
    | cons next others =>
      have hmore := ih hrest
      simp only [List.intercalate, List.intersperse_cons_cons, List.flatten_cons, List.mem_append, not_or] at hmore ⊢
      exact ⟨hfirst, by decide, hmore⟩

/-- the pieces of one setting fall back into it when a new setting follows them, or none -/
theorem regroup_append {first : List Char} {more rest : List (List Char)} (hmore : ∀ piece ∈ more, '=' ∉ piece)
    (hrest : ∀ next ∈ (regroup rest).head?, '=' ∈ next) :
    regroup (first :: more ++ rest) = [','].intercalate (first :: more) :: regroup rest := by
  induction more generalizing first with
  | nil =>
    rw [List.singleton_append, regroup]
    cases hnext : regroup rest with
    | nil => simp
    | cons next others =>
      rw [hnext] at hrest
      simp [hrest next rfl]
  | cons piece more ih =>
    have hpiece : '=' ∉ [','].intercalate (piece :: more) := notMem_intercalate hmore
    rw [List.cons_append, regroup, ih (List.forall_mem_cons.1 hmore).2]
    simp only [if_neg hpiece]
    simp [List.intercalate]

/-- clear settings are what their pieces fall into -/
theorem regroup_pieces {settings : List (String × String)} (h : ∀ setting ∈ settings, Clear setting) :
    regroup (settings.flatMap fun setting => (written setting).splitOn ',') = settings.map written := by
  induction settings with
  | nil => rfl
  | cons setting rest ih =>
    obtain ⟨hsetting, hrest⟩ := List.forall_mem_cons.1 h
    obtain ⟨first, more, hsplit, hmore⟩ := hsetting.splitOn_written
    have hnext : ∀ next ∈ (regroup (rest.flatMap fun setting => (written setting).splitOn ',')).head?, '=' ∈ next := by
      rw [ih hrest]
      intro next hnext
      obtain ⟨s, _, rfl⟩ := List.mem_map.1 (List.mem_of_mem_head? hnext)
      simp [written]
    calc regroup ((setting :: rest).flatMap fun setting => (written setting).splitOn ',')
        = regroup (first :: more ++ rest.flatMap fun setting => (written setting).splitOn ',') := by
          rw [List.flatMap_cons, hsplit]
      _ = [','].intercalate (first :: more) :: regroup (rest.flatMap fun setting => (written setting).splitOn ',') :=
          regroup_append hmore hnext
      _ = written setting :: rest.map written := by rw [← hsplit, List.intercalate_splitOn, ih hrest]

theorem findSome?_fixedArguments (l : ElasticLaunch) :
    l.fixedArguments.findSome? (fun argument => "--rdzv-conf=".toList.isPrefixOf? argument.toList) = none := by
  refine List.findSome?_eq_none_iff.2 fun argument hargument => ?_
  simp only [fixedArguments, torchrunArguments, List.mem_append, List.mem_cons] at hargument
  rcases hargument with (rfl | rfl | rfl | rfl | rfl | rfl | rfl | hnone) | hnone
  case inl.inr.inr.inr.inr.inr.inr.inr | inr => cases hnone
  all_goals
    rw [String.toList_append]
    rfl

theorem readSettings_arguments {l : ElasticLaunch} (h : ∀ setting ∈ settings l.rendezvous, Clear setting) :
    readSettings l.torchrunArguments = settings l.rendezvous := by
  rw [readSettings, torchrunArguments_eq, List.findSome?_append, findSome?_fixedArguments, Option.none_or]
  by_cases hnone : l.rendezvous.isEmpty = true
  · rw [if_pos hnone, (settings_eq_nil_iff _).2 hnone]
    rfl
  · have hflag : "--rdzv-conf=".toList.isPrefixOf? ("--rdzv-conf=" ++ l.rendezvousText).toList =
        some l.rendezvousText.toList := by
      rw [String.toList_append]
      rfl
    have hback : ∀ setting ∈ settings l.rendezvous, splitSetting (written setting) = setting := by
      intro setting hsetting
      exact splitSetting_written (h setting hsetting).equals
    rw [if_neg hnone, List.findSome?_singleton, hflag]
    calc (regroup (l.rendezvousText.toList.splitOn ',')).map splitSetting
        = ((settings l.rendezvous).map written).map splitSetting := by
          rw [splitOn_rendezvousText hnone, pieces, regroup_pieces h]
      _ = (settings l.rendezvous).map id := by
          rw [List.map_map]
          exact List.map_congr_left hback
      _ = settings l.rendezvous := List.map_id _

/-- the same launch with other settings of the rendezvous -/
def withRendezvous (l : ElasticLaunch) (rendezvous : Dict Json.Plain) : ElasticLaunch := { l with rendezvous }

/-- **Clear settings reach the launch as they are.** Of two launches that differ in their settings alone, the arguments
are the same just when the pieces between the commas are. Settings with neither mark in a key and no equals sign behind
a comma of a value are read back from the arguments, in the order of their keys, so that the arguments of two launches
with such settings differ when a key or the text of a value does. -/
theorem arguments_tell_clear_settings (l : ElasticLaunch) :
    (∀ r r', (l.withRendezvous r).torchrunArguments = (l.withRendezvous r').torchrunArguments ↔ pieces r = pieces r') ∧
    (∀ r, (∀ setting ∈ settings r, Clear setting) →
      readSettings (l.withRendezvous r).torchrunArguments = settings r) ∧
    ∀ r r', (∀ setting ∈ settings r, Clear setting) → (∀ setting ∈ settings r', Clear setting) →
      settings r ≠ settings r' → (l.withRendezvous r).torchrunArguments ≠ (l.withRendezvous r').torchrunArguments := by
  have hread : ∀ r, (∀ setting ∈ settings r, Clear setting) →
      readSettings (l.withRendezvous r).torchrunArguments = settings r := by
    intro r h
    exact readSettings_arguments (l := l.withRendezvous r) h
  refine ⟨l.arguments_eq_iff, hread, ?_⟩
  intro r r' h h' hne hsame
  apply hne
  rw [← hread r h, hsame, hread r' h']

/-- several nodes and nothing else said -/
def plainLaunch : ElasticLaunch := .ofConfig { nodes := .range 2 4 } defaultBackend

def textValue (s : String) : Json.Plain := ⟨.text s, rfl, rfl⟩

/-- a list of hosts has commas of its own -/
def hosts (first second : String) : Dict Json.Plain :=
  .ofList [("hosts", ⟨.list [.text first, .text second], rfl, rfl⟩), ("timeout", ⟨.ofNat 900, rfl, rfl⟩)]

/-- the law at lists of hosts -/
theorem lists_of_hosts_are_told_apart :
    readSettings (plainLaunch.withRendezvous (hosts "n0" "n1")).torchrunArguments =
      [("hosts", "[\"n0\",\"n1\"]"), ("timeout", "900")] ∧
    (plainLaunch.withRendezvous (hosts "n0" "n1")).torchrunArguments ≠
      (plainLaunch.withRendezvous (hosts "n0" "n2")).torchrunArguments := by
  obtain ⟨_, hread, happart⟩ := arguments_tell_clear_settings plainLaunch
  have hclear : ∀ setting ∈ settings (hosts "n0" "n1"), Clear setting := by decide +kernel
  have hclear' : ∀ setting ∈ settings (hosts "n0" "n2"), Clear setting := by decide +kernel
  exact ⟨(hread _ hclear).trans (by decide +kernel), happart _ _ hclear hclear' (by decide +kernel)⟩

/-- one setting whose value goes on like another one -/
def oneStore : Dict Json.Plain := .ofList [("store", textValue "file,timeout=60")]

def storeAndTimeout : Dict Json.Plain := .ofList [("store", textValue "file"), ("timeout", textValue "60")]

/-- settings that differ, with the same arguments -/
theorem comma_passes_for_separator : settings oneStore ≠ settings storeAndTimeout ∧
    (plainLaunch.withRendezvous oneStore).torchrunArguments =
      (plainLaunch.withRendezvous storeAndTimeout).torchrunArguments := by
  decide +kernel

end ElasticLaunch

end TrainingJobs
