/-
What can be read back from a manifest: the name of the job, all that it runs, and its content hash. A manifest leaves
out what is empty or has its default, keys the roles anew and reads words with a sign; none of this makes two jobs look
alike. Of the execution a manifest shows the text of its identity only.

- `statedContent_ofSubmission`: the content that a manifest states is that of its submission;
- `toJson_injective`: the value that the cluster receives is that of one manifest;
- `manifest_gives_job_back`: manifests are equal iff they are of one job, up to the execution it runs for.
-/
import TrainingJobs.Proofs.Job.Build
import TrainingJobs.Proofs.Job.ReadBack

namespace TrainingJobs.Manifest

/-! ## What a manifest states -/

/-- the policy that a manifest states; if it states none it is the default -/
def statedRunPolicy : Option ManifestRunPolicy → RunPolicy
  | none => {}
  | some p => {
    cleanPodPolicy := p.cleanPodPolicy
    ttlSecondsAfterFinished := p.ttlSecondsAfterFinished.map Int32.toUInt32
    activeDeadlineSeconds := p.activeDeadlineSeconds.map Int64.toUInt64
    backoffLimit := p.backoffLimit.map Int32.toUInt32 }

def statedResources (amounts : Option (Dict String)) : Resources :=
  let amount := fun name => amounts.bind fun d => d.find? name
  { cpu := amount "cpu", memory := amount "memory", gpu := amount "nvidia.com/gpu",
    ephemeralStorage := amount "ephemeral-storage" }

def statedRole (r : ReplicaSpec) : Role where
  replicas := r.replicas.toUInt32
  restartPolicy := r.restartPolicy
  resources := ⟨statedResources r.container.requests, statedResources r.container.limits⟩
  image := r.container.image
  command := r.container.command
  env := .ofList r.container.env

/-- all that a manifest says of what the job runs -/
def statedContent (m : Manifest) : Content where
  roles := .ofList (m.replicas.entries.map fun e => (lowerCase e.1, statedRole e.2))
  runPolicy := statedRunPolicy m.runPolicy
  elasticPolicy := m.elasticPolicy
  processesPerNode := m.processesPerNode.bind fun s => Text.count? s.toList
  sharedMemory := m.replicas.values.any ReplicaSpec.sharedMemory

theorem statedRunPolicy_runPolicyOf (p : RunPolicy) : statedRunPolicy (runPolicyOf p) = p := by
  rw [runPolicyOf]
  split_ifs with hp
  · exact hp.symm
  · simp [statedRunPolicy, Option.map_map, Function.comp_def]

theorem bind_quantities (r : Resources) (name : String) :
    ((quantities r).bind fun d => d.find? name) = r.entries.lookup name := by
  have hnames : (r.entries.map (·.1)).Nodup := by
    obtain ⟨_ | _, _ | _, _ | _, _ | _⟩ := r <;> simp [Resources.entries]
  rw [quantities, Resources.isEmpty]
  split_ifs with hempty
  · rw [List.isEmpty_iff.1 hempty]
    rfl
  · exact Dict.find?_ofList hnames name

theorem statedResources_quantities (r : Resources) : statedResources (quantities r) = r := by
  simp only [statedResources, bind_quantities]
  obtain ⟨_ | _, _ | _, _ | _, _ | _⟩ := r <;> rfl

theorem statedRole_replicaOf (sharedMemory : Bool) (r : Role) : statedRole (replicaOf sharedMemory r) = r := by
  simp [statedRole, replicaOf, containerOf, statedResources_quantities, Dict.ofList_entries]

section

variable {d : JobDraft} {s : Submission} (h : d.Built s) (ns : String)
include h

theorem statedRoles_ofSubmission : (ofSubmission s ns).statedContent.roles = s.content.roles := by
  have hperm := (h.replicas_perm ns).map fun e => (lowerCase e.1, statedRole e.2)
  have hback : (s.roles.entries.map fun e =>
      (lowerCase (roleKey e.1), statedRole (replicaOf s.content.sharedMemory e.2))) = s.roles.entries.map id := by
    refine List.map_congr_left fun e he => ?_
    rw [lowerCase_roleKey (h.isLabel he), statedRole_replicaOf]
    rfl
  rw [List.map_map] at hperm
  simp only [Function.comp_def, hback, List.map_id] at hperm
  exact (Dict.ofList_eq_of_perm hperm s.roles.names_nodup).trans (Dict.ofList_entries s.roles)

/-- every replica says whether there is shared memory, and there is a replica to say so -/
theorem sharedMemory_ofSubmission : (ofSubmission s ns).statedContent.sharedMemory = s.content.sharedMemory := by
  have hsame : ∀ r ∈ (ofSubmission s ns).replicas.values, r.sharedMemory = s.content.sharedMemory := by
    intro r hr
    obtain ⟨e, he, rfl⟩ := List.mem_map.1 hr
    obtain ⟨role, _, rfl⟩ := List.mem_map.1 ((h.replicas_perm ns).mem_iff.1 he)
    rfl
  have hsome : (ofSubmission s ns).replicas.values ≠ [] := by
    have hlength := (h.replicas_perm ns).length_eq.trans ((List.length_map _).trans h.entries_perm.length_eq)
    rw [List.length_map] at hlength
    rw [Dict.values, ← List.length_pos_iff, List.length_map, hlength, List.length_pos_iff]
    exact h.declared
  obtain ⟨r, hr⟩ := List.exists_mem_of_ne_nil _ hsome
  cases hshared : s.content.sharedMemory with
  | true => exact List.any_eq_true.2 ⟨r, hr, (hsame r hr).trans hshared⟩
  | false => exact List.any_eq_false.2 fun r hr => by rw [hsame r hr, hshared]; exact Bool.false_ne_true

theorem statedContent_ofSubmission : (ofSubmission s ns).statedContent = s.content := by
  have hroles := statedRoles_ofSubmission h ns
  have hshared := sharedMemory_ofSubmission h ns
  have hrunPolicy : (ofSubmission s ns).statedContent.runPolicy = s.content.runPolicy := statedRunPolicy_runPolicyOf _
  have hprocesses : (ofSubmission s ns).statedContent.processesPerNode = s.content.processesPerNode := by
    cases hp : s.content.processesPerNode <;> simp [statedContent, ofSubmission, hp, Text.decimal, Text.count?_digits]
  have helastic : (ofSubmission s ns).statedContent.elasticPolicy = s.content.elasticPolicy := rfl
  cases hstated : (ofSubmission s ns).statedContent
  cases hcontent : s.content
  rw [hstated, hcontent] at hroles hshared hrunPolicy hprocesses helastic
  simp_all

end

/-! ## What the cluster receives -/

theorem unlessEmpty_injective : Function.Injective unlessEmpty := by
  intro xs ys h
  cases xs <;> cases ys <;> simp_all [unlessEmpty]

theorem runPolicyJson_injective : Function.Injective runPolicyJson := by
  intro p q h
  rw [runPolicyJson, runPolicyJson] at h
  have hfields := Json.ofPresent_inj h rfl (by simp)
  simp only [List.cons.injEq, Prod.mk.injEq, true_and, and_true] at hfields
  obtain ⟨hclean, httl, hdeadline, hlimit⟩ := hfields
  have hclean := Option.map_injective CleanPodPolicy.toJson_injective hclean
  have httl := Option.map_injective (Json.injective_of_readBack Json.asInt32_ofInt32) httl
  have hlimit := Option.map_injective (Json.injective_of_readBack Json.asInt32_ofInt32) hlimit
  have hdeadline := Option.map_injective Json.ofInt64_injective hdeadline
  cases p
  cases q
  simp_all

theorem ofDict_text_injective : Function.Injective (Json.ofDict Json.text) :=
  Json.ofDict_injective fun _ _ h => Json.text.inj h

theorem resourcesJson_inj {c c' : Container} (h : resourcesJson c = resourcesJson c') :
    c.requests = c'.requests ∧ c.limits = c'.limits := by
  rw [resourcesJson, resourcesJson] at h
  split_ifs at h with hc hc'
  · simp only [Bool.and_eq_true, Option.isNone_iff_eq_none] at hc hc'
    exact ⟨hc.1.trans hc'.1.symm, hc.2.trans hc'.2.symm⟩
  · have hfields := Json.ofPresent_inj (Option.some.inj h) rfl (by simp)
    simp only [List.cons.injEq, Prod.mk.injEq, true_and, and_true] at hfields
    exact ⟨Option.map_injective ofDict_text_injective hfields.2, Option.map_injective ofDict_text_injective hfields.1⟩

theorem variableJson_injective : Function.Injective fun e : String × String =>
    Json.record [("name", .text e.1), ("value", .text e.2)] := by
  intro e e' h
  simp only [Json.record.injEq, List.cons.injEq, Prod.mk.injEq, Json.text.injEq, true_and, and_true] at h
  exact Prod.ext h.1 h.2

theorem containerJson_inj {c c' : Container} {shared shared' : Bool}
    (h : containerJson c shared = containerJson c' shared') : c = c' ∧ shared = shared' := by
  rw [containerJson, containerJson] at h
  have hfields := Json.ofPresent_inj h rfl (by simp)
  simp only [List.cons.injEq, Prod.mk.injEq, true_and, and_true, Option.some.injEq, Json.text.injEq] at hfields
  obtain ⟨hcommand, henv, himage, hresources, hmounts⟩ := hfields
  have hcommand := List.map_injective_iff.2 (fun _ _ => Json.text.inj) (unlessEmpty_injective hcommand)
  have henv := List.map_injective_iff.2 variableJson_injective (unlessEmpty_injective henv)
  obtain ⟨hrequests, hlimits⟩ := resourcesJson_inj hresources
  have hmounts := unlessEmpty_injective hmounts
  have hshared : shared = shared' := by cases shared <;> cases shared' <;> simp_all
  cases c
  cases c'
  simp_all

theorem replicaJson_injective : Function.Injective replicaJson := by
  intro r r' h
  simp only [replicaJson, Json.record.injEq, List.cons.injEq, Prod.mk.injEq, true_and, and_true] at h
  obtain ⟨hreplicas, hrestart, hpod⟩ := h
  have hfields := Json.ofPresent_inj hpod rfl (by simp)
  simp only [List.cons.injEq, Prod.mk.injEq, true_and, and_true, Option.some.injEq, Json.list.injEq] at hfields
  obtain ⟨hcontainer, hshared⟩ := containerJson_inj hfields.1
  have hreplicas := Json.injective_of_readBack Json.asInt32_ofInt32 hreplicas
  have hrestart := RestartPolicy.toJson_injective hrestart
  cases r
  cases r'
  simp_all

/-- the value that the cluster receives is that of one manifest -/
theorem toJson_injective : Function.Injective toJson := by
  intro m m' h
  simp only [toJson, Json.record.injEq, List.cons.injEq, Prod.mk.injEq, true_and, and_true, Json.text.injEq] at h
  obtain ⟨⟨hannotations, hname, hns⟩, hspec⟩ := h
  have hfields := Json.ofPresent_inj hspec rfl (by simp)
  simp only [List.cons.injEq, Prod.mk.injEq, true_and, and_true, Option.some.injEq] at hfields
  obtain ⟨hrunPolicy, helastic, hprocesses, hreplicas⟩ := hfields
  have hannotations := ofDict_text_injective hannotations
  have hrunPolicy := Option.map_injective runPolicyJson_injective hrunPolicy
  have helastic := Option.map_injective ElasticPolicy.toJson_injective helastic
  have hprocesses := Option.map_injective (fun _ _ => Json.text.inj) hprocesses
  have hreplicas := Json.ofDict_injective replicaJson_injective hreplicas
  cases m
  cases m'
  simp_all

/-! ## Main result -/

/-- **A manifest gives its job back.** Of every submission that a draft comes to, in every namespace: the manifest has
the name of the job and states its content and its content hash. The values that the cluster receives of two such
submissions in one namespace are equal iff their names, contents and content hashes are and the identities of their
executions have one text. -/
theorem manifest_gives_job_back {d d' : JobDraft} {s s' : Submission} (ns : String) (h : d.build = .ok s)
    (h' : d'.build = .ok s') :
    let m := ofSubmission s ns
    (m.name = s.id ∧ m.statedContent = s.content ∧ m.annotations.find? hashKey = some s.contentHash) ∧
    (m.toJson = (ofSubmission s' ns).toJson ↔ (s.id = s'.id ∧ s.content = s'.content ∧
      s.contentHash = s'.contentHash) ∧ s.execution.text = s'.execution.text) := by
  intro m
  have hbuilt : d.Built s := (d.build_eq_ok_iff s).1 h
  have hbuilt' : d'.Built s' := (d'.build_eq_ok_iff s').1 h'
  refine ⟨⟨rfl, statedContent_ofSubmission hbuilt ns, find?_hash s ns⟩, ?_⟩
  rw [toJson_injective.eq_iff]
  constructor
  · intro hm
    have hcontent : m.statedContent = (ofSubmission s' ns).statedContent := by rw [hm]
    rw [statedContent_ofSubmission hbuilt, statedContent_ofSubmission hbuilt'] at hcontent
    refine ⟨⟨congrArg Manifest.name hm, hcontent, ?_⟩, ?_⟩
    · rw [← Option.some.injEq, ← find?_hash s ns, ← find?_hash s' ns, ← hm]
    · rw [← Option.some.injEq, ← find?_execution s ns, ← find?_execution s' ns, ← hm]
  · rintro ⟨⟨hid, hcontent, hhash⟩, hexecution⟩
    simp only [m, ofSubmission, Submission.roles, hid, hcontent, hhash, hexecution]

/-- a job under that policy -/
def under (policy : RunPolicy) : JobDraft :=
  .run { name := "train" } [.role workerRole { replicas := 2, image := some "trainer:1.0" }, .runPolicy policy]

/-- the law at a policy that is left out and one that says zero -/
theorem no_retries_is_not_unstated : ∃ s s', (under {}).build = .ok s ∧
    (under { backoffLimit := some 0 }).build = .ok s' ∧ s.id = s'.id ∧
    (ofSubmission s "team").toJson ≠ (ofSubmission s' "team").toJson := by
  obtain ⟨s, hs⟩ := eq_ok_of_isSome (show (under {}).build.toOption.isSome = true by decide +kernel)
  obtain ⟨s', hs'⟩ := eq_ok_of_isSome
    (show (under { backoffLimit := some 0 }).build.toOption.isSome = true by decide +kernel)
  have hbuilt := ((under {}).build_eq_ok_iff s).1 hs
  have hbuilt' := ((under { backoffLimit := some 0 }).build_eq_ok_iff s').1 hs'
  have hid : s.id = s'.id := Except.ok.inj (hbuilt.id.symm.trans hbuilt'.id)
  obtain ⟨_, hsame⟩ := manifest_gives_job_back "team" hs hs'
  refine ⟨s, s', hs, hs', hid, fun h => ?_⟩
  have hpolicy : s.content.runPolicy = s'.content.runPolicy := congrArg Content.runPolicy (hsame.1 h).1.2.1
  rw [hbuilt.content, hbuilt'.content] at hpolicy
  have hpolicy : (under {}).runPolicy = (under { backoffLimit := some 0 }).runPolicy := hpolicy
  exact absurd hpolicy (by decide)

end TrainingJobs.Manifest
