/-
The counts of a draft and the numbers that the operator reads for them. A count passes into the manifest as a word of 32
or 64 bits without a sign, and the word is read there with one: the upper half of its range arrives negative.

- `rendered`: each declared count stands at its place in the manifest, read with a sign.
- `counts_arrive_iff_small`: it arrives as it was declared iff it lies in the lower half of its word, and is negative
  otherwise; the order of the bounds of a launch and the total of the replicas are kept on corresponding conditions.
- `largest_counts_arrive_as_minus_one`: the largest number of replicas that a role may declare arrives as -1.
-/
import Mathlib.Tactic
import TrainingJobs.Proofs.Count
import TrainingJobs.Proofs.Job.Build

namespace TrainingJobs.Counts

/-! ## Places of counts -/

/-- a count that the operator reads -/
inductive Place where
  | replicas (role : String)
  | minReplicas
  | maxReplicas
  | processesPerNode
  | maxRestarts
  | ttlSecondsAfterFinished
  | activeDeadlineSeconds
  | backoffLimit
deriving DecidableEq, Repr

namespace Place

/-- the count as a draft declares it -/
def declared? (d : JobDraft) : Place → Option ℕ
  | replicas role => (d.roles.lookup role).map fun spec => spec.replicas.toNat
  | minReplicas => d.launch.map fun launch => launch.minNodes.toNat
  | maxReplicas => d.launch.map fun launch => launch.maxNodes.toNat
  | processesPerNode => d.launch.map fun launch => launch.processesPerNode.toNat
  | maxRestarts => d.launch.map fun launch => launch.maxRestarts.toNat
  | ttlSecondsAfterFinished => d.runPolicy.ttlSecondsAfterFinished.map UInt32.toNat
  | activeDeadlineSeconds => d.runPolicy.activeDeadlineSeconds.map UInt64.toNat
  | backoffLimit => d.runPolicy.backoffLimit.map UInt32.toNat

/-- a job has one such count at most -/
def isSingle : Place → Bool
  | replicas _ => false
  | _ => true

/-- the bits of the word that carries the count -/
def width : Place → ℕ
  | activeDeadlineSeconds => 64
  | _ => 32

/-- where the count stands in a manifest -/
def path : Place → List String
  | replicas role => ["spec", "pytorchReplicaSpecs", roleKey role, "replicas"]
  | minReplicas => ["spec", "elasticPolicy", "minReplicas"]
  | maxReplicas => ["spec", "elasticPolicy", "maxReplicas"]
  | processesPerNode => ["spec", "elasticPolicy", "nProcPerNode"]
  | maxRestarts => ["spec", "elasticPolicy", "maxRestarts"]
  | ttlSecondsAfterFinished => ["spec", "runPolicy", "ttlSecondsAfterFinished"]
  | activeDeadlineSeconds => ["spec", "runPolicy", "activeDeadlineSeconds"]
  | backoffLimit => ["spec", "runPolicy", "backoffLimit"]

end Place

/-- the integer at a path of a value -/
def integerAt? (v : Json) : List String → Option ℤ
  | [] => match v with
    | .number (.int n) => some n
    | _ => none
  | name :: path => (v.field? name).bind fun v => integerAt? v path

/-! ## Words read with a sign -/

theorem toInt_toInt32 (n : UInt32) : n.toInt32.toInt = (n.toNat : ℤ).bmod (2 ^ 32) :=
  BitVec.toInt_eq_toNat_bmod n.toBitVec

theorem toInt_toInt64 (n : UInt64) : n.toInt64.toInt = (n.toNat : ℤ).bmod (2 ^ 64) :=
  BitVec.toInt_eq_toNat_bmod n.toBitVec

/-- a word read with a sign is less by its whole range from half the range on -/
theorem bmod_word {width n : ℕ} (hwidth : 0 < width) (hn : n < 2 ^ width) :
    (n : ℤ).bmod (2 ^ width) = if n < 2 ^ (width - 1) then (n : ℤ) else n - 2 ^ width := by
  obtain ⟨k, rfl⟩ := Nat.exists_eq_add_of_lt hwidth
  have hpow : (2 : ℤ) ^ (0 + k + 1) = ((2 ^ k * 2 : ℕ) : ℤ) := by push_cast; ring
  rw [Int.bmod_def, hpow]
  simp only [Nat.zero_add, Nat.add_sub_cancel, pow_succ] at hn ⊢
  generalize 2 ^ k = half at hn ⊢
  rw [Int.emod_eq_of_lt (by omega) (by omega)]
  split_ifs <;> omega

/-! ## What the manifest holds -/

theorem integerAt?_cons (v : Json) (name : String) (path : List String) :
    integerAt? v (name :: path) = (v.field? name).bind fun v => integerAt? v path := rfl

@[simp] theorem integerAt?_ofInt32 (n : Int32) : integerAt? (.ofInt32 n) [] = some n.toInt := rfl

@[simp] theorem integerAt?_ofInt64 (n : Int64) : integerAt? (.ofInt64 n) [] = some n.toInt := rfl

section Manifest

variable (m : Manifest)

theorem field?_spec : m.toJson.field? "spec" = some (.ofPresent [("runPolicy", m.runPolicy.map Manifest.runPolicyJson),
    ("elasticPolicy", m.elasticPolicy.map ElasticPolicy.toJson), ("nprocPerNode", m.processesPerNode.map .text),
    ("pytorchReplicaSpecs", some (.ofDict Manifest.replicaJson m.replicas))]) := by
  rw [Manifest.toJson, Json.field?_record (by simp)]
  simp [Dict.lookup_cons_eq_ite]

theorem integerAt?_replicas (key : String) : integerAt? m.toJson ["spec", "pytorchReplicaSpecs", key, "replicas"] =
    (m.replicas.find? key).map fun r => r.replicas.toInt := by
  have hreplica : ∀ r, (Manifest.replicaJson r).field? "replicas" = some (.ofInt32 r.replicas) := by
    intro r
    rw [Manifest.replicaJson, Json.field?_record (by simp)]
    rfl
  cases h : m.replicas.find? key <;>
    simp [integerAt?_cons, field?_spec, Json.field?_ofPresent, Json.field?_ofDict, Dict.lookup_cons_eq_ite, h, hreplica]

theorem integerAt?_elasticPolicy (name : String) : integerAt? m.toJson ["spec", "elasticPolicy", name] =
    m.elasticPolicy.bind fun p => integerAt? p.toJson [name] := by
  cases h : m.elasticPolicy <;> simp [integerAt?_cons, field?_spec, Json.field?_ofPresent, Dict.lookup_cons_eq_ite, h]

theorem integerAt?_runPolicy (name : String) : integerAt? m.toJson ["spec", "runPolicy", name] =
    m.runPolicy.bind fun p => integerAt? (Manifest.runPolicyJson p) [name] := by
  cases h : m.runPolicy <;> simp [integerAt?_cons, field?_spec, Json.field?_ofPresent, h]

end Manifest

/-! ## What becomes of the counts of a draft -/

/-- a run policy in the words of a manifest -/
def words (p : RunPolicy) : ManifestRunPolicy where
  cleanPodPolicy := p.cleanPodPolicy
  ttlSecondsAfterFinished := p.ttlSecondsAfterFinished.map UInt32.toInt32
  activeDeadlineSeconds := p.activeDeadlineSeconds.map UInt64.toInt64
  backoffLimit := p.backoffLimit.map UInt32.toInt32

section Draft

variable {d : JobDraft} {s : Submission} (h : d.Built s) (ns : String)

include h

theorem integerAt?_elastic (name : String) :
    integerAt? (Manifest.ofSubmission s ns).toJson ["spec", "elasticPolicy", name] =
      d.launch.bind fun launch => integerAt? (JobDraft.elasticPolicy launch).toJson [name] := by
  have hpolicy : (Manifest.ofSubmission s ns).elasticPolicy = d.launch.map JobDraft.elasticPolicy := by
    rw [Manifest.ofSubmission, h.content]
    rfl
  rw [integerAt?_elasticPolicy, hpolicy, Option.bind_map]
  rfl

/-- a run policy that says nothing is left out, and nothing is lost with it -/
theorem integerAt?_words (name : String) : integerAt? (Manifest.ofSubmission s ns).toJson ["spec", "runPolicy", name] =
    integerAt? (Manifest.runPolicyJson (words d.runPolicy)) [name] := by
  have hpolicy : (Manifest.ofSubmission s ns).runPolicy = Manifest.runPolicyOf d.runPolicy := by
    rw [Manifest.ofSubmission, h.content]
    rfl
  rw [integerAt?_runPolicy, hpolicy, Manifest.runPolicyOf]
  split_ifs with hnothing
  · rw [hnothing]
    rfl
  · rfl

/-- the counts of which a job has one at most -/
theorem rendered_single {p : Place} (hp : p.isSingle = true) : integerAt? (Manifest.ofSubmission s ns).toJson p.path =
    (p.declared? d).map fun n : ℕ => (n : ℤ).bmod (2 ^ p.width) := by
  cases p with
  | replicas role => cases hp
  | ttlSecondsAfterFinished | activeDeadlineSeconds | backoffLimit =>
    rw [Place.path, integerAt?_words h, integerAt?_cons, Manifest.runPolicyJson, Json.field?_ofPresent (by simp)]
    simp [Dict.lookup_cons_eq_ite, words, Place.declared?, Place.width, toInt_toInt32, toInt_toInt64, Option.map_eq_bind,
      Option.bind_assoc]
  | _ =>
    rw [Place.path, integerAt?_elastic h]
    cases hlaunch : d.launch with
    | none => simp [Place.declared?, hlaunch]
    | some launch =>
      rw [Option.bind_some, integerAt?_cons, ElasticPolicy.toJson, Json.field?_record (by simp)]
      simp [Dict.lookup_cons_eq_ite, JobDraft.elasticPolicy, Place.declared?, Place.width, toInt_toInt32, hlaunch]

/-- each declared role has its number of replicas under its own key -/
theorem rendered_replicas {role : String} {spec : RoleSpec} (hrole : (role, spec) ∈ d.roles) :
    integerAt? (Manifest.ofSubmission s ns).toJson (Place.replicas role).path =
      some ((spec.replicas.toNat : ℤ).bmod (2 ^ 32)) := by
  have hentry : (role, d.resolved spec) ∈ s.roles.entries :=
    h.entries_perm.mem_iff.2 (List.mem_map.2 ⟨(role, spec), hrole, rfl⟩)
  rw [Place.path, integerAt?_replicas, h.find?_replicas ns hentry, Option.map_some, ← toInt_toInt32]
  rfl

theorem rendered {p : Place} {n : ℕ} (hp : p.declared? d = some n) :
    integerAt? (Manifest.ofSubmission s ns).toJson p.path = some ((n : ℤ).bmod (2 ^ p.width)) := by
  cases p with
  | replicas role =>
    obtain ⟨spec, hspec, rfl⟩ := Option.map_eq_some_iff.1 hp
    obtain ⟨before, after, hroles, _⟩ := List.lookup_eq_some_iff.1 hspec
    exact rendered_replicas h ns (by rw [hroles]; simp)
  | _ => rw [rendered_single h ns rfl, hp, Option.map_some]

theorem totalReplicas_eq_ok_iff (n : UInt32) :
    s.totalReplicas = .ok n ↔ (d.roles.map fun e => e.2.replicas.toNat).sum = n.toNat := by
  have hperm : (s.roles.values.map fun role => role.replicas.toNat).Perm
      (d.roles.map fun e => e.2.replicas.toNat) := by
    have hmap := h.entries_perm.map fun e => e.2.replicas.toNat
    rw [List.map_map] at hmap
    rw [Dict.values, List.map_map]
    exact hmap
  rw [Submission.totalReplicas, total_eq_ok_iff, exactTotal_eq_sum, List.map_map, ← hperm.sum_eq]
  rfl

end Draft

theorem Place.declared?_lt {d : JobDraft} {p : Place} {n : ℕ} (hp : p.declared? d = some n) : n < 2 ^ p.width := by
  cases p with
  | activeDeadlineSeconds =>
    obtain ⟨word, _, rfl⟩ := Option.map_eq_some_iff.1 hp
    exact word.toNat_lt
  | _ =>
    obtain ⟨_, _, rfl⟩ := Option.map_eq_some_iff.1 hp
    exact UInt32.toNat_lt _

/-! ## Main results -/

/-- **A count arrives as it was declared iff it lies in the lower half of its word.** Of every submission that a draft
comes to, in every namespace: each declared count stands at its place in the manifest; it is read there as declared iff
it is below half the range of its word, and as a negative number otherwise; what is not declared is absent. Bounds of a
launch that do not fall are read in the same order unless they lie on both sides of half the range. The total of the
replicas is their exact sum, and there is none where the sum does not fit 32 bits. -/
theorem counts_arrive_iff_small {d : JobDraft} {s : Submission} (ns : String) (h : d.build = .ok s) :
    let arrived := fun p : Place => integerAt? (Manifest.ofSubmission s ns).toJson p.path
    (∀ (p : Place) (n : ℕ), p.declared? d = some n → ∃ m, arrived p = some m ∧
      (m = n ↔ n < 2 ^ (p.width - 1)) ∧ (m < 0 ↔ 2 ^ (p.width - 1) ≤ n)) ∧
    (∀ p : Place, p.isSingle = true → p.declared? d = none → arrived p = none) ∧
    (∀ launch, d.launch = some launch → launch.minNodes ≤ launch.maxNodes →
      ∃ low high, arrived .minReplicas = some low ∧ arrived .maxReplicas = some high ∧
        (low ≤ high ↔ launch.maxNodes.toNat < 2 ^ 31 ∨ 2 ^ 31 ≤ launch.minNodes.toNat)) ∧
    ∀ n, s.totalReplicas = .ok n ↔ (d.roles.map fun e => e.2.replicas.toNat).sum = n.toNat := by
  intro arrived
  have hbuilt : d.Built s := (d.build_eq_ok_iff s).1 h
  refine ⟨?_, ?_, ?_, totalReplicas_eq_ok_iff hbuilt⟩
  · intro p n hp
    have hwidth : 0 < p.width := by cases p <;> exact Nat.succ_pos _
    have hn : n < 2 ^ p.width := Place.declared?_lt hp
    refine ⟨_, rendered hbuilt ns hp, ?_⟩
    rw [bmod_word hwidth hn]
    have hcast : (n : ℤ) < 2 ^ p.width := by exact_mod_cast hn
    split_ifs <;> omega
  · intro p hsingle hp
    simp only [arrived, rendered_single hbuilt ns hsingle, hp, Option.map_none]
  · intro launch hlaunch hle
    have hlow : Place.minReplicas.declared? d = some launch.minNodes.toNat := by rw [Place.declared?, hlaunch]; rfl
    have hhigh : Place.maxReplicas.declared? d = some launch.maxNodes.toNat := by rw [Place.declared?, hlaunch]; rfl
    refine ⟨_, _, rendered hbuilt ns hlow, rendered hbuilt ns hhigh, ?_⟩
    have hle : launch.minNodes.toNat ≤ launch.maxNodes.toNat := UInt32.le_iff_toNat_le.1 hle
    have hmax : launch.maxNodes.toNat < 2 ^ 32 := launch.maxNodes.toNat_lt
    have hmin : launch.minNodes.toNat < 2 ^ 32 := launch.minNodes.toNat_lt
    simp only [Place.width]
    rw [bmod_word (by decide) hmin, bmod_word (by decide) hmax]
    split_ifs <;> omega

/-- a job that asks for as many workers as 32 bits can count -/
def crowd : JobDraft :=
  .run { name := "train" } [.defaultImage "trainer:1.0", .role workerRole { replicas := 4294967295 },
    .elastic { (default : ElasticLaunch) with minNodes := 1, maxNodes := 4294967295, processesPerNode := 1 },
    .runPolicy { backoffLimit := some 3 }]

/-- the law at a job with a count that does not arrive as declared -/
theorem crowd_arrives_negative : ∃ s, crowd.build = .ok s ∧
    ∃ m, integerAt? (Manifest.ofSubmission s "team").toJson (Place.replicas workerRole).path = some m ∧ m < 0 := by
  have hbuilt : crowd.build.toOption.isSome = true := by decide +kernel
  cases h : crowd.build with
  | error cause =>
    rw [h] at hbuilt
    cases hbuilt
  | ok s =>
    obtain ⟨m, hm, _, hnegative⟩ := (counts_arrive_iff_small "team" h).1 (.replicas workerRole) 4294967295 (by decide)
    exact ⟨s, rfl, m, hm, hnegative.2 (by decide)⟩

/-- what arrives of a count of a draft, if the draft is built -/
def arrival (d : JobDraft) (p : Place) : Option ℤ :=
  d.build.toOption.bind fun s => integerAt? (Manifest.ofSubmission s "team").toJson p.path

/-- **A draft may be built whose manifest asks for -1 replicas**, and for -1 nodes at most where it asks for 1 at
least. -/
theorem largest_counts_arrive_as_minus_one :
    (Place.replicas workerRole).declared? crowd = some 4294967295 ∧ arrival crowd (.replicas workerRole) = some (-1) ∧
      Place.minReplicas.declared? crowd = some 1 ∧ arrival crowd .minReplicas = some 1 ∧
      Place.maxReplicas.declared? crowd = some 4294967295 ∧ arrival crowd .maxReplicas = some (-1) := by
  decide +kernel

end TrainingJobs.Counts
