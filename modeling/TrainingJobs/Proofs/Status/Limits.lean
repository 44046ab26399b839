/-
Run policies as interpretation sees them. All that a report depends on, apart from the snapshot, is whether the job fails
under the policy; of the policy only the limit on retries bears on that, and a larger limit only ever takes a failure
away. A host that passes on the limit alone is therefore told what a poll is told.

- `interpret_congr`: policies under which a job fails alike give one report;
- `Fails.of_within`: what fails under a limit fails under every smaller one;
- `interpretOperatorStatus_eq`, `run_status_of_accepted`: the status of the operator, as a host and as a poll read it;
- `limit_acts_one_way`: all of it for every snapshot, run policy and status of the operator.
-/
import TrainingJobs.HostCall
import TrainingJobs.Proofs.Cluster.Server
import TrainingJobs.Proofs.Status.Budget
import TrainingJobs.Status.Poll

namespace TrainingJobs

/-! ## One report for policies under which a job fails alike -/

/-- the limit of `p` is no larger than that of `q`; no limit at all is within every other -/
def RunPolicy.Within (p q : RunPolicy) : Prop := ∀ n ∈ p.backoffLimit, ∃ m ∈ q.backoffLimit, n ≤ m

namespace Snapshot

variable {s : Snapshot} {p q : RunPolicy}

theorem RetriesLeft.mono (hpq : p.Within q) (h : s.RetriesLeft p) : s.RetriesLeft q := by
  obtain ⟨n, hn, hlt⟩ := h
  obtain ⟨m, hm, hle⟩ := hpq n hn
  exact ⟨m, hm, hlt.trans_le (UInt32.le_iff_toNat_le.1 hle)⟩

theorem Fails.of_within (hpq : p.Within q) (h : s.Fails q) : s.Fails p :=
  h.imp_right fun ⟨hrole, hspent⟩ => ⟨hrole, mt (RetriesLeft.mono hpq) hspent⟩

theorem fails_congr (h : p.backoffLimit = q.backoffLimit) : s.Fails p ↔ s.Fails q := by
  rw [Fails, Fails, RetriesLeft, RetriesLeft, h]

theorem budgetRemains_eq_false {n : UInt32} (hn : s.failedReplicas = .ok n) (h : ¬ s.RetriesLeft p) :
    p.budgetRemains (max n 1) = false := by
  rw [← Bool.not_eq_true, p.budgetRemains_iff, ← (s.failedReplicas_eq_ok_iff n).1 hn, max_comm]
  exact h

/-- how a failure is worded does not depend on the policy that it goes against -/
theorem failure?_eq_of_fails (hp : s.Fails p) (hq : s.Fails q) : s.failure? p = s.failure? q := by
  unfold failure?
  by_cases hjob : s.conditions.failed = true
  · rw [if_pos hjob, if_pos hjob]
  rw [if_neg hjob, if_neg hjob]
  cases s.roles.entries.find? fun e => e.2.isFailed with
  | none => rfl
  | some e =>
    cases hn : s.failedReplicas with
    | error => rfl
    | ok n =>
      have hspent {p : RunPolicy} (h : s.Fails p) : p.budgetRemains (max n 1) = false :=
        budgetRemains_eq_false hn (h.resolve_left hjob).2
      simp only [bind, Except.bind, hspent hp, hspent hq]

/-- **A report depends on the policy through one bit.** -/
theorem interpret_congr (h : s.Fails p ↔ s.Fails q) : s.interpret p = s.interpret q := by
  by_cases hp : s.Fails p
  · rw [interpret, interpret, failure?_eq_of_fails hp (h.1 hp)]
  · rw [interpret_of_not_fails hp, interpret_of_not_fails (mt h.2 hp)]

/-- a report of failure is one that the policy calls for and that the failures leave room for -/
theorem reports_failure_iff : (∃ r, s.interpret p = .ok r ∧ r.phase = .failed) ↔
    s.Fails p ∧ (s.conditions.failed = true ∨ s.failures < UInt32.size) := by
  rw [← s.interpret_isOk_iff p]
  constructor
  · rintro ⟨r, hr, hphase⟩
    rw [phase_of_interpret hr, firstPhase_eq, decide_eq_true_iff] at hphase
    exact ⟨hphase, r, hr⟩
  · rintro ⟨hfails, r, hr⟩
    refine ⟨r, hr, ?_⟩
    rw [phase_of_interpret hr, firstPhase_eq, decide_eq_true_iff]
    exact hfails

theorem interpret_of_patience (hpq : p.Within q) (h : ¬ ∃ r, s.interpret p = .ok r ∧ r.phase = .failed) :
    s.interpret q = s.interpret p := by
  refine interpret_congr ⟨Fails.of_within hpq, fun hp => ?_⟩
  -- the failures go against `p` too, and only their number keeps them from being reported
  have hover : ¬ s.failures < UInt32.size := fun hfits => h (reports_failure_iff.2 ⟨hp, .inr hfits⟩)
  by_contra hq
  exact hover (fits_of_not_fails hq)

theorem interpret_of_impatience (hpq : p.Within q) (h : ∃ r, s.interpret q = .ok r ∧ r.phase = .failed) :
    s.interpret p = s.interpret q := by
  have hq : s.Fails q := (reports_failure_iff.1 h).1
  exact interpret_congr ⟨fun _ => hq, Fails.of_within hpq⟩

end Snapshot

/-! ## The limit as a host passes it on -/

namespace HostCall

/-- the named values of a call about the status of a job: its text, if there is one, and a limit on retries -/
def statusValues (status : Option String) (limit : Option UInt32) : NamedValues :=
  [("status_json", .ofOption .text status), ("backoff_limit", .ofOption .ofCount limit)]

variable (status : Option String) (limit : Option UInt32)

theorem valueOf_statusValues (name : String) :
    valueOf (statusValues status limit) name = (statusValues status limit).lookup name := by
  have hnames : ((statusValues status limit).map Prod.fst).Nodup := by simp [statusValues]
  exact Json.field?_record hnames name

theorem optionalText_statusValues : optionalText (statusValues status limit) "status_json" = .ok status := by
  rw [optionalText, valueOf_statusValues]
  cases status <;> rfl

theorem optionalCount_statusValues : optionalCount (statusValues status limit) "backoff_limit" = .ok limit := by
  rw [optionalCount, valueOf_statusValues]
  cases limit with
  | none => rfl
  | some n => exact congrArg (Except.map some) (asCount_ofCount n)

variable {status}

theorem interpretOperatorStatus_eq (job : String) {read : Option OperatorStatus}
    (h : status.mapM (parsed OperatorStatus.ofJson "PyTorchJob status") = .ok read) :
    interpretOperatorStatus (.text job) (statusValues status limit) = interpreted (.ofOperator job read) limit := by
  have hnames : checkNames ["status_json", "backoff_limit"] (statusValues status limit) = .ok () := rfl
  unfold interpretOperatorStatus
  simp only [hnames, text, optionalText_statusValues, optionalCount_statusValues, h, bind, Except.bind]

end HostCall

theorem Call.run_status_of_accepted {σ : Type} {ns job : String} {serve : σ → Request → Reply × σ} {a : σ}
    {held : ServedJob} (hmade : (Request.read job).fault? ns = none)
    (haccepted : (serve a (.read job)).1 = .accepted held) :
    ((status ns job).run serve a).1 = .ok (some (.ofOperator job held.status)) := by
  rw [status, send_made hmade, run, haccepted]
  rfl

/-! ## The law -/

/-- **Of a run policy only the limit counts, and it counts one way.** Policies of one limit give one report, or none if
the failures have no total. What is not reported as a failure under a limit is reported word for word the same under
every larger one, and a failure under any policy is reported word for word the same without a limit. So a host that
hands over the text of the operator's status and the limit alone is told what a poll is told that reads this status from
the server under the whole policy. -/
theorem limit_acts_one_way :
    (∀ (s : Snapshot) (p q : RunPolicy), p.backoffLimit = q.backoffLimit → s.interpret p = s.interpret q) ∧
    (∀ (s : Snapshot) (p q : RunPolicy) (n m : UInt32), p.backoffLimit = some n → q.backoffLimit = some m → n ≤ m →
      (¬ ∃ r, s.interpret p = .ok r ∧ r.phase = .failed) → s.interpret q = s.interpret p) ∧
    (∀ (s : Snapshot) (p q : RunPolicy) (r : PhaseReport), p.backoffLimit = none → s.interpret q = .ok r →
      r.phase = .failed → s.interpret p = .ok r) ∧
    ∀ (σ : Type) (serve : σ → Request → Reply × σ) (a : σ) (ns job : String) (policy : RunPolicy) (held : ServedJob)
      (status : Option String), (Request.read job).fault? ns = none → (serve a (.read job)).1 = .accepted held →
      status.mapM (HostCall.parsed OperatorStatus.ofJson "PyTorchJob status") = .ok held.status →
      HostCall.interpretOperatorStatus (.text job) (HostCall.statusValues status policy.backoffLimit) =
        (pollReport job policy ((Call.status ns job).run serve a).1).mapError fun _ => .overflow := by
  refine ⟨fun s p q h => Snapshot.interpret_congr (Snapshot.fails_congr h), ?_, ?_, ?_⟩
  · intro s p q n m hp hq hle h
    have hpq : p.Within q := by
      intro n' hn'
      rw [hp] at hn'
      obtain rfl := Option.some.inj hn'
      exact ⟨m, hq, hle⟩
    exact Snapshot.interpret_of_patience hpq h
  · intro s p q r hp hr hphase
    have hpq : p.Within q := by
      intro n hn
      rw [hp] at hn
      cases hn
    rw [Snapshot.interpret_of_impatience hpq ⟨r, hr, hphase⟩, hr]
  · intro σ serve a ns job policy held status hmade haccepted hstatus
    have hlimit : ({ backoffLimit := policy.backoffLimit } : RunPolicy).backoffLimit = policy.backoffLimit := rfl
    rw [HostCall.interpretOperatorStatus_eq _ job hstatus, Call.run_status_of_accepted hmade haccepted,
      HostCall.interpreted, Snapshot.interpret_congr (Snapshot.fails_congr hlimit)]
    rfl

/-- a status on which the limit decides, as a host words it and as a server holds it -/
theorem host_told_as_poll :
    let status := "\x7b\"replicaStatuses\": \x7b\"Worker\": \x7b\"active\": 1, \"failed\": 1\x7d\x7d\x7d"
    let policy : RunPolicy := { ttlSecondsAfterFinished := some 60, backoffLimit := some 2 }
    let held : ServedJob := { status := some { replicas := .ofList [("Worker", { active := some 1, failed := some 1 })] } }
    let poll := pollReport "train" policy ((Call.status "team" "train").run (fun a _ => (.accepted held, a)) ()).1
    ((Request.read "train").fault? "team" = none ∧
      (some status).mapM (HostCall.parsed OperatorStatus.ofJson "PyTorchJob status") = .ok held.status) ∧
    poll = .ok ⟨.running, some "role 'worker' running"⟩ ∧
    HostCall.interpretOperatorStatus (.text "train") (HostCall.statusValues (some status) (some 2)) =
      .ok ⟨.running, some "role 'worker' running"⟩ := by
  intro status policy held poll
  have hmade : (Request.read "train").fault? "team" = none := by decide +kernel
  have hstatus : (some status).mapM (HostCall.parsed OperatorStatus.ofJson "PyTorchJob status") = .ok held.status := by
    decide +kernel
  have hpoll : poll = .ok ⟨.running, some "role 'worker' running"⟩ := by decide +kernel
  have hlaw := limit_acts_one_way.2.2.2 Unit (fun a _ => (.accepted held, a)) () "team" "train" policy held (some status)
    hmade rfl hstatus
  refine ⟨⟨hmade, hstatus⟩, hpoll, hlaw.trans ?_⟩
  exact congrArg (Except.mapError fun _ => HostFault.overflow) hpoll

end TrainingJobs
