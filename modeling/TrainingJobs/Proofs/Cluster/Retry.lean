/-
Submitting one plan again and again. Any number of attempts may be under way at once, and each may be given up at any
point, when its request may still arrive. Meanwhile the operator reports on the job, and other clients use the server
for jobs of other names.

- `turn_sound`, `step_inv`: what an attempt has come to, and that no step spoils it.
- `run_start_returns`: an attempt that is not given up comes to its end.
- `run_unsent`: where the creation of the job cannot be made, every attempt is over at once and nothing of it is seen.
- `resubmission_is_safe`: where requests reach the job no attempt is refused, each that is not given up submits the job,
  and from then on the job of the plan stands under its name, once.
- `resubmission_refused_in_spaced_namespace`: where no request can be made every attempt is refused.
-/
import Mathlib.Tactic
import TrainingJobs.Cluster.Submit
import TrainingJobs.Proofs.Cluster.InFlight
import TrainingJobs.Proofs.Fallible

namespace TrainingJobs.Retry

/-! ## Model -/

/-- an attempt to submit a plan -/
abbrev Attempt := Flight (Except Error SubmitOutcome)

structure St where
  server : ApiServer
  /-- in the order in which they began -/
  attempts : List Attempt := []

inductive Op where
  /-- one more attempt -/
  | start
  | turn (k : ℕ) (t : Turn)
  /-- the operator puts in a status of the job, if it is there -/
  | report (status : OperatorStatus)
  /-- a request of another client -/
  | other (r : Request)
deriving DecidableEq, Repr

/-- the turn that the operation is of that attempt -/
def Op.turnOf? (k : ℕ) : Op → Option Turn
  | turn j t => if j = k then some t else none
  | _ => none

def step (net : Transport) (ns : String) (front : Frontend) (s : Submission) (x : St) : Op → St
  | .start => { x with attempts := x.attempts ++ [.ofCall (.submit ns (.distributed s) net)] }
  | .turn k t =>
    match x.attempts[k]? with
    | none => x
    | some p => ⟨(p.turn ns front t x.server).2, x.attempts.set k (p.turn ns front t x.server).1⟩
  | .report status => { x with server := x.server.report s.id status }
  | .other r => { x with server := (ApiServer.serve ns front x.server r).2 }

def run (net : Transport) (ns : String) (front : Frontend) (s : Submission) (x : St) (ops : List Op) : St :=
  ops.foldl (step net ns front s) x

/-- what the host hears of an attempt: one that was given up has timed out -/
def outcome? (s : Submission) (timeout : UInt64) : Attempt → Option (Except Error SubmitOutcome)
  | .returned result => some result
  | .cut _ => some (.error (.timeout ("apply " ++ s.id) timeout))
  | _ => none

theorem run_cons (net : Transport) (ns : String) (front : Frontend) (s : Submission) (x : St) (o : Op) (ops : List Op) :
    run net ns front s x (o :: ops) = run net ns front s (step net ns front s x o) ops := rfl

theorem run_append (net : Transport) (ns : String) (front : Frontend) (s : Submission) (x : St) (a b : List Op) :
    run net ns front s x (a ++ b) = run net ns front s (run net ns front s x a) b := by
  simp [run, List.foldl_append]

/-! ## The job of the plan -/

/-- the job of the plan stands under its name, whatever its status -/
def InPlace (ns : String) (s : Submission) (a : ApiServer) : Prop :=
  ∃ status, a.jobs.find? s.id = some ⟨.ofSubmission s ns, status⟩

/-- no other job stands under the name -/
def Spared (ns : String) (s : Submission) (a : ApiServer) : Prop :=
  a.jobs.find? s.id = none ∨ InPlace ns s a

/-- a change of the server that puts no other job under the name and leaves the job of the plan there -/
structure Keeps (ns : String) (s : Submission) (a b : ApiServer) : Prop where
  spared : Spared ns s a → Spared ns s b
  inPlace : InPlace ns s a → InPlace ns s b

variable {net : Transport} {ns : String} {front : Frontend} {s : Submission}

theorem Keeps.refl (a : ApiServer) : Keeps ns s a a := ⟨id, id⟩

theorem keeps_of_find?_eq {a b : ApiServer}
    (h : b.jobs.find? s.id = a.jobs.find? s.id) : Keeps ns s a b := by
  have hplace : InPlace ns s a → InPlace ns s b := by
    rintro ⟨status, hfind⟩
    exact ⟨status, h.trans hfind⟩
  exact ⟨fun hspared => hspared.imp h.trans hplace, hplace⟩

/-- a request about another place leaves the name as it is -/
theorem serve_elsewhere {r : Request} (a : ApiServer) (h : front.subject ns r ≠ s.id) :
    (ApiServer.serve ns front a r).2.jobs.find? s.id = a.jobs.find? s.id := by
  cases r with
  | create m =>
    simp only [ApiServer.serve]
    split
    · exact (Dict.find?_insert _ _ _ _).trans (if_neg h)
    · rfl
  | read job =>
    simp only [ApiServer.serve]
    split <;> rfl
  | delete job =>
    simp only [ApiServer.serve]
    split
    · rfl
    · exact (Dict.find?_erase _ _ _).trans (if_neg h)

theorem report_keeps (a : ApiServer) (status : OperatorStatus) :
    Keeps ns s a (a.report s.id status) := by
  unfold ApiServer.report
  split
  · exact Keeps.refl a
  · rename_i held hheld
    have hplace : InPlace ns s a →
        InPlace ns s { jobs := a.jobs.insert s.id { held with status := some status } } := by
      rintro ⟨old, hfind⟩
      rw [hheld] at hfind
      cases hfind
      exact ⟨some status, by rw [Dict.find?_insert, if_pos rfl]⟩
    refine ⟨?_, hplace⟩
    rintro (hfree | h)
    · rw [hheld] at hfree
      cases hfree
    · exact .inr (hplace h)

/-- the creation of the job puts it in place, and is refused as a conflict if it is there already -/
theorem serve_creation (hreach : Reaches net front ns s.id) {a : ApiServer} (hspared : Spared ns s a) :
    InPlace ns s (ApiServer.serve ns front a (.create (.ofSubmission s ns))).2 ∧
      ((∃ job, (ApiServer.serve ns front a (.create (.ofSubmission s ns))).1 = .accepted job) ∨
        ∃ reason message, (ApiServer.serve ns front a (.create (.ofSubmission s ns))).1 =
          .refused Reply.conflictCode reason message) := by
  simp only [ApiServer.serve, hreach.meant (.create (.ofSubmission s ns)) rfl]
  rcases hspared with hfree | ⟨status, hfind⟩
  · rw [hfree]
    exact ⟨⟨none, by rw [Dict.find?_insert, if_pos rfl]⟩, .inl ⟨_, rfl⟩⟩
  · rw [hfind]
    exact ⟨⟨status, hfind⟩, .inr ⟨_, _, rfl⟩⟩

theorem serve_reading (hreach : Reaches net front ns s.id) {a : ApiServer} (h : InPlace ns s a) :
    ∃ job, (ApiServer.serve ns front a (.read s.id)).1 = .accepted job ∧
      job.annotations.find? Manifest.hashKey = some s.contentHash := by
  obtain ⟨status, hfind⟩ := h
  simp only [ApiServer.serve, hreach.meant (.read s.id) rfl, hfind]
  exact ⟨_, rfl, Manifest.find?_hash s ns⟩

/-- a reading changes nothing -/
theorem serve_read_server (a : ApiServer) (job : String) : (ApiServer.serve ns front a (.read job)).2 = a := by
  simp only [ApiServer.serve]
  split <;> rfl

/-! ## Attempts -/

/-- what an attempt does once the creation has met a conflict -/
def comparing (net : Transport) (ns : String) (s : Submission) : Call (Except Error SubmitOutcome) :=
  (Call.compare ns s net).map (SubmitOutcome.ofApply s)

/-- how far an attempt can come; from its first reply on the job is in place -/
inductive Sound (net : Transport) (ns : String) (s : Submission) (a : ApiServer) : Attempt → Prop where
  | creating {next : Reply → Call (Except Error SubmitOutcome)}
      (accepted : ∀ job, next (.accepted job) = .done (.ok (.submitted s.id .created)))
      (conflict : ∀ reason message, next (.refused Reply.conflictCode reason message) = comparing net ns s) :
      Sound net ns s a (.asking (.create (.ofSubmission s ns)) next)
  | conflicted (place : InPlace ns s a) : Sound net ns s a (.hearing (comparing net ns s))
  | reading {next : Reply → Call (Except Error SubmitOutcome)} (place : InPlace ns s a)
      (same : ∀ job, job.annotations.find? Manifest.hashKey = some s.contentHash →
        next (.accepted job) = .done (.ok (.submitted s.id .alreadyExists))) :
      Sound net ns s a (.asking (.read s.id) next)
  | answered (place : InPlace ns s a) (outcome : ApplyOutcome) :
      Sound net ns s a (.hearing (.done (.ok (.submitted s.id outcome))))
  | returned (place : InPlace ns s a) (outcome : ApplyOutcome) :
      Sound net ns s a (.returned (.ok (.submitted s.id outcome)))
  | lostCreation : Sound net ns s a (.cut (some (.create (.ofSubmission s ns))))
  | lostReading : Sound net ns s a (.cut (some (.read s.id)))
  | ended : Sound net ns s a (.cut none)

theorem Sound.mono {a b : ApiServer} {p : Attempt} (h : Sound net ns s a p) (hkeeps : Keeps ns s a b) :
    Sound net ns s b p := by
  cases h with
  | creating accepted conflict => exact .creating accepted conflict
  | conflicted place => exact .conflicted (hkeeps.inPlace place)
  | reading place same => exact .reading (hkeeps.inPlace place) same
  | answered place outcome => exact .answered (hkeeps.inPlace place) outcome
  | returned place outcome => exact .returned (hkeeps.inPlace place) outcome
  | lostCreation => exact .lostCreation
  | lostReading => exact .lostReading
  | ended => exact .ended

theorem start_sound (hreach : Reaches net front ns s.id) (a : ApiServer) :
    Sound net ns s a (.ofCall (.submit ns (.distributed s) net)) := by
  rw [Call.submit, Call.apply, Call.send_made (hreach.made _ rfl)]
  exact .creating (fun job => rfl) (fun reason message => rfl)

theorem comparing_sound (hreach : Reaches net front ns s.id) {a : ApiServer} (h : InPlace ns s a) :
    Sound net ns s a (.ofCall (comparing net ns s)) := by
  rw [comparing, Call.compare, Call.send_made (hreach.made _ rfl)]
  refine .reading h ?_
  intro job hhash
  have hsame : reconcile s (job.annotations.find? Manifest.hashKey) = .ok .alreadyExists :=
    (reconcile_eq_ok_iff _ _ _).2 ⟨hhash, rfl⟩
  simp only [Call.map, hsame, SubmitOutcome.ofApply, Except.map]

/-- **One turn of an attempt.** It leaves the attempt sound, puts no other job under the name, and leaves the job of the
plan there. -/
theorem turn_sound (hreach : Reaches net front ns s.id) {a : ApiServer} (hspared : Spared ns s a) {p : Attempt}
    (h : Sound net ns s a p) (t : Turn) :
    Sound net ns s (p.turn ns front t a).2 (p.turn ns front t a).1 ∧ Keeps ns s a (p.turn ns front t a).2 := by
  have hcreation : Keeps ns s a (ApiServer.serve ns front a (.create (.ofSubmission s ns))).2 := by
    have hplace := (serve_creation hreach hspared).1
    exact ⟨fun _ => .inr hplace, fun _ => hplace⟩
  cases h with
  | creating accepted conflict =>
    cases t with
    | serve =>
      refine ⟨?_, hcreation⟩
      obtain ⟨hplace, ⟨job, hreply⟩ | ⟨reason, message, hreply⟩⟩ := serve_creation hreach hspared
      · simp only [Flight.turn, hreply, accepted]
        exact .answered hplace .created
      · simp only [Flight.turn, hreply, conflict]
        exact .conflicted hplace
    | hear => exact ⟨.creating accepted conflict, Keeps.refl a⟩
    | cut => exact ⟨.lostCreation, Keeps.refl a⟩
  | conflicted place =>
    cases t with
    | serve => exact ⟨.conflicted place, Keeps.refl a⟩
    | hear => exact ⟨comparing_sound hreach place, Keeps.refl a⟩
    | cut => exact ⟨.ended, Keeps.refl a⟩
  | reading place same =>
    cases t with
    | serve =>
      obtain ⟨job, hreply, hhash⟩ := serve_reading hreach place
      simp only [Flight.turn, hreply, serve_read_server, same job hhash]
      exact ⟨.answered place .alreadyExists, Keeps.refl a⟩
    | hear => exact ⟨.reading place same, Keeps.refl a⟩
    | cut => exact ⟨.lostReading, Keeps.refl a⟩
  | answered place outcome =>
    cases t with
    | serve => exact ⟨.answered place outcome, Keeps.refl a⟩
    | hear => exact ⟨.returned place outcome, Keeps.refl a⟩
    | cut => exact ⟨.ended, Keeps.refl a⟩
  | returned place outcome => cases t <;> exact ⟨.returned place outcome, Keeps.refl a⟩
  | lostCreation =>
    cases t with
    | serve => exact ⟨.ended, hcreation⟩
    | hear => exact ⟨.lostCreation, Keeps.refl a⟩
    | cut => exact ⟨.lostCreation, Keeps.refl a⟩
  | lostReading =>
    cases t with
    | serve =>
      simp only [Flight.turn, serve_read_server]
      exact ⟨.ended, Keeps.refl a⟩
    | hear => exact ⟨.lostReading, Keeps.refl a⟩
    | cut => exact ⟨.lostReading, Keeps.refl a⟩
  | ended => cases t <;> exact ⟨.ended, Keeps.refl a⟩

/-! ## Runs -/

/-- no other job stands under the name, and every attempt is sound -/
structure Inv (net : Transport) (ns : String) (s : Submission) (x : St) : Prop where
  spared : Spared ns s x.server
  attempts : ∀ p ∈ x.attempts, Sound net ns s x.server p

/-- other clients leave the name alone -/
def Op.spares (ns : String) (front : Frontend) (s : Submission) : Op → Prop
  | other r => front.subject ns r ≠ s.id
  | _ => True

instance (ns : String) (front : Frontend) (s : Submission) : (o : Op) → Decidable (o.spares ns front s)
  | .other r => inferInstanceAs (Decidable (front.subject ns r ≠ s.id))
  | .start | .turn .. | .report _ => isTrue trivial

theorem Inv.keeps {x : St} (h : Inv net ns s x) {b : ApiServer} (hkeeps : Keeps ns s x.server b) :
    Inv net ns s { x with server := b } :=
  ⟨hkeeps.spared h.spared, fun p hp => (h.attempts p hp).mono hkeeps⟩

/-- **The invariant is kept by every step.** -/
theorem step_inv (hreach : Reaches net front ns s.id) {x : St} (h : Inv net ns s x) {o : Op}
    (ho : o.spares ns front s) : Inv net ns s (step net ns front s x o) := by
  cases o with
  | start =>
    refine ⟨h.spared, ?_⟩
    intro p hp
    rcases List.mem_append.1 hp with hp | hp
    · exact h.attempts p hp
    · rw [List.mem_singleton.1 hp]
      exact start_sound hreach x.server
  | turn k t =>
    simp only [step]
    split
    · exact h
    · rename_i p hp
      obtain ⟨hsound, hkeeps⟩ := turn_sound hreach h.spared (h.attempts p (List.mem_of_getElem? hp)) t
      refine ⟨hkeeps.spared h.spared, ?_⟩
      intro q hq
      rcases List.mem_or_eq_of_mem_set hq with hq | rfl
      · exact (h.attempts q hq).mono hkeeps
      · exact hsound
  | report status => exact h.keeps (report_keeps x.server status)
  | other r => exact h.keeps (keeps_of_find?_eq (serve_elsewhere x.server ho))

theorem run_inv (hreach : Reaches net front ns s.id) {x : St} (h : Inv net ns s x) {ops : List Op}
    (hops : ∀ o ∈ ops, o.spares ns front s) : Inv net ns s (run net ns front s x ops) := by
  induction ops generalizing x with
  | nil => exact h
  | cons o ops ih =>
    rw [run_cons]
    exact ih (step_inv hreach h (hops o List.mem_cons_self)) fun o' ho' => hops o' (List.mem_cons_of_mem _ ho')

/-! ## Progress -/

theorem step_attempt {x : St} {k : ℕ} {p : Attempt} (h : x.attempts[k]? = some p) (o : Op) :
    (step net ns front s x o).attempts[k]? = some ((o.turnOf? k).elim p fun t => (p.turn ns front t x.server).1) := by
  have hk : k < x.attempts.length := (List.getElem?_eq_some_iff.1 h).1
  cases o with
  | start =>
    simp only [step, Op.turnOf?, Option.elim_none]
    rw [List.getElem?_append_left hk, h]
  | turn j t =>
    simp only [step, Op.turnOf?]
    by_cases hj : j = k
    · subst hj
      simp only [h, if_true, Option.elim_some]
      exact List.getElem?_set_self hk
    · rw [if_neg hj, Option.elim_none]
      split
      · exact h
      · exact (List.getElem?_set_ne hj).trans h
  | report status => exact h
  | other r => exact h

/-- An attempt that is not given up returns once it has had the turns it waits for. -/
theorem run_waits {x : St} {ops : List Op} {k : ℕ} {p : Attempt} {ts : List Turn} (hp : x.attempts[k]? = some p)
    (h : p.Waits ts) (hsub : List.Sublist ts (ops.filterMap (Op.turnOf? k)))
    (hcut : Turn.cut ∉ ops.filterMap (Op.turnOf? k)) :
    ∃ result, (run net ns front s x ops).attempts[k]? = some (.returned result) := by
  induction ops generalizing x p ts with
  | nil =>
    obtain ⟨result, rfl⟩ := h.over hsub
    exact ⟨result, hp⟩
  | cons o ops ih =>
    have hstep : (step net ns front s x o).attempts[k]? =
        some ((o.turnOf? k).elim p fun t => (p.turn ns front t x.server).1) := step_attempt hp o
    rw [run_cons]
    cases hturn : o.turnOf? k with
    | none =>
      rw [List.filterMap_cons_none hturn] at hsub hcut
      rw [hturn] at hstep
      exact ih hstep h hsub hcut
    | some t =>
      rw [List.filterMap_cons_some hturn] at hsub hcut
      rw [hturn] at hstep
      rw [List.mem_cons, not_or] at hcut
      have hne : t ≠ .cut := fun ht => hcut.1 ht.symm
      obtain ⟨ts', hwaits, hsub'⟩ : ∃ ts', ((p.turn ns front t x.server).1).Waits ts' ∧
          List.Sublist ts' (ops.filterMap (Op.turnOf? k)) := h.turn hsub hne
      exact ih hstep hwaits hsub' hcut.2

theorem start_waits (net : Transport) (ns : String) (s : Submission) :
    ∃ ts, Flight.Waits ts (.ofCall (Call.submit ns (.distributed s) net)) ∧ List.Sublist ts (rounds 2) :=
  Flight.waits_ofCall ((Call.AtMost.apply net ns s).map _)

/-- An attempt that is begun and not given up returns once it has had two turns of the server and of the client. -/
theorem run_start_returns {x : St} {ops : List Op}
    (hsub : List.Sublist (rounds 2) (ops.filterMap (Op.turnOf? x.attempts.length)))
    (hcut : Turn.cut ∉ ops.filterMap (Op.turnOf? x.attempts.length)) :
    ∃ result, (run net ns front s x (.start :: ops)).attempts[x.attempts.length]? = some (.returned result) := by
  have hbegun : (step net ns front s x .start).attempts[x.attempts.length]? =
      some (.ofCall (.submit ns (.distributed s) net)) := by
    simp [step]
  obtain ⟨ts, hwaits, hle⟩ := start_waits net ns s
  rw [run_cons]
  exact run_waits hbegun hwaits (hle.trans hsub) hcut

/-! ## Safety of submitting again -/

theorem Sound.outcome {a : ApiServer} {p : Attempt} (h : Sound net ns s a p) {timeout : UInt64}
    {result : Except Error SubmitOutcome} (hresult : outcome? s timeout p = some result) :
    (∃ outcome, result = .ok (.submitted s.id outcome)) ∨ result = .error (.timeout ("apply " ++ s.id) timeout) := by
  cases h with
  | returned _ outcome => exact .inl ⟨outcome, (Option.some.inj hresult).symm⟩
  | lostCreation => exact .inr (Option.some.inj hresult).symm
  | lostReading => exact .inr (Option.some.inj hresult).symm
  | ended => exact .inr (Option.some.inj hresult).symm
  | _ => cases hresult

theorem Sound.of_returned {a : ApiServer} {result : Except Error SubmitOutcome}
    (h : Sound net ns s a (.returned result)) :
    (∃ outcome, result = .ok (.submitted s.id outcome)) ∧ InPlace ns s a := by
  cases h with
  | returned place outcome => exact ⟨⟨outcome, rfl⟩, place⟩

/-! ## Attempts that send nothing -/

/-- what an attempt comes to whose creation cannot be made -/
def unsent (s : Submission) (cause : String) : Attempt :=
  .returned (.error (.submission s.id (.stated ("Failed to build request: " ++ cause))))

/-- the operation is not one of an attempt -/
def Op.isForeign : Op → Bool
  | report _ | other _ => true
  | start | turn .. => false

def Op.isStart : Op → Bool
  | start => true
  | _ => false

theorem start_unsent {cause : String} (h : net.fault? ns (.create (.ofSubmission s ns)) = some cause) :
    Flight.ofCall (Call.submit ns (.distributed s) net) = unsent s cause := by
  rw [Call.submit, Call.apply, Call.send_unmade h]
  rfl

/-- Where its creation cannot be made every attempt is over at once, and the server sees the operations of others. -/
theorem run_unsent {cause : String} (h : net.fault? ns (.create (.ofSubmission s ns)) = some cause) (a : ApiServer)
    (n : ℕ) (ops : List Op) :
    run net ns front s ⟨a, .replicate n (unsent s cause)⟩ ops =
      ⟨(run net ns front s ⟨a, []⟩ (ops.filter Op.isForeign)).server,
        .replicate (n + ops.countP Op.isStart) (unsent s cause)⟩ := by
  induction ops generalizing a n with
  | nil => rfl
  | cons o ops ih =>
    rw [run_cons]
    cases o with
    | start =>
      have hstep : step net ns front s ⟨a, .replicate n (unsent s cause)⟩ .start =
          ⟨a, .replicate (n + 1) (unsent s cause)⟩ := by
        rw [step, start_unsent h, List.replicate_succ']
      have hcount : n + 1 + ops.countP Op.isStart = n + (Op.start :: ops).countP Op.isStart := by
        rw [List.countP_cons_of_pos rfl]
        omega
      rw [hstep, ih, hcount]
      rfl
    | turn k t =>
      have hstep : step net ns front s ⟨a, .replicate n (unsent s cause)⟩ (.turn k t) =
          ⟨a, .replicate n (unsent s cause)⟩ := by
        simp only [step]
        split
        · rfl
        · rename_i p hp
          obtain rfl : p = unsent s cause := List.eq_of_mem_replicate (List.mem_of_getElem? hp)
          have hturn : (unsent s cause).turn ns front t a = (unsent s cause, a) := by cases t <;> rfl
          rw [hturn, List.set_replicate_self]
      rw [hstep, ih, List.countP_cons_of_neg Bool.false_ne_true]
      rfl
    | report status => exact ih (a.report s.id status) n
    | other r => exact ih (ApiServer.serve ns front a r).2 n

/-! ## Submitting again -/

/-- **Submitting again is safe.** Let requests reach the job, let its name be free at first or held by the job of the
plan, and let other clients leave the name alone. Then however many attempts there are, however their turns interleave
and wherever they are given up: the host hears of no attempt that the submission is refused; an attempt that is not
given up submits the job once it has had its turns; and whenever an attempt has returned, it has submitted the job, and
what stands under the name is the job of the plan, once, with its content hash. But where the creation of the job cannot
be made, every attempt is refused at once, and the server sees nothing of it. -/
theorem resubmission_is_safe (net : Transport) (ns : String) (front : Frontend) (s : Submission) (timeout : UInt64)
    (a : ApiServer) (ops : List Op) :
    let x := run net ns front s ⟨a, []⟩ ops
    (Reaches net front ns s.id → Spared ns s a → (∀ o ∈ ops, o.spares ns front s) →
      (∀ p ∈ x.attempts, ∀ result, outcome? s timeout p = some result →
        ∀ job cause, result ≠ .error (.submission job cause)) ∧
      (∀ before after, ops = before ++ .start :: after →
        let k := (run net ns front s ⟨a, []⟩ before).attempts.length
        List.Sublist (rounds 2) (after.filterMap (Op.turnOf? k)) → Turn.cut ∉ after.filterMap (Op.turnOf? k) →
        ∃ outcome, x.attempts[k]? = some (.returned (.ok (.submitted s.id outcome)))) ∧
      ∀ result, .returned result ∈ x.attempts →
        (∃ outcome, result = .ok (.submitted s.id outcome)) ∧
        ∃ status, x.server.jobs.entries.filter (·.1 = s.id) = [(s.id, ⟨.ofSubmission s ns, status⟩)] ∧
          (Manifest.ofSubmission s ns).annotations.find? Manifest.hashKey = some s.contentHash) ∧
    ∀ cause, net.fault? ns (.create (.ofSubmission s ns)) = some cause →
      x.attempts = .replicate (ops.countP Op.isStart) (unsent s cause) ∧
        x.server = (run net ns front s ⟨a, []⟩ (ops.filter Op.isForeign)).server := by
  intro x
  refine ⟨fun hreach hspared hops => ?_, fun cause hfault => ?_⟩
  · have hstart : Inv net ns s ⟨a, []⟩ := ⟨hspared, fun p hp => by cases hp⟩
    have hinv : Inv net ns s x := run_inv hreach hstart hops
    refine ⟨?_, ?_, ?_⟩
    · rintro p hp result hresult job cause rfl
      rcases (hinv.attempts p hp).outcome hresult with ⟨outcome, hok⟩ | htimeout
      · cases hok
      · cases htimeout
    · intro before after heq k hsub hcut
      have hx : x = run net ns front s (run net ns front s ⟨a, []⟩ before) (.start :: after) := by
        rw [← run_append, ← heq]
      obtain ⟨result, hreturned⟩ : ∃ result, x.attempts[k]? = some (.returned result) := by
        rw [hx]
        exact run_start_returns hsub hcut
      obtain ⟨⟨outcome, rfl⟩, _⟩ := (hinv.attempts _ (List.mem_of_getElem? hreturned)).of_returned
      exact ⟨outcome, hreturned⟩
    · intro result hmem
      obtain ⟨hok, status, hfind⟩ := (hinv.attempts _ hmem).of_returned
      exact ⟨hok, status, Dict.entries_filter_of_find? hfind, Manifest.find?_hash s ns⟩
  · have hrun : x = ⟨(run net ns front s ⟨a, []⟩ (ops.filter Op.isForeign)).server,
        .replicate (0 + ops.countP Op.isStart) (unsent s cause)⟩ := run_unsent hfault a 0 ops
    rw [hrun, Nat.zero_add]
    exact ⟨rfl, rfl⟩

/-- an attempt that submits the job although an earlier one, given up before the server took its creation, gets there
first -/
theorem resubmission_after_late_creation :
    ∃ s, (workers 2).build = .ok s ∧
      let before : List Op := [.start, .turn 0 .cut]
      let after : List Op := [.turn 0 .serve, .other (.delete "tune"), .turn 1 .serve, .turn 1 .hear, .turn 1 .serve,
        .turn 1 .hear]
      let ops := before ++ .start :: after
      (Reaches .http .literal "team" s.id ∧ Spared "team" s {} ∧ ∀ o ∈ ops, o.spares "team" .literal s) ∧
        ∃ outcome, (run .http "team" .literal s ⟨{}, []⟩ ops).attempts[1]? =
          some (.returned (.ok (.submitted s.id outcome))) := by
  obtain ⟨s, hs⟩ := eq_ok_of_isSome (show (workers 2).build.toOption.isSome = true by decide +kernel)
  have hid : (workers 2).build.toOption.map (·.id) = some "exec1-n0-0-67b4a902" := by decide +kernel
  rw [hs] at hid
  have hid : s.id = "exec1-n0-0-67b4a902" := Option.some.inj hid
  refine ⟨s, hs, ?_⟩
  intro before after ops
  have hreach : Reaches .http .literal "team" s.id := by
    rw [hid]
    exact http_reaches_of_isLabel (by decide) (by decide) (by decide +kernel)
  have hops : ∀ o ∈ ops, o.spares "team" .literal s := by
    have hother : Frontend.literal.subject "team" (.delete "tune") ≠ s.id := by
      rw [hid]
      decide
    simp [ops, before, after, hother, Op.spares]
  refine ⟨⟨hreach, .inl rfl, hops⟩, ?_⟩
  obtain ⟨_, hreturns, _⟩ :=
    (resubmission_is_safe .http "team" .literal s 30000 {} ops).1 hreach (.inl rfl) hops
  have hturns : after.filterMap (Op.turnOf? 1) = rounds 2 := by decide
  have hcut : Turn.cut ∉ after.filterMap (Op.turnOf? 1) := by decide
  exact hreturns before after rfl (hturns ▸ List.Sublist.refl _) hcut

/-- In a namespace with a blank no request can be made, and the host hears of every attempt that it is refused. -/
theorem resubmission_refused_in_spaced_namespace :
    let cause := "Failed to build request: failed to build request: invalid uri character"
    let refusal : Error := .submission "exec1-n0-0-67b4a902" (.stated cause)
    (workers 2).build.toOption.map (fun s =>
        (run .http "team a" .literal s ⟨{}, []⟩ [.start, .start]).attempts.map (outcome? s 30000)) =
      some [some (.error refusal), some (.error refusal)] := by
  decide +kernel

end TrainingJobs.Retry
