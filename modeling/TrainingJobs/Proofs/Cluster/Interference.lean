/-
Handing over a job while other clients create and delete jobs. Handing over takes two requests when the name is taken:
the creation, which is refused, and the reading of the job that holds the name. What other clients do between the two is
not seen.

- `verdict`: what a call has come to, by the states of the server that its requests met.
- `refused_iff_lost`: with no job of another content hash under its name, a submission is refused iff it cannot be
  handed over at all or the job that took its name is gone when it is read.
- `own_job_refused_after_deletion`: a submission is refused although nothing but its own job ever held its name.
-/
import Mathlib.Tactic
import TrainingJobs.Proofs.Cluster.InFlight

namespace TrainingJobs.Interference

/-! ## Model -/

/-- the server and one client that hands over a job -/
structure Scene where
  server : ApiServer
  call : Flight (Except Error ApplyOutcome)

inductive Move where
  | turn (t : Turn)
  /-- a request of another client -/
  | other (r : Request)
deriving DecidableEq, Repr

def Move.turn? : Move → Option Turn
  | turn t => some t
  | other _ => none

def start (net : Transport) (ns : String) (s : Submission) (a : ApiServer) : Scene := ⟨a, .ofCall (.apply ns s net)⟩

def step (ns : String) (front : Frontend) (x : Scene) : Move → Scene
  | .turn t => ⟨(x.call.turn ns front t x.server).2, (x.call.turn ns front t x.server).1⟩
  | .other r => { x with server := (ApiServer.serve ns front x.server r).2 }

def run (ns : String) (front : Frontend) (x : Scene) (moves : List Move) : Scene := moves.foldl (step ns front) x

/-- the server at every moment of the call -/
def moments (ns : String) (front : Frontend) (x : Scene) : List Move → List ApiServer
  | [] => if x.call.result?.isSome then [] else [x.server]
  | m :: moves => if x.call.result?.isSome then [] else x.server :: moments ns front (step ns front x m) moves

/-- the server takes the request of the call -/
def Scene.meets (x : Scene) : Move → Bool
  | .turn t => x.call.meets t
  | .other _ => false

/-- the server at each request of the call -/
def met (ns : String) (front : Frontend) (x : Scene) : List Move → List ApiServer
  | [] => []
  | m :: moves => (if x.meets m then [x.server] else []) ++ met ns front (step ns front x m) moves

/-- the request by which the job of a submission is created -/
abbrev creation (ns : String) (s : Submission) : Request := .create (.ofSubmission s ns)

/-- a job with another content hash, or with none, holds the name of the submission -/
def foreign (ns : String) (front : Frontend) (s : Submission) (a : ApiServer) : Bool :=
  (a.jobs.find? (front.subject ns (.read s.id))).any fun held =>
    held.manifest.annotations.find? Manifest.hashKey != some s.contentHash

variable {net : Transport} {ns : String} {front : Frontend}

theorem run_cons (x : Scene) (m : Move) (moves : List Move) :
    run ns front x (m :: moves) = run ns front (step ns front x m) moves := rfl

/-! ## The requests of a call -/

theorem step_left {x : Scene} {call : Call (Except Error ApplyOutcome)} (h : x.call.Left call) (m : Move) :
    (step ns front x m).call.Left (if x.meets m then call.replied ns front x.server else call) := by
  cases m with
  | turn t => exact h.turn t x.server
  | other r => exact h

theorem run_left {x : Scene} {call : Call (Except Error ApplyOutcome)} (h : x.call.Left call) (moves : List Move) :
    (run ns front x moves).call.Left ((met ns front x moves).foldl (Call.replied ns front) call) := by
  induction moves generalizing x call with
  | nil => exact h
  | cons m moves ih =>
    have hstep : (step ns front x m).call.Left (if x.meets m then call.replied ns front x.server else call) :=
      step_left h m
    rw [run_cons, met, List.foldl_append]
    split_ifs at hstep ⊢
    · exact ih hstep
    · exact ih hstep

/-! ## Moments of a call -/

theorem met_over {x : Scene} (h : x.call.result?.isSome = true) (moves : List Move) : met ns front x moves = [] := by
  induction moves generalizing x with
  | nil => rfl
  | cons m moves ih =>
    obtain ⟨server, flight⟩ := x
    cases flight with
    | returned result =>
      have hmeets : Scene.meets ⟨server, .returned result⟩ m = false := by
        cases m with
        | turn t => cases t <;> rfl
        | other r => rfl
      have hover : (step ns front ⟨server, .returned result⟩ m).call.result?.isSome = true := by
        cases m with
        | turn t => cases t <;> rfl
        | other r => rfl
      rw [met, hmeets, ih hover]
      rfl
    | _ => cases h

/-- a request of the call is made at a moment of the call -/
theorem met_subset_moments (x : Scene) (moves : List Move) : met ns front x moves ⊆ moments ns front x moves := by
  induction moves generalizing x with
  | nil => exact List.nil_subset _
  | cons m moves ih =>
    by_cases hover : x.call.result?.isSome = true
    · rw [met_over hover]
      exact List.nil_subset _
    · rw [met, moments, if_neg hover]
      intro b hb
      rcases List.mem_append.1 hb with hb | hb
      · split_ifs at hb
        · rw [List.mem_singleton.1 hb]
          exact List.mem_cons_self
        · cases hb
      · exact List.mem_cons_of_mem _ (ih (step ns front x m) hb)

/-! ## Verdicts -/

section Verdict

variable {s : Submission}

/-- what a call comes to, by the states of the server at its requests -/
inductive Verdict (net : Transport) (ns : String) (front : Frontend) (s : Submission) :
    List ApiServer → Except Error ApplyOutcome → Prop where
  | unmade {seen : List ApiServer} (fault : net.fault? ns (creation ns s) ≠ none) (cause : Refusal) :
      Verdict net ns front s seen (.error (.submission s.id cause))
  | created {b : ApiServer} {seen : List ApiServer} (made : net.fault? ns (creation ns s) = none)
      (free : b.jobs.find? (front.subject ns (creation ns s)) = none) :
      Verdict net ns front s (b :: seen) (.ok .created)
  /-- the name is taken, and the job that holds it cannot be asked for -/
  | unread {b : ApiServer} {seen : List ApiServer} (made : net.fault? ns (creation ns s) = none)
      (taken : b.jobs.find? (front.subject ns (creation ns s)) ≠ none) (fault : net.fault? ns (.read s.id) ≠ none)
      (cause : Refusal) : Verdict net ns front s (b :: seen) (.error (.submission s.id cause))
  /-- the name was taken, and nobody holds it any more -/
  | gone {b c : ApiServer} {seen : List ApiServer} (made : net.fault? ns (creation ns s) = none)
      (taken : b.jobs.find? (front.subject ns (creation ns s)) ≠ none) (readable : net.fault? ns (.read s.id) = none)
      (free : c.jobs.find? (front.subject ns (.read s.id)) = none) (cause : Refusal) :
      Verdict net ns front s (b :: c :: seen) (.error (.submission s.id cause))
  | compared {b c : ApiServer} {seen : List ApiServer} {held : HeldJob} (made : net.fault? ns (creation ns s) = none)
      (taken : b.jobs.find? (front.subject ns (creation ns s)) ≠ none) (readable : net.fault? ns (.read s.id) = none)
      (found : c.jobs.find? (front.subject ns (.read s.id)) = some held) :
      Verdict net ns front s (b :: c :: seen) (reconcile s (held.manifest.annotations.find? Manifest.hashKey))

theorem foldl_done (result : Except Error ApplyOutcome) (seen : List ApiServer) :
    seen.foldl (Call.replied ns front) (.done result) = .done result := by
  induction seen with
  | nil => rfl
  | cons b seen ih => exact ih

theorem compare_verdict {b : ApiServer} {seen : List ApiServer} {result : Except Error ApplyOutcome}
    (made : net.fault? ns (creation ns s) = none) (taken : b.jobs.find? (front.subject ns (creation ns s)) ≠ none)
    (h : seen.foldl (Call.replied ns front) (Call.compare ns s net) = .done result) :
    Verdict net ns front s (b :: seen) result := by
  unfold Call.compare at h
  cases hfault : net.fault? ns (.read s.id) with
  | some cause =>
    simp only [Call.send_unmade hfault, Call.refuse, foldl_done] at h
    cases h
    exact .unread made taken (hfault ▸ Option.some_ne_none cause) _
  | none =>
    rw [Call.send_made hfault] at h
    cases seen with
    | nil => cases h
    | cons c seen =>
      cases hfind : c.jobs.find? (front.subject ns (.read s.id)) with
      | none =>
        simp only [List.foldl_cons, Call.replied, ApiServer.serve, hfind, ApiServer.noSuchJob, Call.refuse,
          foldl_done] at h
        cases h
        exact .gone made taken hfault hfind _
      | some held =>
        simp only [List.foldl_cons, Call.replied, ApiServer.serve, hfind, foldl_done] at h
        cases h
        exact .compared made taken hfault hfind

/-- **What a call comes to.** A call that has returned did so by the states of the server that its requests met. -/
theorem verdict {seen : List ApiServer} {result : Except Error ApplyOutcome}
    (h : seen.foldl (Call.replied ns front) (Call.apply ns s net) = .done result) :
    Verdict net ns front s seen result := by
  unfold Call.apply at h
  cases hfault : net.fault? ns (creation ns s) with
  | some cause =>
    simp only [Call.send_unmade hfault, Call.refuse, foldl_done] at h
    cases h
    exact .unmade (hfault ▸ Option.some_ne_none cause) _
  | none =>
    rw [Call.send_made hfault] at h
    cases seen with
    | nil => cases h
    | cons b seen =>
      cases hfind : b.jobs.find? (front.subject ns (creation ns s)) with
      | none =>
        simp only [List.foldl_cons, Call.replied, ApiServer.serve, hfind, foldl_done] at h
        cases h
        exact .created hfault hfind
      | some held =>
        simp only [List.foldl_cons, Call.replied, ApiServer.serve, hfind, if_true] at h
        exact compare_verdict hfault (hfind ▸ Option.some_ne_none held) h

theorem call_verdict {a : ApiServer} {moves : List Move} {result : Except Error ApplyOutcome}
    (h : (run ns front (start net ns s a) moves).call.result? = some result) :
    Verdict net ns front s (met ns front (start net ns s a) moves) result := by
  have hleft : (run ns front (start net ns s a) moves).call.Left
      ((met ns front (start net ns s a) moves).foldl (Call.replied ns front) (Call.apply ns s net)) :=
    run_left (Flight.left_ofCall _) moves
  apply verdict
  generalize (met ns front (start net ns s a) moves).foldl (Call.replied ns front) (Call.apply ns s net) = left
    at hleft ⊢
  generalize (run ns front (start net ns s a) moves).call = flight at h hleft
  cases hleft with
  | returned r => rw [Option.some.inj h]
  | _ => cases h

/-- the submission cannot be handed over, or its name was taken and the job that took it is gone when it is asked for -/
inductive Lost (net : Transport) (ns : String) (front : Frontend) (s : Submission) : List ApiServer → Prop where
  | unmade {seen : List ApiServer} (fault : net.fault? ns (creation ns s) ≠ none) : Lost net ns front s seen
  | unread {b : ApiServer} {seen : List ApiServer} (taken : b.jobs.find? (front.subject ns (creation ns s)) ≠ none)
      (fault : net.fault? ns (.read s.id) ≠ none) : Lost net ns front s (b :: seen)
  | gone {b c : ApiServer} {seen : List ApiServer} (taken : b.jobs.find? (front.subject ns (creation ns s)) ≠ none)
      (free : c.jobs.find? (front.subject ns (.read s.id)) = none) : Lost net ns front s (b :: c :: seen)

/-- For a job that requests reach only a deletion between the two requests is left. -/
theorem lost_iff_of_reaches (hreach : Reaches net front ns s.id) {seen : List ApiServer} :
    Lost net ns front s seen ↔ ∃ b c rest, seen = b :: c :: rest ∧ b.jobs.find? s.id ≠ none ∧
      c.jobs.find? s.id = none := by
  have hcreate : front.subject ns (creation ns s) = s.id := hreach.meant _ rfl
  have hread : front.subject ns (.read s.id) = s.id := hreach.meant _ rfl
  constructor
  · intro hlost
    cases hlost with
    | unmade fault => exact absurd (hreach.made _ rfl) fault
    | unread _ fault => exact absurd (hreach.made _ rfl) fault
    | @gone b c rest taken free => exact ⟨b, c, rest, rfl, hcreate ▸ taken, hread ▸ free⟩
  · rintro ⟨b, c, rest, rfl, taken, free⟩
    exact .gone (by rwa [hcreate]) (by rwa [hread])

theorem Verdict.error {seen : List ApiServer} {e : Error} (h : Verdict net ns front s seen (.error e)) :
    ∃ cause, e = .submission s.id cause := by
  generalize hresult : Except.error e = result at h
  cases h with
  | unmade _ cause => exact ⟨cause, Except.error.inj hresult⟩
  | created => cases hresult
  | unread _ _ _ cause => exact ⟨cause, Except.error.inj hresult⟩
  | gone _ _ _ _ cause => exact ⟨cause, Except.error.inj hresult⟩
  | @compared b c seen held =>
    unfold reconcile at hresult
    split at hresult
    · exact ⟨_, Except.error.inj hresult⟩
    · split_ifs at hresult
      exact ⟨_, Except.error.inj hresult⟩

theorem reconcile_of_not_foreign {c : ApiServer} {held : HeldJob}
    (found : c.jobs.find? (front.subject ns (.read s.id)) = some held) (hown : foreign ns front s c = false) :
    reconcile s (held.manifest.annotations.find? Manifest.hashKey) = .ok .alreadyExists := by
  rw [foreign, found, Option.any_some, bne_eq_false_iff_eq] at hown
  rw [reconcile_eq_ok_iff]
  exact ⟨hown, rfl⟩

theorem Verdict.error_iff_lost {seen : List ApiServer} {result : Except Error ApplyOutcome}
    (h : Verdict net ns front s seen result) (hown : ∀ b ∈ seen, foreign ns front s b = false) :
    (∃ e, result = .error e) ↔ Lost net ns front s seen := by
  constructor
  · rintro ⟨e, he⟩
    cases h with
    | unmade fault => exact .unmade fault
    | created => cases he
    | unread made taken fault => exact .unread taken fault
    | gone made taken readable free => exact .gone taken free
    | @compared b c seen held made taken readable found =>
      rw [reconcile_of_not_foreign found (hown c (by simp))] at he
      cases he
  · intro hlost
    cases h with
    | unmade _ cause => exact ⟨_, rfl⟩
    | created made free =>
      cases hlost with
      | unmade fault => exact absurd made fault
      | unread taken => exact absurd free taken
      | gone taken => exact absurd free taken
    | unread _ _ _ cause => exact ⟨_, rfl⟩
    | gone _ _ _ _ cause => exact ⟨_, rfl⟩
    | compared made taken readable found =>
      cases hlost with
      | unmade fault => exact absurd made fault
      | unread _ fault => exact absurd readable fault
      | gone _ free =>
        rw [free] at found
        cases found

end Verdict

/-! ## Progress -/

theorem run_waits {x : Scene} {moves : List Move} {ts : List Turn} (h : x.call.Waits ts)
    (hsub : List.Sublist ts (moves.filterMap Move.turn?)) (hcut : Move.turn .cut ∉ moves) :
    ∃ result, (run ns front x moves).call.result? = some result := by
  induction moves generalizing x ts with
  | nil =>
    obtain ⟨result, hx⟩ := h.over hsub
    exact ⟨result, by rw [run, List.foldl_nil, hx]; rfl⟩
  | cons m moves ih =>
    rw [List.mem_cons, not_or] at hcut
    cases m with
    | other r => exact ih h hsub hcut.2
    | turn t =>
      have hne : t ≠ .cut := fun ht => hcut.1 (by rw [ht])
      obtain ⟨ts', hwaits, hsub'⟩ : ∃ ts', (step ns front x (.turn t)).call.Waits ts' ∧
          List.Sublist ts' (moves.filterMap Move.turn?) := h.turn hsub hne
      exact ih hwaits hsub' hcut.2

/-- **Refused by a deletion.** Whatever other clients do meanwhile, a call that is not given up returns once the server
and the client have each taken two turns, and no error of it is other than a refusal of its submission. If no job with
another content hash holds the name at any moment of the call, then the submission is refused iff its requests cannot be
made, or its name was taken when it was to be created and the job that took it was gone when it was asked for. -/
theorem refused_iff_lost (net : Transport) (ns : String) (front : Frontend) (s : Submission) (a : ApiServer)
    (moves : List Move) :
    let x := start net ns s a
    let t := run ns front x moves
    (List.Sublist (rounds 2) (moves.filterMap Move.turn?) → Move.turn .cut ∉ moves →
      ∃ result, t.call.result? = some result) ∧
    ∀ result, t.call.result? = some result →
      (∀ e, result = .error e → ∃ cause, e = .submission s.id cause) ∧
      ((∀ b ∈ moments ns front x moves, foreign ns front s b = false) →
        ((∃ e, result = .error e) ↔ Lost net ns front s (met ns front x moves))) := by
  intro x t
  refine ⟨?_, ?_⟩
  · intro hsub hcut
    obtain ⟨ts, hwaits, hle⟩ := Flight.waits_ofCall (Call.AtMost.apply net ns s)
    exact run_waits hwaits (hle.trans hsub) hcut
  · intro result hresult
    have hverdict : Verdict net ns front s (met ns front x moves) result := call_verdict hresult
    refine ⟨?_, ?_⟩
    · rintro e rfl
      exact hverdict.error
    · intro hown
      exact hverdict.error_iff_lost fun b hb => hown b (met_subset_moments x moves hb)

/-- A submission is refused although nothing but its own job ever held its name: another client deletes that job after
the creation has been refused and before the job is asked for. -/
theorem own_job_refused_after_deletion :
    let s : Submission := { (default : Submission) with id := "train", contentHash := "1f" }
    let x := start .http "team" s { jobs := .ofList [("train", { manifest := .ofSubmission s "team" })] }
    let moves : List Move := [.turn .serve, .other (.delete "train"), .turn .hear, .turn .serve, .turn .hear]
    (∀ b ∈ moments "team" .literal x moves, foreign "team" .literal s b = false) ∧
      (run "team" .literal x moves).call.result? = some (.error (.submission "train" (.stated "train"))) := by
  decide +kernel

end TrainingJobs.Interference
