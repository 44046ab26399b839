/-
Calls in flight. While a call of a client runs, its request is on the way, or the reply is, and in between anybody else
may act. A client may also give a call up: it then hears no reply, but a request that is on its way may still arrive.

- `Left.turn`: what is left of a call depends on nothing but the replies to its requests.
- `alone_returns`: a call that takes its turns without interruption does what `Call.run` does.
- `AtMost.apply`: a job is handed over in two requests at most.
- `Waits.turn`: a call that is not given up comes nearer to its end with every turn that it waits for.
-/
import Mathlib.Tactic
import TrainingJobs.Proofs.Cluster.Server

namespace TrainingJobs

/-- the next thing to happen to a call -/
inductive Turn where
  /-- the server takes the request -/
  | serve
  /-- the client takes the reply -/
  | hear
  /-- the client gives up -/
  | cut
deriving DecidableEq, Repr

/-- how far a call has come -/
inductive Flight (α : Type) where
  /-- the request is on its way -/
  | asking (request : Request) (next : Reply → Call α)
  /-- the reply is on its way, by which the call goes on -/
  | hearing (call : Call α)
  | returned (result : α)
  /-- given up; a request may still arrive -/
  | cut (pending : Option Request)

/-- what is left of a call once a server has replied to its request -/
def Call.replied {α : Type} (ns : String) (front : Frontend) (call : Call α) (a : ApiServer) : Call α :=
  match call with
  | done result => done result
  | ask r next => next (ApiServer.serve ns front a r).1

namespace Flight

variable {α : Type}

def ofCall : Call α → Flight α
  | .done result => .returned result
  | .ask request next => .asking request next

def result? : Flight α → Option α
  | returned result => some result
  | _ => none

/-- the call and the server after a turn; a turn that is not the call's changes nothing -/
def turn (ns : String) (front : Frontend) (t : Turn) (a : ApiServer) (p : Flight α) : Flight α × ApiServer :=
  match t, p with
  | .serve, asking r next => (hearing (next (ApiServer.serve ns front a r).1), (ApiServer.serve ns front a r).2)
  | .serve, cut (some r) => (cut none, (ApiServer.serve ns front a r).2)
  | .hear, hearing call => (ofCall call, a)
  | .cut, asking r _ => (cut (some r), a)
  | .cut, hearing _ => (cut none, a)
  | _, p => (p, a)

/-! ## The requests of a call -/

/-- the server takes the request of a call that waits for the reply -/
def meets (t : Turn) : Flight α → Bool
  | asking .. => t == .serve
  | _ => false

/-- the call that is left to a call in flight -/
inductive Left : Flight α → Call α → Prop where
  | asking (r : Request) (next : Reply → Call α) : Left (asking r next) (.ask r next)
  | hearing (call : Call α) : Left (hearing call) call
  | returned (result : α) : Left (returned result) (.done result)
  /-- nobody waits for it -/
  | cut (pending : Option Request) (call : Call α) : Left (cut pending) call

theorem left_ofCall (call : Call α) : Left (ofCall call) call := by
  cases call with
  | done result => exact .returned result
  | ask r next => exact .asking r next

/-- What is left of a call changes when the server takes its request, by the reply. -/
theorem Left.turn {ns : String} {front : Frontend} {p : Flight α} {call : Call α} (h : Left p call) (t : Turn)
    (a : ApiServer) : Left (p.turn ns front t a).1 (if p.meets t then call.replied ns front a else call) := by
  cases h with
  | asking r next =>
    cases t with
    | serve => exact .hearing _
    | hear => exact .asking r next
    | cut => exact .cut _ _
  | hearing call =>
    cases t with
    | serve => exact .hearing call
    | hear => exact left_ofCall call
    | cut => exact .cut _ _
  | returned result => cases t <;> exact .returned result
  | cut pending call => cases t <;> cases pending <;> exact .cut _ _

/-! ## A call alone -/

/-- turns of one call that nobody interrupts -/
def turns (ns : String) (front : Frontend) (ts : List Turn) (x : Flight α × ApiServer) : Flight α × ApiServer :=
  ts.foldl (fun x t => x.1.turn ns front t x.2) x

/-- A call that takes its turns without interruption does what `Call.run` does. -/
theorem alone_returns (ns : String) (front : Frontend) (call : Call α) (a : ApiServer) :
    ∃ ts, turns ns front ts (ofCall call, a) =
      (returned (call.run (ApiServer.serve ns front) a).1, (call.run (ApiServer.serve ns front) a).2) := by
  induction call generalizing a with
  | done result => exact ⟨[], rfl⟩
  | ask request next ih =>
    obtain ⟨ts, hts⟩ := ih (ApiServer.serve ns front a request).1 (ApiServer.serve ns front a request).2
    exact ⟨.serve :: .hear :: ts, hts⟩

end Flight

/-! ## Progress -/

/-- the call makes at most that many requests, whatever the replies -/
def Call.AtMost {α : Type} : ℕ → Call α → Prop
  | _, done _ => True
  | 0, ask .. => False
  | n + 1, ask _ next => ∀ reply, AtMost n (next reply)

namespace Call.AtMost

variable {α : Type}

theorem result (n : ℕ) (result : α) : AtMost n (done result) := by
  cases n <;> trivial

theorem succ {n : ℕ} {call : Call α} (h : AtMost n call) : AtMost (n + 1) call := by
  induction n generalizing call with
  | zero =>
    cases call with
    | done => trivial
    | ask => cases h
  | succ n ih =>
    cases call with
    | done => trivial
    | ask request next => exact fun reply => ih (h reply)

theorem map {β : Type} (f : α → β) {n : ℕ} {call : Call α} (h : AtMost n call) : AtMost n (call.map f) := by
  induction n generalizing call with
  | zero =>
    cases call with
    | done => trivial
    | ask => cases h
  | succ n ih =>
    cases call with
    | done => trivial
    | ask request next => exact fun reply => ih (h reply)

theorem send {n : ℕ} {net : Transport} {ns : String} {r : Request} {next : Reply → Call α}
    (h : ∀ reply, AtMost n (next reply)) : AtMost (n + 1) (send net ns r next) := by
  unfold Call.send
  split
  · exact (h _).succ
  · exact h

/-- A job is handed over in two requests at most. -/
theorem apply (net : Transport) (ns : String) (s : Submission) : AtMost 2 (apply ns s net) := by
  have hcompare : AtMost 1 (compare ns s net) := by
    apply send
    intro reply
    cases reply <;> exact result 0 _
  apply send
  rintro (job | ⟨code, reason, message⟩ | message)
  · exact result 1 _
  · dsimp only
    split_ifs
    · exact hcompare
    · exact result 1 _
  · exact result 1 _

end Call.AtMost

/-- the turns of a call of that many requests -/
def rounds : ℕ → List Turn
  | 0 => []
  | n + 1 => .serve :: .hear :: rounds n

namespace Flight

variable {α : Type}

/-- the turns that a call waits for at most -/
inductive Waits : List Turn → Flight α → Prop where
  | returned (result : α) : Waits [] (returned result)
  | asking {n : ℕ} {request : Request} {next : Reply → Call α} (h : ∀ reply, (next reply).AtMost n) :
      Waits (rounds (n + 1)) (asking request next)
  | hearing {n : ℕ} {call : Call α} (h : call.AtMost n) : Waits (.hear :: rounds n) (hearing call)

theorem waits_ofCall {n : ℕ} {call : Call α} (h : call.AtMost n) :
    ∃ ts, Waits ts (ofCall call) ∧ List.Sublist ts (rounds n) := by
  cases call with
  | done result => exact ⟨[], .returned result, List.nil_sublist _⟩
  | ask request next =>
    cases n with
    | zero => cases h
    | succ n => exact ⟨rounds (n + 1), .asking h, List.Sublist.refl _⟩

theorem sublist_of_cons_ne {t u : Turn} {ts us : List Turn} (h : List.Sublist (t :: ts) (u :: us)) (hne : u ≠ t) :
    List.Sublist (t :: ts) us := by
  cases h with
  | cons _ h => exact h
  | cons_cons => exact absurd rfl hne

/-- **A turn brings a call nearer to its end.** If the turns that a call waits for are among those to come, then after
the first of these the turns that it still waits for are among the rest. -/
theorem Waits.turn {ns : String} {front : Frontend} {a : ApiServer} {p : Flight α} {ts us : List Turn} {u : Turn}
    (h : Waits ts p) (hsub : List.Sublist ts (u :: us)) (hcut : u ≠ .cut) :
    ∃ ts', Waits ts' (p.turn ns front u a).1 ∧ List.Sublist ts' us := by
  cases h with
  | returned result => exact ⟨[], by cases u <;> exact .returned result, List.nil_sublist us⟩
  | asking h =>
    cases u with
    | serve => exact ⟨_, .hearing (h _), List.cons_sublist_cons.1 hsub⟩
    | hear => exact ⟨_, .asking h, sublist_of_cons_ne hsub nofun⟩
    | cut => exact absurd rfl hcut
  | hearing h =>
    cases u with
    | serve => exact ⟨_, .hearing h, sublist_of_cons_ne hsub nofun⟩
    | hear =>
      obtain ⟨ts, hts, hle⟩ := waits_ofCall h
      exact ⟨ts, hts, hle.trans (List.cons_sublist_cons.1 hsub)⟩
    | cut => exact absurd rfl hcut

theorem Waits.over {p : Flight α} {ts : List Turn} (h : Waits ts p) (hsub : List.Sublist ts []) :
    ∃ result, p = .returned result := by
  cases h with
  | returned result => exact ⟨result, rfl⟩
  | asking => cases hsub
  | hearing => cases hsub

end Flight

end TrainingJobs
