/-
What the reader of a watch gets. The steps of a watch interleave with its reader, who takes reports and may go away,
with the signal to shut down, and with whatever the cluster answers to its looks at the job. Where a rest ends and there
is also a reason to stop, either may win.

- `changes_append_singleton`: one more report is a change if its phase is not that of the report before.
- `step_inv`: what every step keeps; what has been sent and what waits for room are the changes so far.
- `runFor_run`: a watch in a session takes such steps.
- `reports_are_changes`: on every run the reader gets the changes of phase among the looks, all of them in order as long
  as it stays; a watch looks no more after a look that ends the job, and only a snapshot ends it.
-/
import Mathlib.Tactic
import TrainingJobs.Watch

namespace TrainingJobs.Reports

/-! ## Model -/

/-- what a look at the job showed -/
inductive Look where
  | answered (read : Except Error (Option Snapshot))
  /-- given up after that many milliseconds -/
  | timedOut (limit : UInt64)

namespace Look

variable (job : String) (policy : RunPolicy)

/-- the report that a look amounts to, unless its counts have no total -/
def report : Look → Except CountOverflow PhaseReport
  | answered read => pollReport job policy read
  | timedOut limit => .ok (timeoutReport limit)

/-- there is more to come of the job -/
def Continues (look : Look) : Prop := ∃ r, look.report job policy = .ok r ∧ r.phase.isTerminal = false

theorem not_continues {job : String} {policy : RunPolicy} {look : Look} {r : PhaseReport}
    (h : look.report job policy = .ok r) (hr : r.phase.isTerminal = true) : ¬ look.Continues job policy := by
  rintro ⟨r', h', hr'⟩
  cases h.symm.trans h'
  exact absurd hr (by rw [hr']; nofun)

/-- Only a snapshot tells of a phase. -/
theorem report_unknown {look : Look} (h : ∀ snapshot, look ≠ answered (.ok (some snapshot))) :
    ∃ message, look.report job policy = .ok ⟨.unknown, message⟩ := by
  match look with
  | answered (.ok (some snapshot)) => exact absurd rfl (h snapshot)
  | answered (.ok none) => exact ⟨_, rfl⟩
  | answered (.error _) => exact ⟨_, rfl⟩
  | timedOut _ => exact ⟨_, rfl⟩

variable {job policy} {look : Look}

theorem snapshot_of_terminal {r : PhaseReport} (h : look.report job policy = .ok r)
    (hr : r.phase.isTerminal = true) :
    ∃ snapshot, look = answered (.ok (some snapshot)) ∧ snapshot.interpret policy = .ok r := by
  cases look with
  | answered read =>
    obtain ⟨snapshot, rfl, hinterpret⟩ := pollReport_terminal h hr
    exact ⟨snapshot, rfl, hinterpret⟩
  | timedOut limit =>
    cases h
    cases hr

theorem snapshot_of_not_continues (h : ¬ look.Continues job policy) :
    ∃ snapshot, look = answered (.ok (some snapshot)) ∧
      ∀ r, snapshot.interpret policy = .ok r → r.phase.isTerminal = true := by
  by_cases hlook : ∃ snapshot, look = answered (.ok (some snapshot))
  · obtain ⟨snapshot, rfl⟩ := hlook
    refine ⟨snapshot, rfl, fun r hr => ?_⟩
    by_contra hphase
    exact h ⟨r, hr, by simpa using hphase⟩
  · obtain ⟨message, hreport⟩ := report_unknown job policy fun snapshot hs => hlook ⟨snapshot, hs⟩
    exact absurd ⟨_, hreport, rfl⟩ h

end Look

structure St where
  watch : Watch
  /-- all looks that have ended -/
  looks : List Look := []
  /-- all reports that the reader has taken -/
  taken : List PhaseReport := []

inductive Op where
  /-- the watch does what comes next; a rest ends it if there is a reason to stop -/
  | act (setting : WatchSetting) (now : ℕ)
  /-- a rest is over, even if there is a reason to stop -/
  | wake (setting : WatchSetting) (now : ℕ)
  | take
  | signal
  /-- the reader goes away -/
  | abandon

namespace St

/-- all reports that have been sent -/
def delivered (s : St) : List PhaseReport := s.taken ++ s.watch.buffer

/-- the report that waits for room -/
def pending (s : St) : List PhaseReport :=
  match s.watch.stage with
  | .sending report => [report]
  | _ => []

end St

/-- a read that ends shows something of the job -/
def look? (w : Watch) (setting : WatchSetting) : Option Look :=
  match w.stage with
  | .reading _ cut => some (if cut then .timedOut setting.timeout.word else .answered (setting.read w.job))
  | _ => none

def wake (w : Watch) (setting : WatchSetting) (now : ℕ) : Watch :=
  match w.stage with
  | .resting _ => w.beginRead setting now
  | _ => w

def step (s : St) : Op → St
  | .act setting now =>
    { s with watch := s.watch.act setting now, looks := s.looks ++ (look? s.watch setting).toList }
  | .wake setting now => { s with watch := wake s.watch setting now }
  | .take =>
    match s.watch.take with
    | none => s
    | some (report, watch) => { s with watch, taken := s.taken ++ [report] }
  | .signal => { s with watch := s.watch.signal }
  | .abandon => { s with watch := s.watch.abandon }

def start (job : String) (policy : RunPolicy) (capacity : ℕ) (signalled : Bool) : St :=
  ⟨{ job, policy, capacity := max 1 capacity, signalled }, [], []⟩

def run (s : St) (ops : List Op) : St := ops.foldl step s

/-- A watch in a session takes such steps: what it does before a given time are acts. -/
theorem runFor_run (fuel : ℕ) (setting : WatchSetting) (limit now : ℕ) (s : St) :
    ∃ ops, (∀ o ∈ ops, ∃ time, o = .act setting time) ∧
      (run s ops).watch = Watch.runFor fuel setting limit now s.watch := by
  induction fuel generalizing s now with
  | zero => exact ⟨[], by simp, rfl⟩
  | succ fuel ih =>
    rw [Watch.runFor]
    split
    · exact ⟨[], by simp, rfl⟩
    · rename_i time _
      split_ifs
      · obtain ⟨ops, hacts, hrun⟩ := ih time (step s (.act setting time))
        refine ⟨.act setting time :: ops, ?_, hrun⟩
        rintro o (_ | ⟨_, ho⟩)
        · exact ⟨time, rfl⟩
        · exact hacts o ho
      · exact ⟨[], by simp, rfl⟩

theorem step_take_nil {s : St} (h : s.watch.buffer = []) : step s .take = s := by
  simp only [step, Watch.take, h]

theorem step_take_cons {s : St} {r : PhaseReport} {rest : List PhaseReport} (h : s.watch.buffer = r :: rest) :
    step s .take = { s with watch := { s.watch with buffer := rest }, taken := s.taken ++ [r] } := by
  simp only [step, Watch.take, h]

/-- A report that the reader takes only changes hands. -/
theorem delivered_take (s : St) : (step s .take).delivered = s.delivered := by
  cases hbuffer : s.watch.buffer with
  | nil => rw [step_take_nil hbuffer]
  | cons r rest =>
    rw [step_take_cons hbuffer, St.delivered, St.delivered, hbuffer]
    exact List.append_assoc _ [r] rest

/-- What has been sent is there to be taken. -/
theorem takes (s : St) : (run s (List.replicate s.watch.buffer.length .take)).taken = s.delivered := by
  generalize hbuffer : s.watch.buffer = buffer
  induction buffer generalizing s with
  | nil => rw [St.delivered, hbuffer, List.append_nil]; rfl
  | cons r rest ih =>
    have hrun := ih (step s .take) (by rw [step_take_cons hbuffer])
    rwa [delivered_take] at hrun

/-! ## Changes of phase -/

/-- the reports whose phase is not that of the report before -/
def changesFrom (before : Option Phase) : List PhaseReport → List PhaseReport
  | [] => []
  | r :: rest => (if before = some r.phase then [] else [r]) ++ changesFrom (some r.phase) rest

/-- the first report and every later one with a phase other than that of the report before -/
def changes (rs : List PhaseReport) : List PhaseReport := changesFrom none rs

def lastPhase (rs : List PhaseReport) : Option Phase := rs.getLast?.map (·.phase)

@[simp] theorem lastPhase_append_singleton (rs : List PhaseReport) (r : PhaseReport) :
    lastPhase (rs ++ [r]) = some r.phase := by simp [lastPhase]

theorem changesFrom_append_singleton (before : Option Phase) (rs : List PhaseReport) (r : PhaseReport) :
    changesFrom before (rs ++ [r]) =
      changesFrom before rs ++ if (lastPhase rs).or before = some r.phase then [] else [r] := by
  induction rs generalizing before with
  | nil => exact List.append_nil _
  | cons x rest ih =>
    have hlast : (lastPhase (x :: rest)).or before = (lastPhase rest).or (some x.phase) := by
      cases rest with
      | nil => rfl
      | cons y rest => simp [lastPhase, List.getLast?_eq_getLast_of_ne_nil]
    rw [List.cons_append, changesFrom, ih, changesFrom, hlast, List.append_assoc]

theorem changes_append_singleton (rs : List PhaseReport) (r : PhaseReport) :
    changes (rs ++ [r]) = changes rs ++ if lastPhase rs = some r.phase then [] else [r] := by
  rw [changes, changesFrom_append_singleton, Option.or_none, changes]

theorem mem_of_mem_changesFrom {before : Option Phase} {rs : List PhaseReport} {r : PhaseReport}
    (h : r ∈ changesFrom before rs) : r ∈ rs := by
  induction rs generalizing before with
  | nil => exact h
  | cons x rest ih =>
    rcases List.mem_append.1 h with h | h
    · split_ifs at h
      · cases h
      · rw [List.mem_singleton.1 h]
        exact List.mem_cons_self
    · exact List.mem_cons_of_mem x (ih h)

theorem isChain_cons_changesFrom {x : PhaseReport} {phase : Phase} (h : x.phase = phase) (rs : List PhaseReport) :
    (x :: changesFrom (some phase) rs).IsChain (·.phase ≠ ·.phase) := by
  induction rs generalizing x phase with
  | nil => exact .singleton x
  | cons r rest ih =>
    by_cases hr : phase = r.phase
    · rw [changesFrom, if_pos (congrArg some hr), List.nil_append]
      exact ih (h.trans hr)
    · rw [changesFrom, if_neg (mt Option.some.inj hr), List.singleton_append]
      exact .cons_cons (h ▸ hr) (ih rfl)

theorem isChain_changes (rs : List PhaseReport) : (changes rs).IsChain (·.phase ≠ ·.phase) := by
  cases rs with
  | nil => exact .nil
  | cons r rest => exact isChain_cons_changesFrom rfl rest

/-! ## The invariant -/

variable (job : String) (policy : RunPolicy)

/-- the reports of the looks, sent or not -/
def polls (looks : List Look) : List PhaseReport := looks.filterMap fun look => (look.report job policy).toOption

variable {job policy} {s : St}

theorem polls_concat {look : Look} {r : PhaseReport} (h : look.report job policy = .ok r) (looks : List Look) :
    polls job policy (looks ++ [look]) = polls job policy looks ++ [r] := by
  simp [polls, h, Except.toOption]

theorem polls_concat_error {look : Look} {e : CountOverflow} (h : look.report job policy = .error e)
    (looks : List Look) : polls job policy (looks ++ [look]) = polls job policy looks := by
  simp [polls, h, Except.toOption]

theorem mem_polls {looks : List Look} {r : PhaseReport} (h : r ∈ polls job policy looks) :
    ∃ look ∈ looks, look.report job policy = .ok r := by
  obtain ⟨look, hlook, hreport⟩ := List.mem_filterMap.1 h
  cases hr : look.report job policy with
  | error e => rw [hr] at hreport; cases hreport
  | ok r' =>
    rw [hr] at hreport
    cases hreport
    exact ⟨look, hlook, hr⟩

theorem changes_prefix_concat (rs : List PhaseReport) (r : PhaseReport) : changes rs <+: changes (rs ++ [r]) := by
  rw [changes_append_singleton]
  exact List.prefix_append _ _

variable (job policy)

/-- what holds at every stage -/
structure Base (s : St) : Prop where
  ofJob : s.watch.job = job
  byPolicy : s.watch.policy = policy
  room : 0 < s.watch.capacity
  fits : s.watch.buffer.length ≤ s.watch.capacity
  told : s.delivered <+: changes (polls job policy s.looks)
  gone : s.watch.abandoned = true → s.watch.buffer = []
  quiet : ∀ look ∈ s.looks.dropLast, look.Continues job policy

/-- the watch has neither a report to send nor an end -/
def underWay : WatchStage → Bool
  | .starting | .reading .. | .resting _ => true
  | .sending _ | .finished => false

structure Inv (s : St) : Prop extends Base job policy s where
  sent : s.watch.abandoned = false → s.delivered ++ s.pending = changes (polls job policy s.looks)
  last : underWay s.watch.stage = true → s.watch.last = lastPhase (polls job policy s.looks)
  going : underWay s.watch.stage = true → ∀ look ∈ s.looks, look.Continues job policy
  owed : ∀ r, s.watch.stage = .sending r → ∃ before look, s.looks = before ++ [look] ∧ look.report job policy = .ok r
  ended : s.watch.stage = .finished →
    s.watch.isStopped = true ∨ ∃ before look, s.looks = before ++ [look] ∧ ¬ look.Continues job policy

variable {job policy}

theorem inv_start (capacity : ℕ) (signalled : Bool) : Inv job policy (start job policy capacity signalled) where
  ofJob := rfl
  byPolicy := rfl
  room := Nat.lt_of_lt_of_le Nat.one_pos (Nat.le_max_left 1 capacity)
  fits := Nat.zero_le _
  told := List.nil_prefix
  gone := nofun
  quiet := fun _ h => absurd h List.not_mem_nil
  sent := fun _ => rfl
  last := fun _ => rfl
  going := fun _ _ h => absurd h List.not_mem_nil
  owed := nofun
  ended := nofun

theorem pending_of_underWay (h : underWay s.watch.stage = true) : s.pending = [] := by
  unfold St.pending
  split
  · rename_i hstage
    rw [hstage] at h
    cases h
  · rfl

theorem Inv.delivered_eq (h : Inv job policy s) (hs : underWay s.watch.stage = true)
    (ha : s.watch.abandoned = false) : s.delivered = changes (polls job policy s.looks) := by
  rw [← h.sent ha, pending_of_underWay hs, List.append_nil]

/-- a stage that only goes on from one under way to another -/
theorem Inv.goOn (h : Inv job policy s) (hs : underWay s.watch.stage = true) {stage : WatchStage}
    (ht : underWay stage = true) : Inv job policy { s with watch := { s.watch with stage } } :=
  { h.toBase with
    sent := fun ha => by
      rw [pending_of_underWay ht, List.append_nil]
      exact h.delivered_eq hs ha
    last := fun _ => h.last hs
    going := fun _ => h.going hs
    owed := fun r hr => by cases hr; cases ht
    ended := fun hr => by cases hr; cases ht }

/-- the watch ends for a reason -/
theorem Base.finish (h : Base job policy s)
    (hsent : s.watch.abandoned = false → s.delivered = changes (polls job policy s.looks))
    (hwhy : s.watch.isStopped = true ∨ ∃ before look, s.looks = before ++ [look] ∧ ¬ look.Continues job policy) :
    Inv job policy { s with watch := { s.watch with stage := .finished } } :=
  { h with
    sent := fun ha => (List.append_nil _).trans (hsent ha)
    last := nofun
    going := nofun
    owed := nofun
    ended := fun _ => hwhy }

/-- A report that is sent, or need not be, ends the watch if it is of a terminal phase. -/
theorem Base.settle (h : Base job policy s) {r : PhaseReport} {before : List Look} {look : Look}
    (hlooks : s.looks = before ++ [look]) (hlook : look.report job policy = .ok r)
    (hlast : s.watch.last = some r.phase)
    (hsent : s.watch.abandoned = false → s.delivered = changes (polls job policy s.looks)) (rest : ℕ) :
    Inv job policy { s with watch := s.watch.settle r.phase rest } := by
  unfold Watch.settle
  split_ifs with hr
  · exact h.finish hsent (.inr ⟨before, look, hlooks, Look.not_continues hlook hr⟩)
  · have hquiet : ∀ l ∈ before, l.Continues job policy := by simpa [hlooks] using h.quiet
    refine { h with
      sent := fun ha => (List.append_nil _).trans (hsent ha)
      last := ?_
      going := ?_
      owed := nofun
      ended := nofun }
    · intro _
      rw [hlooks, polls_concat hlook, lastPhase_append_singleton]
      exact hlast
    · intro _ l hl
      rw [hlooks] at hl
      rcases List.mem_append.1 hl with hl | hl
      · exact hquiet l hl
      · rw [List.mem_singleton.1 hl]
        exact ⟨r, hlook, by simpa using hr⟩

theorem Inv.send (h : Inv job policy s) {r : PhaseReport} (hstage : s.watch.stage = .sending r) (rest : ℕ) :
    Inv job policy { s with watch := s.watch.send r rest } := by
  have hpending : s.pending = [r] := by rw [St.pending, hstage]
  obtain ⟨before, look, hlooks, hlook⟩ := h.owed r hstage
  unfold Watch.send
  split_ifs with hgone hroom
  · exact h.toBase.finish (fun ha => absurd hgone (by rw [ha]; nofun)) (.inl (by simp [Watch.isStopped, hgone]))
  · have hsent : s.taken ++ (s.watch.buffer ++ [r]) = changes (polls job policy s.looks) := by
      rw [← h.sent (by simpa using hgone), hpending, St.delivered, List.append_assoc]
    have hbase : Base job policy
        { s with watch := { s.watch with last := some r.phase, buffer := s.watch.buffer ++ [r] } } :=
      { h.toBase with
        fits := by rw [List.length_append]; exact of_decide_eq_true hroom
        told := by rw [← hsent]; exact List.prefix_refl _
        gone := fun ha => absurd ha hgone }
    exact hbase.settle hlooks hlook rfl (fun _ => hsent) rest
  · -- there is no room yet, and the report stays the one that waits
    rw [← hstage]
    exact h

/-- A look that tells of a phase is a poll; its report is sent if it is a change. -/
theorem Inv.observe (h : Inv job policy s) (hs : underWay s.watch.stage = true) {look : Look} {r : PhaseReport}
    (hlook : look.report job policy = .ok r) (rest : ℕ) :
    Inv job policy { s with watch := s.watch.observe r rest, looks := s.looks ++ [look] } := by
  have hpolls := polls_concat hlook s.looks
  have hbase : Base job policy { s with looks := s.looks ++ [look] } :=
    { h.toBase with
      told := by rw [hpolls]; exact h.told.trans (changes_prefix_concat _ r)
      quiet := by simpa using h.going hs }
  -- while the watch is under way, the phase it sent last is that of the last poll
  have hchanges := changes_append_singleton (polls job policy s.looks) r
  rw [← h.last hs, ← hpolls] at hchanges
  unfold Watch.observe
  split_ifs with hsame
  · rw [if_pos hsame, List.append_nil] at hchanges
    exact hbase.settle rfl hlook hsame (fun ha => (h.delivered_eq hs ha).trans hchanges.symm) rest
  · rw [if_neg hsame] at hchanges
    have howes : Inv job policy
        { s with watch := { s.watch with stage := .sending r }, looks := s.looks ++ [look] } :=
      { hbase with
        sent := fun ha => by rw [hchanges, ← h.delivered_eq hs ha]; rfl
        last := nofun
        going := nofun
        owed := fun r' hr' => by cases hr'; exact ⟨s.looks, look, rfl, hlook⟩
        ended := nofun }
    exact howes.send rfl rest

/-- A look without a total ends the watch. -/
theorem Inv.overflow (h : Inv job policy s) (hs : underWay s.watch.stage = true) {look : Look} {e : CountOverflow}
    (hlook : look.report job policy = .error e) :
    Inv job policy { s with watch := { s.watch with stage := .finished }, looks := s.looks ++ [look] } := by
  have hpolls := polls_concat_error hlook s.looks
  have hbase : Base job policy { s with looks := s.looks ++ [look] } :=
    { h.toBase with
      told := by rw [hpolls]; exact h.told
      quiet := by simpa using h.going hs }
  have hstops : ¬ look.Continues job policy := by
    rintro ⟨r, hr, _⟩
    cases hlook.symm.trans hr
  refine hbase.finish (fun ha => ?_) (.inr ⟨s.looks, look, rfl, hstops⟩)
  rw [hpolls]
  exact h.delivered_eq hs ha

theorem Inv.finishRead (h : Inv job policy s) (hs : underWay s.watch.stage = true) (setting : WatchSetting)
    (cut : Bool) (rest : ℕ) :
    Inv job policy { s with
      watch := s.watch.finishRead setting cut rest
      looks := s.looks ++ [if cut then .timedOut setting.timeout.word else .answered (setting.read s.watch.job)] } := by
  unfold Watch.finishRead
  cases cut with
  | true => exact h.observe hs rfl rest
  | false =>
    have hlook : (Look.answered (setting.read s.watch.job)).report job policy =
        pollReport s.watch.job s.watch.policy (setting.read s.watch.job) := by
      rw [h.ofJob, h.byPolicy]
      rfl
    simp only [Bool.false_eq_true, if_false]
    split
    · rename_i r hr
      exact h.observe hs (hlook.trans hr) rest
    · rename_i e he
      exact h.overflow hs (hlook.trans he)

theorem Inv.act (h : Inv job policy s) (setting : WatchSetting) (now : ℕ) :
    Inv job policy (step s (.act setting now)) := by
  unfold step
  cases hstage : s.watch.stage with
  | starting =>
    simp only [look?, Watch.act, hstage, Option.toList_none, List.append_nil]
    exact h.goOn (by rw [hstage]; rfl) rfl
  | reading due cut =>
    have hs : underWay s.watch.stage = true := by rw [hstage]; rfl
    simp only [look?, Watch.act, hstage, Option.toList_some]
    exact h.finishRead hs setting cut _
  | sending r =>
    simp only [look?, Watch.act, hstage, Option.toList_none, List.append_nil]
    exact h.send hstage _
  | resting due =>
    have hs : underWay s.watch.stage = true := by rw [hstage]; rfl
    simp only [look?, Watch.act, hstage, Option.toList_none, List.append_nil]
    split_ifs with hstop
    · exact h.toBase.finish (h.delivered_eq hs) (.inl hstop)
    · exact h.goOn hs rfl
  | finished =>
    simp only [look?, Watch.act, hstage, Option.toList_none, List.append_nil]
    exact h

theorem Inv.wake (h : Inv job policy s) (setting : WatchSetting) (now : ℕ) :
    Inv job policy (step s (.wake setting now)) := by
  simp only [step, Reports.wake]
  split
  · rename_i due hstage
    exact h.goOn (by rw [hstage]; rfl) rfl
  · exact h

theorem step_inv (h : Inv job policy s) (o : Op) : Inv job policy (step s o) := by
  cases o with
  | act setting now => exact h.act setting now
  | wake setting now => exact h.wake setting now
  | take =>
    cases hbuffer : s.watch.buffer with
    | nil =>
      rw [step_take_nil hbuffer]
      exact h
    | cons r rest =>
      have hdelivered := delivered_take s
      have hfits := h.fits
      rw [step_take_cons hbuffer] at hdelivered ⊢
      rw [hbuffer] at hfits
      exact { h with
        fits := Nat.le_of_succ_le hfits
        told := hdelivered ▸ h.told
        gone := fun ha => by rw [h.gone ha] at hbuffer; cases hbuffer
        sent := fun ha => hdelivered ▸ h.sent ha }
  | signal => exact { h with ended := fun _ => .inl (by simp [Watch.signal, step, Watch.isStopped]) }
  | abandon =>
    have htold : s.taken ++ [] <+: changes (polls job policy s.looks) := by
      rw [List.append_nil]
      exact (List.prefix_append _ _).trans h.told
    exact { h with
      fits := Nat.zero_le _
      told := htold
      gone := fun _ => rfl
      sent := nofun
      ended := fun _ => .inl (by simp [Watch.abandon, step, Watch.isStopped]) }

theorem run_inv (h : Inv job policy s) (ops : List Op) : Inv job policy (run s ops) := by
  induction ops generalizing s with
  | nil => exact h
  | cons o ops ih => exact ih (step_inv h o)

/-! ## What the reader gets -/

/-- A report that waits is sent once the reader has taken one. -/
theorem Inv.sends (h : Inv job policy s) {r : PhaseReport} (hstage : s.watch.stage = .sending r)
    (ha : s.watch.abandoned = false) (setting : WatchSetting) (now : ℕ) :
    (run s [.take, .act setting now]).delivered = s.delivered ++ [r] := by
  have htake : (step s .take).watch.stage = .sending r ∧ (step s .take).watch.abandoned = false ∧
      (step s .take).watch.hasRoom = true := by
    cases hbuffer : s.watch.buffer with
    | nil =>
      rw [step_take_nil hbuffer]
      exact ⟨hstage, ha, by simpa [Watch.hasRoom, hbuffer] using h.room⟩
    | cons r' rest =>
      have hfits := h.fits
      rw [hbuffer] at hfits
      rw [step_take_cons hbuffer]
      exact ⟨hstage, ha, decide_eq_true hfits⟩
  obtain ⟨hstage', ha', hroom⟩ := htake
  have hrun : run s [.take, .act setting now] = step (step s .take) (.act setting now) := rfl
  rw [hrun, ← delivered_take s]
  generalize step s .take = t at hstage' ha' hroom
  simp only [step, Watch.act, hstage', Watch.send, ha', hroom, Watch.settle, St.delivered, Bool.false_eq_true,
    if_false, if_true, List.append_assoc]

theorem dropLast_isPrefix {α : Type} {l m : List α} (h : l <+: m) : l.dropLast <+: m.dropLast := by
  rw [List.dropLast_eq_take, List.dropLast_eq_take]
  exact (h.take _).trans (List.take_prefix_take_left (Nat.sub_le_sub_right h.length_le 1))

theorem polls_phase {looks : List Look} (h : ∀ look ∈ looks, look.Continues job policy) :
    ∀ r ∈ polls job policy looks, r.phase.isTerminal = false := by
  intro r hr
  obtain ⟨look, hlook, hreport⟩ := mem_polls hr
  obtain ⟨r', hr', hphase⟩ := h look hlook
  cases hreport.symm.trans hr'
  exact hphase

/-- Among changes only the last can be of a terminal phase. -/
theorem dropLast_changes {looks : List Look} (h : ∀ look ∈ looks.dropLast, look.Continues job policy) :
    ∀ r ∈ (changes (polls job policy looks)).dropLast, r.phase.isTerminal = false := by
  rcases List.eq_nil_or_concat looks with rfl | ⟨before, look, rfl⟩
  · nofun
  · rw [List.concat_eq_append, List.dropLast_concat] at h
    have hbefore : ∀ r ∈ changes (polls job policy before), r.phase.isTerminal = false :=
      fun r hr => polls_phase h r (mem_of_mem_changesFrom hr)
    rw [List.concat_eq_append]
    cases hlook : look.report job policy with
    | error e =>
      rw [polls_concat_error hlook]
      exact fun r hr => hbefore r (List.mem_of_mem_dropLast hr)
    | ok r =>
      rw [polls_concat hlook, changes_append_singleton]
      split_ifs
      · rw [List.append_nil]
        exact fun r hr => hbefore r (List.mem_of_mem_dropLast hr)
      · rw [List.dropLast_concat]
        exact hbefore

/-- **The reader gets the changes of phase.** On every run of a watch: as long as the reader stays, what has been sent,
with the report that waits for room, are the changes among all looks so far; what it got before it went away is a
beginning of them. Reports that follow each other differ in phase and only the last can be terminal. A look after which
nothing more is to come is the last one, and after it the watch has at most that report to send. A watch ends only when
it is told to or after a snapshot that ends the job or has no total; a terminal report is what a snapshot seen says, and
whatever else a look shows is an unknown phase. A report that waits is sent once the reader takes another, and all that
has been sent can be taken. -/
theorem reports_are_changes (job : String) (policy : RunPolicy) (capacity : ℕ) (signalled : Bool) (ops : List Op) :
    let s := run (start job policy capacity signalled) ops
    (s.watch.abandoned = false → s.delivered ++ s.pending = changes (polls job policy s.looks)) ∧
    s.delivered <+: changes (polls job policy s.looks) ∧
    s.delivered.IsChain (·.phase ≠ ·.phase) ∧
    (∀ r ∈ s.delivered.dropLast, r.phase.isTerminal = false) ∧
    (∀ look ∈ s.looks.dropLast, look.Continues job policy) ∧
    ((∀ look ∈ s.looks, look.Continues job policy) ∨ s.watch.stage = .finished ∨ ∃ r, s.watch.stage = .sending r) ∧
    (s.watch.stage = .finished → s.watch.isStopped = true ∨ ∃ before snapshot,
      s.looks = before ++ [.answered (.ok (some snapshot))] ∧
      ∀ r, snapshot.interpret policy = .ok r → r.phase.isTerminal = true) ∧
    (∀ r ∈ s.delivered, r.phase.isTerminal = true →
      ∃ snapshot, Look.answered (.ok (some snapshot)) ∈ s.looks ∧ snapshot.interpret policy = .ok r) ∧
    (∀ look ∈ s.looks, (∀ snapshot, look ≠ .answered (.ok (some snapshot))) →
      ∃ message, look.report job policy = .ok ⟨.unknown, message⟩) ∧
    (s.watch.abandoned = false → ∀ r, s.watch.stage = .sending r → ∀ setting now,
      (run s [.take, .act setting now]).delivered = s.delivered ++ [r]) ∧
    (run s (List.replicate s.watch.buffer.length .take)).taken = s.delivered := by
  intro s
  have h : Inv job policy s := run_inv (inv_start capacity signalled) ops
  refine ⟨h.sent, h.told, List.IsChain.prefix (isChain_changes _) h.told, ?_, h.quiet, ?_, ?_, ?_, ?_, ?_, takes s⟩
  · exact fun r hr => dropLast_changes h.quiet r ((dropLast_isPrefix h.told).mem hr)
  · cases hstage : s.watch.stage with
    | sending r => exact .inr (.inr ⟨r, rfl⟩)
    | finished => exact .inr (.inl rfl)
    | starting => exact .inl (h.going (by rw [hstage]; rfl))
    | reading => exact .inl (h.going (by rw [hstage]; rfl))
    | resting => exact .inl (h.going (by rw [hstage]; rfl))
  · intro hstage
    refine (h.ended hstage).imp_right ?_
    rintro ⟨before, look, hlooks, hlook⟩
    obtain ⟨snapshot, rfl, hends⟩ := Look.snapshot_of_not_continues hlook
    exact ⟨before, snapshot, hlooks, hends⟩
  · intro r hr ht
    obtain ⟨look, hlook, hreport⟩ := mem_polls (mem_of_mem_changesFrom (h.told.mem hr))
    obtain ⟨snapshot, rfl, hinterpret⟩ := Look.snapshot_of_terminal hreport ht
    exact ⟨snapshot, hlook, hinterpret⟩
  · exact fun look _ => look.report_unknown job policy
  · exact fun ha r hstage => h.sends hstage ha

end TrainingJobs.Reports
