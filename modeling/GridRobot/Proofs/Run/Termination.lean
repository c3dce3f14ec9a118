import GridRobot.Run.Host

/-!
A run between the advances of its host. `Meddling` is what a host may do in between, and `attend` advances
a run with a host that does any of it. None of it buys the run an instruction more than its budget.
-/
namespace GridRobot

open Instruction (bodyCost)

inductive Meddling
  | interactive (value : Json)
  | register (name value : Json)
  | cancel
  | begin (program : Body) (functions : FunctionTable) (speed interactive : Json)
  | setWorld (world : World)
  | observe (observer : Observer)
  | log (content : Json) (severity : Severity)

namespace Engine

def meddle (e : Engine) : Meddling → Engine
  | .interactive value => e.setInteractive value
  | .register name value => match e.world.registers.write name value with
    | .error _ => e
    | .ok registers => { e with world := { e.world with registers } }
  | .cancel => e.cancel
  | .begin program functions speed interactive => (e.begin program functions speed interactive).1
  | .setWorld world => match e.setWorld world with
    | .error _ => e
    | .ok next => next
  | .observe observer => e.observe observer
  | .log content severity => e.logAs (.message content) severity

/-- The engine after a number of advances, each of them after a visit of the host, until the run is over. -/
def attend (visits : Nat → List Meddling) (e : Engine) : Nat → Engine
  | 0 => e
  | n + 1 =>
    let reached := e.attend visits n
    if reached.isActive then ((visits n).foldl meddle reached).advance else reached

def answer (visits : Nat → List Meddling) (e : Engine) (n : Nat) : Except RunFault (Option Suspension) :=
  ((visits n).foldl meddle (e.attend visits n)).resume.2

variable {e next : Engine}

theorem entered_logAs (note : Note) (severity : Severity) (e : Engine) :
    (e.logAs note severity).entered = e.entered := by
  simp [entered, logAs, emit]

theorem entered_showWorld (e : Engine) : e.showWorld.entered = e.entered := by simp [showWorld, Engine.entered, emit]

theorem entered_showRegisters (e : Engine) : e.showRegisters.entered = e.entered := by
  simp [showRegisters, Engine.entered, emit]

theorem entered_finish (ending : Ending) (e : Engine) : (e.finish ending).entered = e.entered := by
  simp [finish, Engine.entered, emit]

def Counts (e next : Engine) : Prop := next.entered.length + e.executed = e.entered.length + next.executed

theorem Counts.trans {mid : Engine} (first : e.Counts mid) (second : mid.Counts next) : e.Counts next := by
  unfold Counts at first second ⊢
  omega

theorem Counts.of_same (entered : next.entered = e.entered) (executed : next.executed = e.executed) :
    e.Counts next := by
  unfold Counts
  rw [entered, executed]

theorem Deliberates.entered (quiet : e.Deliberates next) : next.entered = e.entered := by
  induction quiet with
  | start => rfl
  | log note _ ih => exact (entered_logAs _ _ _).trans ih
  | draw draws _ ih => exact ih

theorem Deliberates.counts (quiet : e.Deliberates next) :
    e.Counts next := .of_same quiet.entered quiet.terms.executed

theorem finish_counts (ending : Ending) (e : Engine) : e.Counts (e.finish ending) :=
  .of_same (entered_finish ending e) rfl

theorem stop_counts (halt : Halt) (e : Engine) : e.Counts (e.stop halt) :=
  (log_deliberates halt.note e).counts.trans (finish_counts _ _)

theorem abort_counts (e : Engine) : e.Counts e.abort := (log_deliberates _ e).counts.trans (finish_counts _ _)

theorem conclude_counts (e : Engine) : e.Counts e.conclude := by
  unfold conclude
  by_cases there : e.world.atGoal = true
  · rw [if_pos there]
    exact (log_deliberates _ e).counts.trans (finish_counts _ _)
  · rw [if_neg there]
    exact (log_deliberates _ e).counts.trans (finish_counts _ _)

theorem announce_counts (node : Instruction) (e : Engine) : e.Counts (e.announce node) := by
  have reported : e.Counts ({ e with executed := e.executed + 1 }.emit (.entered node)) := by
    simp [Counts, entered, emit]
    omega
  unfold announce
  dsimp only
  split
  · exact reported.trans (log_deliberates _ _).counts
  · exact reported

theorem enter_counts (node : Instruction) (frames : List Frame) (e : Engine) :
    e.Counts (e.enter node frames) := by
  rw [enter_eq]
  split
  · exact abort_counts e
  · split
    · exact (announce_counts node e).trans (stop_counts _ _)
    · exact announce_counts node e

theorem proceed_counts (e : Engine) (frames : List Frame) : e.Counts (e.proceed frames) := by
  rcases proceed_cases e frames with ⟨mid, quiet, ends | ⟨-, ends⟩ | ⟨halt, ends⟩ | ⟨node, after, ends⟩⟩
  · exact ends ▸ quiet.counts.trans (conclude_counts mid)
  · exact ends ▸ quiet.counts.trans (abort_counts mid)
  · exact ends ▸ quiet.counts.trans (stop_counts halt mid)
  · exact ends ▸ quiet.counts.trans (enter_counts node after mid)

theorem perform_counts {node : Instruction} {frames after : List Frame}
    (performed : e.perform node frames = .onward next after) : e.Counts next := by
  rcases perform_onward performed with quiet | ⟨world, note, rfl⟩ | ⟨registers, note, rfl⟩
  · exact quiet.counts
  · exact .of_same ((entered_showWorld _).trans (entered_logAs note note.severity _)) rfl
  · exact .of_same ((entered_showRegisters _).trans (entered_logAs note note.severity _)) rfl

theorem advance_counts (e : Engine) : e.Counts e.advance := by
  fun_cases advance e with
  | case1 frames phase => exact proceed_counts e frames
  | case2 suspension frames phase cancelled => exact abort_counts e
  | case3 suspension frames phase running next after performed =>
    exact (perform_counts performed).trans (proceed_counts next after)
  | case4 suspension frames phase running last performed =>
    rcases perform_ended performed with ⟨mid, halt, quiet, rfl⟩
    exact quiet.counts.trans (stop_counts halt mid)
  | case5 phase | case6 result phase => rfl

theorem enter_phase (node : Instruction) (frames : List Frame) (e : Engine) :
    (e.enter node frames).phase ≠ .idle := by
  rw [enter_eq]
  intro idle
  split at idle
  · cases idle
  · split at idle <;> cases idle

theorem proceed_phase (e : Engine) (frames : List Frame) : (e.proceed frames).phase ≠ .idle := by
  intro idle
  rcases proceed_cases e frames with ⟨mid, -, ends | ⟨-, ends⟩ | ⟨halt, ends⟩ | ⟨node, after, ends⟩⟩
  · rw [ends, conclude] at idle
    split at idle <;> cases idle
  · rw [ends] at idle
    cases idle
  · rw [ends] at idle
    cases idle
  · rw [ends] at idle
    exact enter_phase node after mid idle

theorem advance_begun (active : e.isActive = true) : e.advance.phase ≠ .idle := by
  fun_cases advance e with
  | case1 frames phase => exact proceed_phase e frames
  | case2 suspension frames phase cancelled =>
    intro idle
    cases idle
  | case3 suspension frames phase running next after performed => exact proceed_phase next after
  | case4 suspension frames phase running last performed =>
    rcases perform_ended performed with ⟨mid, halt, -, rfl⟩
    intro idle
    cases idle
  | case5 phase | case6 result phase => simp [isActive, phase] at active

theorem advance_completed (active : e.isActive = true) (finished : e.advance.isActive = false) :
    e.advance.state = .completed := by
  have begun := advance_begun active
  unfold isActive at finished
  unfold state
  cases phase : e.advance.phase with
  | idle => exact (begun phase).elim
  | active pending frames =>
    rw [phase] at finished
    cases finished
  | completed result => rfl

/-- What a host cannot change of a run under way. -/
structure SameRun (e next : Engine) : Prop where
  phase : next.phase = e.phase
  functions : next.functions = e.functions
  callLimit : next.callLimit = e.callLimit
  draws : next.draws = e.draws
  baseDelay : next.baseDelay = e.baseDelay
  speed : next.speed = e.speed
  executed : next.executed = e.executed
  entered : next.entered = e.entered

namespace SameRun

theorem trans {mid : Engine} (first : e.SameRun mid) (second : mid.SameRun next) : e.SameRun next where
  phase := second.phase.trans first.phase
  functions := second.functions.trans first.functions
  callLimit := second.callLimit.trans first.callLimit
  draws := second.draws.trans first.draws
  baseDelay := second.baseDelay.trans first.baseDelay
  speed := second.speed.trans first.speed
  executed := second.executed.trans first.executed
  entered := second.entered.trans first.entered

theorem isActive (same : e.SameRun next) : next.isActive = e.isActive := by
  unfold Engine.isActive
  rw [same.phase]

theorem budget (same : e.SameRun next) : next.budget = e.budget := by
  unfold Engine.budget Engine.stackCost Engine.nodeCost limit
  rw [same.phase, same.functions, same.callLimit]

end SameRun

theorem meddle_begin (active : e.isActive = true) {program : Body} {functions : FunctionTable}
    {speed interactive : Json} : e.meddle (.begin program functions speed interactive) = e.log .alreadyRunning := by
  simp [meddle, begin, active]

theorem meddle_setWorld (active : e.isActive = true) (world : World) : e.meddle (.setWorld world) = e := by
  simp [meddle, setWorld, active]

def begins (e : Engine) : Meddling → Bool
  | .begin program functions speed interactive => (e.begin program functions speed interactive).2.isOk
  | _ => false

theorem begins_of_active (active : e.isActive = true) (meddling : Meddling) : e.begins meddling = false := by
  cases meddling with
  | begin program functions speed interactive =>
    simp [begins, begin, active]
    rfl
  | _ => rfl

theorem begin_of_declined {program : Body} {functions : FunctionTable} {speed interactive : Json}
    (declined : (e.begin program functions speed interactive).2.isOk = false) :
    (e.begin program functions speed interactive).1 = e ∨
      (e.begin program functions speed interactive).1 = e.log .alreadyRunning := by
  revert declined
  unfold begin
  split
  · intro _
    exact .inr rfl
  · split
    · intro _
      exact .inl rfl
    · intro _
      exact .inl rfl
    · intro impossible
      cases impossible

theorem run_of_begun {program : Body} {functions : FunctionTable} {speed interactive : Json}
    {actions : Option (List HostAction)} (asked : (interactive.isTruthy && actions.isNone) = false)
    (begun : e.begin program functions speed interactive = (next, .ok ())) :
    e.run program functions speed interactive actions = match next.driveFrom (actions.getD []) [] with
      | (some error, _, last) => (last, .error error)
      | (none, seen, last) => match last.fault? with
        | some fault => (last, .error (.fault fault))
        | none => (last, .ok (seen, last.result?)) := by
  unfold run
  rw [asked, begun]
  rfl

theorem meddle_declined {meddling : Meddling} (declined : e.begins meddling = false) :
    e.SameRun (e.meddle meddling) := by
  cases meddling with
  | interactive value => exact ⟨rfl, rfl, rfl, rfl, rfl, rfl, rfl, rfl⟩
  | register name value =>
    unfold meddle
    dsimp only
    split
    · exact ⟨rfl, rfl, rfl, rfl, rfl, rfl, rfl, rfl⟩
    · exact ⟨rfl, rfl, rfl, rfl, rfl, rfl, rfl, rfl⟩
  | cancel => exact ⟨rfl, rfl, rfl, rfl, rfl, rfl, rfl, rfl⟩
  | begin program functions speed interactive =>
    rcases begin_of_declined declined with same | noted
    · rw [meddle, same]
      exact ⟨rfl, rfl, rfl, rfl, rfl, rfl, rfl, rfl⟩
    · rw [meddle, noted]
      exact ⟨rfl, rfl, rfl, rfl, rfl, rfl, rfl, entered_logAs _ _ e⟩
  | setWorld world =>
    by_cases active : e.isActive = true
    · rw [meddle_setWorld active]
      exact ⟨rfl, rfl, rfl, rfl, rfl, rfl, rfl, rfl⟩
    · have placed : e.meddle (.setWorld world) = { e with world } := by simp [meddle, setWorld, active]
      rw [placed]
      exact ⟨rfl, rfl, rfl, rfl, rfl, rfl, rfl, rfl⟩
  | observe observer => exact ⟨rfl, rfl, rfl, rfl, rfl, rfl, rfl, rfl⟩
  | log content severity => exact ⟨rfl, rfl, rfl, rfl, rfl, rfl, rfl, entered_logAs _ _ e⟩

theorem meddle_sameRun (active : e.isActive = true) (meddling : Meddling) : e.SameRun (e.meddle meddling) :=
  meddle_declined (begins_of_active active meddling)

theorem visit_keeps {P : Engine → Prop} {visit : List Meddling} (active : e.isActive = true)
    (kept : ∀ {e : Engine}, ∀ m ∈ visit, e.isActive = true → P e → P (e.meddle m)) (start : P e) :
    P (visit.foldl meddle e) := by
  induction visit generalizing e with
  | nil => exact start
  | cons meddling rest ih =>
    have still : (e.meddle meddling).isActive = true := (meddle_sameRun active meddling).isActive.trans active
    exact ih still (fun m member => kept m (List.mem_cons_of_mem _ member)) (kept meddling List.mem_cons_self active start)

theorem visit_sameRun (visit : List Meddling) (active : e.isActive = true) :
    e.SameRun (visit.foldl meddle e) := by
  apply visit_keeps active
  · intro reached m _ still same
    exact same.trans (meddle_sameRun still m)
  · exact ⟨rfl, rfl, rfl, rfl, rfl, rfl, rfl, rfl⟩

/-- How far a run has come after so many advances: within the bound, with a report for every instruction it
counts, and one instruction for every advance while it lasts. -/
structure IsWithin (bound reported advances : Nat) (e : Engine) : Prop where
  spent : e.executed + e.budget ≤ bound
  reported : e.entered.length = reported + e.executed
  paced : e.isActive = true → e.executed = advances

variable (visits : Nat → List Meddling)

theorem attend_succ_of_active {n : Nat} (active : (e.attend visits n).isActive = true) :
    e.attend visits (n + 1) = ((visits n).foldl meddle (e.attend visits n)).advance := by
  rw [attend, if_pos active]

theorem attend_succ_of_over {n : Nat} (finished : (e.attend visits n).isActive = false) :
    e.attend visits (n + 1) = e.attend visits n := by
  rw [attend, finished]
  rfl

/-- What each visit and the advance after it keep, a run keeps while its host attends to it. -/
theorem attend_induction {P : Engine → Prop} (start : P e)
    (step : ∀ n, (e.attend visits n).isActive = true → P (e.attend visits n) →
      P ((visits n).foldl meddle (e.attend visits n)).advance) (n : Nat) : P (e.attend visits n) := by
  induction n with
  | zero => exact start
  | succ n ih =>
    cases active : (e.attend visits n).isActive with
    | true =>
      rw [attend_succ_of_active visits active]
      exact step n active ih
    | false =>
      rw [attend_succ_of_over visits active]
      exact ih

theorem attend_keeps {P : Engine → Prop} (visited : ∀ {e next : Engine}, e.SameRun next → P e → P next)
    (advances : ∀ e, P e → P e.advance) (start : P e) (n : Nat) : P (e.attend visits n) :=
  attend_induction visits start (fun n active holds => advances _ (visited (visit_sameRun (visits n) active) holds)) n

theorem attend_isWithin {bound reported : Nat} (first : e.IsWithin bound reported 0) (n : Nat) :
    (e.attend visits n).IsWithin bound reported n := by
  -- By the number of advances; a visit changes nothing that the bound is about, an advance pays for itself.
  induction n with
  | zero => exact first
  | succ n ih =>
    cases active : (e.attend visits n).isActive with
    | false =>
      rw [attend_succ_of_over visits active]
      refine ⟨ih.spent, ih.reported, ?_⟩
      intro impossible
      rw [active] at impossible
      cases impossible
    | true =>
      rw [attend_succ_of_active visits active]
      have same := visit_sameRun (visits n) active
      have spends := ((visits n).foldl meddle (e.attend visits n)).advance_spends
      have counts := ((visits n).foldl meddle (e.attend visits n)).advance_counts
      rw [same.executed, same.budget] at spends
      unfold Counts at counts
      rw [same.executed, same.entered, ih.reported] at counts
      constructor
      · exact Nat.le_trans spends.1 ih.spent
      · omega
      · intro still
        rw [(spends.2 still).2, ih.paced active]

theorem exists_last (active : e.isActive = true) {n : Nat} (finished : (e.attend visits n).isActive = false) :
    ∃ last < n, (e.attend visits last).isActive = true ∧ (e.attend visits (last + 1)).isActive = false := by
  induction n with
  | zero =>
    rw [attend, active] at finished
    cases finished
  | succ n ih =>
    -- Either the run was still going on one advance earlier, or it was over by then.
    cases before : (e.attend visits n).isActive with
    | true => exact ⟨n, Nat.lt_succ_self n, before, finished⟩
    | false =>
      rcases ih before with ⟨last, less, found⟩
      exact ⟨last, Nat.lt_succ_of_lt less, found⟩

theorem attend_active_of_le {m n : Nat} (le : m ≤ n) (active : (e.attend visits n).isActive = true) :
    (e.attend visits m).isActive = true := by
  induction le with
  | refl => exact active
  | step _ ih =>
    -- A run that is over stays over.
    apply ih
    cases before : (e.attend visits _).isActive with
    | true => rfl
    | false =>
      rw [attend_succ_of_over visits before, before] at active
      cases active

theorem attend_of_over {m n : Nat} (le : m ≤ n) (finished : (e.attend visits m).isActive = false) :
    e.attend visits n = e.attend visits m := by
  induction le with
  | refl => rfl
  | step _ ih =>
    rw [attend_succ_of_over visits, ih]
    rw [ih]
    exact finished

theorem result?_of_active (active : e.isActive = true) : e.result? = none := by
  unfold isActive at active
  unfold result?
  cases phase : e.phase with
  | idle | completed result => simp [phase] at active
  | active pending frames => rfl

theorem fault?_of_active (active : e.isActive = true) : e.fault? = none := by
  unfold isActive at active
  unfold fault?
  split at active
  · rename_i phase
    simp [phase]
  · cases active

theorem answer_pending {n : Nat} (active : (e.attend visits (n + 1)).isActive = true) :
    ∃ s, (e.attend visits (n + 1)).pending? = some s ∧ e.answer visits n = .ok (some s) := by
  have before := attend_active_of_le visits (Nat.le_succ n) active
  have visited := (visit_sameRun (visits n) before).isActive.trans before
  rw [attend_succ_of_active visits before] at active ⊢
  have pending := (((visits n).foldl meddle (e.attend visits n)).advance_spends.2 active).1
  rcases Option.isSome_iff_exists.mp pending with ⟨suspension, found⟩
  refine ⟨suspension, found, ?_⟩
  unfold answer resume
  rw [if_pos visited]
  simp only [fault?_of_active active, found]

theorem answer_of_active {n : Nat} (active : (e.attend visits (n + 1)).isActive = true) :
    ∃ suspension, e.answer visits n = .ok (some suspension) :=
  (answer_pending visits active).imp fun _ found => found.2

theorem answer_at_end {n : Nat} (active : (e.attend visits n).isActive = true)
    (finished : (e.attend visits (n + 1)).isActive = false) :
    e.answer visits n = match (e.attend visits (n + 1)).fault? with
      | some fault => .error fault
      | none => .ok none := by
  have visited := (visit_sameRun (visits n) active).isActive.trans active
  rw [attend_succ_of_active visits active] at finished ⊢
  have nothing := pending?_of_over finished
  unfold answer resume
  rw [if_pos visited]
  cases broken : ((visits n).foldl meddle (e.attend visits n)).advance.fault? with
  | some fault => simp only [broken]
  | none => simp only [broken, nothing]

theorem answer_of_over {n : Nat} (active : (e.attend visits n).isActive = true)
    (finished : (e.attend visits (n + 1)).isActive = false) :
    e.answer visits n = .ok none ∨ ∃ fault, e.answer visits n = .error fault := by
  rw [answer_at_end visits active finished]
  split
  · exact .inr ⟨_, rfl⟩
  · exact .inl rfl

/-- The suspensions of a run among the visits of its host, in so many advances. -/
def stopsAmong (visits : Nat → List Meddling) (e : Engine) (n : Nat) : List Suspension :=
  (List.range n).filterMap fun m => (e.attend visits (m + 1)).pending?

theorem stopsAmong_succ (e : Engine) (n : Nat) :
    e.stopsAmong visits (n + 1) = e.stopsAmong visits n ++ (e.attend visits (n + 1)).pending?.toList := by
  simp only [stopsAmong, List.range_succ, List.filterMap_append]
  cases found : (e.attend visits (n + 1)).pending? with
  | none => simp [found]
  | some s => simp [found]

theorem stopsAmong_of_over {m n : Nat} (le : m ≤ n)
    (finished : (e.attend visits m).isActive = false) : e.stopsAmong visits n = e.stopsAmong visits m := by
  induction le with
  | refl => rfl
  | @step n le ih =>
    have halts : (e.attend visits (n + 1)).pending? = none := by
      rw [attend_of_over visits (Nat.le_succ_of_le le) finished]
      exact pending?_of_over finished
    rw [stopsAmong_succ, ih, halts]
    exact List.append_nil _

theorem stopsAmong_of_active {n : Nat} (active : (e.attend visits n).isActive = true) :
    (e.stopsAmong visits n).length = n ∧
      ∀ k < n, ∃ s, (e.stopsAmong visits n)[k]? = some s ∧ e.answer visits k = .ok (some s) := by
  induction n with
  | zero => exact ⟨rfl, fun k less => absurd less (Nat.not_lt_zero k)⟩
  | succ n ih =>
    obtain ⟨length, earlier⟩ := ih (attend_active_of_le visits (Nat.le_succ n) active)
    obtain ⟨s, pending, answered⟩ := answer_pending visits active
    have more : e.stopsAmong visits (n + 1) = e.stopsAmong visits n ++ [s] := by
      rw [stopsAmong_succ, pending, Option.toList_some]
    rw [more]
    refine ⟨by rw [List.length_append, length, List.length_singleton], fun k less => ?_⟩
    rcases Nat.lt_succ_iff_lt_or_eq.mp less with before | rfl
    · rw [List.getElem?_append_left (by omega)]
      exact earlier k before
    · refine ⟨s, ?_, answered⟩
      rw [List.getElem?_append_right (by omega), length, Nat.sub_self]
      rfl

theorem stopsAmong_last {last n : Nat} (less : last < n) (after : (e.attend visits (last + 1)).isActive = false) :
    e.stopsAmong visits n = e.stopsAmong visits last := by
  rw [stopsAmong_of_over visits less after, stopsAmong_succ, pending?_of_over after, Option.toList_none, List.append_nil]

theorem stopsAmong_getElem? (active : e.isActive = true) {n : Nat} (finished : (e.attend visits n).isActive = false)
    (k : Nat) (s : Suspension) : (e.stopsAmong visits n)[k]? = some s ↔
      (e.attend visits k).isActive = true ∧ e.answer visits k = .ok (some s) := by
  obtain ⟨last, less, before, after⟩ := exists_last visits active finished
  obtain ⟨length, answered⟩ := stopsAmong_of_active visits before
  rw [stopsAmong_last visits less after]
  constructor
  · intro found
    have inside : k < last := length ▸ (List.getElem?_eq_some_iff.mp found).1
    obtain ⟨s', found', answer⟩ := answered k inside
    rw [found] at found'
    cases found'
    exact ⟨attend_active_of_le visits (Nat.le_of_lt inside) before, answer⟩
  · rintro ⟨still, answer⟩
    -- Each advance before the last is answered by a suspension, and none is from there on.
    rcases Nat.lt_trichotomy k last with inside | rfl | outside
    · obtain ⟨s', found', answer'⟩ := answered k inside
      rw [answer] at answer'
      cases answer'
      exact found'
    · rcases answer_of_over visits before after with nothing | ⟨fault, broken⟩
      · rw [answer] at nothing
        cases nothing
      · rw [answer] at broken
        cases broken
    · rw [attend_of_over visits outside after, after] at still
      cases still

theorem IsWithin.over {bound reported : Nat} (first : e.IsWithin bound reported 0) :
    (e.attend visits (bound + 1)).isActive = false := by
  have within := attend_isWithin visits first (bound + 1)
  cases still : (e.attend visits (bound + 1)).isActive with
  | false => rfl
  | true =>
    have passed := within.paced still
    have spent := within.spent
    omega

theorem IsWithin.completed {bound reported : Nat} (first : e.IsWithin bound reported 0) (active : e.isActive = true) :
    (e.attend visits (bound + 1)).state = .completed := by
  rcases exists_last visits active (first.over visits) with ⟨last, less, before, after⟩
  have visited := (visit_sameRun (visits last) before).isActive.trans before
  rw [attend_of_over visits less after]
  rw [attend_succ_of_active visits before] at after ⊢
  exact advance_completed visited after

theorem armed_isWithin (program : Body) (functions : FunctionTable) (speed interactive : Json) (e : Engine) :
    (e.armed program functions speed interactive).IsWithin (bodyCost (functions.callCost e.callLimit.depth) program)
      (e.armed program functions speed interactive).entered.length 0 where
  spent := by
    show 0 + (bodyCost (functions.callCost e.callLimit.depth) program + 0) ≤ _
    omega
  reported := rfl
  paced := fun _ => rfl

/-- A run that is begun enters no more instructions than its program text allows, however the host meddles
with it between two advances: there is a last advance, after at most so many that suspend. -/
theorem attend_completes {first : Engine} {program : Body} {functions : FunctionTable}
    {speed interactive : Json}
    (begun : e.begin program functions speed interactive = (first, .ok ())) :
    let bound := bodyCost (functions.callCost e.callLimit.depth) program
    (∀ n, (first.attend visits n).executed ≤ bound ∧
      (first.attend visits n).entered.length = first.entered.length + (first.attend visits n).executed) ∧
    ∃ last ≤ bound,
      (∀ n < last, ∃ suspension, first.answer visits n = .ok (some suspension)) ∧
      (first.answer visits last = .ok none ∨ ∃ fault, first.answer visits last = .error fault) ∧
      (first.attend visits (last + 1)).state = .completed := by
  intro bound
  rcases armed_of_begin begun with rfl
  have within := attend_isWithin visits (armed_isWithin program functions speed interactive e)
  constructor
  · intro n
    exact ⟨Nat.le_trans (Nat.le_add_right _ _) (within n).spent, (within n).reported⟩
  · have active : (e.armed program functions speed interactive).isActive = true := rfl
    -- While a run lasts, it has entered as many instructions as it was advanced; so it does not last beyond the bound.
    have lasting {n : Nat} (still : ((e.armed program functions speed interactive).attend visits n).isActive = true) :
        n ≤ bound := by
      rw [← (within n).paced still]
      exact Nat.le_trans (Nat.le_add_right _ _) (within n).spent
    have finished : ((e.armed program functions speed interactive).attend visits (bound + 1)).isActive = false := by
      cases still : ((e.armed program functions speed interactive).attend visits (bound + 1)).isActive with
      | false => rfl
      | true =>
        have impossible := lasting still
        omega
    -- The answers before the last advance suspend, since the run goes on after them.
    rcases exists_last visits active finished with ⟨last, -, before, after⟩
    refine ⟨last, lasting before, ?_, answer_of_over visits before after, ?_⟩
    · intro n less
      exact answer_of_active visits (attend_active_of_le visits less before)
    · rw [attend_succ_of_active visits before] at after ⊢
      exact advance_completed ((visit_sameRun (visits last) before).isActive.trans before) after

/-- Two functions that call each other from an endless loop, with a host that keeps the loop going and asks for
another run on every visit. -/
theorem attend_completes_mutual :
    let e : Engine :=
      { world := .ofBoard { size := 3, start := ⟨⟨0, 0⟩, .right, false⟩, goal := ⟨2, 0⟩, obstacles := [] }
        draws := .ofList [], observers := [.console "Run" true], baseDelay := .int 0, callLimit := .ofInt 3 }
    let functions : FunctionTable :=
      [(.str "f", [.turnLeft, .call (.str "g")]), (.str "g", [.repeatTimes (.int 2) [.call (.str "f")], .move])]
    let program : Body := [.whileDo (.compare .r1 .equals (.int 0)) [.call (.str "f"), .decrement .r1]]
    let visits (n : Nat) : List Meddling :=
      [.register (.str "R1") (.int 0), .interactive (.bool (n % 2 == 0)), .begin [] [] (.int 1) (.bool false)]
    let first := e.armed program functions (.int 5) (.bool true)
    bodyCost (functions.callCost e.callLimit.depth) program = 1201 ∧
      ∃ last ≤ bodyCost (functions.callCost e.callLimit.depth) program,
        (∀ n < last, ∃ suspension, first.answer visits n = .ok (some suspension)) ∧
        (first.answer visits last = .ok none ∨ ∃ fault, first.answer visits last = .error fault) ∧
        (first.attend visits (last + 1)).state = .completed := by
  intro e functions program visits first
  have positive : Relation.greater.check (.int 5) (.int 0) = .ok true := rfl
  have begun := begin_eq_armed (e := e) program functions (.bool true) rfl positive
  exact ⟨by decide +kernel, (attend_completes visits begun).2⟩

end Engine

end GridRobot
