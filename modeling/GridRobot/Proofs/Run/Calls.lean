import GridRobot.Proofs.Run.Termination

/-!
An engine among the calls of its host. A `HostCall` is whatever a host may call, and the calls come in any order: an
`advance` that breaks a run, a request for a run that is turned down, a whole run whose host gives up at a suspension.
`IsStaged` is what every call keeps.
-/
namespace GridRobot

inductive HostCall
  | advance
  | meddle (meddling : Meddling)
  | run (program : Body) (functions : FunctionTable) (speed interactive : Json) (actions : Option (List HostAction))

namespace Engine

def undergo (e : Engine) : HostCall → Engine
  | .advance => e.resume.1
  | .meddle meddling => e.meddle meddling
  | .run program functions speed interactive actions => (e.run program functions speed interactive actions).1

def undergoAll (calls : List HostCall) (e : Engine) : Engine := calls.foldl undergo e

def accepts (e : Engine) : HostCall → Bool
  | .advance => false
  | .meddle meddling => e.begins meddling
  | .run program functions speed interactive actions =>
    !(interactive.isTruthy && actions.isNone) && e.begins (.begin program functions speed interactive)

/-- How many instructions had been entered when a run was last begun among some calls, if `count` had been when one
was last begun before them. -/
def enteredBefore (count : Nat) (e : Engine) : List HostCall → Nat
  | [] => count
  | call :: rest => (e.undergo call).enteredBefore (if e.accepts call then e.entered.length else count) rest

def left? (e : Engine) : Option (List Frame) :=
  match e.phase with
  | .active _ frames => some frames
  | _ => none

def callDepth (e : Engine) : Nat := (e.left?.map Frame.callDepth).getD 0

variable {e next first : Engine} {limit : CallLimit} {before : Nat}

theorem resume_engine (e : Engine) : e.resume.1 = e.advance := by
  unfold resume
  by_cases active : e.isActive = true
  · rw [if_pos active]
    dsimp only
    split
    · rfl
    · rfl
  · rw [if_neg active, advance_of_over (by simpa using active)]

theorem resume_of_over (finished : e.isActive = false) : e.resume = (e, .ok none) := by
  unfold resume
  rw [finished]
  rfl

theorem resume_of_pending {s : Suspension} (pending : e.advance.pending? = some s) : e.resume.2 = .ok (some s) := by
  have active : e.isActive = true := by
    cases active : e.isActive with
    | true => rfl
    | false =>
      rw [advance_of_over active, pending?_of_over active] at pending
      cases pending
  have sound : e.advance.fault? = none := fault?_of_active (isActive_of_pending pending)
  rw [resume, if_pos active]
  dsimp only
  rw [sound, pending]

theorem resume_of_ended (active : e.isActive = true) (ended : e.advance.pending? = none) :
    e.resume.2 = (match e.advance.fault? with
      | some fault => .error fault
      | none => .ok none) := by
  rw [resume, if_pos active]
  dsimp only
  cases broken : e.advance.fault? with
  | some fault => rfl
  | none => rw [ended]

theorem callDepth_of_phase {pending : Option Suspension} {frames : List Frame}
    (phase : e.phase = .active pending frames) : e.callDepth = Frame.callDepth frames := by
  unfold callDepth left?
  rw [phase]
  rfl

theorem callDepth_of_over (finished : e.isActive = false) : e.callDepth = 0 := by
  unfold isActive at finished
  unfold callDepth left?
  cases phase : e.phase with
  | idle | completed result => rfl
  | active pending frames =>
    rw [phase] at finished
    cases finished

/-- The engine was left as it is by a run that its limit allows, at the last instruction that it counts. -/
structure IsPlaced (limit : CallLimit) (e : Engine) : Prop where
  sameLimit : e.callLimit = limit
  index : ∀ s, e.pending? = some s → s.index = e.executed
  depth : e.callDepth ≤ limit.depth

theorem IsPlaced.of_over (same : e.callLimit = limit) (finished : e.isActive = false) : e.IsPlaced limit := by
  constructor
  · exact same
  · intro s pending
    rw [pending?_of_over finished] at pending
    cases pending
  · rw [callDepth_of_over finished]
    exact Nat.zero_le _

theorem IsPlaced.of_sameRun (placed : e.IsPlaced limit) (same : e.SameRun next) : next.IsPlaced limit := by
  constructor
  · exact same.callLimit.trans placed.sameLimit
  · intro s pending
    rw [same.executed]
    apply placed.index s
    unfold pending? at pending ⊢
    rwa [same.phase] at pending
  · have depth : next.callDepth = e.callDepth := by
      unfold callDepth left?
      rw [same.phase]
    rw [depth]
    exact placed.depth

structure Carries (limit : CallLimit) (frames : List Frame) (e : Engine) : Prop where
  sameLimit : e.callLimit = limit
  depth : Frame.callDepth frames ≤ limit.depth

namespace Carries

variable {frames after : List Frame}

theorem onward (carries : e.Carries limit frames) (same : e.SameTerms next)
    (fewer : Frame.callDepth after ≤ Frame.callDepth frames) : next.Carries limit after where
  sameLimit := same.callLimit.trans carries.sameLimit
  depth := Nat.le_trans fewer carries.depth

theorem stop (carries : e.Carries limit frames) (halt : Halt) : (e.stop halt).IsPlaced limit :=
  .of_over carries.sameLimit rfl

theorem abort (carries : e.Carries limit frames) : e.abort.IsPlaced limit := .of_over carries.sameLimit rfl

theorem conclude (carries : e.Carries limit frames) : e.conclude.IsPlaced limit := by
  unfold Engine.conclude
  by_cases there : e.world.atGoal = true
  · rw [if_pos there]
    exact .of_over carries.sameLimit rfl
  · rw [if_neg there]
    exact .of_over carries.sameLimit rfl

theorem enter (carries : e.Carries limit frames) (node : Instruction) : (e.enter node frames).IsPlaced limit := by
  have same : (e.announce node).callLimit = limit := (announce_terms node e).callLimit.trans carries.sameLimit
  rw [enter_eq]
  split
  · exact carries.abort
  · split
    · exact .of_over same rfl
    · constructor
      · exact same
      · rintro s ⟨⟩
        rfl
      · exact carries.depth

theorem proceed (carries : e.Carries limit frames) : (e.proceed frames).IsPlaced limit := by
  fun_induction Engine.proceed e frames with
  | case1 e => exact carries.conclude
  | case2 e outer ih => exact ih (carries.onward (.refl e) (Nat.le_refl _))
  | case3 e node rest outer =>
    have left : e.Carries limit (.block rest :: outer) := carries.onward (.refl e) (Nat.le_refl _)
    exact left.enter node
  | case4 e name outer ih =>
    have returns : Frame.callDepth outer ≤ Frame.callDepth (.calling name :: outer) :=
      List.Sublist.countP_le (List.sublist_cons_self _ _)
    exact ih (carries.onward (log_deliberates _ e).terms returns)
  | case5 e loop done body outer more cancelled => exact carries.abort
  | case6 e loop done body outer more running ih =>
    exact ih (carries.onward (log_deliberates _ e).terms (Nat.le_refl _))
  | case7 e loop done body outer finished ih => exact ih (carries.onward (.refl e) (Nat.le_refl _))
  | case8 e condition body done outer cancelled => exact carries.abort
  | case9 e condition body done outer running next fault tested =>
    exact (carries.onward (deliberates_of_test tested).terms (Nat.le_refl _)).stop _
  | case10 e condition body done outer running next more tested ih =>
    exact ih (carries.onward ((deliberates_of_test tested).log _).terms (Nat.le_refl _))
  | case11 e condition body done outer running next value tested more low ih =>
    exact ih (carries.onward (deliberates_of_test tested).terms (Nat.le_refl _))
  | case12 e condition body done outer running next value tested spent =>
    exact (carries.onward (deliberates_of_test tested).terms (Nat.le_refl _)).stop _

theorem perform (carries : e.Carries limit frames) {node : Instruction}
    (performed : e.perform node frames = .onward next after) : next.Carries limit after := by
  have same := perform_terms performed
  revert performed same
  fun_cases Engine.perform node frames e with rintro ⟨⟩ same
  | case13 condition body next value tested =>
    cases value with
    | true => exact carries.onward same (Nat.le_refl _)
    | false => exact carries.onward same (Nat.le_refl _)
  | case20 name body found room =>
    constructor
    · exact same.callLimit.trans carries.sameLimit
    · have one : Frame.callDepth (.block body :: .calling name :: frames) = Frame.callDepth frames + 1 := by
        simp [Frame.callDepth, List.countP_cons, Frame.isCall]
      rw [carries.sameLimit] at room
      rw [one]
      exact Nat.not_le.mp room
  | _ => exact carries.onward same (Nat.le_refl _)

end Carries

theorem IsPlaced.carries (placed : e.IsPlaced limit) {pending : Option Suspension} {frames : List Frame}
    (phase : e.phase = .active pending frames) : e.Carries limit frames where
  sameLimit := placed.sameLimit
  depth := callDepth_of_phase phase ▸ placed.depth

theorem IsPlaced.advance (placed : e.IsPlaced limit) : e.advance.IsPlaced limit := by
  fun_cases Engine.advance e with
  | case1 frames phase => exact (placed.carries phase).proceed
  | case2 suspension frames phase cancelled => exact (placed.carries phase).abort
  | case3 suspension frames phase running next after performed =>
    exact ((placed.carries phase).perform performed).proceed
  | case4 suspension frames phase running last performed =>
    rcases perform_ended performed with ⟨mid, halt, quiet, rfl⟩
    exact .of_over (quiet.terms.callLimit.trans placed.sameLimit) rfl
  | case5 phase | case6 result phase => exact placed

theorem attend_isPlaced (placed : e.IsPlaced limit) (visits : Nat → List Meddling) (n : Nat) :
    (e.attend visits n).IsPlaced limit :=
  attend_keeps visits (fun same placed => placed.of_sameRun same) (fun _ placed => placed.advance) placed n

theorem begin_isPlaced (limited : e.callLimit = limit) {program : Body} {functions : FunctionTable}
    {speed interactive : Json} (begun : e.begin program functions speed interactive = (next, .ok ())) :
    next.IsPlaced limit := by
  rcases armed_of_begin begun with rfl
  constructor
  · exact limited
  · rintro s ⟨⟩
  · exact Nat.zero_le _

/-- The engine was left as it is, and it counts what was entered since a run was last begun, when `before` had been. -/
structure IsStaged (limit : CallLimit) (before : Nat) (e : Engine) : Prop extends e.IsPlaced limit where
  counted : before + e.executed = e.entered.length

namespace IsStaged

theorem of_sameRun (staged : e.IsStaged limit before) (same : e.SameRun next) : next.IsStaged limit before where
  toIsPlaced := staged.toIsPlaced.of_sameRun same
  counted := by
    rw [same.executed, same.entered]
    exact staged.counted

theorem advance (staged : e.IsStaged limit before) : e.advance.IsStaged limit before where
  toIsPlaced := staged.toIsPlaced.advance
  counted := by
    have counts := e.advance_counts
    unfold Counts at counts
    have counted := staged.counted
    omega

theorem apply (staged : e.IsStaged limit before) (action : HostAction) : (e.apply action).IsStaged limit before := by
  cases action with
  | step | fail => exact staged
  | «continue» | cancel => exact staged.of_sameRun ⟨rfl, rfl, rfl, rfl, rfl, rfl, rfl, rfl⟩

theorem begin (staged : e.IsStaged limit before) {program : Body} {functions : FunctionTable}
    {speed interactive : Json} (begun : e.begin program functions speed interactive = (next, .ok ())) :
    next.IsStaged limit e.entered.length := by
  rcases armed_of_begin begun with rfl
  constructor
  · constructor
    · exact staged.sameLimit
    · rintro s ⟨⟩
    · exact Nat.zero_le _
  · exact (congrArg List.length (entered_logAs _ _ _)).symm

end IsStaged

theorem driveFrom_keeps {P : Engine → Prop} (advances : ∀ e, P e → P e.advance)
    (acts : ∀ e action, P e → P (e.apply action)) (actions : List HostAction) (seen : List Suspension)
    (start : P e) : P (e.driveFrom actions seen).2.2 := by
  fun_induction driveFrom actions seen e with
  | case1 actions seen e ended => exact advances e start
  | case2 seen e s pending interactive ih => exact ih (advances e start)
  | case3 seen e s pending interactive rest => exact advances e start
  | case4 seen e s pending interactive action rest goes ih => exact ih (acts _ action (advances e start))
  | case5 actions seen e s pending alone fault stuck => exact advances e start
  | case6 actions seen e s pending alone cancelled waited ih => exact ih (advances e start)

theorem begin_of_begins {program : Body} {functions : FunctionTable} {speed interactive : Json}
    (begun : e.begins (.begin program functions speed interactive) = true) :
    ∃ next, e.begin program functions speed interactive = (next, .ok ()) := by
  unfold begins at begun
  dsimp only at begun
  cases answer : e.begin program functions speed interactive with
  | mk next outcome =>
    rw [answer] at begun
    cases outcome with
    | error error => cases begun
    | ok done => exact ⟨next, rfl⟩

theorem run_engine {program : Body} {functions : FunctionTable} {speed interactive : Json}
    {actions : Option (List HostAction)} (heard : (interactive.isTruthy && actions.isNone) = false)
    (begun : e.begin program functions speed interactive = (next, .ok ())) :
    (e.run program functions speed interactive actions).1 = (next.driveFrom (actions.getD []) []).2.2 := by
  rw [run_of_begun heard begun]
  split
  · rename_i driven
    rw [driven]
  · rename_i driven
    rw [driven]
    split
    · rfl
    · rfl

theorem run_declined {program : Body} {functions : FunctionTable} {speed interactive : Json}
    {actions : Option (List HostAction)} (declined : e.accepts (.run program functions speed interactive actions) = false) :
    (e.run program functions speed interactive actions).1 = e ∨
      (e.run program functions speed interactive actions).1 = e.log .alreadyRunning := by
  unfold run
  unfold accepts at declined
  by_cases unheard : (interactive.isTruthy && actions.isNone) = true
  · rw [if_pos unheard]
    exact .inl rfl
  · rw [if_neg unheard]
    have refused : e.begins (.begin program functions speed interactive) = false := by
      simpa [unheard] using declined
    have noted := begin_of_declined refused
    cases answer : e.begin program functions speed interactive with
    | mk next outcome =>
      rw [answer] at noted
      cases outcome with
      | error error => exact noted
      | ok done =>
        simp [begins, answer] at refused
        cases refused

theorem IsStaged.undergo (staged : e.IsStaged limit before) (call : HostCall) :
    (e.undergo call).IsStaged limit (if e.accepts call then e.entered.length else before) := by
  cases call with
  | advance =>
    rw [Engine.undergo, resume_engine]
    exact staged.advance
  | meddle meddling =>
    by_cases begun : e.begins meddling = true
    · rw [accepts, if_pos begun]
      cases meddling with
      | begin program functions speed interactive =>
        rcases begin_of_begins begun with ⟨next, accepted⟩
        have placed := staged.begin accepted
        rwa [Engine.undergo, meddle, accepted]
      | _ => cases begun
    · rw [accepts, if_neg begun]
      exact staged.of_sameRun (meddle_declined (by simpa using begun))
  | run program functions speed interactive actions =>
    by_cases begun : e.accepts (.run program functions speed interactive actions) = true
    · rw [if_pos begun]
      rcases Bool.and_eq_true_iff.mp begun with ⟨heard, asked⟩
      rcases begin_of_begins asked with ⟨next, accepted⟩
      rw [Engine.undergo, run_engine ((Bool.not_eq_true' _).mp heard) accepted]
      -- What is driven is the run that was begun just now, and its entries are counted from there.
      apply driveFrom_keeps (P := IsStaged limit e.entered.length)
      · intro e staged
        exact staged.advance
      · intro e action staged
        exact staged.apply action
      · exact staged.begin accepted
    · rw [if_neg begun, Engine.undergo]
      rcases run_declined (by simpa using begun) with same | noted
      · rwa [same]
      · rw [noted]
        exact staged.of_sameRun ⟨rfl, rfl, rfl, rfl, rfl, rfl, rfl, entered_logAs _ _ e⟩

theorem IsStaged.undergoAll (staged : e.IsStaged limit before) (calls : List HostCall) :
    (e.undergoAll calls).IsStaged limit (e.enteredBefore before calls) := by
  induction calls generalizing e before with
  | nil => exact staged
  | cons call rest ih => exact ih (staged.undergo call)

theorem paused_iff (e : Engine) :
    e.state = .paused ↔ ∃ s, e.pending? = some s ∧ s.isInteractive = true := by
  unfold state pending?
  cases e.phase with
  | idle | completed result => simp
  | active pending frames =>
    cases pending with
    | none => simp
    | some s => cases stepped : s.isInteractive with
      | false => simp [stepped]
      | true => simp [stepped]

theorem result_iff_completed (e : Engine) : e.result?.isSome = true ↔ e.state = .completed := by
  unfold state result?
  cases e.phase with
  | idle | completed result => simp
  | active pending frames =>
    cases pending with
    | none => simp
    | some s => cases stepped : s.isInteractive with
      | false => simp [stepped]
      | true => simp [stepped]

end Engine

end GridRobot
