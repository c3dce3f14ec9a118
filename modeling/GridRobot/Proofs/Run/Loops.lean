import GridRobot.Proofs.Run.Calls

/-!
The rounds of conditional loops. A `Ledger` is kept beside a run, with a record of what happens to each loop from its
begin on. It is read off the steps of the engine: a step is compared with what was left to do before and after it. At
most one loop is on top of the stack, so whatever happens, happens to the loop that was begun last among those that have
not ended.
-/
namespace GridRobot

inductive LoopEvent
  | tested (value : Bool)
  /-- The test failed. -/
  | broken (fault : RunFault)
  /-- The body was started. -/
  | started
  | completed
  /-- The run goes on with what comes after the loop. -/
  | left
  /-- The run failed at the limit on rounds. -/
  | exceeded
deriving DecidableEq

structure Activation where
  condition : Condition
  events : List LoopEvent

namespace LoopEvent

def rounds : Nat → List LoopEvent
  | 0 => []
  | k + 1 => rounds k ++ [.tested true, .started, .completed]

@[simp] theorem count_completed_rounds (k : Nat) : (rounds k).count .completed = k := by
  induction k with
  | zero => rfl
  | succ k ih => simp [rounds, ih]

@[simp] theorem count_started_rounds (k : Nat) : (rounds k).count .started = k := by
  induction k with
  | zero => rfl
  | succ k ih => simp [rounds, ih]

theorem mem_rounds {k : Nat} {event : LoopEvent} (member : event ∈ rounds k) :
    event = .tested true ∨ event = .started ∨ event = .completed := by
  induction k with
  | zero => cases member
  | succ k ih =>
    rcases List.mem_append.mp member with before | last
    · exact ih before
    · simpa using last

theorem mem_split {early late before after : List LoopEvent} {event : LoopEvent}
    (same : early ++ late = before ++ event :: after) :
    (∃ mid, late = mid ++ event :: after ∧ before = early ++ mid) ∨
      ∃ mid, early = before ++ event :: mid ∧ after = mid ++ late := by
  rcases List.append_eq_append_iff.mp same with ⟨mid, rfl, rfl⟩ | ⟨mid, rfl, rest⟩
  · exact .inl ⟨mid, rfl, rfl⟩
  · cases mid with
    | nil => exact .inl ⟨[], rest.symm, by simp⟩
    | cons head mid =>
      obtain ⟨rfl, rfl⟩ := List.cons.inj rest
      exact .inr ⟨mid, rfl, rfl⟩

theorem rounds_split {k : Nat} {event : LoopEvent} {before after : List LoopEvent}
    (same : rounds k = before ++ event :: after) :
    (event = .started → before.getLast? = some (.tested true)) ∧
      ∀ value, event = .tested value → value = true ∧ before.count .completed < k := by
  induction k generalizing after with
  | zero => simp [rounds] at same
  | succ k ih =>
    rcases mem_split same with ⟨mid, round, rfl⟩ | ⟨mid, earlier, -⟩
    · rcases mid with _ | ⟨first, _ | ⟨second, _ | ⟨third, rest⟩⟩⟩
      · simp only [List.nil_append, List.cons.injEq] at round
        obtain ⟨rfl, -⟩ := round
        simp
      · simp only [List.cons_append, List.nil_append, List.cons.injEq] at round
        obtain ⟨rfl, rfl, -⟩ := round
        simp
      · simp only [List.cons_append, List.nil_append, List.cons.injEq] at round
        obtain ⟨rfl, rfl, rfl, -⟩ := round
        simp
      · simp at round
    · obtain ⟨start, test⟩ := ih earlier
      refine ⟨start, ?_⟩
      intro value tested
      obtain ⟨holds, fewer⟩ := test value tested
      exact ⟨holds, by omega⟩

end LoopEvent

open LoopEvent (rounds mem_rounds mem_split rounds_split)

def Ending.IsStop (ending : Ending) : Prop := ending = .aborted ∨ ∃ halt : Halt, ending = halt.ending

inductive Stage
  /-- In front of its test. -/
  | waiting
  | broken (fault : RunFault)
  /-- In the body. -/
  | inside
  | left
  | exceeded (value : Bool)

namespace Stage

def events : Stage → List LoopEvent
  | .waiting => []
  | .broken fault => [.broken fault]
  | .inside => [.tested true, .started]
  | .left => [.tested false, .left]
  | .exceeded value => [.tested value, .exceeded]

/-- After how many rounds a loop may come to a stage, and what has become of the run where it stays there. -/
def Allows (ending : Option Ending) (done : Nat) : Stage → Prop
  | .waiting => done ≤ maxIterations ∧ ending = some .aborted
  | .broken fault => done ≤ maxIterations ∧ ending = some (.crashed fault)
  | .inside => done < maxIterations ∧ ∀ last, ending = some last → last.IsStop
  | .left => done < maxIterations
  | .exceeded _ => done = maxIterations ∧ ending = some (.failed .loopLimit)

theorem Allows.few {stage : Stage} {ending : Option Ending} {done : Nat} (allows : stage.Allows ending done) :
    done ≤ maxIterations := by
  cases stage with
  | waiting | broken => exact allows.1
  | inside => exact Nat.le_of_lt allows.1
  | left => exact Nat.le_of_lt allows
  | exceeded => exact Nat.le_of_eq allows.1

theorem start_split {stage : Stage} {before after : List LoopEvent}
    (same : stage.events = before ++ .started :: after) : before = [.tested true] := by
  rcases before with _ | ⟨first, _ | ⟨second, rest⟩⟩
  · cases stage <;> simp [events] at same
  · cases stage <;> simp_all [events]
  · cases stage <;> simp [events] at same

theorem test_split {stage : Stage} {before after : List LoopEvent} {value : Bool}
    (same : stage.events = before ++ .tested value :: after) :
    before = [] ∧ ((stage = .inside ∧ value = true) ∨ (stage = .left ∧ value = false) ∨
      (stage = .exceeded value ∧ after = [.exceeded])) := by
  rcases before with _ | ⟨first, _ | ⟨second, rest⟩⟩
  · cases stage <;> simp_all [events]
  · cases stage <;> simp [events] at same
  · cases stage <;> simp [events] at same

end Stage

namespace Activation

variable {ending : Option Ending} {a : Activation}

def IsAt (ending : Option Ending) (stage : Stage) (a : Activation) : Prop :=
  ∃ done, a.events = rounds done ++ stage.events ∧ stage.Allows ending done

/-- The limit on rounds, said of the events of one loop; `ending` is what the run has come to, if it is over. -/
structure IsCapped (ending : Option Ending) (a : Activation) : Prop where
  /-- Each start of the body follows at once on a test that came out true. -/
  starts : ∀ before after, a.events = before ++ .started :: after → before.getLast? = some (.tested true)
  atMost : a.events.count .started ≤ 100
  /-- The loop is left just if a test came out false before the limit was reached. -/
  leaves : .left ∈ a.events ↔
    ∃ before after, a.events = before ++ .tested false :: after ∧ before.count .completed < 100
  /-- Whatever a test comes out as at the limit, the run fails. -/
  spent : ∀ before after value, a.events = before ++ .tested value :: after →
    100 ≤ before.count .completed → after = [.exceeded]
  /-- The run fails at the limit only after all the rounds that it allows. -/
  exceeds : .exceeded ∈ a.events →
    a.events.count .completed = 100 ∧ .left ∉ a.events ∧ ending = some (.failed .loopLimit)
  /-- In a run that is over, a loop that was not left has failed at the limit, or the run was cancelled, or it stopped
  in the body, or at the test. -/
  stays : ∀ last, ending = some last → .left ∉ a.events →
    .exceeded ∈ a.events ∨ last = .aborted ∨
      (a.events.count .started = a.events.count .completed + 1 ∧ ∃ halt : Halt, last = halt.ending) ∨
      ∃ fault, .broken fault ∈ a.events ∧ last = .crashed fault

theorem IsAt.split {stage : Stage} {done : Nat} (shape : a.events = rounds done ++ stage.events) {event : LoopEvent}
    {before after : List LoopEvent} (same : a.events = before ++ event :: after) :
    (∃ mid, stage.events = mid ++ event :: after ∧ before = rounds done ++ mid) ∨
      (event = .started → before.getLast? = some (.tested true)) ∧
        ∀ value, event = .tested value → value = true ∧ before.count .completed < done := by
  rcases mem_split (shape ▸ same) with late | ⟨mid, early, -⟩
  · exact .inl late
  · exact .inr (rounds_split early)

theorem IsAt.mem_iff {stage : Stage} {done : Nat} (shape : a.events = rounds done ++ stage.events) {event : LoopEvent}
    (other : event ≠ .tested true ∧ event ≠ .started ∧ event ≠ .completed) :
    event ∈ a.events ↔ event ∈ stage.events := by
  rw [shape, List.mem_append]
  constructor
  · rintro (early | late)
    · rcases mem_rounds early with same | same | same
      · exact absurd same other.1
      · exact absurd same other.2.1
      · exact absurd same other.2.2
    · exact late
  · exact .inr

theorem IsAt.left_iff {stage : Stage} (reached : a.IsAt ending stage) : .left ∈ a.events ↔ stage = .left := by
  obtain ⟨done, shape, -⟩ := reached
  rw [IsAt.mem_iff shape (by simp)]
  cases stage <;> simp [Stage.events]

section Shape

variable {stage : Stage} {done : Nat} (shape : a.events = rounds done ++ stage.events)
  (allows : stage.Allows ending done)
include shape

theorem IsAt.starts {before after : List LoopEvent} (same : a.events = before ++ .started :: after) :
    before.getLast? = some (.tested true) := by
  rcases IsAt.split shape same with ⟨mid, late, rfl⟩ | ⟨start, -⟩
  · simp [Stage.start_split late]
  · exact start rfl

include allows

theorem IsAt.atMost : a.events.count .started ≤ maxIterations := by
  have few := allows.few
  rw [shape, List.count_append, LoopEvent.count_started_rounds]
  cases stage with
  | inside => simpa [Stage.events] using Nat.succ_le_of_lt allows.1
  | _ => simpa [Stage.events] using few

theorem IsAt.leaves : .left ∈ a.events ↔
    ∃ before after, a.events = before ++ .tested false :: after ∧ before.count .completed < maxIterations := by
  rw [IsAt.mem_iff shape (by simp)]
  constructor
  · intro leaves
    cases stage with
    | left =>
      have less : done < maxIterations := allows
      exact ⟨rounds done, [.left], shape, by simpa using less⟩
    | _ => simp [Stage.events] at leaves
  · rintro ⟨before, after, same, less⟩
    rcases IsAt.split shape same with ⟨mid, late, rfl⟩ | ⟨-, test⟩
    · obtain ⟨rfl, ⟨rfl, impossible⟩ | ⟨rfl, -⟩ | ⟨rfl, -⟩⟩ := Stage.test_split late
      · cases impossible
      · simp [Stage.events]
      · simp [allows.1] at less
    · cases (test false rfl).1

theorem IsAt.spent {before after : List LoopEvent} {value : Bool} (same : a.events = before ++ .tested value :: after)
    (full : maxIterations ≤ before.count .completed) : after = [.exceeded] := by
  have few := allows.few
  rcases IsAt.split shape same with ⟨mid, late, rfl⟩ | ⟨-, test⟩
  · obtain ⟨rfl, last⟩ := Stage.test_split late
    rw [List.append_nil, LoopEvent.count_completed_rounds] at full
    rcases last with ⟨rfl, -⟩ | ⟨rfl, -⟩ | ⟨-, rest⟩
    · exact absurd allows.1 (Nat.not_lt.mpr full)
    · exact absurd allows (Nat.not_lt.mpr full)
    · exact rest
  · have fewer := (test value rfl).2
    omega

theorem IsAt.exceeds (exceeds : .exceeded ∈ a.events) :
    a.events.count .completed = maxIterations ∧ .left ∉ a.events ∧ ending = some (.failed .loopLimit) := by
  rw [IsAt.mem_iff shape (by simp)] at exceeds ⊢
  cases stage with
  | exceeded value => exact ⟨by simpa [shape, Stage.events] using allows.1, by simp [Stage.events], allows.2⟩
  | _ => simp [Stage.events] at exceeds

theorem IsAt.stays {last : Ending} (ended : ending = some last) (unleft : .left ∉ a.events) :
    .exceeded ∈ a.events ∨ last = .aborted ∨
      (a.events.count .started = a.events.count .completed + 1 ∧ ∃ halt : Halt, last = halt.ending) ∨
      ∃ fault, .broken fault ∈ a.events ∧ last = .crashed fault := by
  subst ended
  cases stage with
  | waiting => exact .inr (.inl (Option.some.inj allows.2))
  | broken fault => exact .inr (.inr (.inr ⟨fault, by simp [shape, Stage.events], Option.some.inj allows.2⟩))
  | inside =>
    rcases allows.2 last rfl with aborted | halted
    · exact .inr (.inl aborted)
    · exact .inr (.inr (.inl ⟨by simp [shape, Stage.events], halted⟩))
  | left => simp [shape, Stage.events] at unleft
  | exceeded value => exact .inl (by simp [shape, Stage.events])

end Shape

theorem IsAt.isCapped {stage : Stage} (reached : a.IsAt ending stage) : a.IsCapped ending := by
  obtain ⟨done, shape, allows⟩ := reached
  constructor
  · exact fun before after => IsAt.starts shape
  · exact IsAt.atMost shape allows
  · exact IsAt.leaves shape allows
  · exact fun before after value => IsAt.spent shape allows
  · exact IsAt.exceeds shape allows
  · exact fun last => IsAt.stays shape allows

end Activation

namespace Engine

/-- One step of `proceed`. It ends where the run suspends or is over. -/
def stride (e : Engine) (frames : List Frame) : Progress :=
  match frames with
  | [] => .ended e.conclude
  | .block [] :: outer => .onward e outer
  | .block (node :: rest) :: outer => .ended (e.enter node (.block rest :: outer))
  | .calling name :: outer => .onward (e.log (.returned name)) outer
  | .repeating loop done body :: outer =>
    if done < loop.rounds then
      if e.cancelled then .ended e.abort
      else .onward (e.log (.iteration (done + 1) loop.text)) (.block body :: .repeating loop (done + 1) body :: outer)
    else .onward e outer
  | .looping condition body done :: outer =>
    if e.cancelled then .ended e.abort
    else match e.test condition with
    | (e, .error fault) => .ended (e.crash fault)
    | (e, .ok value) =>
      if done < maxIterations then
        if value then
          .onward (e.log (.whileIteration condition (done + 1)))
            (.block body :: .looping condition body (done + 1) :: outer)
        else .onward e outer
      else .ended (e.fail .loopLimit)

theorem proceed_eq_stride (e : Engine) (frames : List Frame) :
    e.proceed frames = match e.stride frames with
      | .onward next after => next.proceed after
      | .ended last => last := by
  fun_cases stride e frames with
  | case1 | case2 | case3 | case4 => rw [proceed]
  | case5 loop done body outer more cancelled => rw [proceed, if_pos more, if_pos cancelled]
  | case6 loop done body outer more running => rw [proceed, if_pos more, if_neg running]
  | case7 loop done body outer finished => rw [proceed, if_neg finished]
  | case8 condition body done outer cancelled => rw [proceed, if_pos cancelled]
  | case9 condition body done outer running next fault tested => rw [proceed, if_neg running, tested]
  | case10 condition body done outer running next more tested =>
    simp only [proceed, if_neg running, tested, if_pos more, if_true]
  | case11 condition body done outer running next value tested more low =>
    simp only [proceed, if_neg running, tested, if_pos more, if_neg low]
  | case12 condition body done outer running next value tested spent =>
    simp only [proceed, if_neg running, tested, if_neg spent]

theorem stride_lt {e next : Engine} {frames after : List Frame} (onward : e.stride frames = .onward next after) :
    Frame.allRounds after < Frame.allRounds frames := by
  revert onward
  fun_cases stride e frames <;> rintro ⟨⟩
  all_goals
    simp only [Frame.allRounds, Frame.rounds]
    omega

end Engine

structure Ledger where
  opened : List Activation := []
  ended : List Activation := []

namespace Ledger

def enter (node : Instruction) (ledger : Ledger) : Ledger :=
  match node with
  | .whileDo condition _ => { ledger with opened := ⟨condition, []⟩ :: ledger.opened }
  | _ => ledger

def note (event : LoopEvent) (ledger : Ledger) : Ledger :=
  match ledger.opened with
  | [] => ledger
  | a :: outer => { ledger with opened := { a with events := a.events ++ [event] } :: outer }

def leave (ledger : Ledger) : Ledger :=
  match ledger.opened with
  | [] => ledger
  | a :: outer => ⟨outer, { a with events := a.events ++ [.left] } :: ledger.ended⟩

/-- What a step does to loops. A body is completed when nothing is left of it. A loop is tested when it is on top; then
its body is started, or the step takes the loop off the stack, or it ends the run at the limit. -/
def watch (e : Engine) (frames : List Frame) (ledger : Ledger) : Ledger :=
  match frames with
  | .block [] :: .looping .. :: _ => ledger.note .completed
  | .looping condition _ _ :: outer =>
    if e.cancelled then ledger
    else match (e.test condition).2, e.stride frames with
    | .error fault, _ => ledger.note (.broken fault)
    | .ok value, .onward _ after =>
      if after.length ≤ outer.length then (ledger.note (.tested value)).leave
      else (ledger.note (.tested value)).note .started
    | .ok value, .ended last =>
      if last.result?.map RunResult.ending = some (.failed .loopLimit) then
        (ledger.note (.tested value)).note .exceeded
      else ledger.note (.tested value)
  | _ => ledger

def follow (e : Engine) (frames : List Frame) (ledger : Ledger) : Ledger :=
  match _step : e.stride frames with
  | .onward next after => (ledger.watch e frames).follow next after
  | .ended _ => ledger.watch e frames
termination_by Frame.allRounds frames
decreasing_by exact Engine.stride_lt _step

def advance (e : Engine) (ledger : Ledger) : Ledger :=
  match e.phase with
  | .active none frames => ledger.follow e frames
  | .active (some suspension) frames =>
    if e.cancelled then ledger
    else match e.perform suspension.node frames with
    | .onward next after => (ledger.enter suspension.node).follow next after
    | .ended _ => ledger.enter suspension.node
  | .idle | .completed _ => ledger

end Ledger

def Engine.ledger (visits : Nat → List Meddling) (e : Engine) : Nat → Ledger
  | 0 => {}
  | n + 1 =>
    let reached := e.attend visits n
    if reached.isActive then (e.ledger visits n).advance ((visits n).foldl Engine.meddle reached)
    else e.ledger visits n

def Frame.counter? : Frame → Option (Condition × Nat)
  | .looping condition _ done => some (condition, done)
  | _ => none

/-- A stack with all loops in the middle of their bodies, beside the records of the loops. What is left of a body lies
on the frame that it belongs to. -/
inductive Layered : List Frame → List Activation → Prop
  | nil : Layered [] []
  | block {outer opened} (rest : Body) (below : Layered outer opened) : Layered (.block rest :: outer) opened
  | repeating {outer opened} (rest : Body) (loop : Repetition) (done : Nat) (body : Body)
    (below : Layered outer opened) : Layered (.block rest :: .repeating loop done body :: outer) opened
  | calling {outer opened} (rest : Body) (name : Json) (below : Layered outer opened) :
    Layered (.block rest :: .calling name :: outer) opened
  | looping {outer opened} (rest : Body) {done : Nat} (condition : Condition) (body : Body)
    (room : done < maxIterations) (below : Layered outer opened) :
    Layered (.block rest :: .looping condition body (done + 1) :: outer)
      (⟨condition, rounds done ++ Stage.inside.events⟩ :: opened)

/-- A stack between two steps: all loops are in the middle of their bodies, or one is on top, in front of its test. -/
inductive Poised : List Frame → List Activation → Prop
  | layered {frames opened} (below : Layered frames opened) : Poised frames opened
  | repeating {outer opened} (loop : Repetition) (done : Nat) (body : Body) (below : Layered outer opened) :
    Poised (.repeating loop done body :: outer) opened
  | calling {outer opened} (name : Json) (below : Layered outer opened) : Poised (.calling name :: outer) opened
  | looping {outer opened} {done : Nat} (condition : Condition) (body : Body) (most : done ≤ maxIterations)
    (below : Layered outer opened) :
    Poised (.looping condition body done :: outer) (⟨condition, rounds done⟩ :: opened)

namespace Layered

variable {frames : List Frame} {opened : List Activation}

theorem counters (layered : Layered frames opened) :
    frames.filterMap Frame.counter? = opened.map fun a => (a.condition, a.events.count .started) := by
  induction layered with
  | nil => rfl
  | block _ _ ih | repeating _ _ _ _ _ ih | calling _ _ _ ih => exact ih
  | looping _ condition body room below ih => simp [List.filterMap_cons, Frame.counter?, Stage.events, ih]

theorem isAt (layered : Layered frames opened) {ending : Option Ending}
    (stops : ∀ last, ending = some last → last.IsStop) : ∀ a ∈ opened, a.IsAt ending .inside := by
  induction layered with
  | nil => rintro a ⟨⟩
  | block _ _ ih | repeating _ _ _ _ _ ih | calling _ _ _ ih => exact ih
  | @looping _ _ _ done _ _ room _ ih =>
    intro a member
    rcases List.mem_cons.mp member with rfl | below
    · exact ⟨done, rfl, room, stops⟩
    · exact ih a below

end Layered

namespace Ledger

/-- The loops that a run over with `ending` never left: where each of them stopped, and that the limit on rounds ends no
run unless a loop has reached it. -/
structure Settles (ending : Ending) (opened : List Activation) : Prop where
  stages : ∀ a ∈ opened, ∃ stage, stage ≠ .left ∧ a.IsAt (some ending) stage
  limit : ending = .failed .loopLimit → ∃ a ∈ opened, .exceeded ∈ a.events

def AllLeft (ledger : Ledger) : Prop := ∀ a ∈ ledger.ended, ∀ ending, a.IsAt ending .left

structure Accounts (e : Engine) (ledger : Ledger) : Prop where
  begun : e.phase ≠ .idle
  ended : ledger.AllLeft
  going : ∀ pending frames, e.phase = .active pending frames → Layered frames ledger.opened
  settled : ∀ result, e.phase = .completed result → Settles result.ending ledger.opened

variable {e next : Engine} {frames outer : List Frame} {ledger : Ledger} {ending : Ending} {opened : List Activation}

theorem Settles.of_layered (layered : Layered frames opened) (stops : ending.IsStop)
    (other : ending ≠ .failed .loopLimit) : Settles ending opened where
  stages a member := by
    refine ⟨.inside, by simp, layered.isAt ?_ a member⟩
    rintro last ⟨⟩
    exact stops
  limit same := absurd same other

theorem Settles.of_test (layered : Layered frames opened) (stops : ending.IsStop) {a : Activation} (stage : Stage)
    (stays : stage ≠ .left) (here : a.IsAt (some ending) stage)
    (limit : ending = .failed .loopLimit → .exceeded ∈ a.events) : Settles ending (a :: opened) where
  stages b member := by
    rcases List.mem_cons.mp member with rfl | below
    · exact ⟨stage, stays, here⟩
    · refine ⟨.inside, by simp, layered.isAt ?_ b below⟩
      rintro last ⟨⟩
      exact stops
  limit same := ⟨a, List.mem_cons_self, limit same⟩

theorem Accounts.of_finish (ended : ledger.AllLeft) (settles : Settles ending ledger.opened) :
    Accounts (e.finish ending) ledger where
  begun := by rintro ⟨⟩
  ended := ended
  going pending frames phase := by cases phase
  settled result phase := by
    have completed : (e.finish ending).phase = .completed ⟨ending, e.world, e.executed⟩ := rfl
    rw [completed] at phase
    cases phase
    exact settles

def Continues (ledger : Ledger) : Engine.Progress → Prop
  | .onward _ after => ledger.AllLeft ∧ Poised after ledger.opened
  | .ended last => Accounts last ledger

theorem Accounts.conclude (ended : ledger.AllLeft) (none : ledger.opened = []) : Accounts e.conclude ledger := by
  have settles (ending : Ending) (other : ending ≠ .failed .loopLimit) : Settles ending ledger.opened := by
    rw [none]
    exact ⟨by rintro a ⟨⟩, fun same => absurd same other⟩
  unfold Engine.conclude
  split
  · exact of_finish (e := e.log .goalReached) ended (settles .success (by simp))
  · exact of_finish (e := e.log .goalMissed) ended (settles .goalMissed (by simp))

theorem Accounts.abort (ended : ledger.AllLeft) (layered : Layered frames ledger.opened) : Accounts e.abort ledger :=
  of_finish (e := e.log .aborted) ended (.of_layered layered (.inl rfl) (by simp))

theorem Accounts.stop (ended : ledger.AllLeft) (layered : Layered frames ledger.opened) {halt : Halt}
    (other : halt ≠ .failure .loopLimit) : Accounts (e.stop halt) ledger := by
  apply of_finish (e := e.log halt.note) ended
  refine .of_layered layered (.inr ⟨halt, rfl⟩) ?_
  cases halt with
  | failure failure => simpa [Halt.ending] using other
  | fault fault => rintro ⟨⟩

theorem Accounts.enter (ended : ledger.AllLeft) (node : Instruction)
    (layered : Layered frames ledger.opened) : Accounts (e.enter node frames) ledger := by
  rw [Engine.enter_eq]
  split
  · exact abort ended layered
  · split
    · exact stop ended layered (by simp)
    · constructor
      · rintro ⟨⟩
      · exact ended
      · rintro pending frames ⟨⟩
        exact layered
      · rintro result ⟨⟩

theorem watch_block (below : Layered outer ledger.opened) : ledger.watch e (.block [] :: outer) = ledger := by
  generalize ledger.opened = opened at below
  cases below <;> rfl

theorem watch_layered (ended : ledger.AllLeft) (layered : Layered frames ledger.opened) :
    (ledger.watch e frames).Continues (e.stride frames) := by
  obtain ⟨opened, left⟩ := ledger
  cases layered with
  | nil => exact .conclude ended rfl
  | block rest below =>
    cases rest with
    | nil =>
      rw [watch_block below]
      exact ⟨ended, .layered below⟩
    | cons node rest => exact .enter ended node (.block rest below)
  | repeating rest loop done body below =>
    cases rest with
    | nil => exact ⟨ended, .repeating loop done body below⟩
    | cons node rest => exact .enter ended node (.repeating rest loop done body below)
  | calling rest name below =>
    cases rest with
    | nil => exact ⟨ended, .calling name below⟩
    | cons node rest => exact .enter ended node (.calling rest name below)
  | @looping outer opened rest done condition body room below =>
    cases rest with
    | nil =>
      -- With the body a whole round is done.
      have round : (rounds done ++ Stage.inside.events) ++ [.completed] = rounds (done + 1) := List.append_assoc ..
      refine ⟨ended, ?_⟩
      simp only [watch, note, round]
      exact .looping condition body room below
    | cons node rest => exact .enter ended node (.looping rest condition body room below)

theorem watch_looping {condition : Condition} {body : Body} {done : Nat}
    (ended : ledger.AllLeft) (most : done ≤ maxIterations)
    (below : Layered outer opened) (here : ledger.opened = ⟨condition, rounds done⟩ :: opened) :
    (ledger.watch e (.looping condition body done :: outer)).Continues
      (e.stride (.looping condition body done :: outer)) := by
  obtain ⟨all, left⟩ := ledger
  obtain rfl : all = _ := here
  -- The last test and what comes of it make up the stage that the loop has come to.
  have pair (a b : LoopEvent) : (rounds done ++ [a]) ++ [b] = rounds done ++ [a, b] := List.append_assoc ..
  by_cases cancelled : e.cancelled = true
  · simp only [watch, Engine.stride, if_pos cancelled]
    refine .of_finish (e := e.log .aborted) ended (.of_test below (.inl rfl) .waiting (by simp) ?_ (by simp))
    exact ⟨done, (List.append_nil _).symm, most, rfl⟩
  · rcases tested : e.test condition with ⟨next, value⟩
    simp only [watch, Engine.stride, if_neg cancelled, tested]
    cases value with
    | error fault =>
      refine .of_finish (e := next.log (.crashed fault)) ended
        (.of_test below (.inr ⟨.fault fault, rfl⟩) (.broken fault) (by simp) ?_ (by simp [Halt.ending]))
      exact ⟨done, rfl, most, rfl⟩
    | ok value =>
      by_cases more : done < maxIterations
      · cases value with
        | true =>
          have higher : ¬(Frame.block body :: .looping condition body (done + 1) :: outer).length ≤ outer.length := by
            simp only [List.length_cons]
            omega
          simp only [if_pos more, if_true, if_neg higher, note, pair]
          exact ⟨ended, .layered (.looping body condition body more below)⟩
        | false =>
          simp only [if_pos more, Bool.false_eq_true, if_false, Nat.le_refl, if_true, note, leave, pair]
          refine ⟨?_, .layered below⟩
          intro a member ending
          rcases List.mem_cons.mp member with rfl | before
          · exact ⟨done, rfl, more⟩
          · exact ended a before ending
      · have full : done = maxIterations := by omega
        have failed : (next.fail .loopLimit).result?.map RunResult.ending = some (.failed .loopLimit) := rfl
        simp only [if_neg more, failed, if_true, note, pair]
        refine .of_finish (e := next.log (.failed .loopLimit)) ended
          (.of_test below (.inr ⟨.failure .loopLimit, rfl⟩) (.exceeded value) (by simp) ?_ (by simp))
        exact ⟨done, rfl, full, rfl⟩

theorem watch_continues (ended : ledger.AllLeft) (poised : Poised frames ledger.opened) :
    (ledger.watch e frames).Continues (e.stride frames) := by
  generalize here : ledger.opened = opened at poised
  cases poised with
  | layered layered => exact watch_layered ended (here ▸ layered)
  | repeating loop done body below =>
    subst here
    simp only [watch, Engine.stride]
    by_cases more : done < loop.rounds
    · by_cases cancelled : e.cancelled = true
      · simp only [if_pos more, if_pos cancelled]
        exact .abort ended below
      · simp only [if_pos more, if_neg cancelled]
        exact ⟨ended, .layered (.repeating body loop (done + 1) body below)⟩
    · simp only [if_neg more]
      exact ⟨ended, .layered below⟩
  | calling name below =>
    subst here
    exact ⟨ended, .layered below⟩
  | looping condition body most below => exact watch_looping ended most below here

theorem follow_accounts (ended : ledger.AllLeft) (poised : Poised frames ledger.opened) :
    Accounts (e.proceed frames) (ledger.follow e frames) := by
  fun_induction follow e frames ledger with
  | case1 e frames ledger next after step ih =>
    have continues := watch_continues (e := e) ended poised
    rw [step] at continues
    rw [Engine.proceed_eq_stride, step]
    exact ih continues.1 continues.2
  | case2 e frames ledger last step =>
    have continues := watch_continues (e := e) ended poised
    rw [step] at continues
    rw [Engine.proceed_eq_stride, step]
    exact continues

theorem enter_continues (ended : ledger.AllLeft) (node : Instruction)
    (layered : Layered frames ledger.opened) : (ledger.enter node).Continues (e.perform node frames) := by
  fun_cases Engine.perform node frames e with
  | case1 | case5 | case9 | case10 | case12 | case14 | case17 => exact .stop ended layered (by simp)
  | case19 name body found full =>
    refine .stop ended layered ?_
    unfold CallLimit.halt
    split <;> simp
  | case11 count body shown said loop rounds => exact ⟨ended, .repeating loop 0 body layered⟩
  | case13 condition body next value tested =>
    cases value with
    | true => exact ⟨ended, .layered (.block body layered)⟩
    | false => exact ⟨ended, .layered layered⟩
  | case15 condition thenBody elseBody next value tested => exact ⟨ended, .layered (.block _ layered)⟩
  | case16 condition body => exact ⟨ended, .looping condition body (Nat.zero_le _) layered⟩
  | case20 name body found room => exact ⟨ended, .layered (.calling body name layered)⟩
  | _ => exact ⟨ended, .layered layered⟩

theorem Accounts.advance (accounts : Accounts e ledger) : Accounts e.advance (ledger.advance e) := by
  cases phase : e.phase with
  | idle | completed result =>
    simp only [Engine.advance, Ledger.advance, phase]
    exact accounts
  | active pending frames =>
    have layered := accounts.going pending frames phase
    cases pending with
    | none =>
      simp only [Engine.advance, Ledger.advance, phase]
      exact follow_accounts accounts.ended (.layered layered)
    | some suspension =>
      simp only [Engine.advance, Ledger.advance, phase]
      by_cases cancelled : e.cancelled = true
      · simp only [if_pos cancelled]
        exact .abort accounts.ended layered
      · simp only [if_neg cancelled]
        have continues := enter_continues (e := e) accounts.ended suspension.node layered
        cases performed : e.perform suspension.node frames with
        | onward next after =>
          rw [performed] at continues
          exact follow_accounts continues.1 continues.2
        | ended last =>
          rw [performed] at continues
          exact continues

theorem Accounts.of_phase (accounts : Accounts e ledger) (same : next.phase = e.phase) : Accounts next ledger where
  begun := same ▸ accounts.begun
  ended := accounts.ended
  going := same ▸ accounts.going
  settled := same ▸ accounts.settled

theorem Accounts.attend (accounts : Accounts e {}) (visits : Nat → List Meddling) (n : Nat) :
    Accounts (e.attend visits n) (e.ledger visits n) := by
  induction n with
  | zero => exact accounts
  | succ n ih =>
    cases active : (e.attend visits n).isActive with
    | true =>
      rw [Engine.attend_succ_of_active visits active, Engine.ledger]
      simp only [active, if_true]
      exact (ih.of_phase (Engine.visit_sameRun (visits n) active).phase).advance
    | false =>
      rw [Engine.attend_succ_of_over visits active, Engine.ledger]
      simp only [active, Bool.false_eq_true, if_false]
      exact ih

end Ledger

namespace Engine

variable {e first : Engine}

/-- What the events of every loop say of its limit, whether the loop was left or not. -/
structure KeepsLimit (e : Engine) (ledger : Ledger) : Prop where
  ended : ∀ a ∈ ledger.ended, .left ∈ a.events ∧ a.IsCapped (e.result?.map RunResult.ending)
  opened : ∀ a ∈ ledger.opened, .left ∉ a.events ∧ a.IsCapped (e.result?.map RunResult.ending)
  /-- Each loop on the stack counts the bodies that it has started itself. -/
  counters : ∀ frames, e.left? = some frames →
    frames.filterMap Frame.counter? = ledger.opened.map fun a => (a.condition, a.events.count .started)
  /-- A run fails at the limit on rounds just if a loop has reached it. -/
  limit : e.result?.map RunResult.ending = some (.failed .loopLimit) ↔ ∃ a ∈ ledger.opened, .exceeded ∈ a.events

theorem keepsLimit_of_accounts {ledger : Ledger} (accounts : ledger.Accounts e) : e.KeepsLimit ledger := by
  have gone (ending : Option Ending) : ∀ a ∈ ledger.ended, .left ∈ a.events ∧ a.IsCapped ending := by
    intro a member
    have reached := accounts.ended a member ending
    exact ⟨reached.left_iff.mpr rfl, reached.isCapped⟩
  cases phase : e.phase with
  | idle => exact absurd phase accounts.begun
  | active pending frames =>
    have layered := accounts.going pending frames phase
    have ending : e.result?.map RunResult.ending = none := by simp [result?, phase]
    have left : e.left? = some frames := by simp [left?, phase]
    -- While a run goes on, each open loop is inside of its body.
    have inside : ∀ a ∈ ledger.opened, a.IsAt none .inside := layered.isAt (by simp)
    have stays : ∀ a ∈ ledger.opened, .left ∉ a.events ∧ a.IsCapped none := by
      intro a member
      have reached := inside a member
      have within : Stage.inside ≠ .left := by simp
      exact ⟨within ∘ reached.left_iff.mp, reached.isCapped⟩
    constructor
    · exact ending ▸ gone none
    · exact ending ▸ stays
    · intro same here
      rw [left] at here
      cases here
      exact layered.counters
    · rw [ending]
      constructor
      · rintro ⟨⟩
      · rintro ⟨a, member, exceeds⟩
        cases ((stays a member).2.exceeds exceeds).2.2
  | completed result =>
    -- Once it is over, an open loop stays where the run broke off.
    have settles := accounts.settled result phase
    have ending : e.result?.map RunResult.ending = some result.ending := by simp [result?, phase]
    have left : e.left? = none := by simp [left?, phase]
    have stays : ∀ a ∈ ledger.opened, .left ∉ a.events ∧ a.IsCapped (some result.ending) := by
      intro a member
      obtain ⟨stage, other, reached⟩ := settles.stages a member
      exact ⟨other ∘ reached.left_iff.mp, reached.isCapped⟩
    constructor
    · exact ending ▸ gone (some result.ending)
    · exact ending ▸ stays
    · intro frames here
      rw [left] at here
      cases here
    · rw [ending]
      constructor
      · intro same
        exact settles.limit (Option.some.inj same)
      · rintro ⟨a, member, exceeds⟩
        exact ((stays a member).2.exceeds exceeds).2.2

/-- In every run each conditional loop keeps its limit: its body is only started after a test that came out true, and
at most a hundred times; the loop is left just if a test came out false before that, and else, unless the run is
cancelled or fails in the body or in the test, the run fails at the limit. No run fails at the limit otherwise. -/
theorem loops_keep_limit {program : Body} {functions : FunctionTable} {speed interactive : Json}
    (begun : e.begin program functions speed interactive = (first, .ok ())) (visits : Nat → List Meddling) (n : Nat) :
    (first.attend visits n).KeepsLimit (first.ledger visits n) := by
  have armed : first.phase = .active none [.block program] := by
    rw [armed_of_begin begun]
    rfl
  have accounts : Ledger.Accounts first {} := by
    constructor
    · simp [armed]
    · rintro a ⟨⟩
    · intro pending frames phase
      rw [armed] at phase
      cases phase
      exact .block program .nil
    · intro result phase
      simp [armed] at phase
  exact keepsLimit_of_accounts (accounts.attend visits n)

/-- In the first round of a loop another is left at once; then a function is called whose loop never ends by itself. It
reaches the limit and ends the run in the body of the first. -/
theorem loops_keep_limit_nested :
    let e : Engine :=
      { world := .ofBoard { size := 3, start := ⟨⟨0, 0⟩, .right, false⟩, goal := ⟨2, 0⟩, obstacles := [] }
        draws := .ofList [], observers := [], baseDelay := .int 0, callLimit := .ofInt 1 }
    let functions : FunctionTable := [(.str "f", [.whileDo (.sensor .always) []])]
    let program : Body :=
      [.whileDo (.sensor .always) [.whileDo (.sensor .wallAhead) [.move], .call (.str "f")]]
    let visits (n : Nat) : List Meddling := [.interactive (.bool (n % 2 == 0))]
    let first := e.armed program functions (.int 5) (.bool true)
    (first.attend visits 5).result?.map RunResult.ending = some (.failed .loopLimit) ∧
      (first.ledger visits 5).ended.map Activation.events = [[.tested false, .left]] ∧
      (first.ledger visits 5).opened.map (fun a => (a.events.count .started, a.events.count .completed)) =
        [(100, 100), (1, 0)] ∧
      (first.attend visits 5).KeepsLimit (first.ledger visits 5) := by
  intro e functions program visits first
  have positive : Relation.greater.check (.int 5) (.int 0) = .ok true := rfl
  have begun := begin_eq_armed (e := e) program functions (.bool true) rfl positive
  refine ⟨?_, ?_, ?_, loops_keep_limit begun visits 5⟩
  · decide +kernel
  · decide +kernel
  · decide +kernel

end Engine

end GridRobot
