import GridRobot.Run.Conduct

/-!
How much a run can still do. `Engine.budget` bounds the instructions that a run may yet enter, from the
text of the program alone: rounds of loops, both branches, and calls as deep as they may go. Each
`advance` that suspends again leaves less of it, so every run ends.
-/
namespace GridRobot

namespace Instruction

mutual

/-- How many instructions may be entered below one, given how many a call of each function may enter. -/
def innerCost (calls : Json → Nat) : Instruction → Nat
  | .repeatTimes count body => Repetition.most count * bodyCost calls body
  | .ifThen _ body => bodyCost calls body
  | .ifElse _ a b => max (bodyCost calls a) (bodyCost calls b)
  | .whileDo _ body => maxIterations * bodyCost calls body
  | .call name => calls name
  | _ => 0

def bodyCost (calls : Json → Nat) : List Instruction → Nat
  | [] => 0
  | node :: rest => 1 + innerCost calls node + bodyCost calls rest

end

end Instruction

open Instruction (innerCost bodyCost)

def FunctionTable.callCost (functions : FunctionTable) : Nat → Json → Nat
  | 0, _ => 0
  | depth + 1, name => match functions.look name with
    | .ok (some body) => bodyCost (functions.callCost depth) body
    | _ => 0

namespace Frame

def cost (calls : Json → Nat) : Frame → Nat
  | .block rest => bodyCost calls rest
  | .repeating loop done body => (loop.rounds - done) * bodyCost calls body
  | .looping _ body done => (maxIterations - done) * bodyCost calls body
  | .calling _ => 0

def callsAbove (functions : FunctionTable) (limit : Nat) (frames : List Frame) : Json → Nat :=
  functions.callCost (limit - callDepth frames)

def stackCost (functions : FunctionTable) (limit : Nat) : List Frame → Nat
  | [] => 0
  | frame :: outer => frame.cost (callsAbove functions limit outer) + stackCost functions limit outer

@[simp] theorem isCall_block (rest : Body) : (block rest).isCall = false := by simp only [isCall]

@[simp] theorem isCall_repeating (loop : Repetition) (done : Nat) (body : Body) :
    (repeating loop done body).isCall = false := by simp only [isCall]

@[simp] theorem isCall_looping (condition : Condition) (body : Body) (done : Nat) :
    (looping condition body done).isCall = false := by simp only [isCall]

theorem callDepth_inner {frame : Frame} (inner : frame.isCall = false) (frames : List Frame) :
    callDepth (frame :: frames) = callDepth frames := by
  simp [callDepth, inner]

theorem calls_left {limit : Nat} {frames : List Frame} (room : callDepth frames < limit) (name : Json) :
    limit - callDepth frames = limit - callDepth (.calling name :: frames) + 1 := by
  have deeper : callDepth (.calling name :: frames) = callDepth frames + 1 :=
    List.countP_cons_of_pos rfl
  omega

@[simp] theorem callsAbove_inner {frame : Frame} (inner : frame.isCall = false) (functions : FunctionTable)
    (limit : Nat) (frames : List Frame) :
    callsAbove functions limit (frame :: frames) = callsAbove functions limit frames := by
  rw [callsAbove, callsAbove, callDepth_inner inner]

/-- A call that may still be made pays for the body that it runs one level deeper. -/
theorem callsAbove_calling {functions : FunctionTable} {limit : Nat} {frames : List Frame} {name : Json}
    {body : Body} (room : callDepth frames < limit) (found : functions.look name = .ok (some body)) :
    callsAbove functions limit frames name =
      bodyCost (callsAbove functions limit (.calling name :: frames)) body := by
  unfold callsAbove
  rw [calls_left room name, FunctionTable.callCost, found]

theorem stackCost_round (cost : Nat) {done count : Nat} (more : done < count) :
    cost + (count - (done + 1)) * cost = (count - done) * cost := by
  have : count - done = (count - (done + 1)) + 1 := by omega
  rw [this, Nat.add_mul]
  omega

end Frame

namespace Engine

def limit (e : Engine) : Nat := e.callLimit.depth

def stackCost (e : Engine) (frames : List Frame) : Nat := Frame.stackCost e.functions e.limit frames

def nodeCost (e : Engine) (node : Instruction) (frames : List Frame) : Nat :=
  innerCost (Frame.callsAbove e.functions e.limit frames) node

def budget (e : Engine) : Nat :=
  match e.phase with
  | .active none frames => e.stackCost frames
  | .active (some suspension) frames => e.nodeCost suspension.node frames + e.stackCost frames
  | _ => 0

theorem SameTerms.stackCost {e next : Engine} (same : e.SameTerms next) (frames : List Frame) :
    next.stackCost frames = e.stackCost frames := by
  simp [Engine.stackCost, limit, same.functions, same.callLimit]

theorem SameTerms.nodeCost {e next : Engine} (same : e.SameTerms next) (node : Instruction)
    (frames : List Frame) :
    next.nodeCost node frames = e.nodeCost node frames := by
  simp [Engine.nodeCost, limit, same.functions, same.callLimit]

/-- A run that has spent no more than `bound` since it had entered `count` instructions, and has either
ended or suspends at the next instruction. -/
def Spends (count bound : Nat) (e : Engine) : Prop :=
  e.executed + e.budget ≤ count + bound ∧ (e.isActive = true → e.pending?.isSome = true ∧ e.executed = count + 1)

theorem Spends.mono {count small large : Nat} {e : Engine} (spends : e.Spends count small)
    (le : small ≤ large) :
    e.Spends count large :=
  ⟨Nat.le_trans spends.1 (Nat.add_le_add_left le count), spends.2⟩

theorem finish_spends {count bound : Nat} (ending : Ending) {e : Engine}
    (within : e.executed ≤ count + bound) :
    (e.finish ending).Spends count bound := by
  constructor
  · exact within
  · intro active
    simp [finish, emit, isActive] at active

theorem stop_spends {count bound : Nat} (halt : Halt) {e : Engine} (within : e.executed ≤ count + bound) :
    (e.stop halt).Spends count bound := finish_spends _ within

theorem conclude_spends {count bound : Nat} {e : Engine} (within : e.executed ≤ count + bound) :
    e.conclude.Spends count bound := by
  unfold conclude
  split <;> exact finish_spends _ within

theorem enter_spends (node : Instruction) (rest : Body) (outer : List Frame) (e : Engine) :
    (e.enter node (.block rest :: outer)).Spends e.executed (e.stackCost (.block (node :: rest) :: outer)) := by
  have total : e.nodeCost node (.block rest :: outer) + e.stackCost (.block rest :: outer) + 1 =
      e.stackCost (.block (node :: rest) :: outer) := by
    simp only [Engine.nodeCost, Engine.stackCost, Frame.stackCost, Frame.cost, bodyCost, Frame.isCall_block,
      Frame.callsAbove_inner]
    omega
  have passed := announce_executed node e
  rw [enter_eq]
  split
  · exact finish_spends _ (Nat.le_add_right _ _)
  · split
    · exact stop_spends _ (by omega)
    · refine ⟨?_, fun _ => ⟨rfl, passed⟩⟩
      -- Announcing an instruction changes none of the terms that the cost of the rest depends on.
      have same := announce_terms node e
      have cost : (e.announce node).nodeCost node (.block rest :: outer) +
          (e.announce node).stackCost (.block rest :: outer) =
          e.nodeCost node (.block rest :: outer) + e.stackCost (.block rest :: outer) := by
        rw [same.nodeCost, same.stackCost]
        rfl
      show (e.announce node).executed + ((e.announce node).nodeCost node (.block rest :: outer) +
        (e.announce node).stackCost (.block rest :: outer)) ≤ _
      omega

theorem stackCost_block_nil (e : Engine) (outer : List Frame) :
    e.stackCost (.block [] :: outer) = e.stackCost outer := by
  simp [Engine.stackCost, Frame.stackCost, Frame.cost, bodyCost]

theorem stackCost_repeating (e : Engine) {loop : Repetition} {done : Nat} (body : Body) (outer : List Frame)
    (more : done < loop.rounds) :
    e.stackCost (.block body :: .repeating loop (done + 1) body :: outer) =
      e.stackCost (.repeating loop done body :: outer) := by
  have round := Frame.stackCost_round (bodyCost (Frame.callsAbove e.functions e.limit outer) body) more
  simp only [Engine.stackCost, Frame.stackCost, Frame.cost, Frame.isCall_repeating, Frame.callsAbove_inner]
  omega

theorem stackCost_looping (e : Engine) (condition : Condition) {done : Nat} (body : Body) (outer : List Frame)
    (more : done < maxIterations) :
    e.stackCost (.block body :: .looping condition body (done + 1) :: outer) =
      e.stackCost (.looping condition body done :: outer) := by
  have round := Frame.stackCost_round (bodyCost (Frame.callsAbove e.functions e.limit outer) body) more
  simp only [Engine.stackCost, Frame.stackCost, Frame.cost, Frame.isCall_looping, Frame.callsAbove_inner]
  omega

theorem stackCost_outer (e : Engine) (frame : Frame) (outer : List Frame) :
    e.stackCost outer ≤ e.stackCost (frame :: outer) := by
  simp [Engine.stackCost, Frame.stackCost]

theorem Spends.after {e next last : Engine} {frames : List Frame} (quiet : e.Deliberates next)
    (spends : last.Spends next.executed (next.stackCost frames)) : last.Spends e.executed (e.stackCost frames) := by
  rwa [quiet.terms.executed, quiet.terms.stackCost] at spends

theorem proceed_spends (e : Engine) (frames : List Frame) :
    (e.proceed frames).Spends e.executed (e.stackCost frames) := by
  fun_induction proceed e frames with
  | case1 e => exact conclude_spends (Nat.le_add_right _ _)
  | case2 e outer ih => exact ih.mono (Nat.le_of_eq (e.stackCost_block_nil outer).symm)
  | case3 e node rest outer => exact enter_spends node rest outer e
  | case4 e name outer ih => exact (ih.after (log_deliberates _ e)).mono (e.stackCost_outer _ _)
  | case5 e loop done body outer more cancelled => exact finish_spends _ (Nat.le_add_right _ _)
  | case6 e loop done body outer more cancelled ih =>
    exact (ih.after (log_deliberates _ e)).mono (Nat.le_of_eq (e.stackCost_repeating body outer more))
  | case7 e loop done body outer more ih => exact ih.mono (e.stackCost_outer _ _)
  | case8 e condition body done outer cancelled => exact finish_spends _ (Nat.le_add_right _ _)
  | case9 e condition body done outer cancelled next fault tested =>
    exact stop_spends _ ((deliberates_of_test tested).terms.executed ▸ Nat.le_add_right _ _)
  | case10 e condition body done outer cancelled next more tested ih =>
    exact (ih.after ((deliberates_of_test tested).log _)).mono
      (Nat.le_of_eq (e.stackCost_looping condition body outer more))
  | case11 e condition body done outer cancelled next value tested more low ih =>
    exact (ih.after (deliberates_of_test tested)).mono (e.stackCost_outer _ _)
  | case12 e condition body done outer cancelled next value tested more =>
    exact stop_spends _ ((deliberates_of_test tested).terms.executed ▸ Nat.le_add_right _ _)

theorem perform_terms {node : Instruction} {frames after : List Frame} {e next : Engine}
    (performed : e.perform node frames = .onward next after) : e.SameTerms next := by
  rcases perform_onward performed with quiet | ⟨world, note, rfl⟩ | ⟨registers, note, rfl⟩
  · exact quiet.terms
  · exact ⟨rfl, rfl, rfl, rfl, rfl, rfl⟩
  · exact ⟨rfl, rfl, rfl, rfl, rfl, rfl⟩

theorem advance_table (e : Engine) :
    e.advance.functions = e.functions ∧ e.advance.callLimit = e.callLimit := by
  fun_cases advance e with
  | case1 frames phase => exact proceed_table e frames
  | case3 suspension frames phase running next after performed =>
    have kept := perform_terms performed
    rw [← kept.functions, ← kept.callLimit]
    exact proceed_table next after
  | case4 suspension frames phase running last performed =>
    obtain ⟨mid, halt, quiet, rfl⟩ := perform_ended performed
    exact ⟨quiet.terms.functions, quiet.terms.callLimit⟩
  | case2 | case5 | case6 => exact ⟨rfl, rfl⟩

theorem perform_cost {node : Instruction} {frames after : List Frame} {e next : Engine}
    (performed : e.perform node frames = .onward next after) :
    next.stackCost after ≤ e.nodeCost node frames + e.stackCost frames := by
  rw [(perform_terms performed).stackCost]
  revert performed
  fun_cases perform node frames e with rintro ⟨⟩
  | case11 count body shown said loop rounds =>
    simp [Engine.stackCost, Engine.nodeCost, Frame.stackCost, Frame.cost, innerCost,
      Repetition.most_of_announced said rounds]
  | case13 condition body next value tested =>
    split <;> simp [Engine.stackCost, Engine.nodeCost, Frame.stackCost, Frame.cost, innerCost]
  | case15 condition thenBody elseBody next value tested =>
    simp only [Engine.stackCost, Engine.nodeCost, Frame.stackCost, Frame.cost, innerCost]
    split <;> omega
  | case16 condition body =>
    simp [Engine.stackCost, Engine.nodeCost, Frame.stackCost, Frame.cost, innerCost]
  | case20 name body found deep =>
    have room : Frame.callDepth frames < e.limit := by
      unfold limit
      omega
    simp only [Engine.stackCost, Engine.nodeCost, Frame.stackCost, Frame.cost, innerCost,
      Frame.callsAbove_calling room found]
    omega
  -- The others leave the frames as they are.
  | _ => exact Nat.le_add_left _ _

theorem advance_spends (e : Engine) : e.advance.Spends e.executed e.budget := by
  fun_cases advance e with
  | case1 frames phase =>
    have cost : e.budget = e.stackCost frames := by simp [budget, phase]
    exact cost ▸ proceed_spends e frames
  | case2 suspension frames phase cancelled => exact finish_spends _ (Nat.le_add_right _ _)
  | case3 suspension frames phase running next after performed =>
    have cost : e.budget = e.nodeCost suspension.node frames + e.stackCost frames := by simp [budget, phase]
    have spends := proceed_spends next after
    rw [(perform_terms performed).executed] at spends
    exact spends.mono (cost ▸ perform_cost performed)
  | case4 suspension frames phase running last performed =>
    obtain ⟨mid, halt, quiet, rfl⟩ := perform_ended performed
    exact stop_spends _ (quiet.terms.executed ▸ Nat.le_add_right _ _)
  | case5 phase | case6 result phase => exact ⟨Nat.le_refl _, by simp [isActive, phase]⟩

theorem over_of_pending {e : Engine} (finished : e.advance.pending? = none) : e.advance.isActive = false := by
  cases active : e.advance.isActive with
  | false => rfl
  | true =>
    have suspended := (e.advance_spends.2 active).1
    rw [finished] at suspended
    cases suspended

theorem budget_advance_lt {e : Engine} {suspension : Suspension}
    (pending : e.advance.pending? = some suspension) :
    e.advance.budget < e.budget := by
  have spent := e.advance_spends.1
  have counted := (e.advance_spends.2 (isActive_of_pending pending)).2
  omega

end Engine

end GridRobot
