import GridRobot.Run.Conduct

/-!
Two runs side by side. A run is often compared with another that goes the same way: one with an older history, at
another pace, with nobody to listen, or of a program with other bodies. What these comparisons have in common is proved
here once. A relation between engines has to say what both have in common, and to be kept by the small things a run does
on its way; then it is kept by every instruction, and by what is left of a run up to the next one.
-/
namespace GridRobot

def Instruction.within (change : Body → Body) : Instruction → Instruction
  | .repeatTimes count body => .repeatTimes count (change body)
  | .ifThen condition body => .ifThen condition (change body)
  | .ifElse condition thenBody elseBody => .ifElse condition (change thenBody) (change elseBody)
  | .whileDo condition body => .whileDo condition (change body)
  | node => node

theorem Instruction.within_id (node : Instruction) : node.within id = node := by
  cases node <;> rfl

namespace Frame

def within (change : Body → Body) : Frame → Frame
  | .block rest => .block (change rest)
  | .repeating loop done body => .repeating loop done (change body)
  | .looping condition body done => .looping condition (change body) done
  | .calling name => .calling name

theorem map_within_id (frames : List Frame) : frames.map (within id) = frames := by
  have same : within id = id := by
    funext frame
    cases frame <;> rfl
  rw [same, List.map_id]

theorem callDepth_within (change : Body → Body) (frames : List Frame) :
    callDepth (frames.map (within change)) = callDepth frames := by
  have same : isCall ∘ within change = isCall := by
    funext frame
    cases frame <;> rfl
  rw [callDepth, List.countP_map, same, callDepth]

end Frame

namespace Engine

inductive Progress.Parallel (change : Body → Body) (R : Engine → Engine → Prop) : Progress → Progress → Prop
  | onward {a b : Engine} (frames : List Frame) (related : R a b) :
      Progress.Parallel change R (.onward a frames) (.onward b (frames.map (Frame.within change)))
  | stopped {a b : Engine} (halt : Halt) (related : R a b) :
      Progress.Parallel change R (.ended (a.stop halt)) (.ended (b.stop halt))

/-- Both runs are in the same world with the same random numbers, and may note and draw the same. -/
structure IsParallel (R : Engine → Engine → Prop) : Prop where
  world : ∀ {a b}, R a b → b.world = a.world
  draws : ∀ {a b}, R a b → b.draws = a.draws
  draw : ∀ {a b}, R a b → ∀ draws, R { a with draws } { b with draws }
  log : ∀ {a b}, R a b → ∀ note, R (a.log note) (b.log note)

/-- Besides, both may be placed in another world and show it, and where the first looks up a body, the second finds it
changed. -/
structure PerformsAlike (change : Body → Body) (R : Engine → Engine → Prop) : Prop extends IsParallel R where
  callLimit : ∀ {a b}, R a b → b.callLimit = a.callLimit
  look : ∀ {a b}, R a b → ∀ name, b.functions.look name = (a.functions.look name).map (Option.map change)
  inWorld : ∀ {a b}, R a b → ∀ world, R { a with world } { b with world }
  showWorld : ∀ {a b}, R a b → R a.showWorld b.showWorld
  showRegisters : ∀ {a b}, R a b → R a.showRegisters b.showRegisters

/-- Besides, both are cancelled or neither, and whichever way a run leaves its frames leads from `R` to `Q`. -/
structure ProceedsTo (change : Body → Body) (R Q : Engine → Engine → Prop) : Prop extends IsParallel R where
  nothing : change [] = []
  cancelled : ∀ {a b}, R a b → b.cancelled = a.cancelled
  conclude : ∀ {a b}, R a b → Q a.conclude b.conclude
  abort : ∀ {a b}, R a b → Q a.abort b.abort
  stop : ∀ {a b}, R a b → ∀ halt, Q (a.stop halt) (b.stop halt)
  enter : ∀ {a b}, R a b → ∀ node rest outer, Q (a.enter node (.block rest :: outer))
    (b.proceed (.block (change (node :: rest)) :: outer.map (Frame.within change)))

variable {change : Body → Body} {R Q : Engine → Engine → Prop} {a b : Engine}

namespace IsParallel

theorem logAll (parallel : IsParallel R) (related : R a b) (notes : List Note) : R (a.logAll notes) (b.logAll notes) := by
  induction notes generalizing a b with
  | nil => exact related
  | cons note rest ih => exact ih (parallel.log related note)

theorem test (parallel : IsParallel R) (related : R a b) {condition : Condition} {next : Engine}
    {value : Except RunFault Bool} (tested : a.test condition = (next, value)) :
    ∃ other, b.test condition = (other, value) ∧ R next other := by
  obtain ⟨rfl, rfl⟩ := Prod.mk.inj tested
  refine ⟨_, ?_, parallel.logAll (parallel.draw related _) _⟩
  rw [Engine.test, parallel.world related, parallel.draws related]

theorem announceLoop (parallel : IsParallel R) (related : R a b) (condition : Condition) :
    R (a.announceLoop condition) (b.announceLoop condition) := by
  unfold Engine.announceLoop
  split
  · exact parallel.log related .endlessLoop
  · exact related

end IsParallel

theorem PerformsAlike.perform (alike : PerformsAlike change R) (related : R a b) (node : Instruction) (frames : List Frame) :
    (a.perform node frames).Parallel change R (b.perform (node.within change) (frames.map (Frame.within change))) := by
  -- Every branch is chosen by what both runs have in common.
  have sameWorld := alike.world related
  cases node with
  | move =>
    simp only [Instruction.within, Engine.perform, sameWorld]
    cases a.world.move with
    | error collision => exact .stopped _ (alike.log related _)
    | ok world => exact .onward frames (alike.showWorld (alike.log (alike.inWorld related _) _))
  | turnLeft | turnRight =>
    simp only [Instruction.within, Engine.perform, sameWorld]
    exact .onward frames (alike.showWorld (alike.log (alike.inWorld related _) _))
  | assign r value =>
    simp only [Instruction.within, Engine.perform, write, sameWorld]
    cases value.toInteger with
    | error fault => exact .stopped _ related
    | ok n => exact .onward frames (alike.showRegisters (alike.log (alike.inWorld related _) _))
  | increment | decrement =>
    simp only [Instruction.within, Engine.perform, write, sameWorld]
    exact .onward frames (alike.showRegisters (alike.log (alike.inWorld related _) _))
  | repeatTimes count body =>
    simp only [Instruction.within, Engine.perform]
    cases Repetition.announced count with
    | error fault => exact .stopped _ related
    | ok shown =>
      dsimp only
      cases Repetition.ofAnnounced shown with
      | error fault => exact .stopped _ (alike.log related _)
      | ok loop => exact .onward (.repeating loop 0 body :: frames) (alike.log related _)
  | ifThen condition body =>
    rcases tested : a.test condition with ⟨next, value⟩
    obtain ⟨other, same, after⟩ := alike.test related tested
    simp only [Instruction.within, Engine.perform, tested, same]
    cases value with
    | error fault => exact .stopped _ after
    | ok value =>
      cases value with
      | true => exact .onward (.block body :: frames) (alike.log after _)
      | false => exact .onward frames (alike.log after _)
  | ifElse condition thenBody elseBody =>
    rcases tested : a.test condition with ⟨next, value⟩
    obtain ⟨other, same, after⟩ := alike.test related tested
    simp only [Instruction.within, Engine.perform, tested, same]
    cases value with
    | error fault => exact .stopped _ after
    | ok value =>
      cases value with
      | true => exact .onward (.block thenBody :: frames) (alike.log (alike.log after _) _)
      | false => exact .onward (.block elseBody :: frames) (alike.log (alike.log after _) _)
  | whileDo condition body =>
    exact .onward (.looping condition body 0 :: frames) (alike.announceLoop related condition)
  | call name =>
    simp only [Instruction.within, Engine.perform, alike.look related, alike.callLimit related, Frame.callDepth_within]
    cases a.functions.look name with
    | error fault => exact .stopped _ related
    | ok found =>
      cases found with
      | none => exact .onward frames (alike.log related _)
      | some body =>
        by_cases full : a.callLimit.depth ≤ Frame.callDepth frames
        · simp only [Except.map, Option.map, if_pos full]
          exact .stopped _ related
        · simp only [Except.map, Option.map, if_neg full]
          exact .onward (.block body :: .calling name :: frames) (alike.log related _)
  | define | unknown | blank => exact .onward frames (alike.log related _)

theorem ProceedsTo.proceed (along : ProceedsTo change R Q) (related : R a b) (frames : List Frame) :
    Q (a.proceed frames) (b.proceed (frames.map (Frame.within change))) := by
  -- Every branch is chosen by what both runs have in common: whether they are cancelled, and what a test comes to.
  fun_induction Engine.proceed a frames generalizing b with
  | case1 a =>
    rw [List.map_nil, Engine.proceed]
    exact along.conclude related
  | case2 a outer ih =>
    rw [List.map_cons, Frame.within, along.nothing, Engine.proceed]
    exact ih related
  | case3 a node rest outer => exact along.enter related node rest outer
  | case4 a name outer ih =>
    rw [List.map_cons, Frame.within, Engine.proceed]
    exact ih (along.log related _)
  | case5 a loop done body outer more cancelled =>
    rw [List.map_cons, Frame.within, Engine.proceed, if_pos more, along.cancelled related, if_pos cancelled]
    exact along.abort related
  | case6 a loop done body outer more running ih =>
    rw [List.map_cons, Frame.within, Engine.proceed, if_pos more, along.cancelled related, if_neg running]
    exact ih (along.log related _)
  | case7 a loop done body outer finished ih =>
    rw [List.map_cons, Frame.within, Engine.proceed, if_neg finished]
    exact ih related
  | case8 a condition body done outer cancelled =>
    rw [List.map_cons, Frame.within, Engine.proceed, along.cancelled related, if_pos cancelled]
    exact along.abort related
  | case9 a condition body done outer running next fault tested =>
    obtain ⟨other, same, after⟩ := along.test related tested
    rw [List.map_cons, Frame.within, Engine.proceed, along.cancelled related, if_neg running, same]
    exact along.stop after _
  | case10 a condition body done outer running next more tested ih =>
    obtain ⟨other, same, after⟩ := along.test related tested
    rw [List.map_cons, Frame.within, Engine.proceed, along.cancelled related, if_neg running, same]
    simp only [if_pos more]
    exact ih (along.log after _)
  | case11 a condition body done outer running next value tested more low ih =>
    obtain ⟨other, same, after⟩ := along.test related tested
    rw [List.map_cons, Frame.within, Engine.proceed, along.cancelled related, if_neg running, same]
    simp only [if_pos more, if_neg low]
    exact ih after
  | case12 a condition body done outer running next value tested spent =>
    obtain ⟨other, same, after⟩ := along.test related tested
    rw [List.map_cons, Frame.within, Engine.proceed, along.cancelled related, if_neg running, same]
    simp only [if_neg spent]
    exact along.stop after _

/-! ### The same program on both sides -/

theorem look_same (same : b.functions = a.functions) (name : Json) :
    b.functions.look name = (a.functions.look name).map (Option.map id) := by
  rw [same]
  cases a.functions.look name with
  | error fault => rfl
  | ok found => cases found <;> rfl

theorem PerformsAlike.perform_same (alike : PerformsAlike id R) (related : R a b) (node : Instruction)
    (frames : List Frame) :
    (∃ next other after, R next other ∧ a.perform node frames = .onward next after ∧
        b.perform node frames = .onward other after) ∨
      ∃ next other halt, R next other ∧ a.perform node frames = .ended (next.stop halt) ∧
        b.perform node frames = .ended (other.stop halt) := by
  have performed := alike.perform related node frames
  rw [Instruction.within_id, Frame.map_within_id] at performed
  generalize left : a.perform node frames = p at performed
  generalize right : b.perform node frames = q at performed
  cases performed with
  | @onward next other after related =>
    rw [Frame.map_within_id] at right ⊢
    exact .inl ⟨next, other, after, related, rfl, rfl⟩
  | @stopped next other halt related => exact .inr ⟨next, other, halt, related, rfl, rfl⟩

theorem ProceedsTo.proceed_same (along : ProceedsTo id R Q) (related : R a b) (frames : List Frame) :
    Q (a.proceed frames) (b.proceed frames) := by
  have went := along.proceed related frames
  rwa [Frame.map_within_id] at went

theorem proceed_block_same (node : Instruction) (rest : Body) (outer : List Frame) (b : Engine) :
    b.proceed (.block (id (node :: rest)) :: outer.map (Frame.within id)) = b.enter node (.block rest :: outer) := by
  rw [Frame.map_within_id, id_eq, Engine.proceed]

end Engine

end GridRobot
