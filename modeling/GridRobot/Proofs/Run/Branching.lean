import GridRobot.Proofs.Run.Refinement

/-!
Two ways to write a branch. A branch with no alternative is one whose alternative is empty, and a branch on a negation
is the branch on what is negated with its bodies exchanged. `Instruction.Rebranches` relates a program to what it is
when some of its branches, anywhere in it, are written the other way. Both mean the same, so their runs end the same.
-/
namespace GridRobot

namespace Instruction

mutual

/-- The second instruction is the first with some of its branches written another way, at any depth. -/
inductive Rebranches : Instruction → Instruction → Prop
  | same (node : Instruction) : Rebranches node node
  | repeatTimes (count : Json) {body other : Body} (inner : BodyRebranches body other) :
      Rebranches (.repeatTimes count body) (.repeatTimes count other)
  | ifThen (condition : Condition) {body other : Body} (inner : BodyRebranches body other) :
      Rebranches (.ifThen condition body) (.ifThen condition other)
  | ifElse (condition : Condition) {thenBody elseBody thenOther elseOther : Body}
      (first : BodyRebranches thenBody thenOther) (second : BodyRebranches elseBody elseOther) :
      Rebranches (.ifElse condition thenBody elseBody) (.ifElse condition thenOther elseOther)
  | whileDo (condition : Condition) {body other : Body} (inner : BodyRebranches body other) :
      Rebranches (.whileDo condition body) (.whileDo condition other)
  | define (name : Json) {body other : Body} (inner : BodyRebranches body other) :
      Rebranches (.define name body) (.define name other)
  /-- An empty alternative is added. -/
  | completed (condition : Condition) {body other : Body} (inner : BodyRebranches body other) :
      Rebranches (.ifThen condition body) (.ifElse condition other [])
  /-- A negation is taken away, and the bodies are exchanged. -/
  | exchanged (condition : Condition) {thenBody elseBody thenOther elseOther : Body}
      (first : BodyRebranches thenBody thenOther) (second : BodyRebranches elseBody elseOther) :
      Rebranches (.ifElse (.negate condition) thenBody elseBody) (.ifElse condition elseOther thenOther)

inductive BodyRebranches : Body → Body → Prop
  | nil : BodyRebranches [] []
  | cons {node other : Instruction} {rest others : Body} (head : Rebranches node other)
      (tail : BodyRebranches rest others) : BodyRebranches (node :: rest) (other :: others)

end

end Instruction

open Instruction (bodyMeaning Rebranches BodyRebranches)

theorem Trail.branch_negate (trail : Trail) (condition : Condition) (next : Bool → Trail → Course) :
    trail.branch (.negate condition) next = trail.branch condition fun value => next !value := by
  simp only [branch, Condition.evaluate]
  cases held : (condition.evaluate trail.world trail.draws).value with
  | error fault => simp only [held]
  | ok value => rfl

namespace Instruction

mutual

theorem meaning_rebranched (calls : Json → Trail → Course) (node : Instruction) {other : Instruction}
    (rebranches : Rebranches node other) (trail : Trail) : other.meaning calls trail = node.meaning calls trail := by
  cases rebranches with
  | same => rfl
  | @repeatTimes count body other inner => simp only [meaning, bodyMeaning_rebranched calls body inner]
  | @ifThen condition body other inner => simp only [meaning, bodyMeaning_rebranched calls body inner]
  | @ifElse condition thenBody elseBody thenOther elseOther first second =>
    simp only [meaning, bodyMeaning_rebranched calls thenBody first, bodyMeaning_rebranched calls elseBody second]
  | @whileDo condition body other inner => simp only [meaning, bodyMeaning_rebranched calls body inner]
  | define => simp only [meaning]
  | @completed condition body other inner =>
    simp only [meaning, bodyMeaning, bodyMeaning_rebranched calls body inner]
  | @exchanged condition thenBody elseBody thenOther elseOther first second =>
    rw [meaning, meaning, Trail.branch_negate, bodyMeaning_rebranched calls thenBody first,
      bodyMeaning_rebranched calls elseBody second]
    congr 1
    funext value
    cases value <;> rfl

theorem bodyMeaning_rebranched (calls : Json → Trail → Course) (body : Body) {other : Body}
    (rebranches : BodyRebranches body other) : bodyMeaning calls other = bodyMeaning calls body := by
  cases rebranches with
  | nil => rfl
  | @cons node other rest others head tail =>
    funext trail
    rw [bodyMeaning, bodyMeaning, meaning_rebranched calls node head, bodyMeaning_rebranched calls rest tail]

end

end Instruction

namespace FunctionTable

inductive Rebranches : FunctionTable → FunctionTable → Prop
  | nil : Rebranches [] []
  | cons (name : Json) {body other : Body} {rest others : FunctionTable} (head : BodyRebranches body other)
      (tail : Rebranches rest others) : Rebranches ((name, body) :: rest) ((name, other) :: others)

variable {functions others : FunctionTable}

theorem Rebranches.look (rebranches : functions.Rebranches others) (name : Json) :
    (∃ fault, functions.look name = .error fault ∧ others.look name = .error fault) ∨
      (functions.look name = .ok none ∧ others.look name = .ok none) ∨
      ∃ body other, functions.look name = .ok (some body) ∧ others.look name = .ok (some other) ∧
        BodyRebranches body other := by
  have found (key : Json) : (functions.body? key = none ∧ others.body? key = none) ∨
      ∃ body other, functions.body? key = some body ∧ others.body? key = some other ∧ BodyRebranches body other := by
    induction rebranches with
    | nil => exact .inl ⟨rfl, rfl⟩
    | @cons name body other rest others head tail ih =>
      unfold body? at ih ⊢
      rw [List.find?_cons, List.find?_cons]
      cases name.same key with
      | true => exact .inr ⟨body, other, rfl, rfl, head⟩
      | false => exact ih
  unfold FunctionTable.look
  cases name.key with
  | error fault => exact .inl ⟨fault, rfl, rfl⟩
  | ok key =>
    rcases found key with ⟨missing, missing'⟩ | ⟨body, other, defined, defined', inner⟩
    · exact .inr (.inl ⟨congrArg Except.ok missing, congrArg Except.ok missing'⟩)
    · exact .inr (.inr ⟨body, other, congrArg Except.ok defined, congrArg Except.ok defined', inner⟩)

theorem Rebranches.call (rebranches : functions.Rebranches others) (limit : CallLimit) (room : Nat) :
    others.call limit room = functions.call limit room := by
  -- The body that a call finds has room for one call less.
  induction room with
  | zero =>
    funext name trail
    rcases rebranches.look name with ⟨fault, left, right⟩ | ⟨left, right⟩ | ⟨body, other, left, right, -⟩
    · simp only [FunctionTable.call, left, right]
    · simp only [FunctionTable.call, left, right]
    · simp only [FunctionTable.call, left, right]
  | succ room ih =>
    funext name trail
    rcases rebranches.look name with ⟨fault, left, right⟩ | ⟨left, right⟩ | ⟨body, other, left, right, inner⟩
    · simp only [FunctionTable.call, left, right]
    · simp only [FunctionTable.call, left, right]
    · simp only [FunctionTable.call, left, right, ih, Instruction.bodyMeaning_rebranched _ body inner]

end FunctionTable

theorem meaning_rebranched {program other : Body} {functions others : FunctionTable}
    (main : BodyRebranches program other) (table : functions.Rebranches others) (limit : CallLimit) (world : World)
    (draws : Draws) : meaning other others limit world draws = meaning program functions limit world draws := by
  rw [meaning, meaning, table.call, Instruction.bodyMeaning_rebranched _ program main]

namespace Engine

variable {e : Engine} {program other : Body} {functions others : FunctionTable}

/-- Both runs are bound for the same end, also where their pauses cannot be computed: one is empty if the other is. -/
theorem prospect_rebranched (main : BodyRebranches program other) (table : functions.Rebranches others)
    (interactive speed : Json) :
    e.prospect other others interactive speed = e.prospect program functions interactive speed := by
  unfold prospect
  rw [delay_armed, delay_armed, meaning_rebranched main table]
  cases main with
  | nil => rfl
  | cons head tail => rfl

structure EndsTogether (a b : Engine) : Prop where
  result : ∃ result, a.result? = some result ∧ b.result? = some result
  world : b.world = a.world
  draws : b.draws = a.draws

/-- However its branches are written, in the main program and in its functions, a program that is run comes to the same
end: with the same result, world, random numbers left, and number of instructions. Nobody stops either run. -/
theorem drain_rebranched {speed : Json} (interactive : Json) (idle : e.isActive = false)
    (positive : Relation.greater.check speed (.int 0) = .ok true) (main : BodyRebranches program other)
    (table : functions.Rebranches others) :
    let plain := e.begin program functions speed interactive
    let rewritten := e.begin other others speed interactive
    plain.2 = .ok () ∧ rewritten.2 = .ok () ∧
      (plain.1.drain.1.cancelled = false → rewritten.1.drain.1.cancelled = false →
        EndsTogether plain.1.drain.1 rewritten.1.drain.1) := by
  intro plain rewritten
  have begun : plain = (e.armed program functions speed interactive, .ok ()) :=
    begin_eq_armed program functions interactive idle positive
  have begun' : rewritten = (e.armed other others speed interactive, .ok ()) :=
    begin_eq_armed other others interactive idle positive
  rw [begun, begun']
  refine ⟨rfl, rfl, fun undisturbed undisturbed' => ?_⟩
  have ends := armed_endsAs_prospect program functions interactive speed undisturbed
  have ends' := armed_endsAs_prospect other others interactive speed undisturbed'
  rw [prospect_rebranched main table] at ends'
  exact ⟨⟨_, ends.result, ends'.result⟩, ends'.world.trans ends.world.symm, ends'.draws.trans ends.draws.symm⟩

/-- A function that calls itself at random, from a loop: a negated coin in its branch, an empty condition and an unknown
one in the main program, and branches inside of branches that are rewritten. -/
theorem drain_rebranched_nested :
    let e : Engine :=
      { world := .ofBoard { size := 3, start := ⟨⟨0, 0⟩, .right, false⟩, goal := ⟨2, 0⟩, obstacles := [] }
        draws := .ofList [.num (.float ⟨0x3fe8000000000000⟩), .num (.float ⟨0x3fd0000000000000⟩), .int 1]
        observers := [.silent], baseDelay := .num (.float ⟨0x3fe0000000000000⟩), callLimit := .ofInt 3 }
    let functions : FunctionTable :=
      [(.str "f", [.ifElse (.negate (.sensor .coin)) [.increment .r1, .call (.str "f")] [.turnLeft]])]
    let others : FunctionTable :=
      [(.str "f", [.ifElse (.sensor .coin) [.turnLeft] [.increment .r1, .call (.str "f")]])]
    let program : Body :=
      [.whileDo (.negate (.sensor .wallAhead)) [.move, .ifThen .empty [.turnRight],
        .ifElse (.negate (.unknown (.str "dark") [])) [.ifThen (.sensor .pathClear) [.call (.str "f")]] [.turnLeft]]]
    let other : Body :=
      [.whileDo (.negate (.sensor .wallAhead)) [.move, .ifElse .empty [.turnRight] [],
        .ifElse (.unknown (.str "dark") []) [.turnLeft] [.ifElse (.sensor .pathClear) [.call (.str "f")] []]]]
    let speed := Json.num (.float defaultSpeed)
    let plain := (e.begin program functions speed (.bool false)).1.drain.1
    let rewritten := (e.begin other others speed (.bool false)).1.drain.1
    EndsTogether plain rewritten ∧ plain.executed = 11 ∧ plain.world.registers.get .r1 = 1 ∧ plain.draws.taken = 2 := by
  intro e functions others program other speed plain rewritten
  have above : Number.lt (.int 0) (.float defaultSpeed) = true := by decide +kernel
  have positive : Relation.greater.check speed (.int 0) = .ok true := congrArg Except.ok above
  have table : functions.Rebranches others := by
    refine .cons _ (.cons ?_ .nil) .nil
    exact .exchanged _ (.cons (.same _) (.cons (.same _) .nil)) (.cons (.same _) .nil)
  have main : BodyRebranches program other := by
    refine .cons (.whileDo _ (.cons (.same _) (.cons (.completed _ (.cons (.same _) .nil)) (.cons ?_ .nil)))) .nil
    exact .exchanged _ (.cons (.completed _ (.cons (.same _) .nil)) .nil) (.cons (.same _) .nil)
  obtain ⟨-, -, together⟩ := drain_rebranched (e := e) (.bool false) rfl positive main table
  exact ⟨together (by decide +kernel) (by decide +kernel), by decide +kernel, by decide +kernel, by decide +kernel⟩

end Engine

end GridRobot
