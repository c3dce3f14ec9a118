import GridRobot.Proofs.Program.Warnings
import GridRobot.Run.Engine
import Mathlib.Logic.Function.Iterate

/-!
What the test of a condition comes to. A condition is some number of negations around its core. The core decides what is
drawn and what is warned of; each negation turns the value round and says so, from the innermost outwards. So
`Condition.ComesTo` tells the whole of a test, however deep the negations are.
-/
namespace GridRobot

def Note.warns (note : Note) : Bool :=
  match note.severity with
  | .warning => true
  | _ => false

namespace Condition

def depth : Condition → Nat
  | .negate inner => inner.depth + 1
  | _ => 0

def isEmpty : Condition → Bool
  | .empty => true
  | _ => false

/-- What a test needs: a number where a coin is tossed, and a number to compare with where the order counts. -/
def IsTestable (draws : Draws) : Condition → Prop
  | .negate inner => inner.IsTestable draws
  | .sensor .coin => ∃ x n, draws.number draws.taken = some x ∧ x.number? = some n
  | .compare _ .greater value => ∃ n, value.number? = some n
  | _ => True

/-- What is true of a world. A coin goes by the next number; nothing is true of what is empty or unknown. -/
def Holds (w : World) (draws : Draws) : Condition → Prop
  | .empty | .unknown .. => False
  | .negate inner => ¬ inner.Holds w draws
  | .sensor .wallAhead => w.board.isFree w.ahead = false
  | .sensor .pathClear => w.board.isFree w.ahead = true
  | .sensor .goalAhead => w.ahead = w.board.goal
  | .sensor .always => True
  | .sensor .never => False
  | .sensor .coin => ∃ x n, draws.number draws.taken = some x ∧ x.number? = some n ∧ n.lt (.float Binary64.half) = true
  | .compare r .equals value => (Json.int (w.registers.get r)).same value = true
  | .compare r .greater value => ∃ n, value.number? = some n ∧ n.lt (.int (w.registers.get r)) = true

def remarks (value : Bool) : Condition → List Note
  | .empty => [.emptyCondition]
  | .unknown tag _ => [.unknownCondition tag.text]
  | .sensor .coin => [.tossed value]
  | _ => []

def refrain (value : Bool) (c : Condition) : List Note :=
  (List.range c.depth).map fun level => .negated (negate^[level] c.core) (not^[level + 1] value)

structure ComesTo (c : Condition) (w : World) (draws : Draws) (value : Bool) : Prop where
  core : (c.core.evaluate w draws).value = .ok value
  holds : value = true ↔ c.core.Holds w draws
  /-- Each negation turns the value round. -/
  turned : (c.evaluate w draws).value = .ok (not^[c.depth] value)
  /-- A coin takes one number. -/
  tossed : c.core = .sensor .coin → (c.evaluate w draws).draws = { draws with taken := draws.taken + 1 }
  /-- Nothing else takes any. -/
  untossed : c.core ≠ .sensor .coin → (c.evaluate w draws).draws = draws
  notes : (c.evaluate w draws).notes = c.core.remarks value ++ c.refrain value

theorem core_alone (c : Condition) : c.core.negated? = none := by
  induction c with
  | negate inner ih => exact ih
  | empty | sensor | compare | unknown => rfl

theorem eq_core {c : Condition} (alone : c.negated? = none) : c.core = c ∧ c.depth = 0 := by
  cases c with
  | negate => cases alone
  | empty | sensor | compare | unknown => exact ⟨rfl, rfl⟩

theorem negate_core (c : Condition) : negate^[c.depth] c.core = c := by
  induction c with
  | negate inner ih => rw [depth, core, Function.iterate_succ_apply', ih]
  | empty | sensor | compare | unknown => rfl

theorem refrain_negate (value : Bool) (inner : Condition) :
    refrain value (.negate inner) = refrain value inner ++ [.negated inner (not^[inner.depth + 1] value)] := by
  rw [refrain, depth, core, List.range_succ, List.map_append, List.map_singleton, negate_core]
  rfl

theorem countP_remarks (value : Bool) (c : Condition) :
    (c.remarks value).countP Note.warns = (c.isEmpty || c.isUnknown).toNat := by
  cases c with
  | sensor s => cases s <;> rfl
  | empty | compare | negate | unknown => rfl

theorem countP_refrain (value : Bool) (c : Condition) : (c.refrain value).countP Note.warns = 0 := by
  simp [refrain, List.countP_eq_zero, Note.warns, Note.severity]

section Tests

variable {c : Condition} {w : World} {draws : Draws} {value : Bool}

theorem ComesTo.warnings (comes : c.ComesTo w draws value) :
    (c.evaluate w draws).notes.countP Note.warns = (c.core.isEmpty || c.core.isUnknown).toNat := by
  rw [comes.notes, List.countP_append, countP_remarks, countP_refrain, Nat.add_zero]

theorem ComesTo.of_certain (alone : c.negated? = none) (certain : c ≠ .sensor .coin)
    (evaluated : c.evaluate w draws = { value := .ok value, draws, notes := c.remarks value })
    (holds : value = true ↔ c.Holds w draws) : c.ComesTo w draws value := by
  obtain ⟨core, depth⟩ := eq_core alone
  constructor
  · rw [core, evaluated]
  · rwa [core]
  · rw [evaluated, depth]
    rfl
  · intro coin
    exact absurd (core ▸ coin) certain
  · intro _
    rw [evaluated]
  · rw [evaluated, core, refrain, depth, List.range_zero, List.map_nil, List.append_nil]

theorem coin_comesTo {x : Json} {n : Number} (drawn : draws.number draws.taken = some x) (number : x.number? = some n) :
    (Condition.sensor .coin).ComesTo w draws (n.lt (.float Binary64.half)) := by
  have next : draws.next? = some (x, { draws with taken := draws.taken + 1 }) := by
    rw [Draws.next?, drawn, Option.map_some]
  have compared : Relation.less.check x (.num (.float Binary64.half)) = .ok (n.lt (.float Binary64.half)) :=
    Relation.check_of_numbers number rfl
  have evaluated : (Condition.sensor .coin).evaluate w draws =
      { value := .ok (n.lt (.float Binary64.half)), draws := { draws with taken := draws.taken + 1 }
        notes := [.tossed (n.lt (.float Binary64.half))] } := by
    simp only [evaluate, sense, toss, next, compared]
  constructor
  · rw [(eq_core rfl).1, evaluated]
  · constructor
    · intro below
      exact ⟨x, n, drawn, number, below⟩
    -- The toss takes the next number, which is the one that the test is about.
    · rintro ⟨y, m, again, same, below⟩
      obtain rfl := Option.some.inj (drawn.symm.trans again)
      obtain rfl := Option.some.inj (number.symm.trans same)
      exact below
  · rw [evaluated]
    rfl
  · intro _
    rw [evaluated]
  · intro other
    exact absurd rfl other
  · rw [evaluated]
    rfl

theorem sensor_comesTo {s : Sensor} (testable : (Condition.sensor s).IsTestable draws) :
    ∃ value, (Condition.sensor s).ComesTo w draws value := by
  cases s with
  | coin =>
    obtain ⟨x, n, drawn, number⟩ := testable
    exact ⟨_, coin_comesTo drawn number⟩
  | wallAhead => exact ⟨w.wallAhead, .of_certain rfl (by simp) rfl (by simp [Holds, World.wallAhead])⟩
  | goalAhead => exact ⟨w.goalAhead, .of_certain rfl (by simp) rfl (by simp [Holds, World.goalAhead])⟩
  | pathClear => exact ⟨!w.wallAhead, .of_certain rfl (by simp) rfl (by simp [Holds, World.wallAhead])⟩
  | always => exact ⟨true, .of_certain rfl (by simp) rfl (by simp [Holds])⟩
  | never => exact ⟨false, .of_certain rfl (by simp) rfl (by simp [Holds])⟩

theorem compare_comesTo {r : Register} {op : Comparison} {comparand : Json}
    (testable : (Condition.compare r op comparand).IsTestable draws) :
    ∃ value, (Condition.compare r op comparand).ComesTo w draws value := by
  cases op with
  | equals => exact ⟨_, .of_certain rfl (by simp) rfl (by simp [Holds])⟩
  | greater =>
    obtain ⟨n, number⟩ := testable
    have checked : Comparison.greater.holds (w.registers.get r) comparand = .ok (n.lt (.int (w.registers.get r))) :=
      Relation.check_of_numbers rfl number
    have evaluated : (Condition.compare r .greater comparand).evaluate w draws =
        { value := .ok (n.lt (.int (w.registers.get r))), draws } := by
      rw [evaluate, checked]
      rfl
    exact ⟨_, .of_certain rfl (by simp) evaluated (by simp [Holds, number])⟩

theorem ComesTo.negate (comes : c.ComesTo w draws value) : (Condition.negate c).ComesTo w draws value := by
  have evaluated : (Condition.negate c).evaluate w draws =
      { c.evaluate w draws with
        value := .ok (not^[c.depth + 1] value)
        notes := (c.evaluate w draws).notes ++ [.negated c (not^[c.depth + 1] value)] } := by
    simp only [evaluate, comes.turned, Function.iterate_succ_apply']
  constructor
  · exact comes.core
  · exact comes.holds
  · rw [evaluated]
    rfl
  · rw [evaluated]
    exact comes.tossed
  · rw [evaluated]
    exact comes.untossed
  · rw [evaluated, comes.notes, refrain_negate, List.append_assoc]
    rfl

theorem comesTo_of_isTestable (testable : c.IsTestable draws) : ∃ value, c.ComesTo w draws value := by
  induction c with
  | empty => exact ⟨false, .of_certain rfl (by simp) rfl (by simp [Holds])⟩
  | sensor s => exact sensor_comesTo testable
  | compare r op comparand => exact compare_comesTo testable
  | negate inner ih =>
    obtain ⟨value, comes⟩ := ih testable
    exact ⟨value, comes.negate⟩
  | unknown tag fields => exact ⟨false, .of_certain rfl (by simp) rfl (by simp [Holds])⟩

theorem isTestable_of_toss (tossed : (toss draws).value = .ok value) : (Condition.sensor .coin).IsTestable draws := by
  unfold toss Draws.next? at tossed
  cases drawn : draws.number draws.taken with
  | none =>
    rw [drawn] at tossed
    cases tossed
  | some x =>
    rw [drawn, Option.map_some] at tossed
    dsimp only at tossed
    split at tossed
    · cases tossed
    · rename_i checked
      obtain ⟨⟨n, number⟩, -⟩ := Relation.numbers_of_check checked
      exact ⟨x, n, drawn, number⟩

theorem isTestable_iff : c.IsTestable draws ↔ ∃ value, (c.evaluate w draws).value = .ok value := by
  constructor
  · intro testable
    obtain ⟨value, comes⟩ := comesTo_of_isTestable (w := w) testable
    exact ⟨_, comes.turned⟩
  · rintro ⟨value, evaluated⟩
    induction c generalizing value with
    | empty | unknown => trivial
    | sensor s =>
      cases s with
      | coin => exact isTestable_of_toss evaluated
      | wallAhead | goalAhead | pathClear | always | never => trivial
    | compare r op comparand =>
      cases op with
      | equals => trivial
      | greater =>
        rw [evaluate] at evaluated
        -- An order is decided between numbers only.
        cases checked : Comparison.greater.holds (w.registers.get r) comparand with
        | error fault =>
          rw [checked] at evaluated
          cases evaluated
        | ok greater => exact (Relation.numbers_of_check checked).2
    | negate inner ih =>
      cases tested : (inner.evaluate w draws).value with
      | error fault =>
        rw [evaluate] at evaluated
        simp [tested] at evaluated
      | ok value => exact ih value tested

end Tests

end Condition

namespace Engine

structure Tells (e next : Engine) (left : Draws) (notes : List Note) : Prop where
  world : next.world = e.world
  draws : next.draws = left
  events : next.events.reverse = e.events.reverse ++ notes.map fun note => .logged note note.severity

theorem tells_logAll (notes : List Note) (e : Engine) : e.Tells (e.logAll notes) e.draws notes := by
  induction notes generalizing e with
  | nil => exact ⟨rfl, rfl, by simp [logAll]⟩
  | cons note rest ih =>
    obtain ⟨world, draws, events⟩ := ih (e.log note)
    refine ⟨world, draws, ?_⟩
    calc ((e.log note).logAll rest).events.reverse
      _ = (e.log note).events.reverse ++ rest.map fun note => .logged note note.severity := events
      _ = e.events.reverse ++ (note :: rest).map fun note => .logged note note.severity := by
        simp [log, logAs, emit]

theorem test_tells (c : Condition) (e : Engine) :
    e.Tells (e.test c).1 (c.evaluate e.world e.draws).draws (c.evaluate e.world e.draws).notes := by
  have told := tells_logAll (c.evaluate e.world e.draws).notes { e with draws := (c.evaluate e.world e.draws).draws }
  exact ⟨told.world, told.draws, told.events⟩

end Engine

namespace Condition

/-- A test at any depth: the value of the core is turned round by each negation, and each says so in its turn. Whether a
number is drawn, and whether there is a warning, is up to the core; an engine that tests a condition does no more than log
what is said. -/
theorem evaluate_negations {c : Condition} {w : World} {draws : Draws} (testable : c.IsTestable draws) :
    (negate^[c.depth] c.core = c ∧ c.core.negated? = none) ∧ (∃ value, c.ComesTo w draws value) ∧
      (c.evaluate w draws).notes.countP Note.warns = (c.core.isEmpty || c.core.isUnknown).toNat ∧
      ∀ e : Engine, e.world = w → e.draws = draws → (e.test c).2 = (c.evaluate w draws).value ∧
        e.Tells (e.test c).1 (c.evaluate w draws).draws (c.evaluate w draws).notes := by
  obtain ⟨value, comes⟩ := comesTo_of_isTestable (w := w) testable
  refine ⟨⟨c.negate_core, c.core_alone⟩, ⟨value, comes⟩, comes.warnings, ?_⟩
  rintro e rfl rfl
  exact ⟨rfl, e.test_tells c⟩

/-- A coin under two negations, and an unknown condition under one. -/
theorem evaluate_negations_nested :
    let w := World.ofBoard { size := 1, start := ⟨⟨0, 0⟩, .right, false⟩, goal := ⟨0, 0⟩, obstacles := [] }
    let draws := Draws.ofList [.int 0, .int 1]
    let coin := negate (negate (.sensor .coin))
    let strange := negate (.unknown (.str "itemAhead") [])
    coin.IsTestable draws ∧ coin.ComesTo w draws true ∧
      (coin.evaluate w draws).notes =
        [.tossed true, .negated (.sensor .coin) false, .negated (.negate (.sensor .coin)) true] ∧
      (coin.evaluate w draws).draws.next?.map Prod.fst = some (.int 1) ∧
      strange.IsTestable draws ∧ (strange.evaluate w draws).value = .ok true ∧
      (strange.evaluate w draws).notes.countP Note.warns = 1 := by
  intro w draws coin strange
  have shown : coin.IsTestable draws := ⟨.int 0, .int 0, rfl, rfl⟩
  have below : coin.core.Holds w draws := ⟨.int 0, .int 0, rfl, rfl, by decide +kernel⟩
  obtain ⟨-, ⟨value, comes⟩, -⟩ := evaluate_negations (w := w) shown
  obtain rfl := comes.holds.mpr below
  obtain ⟨-, ⟨other, comes'⟩, warned, -⟩ := @evaluate_negations strange w draws trivial
  have never : other = false := Bool.eq_false_iff.mpr comes'.holds.mp
  refine ⟨shown, comes, comes.notes, ?_, trivial, ?_, warned⟩
  · rw [comes.tossed rfl]
    rfl
  · rw [comes'.turned, never]
    rfl

end Condition

end GridRobot
