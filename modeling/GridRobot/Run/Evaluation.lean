import GridRobot.Run.Note

/-!
What a run works out of what a program says: whether a condition holds in a world, how often a counted loop goes round,
and whether a call is within the limit. Random numbers are a sequence that is fixed beforehand, listed or computed from
a seed without end; a list may hold any values, and what is no number shows when it is drawn and compared.
-/
namespace GridRobot

structure Draws where
  number : Nat → Option Json
  taken : Nat := 0

namespace Draws

def ofList (numbers : List Json) : Draws := { number := fun n => numbers[n]? }

def next? (draws : Draws) : Option (Json × Draws) :=
  (draws.number draws.taken).map fun x => (x, { draws with taken := draws.taken + 1 })

def scatter (n : UInt64) : UInt64 :=
  let a := (n ^^^ (n >>> 30)) * 0xbf58476d1ce4e5b9
  let b := (a ^^^ (a >>> 27)) * 0x94d049bb133111eb
  b ^^^ (b >>> 31)

/-- Numbers from 0 up to below 1, in steps of 2^-53. -/
def ofSeed (seed : UInt64) : Draws :=
  { number := fun n =>
      let bits := scatter (seed + UInt64.ofNat (n + 1) * 0x9e3779b97f4a7c15)
      some (.num (.float (Binary64.nearest false (bits >>> 11).toNat (2 * Binary64.hiddenBit)))) }

end Draws

/-! ### Conditions

A coin draws one random number; a negation notes what it made of its inner condition; an empty or unknown condition is
false and warns. -/

structure Evaluation where
  value : Except RunFault Bool
  draws : Draws
  notes : List Note := []

namespace Condition

def warningLine (text : String) : String := "[Conditions] WARN " ++ text

def toss (draws : Draws) : Evaluation :=
  match draws.next? with
  | none => { value := .error .drawsExhausted, draws }
  | some (x, rest) => match Relation.less.check x (.num (.float Binary64.half)) with
    | .error fault => { value := .error (.order fault), draws := rest }
    | .ok value => { value := .ok value, draws := rest, notes := [.tossed value] }

def sense (w : World) (draws : Draws) : Sensor → Evaluation
  | .wallAhead => { value := .ok w.wallAhead, draws }
  | .goalAhead => { value := .ok w.goalAhead, draws }
  | .pathClear => { value := .ok !w.wallAhead, draws }
  | .always => { value := .ok true, draws }
  | .never => { value := .ok false, draws }
  | .coin => toss draws

def evaluate (w : World) (draws : Draws) : Condition → Evaluation
  | .empty => { value := .ok false, draws, notes := [.emptyCondition] }
  | .sensor s => sense w draws s
  | .compare r op value => { value := (op.holds (w.registers.get r) value).mapError .order, draws }
  | .unknown tag _ => { value := .ok false, draws, notes := [.unknownCondition tag.text] }
  | .negate inner =>
    let e := evaluate w draws inner
    match e.value with
    | .error _ => e
    | .ok value => { e with value := .ok !value, notes := e.notes ++ [.negated inner !value] }

end Condition

structure NotACondition where
  value : Json

namespace NotACondition

def evaluationMessage (slot : NotACondition) : String := "Not a condition: " ++ slot.value.literal

def writingMessage (slot : NotACondition) : String := "Cannot serialize condition " ++ slot.value.literal

end NotACondition

/-! ### Counted loops

A negative count is none at all; otherwise the count is announced as it is given, and then it has to be a number of
rounds, which no double is. -/

structure Repetition where
  rounds : Nat
  text : String

namespace Repetition

def announced (count : Json) : Except RunFault Json := do
  let negative ← (Relation.greater.check (.int 0) count).mapError .order
  return if negative then .int 0 else count

def ofAnnounced (count : Json) : Except RunFault Repetition :=
  match count with
  | .num (.int n) => .ok ⟨n.toNat, count.text⟩
  | .bool b => .ok ⟨if b then 1 else 0, count.text⟩
  | other => .error (.count other.kindName)

def ofCount (count : Json) : Except RunFault Repetition := (announced count).bind ofAnnounced

def most (count : Json) : Nat :=
  match ofCount count with
  | .ok loop => loop.rounds
  | .error _ => 0

theorem announced_int (n : Int) : announced (.int n) = .ok (if n < 0 then .int 0 else .int n) := by
  have negative : (Relation.greater.check (.int 0) (.int n)).mapError RunFault.order = .ok (decide (n < 0)) := rfl
  by_cases below : n < 0 <;> simp [announced, negative, below, bind, Except.bind, pure, Except.pure]

theorem most_int (n : Int) : most (.int n) = n.toNat := by
  by_cases below : n < 0
  · simp [most, ofCount, announced_int, ofAnnounced, below, Except.bind]
    omega
  · simp [most, ofCount, announced_int, ofAnnounced, below, Except.bind]

theorem most_of_announced {count shown : Json} {loop : Repetition} (said : announced count = .ok shown)
    (rounds : ofAnnounced shown = .ok loop) : most count = loop.rounds := by
  simp [most, ofCount, said, rounds, Except.bind]

end Repetition

/-! ### The limit on nested calls

It may be given by any value: a number bounds how many calls are active at once, and what is no number stands in the
way of every call. -/

structure CallLimit where
  /-- How many calls may be active at once. -/
  depth : Nat
  /-- How messages put the limit. -/
  text : String
  /-- Why a depth cannot be compared with the limit. -/
  fault : Option OrderFault := none

namespace CallLimit

/-- The depth that stands for no limit, which no run comes to. -/
def unlimited : Nat := Nat.pow 2 63

def ofJson (given : Json) : CallLimit :=
  match given.number? with
  | some n => { depth := n.ceiling?.getD unlimited, text := given.text }
  | none => { depth := 0, text := given.text, fault := some ⟨.atLeast, (Json.int 0).kindName, given.kindName⟩ }

def ofInt (n : Int) : CallLimit := ofJson (.int n)

def halt (limit : CallLimit) (name : Json) : Halt :=
  match limit.fault with
  | some fault => .fault (.order fault)
  | none => .failure (.callDepth name.text limit.text)

@[simp] theorem depth_ofInt (n : Int) : (ofInt n).depth = n.toNat := rfl

end CallLimit

end GridRobot
