import GridRobot.Run.Evaluation

/-!
What a program does when nobody interrupts it, by recursion on its text: no suspensions, no reports,
and no request to stop. `meaning` is where a whole program leads.
-/
namespace GridRobot

structure Trail where
  world : World
  draws : Draws
  executed : Nat

/-- Where a stretch of a program leads: to its end, or to where something stops it. -/
structure Course where
  trail : Trail
  halt : Option Halt := none

namespace Course

def andThen (course : Course) (next : Trail → Course) : Course :=
  match course.halt with
  | none => next course.trail
  | some _ => course

end Course

namespace Trail

def onward (trail : Trail) : Course := ⟨trail, none⟩

def stop (trail : Trail) (halt : Halt) : Course := ⟨trail, some halt⟩

def enter (trail : Trail) : Trail := { trail with executed := trail.executed + 1 }

def write (trail : Trail) (r : Register) (value : Int) : Course :=
  { trail with world := trail.world.assign r value : Trail }.onward

def change (trail : Trail) (r : Register) (delta : Int) : Course :=
  trail.write r (trail.world.registers.get r + delta)

def branch (trail : Trail) (condition : Condition) (next : Bool → Trail → Course) : Course :=
  let evaluation := condition.evaluate trail.world trail.draws
  let trail := { trail with draws := evaluation.draws }
  match evaluation.value with
  | .error fault => trail.stop (.fault fault)
  | .ok value => next value trail

end Trail

namespace Course

def rounds (body : Trail → Course) : Nat → Trail → Course
  | 0, trail => trail.onward
  | n + 1, trail => (body trail).andThen (rounds body n)

/-- Rounds of a body while a condition holds. The condition is tested once more after the last round
that is allowed, and then the loop fails whatever it says. -/
def loop (condition : Condition) (body : Trail → Course) : Nat → Trail → Course
  | 0, trail => trail.branch condition fun _ trail => trail.stop (.failure .loopLimit)
  | n + 1, trail => trail.branch condition fun value trail =>
    if value then (body trail).andThen (loop condition body n) else trail.onward

end Course

namespace Instruction

mutual

/-- What one instruction does, given what a call of each function does. -/
def meaning (calls : Json → Trail → Course) : Instruction → Trail → Course
  | .move, trail => match trail.world.move with
    | .error collision => trail.stop (.failure (.collision collision.cell))
    | .ok world => { trail with world : Trail }.onward
  | .turnLeft, trail => { trail with world := trail.world.turnLeft : Trail }.onward
  | .turnRight, trail => { trail with world := trail.world.turnRight : Trail }.onward
  | .assign r value, trail => match value.toInteger with
    | .error fault => trail.stop (.fault (.value fault))
    | .ok n => trail.write r n
  | .increment r, trail => trail.change r 1
  | .decrement r, trail => trail.change r (-1)
  | .repeatTimes count body, trail => match Repetition.ofCount count with
    | .error fault => trail.stop (.fault fault)
    | .ok loop => Course.rounds (bodyMeaning calls body) loop.rounds trail
  | .ifThen condition body, trail =>
    trail.branch condition fun value trail => if value then bodyMeaning calls body trail else trail.onward
  | .ifElse condition thenBody elseBody, trail => trail.branch condition fun value trail =>
    if value then bodyMeaning calls thenBody trail else bodyMeaning calls elseBody trail
  | .whileDo condition body, trail => Course.loop condition (bodyMeaning calls body) maxIterations trail
  | .call name, trail => calls name trail
  | .define .., trail | .unknown .., trail | .blank, trail => trail.onward

def bodyMeaning (calls : Json → Trail → Course) : List Instruction → Trail → Course
  | [], trail => trail.onward
  | node :: rest, trail => (meaning calls node trail.enter).andThen (bodyMeaning calls rest)

end

end Instruction

namespace FunctionTable

/-- What a call does when so many more may be nested; a name that is not defined is passed over. -/
def call (functions : FunctionTable) (limit : CallLimit) (room : Nat) (name : Json) (trail : Trail) : Course :=
  match functions.look name with
  | .error fault => trail.stop (.fault (.name fault))
  | .ok none => trail.onward
  | .ok (some body) => match room with
    | 0 => trail.stop (limit.halt name)
    | room + 1 => Instruction.bodyMeaning (functions.call limit room) body trail

end FunctionTable

namespace Course

def ending (course : Course) : Ending :=
  match course.halt with
  | none => if course.trail.world.atGoal then .success else .goalMissed
  | some halt => halt.ending

def result (course : Course) : RunResult := ⟨course.ending, course.trail.world, course.trail.executed⟩

end Course

/-- Where a program leads from a world, with calls nested as deep as the limit says. -/
def meaning (program : Body) (functions : FunctionTable) (limit : CallLimit) (world : World) (draws : Draws) : Course :=
  Instruction.bodyMeaning (functions.call limit limit.depth) program ⟨world, draws, 0⟩

end GridRobot
