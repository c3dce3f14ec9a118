import GridRobot.Proofs.Run.Safety

/-!
Programs that leave nothing to chance. A body is certain if no coin is tossed in it, at any depth; what a certain program
does is the same whatever the random numbers are, and leaves them as they are. So such a program needs none to run
safely, and it leads to the same result each time that it is begun anew.
-/
namespace GridRobot

def Condition.isCertain : Condition → Bool
  | .sensor .coin => false
  | .negate inner => inner.isCertain
  | _ => true

namespace Instruction

mutual

def isCertain : Instruction → Bool
  | .repeatTimes _ body | .define _ body => bodyCertain body
  | .ifThen condition body | .whileDo condition body => condition.isCertain && bodyCertain body
  | .ifElse condition thenBody elseBody => condition.isCertain && (bodyCertain thenBody && bodyCertain elseBody)
  | _ => true

def bodyCertain : List Instruction → Bool
  | [] => true
  | node :: rest => node.isCertain && bodyCertain rest

end

end Instruction

open Instruction (bodyMeaning bodyCertain)

def Trail.reseed (trail : Trail) (draws : Draws) : Trail := { trail with draws }

def Course.reseed (course : Course) (draws : Draws) : Course := { course with trail := course.trail.reseed draws }

/-- What is done takes no notice of the random numbers, and takes none. -/
def Course.IsSteady (stretch : Trail → Course) : Prop :=
  ∀ trail draws, stretch (trail.reseed draws) = (stretch trail).reseed draws

namespace Course

theorem IsSteady.andThen {first next : Trail → Course} (before : IsSteady first) (after : IsSteady next) :
    IsSteady fun trail => (first trail).andThen next := by
  intro trail draws
  dsimp only
  rw [before]
  rcases first trail with ⟨reached, halt⟩
  cases halt with
  | none => exact after reached draws
  | some halt => rfl

theorem evaluate_reseed {condition : Condition} (certain : condition.isCertain = true) (world : World)
    (draws other : Draws) :
    condition.evaluate world other = { condition.evaluate world draws with draws := other } := by
  induction condition with
  | empty | compare | unknown => rfl
  | sensor sensor =>
    cases sensor with
    | coin => cases certain
    | _ => rfl
  | negate inner ih =>
    simp only [Condition.evaluate, ih certain]
    obtain ⟨value, rest, notes⟩ := inner.evaluate world draws
    cases value with
    | error fault => rfl
    | ok value => rfl

theorem branch_isSteady {condition : Condition} (certain : condition.isCertain = true) {next : Bool → Trail → Course}
    (either : ∀ value, IsSteady (next value)) : IsSteady fun trail => trail.branch condition next := by
  intro trail draws
  have same := evaluate_reseed certain trail.world trail.draws draws
  simp only [Trail.branch, Trail.reseed, same]
  obtain ⟨value, rest, notes⟩ := condition.evaluate trail.world trail.draws
  cases value with
  | error fault => rfl
  | ok value => exact either value { trail with draws := rest } draws

theorem rounds_isSteady {body : Trail → Course} (steady : IsSteady body) (n : Nat) : IsSteady (rounds body n) := by
  induction n with
  | zero => exact fun _ _ => rfl
  | succ n ih => exact steady.andThen ih

theorem loop_isSteady {condition : Condition} (certain : condition.isCertain = true) {body : Trail → Course}
    (steady : IsSteady body) (n : Nat) : IsSteady (loop condition body n) := by
  induction n with
  | zero => exact branch_isSteady certain fun _ _ _ => rfl
  | succ n ih =>
    apply branch_isSteady certain
    intro value
    cases value with
    | false => exact fun _ _ => rfl
    | true => exact steady.andThen ih

end Course

open Course (IsSteady branch_isSteady rounds_isSteady loop_isSteady)

namespace Instruction

mutual

theorem meaning_isSteady {calls : Json → Trail → Course} (called : ∀ name, IsSteady (calls name)) (node : Instruction)
    (certain : node.isCertain = true) : IsSteady (node.meaning calls) := by
  -- Only a test draws, and the tests of an instruction that is certain do not.
  cases node with
  | move =>
    intro trail draws
    simp only [meaning, Trail.reseed]
    split
    · rfl
    · rfl
  | turnLeft | turnRight | increment | decrement | define | unknown | blank => exact fun _ _ => rfl
  | assign r value =>
    intro trail draws
    simp only [meaning]
    split
    · rfl
    · rfl
  | repeatTimes count body =>
    intro trail draws
    simp only [meaning]
    split
    · rfl
    · exact rounds_isSteady (bodyMeaning_isSteady called body certain) _ trail draws
  | ifThen condition body =>
    obtain ⟨tested, inner⟩ := Bool.and_eq_true_iff.mp certain
    intro trail draws
    simp only [meaning]
    refine branch_isSteady tested (fun value => ?_) trail draws
    cases value with
    | false => exact fun _ _ => rfl
    | true => exact bodyMeaning_isSteady called body inner
  | ifElse condition thenBody elseBody =>
    obtain ⟨tested, both⟩ := Bool.and_eq_true_iff.mp certain
    obtain ⟨first, second⟩ := Bool.and_eq_true_iff.mp both
    intro trail draws
    simp only [meaning]
    refine branch_isSteady tested (fun value => ?_) trail draws
    cases value with
    | false => exact bodyMeaning_isSteady called elseBody second
    | true => exact bodyMeaning_isSteady called thenBody first
  | whileDo condition body =>
    obtain ⟨tested, inner⟩ := Bool.and_eq_true_iff.mp certain
    exact loop_isSteady tested (bodyMeaning_isSteady called body inner) maxIterations
  | call name => exact called name

theorem bodyMeaning_isSteady {calls : Json → Trail → Course} (called : ∀ name, IsSteady (calls name)) (body : Body)
    (certain : bodyCertain body = true) : IsSteady (bodyMeaning calls body) := by
  cases body with
  | nil => exact fun _ _ => rfl
  | cons node rest =>
    obtain ⟨here, later⟩ := Bool.and_eq_true_iff.mp certain
    have entered : IsSteady fun trail : Trail => node.meaning calls trail.enter :=
      fun trail draws => meaning_isSteady called node here trail.enter draws
    exact entered.andThen (bodyMeaning_isSteady called rest later)

end

end Instruction

namespace FunctionTable

variable {functions : FunctionTable}

def AreCertain (functions : FunctionTable) : Prop := ∀ entry ∈ functions, bodyCertain entry.2 = true

theorem body_certain (certain : functions.AreCertain) {name : Json} {body : Body}
    (found : functions.look name = .ok (some body)) : bodyCertain body = true := by
  rw [look] at found
  cases key : name.key with
  | error fault =>
    rw [key] at found
    cases found
  | ok word =>
    rw [key] at found
    obtain ⟨entry, listed, rfl⟩ := Option.map_eq_some_iff.mp (Except.ok.inj found)
    exact certain entry (List.mem_of_find?_eq_some listed)

theorem call_isSteady (certain : functions.AreCertain) (limit : CallLimit) (room : Nat) (name : Json) :
    IsSteady (functions.call limit room name) := by
  -- The bodies that a call leads to have room for one call less.
  induction room generalizing name with
  | zero =>
    intro trail draws
    simp only [call]
    split
    · rfl
    · rfl
    · rfl
  | succ room ih =>
    intro trail draws
    simp only [call]
    split
    · rfl
    · rfl
    · rename_i body found
      exact Instruction.bodyMeaning_isSteady ih body (body_certain certain found) trail draws

theorem foldlM_certain {add : FunctionTable → Instruction → Except KeyFault FunctionTable}
    (adds : ∀ {functions table : FunctionTable} {node : Instruction}, functions.AreCertain → node.isCertain = true →
      add functions node = .ok table → table.AreCertain)
    {definitions : Body} {table : FunctionTable} (certain : bodyCertain definitions = true)
    (given : functions.AreCertain) (folded : definitions.foldlM add functions = .ok table) : table.AreCertain := by
  induction definitions generalizing functions with
  | nil =>
    cases folded
    exact given
  | cons node rest ih =>
    obtain ⟨here, later⟩ := Bool.and_eq_true_iff.mp certain
    rw [List.foldlM_cons] at folded
    cases added : add functions node with
    | error fault =>
      rw [added] at folded
      cases folded
    | ok next =>
      rw [added] at folded
      exact ih later (adds given here added) folded

theorem ofDefinitions_certain {definitions : Body} (certain : bodyCertain definitions = true)
    (defined : ofDefinitions definitions = .ok functions) : functions.AreCertain := by
  have empty : AreCertain [] := by
    intro entry member
    cases member
  refine foldlM_certain ?_ certain empty defined
  -- What is no definition leaves the table as it is.
  intro functions table node given here added
  cases node with
  | define name body =>
    cases usable : name.key with
    | error fault =>
      simp only [usable] at added
      cases added
    | ok key =>
      simp only [usable] at added
      obtain rfl : functions.insert key body = table := Except.ok.inj added
      intro entry member
      rcases mem_insert member with old | same
      · exact given entry old
      · exact same ▸ here
  | _ =>
    cases added
    exact given

end FunctionTable

section

variable {program : Body} {functions : FunctionTable} (main : bodyCertain program = true)
  (certain : functions.AreCertain) (limit : CallLimit) (world : World)

include main certain

/-- What a certain program comes to does not depend on the random numbers, which it leaves alone. -/
theorem meaning_reseed (draws other : Draws) :
    meaning program functions limit world other = (meaning program functions limit world draws).reseed other :=
  Instruction.bodyMeaning_isSteady (functions.call_isSteady certain limit limit.depth) program main
    ⟨world, draws, 0⟩ other

theorem result_reseed (draws other : Draws) :
    (meaning program functions limit world other).result = (meaning program functions limit world draws).result := by
  rw [meaning_reseed main certain limit world draws other]
  rfl

theorem faultless_of_certain (readable : Instruction.BodyReadable program) (bodies : functions.AreReadable)
    (numeric : limit.fault = none) (draws : Draws) (fault : RunFault) :
    (meaning program functions limit world draws).halt ≠ some (.fault fault) := by
  rw [meaning_reseed main certain limit world (.ofSeed 0) draws]
  exact (meaning_isSound readable bodies numeric world (Draws.ofSeed_isEndless 0)).faultless fault

end

end GridRobot
