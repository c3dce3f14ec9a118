import GridRobot.Proofs.Program.Operands
import GridRobot.Proofs.Session.Requests

/-!
What the reader of programs accepts, the editor may install. The reader keeps definitions out of bodies while it goes
down into them; the editor looks for them in a walk of its own over the finished trees.
-/
namespace GridRobot

open Instruction (walk hasNestedDefinition)

namespace Instruction

def name? : Instruction → Option Json
  | .call name | .define name _ => some name
  | _ => none

def registers (node : Instruction) : List Register :=
  node.register?.toList ++ (node.test?.bind fun c => c.core.register?).toList

end Instruction

/-- What holds of the trees of a program: its functions are definitions and there are no others, its registers are R1 to
R4, and its names are words that are not empty. -/
structure ProgramFile.IsWellFormed (file : ProgramFile) : Prop where
  main : ∀ node ∈ walk file.main, node.isDefinition = false
  functions : ∀ f ∈ file.functions, f.isDefinition = true
  below : ∀ f ∈ file.functions, ∀ body ∈ f.bodies, ∀ node ∈ walk body, node.isDefinition = false
  registers : ∀ node ∈ walk file.main ++ walk file.functions, ∀ r ∈ node.registers, r.name ∈ ["R1", "R2", "R3", "R4"]
  names : ∀ node ∈ walk file.main ++ walk file.functions, ∀ name, node.name? = some name →
    ∃ word, word ≠ "" ∧ name = .str word

namespace Instruction.IsReadable

variable {nested : Bool} {node : Instruction}

theorem isDefinition (readable : node.IsReadable true) : node.isDefinition = false := by
  cases node with
  | define => cases readable.1
  | _ => rfl

theorem name (readable : node.IsReadable nested) {name : Json} (given : node.name? = some name) :
    ∃ word, word ≠ "" ∧ name = .str word := by
  cases node with
  | call =>
    cases given
    exact readable
  | define =>
    cases given
    exact readable.2.1
  | _ => cases given

theorem beneath (readable : node.IsReadable nested) {body : Body} (inside : body ∈ node.bodies) :
    ∀ inner ∈ walk body, inner.IsReadable true :=
  walk_readable body (readable.below body inside)

theorem unnested {body : Body} (readable : ∀ node ∈ body, ∃ nested, node.IsReadable nested) :
    hasNestedDefinition body = false := by
  have below : ∀ node ∈ body, ∀ inner ∈ node.bodies, ∀ other ∈ walk inner, other.isDefinition = false := by
    intro node member inner inside other found
    rcases readable node member with ⟨nested, readable⟩
    exact (readable.beneath inside other found).isDefinition
  simpa [hasNestedDefinition] using below

end Instruction.IsReadable

namespace ProgramFile

theorem IsReadable.isWellFormed {file : ProgramFile} (readable : file.IsReadable) : file.IsWellFormed := by
  have main : ∀ node ∈ walk file.main, node.IsReadable true :=
    Instruction.walk_readable file.main (Instruction.bodyReadable_iff.mp readable.main)
  have all : ∀ node ∈ walk file.main ++ walk file.functions, ∃ nested, node.IsReadable nested := by
    intro node member
    rcases List.mem_append.mp member with here | here
    · exact ⟨true, main node here⟩
    · -- A function was read at the top level, what is below it as nested.
      rcases Instruction.mem_walk.mp here with ⟨f, listed, inside⟩
      have definition := (readable.functions f listed).2
      rcases Instruction.mem_nodes.mp inside with rfl | ⟨body, held, below⟩
      · exact ⟨false, definition⟩
      · exact ⟨true, definition.beneath held node below⟩
  constructor
  · intro node member
    exact (main node member).isDefinition
  · intro f listed
    exact (readable.functions f listed).1
  · intro f listed body held node member
    exact ((readable.functions f listed).2.beneath held node member).isDefinition
  · intro node _ r _
    cases r <;> decide
  · intro node member name given
    rcases all node member with ⟨nested, readable⟩
    exact readable.name given

end ProgramFile

theorem Session.setProgram_unnested {main functions : Body} (first : hasNestedDefinition main = false)
    (second : hasNestedDefinition functions = false) (s : Session) :
    s.setProgram main functions = if s.isRunning then (s, .error (.engine .alreadyRunning))
      else ({ s with program := main, functions }, .ok ()) := by
  simp [setProgram, first, second]

namespace ProgramFile

/-- The trees of a program that is read are well formed, with the registers that its document names; none of their
definitions is nested, and the editor installs them in any session where nothing runs. -/
theorem read_installs {source : Source} {file : ProgramFile} (accepted : (read source).outcome = .ok file) :
    file.IsWellFormed ∧
    (∃ (fields : Fields) (trees : Body), source.decode = .ok (.obj fields) ∧
      List.Forall₂ Json.CarriesRegisters (fields.items "functions") trees ∧
      file.functions = trees.filter Instruction.isDefinition ∧
      List.Forall₂ Json.CarriesRegisters (fields.items "mainProgram") file.main) ∧
    hasNestedDefinition file.main = false ∧ hasNestedDefinition file.functions = false ∧
    ∀ s : Session, s.setProgram file.main file.functions =
      if s.isRunning then (s, .error (.engine .alreadyRunning))
      else ({ s with program := file.main, functions := file.functions }, .ok ()) := by
  have readable := read_readable accepted
  have main : hasNestedDefinition file.main = false := by
    apply Instruction.IsReadable.unnested
    intro node member
    exact ⟨true, Instruction.bodyReadable_iff.mp readable.main node member⟩
  have functions : hasNestedDefinition file.functions = false := by
    apply Instruction.IsReadable.unnested
    intro f listed
    exact ⟨false, (readable.functions f listed).2⟩
  refine ⟨readable.isWellFormed, ?_, main, functions, fun s => s.setProgram_unnested main functions⟩
  rcases read_made accepted with ⟨fields, trees, decoded, each, kept, others, -⟩
  refine ⟨fields, trees, decoded, ?_, kept, ?_⟩
  · exact each.imp fun item node read => Json.ReadsAs.carriesRegisters ⟨false, read⟩
  · exact others.imp fun item node read => Json.ReadsAs.carriesRegisters ⟨true, read⟩

/-- A function without a name, with a loop over a negated comparison without a register and a call without a name;
beside it an instruction that is dropped, and a main program with a register in one of two branches. -/
theorem read_installs_nested :
    let loop : Json := .obj [("type", .str "while"), ("body", .arr [.obj [("type", .str "call"), ("functionName", .int 0)]]),
      ("condition", .obj [("type", .str "not"), ("condition", .obj [("type", .str "registerEquals"), ("value", .int 2)])])]
    let function : Json := .obj [("type", .str "function"), ("body", .arr [loop])]
    let branches : Json := .obj [("type", .str "ifElse"), ("condition", .str "coinToss"),
      ("elseBody", .arr [.obj [("type", .str "increment"), ("register", .str "R4")]])]
    let fields : Fields := [("version", .str "1.0"), ("functions", .arr [function, .obj [("type", .str "move")]]),
      ("mainProgram", .arr [branches])]
    let main : Body := [.ifElse (.unknown (.str "coinToss") []) [] [.increment .r4]]
    let functions : Body := [.define (.str "func1") [.whileDo (.negate (.compare .r1 .equals (.int 2))) [.call (.str "func1")]]]
    let level : Level :=
      { id := 1, name := "A", size := 3, start := ⟨0, 0⟩, direction := .right, goal := ⟨2, 0⟩, obstacles := []
        description := .null, hint := .null }
    let world : World := .ofBoard { size := 3, start := ⟨⟨0, 0⟩, .right, false⟩, goal := ⟨2, 0⟩, obstacles := [] }
    let engine : Engine := { world, draws := .ofList [], observers := [], baseDelay := .int 0, callLimit := .ofInt 3 }
    let s : Session := { allocation := .within 9, catalog := ⟨[level], by simp, false⟩, level, engine }
    let busy : Session := { s with engine := engine.armed [] [] (.int 1) (.bool false) }
    ∃ file, (read (.document (.obj fields))).outcome = .ok file ∧ file.main = main ∧ file.functions = functions ∧
      file.IsWellFormed ∧ s.setProgram main functions = ({ s with program := main, functions }, .ok ()) ∧
      busy.setProgram main functions = (busy, .error (.engine .alreadyRunning)) := by
  intro loop function branches fields main functions level world engine s busy
  have definitions : readFunctions [function, .obj [("type", .str "move")]] = ⟨[.ignored "move"], .ok functions⟩ := by
    cbv
  have nodes : readNodes [branches] = ⟨[.condition (some (.str "coinToss"))], .ok main⟩ := by
    cbv
  rcases read_of_lists fields rfl rfl definitions rfl nodes with ⟨file, accepted, listed, made, -⟩
  rcases read_installs accepted with ⟨wellFormed, -, -, -, installs⟩
  rw [made, listed] at installs
  exact ⟨file, accepted, made, listed, wellFormed, installs s, installs busy⟩

end ProgramFile

end GridRobot
