import GridRobot.Proofs.Json.Storage
import GridRobot.Proofs.Program.Failure
import GridRobot.Proofs.Program.RoundTrip
import GridRobot.Proofs.Session.Requests

/-!
A program from one session to another through a file. The editor and the reader of program files decide on their own
where a definition may stand; what the one lets pass and the other would not is a definition among the instructions
of the main program.
-/
namespace GridRobot

open Instruction (BodyPlain bodyJson walk)

namespace Instruction

def IsValid : Instruction → Prop
  | .assign _ value => ∃ n : Int, value = .int n
  | .repeatTimes count _ => ∃ n : Int, count = .int n
  | .ifThen condition _ | .ifElse condition _ _ | .whileDo condition _ => condition.IsPlain
  | .call name | .define name _ => ∃ word, word ≠ "" ∧ name = .str word
  | .unknown .. | .blank => False
  | .move | .turnLeft | .turnRight | .increment _ | .decrement _ => True

def AllPlain (nodes : List Instruction) : Prop := ∀ node ∈ nodes, node.IsValid ∧ node.isDefinition = false

mutual

theorem isPlain_of_nodes (node : Instruction) (all : AllPlain (nodes node)) : node.IsPlain := by
  have here := all node (mem_nodes.mpr (.inl rfl))
  have below : ∀ body ∈ node.bodies, AllPlain (walk body) := by
    intro body member inner inside
    exact all inner (mem_nodes.mpr (.inr ⟨body, member, inside⟩))
  match node with
  | .move | .turnLeft | .turnRight | .increment _ | .decrement _ => trivial
  | .assign _ _ | .call _ => exact here.1
  | .repeatTimes _ body => exact ⟨here.1, bodyPlain_of_walk body (below body (by simp [bodies]))⟩
  | .ifThen _ body | .whileDo _ body => exact ⟨here.1, bodyPlain_of_walk body (below body (by simp [bodies]))⟩
  | .ifElse _ a b =>
    exact ⟨here.1, bodyPlain_of_walk a (below a (by simp [bodies])), bodyPlain_of_walk b (below b (by simp [bodies]))⟩
  | .define .. => cases here.2
  | .unknown .. | .blank => exact here.1

theorem bodyPlain_of_walk (body : Body) (all : AllPlain (walk body)) : BodyPlain body := by
  match body with
  | [] => trivial
  | node :: rest =>
    constructor
    · apply isPlain_of_nodes node
      intro inner member
      exact all inner (List.mem_append_left _ member)
    · apply bodyPlain_of_walk rest
      intro inner member
      exact all inner (List.mem_append_right _ member)

end

theorem below_of_unnested {body : Body} (unnested : hasNestedDefinition body = false) {node : Instruction}
    (member : node ∈ body) {inner : Body} (inside : inner ∈ node.bodies) :
    ∀ other ∈ walk inner, other.isDefinition = false := by
  have below : ∀ node ∈ body, ∀ inner ∈ node.bodies, ∀ other ∈ walk inner, other.isDefinition = false := by
    simpa [hasNestedDefinition] using unnested
  exact below node member inner inside

section Unnested

variable {body : Body} (valid : ∀ node ∈ walk body, node.IsValid) (unnested : hasNestedDefinition body = false)
include valid unnested

theorem allPlain_below {node : Instruction} (member : node ∈ body) {inner : Body} (inside : inner ∈ node.bodies) :
    AllPlain (walk inner) := by
  intro other found
  constructor
  · exact valid other (mem_walk.mpr ⟨node, member, mem_nodes.mpr (.inr ⟨inner, inside, found⟩)⟩)
  · exact below_of_unnested unnested member inside other found

theorem bodyPlain_of_unnested (undefined : ∀ node ∈ body, node.isDefinition = false) : BodyPlain body := by
  apply bodyPlain_of_walk
  intro other found
  rcases mem_walk.mp found with ⟨node, member, here⟩
  rcases mem_nodes.mp here with rfl | ⟨inner, inside, below⟩
  · exact ⟨valid other found, undefined other member⟩
  · exact allPlain_below valid unnested member inside other below

theorem isPlainDefinition_of_unnested : ∀ f ∈ body.filter isDefinition, f.IsPlainDefinition := by
  intro f kept
  rcases List.mem_filter.mp kept with ⟨member, definition⟩
  cases f with
  | define name inner =>
    constructor
    · exact valid _ (mem_walk.mpr ⟨_, member, mem_nodes.mpr (.inl rfl)⟩)
    · exact bodyPlain_of_walk inner (allPlain_below valid unnested member (by simp [bodies]))
  | _ => cases definition

end Unnested

end Instruction

namespace ProgramFile

theorem programDocument_filter (main functions : Body) (level levelName exportDate : Json) :
    programDocument main functions level levelName exportDate =
      programDocument main (functions.filter Instruction.isDefinition) level levelName exportDate := by
  rw [programDocument, programDocument, List.filter_filter]
  simp

theorem read_definitions {main functions : Body} (plain : BodyPlain main)
    (definitions : ∀ f ∈ functions.filter Instruction.isDefinition, f.IsPlainDefinition) (level : Int)
    (levelName date : String) :
    ∃ file, (read (.text (programText main functions (.int level) (.str levelName) (.str date)).toList)).outcome = .ok file ∧
      file.main = main ∧ file.functions = functions.filter Instruction.isDefinition := by
  have exact := programDocument_isExact plain definitions level levelName date
  have readable : DefinitionsReadable (functions.filter Instruction.isDefinition) := by
    intro f member
    exact (definitions f member).readable.1
  have decoded : Source.decode
      (.text (programText main functions (.int level) (.str levelName) (.str date)).toList) = .ok (.obj
        (exportedFields main (functions.filter Instruction.isDefinition) (.int level) (.str levelName) (.str date))) := by
    rw [Source.decode, programText, programDocument_filter, Json.parse_indented exact,
      programDocument_eq main _ _ _ readable]
    rfl
  have document := ofDocument_exportedFields main (functions.filter Instruction.isDefinition) (.int level)
    (.str levelName) (.str date)
  rw [ofFields_exportedFields _ _ _ (Instruction.BodyPlain.readable main plain).1 readable] at document
  exact ⟨_, congrArg Scan.outcome (read_decoded decoded document), rfl, rfl⟩

theorem ofDocument_define (name : Json) (body rest : Body) (level levelName exportDate : Json) :
    (ofDocument (programDocument (.define name body :: rest) [] level levelName exportDate)).outcome =
      .error (.node .nestedDefinition) := by
  have known : Fields.kind [("type", .str Instruction.Kind.define.tag), ("functionName", name),
    ("body", .arr (bodyJson body))] = .ok (some .define) := rfl
  have nodes : readNodes (bodyJson (.define name body :: rest)) = ⟨[], .error .nestedDefinition⟩ := by
    rw [bodyJson, Instruction.toJson, readNodes, readInstruction_kind true known]
    rfl
  have document := ofDocument_exportedFields (.define name body :: rest) [] level levelName exportDate
  rw [ofFields, exportedFields_functions, exportedFields_main] at document
  have none : readFunctions (bodyJson []) = ⟨[], .ok []⟩ := rfl
  simp only [none, nodes, Scan.ofExcept_ok, Scan.pure_bind] at document
  exact congrArg Scan.outcome document

end ProgramFile

namespace Files

def store (path text : String) (files : Files) : Files :=
  fun other => if other = path then some (.file text.toUTF8.data.toList) else files other

/-- A file can be written at a path, and opened there. -/
def CanHold (files : Files) (path : String) : Prop := ∀ text, ∃ stored, (files.store path text).find path = .ok stored

variable {files : Files} {whole path : String} {stored : Stored}

theorem entry_ok (found : files.entry whole path = .ok stored) : files path = some stored := by
  unfold entry at found
  split at found
  · cases found
  · split at found
    · cases found
    · rename_i there
      cases found
      exact there

theorem walk_ok {directories : List String} (found : files.walk whole (directories ++ [path]) = .ok stored) :
    files path = some stored := by
  induction directories with
  | nil => exact entry_ok found
  | cons directory rest ih =>
    rcases List.exists_cons_of_ne_nil (List.append_ne_nil_of_right_ne_nil rest (List.cons_ne_nil path [])) with ⟨next, more, listed⟩
    rw [List.cons_append, listed, walk] at found
    rw [listed] at ih
    cases entered : files.entry whole directory with
    | error fault =>
      rw [entered] at found
      cases found
    | ok here =>
      rw [entered] at found
      cases here with
      | file bytes | lockedFile | lockedDirectory => cases found
      | directory => exact ih found
    · simp

theorem find_ok (found : files.find path = .ok stored) : files path = some stored := by
  unfold find at found
  split at found
  · cases found
  · split at found
    · cases found
    · exact walk_ok found

theorem canHold_bare (noNull : path.toList.contains (Char.ofNat 0) = false) (bare : split [] [] path.toList = ([], path))
    (short : path.utf8ByteSize ≤ nameLimit) : files.CanHold path := by
  intro text
  refine ⟨.file text.toUTF8.data.toList, ?_⟩
  have fits : ¬pathLimit < path.utf8ByteSize := Nat.not_lt.mpr (Nat.le_trans short (by decide))
  unfold find outer
  rw [noNull, if_neg fits, bare]
  simp [walk, entry, name, bare, store, Nat.not_lt.mpr short]

theorem readText_store (holds : files.CanHold path) {document : Json} (exact : document.IsExact) :
    (files.store path document.indented).readText path = .ok document.indented.toList := by
  rcases holds document.indented with ⟨stored, found⟩
  have here := find_ok found
  rw [store, if_pos rfl] at here
  cases here
  exact readText_document exact found

end Files

namespace Session

variable {s t : Session}

/-- What the editor may install: nothing runs, and no definition stands inside a body. -/
theorem setProgram_accepted {main functions : Body} (accepted : s.setProgram main functions = (t, .ok ())) :
    s.isRunning = false ∧ Instruction.hasNestedDefinition main = false ∧
      Instruction.hasNestedDefinition functions = false ∧ t = { s with program := main, functions } := by
  unfold setProgram at accepted
  split at accepted
  · cases accepted
  · rename_i idle
    split at accepted
    · cases accepted
    · rename_i unnested
      cases accepted
      refine ⟨by simpa using idle, ?_⟩
      simpa using unnested

def handOver (s reader : Session) (files : Files) (path stamp date : String) : Answer ProgramFile :=
  let (_, target, text) := s.exportProgram files path stamp date
  reader.loadFile (files.store target text) target

theorem loadFile_stored {reader : Session} (idle : reader.isRunning = false) {files : Files} {path : String}
    (holds : files.CanHold path) {document : Json} (exact : document.IsExact) :
    reader.loadFile (files.store path document.indented) path =
      reader.importProgram (.text document.indented.toList) := by
  unfold loadFile
  rw [idle, Files.readText_store holds exact]
  rfl

theorem handOver_reads (plain : BodyPlain t.program)
    (definitions : ∀ f ∈ t.functions.filter Instruction.isDefinition, f.IsPlainDefinition) {reader : Session}
    (idle : reader.isRunning = false) {files : Files} {path stamp date : String}
    (holds : files.CanHold (t.exportProgram files path stamp date).2.1) :
    ∃ file, (t.handOver reader files path stamp date).2 = .ok file ∧
      (t.handOver reader files path stamp date).1.program = t.program ∧
      (t.handOver reader files path stamp date).1.functions = t.functions.filter Instruction.isDefinition := by
  have exact := ProgramFile.programDocument_isExact plain definitions t.level.id t.level.name date
  rw [← ProgramFile.programDocument_filter] at exact
  have loaded : t.handOver reader files path stamp date =
      reader.importProgram (.text (programText t.program t.functions (.int t.level.id) (.str t.level.name) (.str date)).toList) :=
    loadFile_stored idle holds exact
  rcases ProgramFile.read_definitions plain definitions t.level.id t.level.name date with ⟨file, read, main, functions⟩
  rcases importProgram_ok idle read with ⟨succeeds, noted⟩
  rw [loaded]
  exact ⟨file, succeeds, noted.program.trans main, noted.functions.trans functions⟩

/-- What the editor installs is exported to a file and loaded from there by any session without a run, the same one
included: the main program as it was, and of the functions the definitions. -/
theorem handOver_installs {main functions : Body} (valid : ∀ node ∈ walk main ++ walk functions, node.IsValid)
    (undefined : ∀ node ∈ main, node.isDefinition = false) (accepted : s.setProgram main functions = (t, .ok ()))
    {files : Files} {path stamp date : String} (holds : files.CanHold (t.exportProgram files path stamp date).2.1)
    {reader : Session} (idle : reader = (t.exportProgram files path stamp date).1 ∨ reader.isRunning = false) :
    ∃ file, (t.handOver reader files path stamp date).2 = .ok file ∧
      (t.handOver reader files path stamp date).1.program = main ∧
      (t.handOver reader files path stamp date).1.functions = functions.filter Instruction.isDefinition := by
  rcases setProgram_accepted accepted with ⟨free, unnested, separate, rfl⟩
  have plain : BodyPlain main := by
    apply Instruction.bodyPlain_of_unnested _ unnested undefined
    intro node member
    exact valid node (List.mem_append_left _ member)
  have definitions : ∀ f ∈ functions.filter Instruction.isDefinition, f.IsPlainDefinition := by
    apply Instruction.isPlainDefinition_of_unnested _ separate
    intro node member
    exact valid node (List.mem_append_right _ member)
  have waits : reader.isRunning = false := by
    rcases idle with rfl | waits
    · exact free
    · exact waits
  exact handOver_reads (t := { s with program := main, functions }) plain definitions waits holds

/-- Two functions that call each other and a stray move among the functions, handed over to a session on another
level. -/
theorem handOver_installs_nested :
    let level : Level :=
      { id := 1, name := "", size := 3, start := ⟨0, 0⟩, direction := .right, goal := ⟨2, 0⟩, obstacles := []
        description := .null, hint := .null }
    let world : World := .ofBoard { size := 3, start := ⟨⟨0, 0⟩, .right, false⟩, goal := ⟨2, 0⟩, obstacles := [] }
    let engine : Engine := { world, draws := .ofList [], observers := [], baseDelay := .int 0, callLimit := .ofInt 3 }
    let s : Session := { allocation := .within 9, catalog := ⟨[level], by simp, false⟩, level, engine }
    let reader : Session := { s with level := { level with id := 2 }, program := [.turnLeft] }
    let main : Body := [.whileDo (.negate (.sensor .coin)) [.repeatTimes (.int (-3)) [.call (.str "f\n")]]]
    let functions : Body :=
      [.define (.str "f\n") [.ifThen .empty [.call (.str "g")]], .move, .define (.str "g") [.assign .r2 (.int 7)]]
    let t : Session := { s with program := main, functions }
    let files : Files := fun _ => none
    s.setProgram main functions = (t, .ok ()) ∧
      ∃ file, (t.handOver reader files "saved.json" "0" "now").2 = .ok file ∧
        (t.handOver reader files "saved.json" "0" "now").1.program = main ∧
        (t.handOver reader files "saved.json" "0" "now").1.functions = functions.filter Instruction.isDefinition := by
  intro level world engine s reader main functions t files
  have valid : ∀ node ∈ walk main ++ walk functions, node.IsValid := by
    simp [main, functions, walk, Instruction.nodes, Instruction.IsValid, Condition.IsPlain]
  have undefined : ∀ node ∈ main, node.isDefinition = false := by simp [main, Instruction.isDefinition]
  have accepted : s.setProgram main functions = (t, .ok ()) := rfl
  have holds : files.CanHold "saved.json" := Files.canHold_bare (by decide) (by decide) (by decide)
  exact ⟨accepted, handOver_installs valid undefined accepted holds (.inr rfl)⟩

/-- What the editor lets pass as well: a move among the functions is not written, a definition among the instructions
of the main program is written and refused, and a session with a run loads nothing. -/
theorem handOver_loses :
    let level : Level :=
      { id := 1, name := "A", size := 3, start := ⟨0, 0⟩, direction := .right, goal := ⟨2, 0⟩, obstacles := []
        description := .null, hint := .null }
    let world : World := .ofBoard { size := 3, start := ⟨⟨0, 0⟩, .right, false⟩, goal := ⟨2, 0⟩, obstacles := [] }
    let engine : Engine := { world, draws := .ofList [], observers := [], baseDelay := .int 0, callLimit := .ofInt 3 }
    let s : Session := { allocation := .within 9, catalog := ⟨[level], by simp, false⟩, level, engine }
    let busy : Session := { s with engine := engine.armed [] [] (.int 1) (.bool false) }
    let stray : Session := { s with functions := [.move] }
    let defining : Session := { s with program := [.define (.str "f") []] }
    let files : Files := fun _ => none
    s.setProgram [] [.move] = (stray, .ok ()) ∧
      (stray.handOver s files "saved.json" "0" "now").1.functions = [] ∧
      s.setProgram [.define (.str "f") []] [] = (defining, .ok ()) ∧
      (defining.handOver s files "saved.json" "0" "now").2 = .error (.program (.node .nestedDefinition)) ∧
      (s.handOver busy files "saved.json" "0" "now").2 = .error (.engine .alreadyRunning) := by
  intro level world engine s busy stray defining files
  have holds : files.CanHold "saved.json" := Files.canHold_bare (by decide) (by decide) (by decide)
  refine ⟨rfl, ?_, rfl, ?_, rfl⟩
  · have definitions : ∀ f ∈ stray.functions.filter Instruction.isDefinition, f.IsPlainDefinition := by
      simp [stray, Instruction.isDefinition]
    have idle : s.isRunning = false := rfl
    obtain ⟨file, -, -, kept⟩ : ∃ file, (stray.handOver s files "saved.json" "0" "now").2 = .ok file ∧
      (stray.handOver s files "saved.json" "0" "now").1.program = stray.program ∧
      (stray.handOver s files "saved.json" "0" "now").1.functions = stray.functions.filter Instruction.isDefinition :=
        handOver_reads (t := stray) trivial definitions idle holds
    exact kept
  · have exact : (programDocument defining.program [] (.int 1) (.str "A") (.str "now")).IsExact := by
      simp [programDocument, defining, bodyJson, Instruction.toJson, Json.IsExact, Json.AllExact, Json.FieldsExact]
    have loaded : defining.handOver s files "saved.json" "0" "now" = s.importProgram (.text
        (programText defining.program [] (.int 1) (.str "A") (.str "now")).toList) := loadFile_stored rfl holds exact
    have decoded : Source.decode (.text (programText defining.program [] (.int 1) (.str "A") (.str "now")).toList) =
        .ok (programDocument defining.program [] (.int 1) (.str "A") (.str "now")) := by
      rw [Source.decode, programText, Json.parse_indented exact]
      rfl
    rw [loaded]
    exact (importProgram_refused rfl ((ProgramFile.read_refused decoded).mpr (ProgramFile.ofDocument_define ..))).1

end Session

end GridRobot
