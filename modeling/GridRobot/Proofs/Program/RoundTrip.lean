import GridRobot.Program.File
import GridRobot.Proofs.Json.RoundTrip
import GridRobot.Proofs.Program.Readable

/-!
Program files there and back. A program of known instructions survives the way through the text of a file,
and a program that was read, whatever from, is read again as it is from the document that is exported.
-/
namespace GridRobot

open Instruction (bodyJson bodyAlerts BodyReadable)

def Condition.IsPlain : Condition → Prop
  | .empty | .sensor _ => True
  | .compare _ _ value => ∃ n : Int, value = .int n
  | .negate inner => inner.IsPlain
  | .unknown .. => False

namespace Instruction

mutual

/-- An instruction of a known kind that is no definition, with integers for counts and values, and with names
that are not empty. -/
def IsPlain : Instruction → Prop
  | .assign _ value => ∃ n : Int, value = .int n
  | .repeatTimes count body => (∃ n : Int, count = .int n) ∧ BodyPlain body
  | .ifThen condition body => condition.IsPlain ∧ BodyPlain body
  | .ifElse condition a b => condition.IsPlain ∧ BodyPlain a ∧ BodyPlain b
  | .whileDo condition body => condition.IsPlain ∧ BodyPlain body
  | .call name => ∃ word, word ≠ "" ∧ name = .str word
  | .define .. | .unknown .. | .blank => False
  | _ => True

def BodyPlain : List Instruction → Prop
  | [] => True
  | node :: rest => IsPlain node ∧ BodyPlain rest

end

def IsPlainDefinition : Instruction → Prop
  | .define name body => (∃ word, word ≠ "" ∧ name = .str word) ∧ BodyPlain body
  | _ => False

end Instruction

open Instruction (BodyPlain)

theorem Condition.IsPlain.readable {c : Condition} (plain : c.IsPlain) : c.IsReadable ∧ c.alerts = [] := by
  induction c with
  | empty | sensor => exact ⟨trivial, rfl⟩
  | compare => exact ⟨plain, rfl⟩
  | negate inner ih => exact ih plain
  | unknown => exact plain.elim

mutual

theorem Instruction.IsPlain.readable (node : Instruction) (plain : node.IsPlain) :
    node.IsReadable true ∧ node.alerts = [] := by
  match node with
  | .move | .turnLeft | .turnRight | .increment _ | .decrement _ => exact ⟨trivial, rfl⟩
  | .assign _ _ => exact ⟨plain, rfl⟩
  | .repeatTimes count body =>
    rcases plain with ⟨integer, inner⟩
    rcases Instruction.BodyPlain.readable body inner with ⟨inner, quiet⟩
    exact ⟨⟨integer, inner⟩, quiet⟩
  | .ifThen condition body | .whileDo condition body =>
    rcases plain with ⟨test, inner⟩
    rcases test.readable with ⟨test, known⟩
    rcases Instruction.BodyPlain.readable body inner with ⟨inner, quiet⟩
    refine ⟨⟨test, inner⟩, ?_⟩
    rw [Instruction.alerts, known, quiet]
    rfl
  | .ifElse condition a b =>
    rcases plain with ⟨test, first, second⟩
    rcases test.readable with ⟨test, known⟩
    rcases Instruction.BodyPlain.readable a first with ⟨first, quiet⟩
    rcases Instruction.BodyPlain.readable b second with ⟨second, calm⟩
    refine ⟨⟨test, first, second⟩, ?_⟩
    rw [Instruction.alerts, known, quiet, calm]
    rfl
  | .call _ => exact ⟨plain, rfl⟩
  | .define .. | .unknown .. | .blank => exact plain.elim

theorem Instruction.BodyPlain.readable (body : Body) (plain : BodyPlain body) :
    BodyReadable body ∧ bodyAlerts body = [] := by
  match body with
  | [] => exact ⟨trivial, rfl⟩
  | node :: rest =>
    rcases plain with ⟨first, others⟩
    rcases Instruction.IsPlain.readable node first with ⟨first, quiet⟩
    rcases Instruction.BodyPlain.readable rest others with ⟨others, calm⟩
    refine ⟨⟨first, others⟩, ?_⟩
    rw [bodyAlerts, quiet, calm]
    rfl

end

theorem Condition.IsPlain.toJson_isExact {c : Condition} (plain : c.IsPlain) : c.toJson.IsExact := by
  induction c with
  | empty | sensor => trivial
  | compare r op value =>
    rcases plain with ⟨n, rfl⟩
    exact ⟨⟨trivial, trivial, trivial, trivial⟩, by simp⟩
  | negate inner ih =>
    have exact := ih plain
    cases inner with
    | empty => exact ⟨⟨trivial, trivial⟩, by simp⟩
    | sensor | compare | negate | unknown => exact ⟨⟨trivial, exact, trivial⟩, by simp⟩
  | unknown => exact plain.elim

theorem Condition.toFields_cases (c : Condition) :
    c.toFields = [] ∨ c.toFields = [("condition", c.toJson)] := by
  cases c with
  | empty => exact .inl rfl
  | sensor | compare | negate | unknown => exact .inr rfl

theorem Condition.IsPlain.obj_isExact {c : Condition} (plain : c.IsPlain) (tag : String) {bodies : Fields}
    (exact : Json.FieldsExact bodies) (distinct : ("type" :: "condition" :: bodies.map Prod.fst).Nodup) :
    Json.IsExact (.obj (("type", .str tag) :: c.toFields ++ bodies)) := by
  rcases c.toFields_cases with slot | given
  · rw [slot]
    refine ⟨⟨trivial, exact⟩, ?_⟩
    exact distinct.sublist (List.Sublist.cons_cons _ (List.sublist_cons_self _ _))
  · rw [given]
    exact ⟨⟨trivial, plain.toJson_isExact, exact⟩, distinct⟩

mutual

theorem Instruction.IsPlain.toJson_isExact (node : Instruction) (plain : node.IsPlain) :
    node.toJson.IsExact := by
  match node with
  | .move | .turnLeft | .turnRight => exact ⟨⟨trivial, trivial⟩, by simp⟩
  | .increment _ | .decrement _ => exact ⟨⟨trivial, trivial, trivial⟩, by simp⟩
  | .assign r value =>
    rcases plain with ⟨n, rfl⟩
    exact ⟨⟨trivial, trivial, trivial, trivial⟩, by simp⟩
  | .repeatTimes count body =>
    rcases plain with ⟨⟨n, rfl⟩, inner⟩
    exact ⟨⟨trivial, trivial, Instruction.BodyPlain.bodyJson_isExact body inner, trivial⟩, by simp⟩
  | .ifThen condition body | .whileDo condition body =>
    rcases plain with ⟨test, inner⟩
    exact test.obj_isExact _ ⟨Instruction.BodyPlain.bodyJson_isExact body inner, trivial⟩ (by simp)
  | .ifElse condition a b =>
    rcases plain with ⟨test, first, second⟩
    exact test.obj_isExact _ ⟨Instruction.BodyPlain.bodyJson_isExact a first,
      Instruction.BodyPlain.bodyJson_isExact b second, trivial⟩ (by simp)
  | .call name =>
    rcases plain with ⟨word, -, rfl⟩
    exact ⟨⟨trivial, trivial, trivial⟩, by simp⟩
  | .define .. | .unknown .. | .blank => exact plain.elim

theorem Instruction.BodyPlain.bodyJson_isExact (body : Body) (plain : BodyPlain body) :
    Json.AllExact (bodyJson body) := by
  match body with
  | [] => trivial
  | node :: rest =>
    exact ⟨Instruction.IsPlain.toJson_isExact node plain.1, Instruction.BodyPlain.bodyJson_isExact rest plain.2⟩

end

def DefinitionsReadable (functions : Body) : Prop := ∀ f ∈ functions, f.isDefinition = true ∧ f.IsReadable false

theorem Instruction.IsPlainDefinition.readable {f : Instruction} (plain : f.IsPlainDefinition) :
    (f.isDefinition = true ∧ f.IsReadable false) ∧ f.alerts = [] := by
  cases f with
  | define name body =>
    rcases plain with ⟨named, inner⟩
    rcases Instruction.BodyPlain.readable body inner with ⟨inner, quiet⟩
    exact ⟨⟨rfl, rfl, named, inner⟩, quiet⟩
  | _ => exact plain.elim

theorem Instruction.IsPlainDefinition.toJson_isExact {f : Instruction} (plain : f.IsPlainDefinition) :
    f.toJson.IsExact := by
  cases f with
  | define name body =>
    rcases plain with ⟨⟨word, -, rfl⟩, inner⟩
    exact ⟨⟨trivial, trivial, Instruction.BodyPlain.bodyJson_isExact body inner, trivial⟩, by simp⟩
  | _ => exact plain.elim

section Definitions

variable {functions : Body} (plain : ∀ f ∈ functions, f.IsPlainDefinition)
include plain

theorem bodyAlerts_plainDefinitions : bodyAlerts functions = [] := by
  induction functions with
  | nil => rfl
  | cons f rest ih =>
    have first := plain f (List.mem_cons_self ..)
    have others : ∀ g ∈ rest, g.IsPlainDefinition := by
      intro g member
      exact plain g (List.mem_cons_of_mem _ member)
    rw [bodyAlerts, first.readable.2, ih others]
    rfl

theorem bodyJson_plainDefinitions : Json.AllExact (bodyJson functions) := by
  induction functions with
  | nil => trivial
  | cons f rest ih =>
    have first := plain f (List.mem_cons_self ..)
    have others : ∀ g ∈ rest, g.IsPlainDefinition := by
      intro g member
      exact plain g (List.mem_cons_of_mem _ member)
    exact ⟨first.toJson_isExact, ih others⟩

end Definitions

theorem readFunctions_bodyJson (functions : Body) (readable : DefinitionsReadable functions) :
    readFunctions (bodyJson functions) = ⟨bodyAlerts functions, .ok functions⟩ := by
  induction functions with
  | nil => rfl
  | cons f rest ih =>
    have first := readable f (List.mem_cons_self ..)
    have others := ih fun g member => readable g (List.mem_cons_of_mem _ member)
    rw [bodyJson, readFunctions, readInstruction_toJson false f first.2, Scan.ok_bind]
    simp only [first.1, if_true, others]
    simp [bodyAlerts]

theorem readFunctions_readable (items : List Json) {functions : Body}
    (read : (readFunctions items).outcome = .ok functions) : DefinitionsReadable functions := by
  induction items generalizing functions with
  | nil =>
    cases read
    intro f member
    cases member
  | cons item rest ih =>
    rw [readFunctions] at read
    rcases Scan.outcome_of_bind read with ⟨f, first, read⟩
    split at read
    · rename_i definition
      rcases Scan.outcome_of_bind read with ⟨others, kept, made⟩
      cases made
      intro g member
      rcases List.mem_cons.mp member with rfl | member
      · exact ⟨definition, readInstruction_readable false item first⟩
      · exact ih kept g member
    · rcases Scan.outcome_of_bind read with ⟨-, -, kept⟩
      exact ih kept

def exportedFields (main functions : Body) (level levelName exportDate : Json) : Fields := [
  ("version", .str fileVersion),
  ("level", level),
  ("levelName", levelName),
  ("functions", .arr (bodyJson functions)),
  ("mainProgram", .arr (bodyJson main)),
  ("exportDate", exportDate)]

theorem programDocument_eq {functions : Body} (main : Body) (level levelName exportDate : Json)
    (readable : DefinitionsReadable functions) :
    programDocument main functions level levelName exportDate =
      .obj (exportedFields main functions level levelName exportDate) := by
  rw [programDocument, List.filter_eq_self.mpr fun f member => (readable f member).1]
  rfl

theorem Fields.wording_str {fields : Fields} {key default word : String} (given : word = "" → default = "")
    (found : fields.get? key = some (.str word)) : fields.wording key default = word := by
  unfold wording
  rw [found]
  by_cases empty : word = ""
  · subst empty
    exact given rfl
  · have filled : (Json.str word).isTruthy = true := by simpa [Json.isTruthy] using empty
    exact if_pos filled

theorem Fields.wording_ne_empty (fields : Fields) (key : String) {default : String} (filled : default ≠ "") :
    fields.wording key default ≠ "" := by
  unfold wording
  split
  · exact filled
  · split
    · rename_i given
      exact Json.text_ne_empty given
    · exact filled

theorem LevelNumber.levelNumber_toJson (level : LevelNumber) {fields : Fields}
    (found : fields.get? "level" = some level.toJson) :
    fields.levelNumber = level := by
  unfold Fields.levelNumber
  cases level <;> simp [found, LevelNumber.toJson]

theorem exportDate_str (date now : String) :
    ∃ written, exportDate (.str date) now = .str written ∧ (date ≠ "" → written = date) := by
  unfold exportDate
  by_cases empty : date = ""
  · subst empty
    exact ⟨now, rfl, fun given => absurd rfl given⟩
  · have filled : (Json.str date).isTruthy = true := by simpa [Json.isTruthy] using empty
    exact ⟨date, if_pos filled, fun _ => rfl⟩

namespace ProgramFile

/-- A program as it is read: readable trees, and a level that has a name. -/
structure IsReadable (file : ProgramFile) : Prop where
  main : BodyReadable file.main
  functions : DefinitionsReadable file.functions
  levelName : file.levelName ≠ ""

theorem ofDocument_versioned {fields : Fields} (version : fields.get? "version" = some (.str fileVersion)) :
    ofDocument (.obj fields) = (ofFields fields).mapError .node := by
  simp [ofDocument, version]

theorem ofFields_parts {fields : Fields} {rawFunctions rawMain : List Json} {functions main : Body}
    {warnings more : List ReadWarning} (listedFunctions : fields.listing "functions" = .ok rawFunctions)
    (definitions : readFunctions rawFunctions = ⟨warnings, .ok functions⟩)
    (listedMain : fields.listing "mainProgram" = .ok rawMain) (nodes : readNodes rawMain = ⟨more, .ok main⟩) :
    ofFields fields = ⟨warnings ++ more, .ok
      { level := fields.levelNumber, levelName := fields.wording "levelName" "Unknown", functions, main
        exportDate := fields.wording "exportDate" "", version := fileVersion, warnings := [] }⟩ := by
  rw [ofFields, listedFunctions, listedMain]
  simp [definitions, nodes]

section Exported

variable (main functions : Body) (level levelName exportDate : Json)

theorem exportedFields_functions :
    (exportedFields main functions level levelName exportDate).listing "functions" = .ok (bodyJson functions) := rfl

theorem exportedFields_main :
    (exportedFields main functions level levelName exportDate).listing "mainProgram" = .ok (bodyJson main) := rfl

theorem ofDocument_exportedFields : ofDocument (.obj (exportedFields main functions level levelName exportDate)) =
    (ofFields (exportedFields main functions level levelName exportDate)).mapError .node := ofDocument_versioned rfl

theorem ofFields_exportedFields {main functions : Body} (readable : BodyReadable main)
    (definitions : DefinitionsReadable functions) :
    let fields := exportedFields main functions level levelName exportDate
    ofFields fields = ⟨bodyAlerts functions ++ bodyAlerts main, .ok
      { level := fields.levelNumber, levelName := fields.wording "levelName" "Unknown", functions, main
        exportDate := fields.wording "exportDate" "", version := fileVersion, warnings := [] }⟩ :=
  ofFields_parts (exportedFields_functions ..) (readFunctions_bodyJson functions definitions) (exportedFields_main ..)
    (readNodes_bodyJson main readable)

end Exported

theorem ofDocument_programDocument {file : ProgramFile} (readable : file.IsReadable) (date : String) :
    ofDocument (programDocument file.main file.functions file.level.toJson (.str file.levelName) (.str date)) =
      ⟨bodyAlerts file.functions ++ bodyAlerts file.main,
        .ok { file with exportDate := date, version := fileVersion, warnings := [] }⟩ := by
  obtain ⟨fields, written⟩ : ∃ fields : Fields,
    fields = exportedFields file.main file.functions file.level.toJson (.str file.levelName) (.str date) := ⟨_, rfl⟩
  have number : fields.levelNumber = file.level := file.level.levelNumber_toJson (written ▸ rfl)
  have name : fields.wording "levelName" "Unknown" = file.levelName :=
    Fields.wording_str (fun empty => absurd empty readable.levelName) (written ▸ rfl)
  have day : fields.wording "exportDate" "" = date := Fields.wording_str (fun _ => rfl) (written ▸ rfl)
  rw [programDocument_eq file.main _ _ _ readable.functions, ofDocument_exportedFields,
    ofFields_exportedFields _ _ _ readable.main readable.functions, ← written, number, name, day]
  rfl

theorem ofFields_readable {fields : Fields} {file : ProgramFile}
    (accepted : (ofFields fields).outcome = .ok file) :
    file.IsReadable := by
  rcases Scan.outcome_of_bind accepted with ⟨rawFunctions, -, accepted⟩
  rcases Scan.outcome_of_bind accepted with ⟨functions, definitions, accepted⟩
  rcases Scan.outcome_of_bind accepted with ⟨rawMain, -, accepted⟩
  rcases Scan.outcome_of_bind accepted with ⟨main, nodes, made⟩
  cases made
  constructor
  · rcases Scan.outcome_ok_iff.mp nodes with ⟨warnings, nodes⟩
    exact readNodes_readable rawMain nodes
  · exact readFunctions_readable rawFunctions definitions
  · exact fields.wording_ne_empty "levelName" (by decide)

theorem ofDocument_readable {data : Json} {file : ProgramFile}
    (accepted : (ofDocument data).outcome = .ok file) :
    file.IsReadable := by
  unfold ofDocument at accepted
  split at accepted
  · rename_i fields
    dsimp only at accepted
    split at accepted
    · split at accepted
      · exact ofFields_readable (Scan.outcome_of_mapError accepted)
      · cases accepted
    · cases accepted
  · cases accepted

theorem read_readable {source : Source} {file : ProgramFile} (accepted : (read source).outcome = .ok file) :
    file.IsReadable := by
  unfold read at accepted
  split at accepted
  · cases accepted
  · rename_i data decoded
    dsimp only at accepted
    rcases made : (ofDocument data).outcome with fault | program
    · rw [made] at accepted
      cases accepted
    · rw [made] at accepted
      cases accepted
      have readable := ofDocument_readable made
      exact ⟨readable.main, readable.functions, readable.levelName⟩

theorem read_decoded {source : Source} {data : Json} {warnings : List ReadWarning} {file : ProgramFile}
    (decoded : source.decode = .ok data) (made : ofDocument data = ⟨warnings, .ok file⟩) :
    read source = ⟨warnings, .ok { file with warnings := warnings.map ReadWarning.text }⟩ := by
  simp only [read, decoded, made]
  rfl

/-- Reading settles what a program is: what is exported of it is read again, and exported again, as the same. -/
theorem reread_of_read {source : Source} {file : ProgramFile} (accepted : (read source).outcome = .ok file)
    (now : String) :
    ∃ again, (read (.document (programDocument file.main file.functions file.level.toJson (.str file.levelName)
        (GridRobot.exportDate (.str file.exportDate) now)))).outcome = .ok again ∧
      again.main = file.main ∧ again.functions = file.functions ∧ again.level = file.level ∧
      again.levelName = file.levelName ∧
      ∀ date, programDocument again.main again.functions again.level.toJson (.str again.levelName) date =
        programDocument file.main file.functions file.level.toJson (.str file.levelName) date := by
  have readable := read_readable accepted
  rcases exportDate_str file.exportDate now with ⟨date, dated, -⟩
  have document := ofDocument_programDocument readable date
  rw [dated, read_decoded rfl document]
  exact ⟨_, rfl, rfl, rfl, rfl, rfl, fun _ => rfl⟩

/-- A document of which hardly a field says what it should: a level that is true, names that are no texts, NaN in an
instruction that is not known, an object without fields for a condition and a word for a negation. -/
theorem reread_of_read_coerced :
    let call : Fields := [("type", .str "call"), ("functionName", .arr [.null])]
    let warp : Fields := [("type", .str "warp"), ("power", .num (.float .nan))]
    let test : Fields := [("type", .str "if"), ("condition", .obj [])]
    let loop : Fields := [("type", .str "while"), ("condition", .str "not"), ("body", .null)]
    let fields : Fields := [("version", .str "1.0"), ("levelName", .bool true), ("level", .bool true),
      ("functions", .null), ("mainProgram", .arr [.obj call, .obj warp, .obj test, .obj loop])]
    ∃ file again, (read (.document (.obj fields))).outcome = .ok file ∧
      file.main = [.call (.str "[None]"), .unknown "warp" warp, .ifThen (.unknown (.str "None") []) [],
        .whileDo (.negate .empty) []] ∧
      (read (.document (programDocument file.main file.functions file.level.toJson (.str file.levelName)
        (GridRobot.exportDate (.str file.exportDate) "now")))).outcome = .ok again ∧
      again.main = file.main ∧ again.functions = file.functions ∧ again.level = file.level ∧
      again.levelName = file.levelName := by
  intro call warp test loop fields
  have readCall : readInstruction true (.obj call) = ⟨[], .ok (.call (.str "[None]"))⟩ := by
    have known : Fields.kind call = .ok (some .call) := rfl
    rw [readInstruction_kind true known]
    rfl
  have readWarp : readInstruction true (.obj warp) = ⟨[.instruction (some (.str "warp"))], .ok (.unknown "warp" warp)⟩ :=
    readInstruction_unknown true rfl
  have readTest : readInstruction true (.obj test) =
      ⟨[.condition none], .ok (.ifThen (.unknown (.str "None") []) [])⟩ := by
    have known : Fields.kind test = .ok (some .ifThen) := rfl
    have given : Fields.get? test "condition" = some (.obj []) := rfl
    have strange : ∀ op : Comparison, Fields.get? [] "type" ≠ some (.str op.tag) := by
      intro op same
      cases same
    have slot : readCondition (.obj []) = ⟨[.condition none], .ok (.unknown (.str "None") [])⟩ := by
      rw [readCondition]
      exact Condition.ofFields_strange strange
    have missing : readBody test "body" = ⟨[], .ok []⟩ := by
      rw [readBody]
      rfl
    rw [readInstruction_kind true known, readKind, readConditionField_some given, slot, missing]
    rfl
  have readLoop : readInstruction true (.obj loop) = ⟨[], .ok (.whileDo (.negate .empty) [])⟩ := by
    have known : Fields.kind loop = .ok (some .whileDo) := rfl
    have given : Fields.get? loop "condition" = some (.str "not") := rfl
    have negation : readCondition (.str "not") = ⟨[], .ok (.negate .empty)⟩ := by
      rw [readCondition]
      rfl
    have null : readBody loop "body" = ⟨[], .ok []⟩ := by
      rw [readBody]
      rfl
    rw [readInstruction_kind true known, readKind, readConditionField_some given, negation, null]
    rfl
  have nodes : readNodes [.obj call, .obj warp, .obj test, .obj loop] =
      ⟨[.instruction (some (.str "warp")), .condition none], .ok [.call (.str "[None]"), .unknown "warp" warp,
        .ifThen (.unknown (.str "None") []) [], .whileDo (.negate .empty) []]⟩ := by
    rw [readNodes, readNodes, readNodes, readNodes, readNodes, readCall, readWarp, readTest, readLoop]
    rfl
  have versioned : ofDocument (.obj fields) = (ofFields fields).mapError .node := ofDocument_versioned rfl
  have program : ofFields fields = _ := ofFields_parts rfl rfl rfl nodes
  rw [program] at versioned
  have accepted : (read (.document (.obj fields))).outcome = _ := congrArg Scan.outcome (read_decoded rfl versioned)
  rcases reread_of_read accepted "now" with ⟨again, reread, main, functions, level, name, -⟩
  exact ⟨_, again, accepted, rfl, reread, main, functions, level, name⟩

theorem programDocument_isExact {main functions : Body} (plain : BodyPlain main)
    (definitions : ∀ f ∈ functions, f.IsPlainDefinition) (level : Int) (levelName date : String) :
    (programDocument main functions (.int level) (.str levelName) (.str date)).IsExact := by
  rw [programDocument_eq main _ _ _ fun f member => (definitions f member).readable.1]
  have nodes := Instruction.BodyPlain.bodyJson_isExact main plain
  have bodies := bodyJson_plainDefinitions definitions
  exact ⟨⟨trivial, trivial, trivial, bodies, nodes, trivial, trivial⟩, by simp [exportedFields]⟩

/-- A program of known instructions is read from the text of its file as it was written, without a warning. -/
theorem read_programText {main functions : Body} {levelName date : String} (plain : BodyPlain main)
    (definitions : ∀ f ∈ functions, f.IsPlainDefinition) (level : Int) (named : levelName ≠ "") (dated : date ≠ "")
    (now : String) :
    read (.text (programText main functions (.int level) (.str levelName)
        (GridRobot.exportDate (.str date) now)).toList) =
      ⟨[], .ok
        { level := .number level, levelName, functions, main, exportDate := date, version := fileVersion
          warnings := [] }⟩ := by
  rcases exportDate_str date now with ⟨written, kept, same⟩
  have back := same dated
  subst back
  have text := Json.parse_indented (programDocument_isExact plain definitions level levelName written)
  have decoded : Source.decode (.text (programText main functions (.int level) (.str levelName) (.str written)).toList) =
      .ok (programDocument main functions (.int level) (.str levelName) (.str written)) := by
    rw [Source.decode, programText, text]
    rfl
  rcases Instruction.BodyPlain.readable main plain with ⟨readable, quiet⟩
  have file : IsReadable
      { level := .number level, levelName, functions, main, exportDate := written, version := fileVersion
        warnings := [] } := ⟨readable, fun f member => (definitions f member).readable.1, named⟩
  have document := ofDocument_programDocument file written
  rw [quiet, bodyAlerts_plainDefinitions definitions] at document
  rw [kept, read_decoded decoded document]
  rfl

/-- A deep tree with integers beyond every double and a name with a pair of code units, a quote and a line feed. -/
theorem read_programText_nested :
    let name := "f\"\n\u2028🤖"
    let main : Body := [
      .whileDo (.negate (.negate .empty)) [
        .repeatTimes (.int (-10000000000000000000000000000000000000000)) [
          .ifElse (.compare .r3 .greater (.int 10000000000000000000000000000000000000000)) [.assign .r2 (.int (-7))]
            [.call (.str name), .turnLeft]]],
      .ifThen .empty [.decrement .r4]]
    let functions : Body := [.define (.str name) [.ifThen (.negate (.sensor .coin)) [.move]], .define (.str "g") []]
    read (.text (programText main functions (.int (-3)) (.str "1.0") (GridRobot.exportDate (.str "today") "now")).toList) =
      ⟨[], .ok
        { level := .number (-3), levelName := "1.0", functions, main, exportDate := "today", version := fileVersion
          warnings := [] }⟩ := by
  intro name main functions
  have plain : BodyPlain main := by
    simp [main, name, BodyPlain, Instruction.IsPlain, Condition.IsPlain]
  have definitions : ∀ f ∈ functions, f.IsPlainDefinition := by
    simp [functions, name, BodyPlain, Instruction.IsPlainDefinition, Instruction.IsPlain, Condition.IsPlain]
  exact read_programText plain definitions (-3) (by decide) (by decide) "now"

end ProgramFile

end GridRobot
