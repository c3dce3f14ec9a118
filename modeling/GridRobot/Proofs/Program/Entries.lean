import GridRobot.Proofs.Program.Grammar

/-!
What a program is made of, entry by entry, and of what its reading warns: of the placeholders in the trees that are
read, and of the entries that are dropped.
-/
namespace GridRobot

open Instruction (bodyAlerts)

/-- The tree that a document is read as, at the top level or nested. -/
def Json.ReadsAs (data : Json) (node : Instruction) : Prop := ∃ nested, (readInstruction nested data).outcome = .ok node

abbrev AllRead (nested : Bool) : List Json → Body → Prop :=
  List.Forall₂ fun item node => (readInstruction nested item).outcome = .ok node

theorem readNodes_each {items : List Json} {body : Body} (read : (readNodes items).outcome = .ok body) :
    AllRead true items body := by
  induction items generalizing body with
  | nil =>
    rw [readNodes] at read
    cases read
    exact .nil
  | cons item rest ih =>
    rw [readNodes] at read
    rcases Scan.outcome_of_bind read with ⟨node, first, read⟩
    rcases Scan.outcome_of_bind read with ⟨nodes, others, made⟩
    cases made
    exact .cons first (ih others)

theorem readBody_readsAs {fields : Fields} {key : String} {body : Body} {warnings : List ReadWarning}
    (read : readBody fields key = ⟨warnings, .ok body⟩) : List.Forall₂ Json.ReadsAs (fields.items key) body := by
  have nodes := congrArg Scan.outcome (readBody_ok read)
  exact (readNodes_each nodes).imp fun item node read => ⟨true, read⟩

theorem Condition.ofFields_alerts {fields : Fields} {warnings : List ReadWarning} {c : Condition}
    (read : ofFields fields = ⟨warnings, .ok c⟩) : warnings.map ReadWarning.text = c.alerts.map ReadWarning.text := by
  by_cases known : ∃ op : Comparison, fields.get? "type" = some (.str op.tag)
  · rcases known with ⟨op, known⟩
    rw [ofFields_tag known, comparison] at read
    rcases Scan.split_bind read with ⟨_, value, _, first, rest, rfl⟩
    rcases Scan.split_bind rest with ⟨_, register, _, second, made, rfl⟩
    rcases Scan.split_ofExcept first with ⟨-, rfl⟩
    rcases Scan.split_ofExcept second with ⟨-, rfl⟩
    cases made
    rfl
  · have strange : ∀ op : Comparison, fields.get? "type" ≠ some (.str op.tag) := fun op same => known ⟨op, same⟩
    rw [ofFields_strange strange] at read
    cases read
    -- An object without fields becomes the word for a missing type, which is what the warning shows.
    cases fields with
    | nil => rfl
    | cons field rest => rfl

mutual

theorem readCondition_alerts (data : Json) {warnings : List ReadWarning} {c : Condition}
    (read : readCondition data = ⟨warnings, .ok c⟩) : warnings.map ReadWarning.text = c.alerts.map ReadWarning.text := by
  match data with
  | .null =>
    rw [readCondition] at read
    cases read
    rfl
  | .str word =>
    rw [readCondition, Condition.ofWord] at read
    split at read
    · cases read
      rfl
    · split at read
      · cases read
        rfl
      · cases read
        rfl
  | .obj fields =>
    rw [readCondition] at read
    split at read
    · rcases Scan.split_bind read with ⟨_, inner, _, inside, made, rfl⟩
      cases made
      rw [List.append_nil, Condition.alerts]
      exact readConditionField_alerts fields inside
    · exact Condition.ofFields_alerts read
  | .bool _ | .num _ | .arr _ =>
    rw [readCondition] at read
    · cases read
    all_goals
      intros
      contradiction
termination_by (sizeOf data, 0)
decreasing_by all_goals simp [Prod.lex_def]

theorem readConditionField_alerts (fields : Fields) {warnings : List ReadWarning} {c : Condition}
    (read : readConditionField fields = ⟨warnings, .ok c⟩) :
    warnings.map ReadWarning.text = c.alerts.map ReadWarning.text := by
  cases given : fields.get? "condition" with
  | none =>
    rw [readConditionField_none given] at read
    cases read
    rfl
  | some data =>
    rw [readConditionField_some given] at read
    exact readCondition_alerts data read
termination_by (sizeOf fields, 1)
decreasing_by
  have := Fields.sizeOf_get? given
  simp [Prod.lex_def, this]

end

mutual

/-- Reading an instruction warns of just the placeholders in its tree, in the order of the text. -/
theorem readInstruction_alerts (nested : Bool) (data : Json) {warnings : List ReadWarning} {node : Instruction}
    (read : readInstruction nested data = ⟨warnings, .ok node⟩) :
    warnings.map ReadWarning.text = node.alerts.map ReadWarning.text := by
  rcases readInstruction_cases read with ⟨fields, document, ⟨-, rfl, rfl⟩ | ⟨kind, -, made⟩⟩
  · rfl
  · have smaller (key : String) : sizeOf (fields.items key) < sizeOf data := document ▸ fields.sizeOf_items key
    cases made with
    | move | turnLeft | turnRight | assign | increment | decrement | call => rfl
    | repeatTimes _ inner | define _ inner => exact readNodes_alerts _ (readBody_ok inner)
    | ifThen test inner | whileDo test inner =>
      rw [Instruction.alerts, List.map_append, List.map_append, readConditionField_alerts fields test,
        readNodes_alerts _ (readBody_ok inner)]
    | ifElse test thenRead elseRead =>
      rw [Instruction.alerts, List.map_append, List.map_append, List.map_append, List.map_append,
        readConditionField_alerts fields test, readNodes_alerts _ (readBody_ok thenRead),
        readNodes_alerts _ (readBody_ok elseRead)]
termination_by sizeOf data
decreasing_by all_goals exact smaller _

theorem readNodes_alerts (items : List Json) {warnings : List ReadWarning} {body : Body}
    (read : readNodes items = ⟨warnings, .ok body⟩) :
    warnings.map ReadWarning.text = (bodyAlerts body).map ReadWarning.text := by
  match items with
  | [] =>
    rw [readNodes] at read
    cases read
    rfl
  | item :: rest =>
    rw [readNodes] at read
    rcases Scan.split_bind read with ⟨_, node, _, first, more, rfl⟩
    rcases Scan.split_bind more with ⟨_, nodes, _, others, made, rfl⟩
    cases made
    rw [bodyAlerts, List.append_nil, List.map_append, List.map_append, readInstruction_alerts true item first,
      readNodes_alerts rest others]
termination_by sizeOf items

end

def Instruction.dismissal (tree : Instruction) : List ReadWarning :=
  if tree.isDefinition then [] else [.ignored tree.tag]

/-- The warnings of an entry among the functions: those of its tree, and one more where it is no definition. -/
def Instruction.entryAlerts (tree : Instruction) : List ReadWarning := tree.alerts ++ tree.dismissal

theorem readFunctions_made {items : List Json} {functions : Body} {warnings : List ReadWarning}
    (read : readFunctions items = ⟨warnings, .ok functions⟩) :
    ∃ trees, AllRead false items trees ∧ functions = trees.filter Instruction.isDefinition ∧
      warnings.map ReadWarning.text = (trees.flatMap Instruction.entryAlerts).map ReadWarning.text := by
  induction items generalizing functions warnings with
  | nil =>
    cases read
    exact ⟨[], .nil, rfl, rfl⟩
  | cons item rest ih =>
    rw [readFunctions] at read
    rcases Scan.split_bind read with ⟨own, tree, _, first, more, rfl⟩
    have here := readInstruction_alerts false item first
    cases definition : tree.isDefinition with
    | true =>
      rw [if_pos definition] at more
      rcases Scan.split_bind more with ⟨_, nodes, _, others, made, rfl⟩
      cases made
      rcases ih others with ⟨trees, each, kept, noted⟩
      refine ⟨tree :: trees, .cons (congrArg Scan.outcome first) each, ?_, ?_⟩
      · rw [List.filter_cons_of_pos definition, kept]
      · rw [List.append_nil, List.map_append, here, noted, List.flatMap_cons, List.map_append]
        simp [Instruction.entryAlerts, Instruction.dismissal, definition]
    | false =>
      -- An entry that is dropped adds its own warning behind those of its tree.
      rw [if_neg (by simp [definition])] at more
      rcases Scan.split_bind more with ⟨_, _, _, warned, others, rfl⟩
      cases warned
      rcases ih others with ⟨trees, each, kept, noted⟩
      refine ⟨tree :: trees, .cons (congrArg Scan.outcome first) each, ?_, ?_⟩
      · rw [List.filter_cons_of_neg (by simp [definition]), kept]
      · rw [List.map_append, List.map_append, here, noted, List.flatMap_cons, List.map_append]
        simp [Instruction.entryAlerts, Instruction.dismissal, definition]

namespace ProgramFile

theorem ofFields_made {fields : Fields} {file : ProgramFile} {warnings : List ReadWarning}
    (read : ofFields fields = ⟨warnings, .ok file⟩) :
    ∃ trees, AllRead false (fields.items "functions") trees ∧ file.functions = trees.filter Instruction.isDefinition ∧
      AllRead true (fields.items "mainProgram") file.main ∧
      warnings.map ReadWarning.text =
        (trees.flatMap Instruction.entryAlerts ++ bodyAlerts file.main).map ReadWarning.text := by
  rcases Scan.split_bind read with ⟨_, rawFunctions, _, first, rest, rfl⟩
  rcases Scan.split_bind rest with ⟨_, functions, _, definitions, last, rfl⟩
  rcases Scan.split_bind last with ⟨_, rawMain, _, second, nodes, rfl⟩
  rcases Scan.split_bind nodes with ⟨_, main, _, body, made, rfl⟩
  rcases Scan.split_ofExcept first with ⟨listedFunctions, rfl⟩
  rcases Scan.split_ofExcept second with ⟨listedMain, rfl⟩
  cases made
  rw [listing_items listedFunctions] at definitions
  rw [listing_items listedMain] at body
  rcases readFunctions_made definitions with ⟨trees, each, kept, noted⟩
  refine ⟨trees, each, kept, readNodes_each (congrArg Scan.outcome body), ?_⟩
  rw [List.nil_append, List.nil_append, List.append_nil, List.map_append, List.map_append, noted,
    readNodes_alerts _ body]

theorem read_made {source : Source} {file : ProgramFile} (accepted : (read source).outcome = .ok file) :
    ∃ (fields : Fields) (trees : Body), source.decode = .ok (.obj fields) ∧ AllRead false (fields.items "functions") trees ∧
      file.functions = trees.filter Instruction.isDefinition ∧ AllRead true (fields.items "mainProgram") file.main ∧
      file.warnings = (trees.flatMap Instruction.entryAlerts ++ bodyAlerts file.main).map ReadWarning.text := by
  cases decoded : source.decode with
  | error error =>
    rw [read_undecoded decoded] at accepted
    cases accepted
  | ok data =>
    rcases made : ofDocument data with ⟨warnings, outcome⟩
    cases outcome with
    | error error =>
      rw [(read_refused decoded).mpr (congrArg Scan.outcome made)] at accepted
      cases accepted
    | ok program =>
      rcases versioned_of_read (congrArg Scan.outcome made) with ⟨fields, rfl, version⟩
      rw [read_decoded decoded made] at accepted
      cases accepted
      rw [ofDocument_versioned version] at made
      rcases Scan.outcome_ok_iff.mp (Scan.outcome_of_mapError (congrArg Scan.outcome made)) with ⟨others, read⟩
      have same : others = warnings := by
        rw [read] at made
        exact congrArg Scan.warnings made
      rcases ofFields_made read with ⟨trees, each, kept, main, noted⟩
      exact ⟨fields, trees, rfl, each, kept, main, same ▸ noted⟩

theorem read_of_lists (fields : Fields) {rawFunctions rawMain : List Json} {functions main : Body}
    {warnings more : List ReadWarning} (version : fields.get? "version" = some (.str fileVersion))
    (listedFunctions : fields.listing "functions" = .ok rawFunctions)
    (definitions : readFunctions rawFunctions = ⟨warnings, .ok functions⟩)
    (listedMain : fields.listing "mainProgram" = .ok rawMain) (nodes : readNodes rawMain = ⟨more, .ok main⟩) :
    ∃ file, (read (.document (.obj fields))).outcome = .ok file ∧ file.functions = functions ∧ file.main = main ∧
      file.warnings = (warnings ++ more).map ReadWarning.text := by
  have document := ofDocument_versioned version
  rw [ofFields_parts listedFunctions definitions listedMain nodes] at document
  exact ⟨_, congrArg Scan.outcome (read_decoded rfl document), rfl, rfl, rfl⟩

end ProgramFile

end GridRobot
