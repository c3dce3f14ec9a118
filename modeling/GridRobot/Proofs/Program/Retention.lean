import GridRobot.Proofs.Program.Places

/-!
What is not understood is kept. An instruction of an unknown type and a condition that says nothing known are written
as they were read, at every place of a program; of conditions, an object without fields alone is written as a word.
-/
namespace GridRobot

open Instruction (bodyJson)

namespace Json

/-- An object that says the type of no instruction. -/
def IsUnknown (data : Json) : Prop :=
  ∃ fields : Fields, data = .obj fields ∧ ∀ kind : Instruction.Kind, fields.get? "type" ≠ some (.str kind.tag)

/-- A condition that is not understood: a word of no meaning, or an object of no known type. -/
inductive IsStrange : Json → Prop
  | word {text : String} (positive : text ≠ "not") (noSensor : ∀ s : Sensor, text ≠ s.tag) : IsStrange (.str text)
  | object {fields : Fields} (positive : fields.get? "type" ≠ some (.str "not"))
      (noComparison : ∀ op : Comparison, fields.get? "type" ≠ some (.str op.tag)) : IsStrange (.obj fields)

def isDefinition (data : Json) : Bool :=
  match data.known? with
  | some (.define, _) => true
  | _ => false

/-- What an instruction's document says that is not understood is written at the same places. -/
structure IsRetained (data written : Json) : Prop where
  instruction {way : Way} {inner : Json} (found : data.at? way = some inner) (unknown : inner.IsUnknown) :
    written.at? way = some inner
  condition {way : Way} {depth : Nat} {test : Json} (found : data.testAt? way depth = some test) (strange : test.IsStrange)
    (filled : test ≠ .obj []) : written.testAt? way depth = some test
  /-- An object without fields is taken for the word that a missing type is shown by. -/
  bare {way : Way} {depth : Nat} (found : data.testAt? way depth = some (.obj [])) :
    written.testAt? way depth = some (.str "None")

end Json

theorem Json.IsUnknown.unread {data : Json} (unknown : data.IsUnknown) : data.known? = none := by
  rcases unknown with ⟨fields, rfl, strange⟩
  rw [Json.known?]
  split
  · rename_i kind known
    exact (strange kind (Fields.kind_known_iff.mp known)).elim
  · rfl

theorem Json.ReadsAs.toJson_unknown {data : Json} {node : Instruction} (reads : data.ReadsAs node)
    (unknown : data.IsUnknown) : node.toJson = data := by
  rcases reads.made with ⟨-, fields, rfl, rfl⟩ | ⟨nested, kind, fields, warnings, known, -⟩
  · rfl
  · rw [unknown.unread] at known
    cases known

namespace Condition

theorem readCondition_strange {fields : Fields} (positive : fields.get? "type" ≠ some (.str "not"))
    (noComparison : ∀ op : Comparison, fields.get? "type" ≠ some (.str op.tag)) :
    (readCondition (.obj fields)).outcome = .ok (placeholder fields) := by
  rw [readCondition, if_neg fun negation => positive (fields.isNegation_iff.mp negation), ofFields_strange noComparison]

theorem toJson_of_strange {test : Json} (strange : test.IsStrange) (filled : test ≠ .obj []) {c : Condition}
    (read : (readCondition test).outcome = .ok c) : c.toJson = test := by
  cases strange with
  | @word text positive noSensor =>
    have unread : Sensor.ofTag? text = none := by
      cases found : Sensor.ofTag? text with
      | none => rfl
      | some s => exact (noSensor s (Sensor.tag_of_ofTag? found).symm).elim
    rw [readCondition, ofWord_strange ⟨positive, unread⟩] at read
    cases read
    rfl
  | @object fields positive noComparison =>
    rw [readCondition_strange positive noComparison] at read
    cases read
    cases fields with
    | nil => exact (filled rfl).elim
    | cons field rest => rfl

theorem toJson_bare {c : Condition} (read : (readCondition (.obj [])).outcome = .ok c) : c.toJson = .str "None" := by
  rw [readCondition_strange (by rintro ⟨⟩) (by rintro op ⟨⟩)] at read
  cases read
  rfl

end Condition

section Kept

variable {data : Json} {node : Instruction} (reads : data.ReadsAs node)
include reads

theorem Json.ReadsAs.testAt_toJson {way : Way} {depth : Nat} {test written : Json}
    (found : data.testAt? way depth = some test) (kept : ∀ c, (readCondition test).outcome = .ok c → c.toJson = written)
    (filled : written ≠ .null) : node.toJson.testAt? way depth = some written := by
  rcases reads with ⟨nested, read⟩
  rcases Json.ReadsAs.testAt ⟨nested, read⟩ found with ⟨c, reached, inside⟩
  have same := kept c inside
  -- An empty slot is not written at all; this condition is not one, for it is written as something else than null.
  have slot : c ≠ .empty := by
    rintro rfl
    exact filled same.symm
  rw [(readInstruction_readable nested data read).testAt_toJson reached slot, same]

theorem Json.ReadsAs.isRetained : data.IsRetained node.toJson := by
  constructor
  · intro way inner found unknown
    rcases reads.at found with ⟨there, reached, tells⟩
    rcases reads with ⟨nested, read⟩
    rw [(readInstruction_readable nested data read).at_toJson reached, tells.toJson_unknown unknown]
  · intro way depth test found strange filled
    apply reads.testAt_toJson found
    · intro c read
      exact Condition.toJson_of_strange strange filled read
    · rintro rfl
      cases strange
  · intro way depth found
    apply reads.testAt_toJson found
    · intro c read
      exact Condition.toJson_bare read
    · rintro ⟨⟩

theorem Json.ReadsAs.isDefinition : data.isDefinition = node.isDefinition := by
  rcases reads.made with ⟨unread, fields, -, rfl⟩ | ⟨nested, kind, fields, warnings, known, made⟩
  · rw [Json.isDefinition, unread]
    rfl
  · rw [Json.isDefinition, known]
    cases made <;> rfl

end Kept

namespace ProgramFile

/-- What was not understood in a program that was read is written back as it was, at the same places: in the main
program, in the definitions, in their bodies, and under negations. -/
theorem read_retained {source : Source} {file : ProgramFile} (accepted : (read source).outcome = .ok file)
    (level levelName date : Json) :
    ∃ fields written : Fields, source.decode = .ok (.obj fields) ∧
      programDocument file.main file.functions level levelName date = .obj written ∧
      List.Forall₂ Json.IsRetained ((fields.items "functions").filter Json.isDefinition) (written.items "functions") ∧
      List.Forall₂ Json.IsRetained (fields.items "mainProgram") (written.items "mainProgram") := by
  rcases read_made accepted with ⟨fields, trees, decoded, each, kept, main, -⟩
  have readable := read_readable accepted
  refine ⟨fields, _, decoded, programDocument_eq _ _ _ _ readable.functions, ?_, ?_⟩
  · show List.Forall₂ Json.IsRetained _ (bodyJson file.functions)
    rw [kept, Instruction.bodyJson_eq_map, List.forall₂_map_right_iff]
    have reads : List.Forall₂ Json.ReadsAs (fields.items "functions") trees :=
      each.imp fun item node read => ⟨false, read⟩
    -- The reader drops what is no definition after reading, the statement before: both drop the same entries.
    have alike (item : Json) (node : Instruction) (reads : item.ReadsAs node) :
        item.isDefinition = true ↔ node.isDefinition = true := by rw [reads.isDefinition]
    exact (List.rel_filter alike reads).imp fun item node reads => reads.isRetained
  · show List.Forall₂ Json.IsRetained _ (bodyJson file.main)
    rw [Instruction.bodyJson_eq_map, List.forall₂_map_right_iff]
    exact main.imp fun item node read => Json.ReadsAs.isRetained ⟨true, read⟩

/-- An instruction with a list of another inside, in a function and in a loop; a comparison that is not known, under a
negation; and an entry of the functions that is dropped. -/
theorem read_retained_nested :
    let warp : Fields := [("power", .num (.float .nan)), ("type", .str "warp"), ("body", .arr [.obj [("type", .str "move")]])]
    let test : Fields := [("type", .str "registerLess"), ("value", .arr [.int 3, .null])]
    let function : Fields := [("type", .str "function"), ("extra", .int 1), ("body", .arr [.obj warp, .obj []])]
    let loop : Fields := [("body", .arr [.obj [("type", .str "move")], .obj warp]), ("type", .str "while"),
      ("condition", .obj [("type", .str "not"), ("condition", .obj test)])]
    let fields : Fields := [("version", .str "1.0"), ("functions", .arr [.obj warp, .obj function]),
      ("mainProgram", .arr [.obj loop])]
    ∃ (file : ProgramFile) (definition node : Json) (written : Fields),
      (read (.document (.obj fields))).outcome = .ok file ∧
      programDocument file.main file.functions (.int 1) (.str "A") (.str "now") = .obj written ∧
      written.items "functions" = [definition] ∧ written.items "mainProgram" = [node] ∧
      definition.at? [(0, 0)] = some (.obj warp) ∧ definition.at? [(0, 1)] = some (.obj []) ∧
      node.at? [(0, 1)] = some (.obj warp) ∧ node.testAt? [] 1 = some (.obj test) := by
  intro warp test function loop fields
  have definitions : readFunctions [.obj warp, .obj function] =
      ⟨[.instruction (some (.str "warp")), .ignored "", .instruction (some (.str "warp")), .instruction none],
        .ok [.define (.str "func1") [.unknown "warp" warp, .unknown "" []]]⟩ := by
    cbv
  have nodes : readNodes [.obj loop] =
      ⟨[.condition (some (.str "registerLess")), .instruction (some (.str "warp"))],
        .ok [.whileDo (.negate (.unknown (.str "registerLess") test)) [.move, .unknown "warp" warp]]⟩ := by
    cbv
  rcases read_of_lists fields rfl rfl definitions rfl nodes with ⟨file, accepted, -⟩
  rcases read_retained accepted (.int 1) (.str "A") (.str "now") with ⟨others, written, decoded, exported, functions, main⟩
  cases decoded
  have unknownWarp : (Json.obj warp).IsUnknown := ⟨warp, rfl, (Fields.kind_unknown_iff.mp rfl).1⟩
  have unknownBare : (Json.obj []).IsUnknown := ⟨[], rfl, (Fields.kind_unknown_iff.mp rfl).1⟩
  have type : Fields.get? test "type" = some (.str "registerLess") := rfl
  have strange : (Json.obj test).IsStrange := by
    apply Json.IsStrange.object
    · simp [type]
    · intro op
      cases op <;> simp [type, Comparison.tag]
  have kept : (Fields.items fields "functions").filter Json.isDefinition = [.obj function] := rfl
  rw [kept, List.forall₂_cons_left_iff] at functions
  rcases functions with ⟨definition, _, inDefinition, none, writtenFunctions⟩
  cases none
  rcases List.forall₂_cons_left_iff.mp main with ⟨node, _, inLoop, none, writtenMain⟩
  cases none
  exact ⟨file, definition, node, written, accepted, exported, writtenFunctions, writtenMain,
    inDefinition.instruction rfl unknownWarp, inDefinition.instruction rfl unknownBare,
    inLoop.instruction rfl unknownWarp, inLoop.condition rfl strange (by simp [test])⟩

/-- A condition without fields says nothing known, and is written as a word. -/
theorem read_rewrites_bare :
    let loop : Json := .obj [("type", .str "while"), ("condition", .obj [])]
    let fields : Fields := [("version", .str "1.0"), ("mainProgram", .arr [loop])]
    ∃ (file : ProgramFile) (node : Json) (written : Fields),
      (read (.document (.obj fields))).outcome = .ok file ∧
      programDocument file.main file.functions (.int 1) (.str "A") (.str "now") = .obj written ∧
      written.items "mainProgram" = [node] ∧ (Json.obj []).IsStrange ∧
      loop.testAt? [] 0 = some (.obj []) ∧ node.testAt? [] 0 = some (.str "None") := by
  intro loop fields
  have nodes : readNodes [loop] = ⟨[.condition none], .ok [.whileDo (.unknown (.str "None") []) []]⟩ := by
    cbv
  rcases read_of_lists fields rfl rfl rfl rfl nodes with ⟨file, accepted, functions, main, -⟩
  have strange : (Json.obj []).IsStrange := Json.IsStrange.object (by rintro ⟨⟩) (by rintro op ⟨⟩)
  exact ⟨file, _, _, accepted, congrArg₂ (programDocument · · _ _ _) main functions, rfl, strange, rfl, rfl⟩

end ProgramFile

end GridRobot
