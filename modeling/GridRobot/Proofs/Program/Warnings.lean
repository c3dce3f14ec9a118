import GridRobot.Proofs.Program.Places

/-!
What the reading of a program warns of: one warning for each placeholder, in the order of the text, and one for each
entry among the functions that is dropped. A program without warnings is therefore read whole.
-/
namespace GridRobot

open Instruction (nodes walk bodyAlerts)

namespace Condition

def isUnknown : Condition → Bool
  | .unknown .. => true
  | _ => false

theorem alerts_core (c : Condition) : c.core.alerts = c.alerts := by
  induction c with
  | negate inner ih => exact ih
  | empty | sensor | compare | unknown => rfl

theorem length_alerts (c : Condition) : c.alerts.length = c.core.isUnknown.toNat := by
  induction c with
  | negate inner ih => exact ih
  | empty | sensor | compare | unknown => rfl

end Condition

namespace Instruction

def isUnknown : Instruction → Bool
  | .unknown .. => true
  | _ => false

def testsUnknown (node : Instruction) : Bool := node.test?.any fun c => c.core.isUnknown

/-- What is said of an instruction by itself, without its bodies: that it or its condition is a placeholder. -/
def notices : Instruction → List ReadWarning
  | .unknown _ fields => [.instruction (Fields.get? fields "type")]
  | node => (node.test?.map fun c => c.core.alerts).getD []

/-- How many placeholders there are in a body, for instructions and for conditions, at every depth. -/
def placeholders (body : Body) : Nat := (walk body).countP isUnknown + (walk body).countP testsUnknown

mutual

theorem alerts_eq_flatMap (node : Instruction) : node.alerts = (nodes node).flatMap notices := by
  cases node with
  | repeatTimes _ body | define _ body =>
    rw [alerts, nodes, List.flatMap_cons, bodyAlerts_eq_flatMap body]
    rfl
  | ifThen c body | whileDo c body =>
    -- The condition speaks first: it belongs to the instruction itself, and its bodies come after it in the walk.
    rw [alerts, nodes, List.flatMap_cons, bodyAlerts_eq_flatMap body, ← c.alerts_core]
    rfl
  | ifElse c a b =>
    rw [alerts, nodes, List.flatMap_cons, List.flatMap_append, bodyAlerts_eq_flatMap a, bodyAlerts_eq_flatMap b,
      ← c.alerts_core]
    rfl
  | move | turnLeft | turnRight | assign | increment | decrement | call | unknown | blank => rfl

theorem bodyAlerts_eq_flatMap (body : List Instruction) : bodyAlerts body = (walk body).flatMap notices := by
  cases body with
  | nil => rfl
  | cons node rest =>
    rw [bodyAlerts, walk, List.flatMap_append, alerts_eq_flatMap node, bodyAlerts_eq_flatMap rest]

end

theorem length_notices (node : Instruction) : node.notices.length = node.isUnknown.toNat + node.testsUnknown.toNat := by
  cases node with
  | ifThen c | ifElse c | whileDo c =>
    show c.core.alerts.length = 0 + c.core.isUnknown.toNat
    rw [c.alerts_core, c.length_alerts, Nat.zero_add]
  | move | turnLeft | turnRight | assign | increment | decrement | repeatTimes | call | define | unknown | blank => rfl

theorem length_flatMap_notices (list : List Instruction) :
    (list.flatMap notices).length = list.countP isUnknown + list.countP testsUnknown := by
  induction list with
  | nil => rfl
  | cons node rest ih =>
    rw [List.flatMap_cons, List.length_append, length_notices, ih, List.countP_cons, List.countP_cons]
    cases node.isUnknown <;> cases node.testsUnknown <;> simp <;> omega

theorem length_bodyAlerts (body : Body) : (bodyAlerts body).length = placeholders body := by
  rw [bodyAlerts_eq_flatMap, length_flatMap_notices, placeholders]

theorem length_entryAlerts (trees : Body) :
    (trees.flatMap entryAlerts).length = placeholders trees + trees.countP fun tree => !tree.isDefinition := by
  rw [← length_bodyAlerts]
  induction trees with
  | nil => rfl
  | cons tree rest ih =>
    rw [List.flatMap_cons, List.length_append, ih, List.countP_cons, bodyAlerts, List.length_append, entryAlerts,
      List.length_append, dismissal]
    cases tree.isDefinition <;> simp <;> omega

end Instruction

namespace ProgramFile

open Instruction (isDefinition notices placeholders)

/-- The warnings of a program that was read are those of all trees read, the dropped ones too: as many as there are
placeholders and dropped entries, in the order of the text. Without them nothing was replaced and nothing dropped. -/
theorem read_warns_of_placeholders {source : Source} {file : ProgramFile} (accepted : (read source).outcome = .ok file) :
    ∃ (fields : Fields) (trees : Body), source.decode = .ok (.obj fields) ∧ AllRead false (fields.items "functions") trees ∧
      file.functions = trees.filter isDefinition ∧ AllRead true (fields.items "mainProgram") file.main ∧
      file.warnings = (trees.flatMap (fun tree => (nodes tree).flatMap notices ++ tree.dismissal) ++
        (walk file.main).flatMap notices).map ReadWarning.text ∧
      file.warnings.length =
        placeholders trees + placeholders file.main + (trees.countP fun tree => !tree.isDefinition) ∧
      (file.warnings = [] ↔ placeholders trees = 0 ∧ placeholders file.main = 0 ∧ file.functions = trees) := by
  rcases read_made accepted with ⟨fields, trees, decoded, each, kept, main, noted⟩
  have count : file.warnings.length =
      placeholders trees + placeholders file.main + trees.countP fun tree => !tree.isDefinition := by
    rw [noted, List.length_map, List.length_append, Instruction.length_entryAlerts, Instruction.length_bodyAlerts]
    omega
  refine ⟨fields, trees, decoded, each, kept, main, ?_, count, ?_⟩
  · have entries : Instruction.entryAlerts = fun tree => (nodes tree).flatMap notices ++ tree.dismissal := by
      funext tree
      rw [Instruction.entryAlerts, Instruction.alerts_eq_flatMap]
    rw [noted, entries, Instruction.bodyAlerts_eq_flatMap]
  · -- Nothing is dropped just if every entry passes the filter, that is, if none fails it.
    have whole : file.functions = trees ↔ (trees.countP fun tree => !tree.isDefinition) = 0 := by
      rw [kept, List.filter_eq_self, List.countP_eq_zero]
      simp
    rw [← List.length_eq_zero_iff, count, whole]
    omega

/-- A dropped placeholder and a dropped instruction around a function, which has an unknown word under a negation and
an unknown instruction with a body; and an unknown comparison in the main program. -/
theorem read_warns_of_placeholders_nested :
    let warp : Json := .obj [("type", .str "warp")]
    let jump : Json := .obj [("type", .str "jump"), ("body", .arr [warp, .null])]
    let loop : Json := .obj [("type", .str "while"), ("body", .arr [jump]),
      ("condition", .obj [("type", .str "not"), ("condition", .str "windy")])]
    let function : Json := .obj [("type", .str "function"), ("body", .arr [loop])]
    let branch : Json := .obj [("type", .str "if"), ("condition", .obj [("type", .str "registerLess")])]
    let fields : Fields := [("version", .str "1.0"), ("mainProgram", .arr [branch]),
      ("functions", .arr [warp, function, .obj [("type", .str "move")]])]
    ∃ file trees, (read (.document (.obj fields))).outcome = .ok file ∧ file.functions = trees.filter isDefinition ∧
      placeholders trees = 3 ∧ placeholders file.main = 1 ∧ (trees.countP fun tree => !tree.isDefinition) = 2 ∧
      file.warnings.length = 3 + 1 + 2 ∧ file.functions ≠ trees ∧
      file.warnings = [ReadWarning.instruction (some (.str "warp")), .ignored "", .condition (some (.str "windy")),
        .instruction (some (.str "jump")), .ignored "move", .condition (some (.str "registerLess"))].map ReadWarning.text := by
  intro warp jump loop function branch fields
  have definitions : readFunctions [warp, function, .obj [("type", .str "move")]] =
      ⟨[.instruction (some (.str "warp")), .ignored "", .condition (some (.str "windy")),
        .instruction (some (.str "jump")), .ignored "move"],
        .ok [.define (.str "func1") [.whileDo (.negate (.unknown (.str "windy") []))
          [.unknown "jump" [("type", .str "jump"), ("body", .arr [warp, .null])]]]]⟩ := by
    cbv
  have nodes : readNodes [branch] = ⟨[.condition (some (.str "registerLess"))],
      .ok [.ifThen (.unknown (.str "registerLess") [("type", .str "registerLess")]) []]⟩ := by
    cbv
  have entries : AllRead false [warp, function, .obj [("type", .str "move")]]
      [.unknown "warp" [("type", .str "warp")],
        .define (.str "func1") [.whileDo (.negate (.unknown (.str "windy") []))
          [.unknown "jump" [("type", .str "jump"), ("body", .arr [warp, .null])]]], .move] := by
    refine .cons ?_ (.cons ?_ (.cons ?_ .nil)) <;> cbv
  rcases read_of_lists fields rfl rfl definitions rfl nodes with ⟨file, accepted, functions, main, -⟩
  rcases read_warns_of_placeholders accepted with ⟨others, trees, decoded, each, kept, -, noted, count, -⟩
  cases decoded
  have same := List.right_unique_forall₂' (fun _ _ _ one other => Except.ok.inj (one.symm.trans other)) each entries
  subst same
  rw [main] at noted count
  refine ⟨file, _, accepted, kept, rfl, congrArg placeholders main, rfl, count, ?_, noted⟩
  rw [functions]
  rintro ⟨⟩

end ProgramFile

end GridRobot
