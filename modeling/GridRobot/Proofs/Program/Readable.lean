import GridRobot.Proofs.Program.Making

/-!
The trees that the reader makes. `IsReadable` says what they look like, whatever document they come from,
and every such tree is read again as it is from the document that is written for it.
-/
namespace GridRobot

theorem Comparison.tag_of_ofTag? {tag : String} {op : Comparison} (found : Comparison.ofTag? tag = some op) :
    op.tag = tag := by
  simpa using List.find?_some found

namespace Condition

def alerts : Condition → List ReadWarning
  | .negate inner => inner.alerts
  | .unknown tag fields => [.condition (if fields.isEmpty then some tag else Fields.get? fields "type")]
  | _ => []

def IsStrange (word : String) : Prop := word ≠ "not" ∧ Sensor.ofTag? word = none

def AreStrange (fields : Fields) : Prop :=
  fields ≠ [] ∧ fields.get? "type" ≠ some (.str "not") ∧ ∀ op : Comparison, fields.get? "type" ≠ some (.str op.tag)

/-- A condition as the reader makes it: a placeholder keeps either a strange word or strange fields. -/
def IsReadable : Condition → Prop
  | .empty | .sensor _ => True
  | .compare _ _ value => ∃ n : Int, value = .int n
  | .negate inner => inner.IsReadable
  | .unknown tag fields => (∃ word, IsStrange word ∧ tag = .str word ∧ fields = []) ∨
      (AreStrange fields ∧ Condition.unknown tag fields = placeholder fields)

end Condition

namespace Instruction

mutual

def alerts : Instruction → List ReadWarning
  | .repeatTimes _ body => bodyAlerts body
  | .ifThen condition body => condition.alerts ++ bodyAlerts body
  | .ifElse condition a b => condition.alerts ++ (bodyAlerts a ++ bodyAlerts b)
  | .whileDo condition body => condition.alerts ++ bodyAlerts body
  | .define _ body => bodyAlerts body
  | .unknown _ fields => [.instruction (Fields.get? fields "type")]
  | _ => []

def bodyAlerts : List Instruction → List ReadWarning
  | [] => []
  | node :: rest => alerts node ++ bodyAlerts rest

end

mutual

/-- An instruction as the reader makes it, at the top level or nested. -/
def IsReadable (nested : Bool) : Instruction → Prop
  | .assign _ value => ∃ n : Int, value = .int n
  | .repeatTimes count body => (∃ n : Int, count = .int n) ∧ BodyReadable body
  | .ifThen condition body => condition.IsReadable ∧ BodyReadable body
  | .ifElse condition a b => condition.IsReadable ∧ BodyReadable a ∧ BodyReadable b
  | .whileDo condition body => condition.IsReadable ∧ BodyReadable body
  | .call name => ∃ word, word ≠ "" ∧ name = .str word
  | .define name body => nested = false ∧ (∃ word, word ≠ "" ∧ name = .str word) ∧ BodyReadable body
  | .unknown kind fields => Fields.kind fields = .ok none ∧ Instruction.unknown kind fields = placeholder fields
  | .blank => False
  | _ => True

def BodyReadable : List Instruction → Prop
  | [] => True
  | node :: rest => IsReadable true node ∧ BodyReadable rest

end

end Instruction

namespace Fields

variable (fields : Fields)

theorem kind_tag (word : Instruction.Kind) :
    Fields.kind (("type", .str word.tag) :: fields) = .ok (some word) := by
  have known := Instruction.Kind.ofTag?_tag word
  simp only [kind, get?, List.lookup_cons_self, Option.getD_some]
  exact congrArg Except.ok known

theorem get?_skip {key other : String} (value : Json) (different : (key == other) = false) :
    Fields.get? ((other, value) :: fields) key = fields.get? key := by
  rw [get?, List.lookup_cons, different]
  rfl

theorem get?_self (key : String) (value : Json) : Fields.get? ((key, value) :: fields) key = some value := by
  rw [get?, List.lookup_cons_self]

theorem register_name (r : Register) (found : fields.get? "register" = some (.str r.name)) :
    fields.register = .ok r := by
  simp only [register, found, Register.ofName?_name]

theorem integer_int {key : String} {n : Int} (default : Int) (found : fields.get? key = some (.int n)) :
    fields.integer key default = .ok n := by
  simp only [integer, found, Option.getD_some]
  rfl

theorem name_str {word : String} (given : word ≠ "") (found : fields.get? "functionName" = some (.str word)) :
    fields.name = word := by
  have filled : (Json.str word).isTruthy = true := by
    simpa [Json.isTruthy] using given
  simp only [name, found, filled, if_true]
  rfl

theorem isNegation_iff : fields.isNegation = true ↔ fields.get? "type" = some (.str "not") := by
  unfold isNegation
  split
  · rename_i tag found
    rw [found]
    simp
  · rename_i other
    constructor
    · intro impossible
      cases impossible
    · intro found
      exact (other _ found).elim

end Fields

namespace Condition

def field? : Condition → Option Json
  | .empty => none
  | c => some c.toJson

theorem get?_toFields (tag : Json) (c : Condition) {rest : Fields} (last : rest.get? "condition" = none) :
    Fields.get? (("type", tag) :: c.toFields ++ rest) "condition" = c.field? := by
  rw [List.cons_append, Fields.get?_skip _ _ rfl]
  cases c with
  | empty => exact last
  | sensor | compare | negate | unknown => exact Fields.get?_self _ _ _

theorem get?_toFields_other (tag : Json) (c : Condition) (rest : Fields) {key : String}
    (kind : (key == "type") = false)
    (other : (key == "condition") = false) : Fields.get? (("type", tag) :: c.toFields ++ rest) key = rest.get? key := by
  rw [List.cons_append, Fields.get?_skip _ _ kind]
  cases c with
  | empty => rfl
  | sensor | compare | negate | unknown => exact Fields.get?_skip _ _ other

theorem ofWord_strange {word : String} (strange : IsStrange word) :
    ofWord word = ⟨[.condition (some (.str word))], .ok (.unknown (.str word) [])⟩ := by
  unfold ofWord
  rw [if_neg strange.1, strange.2]
  rfl

theorem ofFields_tag {fields : Fields} {op : Comparison} (known : fields.get? "type" = some (.str op.tag)) :
    ofFields fields = comparison fields op := by
  unfold ofFields
  simp only [known, Comparison.ofTag?_tag]

theorem ofFields_strange {fields : Fields}
    (strange : ∀ op : Comparison, fields.get? "type" ≠ some (.str op.tag)) :
    ofFields fields = ⟨[.condition (fields.get? "type")], .ok (placeholder fields)⟩ := by
  unfold ofFields
  dsimp only
  split
  · rename_i op found
    split at found
    · rename_i tag given
      rw [← Comparison.tag_of_ofTag? found] at given
      exact (strange op given).elim
    · cases found
  · rfl

theorem ofFields_compare (r : Register) (op : Comparison) (n : Int) :
    ofFields [("type", .str op.tag), ("register", .str r.name), ("value", .int n)] =
      ⟨[], .ok (.compare r op (.int n))⟩ := by
  have value : Fields.integer [("type", .str op.tag), ("register", .str r.name), ("value", .int n)] "value" 0 = .ok n :=
    Fields.integer_int _ 0 rfl
  have register := Fields.register_name [("type", .str op.tag), ("register", .str r.name), ("value", .int n)] r rfl
  rw [ofFields_tag (Fields.get?_self _ _ _), comparison, value, register]
  rfl

end Condition

theorem readConditionField_none {fields : Fields} (missing : fields.get? "condition" = none) :
    readConditionField fields = ⟨[], .ok .empty⟩ := by
  rw [readConditionField]
  split
  · rfl
  · rename_i found
    rw [missing] at found
    cases found

theorem readConditionField_some {fields : Fields} {data : Json}
    (given : fields.get? "condition" = some data) :
    readConditionField fields = readCondition data := by
  rw [readConditionField]
  split
  · rename_i missing
    rw [given] at missing
    cases missing
  · rename_i found
    rw [given] at found
    cases found
    rfl

theorem readCondition_negation {fields : Fields} {inner : Condition} {warnings : List ReadWarning}
    (negation : fields.isNegation = true) (read : readConditionField fields = ⟨warnings, .ok inner⟩) :
    readCondition (.obj fields) = ⟨warnings, .ok (.negate inner)⟩ := by
  rw [readCondition, if_pos negation, read, Scan.ok_bind]
  exact congrArg (Scan.mk · _) (List.append_nil warnings)

theorem readCondition_toJson (c : Condition) (readable : c.IsReadable) :
    readCondition c.toJson = ⟨c.alerts, .ok c⟩ := by
  induction c with
  | empty =>
    rw [Condition.toJson, readCondition]
    rfl
  | sensor s =>
    have word : s.tag ≠ "not" := by cases s <;> decide
    rw [Condition.toJson, readCondition, Condition.ofWord, if_neg word, Sensor.ofTag?_tag]
    rfl
  | compare r op value =>
    rcases readable with ⟨n, rfl⟩
    have positive : ¬Fields.isNegation [("type", .str op.tag), ("register", .str r.name), ("value", .int n)] = true := by
      cases op with
      | equals | greater =>
        intro negation
        cases negation
    rw [Condition.toJson, readCondition, if_neg positive]
    exact Condition.ofFields_compare r op n
  | negate inner ih =>
    -- An empty slot is written by leaving the field out.
    by_cases slot : inner = .empty
    · subst slot
      exact readCondition_negation rfl (readConditionField_none rfl)
    · have written : (Condition.negate inner).toJson = .obj [("type", .str "not"), ("condition", inner.toJson)] := by
        cases inner with
        | empty => exact (slot rfl).elim
        | sensor | compare | negate | unknown => rfl
      rw [written]
      apply readCondition_negation rfl
      have given : Fields.get? [("type", .str "not"), ("condition", inner.toJson)] "condition" = some inner.toJson := rfl
      rw [readConditionField_some given]
      exact ih readable
  | unknown tag fields =>
    rcases readable with ⟨word, strange, rfl, rfl⟩ | ⟨strange, kept⟩
    · show readCondition (.str word) = _
      rw [readCondition]
      exact Condition.ofWord_strange strange
    · -- The placeholder is made of the fields alone, so the same fields give the same placeholder.
      have filled : fields.isEmpty = false := by simpa using strange.1
      have positive : ¬Fields.isNegation fields = true := fun negation =>
        strange.2.1 ((Fields.isNegation_iff fields).mp negation)
      rw [Condition.toJson, filled, kept]
      show readCondition (.obj fields) = _
      rw [readCondition, if_neg positive, Condition.ofFields_strange strange.2.2, Condition.placeholder,
        Condition.alerts, filled]
      rfl

theorem readConditionField_field? {fields : Fields} {c : Condition} (readable : c.IsReadable)
    (held : fields.get? "condition" = c.field?) : readConditionField fields = ⟨c.alerts, .ok c⟩ := by
  by_cases slot : c = .empty
  · subst slot
    exact readConditionField_none held
  · have written : c.field? = some c.toJson := by
      cases c with
      | empty => exact (slot rfl).elim
      | sensor | compare | negate | unknown => rfl
    rw [readConditionField_some (held.trans written)]
    exact readCondition_toJson c readable

open Instruction (bodyJson bodyAlerts BodyReadable)

mutual

/-- An instruction of the reader's is read again as it is from what is written for it. -/
theorem readInstruction_toJson (nested : Bool) (node : Instruction) (readable : node.IsReadable nested) :
    readInstruction nested node.toJson = ⟨node.alerts, .ok node⟩ := by
  match node with
  | .move | .turnLeft | .turnRight => exact readInstruction_kind nested (Fields.kind_tag _ _)
  | .assign r value =>
    rcases readable with ⟨n, rfl⟩
    rw [Instruction.toJson, readInstruction_kind nested (Fields.kind_tag _ _), readKind,
      Fields.integer_int _ (n := n) 0 rfl, Fields.register_name _ r rfl]
    rfl
  | .increment r | .decrement r =>
    rw [Instruction.toJson, readInstruction_kind nested (Fields.kind_tag _ _), readKind, Fields.register_name _ r rfl]
    rfl
  | .repeatTimes count body =>
    rcases readable with ⟨⟨n, rfl⟩, inner⟩
    rw [Instruction.toJson, readInstruction_kind nested (Fields.kind_tag _ _), readKind,
      Fields.integer_int _ (n := n) 3 rfl, readBody_list rfl, readNodes_bodyJson body inner]
    simp [Instruction.alerts]
  | .ifThen condition body | .whileDo condition body =>
    -- An empty slot leaves no field, so the bodies are looked for behind a field that may be missing.
    rcases readable with ⟨test, inner⟩
    rw [Instruction.toJson, List.cons_append, readInstruction_kind nested (Fields.kind_tag _ _), readKind,
      ← List.cons_append,
      readConditionField_field? test (condition.get?_toFields _ rfl),
      readBody_list ((condition.get?_toFields_other _ _ rfl rfl).trans (Fields.get?_self _ _ _)),
      readNodes_bodyJson body inner]
    simp [Instruction.alerts]
  | .ifElse condition thenBody elseBody =>
    rcases readable with ⟨test, first, second⟩
    rw [Instruction.toJson, List.cons_append, readInstruction_kind nested (Fields.kind_tag _ _), readKind,
      ← List.cons_append,
      readConditionField_field? test (condition.get?_toFields _ rfl),
      readBody_list ((condition.get?_toFields_other _ _ rfl rfl).trans (Fields.get?_self _ _ _)),
      readBody_list ((condition.get?_toFields_other _ _ rfl rfl).trans (Fields.get?_skip _ _ rfl)),
      readNodes_bodyJson thenBody first, readNodes_bodyJson elseBody second]
    simp [Instruction.alerts]
  | .call name =>
    rcases readable with ⟨word, given, rfl⟩
    rw [Instruction.toJson, readInstruction_kind nested (Fields.kind_tag _ _), readKind, Fields.name_str _ given rfl]
    rfl
  | .define name body =>
    rcases readable with ⟨rfl, ⟨word, given, rfl⟩, inner⟩
    rw [Instruction.toJson, readInstruction_kind false (Fields.kind_tag _ _), readKind, readBody_list rfl,
      readNodes_bodyJson body inner, Fields.name_str _ given rfl]
    simp [Instruction.alerts]
  | .unknown kind fields =>
    rcases readable with ⟨unread, kept⟩
    rw [Instruction.toJson, readInstruction_unknown nested unread, kept]
    rfl
  | .blank => exact readable.elim
termination_by sizeOf node

theorem readNodes_bodyJson (body : Body) (readable : BodyReadable body) :
    readNodes (bodyJson body) = ⟨bodyAlerts body, .ok body⟩ := by
  match body with
  | [] =>
    rw [bodyJson, readNodes]
    rfl
  | node :: rest =>
    rcases readable with ⟨first, others⟩
    rw [bodyJson, readNodes, readInstruction_toJson true node first, readNodes_bodyJson rest others]
    simp [bodyAlerts]
termination_by sizeOf body

end

theorem Fields.name_ne_empty (fields : Fields) : fields.name ≠ "" := by
  unfold name
  split
  · split
    · rename_i given
      exact Json.text_ne_empty given
    · decide
  · decide

namespace Condition

theorem ofWord_readable {word : String} {c : Condition} (read : (ofWord word).outcome = .ok c) :
    c.IsReadable := by
  unfold ofWord at read
  split at read
  · cases read
    trivial
  · rename_i positive
    split at read
    · cases read
      trivial
    · rename_i noSensor
      cases read
      exact .inl ⟨word, ⟨positive, noSensor⟩, rfl, rfl⟩

theorem placeholder_readable {fields : Fields} (positive : fields.get? "type" ≠ some (.str "not"))
    (noComparison : ∀ op : Comparison, fields.get? "type" ≠ some (.str op.tag)) : (placeholder fields).IsReadable := by
  by_cases filled : fields = []
  · -- What is made of an object without fields is the word for a missing type.
    subst filled
    exact .inl ⟨"None", ⟨by decide, by decide⟩, rfl, rfl⟩
  · exact .inr ⟨⟨filled, positive, noComparison⟩, rfl⟩

theorem ofFields_readable {fields : Fields} {c : Condition}
    (positive : fields.get? "type" ≠ some (.str "not"))
    (read : (ofFields fields).outcome = .ok c) : c.IsReadable := by
  by_cases known : ∃ op : Comparison, fields.get? "type" = some (.str op.tag)
  · rcases known with ⟨op, known⟩
    rw [ofFields_tag known, comparison] at read
    rcases Scan.outcome_of_bind read with ⟨value, -, read⟩
    rcases Scan.outcome_of_bind read with ⟨register, -, read⟩
    cases read
    exact ⟨value, rfl⟩
  · have strange : ∀ op : Comparison, fields.get? "type" ≠ some (.str op.tag) := fun op same => known ⟨op, same⟩
    rw [ofFields_strange strange] at read
    cases read
    exact placeholder_readable positive strange

end Condition

mutual

theorem readCondition_readable (data : Json) {c : Condition} (read : (readCondition data).outcome = .ok c) :
    c.IsReadable := by
  match data with
  | .null =>
    rw [readCondition] at read
    cases read
    trivial
  | .str word =>
    rw [readCondition] at read
    exact Condition.ofWord_readable read
  | .obj fields =>
    rw [readCondition] at read
    split at read
    · rcases Scan.outcome_of_bind read with ⟨inner, first, made⟩
      cases made
      show inner.IsReadable
      exact readConditionField_readable fields first
    · rename_i positive
      exact Condition.ofFields_readable (fun same => positive ((Fields.isNegation_iff fields).mpr same)) read
  | .bool _ | .num _ | .arr _ =>
    rw [readCondition] at read
    · cases read
    all_goals
      intros
      contradiction
termination_by (sizeOf data, 0)
decreasing_by all_goals simp [Prod.lex_def]

theorem readConditionField_readable (fields : Fields) {c : Condition}
    (read : (readConditionField fields).outcome = .ok c) : c.IsReadable := by
  cases given : fields.get? "condition" with
  | none =>
    rw [readConditionField_none given] at read
    cases read
    trivial
  | some data =>
    rw [readConditionField_some given] at read
    exact readCondition_readable data read
termination_by (sizeOf fields, 1)
decreasing_by
  have := Fields.sizeOf_get? given
  simp [Prod.lex_def, this]

end

mutual

theorem readInstruction_readable (nested : Bool) (data : Json) {node : Instruction}
    (read : (readInstruction nested data).outcome = .ok node) : node.IsReadable nested := by
  rcases Scan.outcome_ok_iff.mp read with ⟨warnings, read⟩
  rcases readInstruction_cases read with ⟨fields, document, ⟨unread, -, rfl⟩ | ⟨kind, -, made⟩⟩
  · exact ⟨unread, rfl⟩
  · have smaller (key : String) : sizeOf (fields.items key) < sizeOf data := document ▸ fields.sizeOf_items key
    cases made with
    | move | turnLeft | turnRight | increment | decrement => trivial
    | assign => exact ⟨_, rfl⟩
    | repeatTimes _ inner => exact ⟨⟨_, rfl⟩, readNodes_readable _ (readBody_ok inner)⟩
    | ifThen test inner | whileDo test inner =>
      exact ⟨readConditionField_readable fields (congrArg Scan.outcome test), readNodes_readable _ (readBody_ok inner)⟩
    | ifElse test thenRead elseRead =>
      exact ⟨readConditionField_readable fields (congrArg Scan.outcome test), readNodes_readable _ (readBody_ok thenRead),
        readNodes_readable _ (readBody_ok elseRead)⟩
    | call => exact ⟨fields.name, fields.name_ne_empty, rfl⟩
    | define allowed inner =>
      exact ⟨allowed, ⟨fields.name, fields.name_ne_empty, rfl⟩, readNodes_readable _ (readBody_ok inner)⟩
termination_by sizeOf data
decreasing_by all_goals exact smaller _

theorem readNodes_readable (items : List Json) {body : Body} {warnings : List ReadWarning}
    (read : readNodes items = ⟨warnings, .ok body⟩) : BodyReadable body := by
  match items with
  | [] =>
    rw [readNodes] at read
    cases read
    trivial
  | item :: rest =>
    rw [readNodes] at read
    rcases Scan.split_bind read with ⟨_, node, _, first, more, -⟩
    rcases Scan.split_bind more with ⟨_, nodes, _, others, made, -⟩
    cases made
    exact ⟨readInstruction_readable true item (congrArg Scan.outcome first), readNodes_readable rest others⟩
termination_by sizeOf items

end

end GridRobot
