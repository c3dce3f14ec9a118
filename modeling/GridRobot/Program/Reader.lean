import GridRobot.Program.Document

/-!
Reading programs from documents. What is not understood becomes a placeholder and leaves a warning;
what is malformed stops the reading. Warnings given before a fault are kept.
-/
namespace GridRobot

inductive ReadWarning
  | instruction (kind : Option Json)
  | condition (kind : Option Json)
  | ignored (tag : String)

namespace ReadWarning

def word (kind : Option Json) : String := (kind.getD .null).text

def text : ReadWarning → String
  | .instruction kind => "Unknown instruction type '" ++ word kind ++ "' - kept as an inert placeholder"
  | .condition kind => "Unknown condition '" ++ word kind ++ "' - it will evaluate to false"
  | .ignored tag => "Ignoring non-function entry in functions: " ++ tag

end ReadWarning

inductive ReadFault
  | notAnObject (value : Json)
  | typeTag (fault : KeyFault)
  | nestedDefinition
  | notInteger (field : String) (value : Json)
  | register (name : Json)
  | condition (value : Json)
  | notAList (field : String)

namespace ReadFault

def message : ReadFault → String
  | .notAnObject value => "Instruction must be an object, got " ++ value.kindName
  | .typeTag fault => fault.message
  | .nestedDefinition => "Function definitions are only allowed at the top level of the functions list"
  | .notInteger field value => "Field '" ++ field ++ "' must be an integer, got " ++ value.literal
  | .register name => "Unknown register '" ++ name.text ++ "' (expected one of R1, R2, R3, R4)"
  | .condition value => "Condition must be a string or object, got " ++ value.kindName
  | .notAList field => "'" ++ field ++ "' must be a list"

end ReadFault

structure Scan (ε α : Type) where
  warnings : List ReadWarning
  outcome : Except ε α

namespace Scan

variable {ε α β : Type}

def pure (value : α) : Scan ε α := ⟨[], .ok value⟩

def fail (fault : ε) : Scan ε α := ⟨[], .error fault⟩

def warn (warning : ReadWarning) : Scan ε Unit := ⟨[warning], .ok ()⟩

def bind (scan : Scan ε α) (next : α → Scan ε β) : Scan ε β :=
  match scan.outcome with
  | .error fault => ⟨scan.warnings, .error fault⟩
  | .ok value => ⟨scan.warnings ++ (next value).warnings, (next value).outcome⟩

instance : Monad (Scan ε) where
  pure := Scan.pure
  bind := Scan.bind

def ofExcept (outcome : Except ε α) : Scan ε α := ⟨[], outcome⟩

def mapError {ε' : Type} (f : ε → ε') (scan : Scan ε α) : Scan ε' α :=
  ⟨scan.warnings, scan.outcome.mapError f⟩

end Scan

namespace Fields

theorem sizeOf_get? {fields : Fields} {key : String} {value : Json} (found : fields.get? key = some value) :
    sizeOf value < sizeOf fields := by
  unfold get? at found
  induction fields with
  | nil => simp at found
  | cons pair rest ih =>
    obtain ⟨k, v⟩ := pair
    rw [List.lookup_cons] at found
    simp only [List.cons.sizeOf_spec, Prod.mk.sizeOf_spec]
    split at found
    · cases found
      omega
    · have := ih found
      omega

/-- An integer field: an integer, a whole double, or an integer numeral in text. -/
def integer (fields : Fields) (key : String) (default : Int) : Except ReadFault Int :=
  let value := (fields.get? key).getD (.int default)
  let fault := ReadFault.notInteger key value
  match value with
  | .bool _ => .error fault
  | .num (.float x) =>
    if x.isWhole then value.toInteger.mapError fun _ => fault else .error fault
  | value => value.toInteger.mapError fun _ => fault

def register (fields : Fields) : Except ReadFault Register :=
  match fields.get? "register" with
  | none => .ok .r1
  | some (.str name) => match Register.ofName? name with
    | some r => .ok r
    | none => .error (.register (.str name))
  | some other => .error (.register other)

def name (fields : Fields) : String :=
  match fields.get? "functionName" with
  | some value => if value.isTruthy then value.text else "func1"
  | none => "func1"

/-- The kind of instruction that the type field names: none where the word is not known. -/
def kind (fields : Fields) : Except ReadFault (Option Instruction.Kind) := do
  match ← ((fields.get? "type").getD .null).key.mapError .typeTag with
  | .str tag => return Instruction.Kind.ofTag? tag
  | _ => return none

end Fields

namespace Instruction

def placeholder (fields : Fields) : Instruction :=
  .unknown ((fields.get? "type").map Json.text |>.getD "") fields

end Instruction

namespace Condition

def placeholder (fields : Fields) : Condition :=
  .unknown (.str (ReadWarning.word (fields.get? "type"))) fields

def ofWord (word : String) : Scan ReadFault Condition :=
  if word = "not" then pure (.negate .empty)
  else match Sensor.ofTag? word with
  | some s => pure (.sensor s)
  | none => do
    Scan.warn (.condition (some (.str word)))
    return .unknown (.str word) []

/-- A comparison; its value is checked before its register. -/
def comparison (fields : Fields) (op : Comparison) : Scan ReadFault Condition := do
  let value ← Scan.ofExcept (fields.integer "value" 0)
  let register ← Scan.ofExcept fields.register
  return .compare register op (.int value)

def ofFields (fields : Fields) : Scan ReadFault Condition :=
  let kind := fields.get? "type"
  let op := match kind with
    | some (.str tag) => Comparison.ofTag? tag
    | _ => none
  match op with
  | some op => comparison fields op
  | none => do
    Scan.warn (.condition kind)
    return placeholder fields

end Condition

def Fields.isNegation (fields : Fields) : Bool :=
  match fields.get? "type" with
  | some (.str tag) => tag == "not"
  | _ => false

mutual

def readCondition (data : Json) : Scan ReadFault Condition :=
  match data with
  | .null => pure .empty
  | .str word => Condition.ofWord word
  | .obj fields =>
    if Fields.isNegation fields then do
      let inner ← readConditionField fields
      return .negate inner
    else Condition.ofFields fields
  | other => Scan.fail (.condition other)
termination_by (sizeOf data, 0)
decreasing_by all_goals simp [Prod.lex_def]

def readConditionField (fields : Fields) : Scan ReadFault Condition :=
  match _found : fields.get? "condition" with
  | none => pure .empty
  | some data => readCondition data
termination_by (sizeOf fields, 1)
decreasing_by
  have := Fields.sizeOf_get? _found
  simp [Prod.lex_def, this]

end

mutual

def readInstruction (nested : Bool) (data : Json) : Scan ReadFault Instruction :=
  match data with
  | .obj fields => do
    match ← Scan.ofExcept (Fields.kind fields) with
    | none =>
      Scan.warn (.instruction (Fields.get? fields "type"))
      return .placeholder fields
    | some .move => return .move
    | some .turnLeft => return .turnLeft
    | some .turnRight => return .turnRight
    | some .assign =>
      let value ← Scan.ofExcept (Fields.integer fields "value" 0)
      let register ← Scan.ofExcept (Fields.register fields)
      return .assign register (.int value)
    | some .increment => return .increment (← Scan.ofExcept (Fields.register fields))
    | some .decrement => return .decrement (← Scan.ofExcept (Fields.register fields))
    | some .repeatTimes =>
      let count ← Scan.ofExcept (Fields.integer fields "count" 3)
      let body ← readBody fields "body"
      return .repeatTimes (.int count) body
    | some .ifThen =>
      let condition ← readConditionField fields
      let body ← readBody fields "body"
      return .ifThen condition body
    | some .whileDo =>
      let condition ← readConditionField fields
      let body ← readBody fields "body"
      return .whileDo condition body
    | some .ifElse =>
      let condition ← readConditionField fields
      let thenBody ← readBody fields "ifBody"
      let elseBody ← readBody fields "elseBody"
      return .ifElse condition thenBody elseBody
    | some .call => return .call (.str (Fields.name fields))
    | some .define =>
      if nested then Scan.fail .nestedDefinition
      else
        let body ← readBody fields "body"
        return .define (.str (Fields.name fields)) body
  | other => Scan.fail (.notAnObject other)
termination_by (sizeOf data, 0)
decreasing_by all_goals simp [Prod.lex_def]

def readBody (fields : Fields) (key : String) : Scan ReadFault Body :=
  match _found : fields.get? key with
  | none => pure []
  | some .null => pure []
  | some (.arr items) => readNodes items
  | some _ => Scan.fail (.notAList key)
termination_by (sizeOf fields, 1)
decreasing_by
  have := Fields.sizeOf_get? _found
  simp at this
  simp [Prod.lex_def]
  omega

def readNodes (items : List Json) : Scan ReadFault Body :=
  match items with
  | [] => pure []
  | item :: rest => do
    let node ← readInstruction true item
    let nodes ← readNodes rest
    return node :: nodes
termination_by (sizeOf items, 0)
decreasing_by all_goals simp [Prod.lex_def] <;> omega

end

end GridRobot
