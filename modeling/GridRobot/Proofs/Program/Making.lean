import GridRobot.Program.Reader

/-!
What the reader makes of a document, one step at a time. `Makes` says it for each kind of instruction, with the
warnings that are given on the way; what is known of the trees that are read comes from it.
-/
namespace GridRobot

namespace Scan

variable {ε α β : Type}

@[simp] theorem warnings_pure (value : α) : (Pure.pure value : Scan ε α).warnings = [] := rfl

@[simp] theorem outcome_pure (value : α) : (Pure.pure value : Scan ε α).outcome = .ok value := rfl

@[simp] theorem ok_bind (warnings : List ReadWarning) (value : α) (next : α → Scan ε β) :
    ((⟨warnings, .ok value⟩ : Scan ε α) >>= next) = ⟨warnings ++ (next value).warnings, (next value).outcome⟩ := rfl

@[simp] theorem pure_bind (value : α) (next : α → Scan ε β) :
    ((⟨[], .ok value⟩ : Scan ε α) >>= next) = next value := rfl

@[simp] theorem ofExcept_ok (value : α) : (ofExcept (.ok value) : Scan ε α) = ⟨[], .ok value⟩ := rfl

theorem outcome_of_bind {scan : Scan ε α} {next : α → Scan ε β} {result : β}
    (read : (scan >>= next).outcome = .ok result) :
    ∃ value, scan.outcome = .ok value ∧ (next value).outcome = .ok result := by
  rcases scan with ⟨warnings, outcome⟩
  cases outcome with
  | error fault => cases read
  | ok value => exact ⟨value, rfl, read⟩

theorem outcome_of_mapError {ε' : Type} {f : ε → ε'} {scan : Scan ε α} {result : α}
    (read : (scan.mapError f).outcome = .ok result) : scan.outcome = .ok result := by
  rcases scan with ⟨warnings, outcome⟩
  cases outcome with
  | error fault => cases read
  | ok value =>
    cases read
    rfl

theorem outcome_ok_iff {scan : Scan ε α} {value : α} :
    scan.outcome = .ok value ↔ ∃ warnings, scan = ⟨warnings, .ok value⟩ := by
  constructor
  · intro read
    rcases scan with ⟨warnings, outcome⟩
    cases read
    exact ⟨warnings, rfl⟩
  · rintro ⟨warnings, rfl⟩
    rfl

theorem split_bind {scan : Scan ε α} {next : α → Scan ε β} {warnings : List ReadWarning} {result : β}
    (read : (scan >>= next) = ⟨warnings, .ok result⟩) :
    ∃ before value after, scan = ⟨before, .ok value⟩ ∧ next value = ⟨after, .ok result⟩ ∧ warnings = before ++ after := by
  rcases outcome_of_bind (congrArg outcome read) with ⟨value, first, second⟩
  rcases outcome_ok_iff.mp first with ⟨before, rfl⟩
  rcases outcome_ok_iff.mp second with ⟨after, made⟩
  rw [ok_bind, made] at read
  cases read
  exact ⟨before, value, after, rfl, made, rfl⟩

theorem split_ofExcept {outcome : Except ε α} {warnings : List ReadWarning} {value : α}
    (read : ofExcept outcome = ⟨warnings, .ok value⟩) : outcome = .ok value ∧ warnings = [] := by
  cases read
  exact ⟨rfl, rfl⟩

end Scan

theorem readInstruction_unknown (nested : Bool) {fields : Fields} (unread : Fields.kind fields = .ok none) :
    readInstruction nested (.obj fields) =
      ⟨[.instruction (fields.get? "type")], .ok (Instruction.placeholder fields)⟩ := by
  rw [readInstruction, unread]
  rfl

def readKind (nested : Bool) (fields : Fields) : Instruction.Kind → Scan ReadFault Instruction
  | .move => return .move
  | .turnLeft => return .turnLeft
  | .turnRight => return .turnRight
  | .assign => do
    let value ← Scan.ofExcept (fields.integer "value" 0)
    let register ← Scan.ofExcept fields.register
    return .assign register (.int value)
  | .increment => return .increment (← Scan.ofExcept fields.register)
  | .decrement => return .decrement (← Scan.ofExcept fields.register)
  | .repeatTimes => do
    let count ← Scan.ofExcept (fields.integer "count" 3)
    let body ← readBody fields "body"
    return .repeatTimes (.int count) body
  | .ifThen => do
    let condition ← readConditionField fields
    let body ← readBody fields "body"
    return .ifThen condition body
  | .whileDo => do
    let condition ← readConditionField fields
    let body ← readBody fields "body"
    return .whileDo condition body
  | .ifElse => do
    let condition ← readConditionField fields
    let thenBody ← readBody fields "ifBody"
    let elseBody ← readBody fields "elseBody"
    return .ifElse condition thenBody elseBody
  | .call => return .call (.str fields.name)
  | .define =>
    if nested then Scan.fail .nestedDefinition
    else do
      let body ← readBody fields "body"
      return .define (.str fields.name) body

theorem readInstruction_kind (nested : Bool) {fields : Fields} {kind : Instruction.Kind}
    (known : Fields.kind fields = .ok (some kind)) :
    readInstruction nested (.obj fields) = readKind nested fields kind := by
  rw [readInstruction, known]
  cases kind <;> rfl

theorem readBody_list {fields : Fields} {key : String} {items : List Json}
    (given : fields.get? key = some (.arr items)) :
    readBody fields key = readNodes items := by
  rw [readBody]
  split
  · rename_i missing
    rw [given] at missing
    cases missing
  · rename_i null
    rw [given] at null
    cases null
  · rename_i found
    rw [given] at found
    cases found
    rfl
  · rename_i _ other found
    rw [given] at found
    cases found
    exact (other items rfl).elim

def Fields.items (fields : Fields) (key : String) : List Json :=
  match fields.get? key with
  | some (.arr items) => items
  | _ => []

theorem Fields.sizeOf_items (fields : Fields) (key : String) : sizeOf (fields.items key) < sizeOf (Json.obj fields) := by
  unfold items
  split
  · rename_i items given
    have inside := Fields.sizeOf_get? given
    simp at inside ⊢
    omega
  · cases fields with
    | nil => simp
    | cons field rest =>
      simp only [Json.obj.sizeOf_spec, List.cons.sizeOf_spec, List.nil.sizeOf_spec]
      omega

/-- What the reader makes of fields that name a kind of instruction, nested or not, and what it warns of. -/
inductive Fields.Makes (nested : Bool) (fields : Fields) : Instruction.Kind → List ReadWarning → Instruction → Prop
  | move : Makes nested fields .move [] .move
  | turnLeft : Makes nested fields .turnLeft [] .turnLeft
  | turnRight : Makes nested fields .turnRight [] .turnRight
  | assign {r : Register} {n : Int} (value : fields.integer "value" 0 = .ok n) (register : fields.register = .ok r) :
      Makes nested fields .assign [] (.assign r (.int n))
  | increment {r : Register} (register : fields.register = .ok r) : Makes nested fields .increment [] (.increment r)
  | decrement {r : Register} (register : fields.register = .ok r) : Makes nested fields .decrement [] (.decrement r)
  | repeatTimes {n : Int} {body : Body} {warnings : List ReadWarning} (count : fields.integer "count" 3 = .ok n)
      (inner : readBody fields "body" = ⟨warnings, .ok body⟩) :
      Makes nested fields .repeatTimes warnings (.repeatTimes (.int n) body)
  | ifThen {c : Condition} {body : Body} {first second : List ReadWarning}
      (test : readConditionField fields = ⟨first, .ok c⟩) (inner : readBody fields "body" = ⟨second, .ok body⟩) :
      Makes nested fields .ifThen (first ++ second) (.ifThen c body)
  | whileDo {c : Condition} {body : Body} {first second : List ReadWarning}
      (test : readConditionField fields = ⟨first, .ok c⟩) (inner : readBody fields "body" = ⟨second, .ok body⟩) :
      Makes nested fields .whileDo (first ++ second) (.whileDo c body)
  | ifElse {c : Condition} {thenBody elseBody : Body} {first second third : List ReadWarning}
      (test : readConditionField fields = ⟨first, .ok c⟩) (thenRead : readBody fields "ifBody" = ⟨second, .ok thenBody⟩)
      (elseRead : readBody fields "elseBody" = ⟨third, .ok elseBody⟩) :
      Makes nested fields .ifElse (first ++ (second ++ third)) (.ifElse c thenBody elseBody)
  | call : Makes nested fields .call [] (.call (.str fields.name))
  | define {body : Body} {warnings : List ReadWarning} (allowed : nested = false)
      (inner : readBody fields "body" = ⟨warnings, .ok body⟩) :
      Makes nested fields .define warnings (.define (.str fields.name) body)

section Inversion

variable {nested : Bool} {fields : Fields} {warnings : List ReadWarning}

theorem readKind_makes {kind : Instruction.Kind} {node : Instruction}
    (read : readKind nested fields kind = ⟨warnings, .ok node⟩) : fields.Makes nested kind warnings node := by
  cases kind with
  | move =>
    cases read
    exact .move
  | turnLeft =>
    cases read
    exact .turnLeft
  | turnRight =>
    cases read
    exact .turnRight
  | call =>
    cases read
    exact .call
  | assign =>
    rcases Scan.split_bind read with ⟨_, n, _, first, rest, rfl⟩
    rcases Scan.split_bind rest with ⟨_, r, _, second, made, rfl⟩
    rcases Scan.split_ofExcept first with ⟨value, rfl⟩
    rcases Scan.split_ofExcept second with ⟨register, rfl⟩
    cases made
    exact .assign value register
  | increment =>
    rcases Scan.split_bind read with ⟨_, r, _, first, made, rfl⟩
    rcases Scan.split_ofExcept first with ⟨register, rfl⟩
    cases made
    exact .increment register
  | decrement =>
    rcases Scan.split_bind read with ⟨_, r, _, first, made, rfl⟩
    rcases Scan.split_ofExcept first with ⟨register, rfl⟩
    cases made
    exact .decrement register
  | repeatTimes =>
    rcases Scan.split_bind read with ⟨_, n, _, first, rest, rfl⟩
    rcases Scan.split_bind rest with ⟨_, body, _, inner, made, rfl⟩
    rcases Scan.split_ofExcept first with ⟨count, rfl⟩
    cases made
    rw [List.nil_append, List.append_nil]
    exact .repeatTimes count inner
  | ifThen =>
    rcases Scan.split_bind read with ⟨_, c, _, test, rest, rfl⟩
    rcases Scan.split_bind rest with ⟨_, body, _, inner, made, rfl⟩
    cases made
    rw [List.append_nil]
    exact .ifThen test inner
  | whileDo =>
    rcases Scan.split_bind read with ⟨_, c, _, test, rest, rfl⟩
    rcases Scan.split_bind rest with ⟨_, body, _, inner, made, rfl⟩
    cases made
    rw [List.append_nil]
    exact .whileDo test inner
  | ifElse =>
    rcases Scan.split_bind read with ⟨_, c, _, test, rest, rfl⟩
    rcases Scan.split_bind rest with ⟨_, thenBody, _, thenRead, last, rfl⟩
    rcases Scan.split_bind last with ⟨_, elseBody, _, elseRead, made, rfl⟩
    cases made
    rw [List.append_nil]
    exact .ifElse test thenRead elseRead
  | define =>
    cases nested with
    | true => cases read
    | false =>
      rcases Scan.split_bind read with ⟨_, body, _, inner, made, rfl⟩
      cases made
      rw [List.append_nil]
      exact .define rfl inner

theorem readInstruction_cases {data : Json} {node : Instruction}
    (read : readInstruction nested data = ⟨warnings, .ok node⟩) :
    ∃ fields : Fields, data = .obj fields ∧
      ((Fields.kind fields = .ok none ∧ warnings = [.instruction (fields.get? "type")] ∧ node = .placeholder fields) ∨
        ∃ kind, Fields.kind fields = .ok (some kind) ∧ fields.Makes nested kind warnings node) := by
  cases data with
  | obj fields =>
    refine ⟨fields, rfl, ?_⟩
    cases known : Fields.kind fields with
    | error fault =>
      rw [readInstruction, known] at read
      cases read
    | ok kind? =>
      cases kind? with
      | none =>
        rw [readInstruction_unknown nested known] at read
        cases read
        exact .inl ⟨rfl, rfl, rfl⟩
      | some kind =>
        rw [readInstruction_kind nested known] at read
        exact .inr ⟨kind, rfl, readKind_makes read⟩
  | null | bool | num | str | arr =>
    rw [readInstruction] at read
    · cases read
    all_goals
      intros
      contradiction

theorem readBody_ok {key : String} {body : Body} (read : readBody fields key = ⟨warnings, .ok body⟩) :
    readNodes (fields.items key) = ⟨warnings, .ok body⟩ := by
  have none : readNodes [] = ⟨[], .ok []⟩ := by
    rw [readNodes]
    rfl
  rw [readBody] at read
  unfold Fields.items
  split at read
  · rename_i missing
    rw [missing, none]
    exact read
  · rename_i null
    rw [null, none]
    exact read
  · rename_i items list
    rw [list]
    exact read
  · cases read

end Inversion

end GridRobot
