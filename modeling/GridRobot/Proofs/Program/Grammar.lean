import Mathlib
import GridRobot.Proofs.Program.Failure

/-!
The grammar of program documents. `IsCondition`, `IsNode` and `IsProgram` say which documents are well formed, without
the reader: which fields a kind of instruction uses, and what each of them may hold. The reader accepts just these
documents.
-/
namespace GridRobot

namespace Scan

variable {ε α β : Type}

def Succeeds (scan : Scan ε α) : Prop := ∃ value, scan.outcome = .ok value

theorem succeeds_pure (value : α) : (Pure.pure value : Scan ε α).Succeeds := ⟨value, rfl⟩

theorem not_succeeds_fail (fault : ε) : ¬(Scan.fail fault : Scan ε α).Succeeds := by
  rintro ⟨value, read⟩
  cases read

theorem succeeds_ofExcept {outcome : Except ε α} : (ofExcept outcome).Succeeds ↔ ∃ value, outcome = .ok value := Iff.rfl

theorem succeeds_bind {scan : Scan ε α} {next : α → Scan ε β} :
    (scan >>= next).Succeeds ↔ ∃ value, scan.outcome = .ok value ∧ (next value).Succeeds := by
  constructor
  · rintro ⟨result, read⟩
    rcases outcome_of_bind read with ⟨value, first, second⟩
    exact ⟨value, first, result, second⟩
  · rintro ⟨value, first, result, second⟩
    rcases scan with ⟨warnings, outcome⟩
    cases first
    exact ⟨result, second⟩

/-- Two steps succeed one by one, where it does not matter to the second what the first gave. -/
theorem succeeds_both {scan : Scan ε α} {next : α → Scan ε β} {P : Prop} (same : ∀ value, (next value).Succeeds ↔ P) :
    (scan >>= next).Succeeds ↔ scan.Succeeds ∧ P := by
  rw [succeeds_bind]
  constructor
  · rintro ⟨value, first, second⟩
    exact ⟨⟨value, first⟩, (same value).mp second⟩
  · rintro ⟨⟨value, first⟩, second⟩
    exact ⟨value, first, (same value).mpr second⟩

theorem succeeds_then_pure {scan : Scan ε α} {f : α → β} :
    (scan >>= fun value => Pure.pure (f value)).Succeeds ↔ scan.Succeeds := by
  have always (value : α) : (Pure.pure (f value) : Scan ε β).Succeeds ↔ True := iff_true_intro (succeeds_pure (f value))
  rw [succeeds_both always, and_true]

theorem succeeds_mapError {ε' : Type} {scan : Scan ε α} {f : ε → ε'} : (scan.mapError f).Succeeds ↔ scan.Succeeds := by
  rcases scan with ⟨warnings, outcome⟩
  cases outcome with
  | error fault =>
    constructor
    · rintro ⟨value, read⟩
      cases read
    · rintro ⟨value, read⟩
      cases read
  | ok value => exact ⟨fun _ => ⟨value, rfl⟩, fun _ => ⟨value, rfl⟩⟩

end Scan

/-- What counts as an integer in a field: an integer, a double without a fraction, or an integer numeral in a text. -/
inductive Json.IsIntegral : Json → Prop
  | integer (n : Int) : IsIntegral (.int n)
  | whole {x : Binary64} (whole : x.isWhole = true) : IsIntegral (.num (.float x))
  | numeral {text : String} {n : Int} (read : Text.readInt? text = some n) : IsIntegral (.str text)

namespace Fields

variable (fields : Fields)

def HoldsInteger (key : String) : Prop := ∀ value, fields.get? key = some value → value.IsIntegral

def HoldsRegister : Prop := ∀ value, fields.get? "register" = some value → ∃ r : Register, value = .str r.name

def HoldsBody (key : String) : Prop :=
  ∀ value, fields.get? key = some value → value = .null ∨ ∃ items, value = .arr items

def HoldsListing (key : String) : Prop :=
  ∀ value, fields.get? key = some value → value.isTruthy = false ∨ ∃ items, value = .arr items

end Fields

/-- A condition: nothing, any word, a negation of a condition, a comparison, or an object of any other type. -/
inductive Json.IsCondition : Json → Prop
  | empty : IsCondition .null
  | word (text : String) : IsCondition (.str text)
  | negation {fields : Fields} (type : fields.get? "type" = some (.str "not"))
      (inner : ∀ data, fields.get? "condition" = some data → IsCondition data) : IsCondition (.obj fields)
  | comparison {fields : Fields} (op : Comparison) (type : fields.get? "type" = some (.str op.tag))
      (register : fields.HoldsRegister) (value : fields.HoldsInteger "value") : IsCondition (.obj fields)
  | strange {fields : Fields} (positive : fields.get? "type" ≠ some (.str "not"))
      (unknown : ∀ op : Comparison, fields.get? "type" ≠ some (.str op.tag)) : IsCondition (.obj fields)

def Fields.HoldsCondition (fields : Fields) : Prop := ∀ data, fields.get? "condition" = some data → data.IsCondition

namespace Instruction.Kind

def hasRegister : Kind → Bool
  | .assign | .increment | .decrement => true
  | _ => false

def hasCondition : Kind → Bool
  | .ifThen | .ifElse | .whileDo => true
  | _ => false

def integerKeys : Kind → List String
  | .assign => ["value"]
  | .repeatTimes => ["count"]
  | _ => []

end Instruction.Kind

/-- An instruction, nested or not: an object of a known type whose fields hold what that type uses, or an object of any
other type that is neither a list nor an object. -/
inductive Json.IsNode : Bool → Json → Prop
  | known {nested : Bool} {fields : Fields} (kind : Instruction.Kind) (type : fields.get? "type" = some (.str kind.tag))
      (allowed : kind = .define → nested = false)
      (register : kind.hasRegister = true → fields.HoldsRegister)
      (integers : ∀ key ∈ kind.integerKeys, fields.HoldsInteger key)
      (condition : kind.hasCondition = true → fields.HoldsCondition)
      (bodies : ∀ key ∈ kind.bodyKeys, fields.HoldsBody key)
      (inside : ∀ key ∈ kind.bodyKeys, ∀ items, fields.get? key = some (.arr items) → ∀ item ∈ items, IsNode true item) :
      IsNode nested (.obj fields)
  | unknown {nested : Bool} {fields : Fields}
      (strange : ∀ kind : Instruction.Kind, fields.get? "type" ≠ some (.str kind.tag))
      (noList : ∀ items, fields.get? "type" ≠ some (.arr items))
      (noObject : ∀ inner, fields.get? "type" ≠ some (.obj inner)) : IsNode nested (.obj fields)

/-- An object of the supported version with two lists: of instructions, and of nested instructions. -/
structure Fields.AreProgram (fields : Fields) : Prop where
  version : fields.get? "version" = some (.str "1.0")
  listed : ∀ key ∈ ["functions", "mainProgram"], fields.HoldsListing key
  functions : ∀ item ∈ fields.items "functions", item.IsNode false
  main : ∀ item ∈ fields.items "mainProgram", item.IsNode true

def Json.IsProgram (data : Json) : Prop := ∃ fields : Fields, data = .obj fields ∧ fields.AreProgram

namespace Fields

variable {fields : Fields}

theorem integer_of_whole {x : Binary64} (whole : x.isWhole = true) : ∃ n, (Json.num (.float x)).toInteger = .ok n := by
  unfold Binary64.isWhole at whole
  cases held : x.value with
  | nan | infinite negative =>
    rw [held] at whole
    cases whole
  | finite units => exact ⟨_, by simp only [Json.toInteger, held]; rfl⟩

theorem integer_succeeds {key : String} (default : Int) :
    (∃ n, fields.integer key default = .ok n) ↔ fields.HoldsInteger key := by
  unfold HoldsInteger integer
  cases fields.get? key with
  | none => simp [Json.toInteger, Except.mapError]
  | some value =>
    -- A numeral in a string passes for an integer, and so does a float that is whole.
    cases value with
    | null | bool | arr | obj =>
      constructor
      · rintro ⟨n, read⟩
        cases read
      · intro integral
        cases integral _ rfl
    | str text =>
      cases read : Text.readInt? text with
      | none =>
        constructor
        · rintro ⟨n, taken⟩
          simp [Json.toInteger, read, Except.mapError] at taken
        · intro integral
          cases integral _ rfl with
          | numeral found =>
            rw [read] at found
            cases found
      | some n =>
        constructor
        · rintro - value ⟨⟩
          exact .numeral read
        · intro _
          exact ⟨n, by simp [Json.toInteger, read, Except.mapError]⟩
    | num x =>
      cases x with
      | int n =>
        constructor
        · rintro - value ⟨⟩
          exact .integer n
        · intro _
          exact ⟨n, rfl⟩
      | float x =>
        cases whole : x.isWhole with
        | false =>
          constructor
          · rintro ⟨n, read⟩
            simp [whole] at read
          · intro integral
            cases integral _ rfl with
            | whole held =>
              rw [whole] at held
              cases held
        | true =>
          constructor
          · rintro - value ⟨⟩
            exact .whole whole
          · intro _
            rcases integer_of_whole whole with ⟨n, cut⟩
            exact ⟨n, by simp [whole, cut, Except.mapError]⟩

theorem register_succeeds : (∃ r, fields.register = .ok r) ↔ fields.HoldsRegister := by
  unfold HoldsRegister
  constructor
  · rintro ⟨r, read⟩ value given
    cases value with
    | str name =>
      cases named : Register.ofName? name with
      | none =>
        simp only [register, given, named] at read
        cases read
      | some r => exact ⟨r, by rw [Register.ofName?_eq_some named]⟩
    | null | bool | num | arr | obj =>
      simp only [register, given] at read
      cases read
  · intro held
    cases given : fields.get? "register" with
    | none => exact ⟨.r1, by simp only [register, given]⟩
    | some value =>
      rcases held value given with ⟨r, rfl⟩
      exact ⟨r, fields.register_name r given⟩

theorem listing_succeeds {key : String} : (∃ items, fields.listing key = .ok items) ↔ fields.HoldsListing key := by
  unfold HoldsListing listing
  cases fields.get? key with
  | none => simp
  | some value =>
    cases value with
    | arr items =>
      constructor
      · rintro - value ⟨⟩
        exact .inr ⟨items, rfl⟩
      · intro _
        exact ⟨items, rfl⟩
    | null | bool | num | str | obj =>
      dsimp only
      split
      · rename_i given
        constructor
        · rintro ⟨items, listed⟩
          cases listed
        · intro held
          rcases held _ rfl with passed | ⟨items, list⟩
          · rw [given] at passed
            cases passed
          · cases list
      · rename_i passed
        constructor
        · rintro - value ⟨⟩
          exact .inl (by simpa using passed)
        · intro _
          exact ⟨[], rfl⟩

theorem word_unique {key first second : String} (one : fields.get? key = some (.str first))
    (other : fields.get? key = some (.str second)) : first = second := by
  rw [one] at other
  cases other
  rfl

theorem kind_known_iff {kind : Instruction.Kind} :
    Fields.kind fields = .ok (some kind) ↔ fields.get? "type" = some (.str kind.tag) := by
  constructor
  · intro known
    unfold Fields.kind at known
    cases given : fields.get? "type" with
    | none =>
      rw [given] at known
      cases known
    | some type =>
      rw [given] at known
      cases type with
      | str tag =>
        have found : Instruction.Kind.ofTag? tag = some kind := Except.ok.inj known
        rw [Instruction.Kind.tag_of_ofTag? found]
      | null | bool | num | arr | obj => cases known
  · intro given
    unfold Fields.kind
    rw [given]
    exact congrArg Except.ok (Instruction.Kind.ofTag?_tag kind)

theorem kind_unknown_iff : Fields.kind fields = .ok none ↔
    (∀ kind : Instruction.Kind, fields.get? "type" ≠ some (.str kind.tag)) ∧
      (∀ items, fields.get? "type" ≠ some (.arr items)) ∧ ∀ inner, fields.get? "type" ≠ some (.obj inner) := by
  constructor
  · intro unread
    refine ⟨?_, ?_, ?_⟩
    · intro kind given
      rw [kind_known_iff.mpr given] at unread
      cases unread
    · intro items given
      simp only [Fields.kind, given] at unread
      cases unread
    · intro inner given
      simp only [Fields.kind, given] at unread
      cases unread
  · rintro ⟨strange, noList, noObject⟩
    cases read : Fields.kind fields with
    | ok kind? =>
      cases kind? with
      | none => rfl
      | some kind => exact (strange kind (kind_known_iff.mp read)).elim
    | error fault =>
      -- Only a list or an object fails to be looked up among the types.
      cases given : fields.get? "type" with
      | none =>
        simp only [Fields.kind, given] at read
        cases read
      | some type =>
        cases type with
        | arr items => exact (noList items given).elim
        | obj inner => exact (noObject inner given).elim
        | null | bool | num | str =>
          simp only [Fields.kind, given] at read
          cases read

end Fields

theorem Comparison.tag_ne_not (op : Comparison) : op.tag ≠ "not" := by
  cases op <;> decide

namespace Condition

theorem comparison_succeeds (fields : Fields) (op : Comparison) :
    (comparison fields op).Succeeds ↔ fields.HoldsInteger "value" ∧ fields.HoldsRegister := by
  unfold comparison
  rw [Scan.succeeds_both fun _ => Scan.succeeds_then_pure]
  exact and_congr (Fields.integer_succeeds 0) Fields.register_succeeds

end Condition

theorem readConditionField_succeeds {fields : Fields} : (readConditionField fields).Succeeds ↔
    ∀ data, fields.get? "condition" = some data → (readCondition data).Succeeds := by
  cases given : fields.get? "condition" with
  | none =>
    rw [readConditionField_none given]
    constructor
    · rintro - data ⟨⟩
    · intro _
      exact ⟨_, rfl⟩
  | some data =>
    rw [readConditionField_some given]
    constructor
    · rintro read data ⟨⟩
      exact read
    · intro read
      exact read data rfl

theorem readCondition_object {fields : Fields} : (readCondition (.obj fields)).Succeeds ↔
    (fields.get? "type" = some (.str "not") → (readConditionField fields).Succeeds) ∧
      ∀ op : Comparison, fields.get? "type" = some (.str op.tag) → fields.HoldsInteger "value" ∧ fields.HoldsRegister := by
  rw [readCondition]
  by_cases negation : fields.get? "type" = some (.str "not")
  · rw [if_pos (fields.isNegation_iff.mpr negation), Scan.succeeds_then_pure]
    constructor
    · intro read
      refine ⟨fun _ => read, ?_⟩
      intro op compared
      exact (op.tag_ne_not (Fields.word_unique compared negation)).elim
    · rintro ⟨read, -⟩
      exact read negation
  · rw [if_neg fun held => negation (fields.isNegation_iff.mp held)]
    by_cases known : ∃ op : Comparison, fields.get? "type" = some (.str op.tag)
    · rcases known with ⟨op, compared⟩
      rw [Condition.ofFields_tag compared, Condition.comparison_succeeds]
      constructor
      · intro held
        exact ⟨fun type => (negation type).elim, fun _ _ => held⟩
      · rintro ⟨-, held⟩
        exact held op compared
    · have strange : ∀ op : Comparison, fields.get? "type" ≠ some (.str op.tag) := fun op same => known ⟨op, same⟩
      rw [Condition.ofFields_strange strange]
      constructor
      · intro _
        exact ⟨fun type => (negation type).elim, fun op same => (strange op same).elim⟩
      · intro _
        exact ⟨_, rfl⟩

theorem Json.IsCondition.reads {data : Json} (valid : data.IsCondition) : (readCondition data).Succeeds := by
  induction valid with
  | empty =>
    rw [readCondition]
    exact Scan.succeeds_pure _
  | word text =>
    rw [readCondition]
    exact Condition.ofWord_reads text
  | negation type inner ih =>
    rw [readCondition_object]
    refine ⟨fun _ => readConditionField_succeeds.mpr ih, ?_⟩
    intro op compared
    exact (op.tag_ne_not (Fields.word_unique compared type)).elim
  | comparison op type register value =>
    rw [readCondition_object]
    refine ⟨?_, fun _ _ => ⟨value, register⟩⟩
    intro negation
    exact (op.tag_ne_not (Fields.word_unique type negation)).elim
  | strange positive unknown =>
    rw [readCondition_object]
    exact ⟨fun negation => (positive negation).elim, fun op compared => (unknown op compared).elim⟩

theorem Json.IsCondition.of_reads (data : Json) (read : (readCondition data).Succeeds) : data.IsCondition := by
  match data with
  | .null => exact .empty
  | .str text => exact .word text
  | .obj fields =>
    rcases readCondition_object.mp read with ⟨negated, compared⟩
    by_cases negation : Fields.get? fields "type" = some (.str "not")
    · apply IsCondition.negation negation
      intro inner given
      exact IsCondition.of_reads inner (readConditionField_succeeds.mp (negated negation) inner given)
    · by_cases known : ∃ op : Comparison, Fields.get? fields "type" = some (.str op.tag)
      · rcases known with ⟨op, type⟩
        rcases compared op type with ⟨value, register⟩
        exact .comparison op type register value
      · exact .strange negation fun op type => known ⟨op, type⟩
  | .bool _ | .num _ | .arr _ =>
    rw [readCondition] at read
    · exact (Scan.not_succeeds_fail _ read).elim
    all_goals
      intros
      contradiction
termination_by sizeOf data
decreasing_by
  have smaller := Fields.sizeOf_get? given
  simp
  omega

theorem readConditionField_holds {fields : Fields} : (readConditionField fields).Succeeds ↔ fields.HoldsCondition := by
  rw [readConditionField_succeeds]
  constructor
  · intro read data given
    exact .of_reads data (read data given)
  · intro held data given
    exact (held data given).reads

open Instruction.Kind (hasRegister integerKeys hasCondition bodyKeys)

theorem readKind_succeeds {nested : Bool} {fields : Fields} {kind : Instruction.Kind} :
    (readKind nested fields kind).Succeeds ↔
      (kind = .define → nested = false) ∧ (kind.hasRegister = true → fields.HoldsRegister) ∧
        (∀ key ∈ kind.integerKeys, fields.HoldsInteger key) ∧ (kind.hasCondition = true → fields.HoldsCondition) ∧
          ∀ key ∈ kind.bodyKeys, (readBody fields key).Succeeds := by
  cases kind with
  | move | turnLeft | turnRight | call =>
    refine iff_of_true (Scan.succeeds_pure _) ?_
    simp [hasRegister, integerKeys, hasCondition, bodyKeys]
  | assign =>
    -- The value is read before the register; which of them fails first makes no difference here.
    rw [readKind, Scan.succeeds_both fun _ => Scan.succeeds_then_pure, Scan.succeeds_ofExcept, Scan.succeeds_ofExcept,
      Fields.integer_succeeds, Fields.register_succeeds]
    simp [hasRegister, integerKeys, hasCondition, bodyKeys, and_comm]
  | increment | decrement =>
    rw [readKind, Scan.succeeds_then_pure, Scan.succeeds_ofExcept, Fields.register_succeeds]
    simp [hasRegister, integerKeys, hasCondition, bodyKeys]
  | repeatTimes =>
    rw [readKind, Scan.succeeds_both fun _ => Scan.succeeds_then_pure, Scan.succeeds_ofExcept, Fields.integer_succeeds]
    simp [hasRegister, integerKeys, hasCondition, bodyKeys]
  | ifThen | whileDo =>
    rw [readKind, Scan.succeeds_both fun _ => Scan.succeeds_then_pure, readConditionField_holds]
    simp [hasRegister, integerKeys, hasCondition, bodyKeys]
  | ifElse =>
    rw [readKind, Scan.succeeds_both fun _ => Scan.succeeds_both fun _ => Scan.succeeds_then_pure, readConditionField_holds]
    simp [hasRegister, integerKeys, hasCondition, bodyKeys]
  | define =>
    cases nested with
    | true =>
      refine iff_of_false (Scan.not_succeeds_fail _) ?_
      rintro ⟨allowed, -⟩
      cases allowed rfl
    | false =>
      rw [readKind, if_neg Bool.false_ne_true, Scan.succeeds_then_pure]
      simp [hasRegister, integerKeys, hasCondition, bodyKeys]

theorem readNodes_succeeds {items : List Json} :
    (readNodes items).Succeeds ↔ ∀ item ∈ items, (readInstruction true item).Succeeds := by
  induction items with
  | nil =>
    rw [readNodes]
    exact iff_of_true (Scan.succeeds_pure _) (by simp)
  | cons item rest ih =>
    rw [readNodes, Scan.succeeds_both fun _ => Scan.succeeds_then_pure, ih, List.forall_mem_cons]

theorem readFunctions_succeeds {items : List Json} :
    (readFunctions items).Succeeds ↔ ∀ item ∈ items, (readInstruction false item).Succeeds := by
  induction items with
  | nil => exact iff_of_true (Scan.succeeds_pure _) (by simp)
  | cons item rest ih =>
    -- An entry that is dropped has been read all the same.
    have others (node : Instruction) : (if node.isDefinition then do
        let nodes ← readFunctions rest
        return node :: nodes
      else do
        Scan.warn (.ignored node.tag)
        readFunctions rest : Scan ReadFault Body).Succeeds ↔ (readFunctions rest).Succeeds := by
      split
      · exact Scan.succeeds_then_pure
      · exact Iff.rfl
    rw [readFunctions, Scan.succeeds_both others, ih, List.forall_mem_cons]

theorem readBody_succeeds {fields : Fields} {key : String} : (readBody fields key).Succeeds ↔ fields.HoldsBody key ∧
    ∀ items, fields.get? key = some (.arr items) → ∀ item ∈ items, (readInstruction true item).Succeeds := by
  unfold Fields.HoldsBody
  rw [readBody]
  split
  · rename_i missing
    rw [missing]
    refine iff_of_true (Scan.succeeds_pure _) ⟨?_, ?_⟩
    · rintro value ⟨⟩
    · rintro items ⟨⟩
  · rename_i null
    rw [null]
    refine iff_of_true (Scan.succeeds_pure _) ⟨?_, ?_⟩
    · rintro value ⟨⟩
      exact .inl rfl
    · rintro items ⟨⟩
  · rename_i items list
    rw [list, readNodes_succeeds]
    constructor
    · intro read
      refine ⟨?_, ?_⟩
      · rintro value ⟨⟩
        exact .inr ⟨items, rfl⟩
      · rintro others ⟨⟩
        exact read
    · rintro ⟨-, read⟩
      exact read items rfl
  · rename_i value noNull noList other
    rw [other]
    refine iff_of_false (Scan.not_succeeds_fail _) ?_
    rintro ⟨held, -⟩
    rcases held value rfl with null | ⟨items, list⟩
    · exact noNull null
    · exact noList items list

theorem Json.IsNode.reads {nested : Bool} {data : Json} (valid : data.IsNode nested) :
    (readInstruction nested data).Succeeds := by
  induction valid with
  | known kind type allowed register integers condition bodies inside ih =>
    rw [readInstruction_kind _ (Fields.kind_known_iff.mpr type), readKind_succeeds]
    refine ⟨allowed, register, integers, condition, ?_⟩
    intro key held
    exact readBody_succeeds.mpr ⟨bodies key held, ih key held⟩
  | unknown strange noList noObject =>
    rw [readInstruction_unknown _ (Fields.kind_unknown_iff.mpr ⟨strange, noList, noObject⟩)]
    exact ⟨_, rfl⟩

theorem Json.IsNode.of_reads (nested : Bool) (data : Json) (read : (readInstruction nested data).Succeeds) :
    data.IsNode nested := by
  match data with
  | .obj fields =>
    cases known : Fields.kind fields with
    | error fault =>
      rw [readInstruction, known] at read
      exact (Scan.not_succeeds_fail fault read).elim
    | ok kind? =>
      cases kind? with
      | none =>
        rcases Fields.kind_unknown_iff.mp known with ⟨strange, noList, noObject⟩
        exact .unknown strange noList noObject
      | some kind =>
        rw [readInstruction_kind nested known] at read
        rcases readKind_succeeds.mp read with ⟨allowed, register, integers, condition, bodies⟩
        apply IsNode.known kind (Fields.kind_known_iff.mp known) allowed register integers condition
        · intro key held
          exact (readBody_succeeds.mp (bodies key held)).1
        · intro key held items given item member
          exact IsNode.of_reads true item ((readBody_succeeds.mp (bodies key held)).2 items given item member)
  | .null | .bool _ | .num _ | .str _ | .arr _ =>
    rw [readInstruction] at read
    · exact (Scan.not_succeeds_fail _ read).elim
    all_goals
      intros
      contradiction
termination_by sizeOf data
decreasing_by
  have list := Fields.sizeOf_get? given
  have inside := List.sizeOf_lt_of_mem member
  simp at list ⊢
  omega

theorem readInstruction_succeeds {nested : Bool} {data : Json} :
    (readInstruction nested data).Succeeds ↔ data.IsNode nested :=
  ⟨Json.IsNode.of_reads nested data, Json.IsNode.reads⟩

namespace ProgramFile

theorem listing_then {β : Type} {fields : Fields} {key : String} {next : List Json → Scan ReadFault β} :
    (Scan.ofExcept (fields.listing key) >>= next).Succeeds ↔
      fields.HoldsListing key ∧ (next (fields.items key)).Succeeds := by
  rw [Scan.succeeds_bind, ← Fields.listing_succeeds]
  constructor
  · rintro ⟨items, listed, read⟩
    refine ⟨⟨items, listed⟩, ?_⟩
    rwa [← listing_items listed]
  · rintro ⟨⟨items, listed⟩, read⟩
    refine ⟨items, listed, ?_⟩
    rwa [listing_items listed]

theorem ofFields_succeeds {fields : Fields} : (ofFields fields).Succeeds ↔
    (∀ key ∈ ["functions", "mainProgram"], fields.HoldsListing key) ∧
      (∀ item ∈ fields.items "functions", item.IsNode false) ∧ ∀ item ∈ fields.items "mainProgram", item.IsNode true := by
  unfold ofFields
  rw [listing_then, Scan.succeeds_both fun _ => listing_then.trans (and_congr_right fun _ => Scan.succeeds_then_pure),
    readFunctions_succeeds, readNodes_succeeds]
  simp only [readInstruction_succeeds, List.forall_mem_cons, List.not_mem_nil, false_implies, implies_true, and_true]
  constructor
  · rintro ⟨first, functions, second, main⟩
    exact ⟨⟨first, second⟩, functions, main⟩
  · rintro ⟨⟨first, second⟩, functions, main⟩
    exact ⟨first, functions, second, main⟩

theorem versioned_of_read {data : Json} {file : ProgramFile} (read : (ofDocument data).outcome = .ok file) :
    ∃ fields : Fields, data = .obj fields ∧ fields.get? "version" = some (.str "1.0") := by
  cases data with
  | null | bool | num | str | arr => cases read
  | obj fields =>
    refine ⟨fields, rfl, ?_⟩
    simp only [ofDocument] at read
    cases given : Fields.get? fields "version" with
    | none =>
      rw [given] at read
      cases read
    | some value =>
      rw [given] at read
      cases value with
      | null | bool | num | arr | obj => cases read
      | str version =>
        by_cases supported : version = fileVersion
        · rw [supported]
          rfl
        · simp only [Option.getD_some, if_neg supported] at read
          cases read

theorem ofDocument_succeeds {data : Json} : (ofDocument data).Succeeds ↔ data.IsProgram := by
  constructor
  · rintro ⟨file, read⟩
    rcases versioned_of_read read with ⟨fields, rfl, version⟩
    rw [ofDocument_versioned version] at read
    rcases ofFields_succeeds.mp (Scan.succeeds_mapError.mp ⟨file, read⟩) with ⟨listed, functions, main⟩
    exact ⟨fields, rfl, version, listed, functions, main⟩
  · rintro ⟨fields, rfl, version, listed, functions, main⟩
    rw [ofDocument_versioned version, Scan.succeeds_mapError, ofFields_succeeds]
    exact ⟨listed, functions, main⟩

theorem read_of_decoded {source : Source} {data : Json} (decoded : source.decode = .ok data) :
    (∃ file, (read source).outcome = .ok file) ↔ data.IsProgram := by
  rw [← ofDocument_succeeds, Scan.Succeeds]
  simp only [read, decoded]
  cases (ofDocument data).outcome with
  | error fault => exact iff_of_false (by rintro ⟨file, ⟨⟩⟩) (by rintro ⟨file, ⟨⟩⟩)
  | ok file => exact iff_of_true ⟨_, rfl⟩ ⟨file, rfl⟩

/-- A document is read exactly if it is well formed; one that is a text is read as what is written in it. -/
theorem read_iff_isProgram (data : Json) :
    ((∀ text, data ≠ .str text) → ((∃ file, (read (.document data)).outcome = .ok file) ↔ data.IsProgram)) ∧
      ∀ text, data = .str text → ((∃ file, (read (.document data)).outcome = .ok file) ↔
        ∃ inner, Json.parse text.toList = .ok inner ∧ inner.IsProgram) := by
  constructor
  · intro noText
    apply read_of_decoded
    cases data with
    | str text => exact (noText text rfl).elim
    | null | bool | num | arr | obj => rfl
  · rintro text rfl
    have decode : (Source.document (.str text)).decode = (Json.parse text.toList).mapError .text := rfl
    cases parsed : Json.parse text.toList with
    | error fault =>
      rw [parsed] at decode
      apply iff_of_false
      · rintro ⟨file, accepted⟩
        rw [read_undecoded decode] at accepted
        cases accepted
      · rintro ⟨inner, ⟨⟩, -⟩
    | ok inner =>
      rw [parsed] at decode
      rw [read_of_decoded decode]
      constructor
      · intro valid
        exact ⟨inner, rfl, valid⟩
      · rintro ⟨other, same, valid⟩
        cases same
        exact valid

/-- A function that stores a numeral, and a loop over a negated comparison with a whole double, beside an instruction
whose type is a number; and a program that defines a function in its main part. -/
theorem read_iff_isProgram_nested :
    let store : Fields := [("type", .str "set"), ("register", .str "R4"), ("value", .str "12")]
    let function : Fields := [("type", .str "function"), ("functionName", .arr []), ("body", .arr [.obj store])]
    let test : Fields := [("type", .str "registerGreater"), ("value", .num (.float ⟨0x4000000000000000⟩))]
    let loop : Fields := [("type", .str "while"), ("condition", .obj [("type", .str "not"), ("condition", .obj test)]),
      ("body", .null)]
    let odd : Fields := [("type", .int 7), ("body", .int 3)]
    let good : Json := .obj [("version", .str "1.0"), ("functions", .arr [.obj function]),
      ("mainProgram", .arr [.obj loop, .obj odd])]
    let bad : Json := .obj [("version", .str "1.0"), ("functions", .bool false), ("mainProgram", .arr [.obj function])]
    (∀ text, good ≠ .str text) ∧ good.IsProgram ∧ (∃ file, (read (.document good)).outcome = .ok file) ∧
      (∀ text, bad ≠ .str text) ∧ ¬bad.IsProgram ∧ ¬∃ file, (read (.document bad)).outcome = .ok file := by
  intro store function test loop odd good bad
  have goodObject : ∀ text, good ≠ .str text := fun _ same => Json.noConfusion same
  have badObject : ∀ text, bad ≠ .str text := fun _ same => Json.noConfusion same
  have storeValid : (Json.obj store).IsNode true := by
    apply Json.IsNode.known .assign rfl
    · rintro ⟨⟩
    · rintro - value ⟨⟩
      exact ⟨.r4, rfl⟩
    · intro key held value given
      rcases List.mem_singleton.mp held with rfl
      cases given
      exact .numeral (n := 12) (by cbv)
    · rintro ⟨⟩
    · rintro key ⟨⟩
    · rintro key ⟨⟩
  have functionValid : (Json.obj function).IsNode false := by
    apply Json.IsNode.known .define rfl
    · intro _
      rfl
    · rintro ⟨⟩
    · rintro key ⟨⟩
    · rintro ⟨⟩
    · intro key held value given
      rcases List.mem_singleton.mp held with rfl
      cases given
      exact .inr ⟨_, rfl⟩
    · intro key held items given item member
      rcases List.mem_singleton.mp held with rfl
      cases given
      rcases List.mem_singleton.mp member with rfl
      exact storeValid
  have testValid : (Json.obj test).IsCondition := by
    apply Json.IsCondition.comparison .greater rfl
    · rintro value ⟨⟩
    · rintro value ⟨⟩
      exact .whole (by decide +kernel)
  have loopValid : (Json.obj loop).IsNode true := by
    apply Json.IsNode.known .whileDo rfl
    · rintro ⟨⟩
    · rintro ⟨⟩
    · rintro key ⟨⟩
    · rintro - data ⟨⟩
      apply Json.IsCondition.negation rfl
      rintro inner ⟨⟩
      exact testValid
    · intro key held value given
      rcases List.mem_singleton.mp held with rfl
      cases given
      exact .inl rfl
    · intro key held items given
      rcases List.mem_singleton.mp held with rfl
      cases given
  have oddValid : (Json.obj odd).IsNode true := by
    apply Json.IsNode.unknown
    · rintro kind ⟨⟩
    · rintro items ⟨⟩
    · rintro inner ⟨⟩
  have goodValid : good.IsProgram := by
    refine ⟨_, rfl, rfl, ?_, ?_, ?_⟩
    · intro key held value given
      have either : key = "functions" ∨ key = "mainProgram" := by simpa using held
      rcases either with rfl | rfl
      · cases given
        exact .inr ⟨_, rfl⟩
      · cases given
        exact .inr ⟨_, rfl⟩
    · intro item member
      rcases List.mem_singleton.mp member with rfl
      exact functionValid
    · intro item member
      rcases List.mem_cons.mp member with rfl | member
      · exact loopValid
      · rcases List.mem_singleton.mp member with rfl
        exact oddValid
  have badInvalid : ¬bad.IsProgram := by
    rintro ⟨fields, same, valid⟩
    rcases Json.obj.inj same with rfl
    cases valid.main (.obj function) (List.mem_singleton.mpr rfl) with
    | known kind type allowed =>
      have define : Fields.kind function = .ok (some .define) := rfl
      rw [Fields.kind_known_iff.mpr type] at define
      cases define
      cases allowed rfl
    | unknown strange => exact strange .define rfl
  refine ⟨goodObject, goodValid, ?_, badObject, badInvalid, ?_⟩
  · exact ((read_iff_isProgram good).1 goodObject).mpr goodValid
  · rwa [(read_iff_isProgram bad).1 badObject]

/-- A text is no object, and yet the program that is written in it is read. -/
theorem read_text_of_program :
    let text := "\x7b\"version\": \"1.0\"\x7d"
    ¬(Json.str text).IsProgram ∧ ∃ file, (read (.document (.str text))).outcome = .ok file := by
  intro text
  constructor
  · rintro ⟨fields, same, -⟩
    cases same
  · have parsed : Json.parse text.toList = .ok (.obj [("version", .str "1.0")]) := by
      cbv
    have decoded : (Source.document (.str text)).decode = .ok (.obj [("version", .str "1.0")]) := by
      rw [Source.decode, parsed]
      rfl
    rw [read_of_decoded decoded]
    refine ⟨_, rfl, rfl, ?_, ?_, ?_⟩
    · intro key held value given
      have either : key = "functions" ∨ key = "mainProgram" := by simpa using held
      rcases either with rfl | rfl <;> cases given
    · rintro item ⟨⟩
    · rintro item ⟨⟩

end ProgramFile

end GridRobot
