import GridRobot.Proofs.Program.Places

/-!
What the instructions and comparisons of a program work with. A count or value is an integer in the document, a double
without a fraction, or an integer numeral in a text, and the integer that it denotes is carried at its place; a register
is the one that is named there. A document with anything else in such a place is refused.
-/
namespace GridRobot

namespace Json

/-- The integer that a value stands for. -/
inductive Denotes : Json → Int → Prop
  | integer (n : Int) : Denotes (.int n) n
  | whole {x : Binary64} {n : Int} (exact : x.value = .finite (n * Binary64.unitsPerOne)) : Denotes (.num (.float x)) n
  | numeral {text : String} {n : Int} (numeral : Text.readInt? text = some n) : Denotes (.str text) n

def Names (value : Json) (r : Register) : Prop := value = .str r.name

def integer? (data : Json) : Option Json :=
  match data.known? with
  | some (kind, fields) => kind.integerKeys.findSome? fields.get?
  | none => none

def register? (data : Json) : Option Json :=
  match data.known? with
  | some (kind, fields) => if kind.hasRegister then fields.get? "register" else none
  | none => none

def comparison? : Json → Option Fields
  | .obj fields => match Fields.get? fields "type" with
    | some (.str tag) => (Comparison.ofTag? tag).map fun _ => fields
    | _ => none
  | _ => none

def compared? (key : String) (data : Json) : Option Json := data.comparison?.bind fun fields => Fields.get? fields key

def integerAt? (way : Way) (data : Json) : Option Json := (data.at? way).bind integer?

def comparandAt? (way : Way) (depth : Nat) (data : Json) : Option Json :=
  (data.testAt? way depth).bind (compared? "value")

def registerAt? (way : Way) (data : Json) : Option Json := (data.at? way).bind register?

def comparedAt? (way : Way) (depth : Nat) (data : Json) : Option Json :=
  (data.testAt? way depth).bind (compared? "register")

/-- Somewhere in an instruction's document stands what denotes no integer, where one is asked for. -/
def HasNonInteger (data : Json) : Prop :=
  ∃ value, (∀ n, ¬value.Denotes n) ∧
    ((∃ way, data.integerAt? way = some value) ∨ ∃ way depth, data.comparandAt? way depth = some value)

theorem Denotes.unique {value : Json} {n m : Int} (one : value.Denotes n) (other : value.Denotes m) : n = m := by
  cases one with
  | integer =>
    cases other
    rfl
  | whole exact =>
    cases other with
    | whole same =>
      have scale : (Binary64.unitsPerOne : Int) ≠ 0 := by decide +kernel
      rw [exact, Binary64.Value.finite.injEq] at same
      exact Int.eq_of_mul_eq_mul_right scale same
  | numeral numeral =>
    cases other with
    | numeral same =>
      rw [numeral] at same
      exact Option.some.inj same

theorem comparison?_eq_some {data : Json} {fields : Fields} (given : data.comparison? = some fields) :
    data = .obj fields ∧ ∃ op : Comparison, fields.get? "type" = some (.str op.tag) := by
  cases data with
  | obj others =>
    rw [comparison?] at given
    split at given
    · rename_i tag type
      rcases Option.map_eq_some_iff.mp given with ⟨op, named, rfl⟩
      refine ⟨rfl, op, ?_⟩
      rw [type, Comparison.tag_of_ofTag? named]
    · cases given
  | null | bool | num | str | arr => cases given

end Json

namespace Condition

def comparand? : Condition → Option Json
  | .compare _ _ value => some value
  | _ => none

def register? : Condition → Option Register
  | .compare r _ _ => some r
  | _ => none

end Condition

namespace Instruction

def integer? : Instruction → Option Json
  | .assign _ value | .repeatTimes value _ => some value
  | _ => none

def register? : Instruction → Option Register
  | .assign r _ | .increment r | .decrement r => some r
  | _ => none

def integerAt? (way : Way) (node : Instruction) : Option Json := (node.at? way).bind integer?

def comparandAt? (way : Way) (depth : Nat) (node : Instruction) : Option Json :=
  (node.testAt? way depth).bind Condition.comparand?

def registerAt? (way : Way) (node : Instruction) : Option Register := (node.at? way).bind register?

def comparedAt? (way : Way) (depth : Nat) (node : Instruction) : Option Register :=
  (node.testAt? way depth).bind Condition.register?

end Instruction

/-- Each count and value in an instruction's document denotes the integer that stands at its place. -/
structure Json.CarriesIntegers (data : Json) (node : Instruction) : Prop where
  integer {way : Way} {value : Json} (found : data.integerAt? way = some value) :
    ∃ n : Int, node.integerAt? way = some (.int n) ∧ value.Denotes n
  comparand {way : Way} {depth : Nat} {value : Json} (found : data.comparandAt? way depth = some value) :
    ∃ n : Int, node.comparandAt? way depth = some (.int n) ∧ value.Denotes n

structure Json.CarriesRegisters (data : Json) (node : Instruction) : Prop where
  register {way : Way} {value : Json} (found : data.registerAt? way = some value) :
    ∃ r, node.registerAt? way = some r ∧ value.Names r
  compared {way : Way} {depth : Nat} {value : Json} (found : data.comparedAt? way depth = some value) :
    ∃ r, node.comparedAt? way depth = some r ∧ value.Names r

theorem Json.denotes_of_whole {x : Binary64} {n : Int} (whole : x.isWhole = true)
    (cut : (Json.num (.float x)).toInteger = .ok n) : (Json.num (.float x)).Denotes n := by
  unfold Binary64.isWhole at whole
  cases held : x.value with
  | nan | infinite negative =>
    rw [held] at whole
    cases whole
  | finite units =>
    simp only [held, beq_iff_eq] at whole
    simp only [Json.toInteger, held] at cut
    cases cut
    -- The units are cut by a number that divides them, so nothing is cut off.
    refine .whole ?_
    rw [held, Int.tdiv_mul_cancel (Int.dvd_of_emod_eq_zero whole)]

theorem Fields.integer_denotes {fields : Fields} {key : String} {default n : Int} {value : Json}
    (read : fields.integer key default = .ok n) (given : fields.get? key = some value) : value.Denotes n := by
  simp only [Fields.integer, given, Option.getD_some] at read
  cases value with
  | null | bool | arr | obj => cases read
  | str text =>
    cases numeral : Text.readInt? text with
    | none =>
      simp only [Json.toInteger, numeral] at read
      cases read
    | some m =>
      simp only [Json.toInteger, numeral] at read
      cases read
      exact .numeral numeral
  | num x =>
    cases x with
    | int m =>
      cases read
      exact .integer n
    | float x =>
      dsimp only at read
      split at read
      · rename_i whole
        rcases Fields.integer_of_whole whole with ⟨m, cut⟩
        rw [cut] at read
        cases read
        exact Json.denotes_of_whole whole cut
      · cases read

theorem Fields.register_names {fields : Fields} {r : Register} {value : Json} (read : fields.register = .ok r)
    (given : fields.get? "register" = some value) : value.Names r := by
  rcases Fields.register_succeeds.mp ⟨r, read⟩ value given with ⟨other, rfl⟩
  -- What is given is the name of some register; reading that name gives the same register back.
  rw [fields.register_name other given] at read
  cases read
  rfl

theorem Condition.readCondition_comparison {data : Json} {fields : Fields} {c : Condition}
    (read : (readCondition data).outcome = .ok c) (given : data.comparison? = some fields) :
    ∃ (r : Register) (op : Comparison) (n : Int), c = .compare r op (.int n) ∧ fields.integer "value" 0 = .ok n ∧
      fields.register = .ok r := by
  rcases Json.comparison?_eq_some given with ⟨rfl, op, type⟩
  -- The reader looks for a negation before it looks for a comparison, and no object is both.
  have positive : fields.isNegation ≠ true := by
    intro negation
    exact op.tag_ne_not (Fields.word_unique type (fields.isNegation_iff.mp negation))
  rw [readCondition, if_neg positive, ofFields_tag type, comparison] at read
  rcases Scan.outcome_of_bind read with ⟨n, value, rest⟩
  rcases Scan.outcome_of_bind rest with ⟨r, register, made⟩
  cases made
  exact ⟨r, op, n, rfl, value, register⟩

section Carried

variable {data value : Json} {node : Instruction} {c : Condition}

theorem Condition.readCondition_comparand (read : (readCondition data).outcome = .ok c)
    (given : data.compared? "value" = some value) :
    ∃ held, c.comparand? = some held ∧ ∃ n : Int, held = .int n ∧ value.Denotes n := by
  rcases Option.bind_eq_some_iff.mp given with ⟨fields, comparison, given⟩
  rcases readCondition_comparison read comparison with ⟨r, op, n, rfl, held, -⟩
  exact ⟨_, rfl, n, rfl, Fields.integer_denotes held given⟩

theorem Condition.readCondition_register (read : (readCondition data).outcome = .ok c)
    (given : data.compared? "register" = some value) : ∃ r, c.register? = some r ∧ value.Names r := by
  rcases Option.bind_eq_some_iff.mp given with ⟨fields, comparison, given⟩
  rcases readCondition_comparison read comparison with ⟨r, op, n, rfl, -, held⟩
  exact ⟨r, rfl, Fields.register_names held given⟩

theorem Json.ReadsAs.integer (reads : data.ReadsAs node) (given : data.integer? = some value) :
    ∃ held, node.integer? = some held ∧ ∃ n : Int, held = .int n ∧ value.Denotes n := by
  rcases reads.made with ⟨unread, fields, -, rfl⟩ | ⟨nested, kind, fields, warnings, known, made⟩
  · rw [Json.integer?, unread] at given
    cases given
  · rw [Json.integer?, known] at given
    cases made with
    | assign held | repeatTimes held =>
      dsimp only [Instruction.Kind.integerKeys] at given
      rw [List.findSome?_singleton] at given
      exact ⟨_, rfl, _, rfl, Fields.integer_denotes held given⟩
    | move | turnLeft | turnRight | increment | decrement | ifThen | ifElse | whileDo | call | define => cases given

theorem Json.ReadsAs.register (reads : data.ReadsAs node) (given : data.register? = some value) :
    ∃ r, node.register? = some r ∧ value.Names r := by
  rcases reads.made with ⟨unread, fields, -, rfl⟩ | ⟨nested, kind, fields, warnings, known, made⟩
  · rw [Json.register?, unread] at given
    cases given
  · rw [Json.register?, known] at given
    cases made with
    | assign _ held | increment held | decrement held => exact ⟨_, rfl, Fields.register_names held given⟩
    | move | turnLeft | turnRight | repeatTimes | ifThen | ifElse | whileDo | call | define => cases given

theorem Json.ReadsAs.carriesIntegers (reads : data.ReadsAs node) : data.CarriesIntegers node := by
  constructor
  · intro way value found
    rcases reads.partAt Json.ReadsAs.integer found with ⟨_, carried, n, rfl, denotes⟩
    exact ⟨n, carried, denotes⟩
  · intro way depth value found
    rcases reads.testPartAt Condition.readCondition_comparand found with ⟨_, carried, n, rfl, denotes⟩
    exact ⟨n, carried, denotes⟩

theorem Json.ReadsAs.carriesRegisters (reads : data.ReadsAs node) : data.CarriesRegisters node := by
  constructor
  · intro way value found
    exact reads.partAt Json.ReadsAs.register found
  · intro way depth value found
    exact reads.testPartAt Condition.readCondition_register found

end Carried

theorem Json.CarriesIntegers.not_hasNonInteger {data : Json} {node : Instruction} (carries : data.CarriesIntegers node) :
    ¬data.HasNonInteger := by
  rintro ⟨value, none, ⟨way, found⟩ | ⟨way, depth, found⟩⟩
  · rcases carries.integer found with ⟨n, -, denotes⟩
    exact none n denotes
  · rcases carries.comparand found with ⟨n, -, denotes⟩
    exact none n denotes

namespace ProgramFile

theorem read_carries {source : Source} {file : ProgramFile} (accepted : (read source).outcome = .ok file) :
    ∃ (fields : Fields) (trees : Body), source.decode = .ok (.obj fields) ∧
      List.Forall₂ Json.CarriesIntegers (fields.items "functions") trees ∧
      file.functions = trees.filter Instruction.isDefinition ∧
      List.Forall₂ Json.CarriesIntegers (fields.items "mainProgram") file.main := by
  rcases read_made accepted with ⟨fields, trees, decoded, each, kept, main, -⟩
  refine ⟨fields, trees, decoded, ?_, kept, ?_⟩
  · exact each.imp fun item node read => Json.ReadsAs.carriesIntegers ⟨false, read⟩
  · exact main.imp fun item node read => Json.ReadsAs.carriesIntegers ⟨true, read⟩

theorem refused_reason {source : Source} {fields : Fields} {error : ImportError}
    (decoded : source.decode = .ok (.obj fields)) (failed : (read source).outcome = .error error) :
    error.reason = "ProgramFormatError" ∨
      (fields.get? "version" ≠ some (.str fileVersion) ∧ error.reason = "UnsupportedFileVersion") ∨
      (IsStray (.obj fields) ∧ error.reason = "TypeError") := by
  rw [read_refused decoded] at failed
  rcases ofDocument_failed failed with (version | format) | stray
  · refine .inr (.inl ⟨?_, version⟩)
    intro supported
    -- With a supported version, every fault is one of an instruction.
    rw [ofDocument_versioned supported] at failed
    rcases Scan.fault_of_mapError failed with ⟨fault, -, rfl⟩
    cases fault <;> simp [ImportError.reason] at version
  · exact .inl format
  · exact .inr (.inr stray)

/-- A program that is read carries, as its counts and values, the integers that its document denotes at these places;
a document where something else stands for one of them is refused as malformed. A version that is not supported or a
type that is no key may come in between. -/
theorem read_carries_integers (source : Source) :
    (∀ file, (read source).outcome = .ok file → ∃ (fields : Fields) (trees : Body), source.decode = .ok (.obj fields) ∧
      List.Forall₂ Json.CarriesIntegers (fields.items "functions") trees ∧
      file.functions = trees.filter Instruction.isDefinition ∧
      List.Forall₂ Json.CarriesIntegers (fields.items "mainProgram") file.main) ∧
    ∀ fields : Fields, source.decode = .ok (.obj fields) →
      ∀ item ∈ fields.items "functions" ++ fields.items "mainProgram", item.HasNonInteger →
        ∃ error, (read source).outcome = .error error ∧ (error.reason = "ProgramFormatError" ∨
          (fields.get? "version" ≠ some (.str fileVersion) ∧ error.reason = "UnsupportedFileVersion") ∨
          (IsStray (.obj fields) ∧ error.reason = "TypeError")) := by
  refine ⟨fun file accepted => read_carries accepted, ?_⟩
  intro fields decoded item member odd
  cases outcome : (read source).outcome with
  | error error => exact ⟨error, rfl, refused_reason decoded outcome⟩
  | ok file =>
    -- It cannot have been read: its entry would carry an integer where nothing denotes one.
    rcases read_carries outcome with ⟨others, trees, same, functions, -, main⟩
    rw [decoded] at same
    cases same
    rcases List.mem_iff_getElem?.mp member with ⟨index, there⟩
    rcases Way.getElem?_alike (List.rel_append functions main) there with ⟨node, -, carries⟩
    exact (carries.not_hasNonInteger odd).elim

/-- A double that counts a loop in a function, with a comparison under a negation and an assignment inside; and the
same with a truth value in the assignment. -/
theorem read_carries_integers_nested :
    let test : Fields := [("type", .str "registerEquals"), ("value", .int (-7))]
    let store (value : Json) : Fields := [("type", .str "set"), ("value", value)]
    let loop (value : Json) : Fields := [("type", .str "while"),
      ("condition", .obj [("type", .str "not"), ("condition", .obj test)]), ("body", .arr [.obj (store value)])]
    let rounds (value : Json) : Fields := [("type", .str "repeat"), ("count", .num (.float ⟨0x4000000000000000⟩)),
      ("body", .arr [.obj (loop value)])]
    let function (value : Json) : Fields := [("type", .str "function"), ("body", .arr [.obj (rounds value)])]
    let program (value : Json) : Fields := [("version", .str "1.0"), ("functions", .arr [.obj (function value)])]
    (∃ file definition, (read (.document (.obj (program (.int 5))))).outcome = .ok file ∧ file.functions = [definition] ∧
      definition.integerAt? [(0, 0)] = some (.int 2) ∧ definition.comparandAt? [(0, 0), (0, 0)] 1 = some (.int (-7)) ∧
      definition.integerAt? [(0, 0), (0, 0), (0, 0)] = some (.int 5)) ∧
    (Json.obj (function (.bool true))).HasNonInteger ∧
    ∃ error, (read (.document (.obj (program (.bool true))))).outcome = .error error ∧
      error.reason = "ProgramFormatError" := by
  intro test store loop rounds function program
  have denotes : (Json.num (.float ⟨0x4000000000000000⟩)).Denotes 2 := .whole (by decide +kernel)
  have counted : Fields.integer (rounds (.int 5)) "count" 3 = .ok 2 := by
    have held : (rounds (.int 5)).HoldsInteger "count" := by
      rintro value ⟨⟩
      exact .whole (by decide +kernel)
    rcases (Fields.integer_succeeds 3).mpr held with ⟨n, read⟩
    rw [read, (Fields.integer_denotes read rfl).unique denotes]
  have repeats (value : Json) : Fields.kind (rounds value) = .ok (some .repeatTimes) := rfl
  have defines (value : Json) : Fields.kind (function value) = .ok (some .define) := rfl
  have loops (value : Json) : Fields.kind (loop value) = .ok (some .whileDo) := rfl
  have stores (value : Json) : Fields.kind (store value) = .ok (some .assign) := rfl
  constructor
  · have inside : readNodes [.obj (loop (.int 5))] =
        ⟨[], .ok [.whileDo (.negate (.compare .r1 .equals (.int (-7)))) [.assign .r1 (.int 5)]]⟩ := by
      cbv
    have body : readNodes [.obj (rounds (.int 5))] = ⟨[], .ok [.repeatTimes (.int 2)
        [.whileDo (.negate (.compare .r1 .equals (.int (-7)))) [.assign .r1 (.int 5)]]]⟩ := by
      rw [readNodes, readInstruction_kind true (repeats _), readKind, counted, readBody_list rfl, inside, readNodes]
      rfl
    have definitions : readFunctions [.obj (function (.int 5))] = ⟨[], .ok [.define (.str "func1") [.repeatTimes (.int 2)
        [.whileDo (.negate (.compare .r1 .equals (.int (-7)))) [.assign .r1 (.int 5)]]]]⟩ := by
      rw [readFunctions, readInstruction_kind false (defines _), readKind, readBody_list rfl, body]
      rfl
    have none : readNodes [] = ⟨[], .ok []⟩ := by
      rw [readNodes]
      rfl
    rcases read_of_lists (program (.int 5)) rfl rfl definitions rfl none with ⟨file, accepted, made, -⟩
    rcases (read_carries_integers _).1 file accepted with ⟨fields, trees, decoded, carries, kept, -⟩
    cases decoded
    rcases List.forall₂_cons_left_iff.mp carries with ⟨definition, _, carried, none, rfl⟩
    cases none
    have functions : file.functions = [definition] := by
      cases definition with
      | define => exact kept
      | _ =>
        rw [made] at kept
        cases kept
    have count : (Json.obj (function (.int 5))).integerAt? [(0, 0)] = some (.num (.float ⟨0x4000000000000000⟩)) := rfl
    have comparand : (Json.obj (function (.int 5))).comparandAt? [(0, 0), (0, 0)] 1 = some (.int (-7)) := rfl
    have value : (Json.obj (function (.int 5))).integerAt? [(0, 0), (0, 0), (0, 0)] = some (.int 5) := rfl
    rcases carried.integer count with ⟨n, count, double⟩
    rcases carried.comparand comparand with ⟨m, comparand, negative⟩
    rcases carried.integer value with ⟨k, value, five⟩
    rw [double.unique denotes] at count
    rw [negative.unique (.integer _)] at comparand
    rw [five.unique (.integer _)] at value
    exact ⟨file, definition, accepted, functions, count, comparand, value⟩
  · have odd : (Json.obj (function (.bool true))).HasNonInteger :=
      ⟨.bool true, by rintro n ⟨⟩, .inl ⟨[(0, 0), (0, 0), (0, 0)], rfl⟩⟩
    have usable : ¬(Json.obj (function (.bool true))).Strays := by
      intro strays
      have inLoop := ((strays.inner (defines _) rfl).inner (repeats _) rfl).inner (loops _) rfl
      rcases inLoop.beyond (stores _) with ⟨_, listed, -⟩
      cases listed
    refine ⟨odd, ?_⟩
    rcases (read_carries_integers (.document (.obj (program (.bool true))))).2 _ rfl _ (List.mem_singleton.mpr rfl) odd with
      ⟨error, refused, format | ⟨version, -⟩ | ⟨⟨_, same, -, key, listed, item, member, strays⟩, -⟩⟩
    · exact ⟨error, refused, format⟩
    · exact (version rfl).elim
    · cases same
      rcases List.mem_cons.mp listed with rfl | listed
      · rcases List.mem_singleton.mp member with rfl
        exact (usable strays).elim
      · rcases List.mem_singleton.mp listed with rfl
        cases member

/-- A numeral in a text passes for a count. -/
theorem read_takes_numeral :
    let loop : Json := .obj [("type", .str "repeat"), ("count", .str "3")]
    let fields : Fields := [("version", .str "1.0"), ("mainProgram", .arr [loop])]
    loop.integerAt? [] = some (.str "3") ∧
      ∃ file, (read (.document (.obj fields))).outcome = .ok file ∧ file.main = [.repeatTimes (.int 3) []] := by
  intro loop fields
  have nodes : readNodes [loop] = ⟨[], .ok [.repeatTimes (.int 3) []]⟩ := by
    cbv
  rcases read_of_lists fields rfl rfl rfl rfl nodes with ⟨file, accepted, -, main, -⟩
  exact ⟨rfl, file, accepted, main⟩

end ProgramFile

end GridRobot
