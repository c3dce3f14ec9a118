import GridRobot.Proofs.Program.RoundTrip

/-!
How the reading of a program fails. Two errors are announced to whoever asks for one: a version that is not
supported, and a document that is malformed. Two more slip through: bytes that are no text, and an instruction
whose type is a list or an object, which `Strays` finds in a document.
-/
namespace GridRobot

namespace Scan

variable {ε α β : Type}

theorem fault_of_bind {scan : Scan ε α} {next : α → Scan ε β} {fault : ε}
    (failed : (scan >>= next).outcome = .error fault) :
    scan.outcome = .error fault ∨ ∃ value, scan.outcome = .ok value ∧ (next value).outcome = .error fault := by
  rcases scan with ⟨warnings, outcome⟩
  cases outcome with
  | error other =>
    cases failed
    exact .inl rfl
  | ok value => exact .inr ⟨value, rfl, failed⟩

theorem fault_of_mapError {ε' : Type} {f : ε → ε'} {scan : Scan ε α} {fault : ε'}
    (failed : (scan.mapError f).outcome = .error fault) : ∃ cause, scan.outcome = .error cause ∧ fault = f cause := by
  rcases scan with ⟨warnings, outcome⟩
  cases outcome with
  | error cause =>
    cases failed
    exact ⟨cause, rfl, rfl⟩
  | ok value => cases failed

def Fails (scan : Scan ε α) : Prop := ∃ fault, scan.outcome = .error fault

theorem Fails.bind {scan : Scan ε α} (fails : scan.Fails) (next : α → Scan ε β) : (scan >>= next).Fails := by
  rcases scan with ⟨warnings, outcome⟩
  rcases fails with ⟨fault, failed⟩
  cases failed
  exact ⟨fault, rfl⟩

theorem Fails.after {scan : Scan ε α} {next : α → Scan ε β}
    (fails : ∀ value, scan.outcome = .ok value → (next value).Fails) : (scan >>= next).Fails := by
  rcases scan with ⟨warnings, outcome⟩
  cases outcome with
  | error fault => exact ⟨fault, rfl⟩
  | ok value => exact fails value rfl

end Scan

/-- One of the two errors that the reading of a program is announced to fail with. -/
def ImportError.IsAnnounced (error : ImportError) : Prop :=
  error.reason = "UnsupportedFileVersion" ∨ error.reason = "ProgramFormatError"

/-- A fault in the form of a document, as opposed to a type that cannot be looked up. -/
def ReadFault.IsMalformed : ReadFault → Prop
  | .typeTag _ => False
  | _ => True

def Instruction.Kind.bodyKeys : Instruction.Kind → List String
  | .repeatTimes | .ifThen | .whileDo | .define => ["body"]
  | .ifElse => ["ifBody", "elseBody"]
  | .move | .turnLeft | .turnRight | .assign | .increment | .decrement | .call => []

/-- An instruction, or one in the bodies that are read with it, has a type that is no key. -/
inductive Json.Strays : Json → Prop
  | here {fields : Fields} {type : Json} {fault : KeyFault} (given : fields.get? "type" = some type)
      (unusable : type.key = .error fault) : Strays (.obj fields)
  | inside {fields : Fields} {kind : Instruction.Kind} {key : String} {items : List Json} {item : Json}
      (known : Fields.kind fields = .ok (some kind)) (held : key ∈ kind.bodyKeys)
      (given : fields.get? key = some (.arr items)) (member : item ∈ items) (strays : Strays item) :
      Strays (.obj fields)

namespace Fields

variable {fields : Fields} {fault : ReadFault}

theorem integer_malformed {key : String} {default : Int} (failed : fields.integer key default = .error fault) :
    fault.IsMalformed := by
  have here : fault = .notInteger key ((fields.get? key).getD (.int default)) := by
    have mapped (value : Except Json.IntegerFault Int) (other : ReadFault)
        (failed : value.mapError (fun _ => other) = .error fault) : fault = other := by
      cases value with
      | error _ =>
        cases failed
        rfl
      | ok _ => cases failed
    unfold integer at failed
    dsimp only at failed
    split at failed
    · cases failed
      rfl
    · split at failed
      · exact mapped _ _ failed
      · cases failed
        rfl
    · exact mapped _ _ failed
  subst here
  trivial

theorem register_malformed (failed : fields.register = .error fault) : fault.IsMalformed := by
  unfold register at failed
  split at failed
  · cases failed
  · split at failed
    · cases failed
    · cases failed
      trivial
  · cases failed
    trivial

theorem listing_malformed {key : String} (failed : fields.listing key = .error fault) : fault.IsMalformed := by
  unfold listing at failed
  split at failed
  · cases failed
  · cases failed
  · split at failed
    · cases failed
      trivial
    · cases failed

theorem kind_strays (failed : Fields.kind fields = .error fault) : Json.Strays (.obj fields) := by
  cases given : fields.get? "type" with
  | none =>
    simp only [kind, given] at failed
    cases failed
  | some type =>
    cases usable : type.key with
    | error cause => exact .here given usable
    | ok word =>
      simp only [kind, given, Option.getD_some, usable] at failed
      cases word <;> cases failed

end Fields

namespace Condition

variable {fault : ReadFault}

theorem ofWord_reads (word : String) : ∃ c, (ofWord word).outcome = .ok c := by
  unfold ofWord
  split
  · exact ⟨_, rfl⟩
  · split
    · exact ⟨_, rfl⟩
    · exact ⟨_, rfl⟩

theorem ofFields_malformed {fields : Fields} (failed : (ofFields fields).outcome = .error fault) :
    fault.IsMalformed := by
  by_cases known : ∃ op : Comparison, fields.get? "type" = some (.str op.tag)
  · rcases known with ⟨op, known⟩
    rw [ofFields_tag known, comparison] at failed
    rcases Scan.fault_of_bind failed with first | ⟨value, -, failed⟩
    · exact Fields.integer_malformed first
    rcases Scan.fault_of_bind failed with second | ⟨register, -, made⟩
    · exact Fields.register_malformed second
    · cases made
  · have strange : ∀ op : Comparison, fields.get? "type" ≠ some (.str op.tag) := by
      intro op same
      exact known ⟨op, same⟩
    rw [ofFields_strange strange] at failed
    cases failed

end Condition

mutual

theorem readCondition_malformed (data : Json) {fault : ReadFault}
    (failed : (readCondition data).outcome = .error fault) : fault.IsMalformed := by
  match data with
  | .null =>
    rw [readCondition] at failed
    cases failed
  | .str word =>
    rw [readCondition] at failed
    rcases Condition.ofWord_reads word with ⟨c, read⟩
    rw [read] at failed
    cases failed
  | .obj fields =>
    rw [readCondition] at failed
    split at failed
    · rcases Scan.fault_of_bind failed with inner | ⟨c, -, made⟩
      · exact readConditionField_malformed fields inner
      · cases made
    · exact Condition.ofFields_malformed failed
  | .bool _ | .num _ | .arr _ =>
    rw [readCondition] at failed
    · cases failed
      trivial
    all_goals
      intros
      contradiction
termination_by (sizeOf data, 0)
decreasing_by all_goals simp [Prod.lex_def]

theorem readConditionField_malformed (fields : Fields) {fault : ReadFault}
    (failed : (readConditionField fields).outcome = .error fault) : fault.IsMalformed := by
  cases given : fields.get? "condition" with
  | none =>
    rw [readConditionField_none given] at failed
    cases failed
  | some data =>
    rw [readConditionField_some given] at failed
    exact readCondition_malformed data failed
termination_by (sizeOf fields, 1)
decreasing_by
  have := Fields.sizeOf_get? given
  simp [Prod.lex_def, this]

end

theorem Json.Strays.inBody {fields : Fields} {kind : Instruction.Kind} {key : String}
    (known : Fields.kind fields = .ok (some kind)) (held : key ∈ kind.bodyKeys)
    (found : ∃ item ∈ fields.items key, item.Strays) : Json.Strays (.obj fields) := by
  rcases found with ⟨item, member, strays⟩
  unfold Fields.items at member
  split at member
  · rename_i items given
    exact .inside known held given member strays
  · cases member

theorem readBody_items {fields : Fields} {key : String} {fault : ReadFault}
    (failed : (readBody fields key).outcome = .error fault) :
    fault.IsMalformed ∨ ∃ items, fields.get? key = some (.arr items) ∧ (readNodes items).outcome = .error fault := by
  rw [readBody] at failed
  split at failed
  · cases failed
  · cases failed
  · rename_i items found
    exact .inr ⟨items, found, failed⟩
  · cases failed
    exact .inl trivial

mutual

/-- Reading an instruction fails over the form of its document, unless a type in it is no key. -/
theorem readInstruction_strays (nested : Bool) (data : Json) {fault : ReadFault}
    (failed : (readInstruction nested data).outcome = .error fault) : fault.IsMalformed ∨ data.Strays := by
  match data with
  | .obj fields =>
    cases known : Fields.kind fields with
    | error other => exact .inr (Fields.kind_strays known)
    | ok kind? =>
      cases kind? with
      | none =>
        rw [readInstruction_unknown nested known] at failed
        cases failed
      | some kind =>
        rw [readInstruction_kind nested known] at failed
        rcases readKind_strays nested fields kind failed with malformed | ⟨key, held, found⟩
        · exact .inl malformed
        · exact .inr (.inBody known held found)
  | .null | .bool _ | .num _ | .str _ | .arr _ =>
    rw [readInstruction] at failed
    · cases failed
      exact .inl trivial
    all_goals
      intros
      contradiction
termination_by (sizeOf data, 0)
decreasing_by all_goals simp [Prod.lex_def]

theorem readKind_strays (nested : Bool) (fields : Fields) (kind : Instruction.Kind) {fault : ReadFault}
    (failed : (readKind nested fields kind).outcome = .error fault) :
    fault.IsMalformed ∨ ∃ key ∈ kind.bodyKeys, ∃ item ∈ fields.items key, item.Strays := by
  -- Fields are read one after the other: one of them fails, and only bodies hold what may stray.
  cases kind with
  | move | turnLeft | turnRight | call => cases failed
  | assign =>
    rcases Scan.fault_of_bind failed with value | ⟨value, -, failed⟩
    · exact .inl (Fields.integer_malformed value)
    rcases Scan.fault_of_bind failed with register | ⟨register, -, made⟩
    · exact .inl (Fields.register_malformed register)
    · cases made
  | increment | decrement =>
    rcases Scan.fault_of_bind failed with register | ⟨register, -, made⟩
    · exact .inl (Fields.register_malformed register)
    · cases made
  | repeatTimes =>
    rcases Scan.fault_of_bind failed with count | ⟨count, -, failed⟩
    · exact .inl (Fields.integer_malformed count)
    rcases Scan.fault_of_bind failed with inner | ⟨body, -, made⟩
    · exact (readBody_strays fields "body" inner).imp_right fun found => ⟨"body", by decide, found⟩
    · cases made
  | ifThen | whileDo =>
    rcases Scan.fault_of_bind failed with test | ⟨condition, -, failed⟩
    · exact .inl (readConditionField_malformed fields test)
    rcases Scan.fault_of_bind failed with inner | ⟨body, -, made⟩
    · exact (readBody_strays fields "body" inner).imp_right fun found => ⟨"body", by decide, found⟩
    · cases made
  | ifElse =>
    rcases Scan.fault_of_bind failed with test | ⟨condition, -, failed⟩
    · exact .inl (readConditionField_malformed fields test)
    rcases Scan.fault_of_bind failed with first | ⟨thenBody, -, failed⟩
    · exact (readBody_strays fields "ifBody" first).imp_right fun found => ⟨"ifBody", by decide, found⟩
    rcases Scan.fault_of_bind failed with second | ⟨elseBody, -, made⟩
    · exact (readBody_strays fields "elseBody" second).imp_right fun found => ⟨"elseBody", by decide, found⟩
    · cases made
  | define =>
    cases nested with
    | true =>
      cases failed
      exact .inl trivial
    | false =>
      rcases Scan.fault_of_bind failed with inner | ⟨body, -, made⟩
      · exact (readBody_strays fields "body" inner).imp_right fun found => ⟨"body", by decide, found⟩
      · cases made
termination_by (sizeOf fields, 2)
decreasing_by all_goals simp [Prod.lex_def]

theorem readBody_strays (fields : Fields) (key : String) {fault : ReadFault}
    (failed : (readBody fields key).outcome = .error fault) :
    fault.IsMalformed ∨ ∃ item ∈ fields.items key, item.Strays := by
  rcases readBody_items failed with malformed | ⟨items, found, inner⟩
  · exact .inl malformed
  · rw [Fields.items, found]
    exact readNodes_strays items inner
termination_by (sizeOf fields, 1)
decreasing_by
  have := Fields.sizeOf_get? found
  simp at this
  simp [Prod.lex_def]
  omega

theorem readNodes_strays (items : List Json) {fault : ReadFault}
    (failed : (readNodes items).outcome = .error fault) : fault.IsMalformed ∨ ∃ item ∈ items, item.Strays := by
  match items with
  | [] =>
    rw [readNodes] at failed
    cases failed
  | item :: rest =>
    rw [readNodes] at failed
    rcases Scan.fault_of_bind failed with first | ⟨node, -, failed⟩
    · exact (readInstruction_strays true item first).imp_right fun strays => ⟨item, List.mem_cons_self .., strays⟩
    rcases Scan.fault_of_bind failed with others | ⟨nodes, -, made⟩
    · rcases readNodes_strays rest others with malformed | ⟨other, member, strays⟩
      · exact .inl malformed
      · exact .inr ⟨other, List.mem_cons_of_mem _ member, strays⟩
    · cases made
termination_by (sizeOf items, 0)
decreasing_by all_goals simp [Prod.lex_def] <;> omega

end

theorem readFunctions_strays (items : List Json) {fault : ReadFault}
    (failed : (readFunctions items).outcome = .error fault) : fault.IsMalformed ∨ ∃ item ∈ items, item.Strays := by
  induction items with
  | nil => cases failed
  | cons item rest ih =>
    -- Whether the first entry is kept or passed over, the others are read after it.
    have others (failed : (readFunctions rest).outcome = .error fault) :
        fault.IsMalformed ∨ ∃ other ∈ item :: rest, other.Strays := by
      rcases ih failed with malformed | ⟨other, member, strays⟩
      · exact .inl malformed
      · exact .inr ⟨other, List.mem_cons_of_mem _ member, strays⟩
    rw [readFunctions] at failed
    rcases Scan.fault_of_bind failed with first | ⟨node, -, failed⟩
    · exact (readInstruction_strays false item first).imp_right fun strays => ⟨item, List.mem_cons_self .., strays⟩
    split at failed
    · rcases Scan.fault_of_bind failed with failed | ⟨nodes, -, made⟩
      · exact others failed
      · cases made
    · rcases Scan.fault_of_bind failed with warned | ⟨-, -, failed⟩
      · cases warned
      · exact others failed

theorem readNodes_fails {items : List Json} {item : Json} (member : item ∈ items)
    (fails : (readInstruction true item).Fails) : (readNodes items).Fails := by
  induction items with
  | nil => cases member
  | cons first rest ih =>
    rw [readNodes]
    rcases List.mem_cons.mp member with rfl | member
    · exact fails.bind _
    · apply Scan.Fails.after
      intro node _
      exact (ih member).bind _

theorem readBody_fails {fields : Fields} {key : String} {items : List Json} {item : Json}
    (given : fields.get? key = some (.arr items)) (member : item ∈ items)
    (fails : (readInstruction true item).Fails) : (readBody fields key).Fails := by
  rw [readBody_list given]
  exact readNodes_fails member fails

theorem readKind_fails (nested : Bool) {fields : Fields} {kind : Instruction.Kind} {key : String}
    (held : key ∈ kind.bodyKeys) (fails : (readBody fields key).Fails) : (readKind nested fields kind).Fails := by
  cases kind with
  | move | turnLeft | turnRight | assign | increment | decrement | call => cases held
  | repeatTimes | ifThen | whileDo =>
    cases List.mem_singleton.mp held
    apply Scan.Fails.after
    intro before _
    exact fails.bind _
  | ifElse =>
    apply Scan.Fails.after
    intro condition _
    have either : key = "ifBody" ∨ key = "elseBody" := by simpa [Instruction.Kind.bodyKeys] using held
    rcases either with rfl | rfl
    · exact fails.bind _
    · apply Scan.Fails.after
      intro thenBody _
      exact fails.bind _
  | define =>
    cases List.mem_singleton.mp held
    cases nested with
    | true => exact ⟨.nestedDefinition, rfl⟩
    | false => exact fails.bind _

theorem Json.Strays.fails {data : Json} (strays : data.Strays) (nested : Bool) :
    (readInstruction nested data).Fails := by
  -- Whether a definition may stand there differs between a document and the bodies in it.
  induction strays generalizing nested with
  | @here fields type fault given unusable =>
    refine ⟨.typeTag fault, ?_⟩
    have unknown : Fields.kind fields = .error (.typeTag fault) := by
      simp only [Fields.kind, given, Option.getD_some, unusable]
      rfl
    rw [readInstruction, unknown]
    rfl
  | inside known held given member _ ih =>
    rw [readInstruction_kind nested known]
    exact readKind_fails nested held (readBody_fails given member (ih true))

theorem readFunctions_fails {items : List Json} {item : Json} (member : item ∈ items)
    (fails : (readInstruction false item).Fails) : (readFunctions items).Fails := by
  induction items with
  | nil => cases member
  | cons first rest ih =>
    rw [readFunctions]
    rcases List.mem_cons.mp member with rfl | member
    · exact fails.bind _
    · apply Scan.Fails.after
      intro node _
      split
      · exact (ih member).bind _
      · apply Scan.Fails.after
        intro warned _
        exact ih member

namespace ProgramFile

def HasStray (fields : Fields) : Prop := ∃ key ∈ ["functions", "mainProgram"], ∃ item ∈ fields.items key, item.Strays

theorem listing_items {fields : Fields} {key : String} {items : List Json}
    (listed : fields.listing key = .ok items) : items = fields.items key := by
  unfold Fields.listing at listed
  unfold Fields.items
  split at listed
  · rename_i missing
    cases listed
    rw [missing]
  · rename_i given
    cases listed
    rw [given]
  · rename_i other noList given
    split at listed
    · cases listed
    · cases listed
      rw [given]
      split
      · rename_i items same
        cases same
        exact (noList items rfl).elim
      · rfl

theorem ofFields_strays {fields : Fields} {fault : ReadFault} (failed : (ofFields fields).outcome = .error fault) :
    fault.IsMalformed ∨ HasStray fields := by
  rcases Scan.fault_of_bind failed with listing | ⟨rawFunctions, listedFunctions, failed⟩
  · exact .inl (Fields.listing_malformed listing)
  rcases Scan.fault_of_bind failed with definitions | ⟨functions, -, failed⟩
  · rw [listing_items listedFunctions] at definitions
    exact (readFunctions_strays _ definitions).imp_right fun found => ⟨"functions", by decide, found⟩
  rcases Scan.fault_of_bind failed with listing | ⟨rawMain, listedMain, failed⟩
  · exact .inl (Fields.listing_malformed listing)
  rcases Scan.fault_of_bind failed with nodes | ⟨main, -, made⟩
  · rw [listing_items listedMain] at nodes
    exact (readNodes_strays _ nodes).imp_right fun found => ⟨"mainProgram", by decide, found⟩
  · cases made

theorem ofFields_fails {fields : Fields} (stray : HasStray fields) : (ofFields fields).Fails := by
  rcases stray with ⟨key, listed, item, member, strays⟩
  have either : key = "functions" ∨ key = "mainProgram" := by simpa using listed
  -- Either list is read as it stands in its field, if the reading comes to it at all.
  rcases either with rfl | rfl
  · apply Scan.Fails.after
    intro rawFunctions listedFunctions
    rw [listing_items listedFunctions]
    exact (readFunctions_fails member (strays.fails false)).bind _
  · apply Scan.Fails.after
    intro rawFunctions _
    apply Scan.Fails.after
    intro functions _
    apply Scan.Fails.after
    intro rawMain listedMain
    rw [listing_items listedMain]
    exact (readNodes_fails member (strays.fails true)).bind _

def IsStray (data : Json) : Prop :=
  ∃ fields, data = .obj fields ∧ Fields.get? fields "version" = some (.str fileVersion) ∧ HasStray fields

theorem ofDocument_failed {data : Json} {error : ImportError} (failed : (ofDocument data).outcome = .error error) :
    error.IsAnnounced ∨ (IsStray data ∧ error.reason = "TypeError") := by
  unfold ofDocument at failed
  split at failed
  · rename_i fields
    dsimp only at failed
    split at failed
    · rename_i version given
      split at failed
      · rename_i supported
        subst supported
        have versioned : Fields.get? fields "version" = some (.str fileVersion) := by
          cases held : Fields.get? fields "version" with
          | none =>
            rw [held] at given
            cases given
          | some value =>
            rw [held] at given
            exact congrArg some given
        rcases Scan.fault_of_mapError failed with ⟨fault, read, rfl⟩
        -- With a supported version, only an instruction can be at fault, and only its type goes unannounced.
        have stray := ofFields_strays read
        cases fault with
        | typeTag cause => exact .inr ⟨⟨fields, rfl, versioned, stray.resolve_left id⟩, rfl⟩
        | _ => exact .inl (.inr rfl)
      · cases failed
        exact .inl (.inl rfl)
    · cases failed
      exact .inl (.inl rfl)
  · cases failed
    exact .inl (.inr rfl)

theorem ofDocument_fails {data : Json} (stray : IsStray data) : (ofDocument data).Fails := by
  rcases stray with ⟨fields, rfl, versioned, stray⟩
  rcases ofFields_fails stray with ⟨fault, failed⟩
  rw [ofDocument_versioned versioned]
  refine ⟨.node fault, ?_⟩
  rw [Scan.mapError, failed]
  rfl

def IsUndecodable (source : Source) : Prop :=
  ∃ bytes fault, source = .encoded bytes ∧ Text.decodeDocument bytes = .error fault

theorem decode_failed {source : Source} {error : ImportError} (failed : source.decode = .error error) :
    error.IsAnnounced ∨ (IsUndecodable source ∧ error.reason = "UnicodeDecodeError") := by
  have parsed (text : Except Json.ParseError Json) (unread : text.mapError ImportError.text = .error error) :
      error.IsAnnounced := by
    cases text with
    | error cause =>
      cases unread
      exact .inr rfl
    | ok data => cases unread
  cases source with
  | text chars => exact .inl (parsed _ failed)
  | encoded bytes =>
    cases decoded : Text.decodeDocument bytes with
    | error fault =>
      simp only [Source.decode, decoded] at failed
      cases failed
      exact .inr ⟨⟨bytes, fault, rfl, decoded⟩, rfl⟩
    | ok chars =>
      simp only [Source.decode, decoded] at failed
      exact .inl (parsed _ failed)
  | document value =>
    cases value with
    | str written => exact .inl (parsed _ failed)
    | null | bool | num | arr | obj => cases failed

theorem read_undecoded {source : Source} {error : ImportError} (failed : source.decode = .error error) :
    (read source).outcome = .error error := by
  simp only [read, failed]
  rfl

theorem read_refused {source : Source} {data : Json} {error : ImportError} (decoded : source.decode = .ok data) :
    (read source).outcome = .error error ↔ (ofDocument data).outcome = .error error := by
  simp only [read, decoded]
  cases (ofDocument data).outcome with
  | error cause => exact Iff.rfl
  | ok file =>
    constructor
    · intro failed
      cases failed
    · intro failed
      cases failed

/-- A reading either gives a program or fails with one of the two announced errors, unless the source is no text
or its document has a type that is no key. Neither of these is read as a program. -/
theorem read_announced_or_strays (source : Source) :
    (∀ error, (read source).outcome = .error error → error.IsAnnounced ∨
      (IsUndecodable source ∧ error.reason = "UnicodeDecodeError") ∨
      ∃ data, source.decode = .ok data ∧ IsStray data ∧ error.reason = "TypeError") ∧
    (IsUndecodable source → ∃ error, (read source).outcome = .error error ∧ error.reason = "UnicodeDecodeError") ∧
    ∀ data, source.decode = .ok data → IsStray data → ∃ error, (read source).outcome = .error error := by
  refine ⟨?_, ?_, ?_⟩
  · intro error failed
    cases decoded : source.decode with
    | error cause =>
      rw [read_undecoded decoded] at failed
      cases failed
      exact (decode_failed decoded).imp_right .inl
    | ok data =>
      rw [read_refused decoded] at failed
      rcases ofDocument_failed failed with announced | ⟨stray, reason⟩
      · exact .inl announced
      · exact .inr (.inr ⟨data, rfl, stray, reason⟩)
  · rintro ⟨bytes, fault, rfl, undecodable⟩
    have unread : Source.decode (.encoded bytes) = .error (.decoding fault) := by
      rw [Source.decode, undecodable]
      rfl
    exact ⟨.decoding fault, read_undecoded unread, rfl⟩
  · intro data decoded stray
    rcases ofDocument_fails stray with ⟨error, failed⟩
    exact ⟨error, (read_refused decoded).mpr failed⟩

/-- A list for a type, and a byte that begins no character, each get past the two announced errors. -/
theorem read_unannounced :
    let odd : Fields := [("type", .arr [])]
    let fields : Fields := [("version", .str "1.0"), ("mainProgram", .arr [.obj odd])]
    (read (.document (.obj fields))).outcome = .error (.node (.typeTag ⟨"list"⟩)) ∧
      ¬(ImportError.node (.typeTag ⟨"list"⟩)).IsAnnounced ∧
      (read (.encoded [0xff])).outcome = .error (.decoding ⟨.utf8, .invalidStart, 0, 1, 0xff⟩) ∧
      ¬(ImportError.decoding ⟨.utf8, .invalidStart, 0, 1, 0xff⟩).IsAnnounced := by
  intro odd fields
  refine ⟨?_, ?_, ?_, ?_⟩
  · have unknown : Fields.kind odd = .error (.typeTag ⟨"list"⟩) := rfl
    have nodes : readNodes [.obj odd] = ⟨[], .error (.typeTag ⟨"list"⟩)⟩ := by
      rw [readNodes, readInstruction, unknown]
      rfl
    have program : (ofFields fields).outcome = .error (.typeTag ⟨"list"⟩) := by
      have listed : fields.listing "mainProgram" = .ok [.obj odd] := rfl
      have none : fields.listing "functions" = .ok [] := rfl
      rw [ofFields, none, listed]
      simp only [Scan.ofExcept_ok, Scan.pure_bind, readFunctions, nodes]
      rfl
    rw [read_refused rfl, ofDocument_versioned rfl, Scan.mapError, program]
    rfl
  · rintro (announced | announced)
    · exact absurd announced (by decide)
    · exact absurd announced (by decide)
  · exact read_undecoded rfl
  · rintro (announced | announced)
    · exact absurd announced (by decide)
    · exact absurd announced (by decide)

end ProgramFile

end GridRobot
