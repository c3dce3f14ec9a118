import GridRobot.Proofs.Program.Entries

/-!
What a document says at each of its places. A way leads from an instruction down into its bodies, in a tree and in the
document that the tree is read from; `ReadsAs` relates the two, and holds again wherever the same way leads in both. What
is written for a tree has all the places of the tree.
-/
namespace GridRobot

open Instruction (bodyJson BodyReadable)

/-- From an instruction down into its bodies: each turn is into one of them, to one of the instructions in it. -/
abbrev Way := List (Nat × Nat)

namespace Way

variable {α β : Type} {first : α → List (List α)} {second : β → List (List β)} {R : α → β → Prop}

/-- The end of a way that starts here. -/
def follow (bodies : α → List (List α)) : Way → α → Option α
  | [], here => some here
  | (body, index) :: rest, here => do
    let items ← (bodies here)[body]?
    let next ← items[index]?
    follow bodies rest next

theorem follow_cons {bodies : α → List (List α)} {body index : Nat} {rest : Way} {here there : α} :
    follow bodies ((body, index) :: rest) here = some there ↔
      ∃ items, (bodies here)[body]? = some items ∧ ∃ next, items[index]? = some next ∧
        follow bodies rest next = some there := by
  simp only [follow, Option.bind_eq_bind, Option.bind_eq_some_iff]

theorem getElem?_alike {R : α → β → Prop} {xs : List α} {ys : List β} (alike : List.Forall₂ R xs ys) {index : Nat} {x : α}
    (found : xs[index]? = some x) : ∃ y, ys[index]? = some y ∧ R x y := by
  induction alike generalizing index with
  | nil => cases found
  | @cons _ b _ _ related _ ih =>
    cases index with
    | zero =>
      cases found
      exact ⟨b, rfl, related⟩
    | succ index => exact ih found

/-- Where two trees are alike whose bodies are alike, a way through one of them is a way through the other. -/
theorem follow_alike (below : ∀ a b, R a b → List.Forall₂ (List.Forall₂ R) (first a) (second b)) {way : Way} {a x : α}
    {b : β} (alike : R a b) (found : way.follow first a = some x) : ∃ y, way.follow second b = some y ∧ R x y := by
  induction way generalizing a b with
  | nil =>
    cases found
    exact ⟨b, rfl, alike⟩
  | cons turn rest ih =>
    rcases turn with ⟨body, index⟩
    rcases follow_cons.mp found with ⟨items, listed, next, there, further⟩
    -- The body that is turned into has its counterpart, and so has the entry that is reached in it.
    rcases getElem?_alike (below a b alike) listed with ⟨others, listed, each⟩
    rcases getElem?_alike each there with ⟨other, there, related⟩
    rcases ih related further with ⟨y, further, result⟩
    exact ⟨y, follow_cons.mpr ⟨others, listed, other, there, further⟩, result⟩

end Way

def under {α : Type} (negated? : α → Option α) : Nat → α → Option α
  | 0, here => some here
  | depth + 1, here => (negated? here).bind (under negated? depth)

namespace Json

/-- The kind that an instruction's document names, if it is a known one, and its fields. -/
def known? : Json → Option (Instruction.Kind × Fields)
  | .obj fields => match Fields.kind fields with
    | .ok (some kind) => some (kind, fields)
    | _ => none
  | _ => none

def bodies (data : Json) : List (List Json) :=
  match data.known? with
  | some (kind, fields) => kind.bodyKeys.map fields.items
  | none => []

def test? (data : Json) : Option Json :=
  match data.known? with
  | some (kind, fields) => if kind.hasCondition then fields.get? "condition" else none
  | none => none

def negated? : Json → Option Json
  | .obj fields => if Fields.isNegation fields then Fields.get? fields "condition" else none
  | _ => none

/-- The document at the end of a way. -/
def at? (way : Way) (data : Json) : Option Json := way.follow bodies data

/-- The document of the condition at the end of a way, under a number of negations. -/
def testAt? (way : Way) (depth : Nat) (data : Json) : Option Json :=
  ((data.at? way).bind test?).bind (under negated? depth)

theorem known?_kind {fields : Fields} {kind : Instruction.Kind} (known : Fields.kind fields = .ok (some kind)) :
    known? (.obj fields) = some (kind, fields) := by
  rw [known?, known]

theorem known?_unknown {fields : Fields} (unread : Fields.kind fields = .ok none) : known? (.obj fields) = none := by
  rw [known?, unread]

theorem bodies_kind {fields : Fields} {kind : Instruction.Kind} (known : Fields.kind fields = .ok (some kind)) :
    bodies (.obj fields) = kind.bodyKeys.map fields.items := by
  rw [bodies, known?_kind known]

theorem Strays.beyond {fields : Fields} {kind : Instruction.Kind} (strays : Strays (.obj fields))
    (known : Fields.kind fields = .ok (some kind)) : ∃ items ∈ bodies (.obj fields), ∃ item ∈ items, item.Strays := by
  cases strays with
  | here given unusable =>
    rw [Fields.kind, given, Option.getD_some, unusable] at known
    cases known
  | @inside _ _ key items item other held given member strays =>
    rw [known] at other
    cases other
    refine ⟨items, ?_, item, member, strays⟩
    rw [bodies_kind known]
    have same : fields.items key = items := by rw [Fields.items, given]
    exact same ▸ List.mem_map_of_mem held

theorem Strays.inner {fields : Fields} {kind : Instruction.Kind} {item : Json} (strays : Strays (.obj fields))
    (known : Fields.kind fields = .ok (some kind)) (only : bodies (.obj fields) = [[item]]) : item.Strays := by
  rcases strays.beyond known with ⟨items, listed, inner, member, strays⟩
  rw [only] at listed
  rcases List.mem_singleton.mp listed with rfl
  rcases List.mem_singleton.mp member with rfl
  exact strays

theorem negated?_eq_some {data inner : Json} (given : data.negated? = some inner) : ∃ fields : Fields,
    data = .obj fields ∧ fields.isNegation = true ∧ fields.get? "condition" = some inner := by
  cases data with
  | obj fields =>
    rw [negated?] at given
    split at given
    · rename_i negation
      exact ⟨fields, rfl, negation, given⟩
    · cases given
  | null | bool | num | str | arr => cases given

end Json

namespace Condition

def negated? : Condition → Option Condition
  | .negate inner => some inner
  | _ => none

def core : Condition → Condition
  | .negate inner => inner.core
  | c => c

end Condition

namespace Instruction

def test? : Instruction → Option Condition
  | .ifThen c _ | .ifElse c _ _ | .whileDo c _ => some c
  | _ => none

def at? (way : Way) (node : Instruction) : Option Instruction := way.follow bodies node

def testAt? (way : Way) (depth : Nat) (node : Instruction) : Option Condition :=
  ((node.at? way).bind test?).bind (under Condition.negated? depth)

end Instruction

section Reading

theorem readCondition_negated {data inner : Json} {c : Condition} (read : (readCondition data).outcome = .ok c)
    (given : data.negated? = some inner) : ∃ d, c.negated? = some d ∧ (readCondition inner).outcome = .ok d := by
  rcases Json.negated?_eq_some given with ⟨fields, rfl, negation, held⟩
  rw [readCondition, if_pos negation, readConditionField_some held] at read
  rcases Scan.outcome_of_bind read with ⟨d, inside, made⟩
  cases made
  exact ⟨d, rfl, inside⟩

theorem readCondition_under {depth : Nat} {data inner : Json} {c : Condition} (read : (readCondition data).outcome = .ok c)
    (given : under Json.negated? depth data = some inner) :
    ∃ d, under Condition.negated? depth c = some d ∧ (readCondition inner).outcome = .ok d := by
  induction depth generalizing data c with
  | zero =>
    cases given
    exact ⟨c, rfl, read⟩
  | succ depth ih =>
    rcases Option.bind_eq_some_iff.mp given with ⟨next, here, further⟩
    rcases readCondition_negated read here with ⟨d, below, inside⟩
    rcases ih inside further with ⟨result, found, reads⟩
    exact ⟨result, Option.bind_eq_some_iff.mpr ⟨d, below, found⟩, reads⟩

variable {data : Json} {node : Instruction} (reads : data.ReadsAs node)
include reads

theorem Json.ReadsAs.made : (data.known? = none ∧ ∃ fields, data = .obj fields ∧ node = .placeholder fields) ∨
    ∃ nested kind fields warnings, data.known? = some (kind, fields) ∧ fields.Makes nested kind warnings node := by
  rcases reads with ⟨nested, read⟩
  rcases Scan.outcome_ok_iff.mp read with ⟨warnings, read⟩
  rcases readInstruction_cases read with ⟨fields, rfl, ⟨unread, -, made⟩ | ⟨kind, known, made⟩⟩
  · exact .inl ⟨Json.known?_unknown unread, fields, rfl, made⟩
  · exact .inr ⟨nested, kind, fields, warnings, Json.known?_kind known, made⟩

theorem Json.ReadsAs.bodies : List.Forall₂ (List.Forall₂ Json.ReadsAs) data.bodies node.bodies := by
  rcases reads.made with ⟨unread, fields, -, rfl⟩ | ⟨nested, kind, fields, warnings, known, made⟩
  · rw [Json.bodies, unread]
    exact .nil
  · rw [Json.bodies, known]
    cases made with
    | move | turnLeft | turnRight | assign | increment | decrement | call => exact .nil
    | repeatTimes _ inner | ifThen _ inner | whileDo _ inner | define _ inner =>
      exact .cons (readBody_readsAs inner) .nil
    | ifElse _ thenRead elseRead => exact .cons (readBody_readsAs thenRead) (.cons (readBody_readsAs elseRead) .nil)

theorem Json.ReadsAs.test {test : Json} (given : data.test? = some test) :
    ∃ c, node.test? = some c ∧ (readCondition test).outcome = .ok c := by
  rcases reads.made with ⟨unread, fields, -, rfl⟩ | ⟨nested, kind, fields, warnings, known, made⟩
  · rw [Json.test?, unread] at given
    cases given
  · rw [Json.test?, known] at given
    cases made with
    | move | turnLeft | turnRight | assign | increment | decrement | repeatTimes | call | define => cases given
    | ifThen slot | ifElse slot | whileDo slot =>
      rw [readConditionField_some given] at slot
      exact ⟨_, rfl, congrArg Scan.outcome slot⟩

theorem Json.ReadsAs.at {way : Way} {inner : Json} (found : data.at? way = some inner) :
    ∃ there, node.at? way = some there ∧ inner.ReadsAs there :=
  Way.follow_alike (fun _ _ => Json.ReadsAs.bodies) reads found

theorem Json.ReadsAs.testAt {way : Way} {depth : Nat} {test : Json} (found : data.testAt? way depth = some test) :
    ∃ c, node.testAt? way depth = some c ∧ (readCondition test).outcome = .ok c := by
  rcases Option.bind_eq_some_iff.mp found with ⟨whole, found, below⟩
  rcases Option.bind_eq_some_iff.mp found with ⟨inner, there, given⟩
  rcases reads.at there with ⟨other, reached, tells⟩
  rcases tells.test given with ⟨c, test, read⟩
  rcases readCondition_under read below with ⟨d, under, result⟩
  refine ⟨d, ?_, result⟩
  rw [Instruction.testAt?, reached, Option.bind_some, test, Option.bind_some, under]

/-- What the reader makes of a part of an instruction's document, it makes of that part at every place. -/
theorem Json.ReadsAs.partAt {β : Type} {part : Json → Option Json} {own : Instruction → Option β} {R : Json → β → Prop}
    (here : ∀ {data node value}, Json.ReadsAs data node → part data = some value → ∃ b, own node = some b ∧ R value b)
    {way : Way} {value : Json} (found : (data.at? way).bind part = some value) :
    ∃ b, (node.at? way).bind own = some b ∧ R value b := by
  rcases Option.bind_eq_some_iff.mp found with ⟨inner, there, given⟩
  rcases reads.at there with ⟨other, reached, tells⟩
  rcases here tells given with ⟨b, held, related⟩
  exact ⟨b, Option.bind_eq_some_iff.mpr ⟨other, reached, held⟩, related⟩

theorem Json.ReadsAs.testPartAt {β : Type} {part : Json → Option Json} {own : Condition → Option β} {R : Json → β → Prop}
    (here : ∀ {test c value}, (readCondition test).outcome = .ok c → part test = some value →
      ∃ b, own c = some b ∧ R value b)
    {way : Way} {depth : Nat} {value : Json} (found : (data.testAt? way depth).bind part = some value) :
    ∃ b, (node.testAt? way depth).bind own = some b ∧ R value b := by
  rcases Option.bind_eq_some_iff.mp found with ⟨test, there, given⟩
  rcases reads.testAt there with ⟨c, reached, read⟩
  rcases here read given with ⟨b, held, related⟩
  exact ⟨b, Option.bind_eq_some_iff.mpr ⟨c, reached, held⟩, related⟩

end Reading

section Writing

theorem Instruction.bodyJson_eq_map (body : Body) : bodyJson body = body.map Instruction.toJson := by
  induction body with
  | nil => rfl
  | cons node rest ih => rw [bodyJson, ih, List.map_cons]

theorem Condition.negated?_toJson {c d : Condition} (below : c.negated? = some d) (filled : d ≠ .empty) :
    c.toJson.negated? = some d.toJson := by
  cases c with
  | negate inner =>
    cases below
    cases d with
    | empty => exact (filled rfl).elim
    | sensor | compare | negate | unknown => rfl
  | empty | sensor | compare | unknown => cases below

theorem Condition.filled_of_under {depth : Nat} {c d : Condition} (below : under Condition.negated? depth c = some d)
    (filled : d ≠ .empty) : c ≠ .empty := by
  rintro rfl
  cases depth with
  | zero =>
    cases below
    exact filled rfl
  | succ depth => cases below

theorem Condition.under_toJson {depth : Nat} {c d : Condition} (below : under Condition.negated? depth c = some d)
    (filled : d ≠ .empty) : under Json.negated? depth c.toJson = some d.toJson := by
  induction depth generalizing c with
  | zero =>
    cases below
    rfl
  | succ depth ih =>
    rcases Option.bind_eq_some_iff.mp below with ⟨next, here, further⟩
    rw [under, Condition.negated?_toJson here (filled_of_under further filled), Option.bind_some]
    exact ih further

theorem Condition.kind_toFields (kind : Instruction.Kind) (c : Condition) (rest : Fields) :
    Fields.kind (("type", .str kind.tag) :: c.toFields ++ rest) = .ok (some kind) :=
  Fields.kind_tag (c.toFields ++ rest) kind

theorem Condition.items_toFields (tag : Json) (c : Condition) {rest : Fields} {key : String} {items : List Json}
    (kind : (key == "type") = false) (other : (key == "condition") = false) (given : rest.get? key = some (.arr items)) :
    Fields.items (("type", tag) :: c.toFields ++ rest) key = items := by
  rw [Fields.items, c.get?_toFields_other tag rest kind other, given]

variable {nested : Bool} {node : Instruction}

theorem Instruction.test?_toJson {c : Condition} (has : node.test? = some c) (filled : c ≠ .empty) :
    node.toJson.test? = some c.toJson := by
  have written : c.field? = some c.toJson := by
    cases c with
    | empty => exact (filled rfl).elim
    | sensor | compare | negate | unknown => rfl
  cases node with
  | ifThen | ifElse | whileDo =>
    cases has
    rw [Instruction.toJson, Json.test?, Json.known?_kind (c.kind_toFields _ _), ← written]
    exact c.get?_toFields _ rfl
  | _ => cases has

theorem Instruction.IsReadable.bodies_toJson (readable : node.IsReadable nested) :
    node.toJson.bodies = node.bodies.map bodyJson := by
  cases node with
  | move | turnLeft | turnRight | assign | increment | decrement | repeatTimes | call | define =>
    rw [Instruction.toJson, Json.bodies_kind (Fields.kind_tag _ _)]
    rfl
  | ifThen c body | whileDo c body =>
    rw [Instruction.toJson, Json.bodies_kind (c.kind_toFields _ _), Kind.bodyKeys, List.map_singleton,
      c.items_toFields _ rfl rfl rfl]
    rfl
  | ifElse c a b =>
    rw [Instruction.toJson, Json.bodies_kind (c.kind_toFields _ _), Kind.bodyKeys, List.map_cons, List.map_singleton,
      c.items_toFields _ rfl rfl rfl, c.items_toFields _ rfl rfl rfl]
    rfl
  | unknown kind fields =>
    rw [Instruction.toJson, Json.bodies, Json.known?_unknown readable.1]
    rfl
  | blank => exact readable.elim

theorem Instruction.bodyReadable_iff {body : Body} : BodyReadable body ↔ ∀ node ∈ body, node.IsReadable true := by
  induction body with
  | nil => simp [BodyReadable]
  | cons node rest ih => rw [BodyReadable, ih, List.forall_mem_cons]

theorem Instruction.IsReadable.below (readable : node.IsReadable nested) :
    ∀ body ∈ node.bodies, ∀ inner ∈ body, inner.IsReadable true := by
  intro body member
  apply Instruction.bodyReadable_iff.mp
  cases node with
  | repeatTimes | ifThen | whileDo =>
    rcases List.mem_singleton.mp member with rfl
    exact readable.2
  | define =>
    rcases List.mem_singleton.mp member with rfl
    exact readable.2.2
  | ifElse c a b =>
    rcases List.mem_cons.mp member with rfl | member
    · exact readable.2.1
    · rcases List.mem_singleton.mp member with rfl
      exact readable.2.2
  | _ => cases member

theorem Instruction.sizeOf_bodies {body : Body} (member : body ∈ node.bodies) : sizeOf body < sizeOf node := by
  cases node with
  | repeatTimes | ifThen | whileDo | define =>
    rcases List.mem_singleton.mp member with rfl
    simp only [repeatTimes.sizeOf_spec, ifThen.sizeOf_spec, whileDo.sizeOf_spec, define.sizeOf_spec]
    omega
  | ifElse c a b =>
    rw [ifElse.sizeOf_spec]
    rcases List.mem_cons.mp member with rfl | member
    · omega
    · rcases List.mem_singleton.mp member with rfl
      omega
  | _ => cases member

mutual

theorem Instruction.IsReadable.nodes {node : Instruction} (readable : node.IsReadable true) :
    ∀ inner ∈ Instruction.nodes node, inner.IsReadable true := by
  intro inner member
  rcases mem_nodes.mp member with rfl | ⟨body, inside, below⟩
  · exact readable
  · have smaller := sizeOf_bodies inside
    exact walk_readable body (readable.below body inside) inner below
termination_by sizeOf node

theorem Instruction.walk_readable (body : Body) (readable : ∀ node ∈ body, node.IsReadable true) :
    ∀ inner ∈ walk body, inner.IsReadable true := by
  intro inner member
  rcases mem_walk.mp member with ⟨node, inside, below⟩
  have smaller := List.sizeOf_lt_of_mem inside
  exact (readable node inside).nodes inner below
termination_by sizeOf body

end

theorem Instruction.IsReadable.at_toJson (readable : node.IsReadable nested) {way : Way} {there : Instruction}
    (reached : node.at? way = some there) : node.toJson.at? way = some there.toJson := by
  have below (a : Instruction) (b : Json) (written : (∃ nested, a.IsReadable nested) ∧ b = a.toJson) :
      List.Forall₂ (List.Forall₂ fun a b => (∃ nested, a.IsReadable nested) ∧ b = a.toJson) a.bodies b.bodies := by
    rcases written with ⟨⟨nested, readable⟩, rfl⟩
    rw [readable.bodies_toJson, List.forall₂_map_right_iff, List.forall₂_same]
    intro body member
    rw [bodyJson_eq_map, List.forall₂_map_right_iff, List.forall₂_same]
    intro inner inside
    exact ⟨⟨true, readable.below body member inner inside⟩, rfl⟩
  rcases Way.follow_alike below ⟨⟨nested, readable⟩, rfl⟩ reached with ⟨data, found, -, rfl⟩
  exact found

theorem Instruction.IsReadable.testAt_toJson (readable : node.IsReadable nested) {way : Way} {depth : Nat} {c : Condition}
    (reached : node.testAt? way depth = some c) (filled : c ≠ .empty) :
    node.toJson.testAt? way depth = some c.toJson := by
  rcases Option.bind_eq_some_iff.mp reached with ⟨whole, found, below⟩
  rcases Option.bind_eq_some_iff.mp found with ⟨there, arrived, has⟩
  rw [Json.testAt?, readable.at_toJson arrived, Option.bind_some,
    Instruction.test?_toJson has (Condition.filled_of_under below filled), Option.bind_some]
  exact Condition.under_toJson below filled

end Writing

end GridRobot
