import GridRobot.Proofs.Level.Loading

/-!
Levels there and back. A level is read from its own document as it was, except that a description or a hint that does
not count as given, such as an empty text or a zero, is not written and comes back as none at all.
-/
namespace GridRobot

namespace Json

def given (value : Json) : Json := if value.isTruthy then value else .null

/-- Something that does not count as given and yet is not none. -/
def IsBlank (value : Json) : Prop := value ≠ .null ∧ value.isTruthy = false

def HasBlankText (data : Json) : Prop :=
  ∃ key ∈ ["description", "hint"], ∃ value, data.field key = .ok value ∧ value.IsBlank

variable {data value : Json}

theorem given_of_not_blank (unlike : ¬ value.IsBlank) : value.given = value := by
  unfold given
  split
  · rfl
  · rename_i idle
    have none : ¬ value ≠ .null := fun other => unlike ⟨other, Bool.not_eq_true _ ▸ idle⟩
    exact (Classical.not_not.mp none).symm

theorem not_same_of_blank (blank : value.IsBlank) : value.same value.given = false := by
  rw [given, blank.2]
  cases value with
  | null => exact absurd rfl blank.1
  | bool | num | str | arr | obj => rfl

theorem blank_field_iff {key : String} (read : data.fieldOr key .null = .ok value) :
    (∃ other, data.field key = .ok other ∧ other.IsBlank) ↔ value.IsBlank := by
  obtain ⟨fields, rfl⟩ := fieldOr_ok read
  obtain rfl : (fields.get? key).getD .null = value := Except.ok.inj read
  cases found : fields.get? key with
  | none => simp [field, found, IsBlank]
  | some other => simp [field, found]

theorem cells_written (cells : List Cell) : (cells.map fun c => Json.obj (Level.cellFields c)).mapM cell = .ok cells := by
  induction cells with
  | nil => rfl
  | cons c rest ih =>
    rw [List.map_cons, List.mapM_cons, ih]
    rfl

end Json

namespace Level

/-- The level without a description or a hint that does not count as given. -/
def withoutBlanks (level : Level) : Level :=
  { level with description := level.description.given, hint := level.hint.given }

variable {data : Json} {level : Level}

theorem toJson_texts (level : Level) :
    level.toJson.fieldOr "description" .null = .ok level.description.given ∧
      level.toJson.fieldOr "hint" .null = .ok level.hint.given := by
  have tail (key : String) (other : key = "description" ∨ key = "hint") : level.toJson.fieldOr key .null =
      .ok ((Fields.get? (givenField "description" level.description ++ givenField "hint" level.hint) key).getD .null) := by
    rcases other with rfl | rfl <;> rfl
  rw [tail _ (.inl rfl), tail _ (.inr rfl)]
  unfold givenField Json.given
  cases level.description.isTruthy <;> cases level.hint.isTruthy <;> exact ⟨rfl, rfl⟩

theorem toJson_withoutBlanks (level : Level) : level.withoutBlanks.toJson = level.toJson := by
  have kept (key : String) (value : Json) : givenField key value.given = givenField key value := by
    unfold Json.given
    split
    · rfl
    · rename_i idle
      rw [givenField, givenField, if_neg idle]
      rfl
  simp only [toJson, withoutBlanks, kept]

theorem ofJson_toJson (level : Level) : ofJson level.toJson = .ok level.withoutBlanks := by
  have player : level.toJson.field "player" =
      .ok (.obj (cellFields level.start ++ [("direction", .int level.direction.degrees)])) := rfl
  have goal : level.toJson.field "goal" = .ok (.obj (cellFields level.goal)) := rfl
  have facing : (Json.obj (cellFields level.start ++ [("direction", .int level.direction.degrees)])).fieldOr "direction"
      (.int 0) = .ok (.int level.direction.degrees) := rfl
  have id : level.toJson.field "id" = .ok (.int level.id) := rfl
  have name : level.toJson.fieldOr "name" (.str ("LEVEL " ++ (Json.int level.id).text)) = .ok (.str level.name) := rfl
  have size : level.toJson.fieldOr "gridSize" (.int 10) = .ok (.int level.size) := rfl
  have obstacles : level.toJson.fieldOr "obstacles" (.arr []) =
      .ok (.arr (level.obstacles.map fun c => .obj (cellFields c))) := rfl
  have integer (n : Int) : (Json.int n).integer = .ok n := rfl
  have start : (Json.obj (cellFields level.start ++ [("direction", .int level.direction.degrees)])).cell =
    .ok level.start := rfl
  have aim : (Json.obj (cellFields level.goal)).cell = .ok level.goal := rfl
  obtain ⟨description, hint⟩ := level.toJson_texts
  simp only [ofJson, player, goal, facing, integer, Direction.ofDegrees?_degrees, id, name, size, start, aim, obstacles,
    Json.elements, Json.cells_written, description, hint, bind, Except.bind]
  rfl

theorem texts_of_ofJson (read : ofJson data = .ok level) :
    data.fieldOr "description" .null = .ok level.description ∧ data.fieldOr "hint" .null = .ok level.hint := by
  -- The values are read one after the other, the texts last.
  obtain ⟨player, -, read⟩ := bind_ok read
  obtain ⟨goal, -, read⟩ := bind_ok read
  obtain ⟨facing, -, read⟩ := bind_ok read
  obtain ⟨degrees, -, read⟩ := bind_ok read
  split at read
  · obtain ⟨id, -, ⟨⟩⟩ := bind_ok read
  obtain ⟨given, -, read⟩ := bind_ok read
  obtain ⟨id, -, read⟩ := bind_ok read
  obtain ⟨name, -, read⟩ := bind_ok read
  obtain ⟨wide, -, read⟩ := bind_ok read
  obtain ⟨size, -, read⟩ := bind_ok read
  obtain ⟨start, -, read⟩ := bind_ok read
  obtain ⟨aim, -, read⟩ := bind_ok read
  obtain ⟨listed, -, read⟩ := bind_ok read
  obtain ⟨items, -, read⟩ := bind_ok read
  obtain ⟨obstacles, -, read⟩ := bind_ok read
  obtain ⟨description, described, read⟩ := bind_ok read
  obtain ⟨hint, hinted, ⟨⟩⟩ := bind_ok read
  exact ⟨described, hinted⟩

theorem hasBlankText_iff (read : ofJson data = .ok level) :
    data.HasBlankText ↔ level.description.IsBlank ∨ level.hint.IsBlank := by
  obtain ⟨described, hinted⟩ := texts_of_ofJson read
  rw [← Json.blank_field_iff described, ← Json.blank_field_iff hinted]
  simp [Json.HasBlankText]

/-- Every level that is read can be written and read again. It is the same level, unless its document has a description
or a hint that is blank: that one is lost, and nothing else. The second level is written like the first. -/
theorem reread_unless_blank (read : ofJson data = .ok level) :
    ofJson level.toJson = .ok level.withoutBlanks ∧ level.withoutBlanks.toJson = level.toJson ∧
      (¬ data.HasBlankText → level.withoutBlanks = level) ∧
      (data.HasBlankText → level.same level.withoutBlanks = false) := by
  rw [hasBlankText_iff read]
  refine ⟨ofJson_toJson level, toJson_withoutBlanks level, fun filled => ?_, fun blank => ?_⟩
  · rw [not_or] at filled
    rw [withoutBlanks, Json.given_of_not_blank filled.1, Json.given_of_not_blank filled.2]
  · rcases blank with blank | blank
    · simp [same, withoutBlanks, Json.not_same_of_blank blank]
    · simp [same, withoutBlanks, Json.not_same_of_blank blank]

/-- A level without a name, with texts and a truth value for numbers and a list for its description. -/
theorem reread_unless_blank_coerced :
    let player : Json := .obj [("y", .bool true), ("direction", .str " 9_0 "), ("x", .str "+2")]
    let goal : Json := .obj [("x", .int 3), ("y", .str "-1")]
    let data : Json := .obj [("description", .arr [.null, .int 0]), ("obstacles", .arr [goal, player, goal]),
      ("goal", goal), ("id", .str "7"), ("player", player), ("gridSize", .str "5"), ("hint", .null)]
    let level : Level :=
      { id := 7, name := "LEVEL 7", size := 5, start := ⟨2, 1⟩, direction := .down, goal := ⟨3, -1⟩
        obstacles := [⟨3, -1⟩, ⟨2, 1⟩, ⟨3, -1⟩], description := .arr [.null, .int 0], hint := .null }
    ofJson data = .ok level ∧ ¬ data.HasBlankText ∧ ofJson level.toJson = .ok level := by
  intro player goal data level
  have read : ofJson data = .ok level := rfl
  have filled : ¬ data.HasBlankText := by
    rw [hasBlankText_iff read]
    rintro (⟨-, ⟨⟩⟩ | ⟨unlike, -⟩)
    exact unlike rfl
  obtain ⟨again, -, kept, -⟩ := reread_unless_blank read
  exact ⟨read, filled, again.trans (congrArg Except.ok (kept filled))⟩

/-- A level with an empty description comes back without one. -/
theorem reread_loses_blank :
    let place : Json := .obj [("x", .int 0), ("y", .int 0)]
    let data : Json := .obj [("id", .int 1), ("player", place), ("goal", place), ("description", .str "")]
    ∃ level again, ofJson data = .ok level ∧ ofJson level.toJson = .ok again ∧ level.description = .str "" ∧
      again.description = .null ∧ level.same again = false :=
  ⟨_, _, rfl, rfl, rfl, rfl, rfl⟩

end Level

end GridRobot
