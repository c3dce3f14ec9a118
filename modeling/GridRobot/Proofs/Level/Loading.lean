import GridRobot.Level.Catalog
import GridRobot.Proofs.Json.Storage

/-!
What comes of loading levels. A file lists levels if it holds an object whose `"levels"` are some entries that are all
levels; then these are the catalog. Else the built-in level takes over, unless the loading breaks off: at a path that
leads to no file that may be read, for another reason than that nothing is there, or at an entry whose player is no object
or that has an infinite number where an integer is read. What was loaded has a world just if its size is positive and the
machine has room for its board.
-/
namespace GridRobot

/-! ### Sequences of readings -/

section

variable {ε α β : Type}

theorem bind_failed {reading : Except ε α} {next : α → Except ε β} {fault : ε} (failed : (reading >>= next) = .error fault) :
    reading = .error fault ∨ ∃ value, reading = .ok value ∧ next value = .error fault := by
  cases reading with
  | error other =>
    cases failed
    exact .inl rfl
  | ok value => exact .inr ⟨value, rfl, failed⟩

theorem mapError_failed {ε' : Type} {wrap : ε → ε'} {reading : Except ε α} {fault : ε'}
    (failed : reading.mapError wrap = .error fault) : ∃ cause, reading = .error cause ∧ fault = wrap cause := by
  cases reading with
  | error cause =>
    cases failed
    exact ⟨cause, rfl, rfl⟩
  | ok value => cases failed

theorem mapError_ok {ε' : Type} {wrap : ε → ε'} {reading : Except ε α} {value : α}
    (read : reading.mapError wrap = .ok value) : reading = .ok value := by
  cases reading with
  | error cause => cases read
  | ok other =>
    cases read
    rfl

theorem bind_ok {reading : Except ε α} {next : α → Except ε β} {result : β} (read : (reading >>= next) = .ok result) :
    ∃ value, reading = .ok value ∧ next value = .ok result := by
  cases reading with
  | error fault => cases read
  | ok value => exact ⟨value, rfl, read⟩

theorem mapM_failed_iff {read : α → Except ε β} {items : List α} {fault : ε} :
    items.mapM read = .error fault ↔ ∃ before item after, items = before ++ item :: after ∧
      (∀ earlier ∈ before, ∃ value, read earlier = .ok value) ∧ read item = .error fault := by
  constructor
  · intro failed
    induction items with
    | nil => cases failed
    | cons first rest ih =>
      rw [List.mapM_cons] at failed
      rcases bind_failed failed with here | ⟨value, fine, later⟩
      · exact ⟨[], first, rest, rfl, (fun _ none => nomatch none), here⟩
      · rcases bind_failed later with later | ⟨values, -, done⟩
        · obtain ⟨before, item, after, rfl, accepted, refused⟩ := ih later
          refine ⟨first :: before, item, after, rfl, ?_, refused⟩
          rintro earlier (_ | ⟨_, member⟩)
          · exact ⟨value, fine⟩
          · exact accepted earlier member
        · cases done
  · rintro ⟨before, item, after, rfl, accepted, refused⟩
    induction before with
    | nil => rw [List.nil_append, List.mapM_cons, refused]; rfl
    | cons first rest ih =>
      obtain ⟨value, fine⟩ := accepted first (List.mem_cons_self ..)
      have later := ih fun earlier member => accepted earlier (List.mem_cons_of_mem _ member)
      rw [List.cons_append, List.mapM_cons, fine]
      exact congrArg (fun tail => tail >>= fun values => Except.ok (value :: values)) later

theorem mapM_ok_members {read : α → Except ε β} {items : List α} {values : List β} (accepted : items.mapM read = .ok values) :
    ∀ item ∈ items, ∃ value, read item = .ok value := by
  induction items generalizing values with
  | nil => exact fun _ none => nomatch none
  | cons first rest ih =>
    rw [List.mapM_cons] at accepted
    obtain ⟨value, fine, accepted⟩ := bind_ok accepted
    obtain ⟨others, later, -⟩ := bind_ok accepted
    rintro item (_ | ⟨_, member⟩)
    · exact ⟨value, fine⟩
    · exact ih later item member

end

/-- Something stands at a path, or on the way there, but no file that may be read. -/
def FileFault.LeadsElsewhere : FileFault → Prop
  | .directory _ | .denied _ | .notDirectory _ | .nameTooLong _ => True
  | .missing _ | .nullCharacter | .decoding _ => False

/-- A fault that the loading of levels does not answer with the built-in level. -/
def LevelFault.IsOverlooked (fault : LevelFault) : Prop := (CatalogFault.level fault).isCaught = false

namespace Json

/-- Where an entry of the level list has the values that are read as integers. -/
inductive HasInteger : Json → Json → Prop
  | direction {fields player : Fields} {value : Json} (described : fields.get? "player" = some (.obj player))
      (given : player.get? "direction" = some value) : HasInteger (.obj fields) value
  | field {fields : Fields} {key : String} {value : Json} (named : key = "id" ∨ key = "gridSize")
      (given : fields.get? key = some value) : HasInteger (.obj fields) value
  | place {fields place : Fields} {role key : String} {value : Json} (named : role = "player" ∨ role = "goal")
      (described : fields.get? role = some (.obj place)) (coordinate : key = "x" ∨ key = "y")
      (given : place.get? key = some value) : HasInteger (.obj fields) value
  | obstacle {fields place : Fields} {items : List Json} {key : String} {value : Json}
      (listed : fields.get? "obstacles" = some (.arr items)) (member : .obj place ∈ items)
      (coordinate : key = "x" ∨ key = "y") (given : place.get? key = some value) : HasInteger (.obj fields) value

/-- What is wrong with an entry that breaks the loading off. -/
inductive Upsets : Json → LevelFault → Prop
  | fieldless {fields : Fields} {player goal : Json} (given : fields.get? "player" = some player)
      (bare : ∀ parts, player ≠ .obj parts) (aimed : fields.get? "goal" = some goal) :
      Upsets (.obj fields) (.noFields player)
  | boundless {entry value : Json} (has : entry.HasInteger value) (infinite : value.toInteger = .error .infinite) :
      Upsets entry (.integer .infinite)

variable {data value : Json} {fault : LevelFault}

theorem field_ok {key : String} (read : data.field key = .ok value) :
    ∃ fields : Fields, data = .obj fields ∧ fields.get? key = some value := by
  unfold field at read
  split at read
  · split at read
    · cases read
      exact ⟨_, rfl, ‹_›⟩
    · cases read
  · cases read

theorem field_failed {key : String} (failed : data.field key = .error fault) : ¬ fault.IsOverlooked := by
  unfold field at failed
  split at failed
  · split at failed
    · cases failed
    · cases failed
      exact Bool.noConfusion
  · cases failed
    exact Bool.noConfusion

theorem fieldOr_failed {key : String} {default : Json} (failed : data.fieldOr key default = .error fault) :
    fault = .noFields data ∧ ∀ fields, data ≠ .obj fields := by
  unfold fieldOr at failed
  split at failed
  · cases failed
  · rename_i bare
    cases failed
    exact ⟨rfl, bare⟩

theorem given_of_fieldOr {fields : Fields} {key : String} {default : Json}
    (read : (Json.obj fields).fieldOr key default = .ok value) (unusual : value ≠ default) :
    fields.get? key = some value := by
  obtain rfl : (fields.get? key).getD default = value := Except.ok.inj read
  cases given : fields.get? key with
  | some other => rfl
  | none =>
    rw [given] at unusual
    exact absurd rfl unusual

theorem fieldOr_ok {key : String} {default : Json} (read : data.fieldOr key default = .ok value) :
    ∃ fields : Fields, data = .obj fields := by
  unfold fieldOr at read
  split at read
  · exact ⟨_, rfl⟩
  · cases read

theorem integer_failed (failed : data.integer = .error fault) :
    ∃ cause, data.toInteger = .error cause ∧ fault = .integer cause := mapError_failed failed

theorem infinite_of_overlooked {cause : IntegerFault} (overlooked : (LevelFault.integer cause).IsOverlooked) :
    cause = .infinite := by
  cases cause with
  | infinite => rfl
  | notANumber | numeral | kind => cases overlooked

theorem infinite_of_integer (failed : data.integer = .error fault) (overlooked : fault.IsOverlooked) :
    fault = .integer .infinite ∧ data.toInteger = .error .infinite := by
  obtain ⟨cause, unbounded, rfl⟩ := integer_failed failed
  obtain rfl := infinite_of_overlooked overlooked
  exact ⟨rfl, unbounded⟩

theorem infinite_of_cell (failed : data.cell = .error fault) (overlooked : fault.IsOverlooked) :
    ∃ (place : Fields) (key : String) (value : Json), data = .obj place ∧ (key = "x" ∨ key = "y") ∧
      place.get? key = some value ∧ value.toInteger = .error .infinite ∧ fault = .integer .infinite := by
  rcases bind_failed failed with missing | ⟨given, found, failed⟩
  · exact absurd overlooked (field_failed missing)
  obtain ⟨place, rfl, first⟩ := field_ok found
  rcases bind_failed failed with failed | ⟨x, -, failed⟩
  · obtain ⟨rfl, infinite⟩ := infinite_of_integer failed overlooked
    exact ⟨place, "x", given, rfl, .inl rfl, first, infinite, rfl⟩
  rcases bind_failed failed with missing | ⟨given, found, failed⟩
  · exact absurd overlooked (field_failed missing)
  obtain ⟨_, ⟨⟩, second⟩ := field_ok found
  rcases bind_failed failed with failed | ⟨y, -, done⟩
  · obtain ⟨rfl, infinite⟩ := infinite_of_integer failed overlooked
    exact ⟨place, "y", given, rfl, .inr rfl, second, infinite, rfl⟩
  · cases done

theorem elements_failed (failed : data.elements = .error fault) : ¬ fault.IsOverlooked := by
  unfold elements at failed
  split at failed
  · cases failed
  · cases failed
  · cases failed
  · cases failed
    exact Bool.noConfusion

theorem arr_of_elements {items : List Json} {place : Fields} (listed : data.elements = .ok items)
    (member : .obj place ∈ items) : data = .arr items := by
  unfold elements at listed
  split at listed
  · cases listed
    rfl
  · cases listed
    simp at member
  · cases listed
    simp at member
  · cases listed

theorem infinite_of_cells {cells : List Json} (listed : data.elements = .ok cells)
    (failed : cells.mapM cell = .error fault) (overlooked : fault.IsOverlooked) :
    ∃ (items : List Json) (place : Fields) (key : String) (value : Json), data = .arr items ∧ .obj place ∈ items ∧
      (key = "x" ∨ key = "y") ∧ place.get? key = some value ∧ value.toInteger = .error .infinite ∧
      fault = .integer .infinite := by
  obtain ⟨before, item, after, rfl, -, failed⟩ := mapM_failed_iff.mp failed
  obtain ⟨place, key, value, rfl, rest⟩ := infinite_of_cell failed overlooked
  have member : .obj place ∈ before ++ .obj place :: after := List.mem_append_right _ (List.mem_cons_self ..)
  exact ⟨_, place, key, value, arr_of_elements listed member, member, rest⟩

end Json

namespace Level

variable {data : Json} {fault : LevelFault}

theorem upsets_of_refused (refused : ofJson data = .error fault) (overlooked : fault.IsOverlooked) :
    data.Upsets fault := by
  unfold ofJson at refused
  -- The values are read one after the other. What is missing is never overlooked, and once the entry is known to be an
  -- object, its optional fields cannot fail.
  rcases bind_failed refused with missing | ⟨player, found, refused⟩
  · exact absurd overlooked (Json.field_failed missing)
  obtain ⟨fields, rfl, described⟩ := Json.field_ok found
  rcases bind_failed refused with missing | ⟨goal, found, refused⟩
  · exact absurd overlooked (Json.field_failed missing)
  obtain ⟨_, ⟨⟩, aimed⟩ := Json.field_ok found
  rcases bind_failed refused with fieldless | ⟨given, found, refused⟩
  · obtain ⟨rfl, bare⟩ := Json.fieldOr_failed fieldless
    exact .fieldless described bare aimed
  obtain ⟨parts, rfl⟩ := Json.fieldOr_ok found
  rcases bind_failed refused with failed | ⟨degrees, -, refused⟩
  · obtain ⟨rfl, infinite⟩ := Json.infinite_of_integer failed overlooked
    exact .boundless (.direction described (Json.given_of_fieldOr found (by rintro rfl; cases infinite))) infinite
  split at refused
  · rcases bind_failed refused with missing | ⟨id, -, refused⟩
    · exact absurd overlooked (Json.field_failed missing)
    · cases refused
      cases overlooked
  rcases bind_failed refused with missing | ⟨given, found, refused⟩
  · exact absurd overlooked (Json.field_failed missing)
  obtain ⟨_, ⟨⟩, named⟩ := Json.field_ok found
  rcases bind_failed refused with failed | ⟨id, -, refused⟩
  · obtain ⟨rfl, infinite⟩ := Json.infinite_of_integer failed overlooked
    exact .boundless (.field (.inl rfl) named) infinite
  rcases bind_failed refused with bare | ⟨name, -, refused⟩
  · cases bare
  rcases bind_failed refused with bare | ⟨given, found, refused⟩
  · cases bare
  rcases bind_failed refused with failed | ⟨size, -, refused⟩
  · obtain ⟨rfl, infinite⟩ := Json.infinite_of_integer failed overlooked
    exact .boundless (.field (.inr rfl) (Json.given_of_fieldOr found (by rintro rfl; cases infinite))) infinite
  rcases bind_failed refused with failed | ⟨start, -, refused⟩
  · obtain ⟨place, key, value, ⟨⟩, coordinate, given, infinite, rfl⟩ := Json.infinite_of_cell failed overlooked
    exact .boundless (.place (.inl rfl) described coordinate given) infinite
  rcases bind_failed refused with failed | ⟨goal, -, refused⟩
  · obtain ⟨place, key, value, rfl, coordinate, given, infinite, rfl⟩ := Json.infinite_of_cell failed overlooked
    exact .boundless (.place (.inr rfl) aimed coordinate given) infinite
  rcases bind_failed refused with bare | ⟨listed, found, refused⟩
  · cases bare
  rcases bind_failed refused with failed | ⟨items, elements, refused⟩
  · exact absurd overlooked (Json.elements_failed failed)
  rcases bind_failed refused with failed | ⟨obstacles, -, refused⟩
  · obtain ⟨items, place, key, value, rfl, member, coordinate, given, infinite, rfl⟩ :=
      Json.infinite_of_cells elements failed overlooked
    have some : Json.arr items ≠ .arr [] := by
      rintro ⟨⟩
      cases member
    exact .boundless (.obstacle (Json.given_of_fieldOr found some) member coordinate given) infinite
  rcases bind_failed refused with bare | ⟨description, -, refused⟩
  · cases bare
  rcases bind_failed refused with bare | ⟨hint, -, done⟩
  · cases bare
  · cases done

theorem object_of_ofJson {level : Level} (read : ofJson data = .ok level) : ∃ fields : Fields, data = .obj fields := by
  obtain ⟨player, found, -⟩ := bind_ok read
  obtain ⟨fields, same, -⟩ := Json.field_ok found
  exact ⟨fields, same⟩

end Level

namespace Json

variable {data : Json} {fault : LevelFault}

theorem Upsets.isOverlooked (upsets : data.Upsets fault) : fault.IsOverlooked := by
  cases upsets with
  | fieldless | boundless => rfl

theorem Upsets.object (upsets : data.Upsets fault) : ∃ fields : Fields, data = .obj fields := by
  cases upsets with
  | fieldless => exact ⟨_, rfl⟩
  | boundless has _ =>
    cases has with
    | direction | field | place | obstacle => exact ⟨_, rfl⟩

end Json

/-! ### What can be played -/

variable {allocation : Allocation}

def Allocation.Grants (allocation : Allocation) (side : Nat) : Prop := allocation side = .ok ()

theorem Level.world_ok_iff (level : Level) :
    (∃ world, level.world allocation = .ok world) ↔ 0 < level.size ∧ allocation.Grants level.size.toNat := by
  constructor
  · rintro ⟨world, built⟩
    by_cases positive : 0 < level.size
    · rw [Level.world, World.create, if_pos positive] at built
      obtain ⟨⟨⟩, granted, -⟩ := bind_ok built
      exact ⟨positive, mapError_ok granted⟩
    · rw [Level.world, World.create, if_neg positive] at built
      cases built
  · rintro ⟨positive, granted⟩
    rw [Level.world, World.create, if_pos positive, World.layOut, granted, Direction.ofDegrees?_degrees]
    exact ⟨_, rfl⟩

namespace Catalog

def Holds (files : Files) (path : String) (entries : List Json) : Prop :=
  ∃ text, ∃ fields : Fields, files.readText path = .ok text ∧ Json.parse text = .ok (.obj fields) ∧
    fields.get? "levels" = some (.arr entries)

/-- A file holds at least one level, and nothing in the place of a level that is none. -/
def IsLevelFile (files : Files) (path : String) : Prop :=
  ∃ entries, Holds files path entries ∧ entries ≠ [] ∧ ∀ entry ∈ entries, ∃ level, Level.ofJson entry = .ok level

/-- Why the loading of levels breaks off: the path leads to no file that may be read, though something stands there or on
the way, or the first entry that is no level is wrong in a way that is not answered. -/
inductive BreaksOff (files : Files) (path : String) : CatalogFault → Prop
  | astray {fault : FileFault} (unread : files.readText path = .error fault) (elsewhere : fault.LeadsElsewhere) :
      BreaksOff files path (.file fault)
  | upset {before after : List Json} {entry : Json} {fault : LevelFault}
      (holds : Holds files path (before ++ entry :: after))
      (accepted : ∀ earlier ∈ before, ∃ level, Level.ofJson earlier = .ok level)
      (refused : Level.ofJson entry = .error fault) (upsets : entry.Upsets fault) :
      BreaksOff files path (.level fault)

variable {files : Files} {path : String}

theorem holds_of_entries {text : List Char} {data : Json} {entries : List Json} {fields : Fields}
    (given : files.readText path = .ok text) (parsed : Json.parse text = .ok data)
    (listed : (data.field "levels").bind Json.elements = .ok entries) (member : .obj fields ∈ entries) :
    Holds files path entries := by
  obtain ⟨value, found, elements⟩ := bind_ok listed
  obtain ⟨document, rfl, levels⟩ := Json.field_ok found
  exact ⟨text, document, given, parsed, Json.arr_of_elements elements member ▸ levels⟩

theorem read_of_holds {entries : List Json} (holds : Holds files path entries) :
    read files path = ((entries.mapM Level.ofJson).mapError .level).bind ofLevels := by
  obtain ⟨text, fields, given, parsed, levels⟩ := holds
  have found : (Json.obj fields).field "levels" = .ok (.arr entries) := by rw [Json.field, levels]
  rw [read, given]
  change ((Json.parse text).mapError .text).bind ofDocument = _
  rw [parsed]
  change ofDocument (.obj fields) = _
  rw [ofDocument, found]
  rfl

theorem ofLevels_ok_iff (levels : List Level) (catalog : Catalog) :
    ofLevels levels = .ok catalog ↔ catalog.fromFallback = false ∧ catalog.levels = levels := by
  unfold ofLevels
  split
  · rename_i none
    constructor
    · rintro ⟨⟩
    · rintro ⟨-, rfl⟩
      exact absurd none catalog.nonempty
  · constructor
    · rintro ⟨⟩
      exact ⟨rfl, rfl⟩
    · rintro ⟨original, rfl⟩
      obtain ⟨levels, nonempty, fromFallback⟩ := catalog
      obtain rfl : fromFallback = false := original
      rfl

theorem read_ok_iff (catalog : Catalog) : read files path = .ok catalog ↔
    catalog.fromFallback = false ∧
      ∃ entries, Holds files path entries ∧ entries.mapM Level.ofJson = .ok catalog.levels := by
  constructor
  · intro loaded
    obtain ⟨text, given, loaded⟩ := bind_ok loaded
    obtain ⟨data, parsed, loaded⟩ := bind_ok loaded
    obtain ⟨entries, listed, loaded⟩ := bind_ok loaded
    obtain ⟨levels, accepted, loaded⟩ := bind_ok loaded
    obtain ⟨original, rfl⟩ := (ofLevels_ok_iff levels catalog).mp loaded
    refine ⟨original, entries, ?_, mapError_ok accepted⟩
    -- There is a first entry, and being a level it is an object.
    cases entries with
    | nil =>
      have none : [] = catalog.levels := Except.ok.inj (mapError_ok accepted)
      exact absurd none.symm catalog.nonempty
    | cons entry rest =>
      obtain ⟨level, first⟩ := mapM_ok_members (mapError_ok accepted) entry (List.mem_cons_self ..)
      obtain ⟨fields, rfl⟩ := Level.object_of_ofJson first
      exact holds_of_entries (mapError_ok given) (mapError_ok parsed) (mapError_ok listed) (List.mem_cons_self ..)
  · rintro ⟨original, entries, holds, accepted⟩
    rw [read_of_holds holds, accepted]
    exact (ofLevels_ok_iff _ catalog).mpr ⟨original, rfl⟩

theorem breaksOff_iff {fault : CatalogFault} :
    (read files path = .error fault ∧ fault.isCaught = false) ↔ BreaksOff files path fault := by
  constructor
  · rintro ⟨failed, uncaught⟩
    -- Of the ways to fail, only two are not caught: a path that leads elsewhere, and an entry that upsets the reader.
    rcases bind_failed failed with unread | ⟨text, given, failed⟩
    · obtain ⟨cause, faulty, rfl⟩ := mapError_failed unread
      apply BreaksOff.astray faulty
      cases cause with
      | directory | denied | notDirectory | nameTooLong => trivial
      | missing | nullCharacter | decoding => cases uncaught
    rcases bind_failed failed with unparsed | ⟨data, parsed, failed⟩
    · obtain ⟨cause, -, rfl⟩ := mapError_failed unparsed
      cases uncaught
    rcases bind_failed failed with unlisted | ⟨entries, listed, failed⟩
    · obtain ⟨cause, faulty, rfl⟩ := mapError_failed unlisted
      rcases bind_failed faulty with missing | ⟨value, found, faulty⟩
      · exact absurd uncaught (Json.field_failed missing)
      · exact absurd uncaught (Json.elements_failed faulty)
    rcases bind_failed failed with refused | ⟨levels, accepted, failed⟩
    · obtain ⟨cause, faulty, rfl⟩ := mapError_failed refused
      obtain ⟨before, entry, after, rfl, accepted, refused⟩ := mapM_failed_iff.mp faulty
      have upsets := Level.upsets_of_refused refused uncaught
      obtain ⟨fields, rfl⟩ := upsets.object
      have member : .obj fields ∈ before ++ .obj fields :: after := List.mem_append_right _ (List.mem_cons_self ..)
      exact .upset (holds_of_entries (mapError_ok given) (mapError_ok parsed) (mapError_ok listed) member) accepted
        refused upsets
    · unfold ofLevels at failed
      split at failed
      · cases failed
        cases uncaught
      · cases failed
  · intro breaks
    cases breaks with
    | @astray fault unread elsewhere =>
      constructor
      · rw [read, unread]
        rfl
      · cases fault with
        | directory | denied | notDirectory | nameTooLong => rfl
        | missing | nullCharacter | decoding => cases elsewhere
    | upset holds accepted refused upsets =>
      constructor
      · rw [read_of_holds holds, mapM_failed_iff.mpr ⟨_, _, _, rfl, accepted, refused⟩]
        rfl
      · exact upsets.isOverlooked

theorem isLevelFile_iff : IsLevelFile files path ↔ ∃ catalog, read files path = .ok catalog := by
  constructor
  · rintro ⟨entries, holds, nonempty, accepted⟩
    rw [read_of_holds holds]
    cases given : entries.mapM Level.ofJson with
    | error fault =>
      obtain ⟨before, entry, after, rfl, -, refused⟩ := mapM_failed_iff.mp given
      obtain ⟨level, fine⟩ := accepted entry (List.mem_append_right _ (List.mem_cons_self ..))
      rw [refused] at fine
      cases fine
    | ok levels =>
      have kept : levels ≠ [] := by
        obtain ⟨entry, rest, rfl⟩ := List.exists_cons_of_ne_nil nonempty
        rw [List.mapM_cons] at given
        obtain ⟨level, -, given⟩ := bind_ok given
        obtain ⟨others, -, ⟨⟩⟩ := bind_ok given
        exact List.cons_ne_nil _ _
      exact ⟨⟨levels, kept, false⟩, (ofLevels_ok_iff levels _).mpr ⟨rfl, rfl⟩⟩
  · rintro ⟨catalog, loaded⟩
    obtain ⟨-, entries, holds, accepted⟩ := (read_ok_iff catalog).mp loaded
    refine ⟨entries, holds, ?_, mapM_ok_members accepted⟩
    rintro rfl
    exact catalog.nonempty (Except.ok.inj accepted).symm

theorem load_error_iff (verbose : Bool) (fault : CatalogFault) :
    (load verbose files path).2 = .error fault ↔ BreaksOff files path fault := by
  rw [← breaksOff_iff, load]
  cases read files path with
  | ok catalog =>
    constructor
    · rintro ⟨⟩
    · rintro ⟨⟨⟩, -⟩
  | error other =>
    cases caught : other.isCaught with
    | true =>
      simp only [caught, if_true]
      constructor
      · rintro ⟨⟩
      · rintro ⟨⟨⟩, uncaught⟩
        exact absurd (caught.symm.trans uncaught) Bool.noConfusion
    | false =>
      simp only [caught, Bool.false_eq_true, if_false]
      constructor
      · rintro ⟨⟩
        exact ⟨rfl, caught⟩
      · exact fun failed => failed.1

theorem load_ok {verbose : Bool} {catalog : Catalog} (loaded : (load verbose files path).2 = .ok catalog) :
    read files path = .ok catalog ∨ catalog = fallback ∧ ∃ fault, read files path = .error fault := by
  rw [load] at loaded
  cases found : read files path with
  | ok other =>
    rw [found] at loaded
    exact .inl (congrArg Except.ok (Except.ok.inj loaded))
  | error fault =>
    rw [found] at loaded
    cases caught : fault.isCaught with
    | true =>
      simp only [caught, if_true] at loaded
      exact .inr ⟨(Except.ok.inj loaded).symm, fault, rfl⟩
    | false =>
      simp only [caught] at loaded
      cases loaded

/-- What comes of loading levels, whatever stands at the path: it breaks off just for the reasons given, and else there
is a catalog. It is the built-in level unless the file lists levels and nothing else. Each of the levels has a world just
if its size is positive and the machine has room for its board. -/
theorem load_comes_to (allocation : Allocation) (verbose : Bool) (files : Files) (path : String) :
    let outcome := (load verbose files path).2
    (∀ fault, outcome = .error fault ↔ BreaksOff files path fault) ∧
      ∀ catalog, outcome = .ok catalog →
        catalog.levels ≠ [] ∧
          (catalog.fromFallback = true ↔ ¬ IsLevelFile files path) ∧
          (catalog.fromFallback = true → catalog.levels = [Level.builtIn]) ∧
          (catalog.fromFallback = false →
            ∃ entries, Holds files path entries ∧ entries.mapM Level.ofJson = .ok catalog.levels) ∧
          ∀ level ∈ catalog.levels,
            (∃ world, level.world allocation = .ok world) ↔ 0 < level.size ∧ allocation.Grants level.size.toNat := by
  intro outcome
  refine ⟨load_error_iff verbose, fun catalog loaded => ?_⟩
  refine ⟨catalog.nonempty, ?_, ?_, ?_, fun level _ => level.world_ok_iff⟩
  all_goals rcases load_ok loaded with found | ⟨rfl, fault, failed⟩
  · rw [((read_ok_iff catalog).mp found).1]
    exact iff_of_false Bool.false_ne_true fun unlisted => unlisted (isLevelFile_iff.mpr ⟨catalog, found⟩)
  · refine iff_of_true rfl fun listed => ?_
    obtain ⟨catalog, found⟩ := isLevelFile_iff.mp listed
    rw [failed] at found
    cases found
  · rw [((read_ok_iff catalog).mp found).1]
    rintro ⟨⟩
  · exact fun _ => rfl
  · exact fun _ => ((read_ok_iff catalog).mp found).2
  · rintro ⟨⟩

/-- A directory, and a level whose player is a list, break the loading off; a level of no size is loaded and has no
world. -/
theorem load_leaves_nothing_to_play :
    let place : Json := .obj [("x", .int 0), ("y", .int 0)]
    let bare : Json := .obj [("levels", .arr [.obj [("player", .arr []), ("goal", place)]])]
    let flat : Json := .obj [("levels", .arr
      [.obj [("id", .int 1), ("gridSize", .int 0), ("player", place), ("goal", place)]])]
    let files : Files := fun path =>
      if path = "bare" then some (.file bare.indented.toUTF8.data.toList)
      else if path = "flat" then some (.file flat.indented.toUTF8.data.toList)
      else some .directory
    (load false files "levels").2 = .error (.file (.directory "levels")) ∧
      (load false files "bare").2 = .error (.level (.noFields (.arr []))) ∧
      ∃ catalog level fault, (load false files "flat").2 = .ok catalog ∧ catalog.fromFallback = false ∧
        catalog.levels = [level] ∧ ∀ allocation, level.world allocation = .error fault := by
  intro place bare flat files
  have exactBare : bare.IsExact := by simp [bare, place, Json.IsExact, Json.AllExact, Json.FieldsExact]
  have exactFlat : flat.IsExact := by simp [flat, place, Json.IsExact, Json.AllExact, Json.FieldsExact]
  refine ⟨?_, ?_, ?_⟩
  · exact (load_error_iff false _).mpr (.astray rfl trivial)
  · have holds : Holds files "bare" ([] ++ .obj [("player", .arr []), ("goal", place)] :: []) :=
      ⟨_, _, Files.readText_document exactBare rfl, Json.parse_indented exactBare, rfl⟩
    have upsets : (Json.obj [("player", .arr []), ("goal", place)]).Upsets (.noFields (.arr [])) :=
      .fieldless rfl (fun _ => Json.noConfusion) rfl
    exact (load_error_iff false _).mpr (.upset holds (fun _ none => nomatch none) rfl upsets)
  · let level : Level :=
      { id := 1, name := "LEVEL 1", size := 0, start := ⟨0, 0⟩, direction := .right, goal := ⟨0, 0⟩, obstacles := []
        description := .null, hint := .null }
    let catalog : Catalog := ⟨[level], List.cons_ne_nil _ _, false⟩
    have holds : Holds files "flat" [.obj [("id", .int 1), ("gridSize", .int 0), ("player", place), ("goal", place)]] :=
      ⟨_, _, Files.readText_document exactFlat rfl, Json.parse_indented exactFlat, rfl⟩
    have loaded : read files "flat" = .ok catalog := (read_ok_iff catalog).mpr ⟨rfl, _, holds, rfl⟩
    refine ⟨catalog, level, .size "0", ?_, rfl, rfl, fun _ => rfl⟩
    rw [load, loaded]

end Catalog

end GridRobot
