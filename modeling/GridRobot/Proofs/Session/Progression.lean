import GridRobot.Proofs.Session.Happenings

/-!
From level to level. The level that comes next is found by its number, which is one more than that of the level before,
as long as that number is below the count of the levels. So the levels come one after the other just where they are
numbered from one in their order (`Catalog.IsCounted`). With other numbers the way through the levels ends early or
starts over.
-/
namespace GridRobot

namespace Catalog

/-- The levels are numbered from one in their order. A level on its own may have any positive number. -/
def IsCounted (catalog : Catalog) : Prop :=
  (∀ (i : Nat) level, catalog.levels[i]? = some level → level.id = (i : Int) + 1) ∨
    (catalog.levels.length = 1 ∧ 0 < catalog.first.id)

def successor? (catalog : Catalog) (level : Level) : Option Level :=
  (catalog.nextId level.id).map fun id => (catalog.get (.int id)).2

/-- The numbers go up from that of the first level so many times, each but the last of them below the count of the
levels. -/
def Climbs (catalog : Catalog) (steps : Nat) : Prop :=
  ∀ step : Nat, step < steps → catalog.first.id + step < catalog.levels.length ∧
    ∃ level ∈ catalog.levels, level.id = catalog.first.id + step + 1

variable {catalog : Catalog}

theorem nextId_eq_some_iff {id next : Int} :
    catalog.nextId id = some next ↔ id < catalog.levels.length ∧ next = id + 1 := by
  unfold nextId
  split
  · simp [*, eq_comm]
  · simp [*]

theorem nextId_eq_none_iff {id : Int} : catalog.nextId id = none ↔ catalog.levels.length ≤ id := by
  unfold nextId
  split
  · simp [*]
  · simp only [true_iff]
    omega

theorem levels_zero : catalog.levels[0]? = some catalog.first := by
  rw [first, ← List.head?_eq_getElem?, List.head?_eq_some_head]

theorem get_int (id : Int) : (catalog.get (.int id)).2 =
    (catalog.levels.find? fun level => level.id == id).getD catalog.first := by
  have same (level : Level) : (Json.int level.id).same (.int id) = (level.id == id) := rfl
  unfold get
  simp only [same]
  cases catalog.levels.find? fun level => level.id == id <;> rfl

theorem get_unlisted {id : Int} (unlisted : ∀ level ∈ catalog.levels, level.id ≠ id) :
    (catalog.get (.int id)).2 = catalog.first := by
  have none : catalog.levels.find? (fun level => level.id == id) = none := by simpa using unlisted
  rw [get_int, none, Option.getD_none]

theorem id_get {id : Int} (listed : ∃ level ∈ catalog.levels, level.id = id) : (catalog.get (.int id)).2.id = id := by
  rw [get_int]
  cases found : catalog.levels.find? fun level => level.id == id with
  | none =>
    obtain ⟨level, member, same⟩ := listed
    exact absurd same (by simpa using List.find?_eq_none.mp found level member)
  | some level => simpa using List.find?_some found

section

variable (distinct : (catalog.levels.map Level.id).Nodup)

include distinct

theorem place_unique {i j : Nat} {level other : Level} (here : catalog.levels[i]? = some level)
    (there : catalog.levels[j]? = some other) (same : level.id = other.id) : i = j := by
  have inside : i < (catalog.levels.map Level.id).length := by
    rw [List.length_map]
    exact (List.getElem?_eq_some_iff.mp here).1
  apply (List.getElem?_inj inside distinct).mp
  rw [List.getElem?_map, List.getElem?_map, here, there, Option.map_some, Option.map_some, same]

theorem get_listed {i : Nat} {level : Level} (here : catalog.levels[i]? = some level) :
    (catalog.get (.int level.id)).2 = level := by
  have same := id_get ⟨level, List.mem_of_getElem? here, rfl⟩
  obtain ⟨j, there⟩ := List.getElem?_of_mem (catalog.get_mem (.int level.id))
  -- The level that is found has the number, and no two levels share one.
  obtain rfl := place_unique distinct there here same
  exact Option.some.inj (there.symm.trans here)

theorem successor?_eq_iff (i : Nat) (level : Level) :
    catalog.successor? level = catalog.levels[i + 1]? ↔
      catalog.nextId level.id = (catalog.levels[i + 1]?).map Level.id := by
  unfold successor?
  cases next : catalog.levels[i + 1]? with
  | none => simp
  | some follower =>
    rw [Option.map_some, Option.map_eq_some_iff]
    constructor
    · rintro ⟨id, counted, found⟩
      by_cases listed : ∃ level ∈ catalog.levels, level.id = id
      · rw [counted, ← found, id_get listed]
      · -- The first level stands in for a missing one, and it comes after none.
        rw [get_unlisted (by simpa using listed)] at found
        have start := place_unique distinct (@levels_zero catalog) next (congrArg Level.id found)
        omega
    · exact fun counted => ⟨follower.id, counted, get_listed distinct next⟩

end

theorem level_before {i : Nat} {level : Level} (here : catalog.levels[i + 1]? = some level) :
    ∃ before, catalog.levels[i]? = some before := by
  obtain ⟨inside, -⟩ := List.getElem?_eq_some_iff.mp here
  exact ⟨_, List.getElem?_eq_getElem (Nat.lt_of_succ_lt inside)⟩

theorem nextId_of_isCounted (counted : catalog.IsCounted) {i : Nat} {level : Level}
    (here : catalog.levels[i]? = some level) : catalog.nextId level.id = (catalog.levels[i + 1]?).map Level.id := by
  obtain ⟨inside, -⟩ := List.getElem?_eq_some_iff.mp here
  rcases counted with counted | ⟨alone, positive⟩
  · rw [counted i level here]
    cases next : catalog.levels[i + 1]? with
    | none =>
      rw [List.getElem?_eq_none_iff] at next
      exact nextId_eq_none_iff.mpr (by omega)
    | some follower =>
      obtain ⟨below, -⟩ := List.getElem?_eq_some_iff.mp next
      refine nextId_eq_some_iff.mpr ⟨by omega, ?_⟩
      rw [counted _ follower next]
      omega
  -- A single level is the last, whatever its number, as long as that is positive.
  · obtain rfl : i = 0 := by omega
    rw [levels_zero] at here
    cases here
    rw [List.getElem?_eq_none (by omega)]
    exact nextId_eq_none_iff.mpr (by omega)

section

variable (follows : ∀ i level, catalog.levels[i]? = some level →
  catalog.nextId level.id = (catalog.levels[i + 1]?).map Level.id)

include follows

theorem id_of_follows {i : Nat} {level : Level} (here : catalog.levels[i]? = some level) :
    level.id = catalog.first.id + i := by
  induction i generalizing level with
  | zero =>
    rw [levels_zero] at here
    cases here
    simp
  | succ i ih =>
    obtain ⟨earlier, before⟩ := level_before here
    have next := follows i earlier before
    rw [here, Option.map_some, nextId_eq_some_iff, ih before] at next
    omega

theorem isCounted_of_follows : catalog.IsCounted := by
  have positive : 0 < catalog.levels.length := List.length_pos_iff.mpr catalog.nonempty
  obtain ⟨last, final⟩ : ∃ last, catalog.levels[catalog.levels.length - 1]? = some last :=
    ⟨_, List.getElem?_eq_getElem (by omega)⟩
  have ends := follows _ last final
  rw [List.getElem?_eq_none (by omega), Option.map_none, nextId_eq_none_iff, id_of_follows follows final] at ends
  by_cases alone : catalog.levels.length = 1
  · exact .inr ⟨alone, by omega⟩
  · obtain ⟨count, several⟩ : ∃ count, catalog.levels.length = count + 2 := ⟨catalog.levels.length - 2, by omega⟩
    rw [several] at final
    obtain ⟨late, earlier⟩ := level_before final
    have goes := follows count late earlier
    rw [show count + 1 = count + 2 - 1 from rfl, final, Option.map_some, nextId_eq_some_iff,
      id_of_follows follows earlier] at goes
    left
    intro i level here
    rw [id_of_follows follows here]
    omega

end

theorem nextId_follows_iff :
    (∀ i level, catalog.levels[i]? = some level → catalog.nextId level.id = (catalog.levels[i + 1]?).map Level.id) ↔
      catalog.IsCounted := by
  constructor
  · exact isCounted_of_follows
  · intro counted i level here
    exact nextId_of_isCounted counted here

end Catalog

namespace Session

def afterNext (s : Session) : Nat → Session
  | 0 => s
  | times + 1 => (s.afterNext times).nextLevel.1

structure StandsOn (allocation : Allocation) (catalog : Catalog) (level : Level) (s : Session) : Prop where
  sameAllocation : s.allocation = allocation
  sameCatalog : s.catalog = catalog
  idle : s.isRunning = false
  sameLevel : s.level = level
  built : level.world allocation = .ok s.world

/-- Requests for the next level load every level of the catalog in its turn; after the last there is none. -/
def Tours (allocation : Allocation) (catalog : Catalog) (s : Session) : Prop :=
  ∀ i level, catalog.levels[i]? = some level →
    (s.afterNext i).StandsOn allocation catalog level ∧ (s.afterNext i).nextLevel.2 = .ok catalog.levels[i + 1]?

namespace StandsOn

variable {allocation : Allocation} {catalog : Catalog} {level : Level} {s next : Session}

theorem of_noted (stands : s.StandsOn allocation catalog level) (noted : s.Noted next) : next.StandsOn allocation catalog level where
  sameAllocation := noted.allocation.trans stands.sameAllocation
  sameCatalog := noted.catalog.trans stands.sameCatalog
  idle := by
    rw [isRunning, Engine.isActive, noted.phase]
    exact stands.idle
  sameLevel := noted.level.trans stands.sameLevel
  built := by rw [noted.world, stands.built]

variable (built : ∀ level ∈ catalog.levels, ∃ world, level.world allocation = .ok world)

include built

theorem nextLevel (stands : s.StandsOn allocation catalog level) : s.nextLevel.2 = .ok (catalog.successor? level) ∧
    s.nextLevel.1.StandsOn allocation catalog ((catalog.successor? level).getD level) := by
  unfold Session.nextLevel Catalog.successor?
  rw [stands.sameCatalog, stands.sameLevel]
  cases counted : catalog.nextId level.id with
  | none => exact ⟨rfl, stands.of_noted (Noted.logAs ..)⟩
  | some id =>
    obtain ⟨world, laid⟩ := built _ (catalog.get_mem (.int id))
    have known : (s.catalog.get (.int id)).2.world s.allocation = .ok world := by
      rw [stands.sameCatalog, stands.sameAllocation, laid]
    obtain ⟨answer, noted⟩ := loadLevel_built stands.idle known
    rw [stands.sameCatalog] at answer noted
    refine ⟨congrArg (Except.map some) answer, of_noted ?_ noted⟩
    exact ⟨stands.sameAllocation, rfl, stands.idle, rfl, laid⟩

theorem tours_iff (distinct : (catalog.levels.map Level.id).Nodup) (stands : s.StandsOn allocation catalog catalog.first) :
    s.Tours allocation catalog ↔ catalog.IsCounted := by
  rw [← Catalog.nextId_follows_iff]
  constructor
  · intro tours i level here
    obtain ⟨reached, answer⟩ := tours i level here
    rw [(reached.nextLevel built).1] at answer
    exact (Catalog.successor?_eq_iff distinct i level).mp (Except.ok.inj answer)
  · intro follows
    have next {i : Nat} {level : Level} (here : catalog.levels[i]? = some level) :
        catalog.successor? level = catalog.levels[i + 1]? :=
      (Catalog.successor?_eq_iff distinct i level).mpr (follows i level here)
    have reached (i : Nat) (level : Level) (here : catalog.levels[i]? = some level) :
        (s.afterNext i).StandsOn allocation catalog level := by
      induction i generalizing level with
      | zero =>
        rw [Catalog.levels_zero] at here
        cases here
        exact stands
      | succ i ih =>
        obtain ⟨earlier, before⟩ := Catalog.level_before here
        have moved := ((ih earlier before).nextLevel built).2
        rwa [next before, here, Option.getD_some] at moved
    intro i level here
    exact ⟨reached i level here, next here ▸ ((reached i level here).nextLevel built).1⟩

theorem climbs (stands : s.StandsOn allocation catalog catalog.first) {steps : Nat} (climbing : catalog.Climbs steps) :
    ∃ level, (s.afterNext steps).StandsOn allocation catalog level ∧ level.id = catalog.first.id + steps := by
  induction steps with
  | zero => exact ⟨_, stands, by simp⟩
  | succ steps ih =>
    obtain ⟨level, reached, numbered⟩ := ih fun step below => climbing step (by omega)
    obtain ⟨below, listed⟩ := climbing steps (by omega)
    have next : catalog.successor? level = some (catalog.get (.int (level.id + 1))).2 := by
      rw [Catalog.successor?, Catalog.nextId_eq_some_iff.mpr ⟨numbered ▸ below, rfl⟩, Option.map_some]
    have moved := (reached.nextLevel built).2
    rw [next, Option.getD_some] at moved
    refine ⟨_, moved, ?_⟩
    rw [numbered, Catalog.id_get listed]
    omega

end StandsOn

theorem start_standsOn {allocation : Allocation} {catalog : Catalog} {wanted : Json} {lines : List String}
    {level : Level} {world : World} (found : catalog.get wanted = (lines, level))
    (laid : level.world allocation = .ok world) (draws : Draws) (observers : List Observer) (baseDelay : Json) (callLimit : CallLimit) (verbose : Bool) :
    ∃ s, start allocation catalog wanted draws observers baseDelay callLimit verbose = (lines, .ok s) ∧
      s.StandsOn allocation catalog level := by
  let s : Session :=
    { allocation, catalog, level, verbose
      engine := { world, draws, observers, baseDelay, callLimit, printed := lines.reverse } }
  refine ⟨s, ?_, rfl, rfl, rfl, rfl, laid⟩
  simp only [start, found, laid]
  rfl

/-- How levels with different numbers come one after the other. The number after that of a level is that of the next
one in the list, and there is none after the last, just if the levels are counted. If each of them has a world, it is
also just then that a session which starts on the first level and asks for the next one again and again tours the
catalog. In any case it goes up with the numbers as long as there are levels that have them. It stays on a level whose
number has reached the count of the levels, and from any other that no level follows it is back at the first. -/
theorem tours_iff_isCounted {allocation : Allocation} {catalog : Catalog} (distinct : (catalog.levels.map Level.id).Nodup) :
    ((∀ i level, catalog.levels[i]? = some level →
      catalog.nextId level.id = (catalog.levels[i + 1]?).map Level.id) ↔ catalog.IsCounted) ∧
    ((∀ level ∈ catalog.levels, ∃ world, level.world allocation = .ok world) →
      ∀ draws observers baseDelay callLimit verbose, ∃ s,
        start allocation catalog (.int catalog.first.id) draws observers baseDelay callLimit verbose = ([], .ok s) ∧
          s.StandsOn allocation catalog catalog.first ∧ (s.Tours allocation catalog ↔ catalog.IsCounted) ∧
          ∀ steps, catalog.Climbs steps → ∃ level, (s.afterNext steps).StandsOn allocation catalog level ∧
            level.id = catalog.first.id + steps ∧
            (catalog.levels.length ≤ level.id → (s.afterNext steps).nextLevel.2 = .ok none) ∧
            (level.id < catalog.levels.length → (∀ other ∈ catalog.levels, other.id ≠ level.id + 1) →
              (s.afterNext steps).nextLevel.2 = .ok (some catalog.first))) := by
  refine ⟨Catalog.nextId_follows_iff, fun built draws observers baseDelay callLimit verbose => ?_⟩
  have found : catalog.get (.int catalog.first.id) = ([], catalog.first) := by
    have again := catalog.get_id (.int catalog.first.id)
    rwa [Catalog.get_listed distinct Catalog.levels_zero] at again
  obtain ⟨world, laid⟩ := built catalog.first (List.head_mem catalog.nonempty)
  obtain ⟨s, started, stands⟩ := start_standsOn found laid draws observers baseDelay callLimit verbose
  refine ⟨s, started, stands, stands.tours_iff built distinct, fun steps climbing => ?_⟩
  obtain ⟨level, reached, numbered⟩ := stands.climbs built climbing
  have answer := (reached.nextLevel built).1
  refine ⟨level, reached, numbered, fun counted => ?_, fun below unfollowed => ?_⟩
  · rw [answer, Catalog.successor?, Catalog.nextId_eq_none_iff.mpr counted, Option.map_none]
  · rw [answer, Catalog.successor?, Catalog.nextId_eq_some_iff.mpr ⟨below, rfl⟩, Option.map_some,
      Catalog.get_unlisted unfollowed]

/-- The levels that come with the game are toured. -/
theorem tours_iff_isCounted_bundled :
    let allocation : Allocation := .within 1024
    let catalog : Catalog := ⟨Level.bundled, by simp [Level.bundled], false⟩
    (catalog.levels.map Level.id).Nodup ∧ (∀ level ∈ catalog.levels, ∃ world, level.world allocation = .ok world) ∧
      ∃ s, start allocation catalog (.int 1) (.ofList []) [] (.int 0) (.ofInt 3) false = ([], .ok s) ∧ s.Tours allocation catalog := by
  intro allocation catalog
  have distinct : (catalog.levels.map Level.id).Nodup := by decide
  have built : ∀ level ∈ catalog.levels, ∃ world, level.world allocation = .ok world := by
    intro level member
    simp only [catalog, Level.bundled, List.mem_cons, List.not_mem_nil, or_false] at member
    rcases member with rfl | rfl | rfl | rfl <;> exact ⟨_, rfl⟩
  have counted : catalog.IsCounted := by
    left
    rintro (_ | _ | _ | _ | i) level ⟨⟩ <;> rfl
  obtain ⟨s, started, -, tours, -⟩ := (tours_iff_isCounted distinct).2 built (.ofList []) [] (.int 0) (.ofInt 3) false
  exact ⟨distinct, built, s, started, tours.mpr counted⟩

/-- Levels that are numbered in tens end with the first one, and a gap in the numbers leads back there. -/
theorem nextLevel_misses_levels :
    let first : Level :=
      { id := 10, name := "A", size := 3, start := ⟨0, 0⟩, direction := .right, goal := ⟨2, 0⟩, obstacles := []
        description := .null, hint := .null }
    let tens : Catalog := ⟨[first, { first with id := 20 }], by simp, false⟩
    let gap : Catalog := ⟨[{ first with id := 1 }, { first with id := 3 }], by simp, false⟩
    (tens.levels.map Level.id).Nodup ∧ tens.levels[1]?.map Level.id = some 20 ∧ tens.nextId 10 = none ∧
      (gap.levels.map Level.id).Nodup ∧ gap.levels[1]?.map Level.id = some 3 ∧ gap.nextId 1 = some 2 ∧
      ∃ s, start (.within 9) gap (.int 1) (.ofList []) [] (.int 0) (.ofInt 3) false = ([], .ok s) ∧
        s.nextLevel.2 = .ok (some gap.first) ∧ s.nextLevel.1.nextLevel.2 = .ok (some gap.first) := by
  intro first tens gap
  exact ⟨by decide, rfl, rfl, by decide, rfl, rfl, _, rfl, rfl, rfl⟩

end Session

end GridRobot
