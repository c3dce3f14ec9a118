import GridRobot.Files
import GridRobot.Json.Order
import GridRobot.Json.Parser
import GridRobot.Json.Printer
import GridRobot.Level
import GridRobot.Program.Document

/-!
The catalog of levels. A level file that is missing or malformed gives way to the built-in level; a
few faults are not caught and reach the caller.
-/
namespace GridRobot

structure Catalog where
  levels : List Level
  nonempty : levels ≠ []
  fromFallback : Bool := false

inductive CatalogFault
  | file (fault : FileFault)
  | text (error : Json.ParseError)
  | level (fault : LevelFault)
  | noLevels

namespace CatalogFault

def message : CatalogFault → String
  | .file fault => fault.message
  | .text error => error.message
  | .level fault => fault.message
  | .noLevels => "no levels defined"

/-- Whether the built-in level takes over. A path that leads to no file that may be read, for another reason
than that nothing is there, a value that has no fields where some are optional, and an infinite number are faults
of another sort. -/
def isCaught : CatalogFault → Bool
  | .file (.directory _) | .file (.denied _) | .file (.notDirectory _) | .file (.nameTooLong _) => false
  | .level (.noFields _) => false
  | .level (.integer .infinite) => false
  | _ => true

def notice (path : String) : CatalogFault → String
  | .file (.missing _) => "[Levels] ERROR No level file at " ++ path ++ ", using built-in levels"
  | fault => "[Levels] ERROR Failed to load level data: " ++ fault.message

end CatalogFault

namespace Catalog

def fallback : Catalog := ⟨[Level.builtIn], by simp, true⟩

def ofLevels (levels : List Level) : Except CatalogFault Catalog :=
  if nonempty : levels = [] then .error .noLevels else .ok { levels, nonempty }

def emptyMessage : String := "LevelCatalog needs at least one level"

def bundledText : String := (Json.obj [("levels", .arr (Level.bundled.map Level.toJson))]).indented

def ofDocument (data : Json) : Except CatalogFault Catalog := do
  let entries ← ((data.field "levels").bind Json.elements).mapError .level
  let levels ← (entries.mapM Level.ofJson).mapError .level
  ofLevels levels

def read (files : Files) (path : String) : Except CatalogFault Catalog := do
  let text ← (files.readText path).mapError .file
  let data ← (Json.parse text).mapError .text
  ofDocument data

/-- A catalog with the lines that its loading prints, unless a fault is not caught. -/
def load (verbose : Bool) (files : Files) (path : String) : List String × Except CatalogFault Catalog :=
  match read files path with
  | .ok catalog =>
    (if verbose then ["[Levels] Loaded " ++ toString catalog.levels.length ++ " levels from " ++ path] else [],
      .ok catalog)
  | .error fault =>
    if fault.isCaught then ([fault.notice path], .ok fallback) else ([], .error fault)

def first (catalog : Catalog) : Level := catalog.levels.head catalog.nonempty

def get (catalog : Catalog) (wanted : Json) : List String × Level :=
  match catalog.levels.find? fun level => (Json.int level.id).same wanted with
  | some level => ([], level)
  | none =>
    (["[Levels] WARN Level " ++ wanted.text ++ " not found, using level " ++ toString catalog.first.id],
      catalog.first)

/-- The number after a level's, as long as it counts the levels. -/
def nextId (catalog : Catalog) (id : Int) : Option Int :=
  if id < catalog.levels.length then some (id + 1) else none

def next (catalog : Catalog) (value : Json) : Except OrderFault (Option Number) := do
  if ← Relation.less.check value (.int catalog.levels.length) then return value.number?.map Number.successor
  else return none

theorem next_int (catalog : Catalog) (id : Int) :
    catalog.next (.int id) = .ok ((catalog.nextId id).map .int) := by
  simp only [next, nextId, Relation.check_int, Relation.holds, Number.lt, bind, Except.bind]
  by_cases low : id < catalog.levels.length <;> simp [low, pure, Except.pure, Json.number?, Number.successor]

end Catalog

end GridRobot
