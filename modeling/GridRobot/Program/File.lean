import GridRobot.Files
import GridRobot.Json.Parser
import GridRobot.Program.Reader

/-!
Program files: reading one from text, bytes or a decoded document, and saving one. A reading either
gives a whole program or a fault, and prints its warnings in both cases.
-/
namespace GridRobot

structure ProgramFile where
  level : LevelNumber
  levelName : String
  functions : Body
  main : Body
  exportDate : String
  version : String
  warnings : List String

/-- Where a program is read from. A decoded document that is a string is the text of another one. -/
inductive Source
  | text (chars : List Char)
  | encoded (bytes : List UInt8)
  | document (value : Json)

inductive ImportError
  | decoding (fault : Text.DecodingFault)
  | text (error : Json.ParseError)
  | notAnObject
  | version (given : Json)
  | node (fault : ReadFault)

namespace ImportError

def reason : ImportError → String
  | .decoding _ => "UnicodeDecodeError"
  | .version _ => "UnsupportedFileVersion"
  | .node (.typeTag _) => "TypeError"
  | .text _ | .notAnObject | .node _ => "ProgramFormatError"

def message : ImportError → String
  | .decoding fault => fault.message
  | .text error => "Invalid JSON: " ++ error.message
  | .notAnObject => "Program file must be a JSON object"
  | .version given => "Unsupported file version: " ++ given.literal
  | .node fault => fault.message

end ImportError

def Source.decode : Source → Except ImportError Json
  | .text chars => (Json.parse chars).mapError .text
  | .encoded bytes => do
    let chars ← (Text.decodeDocument bytes).mapError .decoding
    (Json.parseUnmarked chars).mapError .text
  | .document (.str written) => (Json.parse written.toList).mapError .text
  | .document value => .ok value

namespace Fields

def listing (fields : Fields) (key : String) : Except ReadFault (List Json) :=
  match fields.get? key with
  | none => .ok []
  | some (.arr items) => .ok items
  | some other => if other.isTruthy then .error (.notAList key) else .ok []

def wording (fields : Fields) (key default : String) : String :=
  match fields.get? key with
  | none => default
  | some value => if value.isTruthy then value.text else default

def levelNumber (fields : Fields) : LevelNumber :=
  match fields.get? "level" with
  | some (.num (.int n)) => .number n
  | some (.bool b) => .flag b
  | _ => .number 0

end Fields

/-- The functions list: definitions are kept, all else is read, ignored and warned about. -/
def readFunctions : List Json → Scan ReadFault Body
  | [] => pure []
  | item :: rest => do
    let node ← readInstruction false item
    if node.isDefinition then
      let nodes ← readFunctions rest
      return node :: nodes
    else
      Scan.warn (.ignored node.tag)
      readFunctions rest

namespace ProgramFile

def ofFields (fields : Fields) : Scan ReadFault ProgramFile := do
  let rawFunctions ← Scan.ofExcept (fields.listing "functions")
  let functions ← readFunctions rawFunctions
  let rawMain ← Scan.ofExcept (fields.listing "mainProgram")
  let main ← readNodes rawMain
  return {
    level := fields.levelNumber
    levelName := fields.wording "levelName" "Unknown"
    functions, main
    exportDate := fields.wording "exportDate" ""
    version := fileVersion
    warnings := [] }

def ofDocument (data : Json) : Scan ImportError ProgramFile :=
  match data with
  | .obj fields =>
    let given := (Fields.get? fields "version").getD .null
    match given with
    | .str version =>
      if version = fileVersion then (ofFields fields).mapError .node else Scan.fail (.version given)
    | _ => Scan.fail (.version given)
  | _ => Scan.fail .notAnObject

def read (source : Source) : Scan ImportError ProgramFile :=
  match source.decode with
  | .error error => Scan.fail error
  | .ok data =>
    let scan := ofDocument data
    ⟨scan.warnings, scan.outcome.map fun file => { file with warnings := scan.warnings.map ReadWarning.text }⟩

def warningLine (warning : ReadWarning) : String := "[Serializer] WARN " ++ warning.text

def summaryLine (file : ProgramFile) : String :=
  "[Serializer] Imported program from level " ++ file.level.text ++ ": " ++ file.levelName ++
    " (" ++ toString file.main.length ++ " instructions, " ++ toString file.functions.length ++ " functions)"

def import? (verbose : Bool) (source : Source) : List String × Except ImportError ProgramFile :=
  let scan := read source
  let warnings := scan.warnings.map warningLine
  match scan.outcome with
  | .ok file => (warnings ++ (if verbose then [file.summaryLine] else []), .ok file)
  | .error error => (warnings, .error error)

def table (file : ProgramFile) : Except KeyFault FunctionTable := FunctionTable.ofDefinitions file.functions

/-- Where an export to a path is written: inside a directory under a name of its own. -/
def target (path : String) (isDirectory : Bool) (level : Json) (stamp : String) : String :=
  if isDirectory then
    path ++ (if path.isEmpty || path.endsWith "/" then "" else "/") ++ exportName level stamp
  else path

def exportedLines (verbose : Bool) (path : String) : List String :=
  if verbose then ["[Serializer] Program exported to " ++ path] else []

end ProgramFile

end GridRobot
