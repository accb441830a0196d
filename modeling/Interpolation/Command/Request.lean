import Interpolation.Command.Line
import Interpolation.Dialect.Sources

/-!
# Requests

A command line understood: the settings of the run and the task (`Interpolation.Command.Request`). Two
settings can also come from the environment; the command line has precedence over it, level by level, so that an
unusable setting in the environment is an error unless both levels override it.
-/

namespace Interpolation.Command

/-- **What a run can see of its environment.** -/
structure Environment where
  /-- The variables that are set. -/
  values : List (String × String)

/-- The value of a variable, if it is set. -/
def Environment.get? (environment : Environment) (name : String) : Option String :=
  environment.values.lookup name

/-- The variable that names a directory with manifests. -/
def directoryVariable : String := "FORMULARY_CATALOG_DIR"

/-- The variable that sets the limit on nesting. -/
def depthVariable : String := "FORMULARY_MAX_DEPTH"

/-- The variable that asks for colours. -/
def colourVariable : String := "CLICOLOR_FORCE"

/-- **The settings of a run.** -/
structure Settings where
  /-- The limit on nesting. -/
  maxDepth : Nat
  /-- Whether only errors are shown. -/
  quiet : Bool
  /-- Whether the output is coloured. -/
  coloured : Bool
  /-- Where methods come from, besides the built-in catalog. -/
  sources : Sources
  /-- Where manifests are looked for if the sources name no directory. -/
  fallback : Path

/-- **What becomes of the canonical spelling of a text.** -/
inductive Spelling where
  /-- It is shown. -/
  | show
  /-- It replaces the text. -/
  | write
  /-- It is compared with the text. -/
  | check
deriving DecidableEq

/-- **The task of a run.** -/
inductive Task where
  /-- Show the tree of a text, possibly as data. -/
  | outline (input : String) (asData : Bool)
  /-- Spell a text canonically. -/
  | format (input : String) (spelling : Spelling)
  /-- Look for errors in files, and in the files with given extensions below directories. -/
  | check (paths : List Path) (extensions : List String)
  /-- List methods, of one namespace or of all, possibly only those that match a query. -/
  | methods (space : Option String) (query : Option String)
  /-- Show how an argument list is split. -/
  | split (raw : String)

/-- **What a command line asks for.** -/
structure Request where
  /-- The settings of the run. -/
  settings : Settings
  /-- The task. -/
  task : Task

/-- A setting that the command line or else the environment may give. Where a level of the line does not
give it, what the environment gives has to be usable. -/
def setting? (line : Line) (environment : Environment) (switch : Switch) (name : String) :
    Except Stop (Option String) :=
  match environment.get? name with
  | none => .ok (line.value? switch)
  | some value =>
    if line.hasTwice switch || Line.accepts switch value then
      .ok (some ((line.value? switch).getD value))
    else
      .error .usage

/-- The settings that a line and the environment give. -/
def settings? (line : Line) (environment : Environment) : Except Stop Settings := do
  let limit ← setting? line environment .maxDepth depthVariable
  let directory ← setting? line environment .catalogDir directoryVariable
  let forced := (environment.get? colourVariable).any (· != "0")
  return {
    maxDepth := (limit.bind Line.limit?).getD 32
    quiet := line.has .quiet
    coloured := forced && !line.has .noColor
    sources := {
      directory := directory.map Path.mk
      manifests := (line.values .catalog).map Path.mk
      alone := line.has .noBuiltin }
    fallback := defaultDirectory none (environment.get? "HOME") }

/-- The parts of a text between its commas. -/
def commaParts (text : String) : List String := text.splitOn ","

/-- The extensions looked for unless others are given. -/
def usualExtensions : List String := ["txt,tpl,fml"]

/-- The task that a line names. -/
def task? (line : Line) : Except Stop Task :=
  match line.verb, line.operands.reverse with
  | some .parse, [input] => .ok (.outline input (line.has .json))
  | some .fmt, [input] =>
    match line.has .write, line.has .check with
    | true, true => .error .usage
    | true, false => .ok (.format input .write)
    | false, true => .ok (.format input .check)
    | false, false => .ok (.format input .show)
  | some .check, path :: paths =>
    let given := line.values .ext
    .ok (.check ((path :: paths).map Path.mk) ((if given.isEmpty then usualExtensions else given).flatMap commaParts))
  | some .methods, [] => .ok (.methods none (line.value? .search))
  | some .methods, [space] => .ok (.methods (some space) (line.value? .search))
  | some .split, [raw] => .ok (.split raw)
  | _, _ => .error .usage

/-- **What a command line asks for**, or why it is not carried out. -/
def Request.read (words : List String) (environment : Environment) : Except Stop Request := do
  let line ← Line.read words
  return { settings := ← settings? line environment, task := ← task? line }

/-- The paths at which a task works. -/
def Task.paths : Task → List Path
  | .outline input _ => [⟨input⟩]
  | .format input _ => [⟨input⟩]
  | .check paths _ => paths
  | .methods _ _ => []
  | .split _ => []

/-- **The paths that a request can look at.** -/
def Request.paths (request : Request) : List Path :=
  let sources := request.settings.sources
  request.task.paths ++ sources.manifests ++ [sources.directory.getD request.settings.fallback]

end Interpolation.Command
