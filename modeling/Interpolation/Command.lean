import Interpolation.Builtin
import Interpolation.Command.Listing
import Interpolation.Command.Request
import Interpolation.Tree.Data
import Interpolation.Tree.Outline
import Interpolation.Value.Printer

/-!
# Commands

A run as a function: from what it can see (`Interpolation.Command.Context`) to what it leaves behind
(`Interpolation.Command.Outcome`), which is two texts, a code and the files. The code is zero when all went
well, one when something is wrong with the texts, the files or the catalog, and two when the command line
cannot be understood. Only writing a file in its canonical spelling changes the files.
-/

namespace Interpolation.Command

/-- **What a run can see.** -/
structure Context where
  /-- The words of the command line. -/
  words : List String
  /-- The environment. -/
  environment : Environment
  /-- The bytes of the standard input. -/
  input : ByteArray
  /-- The files. -/
  files : Files

/-- **What a run leaves behind.** -/
structure Outcome where
  /-- The code it ends with. -/
  code : Nat
  /-- Its output. -/
  output : String
  /-- Its error output. -/
  errors : String
  /-- The files. -/
  files : Files

/-- Lines, each with its line feed. -/
def unlines (lines : List String) : String := String.join (lines.map (· ++ "\n"))

namespace Outcome

/-- Output and nothing else. -/
def ofOutput (files : Files) (output : String) : Outcome := ⟨0, output, "", files⟩

/-- A failure with one line of error output. -/
def failed (files : Files) (coloured : Bool) (message : String) : Outcome :=
  ⟨1, "", Style.bad.paint coloured "✗" ++ " " ++ message ++ "\n", files⟩

/-- A failure with the report on an error in a text. -/
def refused (files : Files) (coloured : Bool) (error : ParseError) (source : String) : Outcome :=
  ⟨1, "", error.report source coloured ++ "\n", files⟩

end Outcome

/-- The mark of what went well. -/
def tick (coloured : Bool) : String := Style.good.paint coloured "✓"

/-- The mark of what went wrong. -/
def cross (coloured : Bool) : String := Style.bad.paint coloured "✗"

/-! ### Texts to work on -/

/-- The name that stands for the standard input. -/
def standardInput : String := "-"

/-- The text that an operand names, or why there is none. -/
def Context.text (context : Context) (name : String) : Except String String :=
  if name = standardInput then
    (Files.decode context.input).mapError fun reason => "cannot read stdin: " ++ reason.message
  else
    (context.files.read ⟨name⟩).mapError fun reason => "cannot read " ++ name ++ ": " ++ reason.message

/-! ### Tasks on one text -/

/-- Shows the tree of a text. -/
def outline (context : Context) (settings : Settings) (dialect : Dialect) (name : String) (asData : Bool) :
    Outcome :=
  match context.text name with
  | .error message => .failed context.files settings.coloured message
  | .ok source =>
    match dialect.scan source with
    | .error error => .refused context.files settings.coloured error source
    | .ok tree =>
      .ofOutput context.files <|
        unlines (if asData then [(Tree.data tree).pretty] else Tree.outline settings.coloured 0 tree)

/-- Spells a text canonically. -/
def format (context : Context) (settings : Settings) (dialect : Dialect) (name : String)
    (spelling : Spelling) : Outcome :=
  let told (line : String) : String := if settings.quiet then "" else line ++ "\n"
  match context.text name with
  | .error message => .failed context.files settings.coloured message
  | .ok source =>
    match dialect.canonicalize source with
    | .error error => .refused context.files settings.coloured error source
    | .ok canonical =>
      match spelling with
      | .show => .ofOutput context.files canonical
      | .check =>
        if canonical = source then
          .ofOutput context.files (told (tick settings.coloured ++ " " ++ name))
        else
          .failed context.files settings.coloured (name ++ " is not canonical")
      | .write =>
        if name = standardInput then
          .failed context.files settings.coloured "--write needs a file, not stdin"
        else if canonical = source then
          .ofOutput context.files <| told <|
            tick settings.coloured ++ " " ++ name ++ " " ++ Style.faint.paint settings.coloured "(unchanged)"
        else
          .ofOutput (context.files.write ⟨name⟩ canonical)
            (told (tick settings.coloured ++ " rewrote " ++ name))

/-! ### Many texts -/

/-- Whether a path has one of the extensions, dots in front of them not counting. -/
def hasExtension (extensions : List String) (path : Path) : Bool :=
  path.extension?.any fun own => extensions.any fun wanted => wanted.toList.dropWhile (· == '.') == own.toList

/-- The candidates that a path stands for: a directory for the files below it with one of the extensions,
everything else for itself. -/
def candidates (files : Files) (extensions : List String) (path : Path) : List Path :=
  if files.isDirectory path then (files.walk path).filter (hasExtension extensions) else [path]

/-- A list without the elements that are equal to the one before them. -/
def dropRepeated (same : Path → Path → Bool) : List Path → List Path
  | [] => []
  | path :: rest =>
    match dropRepeated same rest with
    | [] => [path]
    | next :: more => if same path next then path :: more else path :: next :: more

/-- **The files to check**, each once, in the order of paths. -/
def collect (files : Files) (paths : List Path) (extensions : List String) : List Path :=
  dropRepeated (fun a b => (a.compare b).isEq)
    ((paths.flatMap (candidates files extensions)).mergeSort fun a b => (a.compare b).isLE)

/-- The number of calls in a file, or what is wrong with it. -/
def inspect (files : Files) (coloured : Bool) (dialect : Dialect) (path : Path) : Except String Nat :=
  match files.read path with
  | .error reason => .error ("cannot read " ++ path.text ++ ": " ++ reason.message)
  | .ok source =>
    match dialect.scan source with
    | .error error => .error (error.report source coloured)
    | .ok tree => .ok (Tree.calls tree).length

/-- The line for a file in which nothing is wrong. -/
def soundLine (coloured : Bool) (path : Path) (calls : Nat) : String :=
  let count := "[" ++ toString calls ++ " call" ++ (if calls = 1 then "" else "s") ++ "]"
  tick coloured ++ " " ++ path.text ++ " " ++ Style.faint.paint coloured count

/-- The lines for a file in which something is wrong. -/
def faultyLines (coloured : Bool) (path : Path) (report : String) : List String :=
  [cross coloured ++ " " ++ Style.strong.paint coloured path.text, report, ""]

/-- The last lines of a check. -/
def summaryLines (coloured : Bool) (total faulty : Nat) : List String :=
  [ Style.faint.paint coloured ("".pushn '─' 60),
    toString total ++ " file(s) checked, " ++ toString faulty ++ " with errors" ]

/-- Looks for errors in files. -/
def check (context : Context) (settings : Settings) (dialect : Dialect) (paths : List Path)
    (extensions : List String) : Outcome :=
  match collect context.files paths extensions with
  | [] => .failed context.files settings.coloured "no template files found"
  | found =>
    let coloured := settings.coloured
    let results := found.map fun path => (path, inspect context.files coloured dialect path)
    let sound := results.filterMap fun (path, result) => result.toOption.map (soundLine coloured path)
    let faulty := results.filterMap fun (path, result) =>
      match result with
      | .error report => some (faultyLines coloured path report)
      | .ok _ => none
    { code := if faulty.isEmpty then 0 else 1
      output :=
        if settings.quiet then "" else unlines (sound ++ summaryLines coloured results.length faulty.length)
      errors := unlines faulty.flatten
      files := context.files }

/-! ### The catalog and argument lists -/

/-- Lists methods. -/
def listMethods (context : Context) (settings : Settings) (catalog : Catalog) (space query : Option String) :
    Outcome :=
  let chosen : Except String (List Namespace) :=
    match space with
    | none => .ok catalog.namespaces
    | some name =>
      match catalog.namespace? name with
      | some space => .ok [space]
      | none => .error ("unknown namespace `" ++ name ++ "`")
  match chosen, query with
  | .error message, _ => .failed context.files settings.coloured message
  | .ok spaces, none => .ofOutput context.files (unlines (spaces.flatMap (spaceLines settings.coloured)))
  | .ok spaces, some query =>
    let query := Text.lowerCase query
    let found := matching query spaces
    { code := 0
      output := unlines (found.flatMap (methodLines settings.coloured))
      errors := if found.isEmpty then "formulary: no methods match `" ++ query ++ "`\n" else ""
      files := context.files }

/-- The lines of an argument list: a number, an offset and the argument itself. -/
def argumentLines (coloured : Bool) (arguments : List Argument) : List String :=
  if arguments.isEmpty then
    [Style.faint.paint coloured "(no arguments)"]
  else
    arguments.zipIdx.map fun (argument, index) =>
      (Style.tint .cyan).paint coloured ("[" ++ toString index ++ "]") ++ " "
        ++ Style.faint.paint coloured ("@" ++ toString argument.offset) ++ " "
        ++ Text.quoted (String.ofList argument.text)

/-- Shows how an argument list is split. -/
def split (context : Context) (settings : Settings) (raw : String) : Outcome :=
  .ofOutput context.files (unlines (argumentLines settings.coloured (ArgumentList.split raw.toList)))

/-! ### Runs -/

/-- An error and its causes in one line. -/
def chain (error : CatalogError) : String :=
  match error with
  | .unreadable _ reason => error.message ++ ": " ++ reason
  | _ => error.message

/-- The dialect of a run: the built-in one, extended by the sources of its settings. -/
def dialect? (files : Files) (settings : Settings) : Except CatalogError Dialect :=
  let directory :=
    settings.sources.directory.orElse fun _ =>
      if files.isDirectory settings.fallback then some settings.fallback else none
  Dialect.extend ⟨.builtin, settings.maxDepth⟩ files { settings.sources with directory := directory }

/-- Carries out a request. -/
def Request.run (request : Request) (context : Context) : Outcome :=
  let settings := request.settings
  match dialect? context.files settings with
  | .error error => .failed context.files settings.coloured ("cannot load catalog: " ++ chain error)
  | .ok dialect =>
    match request.task with
    | .outline name asData => outline context settings dialect name asData
    | .format name spelling => format context settings dialect name spelling
    | .check paths extensions => check context settings dialect paths extensions
    | .methods space query => listMethods context settings dialect.catalog space query
    | .split raw => split context settings raw

/-- How the command is used. -/
def usage : String := unlines [
  "usage: formulary [switches] parse <input> [--json]",
  "       formulary [switches] fmt <input> [--write | --check]",
  "       formulary [switches] check <path>... [--ext <list>]",
  "       formulary [switches] methods [<namespace>] [--search <text>]",
  "       formulary [switches] split <arguments>",
  "switches: --catalog <file>, --catalog-dir <dir>, --no-builtin, --max-depth <n>,",
  "          --quiet, --verbose, --no-color, --help, --version"]

/-- **Carries out a command line.** -/
def run (context : Context) : Outcome :=
  match Request.read context.words context.environment with
  | .ok request => request.run context
  | .error .version => .ofOutput context.files "formulary 0.1.0\n"
  | .error .help => .ofOutput context.files usage
  | .error .usage => ⟨2, "", usage, context.files⟩

end Interpolation.Command
