/-!
# The command line

What a command line asks for, before its values are interpreted. A line has two levels: switches, then a verb
(`Interpolation.Command.Verb`), then the verb's own switches and operands, in any order. The general switches
(`Interpolation.Command.Switch.general`) may stand at both levels.

A line is read word by word (`Interpolation.Command.Line.word`). A switch is spelled out behind two hyphens or
abbreviated to a letter behind one; letters can be run together, and a value is either attached or the next word,
which then must not look like a switch. Behind a bare `--` every word is an operand. The first word that makes no
sense ends the reading, as does the first that asks for help or for the version, whichever comes first. In the place
of a verb the word `help` asks for help, and all words behind it have to name what it is asked about
(`Interpolation.Command.Line.help`).
-/

namespace Interpolation.Command

/-- **What a run is asked to do.** -/
inductive Verb where
  /-- Show the tree of a text. -/
  | parse
  /-- Show, replace or check the spelling of a text. -/
  | fmt
  /-- Look for errors in many texts. -/
  | check
  /-- List the methods of the catalog. -/
  | methods
  /-- Show how an argument list is split. -/
  | split
deriving DecidableEq

/-- The verb that a word names. -/
def Verb.named? : String → Option Verb
  | "parse" => some .parse
  | "fmt" => some .fmt
  | "check" => some .check
  | "methods" => some .methods
  | "split" => some .split
  | _ => none

/-- How many operands a verb can have, if there is a limit. -/
def Verb.mostOperands : Verb → Option Nat
  | .check => none
  | _ => some 1

/-- **A switch.** -/
inductive Switch where
  | catalog | catalogDir | noBuiltin | maxDepth | quiet | verbose | noColor | help | version
  | json | write | check | ext | search
deriving DecidableEq

namespace Switch

/-- The name of a switch behind two hyphens. -/
def long : Switch → String
  | catalog => "catalog"
  | catalogDir => "catalog-dir"
  | noBuiltin => "no-builtin"
  | maxDepth => "max-depth"
  | quiet => "quiet"
  | verbose => "verbose"
  | noColor => "no-color"
  | help => "help"
  | version => "version"
  | json => "json"
  | write => "write"
  | check => "check"
  | ext => "ext"
  | search => "search"

/-- The letter of a switch behind one hyphen. -/
def short? : Switch → Option Char
  | quiet => some 'q'
  | verbose => some 'v'
  | help => some 'h'
  | version => some 'V'
  | search => some 's'
  | _ => none

/-- Whether a switch has a value. -/
def takesValue : Switch → Bool
  | catalog | catalogDir | maxDepth | ext | search => true
  | _ => false

/-- Whether a switch may be given more than once at one level. -/
def repeats : Switch → Bool
  | catalog | verbose | ext => true
  | _ => false

/-- The switches of both levels. -/
def general : List Switch := [catalog, catalogDir, noBuiltin, maxDepth, quiet, verbose, noColor, help]

/-- The switches of a verb alone. -/
def ofVerb : Verb → List Switch
  | .parse => [json]
  | .fmt => [write, check]
  | .check => [ext]
  | .methods => [search]
  | .split => []

/-- The switches that may stand before the verb, or behind the given one. -/
def allowed : Option Verb → List Switch
  | none => version :: general
  | some verb => ofVerb verb ++ general

end Switch

/-- **Why a line is not carried out.** -/
inductive Stop where
  /-- It cannot be understood. -/
  | usage
  /-- It asks for help. -/
  | help
  /-- It asks for the version. -/
  | version
deriving DecidableEq

/-- The switches given at one level with their values, the latest first. -/
abbrev Given := List (Switch × String)

/-- **A command line, as far as it has been read.** -/
structure Line where
  /-- The switches before the verb. -/
  before : Given := []
  /-- The verb. -/
  verb : Option Verb := none
  /-- The switches behind the verb. -/
  behind : Given := []
  /-- The operands, the latest first. -/
  operands : List String := []
  /-- The switch whose value is the next word. -/
  waiting : Option Switch := none
  /-- Whether only operands can follow. -/
  closed : Bool := false

namespace Line

/-- The decimal number of a limit, which has to fit into 64 bits and may have a plus sign. -/
def limit? (text : String) : Option Nat :=
  let digits := match text.toList with
    | '+' :: rest => rest
    | all => all
  if digits.isEmpty || !digits.all Char.isDigit then
    none
  else
    let n := digits.foldl (fun n c => 10 * n + (c.toNat - '0'.toNat)) 0
    if n < UInt64.size then some n else none

/-- Whether a switch can have a value: a limit has to be one, and a path must not be empty. -/
def accepts (switch : Switch) (value : String) : Bool :=
  match switch with
  | .maxDepth => (limit? value).isSome
  | .catalog | .catalogDir => !value.isEmpty
  | _ => true

/-- The line with a switch and its value. -/
def give (line : Line) (switch : Switch) (value : String) : Except Stop Line :=
  if switch = .help then
    .error .help
  else if switch = .version then
    .error .version
  else
    let given := if line.verb.isSome then line.behind else line.before
    if !accepts switch value || (!switch.repeats && given.any (·.1 == switch)) then
      .error .usage
    else if line.verb.isSome then
      .ok { line with behind := (switch, value) :: line.behind, waiting := none }
    else
      .ok { line with before := (switch, value) :: line.before, waiting := none }

/-- Whether a verb can have the word as one more operand: there has to be room for it, and a path to check must not
be empty. -/
def admits (line : Line) (verb : Verb) (word : String) : Bool :=
  verb.mostOperands.all (line.operands.length < ·) && !(verb == .check && word.isEmpty)

/-- The line with a word that is no switch: the verb, or an operand of it. -/
def operand (line : Line) (word : String) : Except Stop Line :=
  match line.verb with
  | some verb =>
    if line.admits verb word then .ok { line with operands := word :: line.operands } else .error .usage
  | none =>
    if line.closed then
      .error .usage
    else
      match Verb.named? word with
      | some verb => .ok { line with verb := some verb }
      | none => .error .usage

/-- The line with a switch that is spelled out, what stands behind an equals sign being its value. -/
def longSwitch (line : Line) (word : List Char) : Except Stop Line :=
  let name := word.takeWhile (· != '=')
  match (Switch.allowed line.verb).find? (·.long.toList == name) with
  | none => .error .usage
  | some switch =>
    match word.dropWhile (· != '='), switch.takesValue with
    | _ :: value, true => line.give switch (String.ofList value)
    | _ :: _, false => .error .usage
    | [], true => .ok { line with waiting := some switch }
    | [], false => line.give switch ""

/-- The line with switches given by their letters. What stands behind the letter of a switch with a value is
that value, without an equals sign in front of it. -/
def shortSwitches (line : Line) : List Char → Except Stop Line
  | [] => .ok line
  | letter :: rest =>
    match (Switch.allowed line.verb).find? (·.short? == some letter) with
    | none => .error .usage
    | some switch =>
      if switch.takesValue then
        match rest with
        | [] => .ok { line with waiting := some switch }
        | '=' :: value => line.give switch (String.ofList value)
        | value => line.give switch (String.ofList value)
      else do
        shortSwitches (← line.give switch "") rest

/-- **The line with one more word.** -/
def word (line : Line) (word : String) : Except Stop Line :=
  let letters := word.toList
  match line.waiting with
  | some switch =>
    if letters.head? == some '-' && word != "-" then .error .usage else line.give switch word
  | none =>
    if line.closed then
      line.operand word
    else
      match letters with
      | ['-', '-'] => .ok { line with closed := true }
      | '-' :: '-' :: rest => line.longSwitch rest
      | '-' :: letter :: rest => line.shortSwitches (letter :: rest)
      | _ => line.operand word

/-- The word that asks for help in the place of a verb. -/
def helpWord : String := "help"

/-- Whether a word met now asks for help by standing in the place of a verb. -/
def asksForHelp (line : Line) (word : String) : Bool :=
  word == helpWord && line.verb.isNone && line.waiting.isNone && !line.closed

/-- What comes of asking for help with the given words behind: there is help about everything, about each verb, and
about help itself, and about nothing else. -/
def help : List String → Stop
  | [] => .help
  | [topic] => if topic = helpWord || (Verb.named? topic).isSome then .help else .usage
  | _ => .usage

/-- The line with several more words, and no word to come. -/
def finish (line : Line) : List String → Except Stop Line
  | [] => if line.waiting.isSome then .error .usage else .ok line
  | word :: rest =>
    if line.asksForHelp word then .error (help rest)
    else do
      let longer ← line.word word
      longer.finish rest

/-- **A whole command line.** -/
def read (words : List String) : Except Stop Line := finish {} words

/-- The value of a switch: the one behind the verb, else the one before it. -/
def value? (line : Line) (switch : Switch) : Option String :=
  (line.behind.lookup switch).orElse fun _ => line.before.lookup switch

/-- The values of a switch in order: those behind the verb if there are any, else those before it. -/
def values (line : Line) (switch : Switch) : List String :=
  let of (given : Given) := (given.reverse.filter (·.1 == switch)).map (·.2)
  if (of line.behind).isEmpty then of line.before else of line.behind

/-- Whether a switch is given. -/
def has (line : Line) (switch : Switch) : Bool := (line.value? switch).isSome

/-- Whether a switch is given at both levels. -/
def hasTwice (line : Line) (switch : Switch) : Bool :=
  line.before.any (·.1 == switch) && line.behind.any (·.1 == switch)

end Line

end Interpolation.Command
