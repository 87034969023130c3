import LiquidTokens.Delimiters
import LiquidTokens.Expression.Form

/-!
The command line: its arguments as a request.

Options begin with a hyphen. The value of an option follows a long name after `=` or a
short name directly, or else is the next argument, unless that looks like an option itself.
Short flags may stand together behind one hyphen, and after `--` everything is a file name.

A value that is the next argument is looked at when the argument after it is taken up, so
an argument after it that is not an option at all is blamed first.

Main statement: `Reading.settle_of_nothing_pending`.
-/

namespace LiquidTokens.CommandLine

open Expression (Form)

/-! ### Requests -/

/-- How an input that is no template is read. -/
inductive Mode where
  /-- As one expression. -/
  | form (form : Form)
  /-- As the body of the tag `liquid`. -/
  | liquidBody
  deriving DecidableEq, Repr

/-- The name of a mode. -/
def Mode.name : Mode → String
  | .form chosen => chosen.name
  | .liquidBody => "liquid"

/-- The mode with a name. -/
def Mode.ofName? (text : String) : Option Mode :=
  if text = "liquid" then some liquidBody else (Form.ofName? text).map form

/-- How tokens are written. -/
inductive Output where
  | human | json
  deriving DecidableEq, Repr

/-- The name of an output. -/
def Output.name : Output → String
  | human => "human"
  | json => "json"

/-- The output with a name. -/
def Output.ofName? (text : String) : Option Output :=
  [human, json].find? (·.name == text)

/-- What the arguments ask for. -/
structure Request where
  /-- The file to read; the standard input if there is none. -/
  file : Option String := none
  /-- How to read an input that is no template. -/
  mode : Option Mode := none
  expand : Bool := false
  output : Option Output := none
  tagStart : Option String := none
  tagEnd : Option String := none
  statementStart : Option String := none
  statementEnd : Option String := none
  /-- How often more messages were asked for. -/
  verbose : Nat := 0
  deriving DecidableEq, Repr

/-- The levels of messages. -/
inductive LogLevel where
  | warn | debug | trace
  deriving DecidableEq, Repr

/-- The name of a level. -/
def LogLevel.name : LogLevel → String
  | warn => "WARN"
  | debug => "DEBUG"
  | trace => "TRACE"

namespace Request

/-- The delimiters asked for, standard ones where nothing was said. -/
def delimiters (request : Request) : Delimiters :=
  { tagStart := request.tagStart.getD Delimiters.standard.tagStart
    tagEnd := request.tagEnd.getD Delimiters.standard.tagEnd
    statementStart := request.statementStart.getD Delimiters.standard.statementStart
    statementEnd := request.statementEnd.getD Delimiters.standard.statementEnd }

/-- How tokens are written, for people where nothing was said. -/
def outputOrHuman (request : Request) : Output :=
  request.output.getD .human

/-- The level of messages asked for. -/
def logLevel (request : Request) : LogLevel :=
  match request.verbose with
  | 0 => .warn
  | 1 => .debug
  | _ => .trace

/-- The name of the input in reports. -/
def origin (request : Request) : String :=
  request.file.getD "<stdin>"

end Request

/-! ### Usage errors -/

/-- Why arguments make no request. -/
inductive UsageError where
  /-- The mode of this name is unknown. -/
  | unknownMode (name : String)
  /-- A value is missing or is none of those allowed. -/
  | badValue
  /-- An option is given twice, or with one that excludes it. -/
  | conflict
  /-- An option is unknown, or there is a second file. -/
  | unknownArgument
  /-- A flag is given a value. -/
  | valueNotAllowed
  /-- Help is asked for. -/
  | help
  /-- The version is asked for. -/
  | version
  deriving DecidableEq, Repr

/-! ### Options -/

/-- Options that take a value. -/
inductive ValueOption where
  | grammar | output | delimiter (role : DelimiterRole)
  deriving DecidableEq, Repr

/-- Options without a value. -/
inductive Flag where
  | expand | verbose | help | version
  deriving DecidableEq, Repr

/-- An option. -/
inductive Opt where
  | flag (flag : Flag)
  | value (option : ValueOption)
  deriving DecidableEq, Repr

/-- The option with a long name. -/
def Opt.ofLong? (name : String) : Option Opt :=
  match name with
  | "grammar" => some (.value .grammar)
  | "output" => some (.value .output)
  | "tag-start" => some (.value (.delimiter .tagStart))
  | "tag-end" => some (.value (.delimiter .tagEnd))
  | "statement-start" => some (.value (.delimiter .statementStart))
  | "statement-end" => some (.value (.delimiter .statementEnd))
  | "expand" => some (.flag .expand)
  | "verbose" => some (.flag .verbose)
  | "help" => some (.flag .help)
  | "version" => some (.flag .version)
  | _ => none

/-- The option with a short name. -/
def Opt.ofShort? (name : Char) : Option Opt :=
  match name with
  | 'g' => some (.value .grammar)
  | 'v' => some (.flag .verbose)
  | 'h' => some (.flag .help)
  | 'V' => some (.flag .version)
  | _ => none

/-! ### Reading arguments -/

/-- The arguments read so far. -/
structure Reading where
  request : Request
  /-- The option given last, with its value once that has been read, as long as the value
  has not been looked at. -/
  pending : Option (ValueOption × Option String)
  /-- Only file names follow. -/
  filesOnly : Bool

namespace Reading

/-- Nothing has been read. -/
def start : Reading :=
  ⟨{ }, none, false⟩

/-- A value in a place where there may be only one. -/
def once {β : Type} (old : Option β) (new : β) : Except UsageError (Option β) :=
  match old with
  | some _ => .error .conflict
  | none => .ok (some new)

/-- Puts the value of an option into the request. An option given before is refused before
the value is looked at. -/
def setValue (request : Request) (option : ValueOption) (text : String) :
    Except UsageError Request :=
  match option with
  | .grammar =>
      if request.mode.isSome then .error .conflict
      else
        match Mode.ofName? text with
        | some mode => .ok { request with mode := some mode }
        | none => .error (.unknownMode text)
  | .output =>
      if request.output.isSome then .error .conflict
      else
        match Output.ofName? text with
        | some output => .ok { request with output := some output }
        | none => .error .badValue
  | .delimiter .tagStart =>
      (once request.tagStart text).map fun value => { request with tagStart := value }
  | .delimiter .tagEnd =>
      (once request.tagEnd text).map fun value => { request with tagEnd := value }
  | .delimiter .statementStart =>
      (once request.statementStart text).map fun value =>
        { request with statementStart := value }
  | .delimiter .statementEnd =>
      (once request.statementEnd text).map fun value => { request with statementEnd := value }

/-- Looks at the value that is pending. -/
def settle (reading : Reading) : Except UsageError Reading :=
  match reading.pending with
  | none => .ok reading
  | some (_, none) => .error .badValue
  | some (option, some text) =>
      (setValue reading.request option text).map fun request =>
        { reading with request, pending := none }

/-- The greatest number of times that a flag is counted. -/
def maxVerbose : Nat :=
  255

/-- Takes up a flag. -/
def takeFlag (reading : Reading) (flag : Flag) : Except UsageError Reading := do
  let reading ← reading.settle
  let request := reading.request
  match flag with
  | .expand =>
      if request.expand then .error .conflict
      else .ok { reading with request := { request with expand := true } }
  | .verbose =>
      let verbose := min (request.verbose + 1) maxVerbose
      .ok { reading with request := { request with verbose } }
  | .help => .error .help
  | .version => .error .version

/-- Takes up an option that takes a value, with the value if it is attached. -/
def takeOption (reading : Reading) (option : ValueOption) (attached : Option String) :
    Except UsageError Reading := do
  let reading ← reading.settle
  match attached with
  | some text =>
      let request ← setValue reading.request option text
      return { reading with request }
  | none => return { reading with pending := some (option, none) }

/-- Takes up a long option, given without its two hyphens. -/
def takeLong (reading : Reading) (argument : List Char) : Except UsageError Reading :=
  let name := argument.takeWhile (· != '=')
  let attached := (argument.dropWhile (· != '=')).tail?.map String.ofList
  match Opt.ofLong? (String.ofList name) with
  | none => .error .unknownArgument
  | some (.value option) => reading.takeOption option attached
  | some (.flag flag) =>
      match attached with
      | some _ => .error .valueNotAllowed
      | none => reading.takeFlag flag

/-- Takes up the short options behind one hyphen. What follows an option that takes a value
is that value, with or without `=` in front. -/
def takeShorts (reading : Reading) : List Char → Except UsageError Reading
  | [] => .ok reading
  | c :: others =>
      match Opt.ofShort? c with
      | none => .error .unknownArgument
      | some (.value option) =>
          let attached :=
            match others with
            | [] => none
            | '=' :: text => some (String.ofList text)
            | text => some (String.ofList text)
          reading.takeOption option attached
      | some (.flag flag) => do
          let reading ← reading.takeFlag flag
          reading.takeShorts others

/-- Takes up the name of a file. -/
def takeFile (reading : Reading) (argument : String) : Except UsageError Reading :=
  match reading.request.file with
  | some _ => .error .unknownArgument
  | none => do
      let reading ← reading.settle
      return { reading with request := { reading.request with file := some argument } }

/-- Takes up an argument that is not an option: the value that is waited for, or else a
file. -/
def takePlain (reading : Reading) (argument : String) : Except UsageError Reading :=
  match reading.pending with
  | some (option, none) => .ok { reading with pending := some (option, some argument) }
  | _ => reading.takeFile argument

/-- Takes up the next argument. -/
def take (reading : Reading) (argument : String) : Except UsageError Reading :=
  if reading.filesOnly then reading.takeFile argument
  else
    match argument.toList with
    | ['-', '-'] => .ok { reading with filesOnly := true }
    | '-' :: '-' :: long => reading.takeLong long
    | '-' :: c :: shorts => reading.takeShorts (c :: shorts)
    | _ => reading.takePlain argument

/-- The request, once there are no more arguments. Expanding a template and reading an
input that is none exclude each other. -/
def finish (reading : Reading) : Except UsageError Request := do
  let reading ← reading.settle
  if reading.request.expand && reading.request.mode.isSome then .error .conflict
  else return reading.request

/-- With nothing pending there is nothing to look at. -/
theorem settle_of_nothing_pending {reading : Reading} (h : reading.pending = none) :
    reading.settle = .ok reading := by
  simp [settle, h]

end Reading

/-- The request that some arguments make. -/
def parse (arguments : List String) : Except UsageError Request := do
  let reading ← arguments.foldlM Reading.take Reading.start
  reading.finish

/-- The words for a usage error, where it has any of its own. -/
def UsageError.words? : UsageError → Option String
  | unknownMode name => some (Form.unknownName name)
  | _ => none

end LiquidTokens.CommandLine
