import LiquidTokens.Tokenize

/-!
The program: reads its arguments and an input, and prints the tokens or says what is wrong.
-/

namespace LiquidTokens.CommandLine

/-- How the program is called. -/
def usage : String :=
  "usage: liquid-tokens [OPTIONS] [FILE]\n\n"
    ++ "  -g, --grammar GRAMMAR      read the input as one expression: identifier, filtered,\n"
    ++ "                             assignment, boolean, loop, include, paginate or liquid\n"
    ++ "      --expand               read the bodies of tags and statements too\n"
    ++ "      --output FORMAT        human or json\n"
    ++ "      --tag-start TEXT       opens a tag\n"
    ++ "      --tag-end TEXT         closes a tag\n"
    ++ "      --statement-start TEXT opens an output statement\n"
    ++ "      --statement-end TEXT   closes an output statement\n"
    ++ "  -v, --verbose              more messages\n"
    ++ "  -h, --help                 this text\n"
    ++ "  -V, --version              the version\n"

/-- The version of the program. -/
def version : String :=
  "liquid-tokens 0.1.0"

/-- What a usage error comes to: a text that was asked for, or a complaint. -/
def reportUsage (error : UsageError) : IO UInt32 := do
  match error with
  | .help => IO.print usage; return 0
  | .version => IO.println version; return 0
  | .unknownMode name => IO.eprintln (Expression.Form.unknownName name); return 2
  | .badValue => IO.eprintln "a value is missing or not allowed"; return 2
  | .conflict => IO.eprintln "an option cannot be used here or not twice"; return 2
  | .unknownArgument => IO.eprintln "unexpected argument"; return 2
  | .valueNotAllowed => IO.eprintln "a flag takes no value"; return 2

/-- What a refusal comes to. -/
def reportRefusal (origin : String) (refusal : Refusal) : IO UInt32 := do
  match refusal with
  | .setup error => IO.eprintln ("invalid delimiters: " ++ error.message)
  | .lex failure =>
      let diagnostic := Diagnostic.ofFailure origin failure
      IO.eprintln (diagnostic.code ++ ": " ++ diagnostic.message)
      IO.eprintln ("  in " ++ diagnostic.sourceName)
      match diagnostic.help with
      | some help => IO.eprintln ("  help: " ++ help)
      | none => pure ()
  return 1

/-- The input that a request names. -/
def readInput (request : Request) : IO String :=
  match request.file with
  | some path => IO.FS.readFile path
  | none => do (← IO.getStdin).readToEnd

/-- Does what the arguments ask for. -/
def answerArguments (arguments : List String) : IO UInt32 := do
  match parse arguments with
  | .error error => reportUsage error
  | .ok request =>
      let source ← readInput request
      match request.answer source with
      | .ok text => IO.print text; return 0
      | .error refusal => reportRefusal request.origin refusal

end LiquidTokens.CommandLine

def main (arguments : List String) : IO UInt32 :=
  LiquidTokens.CommandLine.answerArguments arguments
