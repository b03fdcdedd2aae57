import PocketDesk.Text.Split

/-! The options of the command line, read from left to right. The first argument that
cannot be understood, or that asks for help or the version, decides. A value stands
behind its option or is attached to it; what begins with a dash is never a value that
stands behind. -/

namespace PocketDesk.CommandLine

/-- The options that take a value. -/
inductive Key where
  | manifest
  | command
  | complete
  | logLevel
  deriving DecidableEq, Repr

structure Options where
  /-- The file to load the tree from. -/
  manifest : Option String := none
  /-- The lines to run, in order. -/
  commands : List String := []
  /-- The buffer to complete. -/
  complete : Option String := none
  /-- How much is reported; the reports themselves are not part of the output. -/
  logLevel : Option String := none
  deriving DecidableEq, Repr

inductive Stop where
  | help
  | version
  | badUsage
  deriving DecidableEq, Repr

/-- The names of the levels, compared without regard to case. -/
def logLevels : List String := ["off", "error", "warn", "info", "debug", "trace"]

def isLogLevel (name : String) : Bool := logLevels.contains (name.map Char.toLower)

/-- The options with a value added. Only commands may come more than once, and neither the name
of a file nor a level may be empty. -/
def Options.add (o : Options) (key : Key) (value : String) : Except Stop Options :=
  match key with
  | .manifest =>
    if o.manifest.isSome ∨ value = "" then .error .badUsage
    else .ok { o with manifest := some value }
  | .command => .ok { o with commands := o.commands ++ [value] }
  | .complete =>
    if o.complete.isSome then .error .badUsage else .ok { o with complete := some value }
  | .logLevel =>
    if o.logLevel.isSome ∨ !isLogLevel value then .error .badUsage
    else .ok { o with logLevel := some value }

inductive Argument where
  /-- An option without its value. -/
  | key (key : Key)
  /-- An option with its value attached. -/
  | attached (key : Key) (value : String)
  | stop (reason : Stop)
  /-- Two dashes: nothing behind them is an option. -/
  | endOfOptions
  /-- Anything that does not begin with a dash, and the dash alone. -/
  | plain (text : String)
  deriving DecidableEq, Repr

def longKey? (name : String) : Option Key :=
  match name with
  | "manifest" => some .manifest
  | "command" => some .command
  | "complete" => some .complete
  | "log-level" => some .logLevel
  | _ => none

/-- An argument after its two dashes. -/
def longArgument (body : List Char) : Argument :=
  let name := String.ofList (body.takeWhile (· ≠ '='))
  match longKey? name, body.dropWhile (· ≠ '=') with
  | some key, [] => .key key
  | some key, _ :: value => .attached key (String.ofList value)
  | none, [] =>
    match name with
    | "help" => .stop .help
    | "version" => .stop .version
    | _ => .stop .badUsage
  | none, _ :: _ => .stop .badUsage

def shortArgument (body : List Char) : Argument :=
  match body with
  | 'c' :: [] => .key .command
  | 'c' :: '=' :: value => .attached .command (String.ofList value)
  | 'c' :: value => .attached .command (String.ofList value)
  | 'h' :: _ => .stop .help
  | 'V' :: _ => .stop .version
  | _ => .stop .badUsage

def Argument.parse (text : String) : Argument :=
  match text.toList with
  | ['-', '-'] => .endOfOptions
  | '-' :: '-' :: body => longArgument body
  | ['-'] => .plain text
  | '-' :: body => shortArgument body
  | _ => .plain text

/-- Reads the arguments, where `pending` is an option whose value has to come next. A pending
option is settled before anything else happens. -/
def readArguments : Option Key → Options → List String → Except Stop Options
  | none, o, [] => .ok o
  | some _, _, [] => .error .badUsage
  | pending, o, text :: rest =>
    match Argument.parse text, pending with
    | .plain value, some key =>
      match o.add key value with
      | .error e => .error e
      | .ok o => readArguments none o rest
    | _, some _ => .error .badUsage
    | .plain _, none => .error .badUsage
    | .key key, none => readArguments (some key) o rest
    | .attached key value, none =>
      match o.add key value with
      | .error e => .error e
      | .ok o => readArguments none o rest
    | .stop reason, none => .error reason
    | .endOfOptions, none => if rest.isEmpty then .ok o else .error .badUsage

/-- The options of a command line. A buffer to complete goes with no lines to run. -/
def Options.parse (arguments : List String) : Except Stop Options :=
  match readArguments none {} arguments with
  | .error e => .error e
  | .ok o =>
    if o.complete.isSome ∧ o.commands ≠ [] then .error .badUsage else .ok o

def versionText : String := "gelos 0.1.0\n"

def helpText : String :=
  "GelOS terminal on the command line\n" ++
  "\n" ++
  "Usage: gelos-cli [OPTIONS]\n" ++
  "\n" ++
  "Options:\n" ++
  "      --manifest <FILE>        " ++
  "Load the filesystem from this JSON manifest instead of the built-in one\n" ++
  "  -c, --command <LINE>         Run this line and exit (repeatable, runs in order)\n" ++
  "      --complete <BUFFER>      Print the Tab completion of this buffer and exit\n" ++
  "      --log-level <LOG_LEVEL>  Log level when RUST_LOG is not set [default: WARN]\n" ++
  "  -h, --help                   Print help\n" ++
  "  -V, --version                Print version\n"

end PocketDesk.CommandLine
