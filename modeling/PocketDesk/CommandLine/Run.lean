import PocketDesk.CommandLine.EchoHost
import PocketDesk.CommandLine.Options
import PocketDesk.Content.BuiltIn
import PocketDesk.Terminal.Shell

/-! A run of the command line. Lines come from the options or from the input; each is
submitted to one shell, the requests it makes are said while it runs, and afterwards the
log is printed from behind the line that stood last in it before. The run is over once
the terminal's window is closed. -/

namespace PocketDesk.CommandLine

structure State where
  shell : Shell
  host : EchoHost
  /-- The number of the line that stood last in the log when it was printed, if one did. -/
  printed : Option Nat

namespace State

def start (tree : Tree) : State := ⟨.start tree, .start, none⟩

def unprinted (s : State) : List Printed :=
  (s.shell.log.behind s.printed).map fun line => .line line.plainText

/-- The state once everything in the log counts as printed. -/
def upToDate (s : State) : State := { s with printed := s.shell.log.lastNumber? }

def report (s : State) : List Printed × State := (s.unprinted, s.upToDate)

def runLine (s : State) (line : String) : List Printed × State :=
  let (shell, host) := s.shell.submit line { s.host with said := [] }
  let (out, next) := report { s with shell := shell, host := host }
  (host.said ++ out, next)

def isOver (s : State) : Bool := !s.host.terminalOpen

def runBatch (s : State) : List String → List Printed
  | [] => []
  | line :: lines =>
    let (out, s) := s.runLine line
    if s.isOver then out else out ++ s.runBatch lines

end State

inductive Failure where
  | unreadable (path problem : String)
  | manifest (error : LoadError)
  | input (problem : String)

def notUtf8 : String := "stream did not contain valid UTF-8"

def Failure.message : Failure → String
  | .unreadable path problem => "cannot read " ++ path ++ ": " ++ problem
  | .manifest (.notJson fault) => "manifest is not valid JSON:" ++ fault.detail
  | .manifest (.invalid v) => v.message
  | .input problem => "stdin: " ++ problem

/-- A line of the input without its end. -/
def chomp (line : String) : String :=
  String.ofList (Text.dropLastWhile (fun c => c == '\r' || c == '\n') line.toList)

/-- What comes behind a prompt. -/
inductive Reading where
  | line (text : String)
  | failed (problem : String)
  | ended

/-- A line that is missing was not encoded as it should be. -/
def Reading.ofLine : Option String → Reading
  | some text => .line text
  | none => .failed notUtf8

inductive Course where
  | next (s : State)
  | over (failure : Option Failure)

/-- One turn of a conversation: what is printed behind the prompt, and how the run goes on. -/
def State.take (s : State) : Reading → List Printed × Course
  | .line text =>
    let (out, next) := s.runLine (chomp text)
    (out, if next.isOver then .over none else .next next)
  | .failed problem => ([], .over (some (.input problem)))
  | .ended => ([.endOfInput], .over none)

/-- Takes its turns, each behind a prompt, until the run is over. -/
def State.converse (s : State) : List Reading → List Printed × Option Failure
  | [] => ([], none)
  | reading :: readings =>
    let (out, course) := s.take reading
    let out := .prompt s.shell.prompt :: out
    match course with
    | .over failure => (out, failure)
    | .next s =>
      let (more, failure) := s.converse readings
      (out ++ more, failure)

def State.runInput (s : State) (lines : List (Option String)) : List Printed × Option Failure :=
  s.converse (lines.map .ofLine ++ [.ended])

/-- A run on the input prints the log as it stands before the first prompt. -/
def runInteractive (tree : Tree) (lines : List (Option String)) : List Printed × Option Failure :=
  let (greeting, s) := (State.start tree).report
  let (out, failure) := s.runInput lines
  (greeting ++ out, failure)

/-- A run on given lines prints only what they add. -/
def runCommands (tree : Tree) (lines : List String) : List Printed :=
  (State.start tree).upToDate.runBatch lines

def printCompletion : Completion → List Printed
  | .nothing => []
  | .single buffer => [.completion buffer]
  | .multiple names => [.completion (String.intercalate "  " names)]

/-- The tree that the options ask for. A file is given by its bytes, or by the problem there was. -/
def loadTree (options : Options) (readFile : String → Except String ByteArray) :
    Except Failure Tree :=
  match options.manifest with
  | none => .ok .builtIn
  | some path =>
    match readFile path with
    | .error problem => .error (.unreadable path problem)
    | .ok bytes =>
      match String.fromUTF8? bytes with
      | none => .error (.unreadable path notUtf8)
      | some text =>
        match Tree.ofJson text with
        | .error e => .error (.manifest e)
        | .ok tree => .ok tree

def cutLines : List UInt8 → List (List UInt8)
  | [] => []
  | b :: r =>
    if b = 10 then [b] :: cutLines r
    else
      match cutLines r with
      | [] => [[b]]
      | l :: ls => (b :: l) :: ls

/-- The lines of the input, each with its end; one that is not UTF-8 is missing. -/
def inputLines (bytes : ByteArray) : List (Option String) :=
  (cutLines bytes.data.toList).map fun l => String.fromUTF8? ⟨l.toArray⟩

structure Result where
  code : UInt32
  stdout : String
  failure : Option Failure

def exitCode (failure : Option Failure) : UInt32 := if failure.isSome then 1 else 0

def Result.ofPrinted (out : List Printed) (failure : Option Failure) : Result :=
  ⟨exitCode failure, String.join (out.map Printed.text), failure⟩

/-- What a run comes to before it reads any input. -/
inductive Plan where
  | finished (result : Result)
  /-- A conversation, on this tree. -/
  | conversation (tree : Tree)

def Options.plan (options : Options) (readFile : String → Except String ByteArray) : Plan :=
  match loadTree options readFile with
  | .error e => .finished (.ofPrinted [] (some e))
  | .ok tree =>
    match options.complete, options.commands with
    | some buffer, _ =>
      .finished (.ofPrinted (printCompletion ((Shell.start tree).complete buffer)) none)
    | none, [] => .conversation tree
    | none, commands => .finished (.ofPrinted (runCommands tree commands) none)

def plan (arguments : List String) (readFile : String → Except String ByteArray) : Plan :=
  match Options.parse arguments with
  | .error .help => .finished ⟨0, helpText, none⟩
  | .error .version => .finished ⟨0, versionText, none⟩
  | .error .badUsage => .finished ⟨2, "", none⟩
  | .ok options => options.plan readFile

def Plan.result (input : ByteArray) : Plan → Result
  | .finished result => result
  | .conversation tree =>
    let (out, failure) := runInteractive tree (inputLines input)
    .ofPrinted out failure

def run (arguments : List String) (readFile : String → Except String ByteArray)
    (input : ByteArray) : Result := (plan arguments readFile).result input

def manifestPath? (arguments : List String) : Option String :=
  match Options.parse arguments with
  | .error _ => none
  | .ok options => options.manifest

end PocketDesk.CommandLine
