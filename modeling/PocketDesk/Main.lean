import PocketDesk.CommandLine.Run

/-! The program on the command line. All that a run does is decided by
`PocketDesk.CommandLine`; here its files are read, and its output is written as it comes. -/

open PocketDesk PocketDesk.CommandLine

/-- What the system says of a file that cannot be read. -/
def problemText (e : IO.Error) : String :=
  match e with
  | .noFileOrDirectory .. => "No such file or directory (os error 2)"
  | .permissionDenied .. => "Permission denied (os error 13)"
  | .inappropriateType .. => "Is a directory (os error 21)"
  | e => toString e

def printAll (out : List Printed) : IO Unit := do
  let stdout ← IO.getStdout
  for piece in out do
    stdout.putStr piece.text
  stdout.flush

def complain (failure : Option Failure) : IO Unit := do
  match failure with
  | none => pure ()
  | some f => IO.eprintln ("gelos-cli: " ++ f.message)

/-- A line of bytes up to its line feed, behind what of it has been read. -/
partial def readBytes (input : IO.FS.Stream) (line : ByteArray) : IO ByteArray := do
  let byte ← input.read 1
  if byte.isEmpty then return line
  else if byte.data.back? = some 10 then return line ++ byte
  else readBytes input (line ++ byte)

def readLine (input : IO.FS.Stream) : IO Reading := do
  match ← (readBytes input .empty).toBaseIO with
  | .error e => return .failed (problemText e)
  | .ok bytes => return if bytes.isEmpty then .ended else .ofLine (String.fromUTF8? bytes)

/-- The turns of a conversation, each with the line that is read for it. -/
partial def converse (s : CommandLine.State) (input : IO.FS.Stream) : IO (Option Failure) := do
  printAll [.prompt s.shell.prompt]
  let (out, course) := s.take (← readLine input)
  printAll out
  match course with
  | .over failure => return failure
  | .next s => converse s input

def readFileBytes (path : String) : IO (Except String ByteArray) := do
  match ← (IO.FS.readBinFile path).toBaseIO with
  | .ok bytes => return .ok bytes
  | .error e => return .error (problemText e)

def main (arguments : List String) : IO UInt32 := do
  let file ←
    match manifestPath? arguments with
    | some path => readFileBytes path
    | none => pure (.error "")
  match plan arguments fun _ => file with
  | .finished result =>
    IO.print result.stdout
    complain result.failure
    return result.code
  | .conversation tree =>
    let (greeting, s) := (CommandLine.State.start tree).report
    printAll greeting
    let failure ← converse s (← IO.getStdin)
    complain failure
    return exitCode failure
