/-
# ChipEight.Main -- the program

The outer layer: arguments, environment, files and standard streams. Everything that is decided is
decided by `CommandLine` and `Monitor`; here it is only read and printed.

A directory is looked at through the names that are asked for: `lookAt` tells what there is of one
name and of the directories on the way to it.
-/
import ChipEight.CommandLine.Run

namespace ChipEight.Program

open Text CommandLine

/-! ## Files -/

/-- A path as the operating system takes it. -/
def systemName (path : Path) : String :=
  String.ofList (if path == Directory.root then ['/'] else joinWith ['/'] path)

/-- The bytes of a file, or nothing of a directory; no answer if there is neither. -/
def bytesOf? (name : String) : IO (Option (Option ByteArray)) := do
  try
    return some (some (← IO.FS.readBinFile name))
  catch
    | .inappropriateType _ 21 _ => return some none
    | _ => return none

/-- What there is of one path. -/
def lookAtPath (path : Path) : IO Directory := do
  match ← bytesOf? (systemName path) with
  | none => return ⟨[], []⟩
  | some none => return ⟨[], [path]⟩
  | some (some bytes) => return ⟨[(path, bytes.toList)], []⟩

/-- What there is of one name, and of the directories on the way to it. -/
def lookAt (name : Text) : IO Directory := do
  let path := Directory.pathOf name
  let looks ← (List.range path.length).mapM fun k => lookAtPath (path.take (k + 1))
  return ⟨looks.flatMap Directory.files, looks.flatMap Directory.directories⟩

/-- What there is of several names. -/
def lookAtAll (names : List Text) : IO Directory := do
  let looks ← names.mapM lookAt
  return ⟨looks.flatMap Directory.files, looks.flatMap Directory.directories⟩

/-- The files that the options name. -/
def namesOf (o : Options) : List Text :=
  o.romName?.toList ++ match o.assemble with
    | some (source, image) => [source, image]
    | none => []

/-! ## Printing -/

/-- Prints text. -/
def put (t : Text) : IO Unit := do
  let out ← IO.getStdout
  out.putStr (String.ofList t)
  out.flush

/-- Prints what there is to print, writes what was changed, and answers the code. -/
def finish (before : Directory) (o : Outcome) : IO UInt32 := do
  put o.output
  IO.eprint (String.ofList o.report)
  for (path, bytes) in before.changes o.directory do
    IO.FS.writeBinFile (systemName path) ⟨bytes.toArray⟩
  match o.ending with
  | .exit code => return UInt32.ofNat code
  | .refused r => return UInt32.ofNat r.code
  | .broken t =>
    IO.eprintln (String.ofList t.message)
    return 1

/-! ## The monitor -/

/-- The files that a line for the monitor names. -/
def namesOfLine (line : Text) : List Text :=
  match Monitor.Request.ofLine line with
  | .command .load argument =>
    match shellWords argument with
    | .ok words => words.take 1
    | .error _ => []
  | _ => []

/-- The next line, or the line that stands for the end of the input. -/
def nextLine : IO Text := do
  let line ← (← IO.getStdin).getLine
  if line.isEmpty then return Monitor.lastLine
  return line.toList.takeWhile (· ≠ '\n')

/-- Answers lines until the session ends. -/
partial def converse (c : Console) : IO UInt32 := do
  put Monitor.prompt
  let line ← nextLine
  let d ← lookAtAll (namesOfLine line)
  let reply := Monitor.answer d c line
  put reply.output
  match reply.standing with
  | .ongoing => converse reply.console
  | .left => return 0
  | .broken t =>
    IO.eprintln (String.ofList t.message)
    return 1

/-! ## Start -/

/-- Random bytes, from the seed if there is one. -/
def randomBytes (seed : Option Int) : IO RandomBytes :=
  match seed with
  | some n => return RandomBytes.seeded n
  | none => return RandomBytes.ofArray (← IO.getRandomBytes 4096).data

/-- Carries out a command line. -/
def start (arguments : List String) : IO UInt32 := do
  let scale ← IO.getEnv "CHIP8_SCALE"
  match Options.ofArguments (scale.map String.toList) (arguments.map String.toList) with
  | .error r =>
    finish ⟨[], []⟩ ⟨.refused r, r.output, r.report, ⟨[], []⟩⟩
  | .ok o =>
    let d ← lookAtAll (namesOf o)
    match CommandLine.begin d (← randomBytes (o.seed.bind Amount.number?)) o with
    | .ended outcome => finish d outcome
    | .monitor c output =>
      put output
      converse c

end ChipEight.Program

/-- The program. -/
def main (arguments : List String) : IO UInt32 :=
  ChipEight.Program.start arguments
