/-
# ChipEight.CommandLine.Run -- what the program does

`begin` carries out what the options ask for, in a directory:

* the assembler reads a program text and writes an image;
* a program that is named is loaded, and then shown as instructions, run without a window with its
  screen printed at the end, or handed to the monitor;
* there is no window to run in, so a program without any of these is only loaded.

The monitor is the one part that goes on reading, so `begin` stops in front of it. `run` is the
whole program with its input given as one text.

Mistakes of the program that runs are reported, and so are those of a program text. What breaks the
program off is a file of the assembler that is not read or written, an image without room, what
breaks off the monitor, and a quantity that is no number where a number is needed.
-/
import ChipEight.Assembly.Listing
import ChipEight.CommandLine.Options
import ChipEight.Monitor.Session
import ChipEight.Text.Utf8

namespace ChipEight.CommandLine

open Text Numeral

/-! ## Outcomes -/

/-- Why the program breaks off. -/
inductive Trouble where
  /-- A file is not read or written. -/
  | file (error : FileError)
  /-- The program text is no text. -/
  | encoding (error : Utf8Error)
  /-- The monitor broke off. -/
  | monitor (trouble : Monitor.Trouble)
  /-- A step refused for a reason that is no fault of the program. -/
  | step (reason : Stop)
  /-- There is no room for an image. -/
  | room (error : Assembly.RoomError)
  /-- The seed is no number. -/
  | noSeed
  /-- The number of frames is no number. -/
  | noCount
  deriving DecidableEq, Repr

/-- The words for the reason. -/
def Trouble.message : Trouble → Text
  | .file e => e.message
  | .encoding e => e.message
  | .monitor e => e.message
  | .step e => e.message
  | .room e => e.message
  | .noSeed =>
    "The only supported seed types are: None,\nint, float, str, bytes, and bytearray.".toList
  | .noCount => Stop.notANumber.message

/-- How the program ended. -/
inductive Ending where
  /-- It ended with a code. -/
  | exit (code : Nat)
  /-- It did not start. -/
  | refused (refusal : Refusal)
  /-- It broke off. -/
  | broken (trouble : Trouble)
  deriving DecidableEq, Repr

/-- The program after it ended. -/
structure Outcome where
  /-- How it ended. -/
  ending : Ending
  /-- What was printed. -/
  output : Text
  /-- What was reported. -/
  report : Text
  /-- The directory afterwards. -/
  directory : Directory
  deriving DecidableEq, Repr

/-- The program ends with code one and a line that says why. -/
def failed (d : Directory) (output line : Text) : Outcome where
  ending := .exit 1
  output := output
  report := unlines [line]
  directory := d

/-- The program ends well. -/
def succeeded (d : Directory) (output : Text) : Outcome where
  ending := .exit 0
  output := output
  report := []
  directory := d

/-- The program breaks off. -/
def brokenOff (d : Directory) (output : Text) (trouble : Trouble) : Outcome where
  ending := .broken trouble
  output := output
  report := []
  directory := d

/-! ## Assembling -/

/-- Assembles a program text into an image. -/
def assembleFile (d : Directory) (listing : Bool) (source image : Text) : Outcome :=
  match d.read source with
  | .error e => brokenOff d [] (.file e)
  | .ok bytes =>
    match decodeUtf8 bytes with
    | .error e => brokenOff d [] (.encoding e)
    | .ok text =>
      match Assembly.assembleAloud (unifyLines text) Memory.programBase listing [] with
      | (.error (.line e), rows) => failed d rows ("Assembly error: ".toList ++ e.message)
      | (.error (.room e), rows) => brokenOff d rows (.room e)
      | (.ok a, rows) =>
        match d.write image a.image with
        | .error e => brokenOff d rows (.file e)
        | .ok d =>
          succeeded d (rows ++ unlines ["Assembled ".toList ++ source ++ " → ".toList ++ image ++
            " (".toList ++ decimal a.image.length ++ " bytes)".toList])

/-! ## Running -/

/-- The name of the program to load. An empty name is none. -/
def Options.romName? (o : Options) : Option Text :=
  o.rom.filter fun name => !name.isEmpty

/-- A loaded program as instructions, two bytes a row. -/
def romRows (c : Console) : List Row :=
  Disassembly.ofMemory c.machine.memory Memory.programBase ((c.rom.length + 1) / 2 : Nat)

/-- A row of a loaded program. -/
def romLine (r : Row) : Text :=
  ' ' :: ' ' :: Disassembly.line r.address r.word

/-- Runs frames and prints the screen. -/
def runHeadless (d : Directory) (c : Console) (frames : Nat) (output : Text) : Outcome :=
  let (c, result) := Console.runFrames frames c
  let output := output ++ unlines c.recordLines
  match result with
  | .ok () => succeeded d (output ++ unlines [c.screen.pixels.text ['#'] ['.']])
  | .error e =>
    if e.isFaultOrHalt then
      { ending := .exit 2
        output := output
        report := unlines ["[chip8] fault: ".toList ++ e.message, c.registerReport]
        directory := d }
    else brokenOff d output (.step e)

/-- What is reported instead of a window. -/
def windowReport : Text :=
  unlines
    ["[display] pygame not available: No module named 'pygame'".toList,
     "[display] Install with: pip install pygame".toList]

/-- How far the program goes without reading its input. -/
inductive Begun where
  /-- To its end. -/
  | ended (outcome : Outcome)
  /-- To the monitor, with a console and what was printed so far. -/
  | monitor (console : Console) (output : Text)

/-- Goes on after the program was loaded, if there is one. -/
def beginLoaded (d : Directory) (o : Options) (c : Console) (output : Text) : Begun :=
  let isLoaded := o.romName?.isSome
  if o.disasm then
    if isLoaded then
      .ended (succeeded d (output ++ unlines ((romRows c).map romLine)))
    else .ended (failed d output "[chip8] --disasm needs a ROM".toList)
  else
    let c := c.traced o.trace
    if o.monitor then .monitor c (output ++ Monitor.introduction)
    else if !isLoaded then .ended (failed d output "[chip8] no ROM given (see --help)".toList)
    else if o.headless then
      match o.frames with
      | .number frames => .ended (runHeadless d c frames.toNat output)
      | .nothing => .ended (brokenOff d output .noCount)
    else .ended { ending := .exit 1, output := output, report := windowReport, directory := d }

/-- Loads the program, if there is one, and goes on. -/
def beginConsole (d : Directory) (o : Options) (c : Console) : Begun :=
  match o.romName? with
  | none => beginLoaded d o c []
  | some name =>
    match c.loadFile d name with
    | .error e =>
      .ended (failed d []
        ("[chip8] cannot load '".toList ++ name ++ "': ".toList ++ e.message))
    | .ok c =>
      beginLoaded d o c (unlines ["[chip8] loaded ".toList ++ decimal c.rom.length ++
        " bytes from '".toList ++ name ++ "'".toList])

/-- Does what the options ask for. -/
def begin (d : Directory) (random : RandomBytes) (o : Options) : Begun :=
  match o.assemble, o.seed with
  | some (source, image), _ => .ended (assembleFile d o.listing source image)
  | none, some .nothing => .ended (brokenOff d [] .noSeed)
  | none, _ => beginConsole d o (Console.standard random o.speed)

/-- The lines of an input. A line feed at its end starts no further line. -/
def inputLines (input : Text) : List Text :=
  match (splitOn '\n' input).reverse with
  | [] :: lines => lines.reverse
  | lines => lines.reverse

/-- The end of a session with the monitor. -/
def endMonitor (d : Directory) (output : Text) (r : Monitor.Reply) : Outcome :=
  match r.standing with
  | .ongoing | .left => succeeded d (output ++ r.output)
  | .broken t => brokenOff d (output ++ r.output) (.monitor t)

/-- The whole program. -/
def run (d : Directory) (random : RandomBytes) (scaleVariable : Option Text)
    (arguments : List Text) (input : Text) : Outcome :=
  match Options.ofArguments scaleVariable arguments with
  | .error e => { ending := .refused e, output := e.output, report := e.report, directory := d }
  | .ok o =>
    match begin d random o with
    | .ended outcome => outcome
    | .monitor c output => endMonitor d output (Monitor.converse d c (inputLines input))

end ChipEight.CommandLine
