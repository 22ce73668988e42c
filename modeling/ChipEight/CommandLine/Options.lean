/-
# ChipEight.CommandLine.Options -- what a command line asks for

`Options.ofArguments` reads a command line from left to right. The first plain argument that is no
value of a setting is the program to load; a second one means nothing, like everything that looks
like a setting and is none. Such arguments are only complained about at the end, so a mistake in a
setting, or the wish for help, comes first wherever it stands. Arguments that could mean several
settings come before everything else.

If a setting is given twice, the later value counts. A number that is attached to its setting may
be written as the separator, and then nothing is left of it.

A command line that asks for help or is wrong is answered by how it is written: by the long form, or
by the short form with the mistake on the last line.
-/
import ChipEight.CommandLine.Setting
import ChipEight.Console.Basic
import ChipEight.Numeral.Literal
import ChipEight.Window.Loop

namespace ChipEight.CommandLine

open Text Numeral

/-- What a command line asks for. -/
structure Options where
  /-- The program to load. -/
  rom : Option Text
  /-- Instructions in a frame. -/
  speed : Amount
  /-- Frames in a second. -/
  fps : Amount
  /-- The side of a pixel in a window. -/
  scale : Amount
  /-- Where random bytes start. -/
  seed : Option Amount
  /-- Run without a window and print the screen. -/
  headless : Bool
  /-- Frames to run without a window. -/
  frames : Amount
  /-- Start the monitor. -/
  monitor : Bool
  /-- Print every instruction. -/
  trace : Bool
  /-- No tone. -/
  noSound : Bool
  /-- Print the program as instructions. -/
  disasm : Bool
  /-- The program text to assemble, and the file for the image. -/
  assemble : Option (Text × Text)
  /-- Print the listing of an assembled program. -/
  listing : Bool
  deriving DecidableEq, Repr

/-- The frames to run without a window if no number is chosen. -/
def defaultFrames : Int := 60

/-- Why a command line is not carried out. -/
inductive Refusal where
  /-- It asks for help. -/
  | help
  /-- It is wrong. -/
  | usage (error : UsageError)
  /-- The scale in the environment is no number. -/
  | scale (error : NumeralError)
  deriving DecidableEq, Repr

namespace Options

/-- What an empty command line asks for. -/
def plain (scale : Int) : Options where
  rom := none
  speed := .number defaultCyclesPerFrame
  fps := .number Window.defaultFramesPerSecond
  scale := .number scale
  seed := none
  headless := false
  frames := .number defaultFrames
  monitor := false
  trace := false
  noSound := false
  disasm := false
  assemble := none
  listing := false

/-! ## Single settings -/

/-- Sets a flag. Help is refused at once. -/
def setFlag (o : Options) : Flag → Except Refusal Options
  | .help => .error .help
  | .headless => .ok { o with headless := true }
  | .monitor => .ok { o with monitor := true }
  | .trace => .ok { o with trace := true }
  | .noSound => .ok { o with noSound := true }
  | .disasm => .ok { o with disasm := true }
  | .listing => .ok { o with listing := true }

/-- Sets flags one after another. -/
def setFlags (o : Options) : List Flag → Except Refusal Options
  | [] => .ok o
  | f :: fs => do
    let o ← o.setFlag f
    o.setFlags fs

/-- Sets a quantity. -/
def setQuantity (o : Options) (q : Quantity) (a : Amount) : Options :=
  match q with
  | .speed => { o with speed := a }
  | .fps => { o with fps := a }
  | .scale => { o with scale := a }
  | .seed => { o with seed := some a }
  | .frames => { o with frames := a }

/-- Reads the value of a quantity and sets it. -/
def readQuantity (o : Options) (q : Quantity) (value : Text) : Except Refusal Options :=
  if value = separator then .ok (o.setQuantity q .nothing)
  else
    match read 10 value with
    | .ok n => .ok (o.setQuantity q (.number n))
    | .error _ => .error (.usage (.notANumber (.quantity q) value))

/-- The flag of a letter, and the flags of the letters behind it. -/
def flagRun (f : Flag) : (letters : Text) → Except UsageError (List Flag)
  | [] => .ok [f]
  | c :: cs =>
    match flagOfLetter? c with
    | none => .error (.surplusValue (.flag f) (c :: cs))
    | some g => do
      let flags ← flagRun g cs
      .ok (f :: flags)

/-- The flags of an argument that names a flag. What is attached to a single letter, with or without
an equals sign, has to be more letters; nothing can be attached to a word, and an equals sign needs
something behind it. -/
def flagsOf (m : Mention) (f : Flag) : Except UsageError (List Flag) :=
  match m.attached with
  | none => .ok [f]
  | some letters =>
    if m.isShort && !letters.isEmpty then flagRun f letters
    else .error (.surplusValue (.flag f) letters)

/-- What came of an argument that mentions a setting. -/
structure Followed where
  /-- The options. -/
  options : Options
  /-- How many of the arguments behind it were used as values. -/
  used : Nat
  deriving DecidableEq, Repr

/-- Sets what an argument mentions. `behind` are the arguments behind it. -/
def follow (o : Options) (m : Mention) (behind : List Argument) : Except Refusal Followed :=
  match m.setting with
  | .flag f => do
    let flags ← (flagsOf m f).mapError Refusal.usage
    let o ← o.setFlags flags
    .ok ⟨o, 0⟩
  | .quantity q =>
    match m.attached, behind.takeWhile Argument.isPlain with
    | some value, _ => do
      let o ← o.readQuantity q value
      .ok ⟨o, 0⟩
    | none, a :: _ => do
      let o ← o.readQuantity q a.text
      .ok ⟨o, 1⟩
    | none, [] => .error (.usage (.missingValue m.setting))
  | .assemble =>
    match m.attached, behind.takeWhile Argument.isPlain with
    | none, source :: image :: _ =>
      .ok ⟨{ o with assemble := some (source.text, image.text) }, 2⟩
    | _, _ => .error (.usage (.missingValue m.setting))

/-! ## The whole line -/

/-- How far a command line is read. -/
structure Progress where
  /-- What it asks for so far. -/
  options : Options
  /-- The program to load has had its chance. -/
  romTaken : Bool
  /-- The arguments that mean nothing. -/
  strays : List Text
  deriving DecidableEq, Repr

namespace Progress

/-- An argument means nothing. -/
def stray (p : Progress) (t : Text) : Progress :=
  { p with strays := p.strays ++ [t] }

/-- A plain argument is the program to load, or means nothing if there was one before. -/
def takePlain (p : Progress) (t : Text) : Progress :=
  if p.romTaken then p.stray t
  else { p with options := { p.options with rom := some t }, romTaken := true }

/-- The arguments behind the last setting that the program to load is taken from: one plain
argument, with the separator on either side of it. -/
def romPart (arguments : List Argument) : List Argument × List Argument :=
  let (before, rest) := arguments.span Argument.isSeparator
  let (name, rest) := match rest with
    | a :: rest => if a.isPlain then ([a], rest) else ([], a :: rest)
    | [] => ([], [])
  let (behind, rest) := rest.span Argument.isSeparator
  (before ++ name ++ behind, rest)

/-- Reads the arguments behind the last setting. -/
def finish (p : Progress) (arguments : List Argument) : Progress :=
  if p.romTaken then { p with strays := p.strays ++ arguments.map Argument.text }
  else
    let (part, rest) := romPart arguments
    { options := { p.options with rom := ((part.map Argument.text).erase separator).head? }
      romTaken := true
      strays := p.strays ++ rest.map Argument.text }

/-- Reads arguments. -/
def consume (p : Progress) (arguments : List Argument) : Except Refusal Progress :=
  if !arguments.any Argument.isMarked then .ok (p.finish arguments)
  else
    match arguments with
    | [] => .ok p
    | a :: rest =>
      match a.role with
      | .separator | .unknown => (p.stray a.text).consume rest
      | .plain => (p.takePlain a.text).consume rest
      | .mention m =>
        match p.options.follow m rest with
        | .error e => .error e
        | .ok f => { p with options := f.options }.consume (rest.drop f.used)
termination_by arguments.length
decreasing_by
  all_goals
    simp only [List.length_cons, List.length_drop]
    omega

end Progress

/-- The scale that holds if the command line gives none. -/
def defaultScale (scaleVariable : Option Text) : Except Refusal Int :=
  match scaleVariable with
  | none => .ok Window.defaultScale
  | some t =>
    match read 10 t with
    | .ok n => .ok n
    | .error e => .error (.scale e)

/-- Reads a command line. The scale may also come from the environment. -/
def ofArguments (scaleVariable : Option Text) (texts : List Text) : Except Refusal Options := do
  let scale ← defaultScale scaleVariable
  let arguments ← (Argument.ofTexts texts).mapError Refusal.usage
  let p ← Progress.consume ⟨plain scale, false, []⟩ arguments
  if p.strays.isEmpty then .ok p.options
  else .error (.usage (.unrecognized p.strays))

end Options

/-! ## How the command line is written -/

/-- The short form. -/
def shortForm : List Text :=
  ["usage: chip8 [-h] [--speed N] [--fps FPS] [--scale N] [--seed SEED]".toList,
   "             [--headless] [--frames N] [--monitor] [--trace] [--no-sound]".toList,
   "             [--disasm] [--assemble SRC OUT] [--listing]".toList,
   "             [rom]".toList]

/-- The long form. -/
def longForm : List Text :=
  shortForm ++
  ["".toList,
   "CHIP-8 interpreter".toList,
   "".toList,
   "positional arguments:".toList,
   "  rom                 Program image to load at 0x200".toList,
   "".toList,
   "options:".toList,
   "  -h, --help          show this help message and exit".toList,
   "  --speed N           Instructions per frame (default: 10)".toList,
   "  --fps FPS           Frames per second (default: 60)".toList,
   "  --scale N           Pixel scale factor (default: 10, env CHIP8_SCALE)".toList,
   "  --seed SEED         Seed for the RND instruction".toList,
   "  --headless          Run without a window and print the screen".toList,
   "  --frames N          Frames to run in headless mode (default: 60)".toList,
   "  --monitor           Enter the debug monitor".toList,
   "  --trace             Print every executed instruction".toList,
   "  --no-sound          Disable the tone".toList,
   "  --disasm            Disassemble the ROM and exit".toList,
   "  --assemble SRC OUT  Assemble SRC to OUT and exit".toList,
   "  --listing, -l       Print assembly listing (with --assemble)".toList,
   "".toList,
   "Examples:".toList,
   "  chip8 roms/BLINKY".toList,
   "  chip8 roms/BLINKY --speed 20 --scale 12".toList,
   "  chip8 roms/IBM --headless --frames 120".toList,
   "  chip8 roms/PONG --monitor".toList,
   "  chip8 --assemble demo.asm demo.ch8 --listing".toList]

namespace Refusal

/-- The code that the program ends with. -/
def code : Refusal → Nat
  | .help => 0
  | .usage _ => 2
  | .scale _ => 1

/-- What is printed. -/
def output : Refusal → Text
  | .help => unlines longForm
  | .usage _ | .scale _ => []

/-- What is reported. -/
def report : Refusal → Text
  | .help => []
  | .usage e => unlines (shortForm ++ ["chip8: error: ".toList ++ e.message])
  | .scale e => unlines [e.message]

end Refusal

end ChipEight.CommandLine
