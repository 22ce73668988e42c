/-
# ChipEight.Monitor.Session -- the monitor answers a line

`answer` reads one line, does what it asks for, and says what is printed and whether the session
goes on. Most mistakes in a line are answered with a message. Four are not, and end the session: an
open quotation behind `load`, a count behind `step` or `run` that is no number, a number of frames
that is too long to be printed, and frames at a speed that is no number.

A console comes to the monitor without recorded instructions and leaves it without: what is recorded
while a line is answered is printed as part of the answer, in front of everything else.

`converse` answers lines one after another until one of them ends the session; behind the last line
comes the end of the input, which ends it in any case.

A hex dump shows a stretch of memory in rows. A row has the address of its first byte, the bytes in
hexadecimal, and the same bytes as characters, with a dot for each one that is not printable ASCII.
All rows have sixteen bytes, except that the last one has what is left. Addresses wrap at the end of
memory.
-/
import ChipEight.Console.Assembled
import ChipEight.Console.Frame
import ChipEight.Console.Report
import ChipEight.Console.Reset
import ChipEight.Monitor.Command
import ChipEight.Numeral.Literal
import ChipEight.Text.LowerCase
import ChipEight.Text.ShellWords

namespace ChipEight.Monitor

open Text Numeral

/-! ## Hex dumps -/

/-- One row of a hex dump. -/
structure DumpRow where
  /-- Where the first byte stands. -/
  address : Int
  /-- The bytes. -/
  bytes : List UInt8
  deriving DecidableEq, Repr

/-- The bytes in a full row. -/
def rowLength : Nat := 16

namespace DumpRow

/-- The bytes in hexadecimal with blanks between. -/
def hexColumn (r : DumpRow) : Text :=
  joinWith [' '] (r.bytes.map fun b => upperHex 2 b.toNat)

/-- A byte as a character. -/
def character (b : UInt8) : Char :=
  if 0x20 ≤ b.toNat ∧ b.toNat < 0x7F then Char.ofNat b.toNat else '.'

/-- The bytes as characters. -/
def textColumn (r : DumpRow) : Text :=
  r.bytes.map character

/-- The row as a line. -/
def line (r : DumpRow) : Text :=
  "  ".toList ++ upperHex 3 r.address ++ ": ".toList ++ padRight 47 r.hexColumn ++ "  ".toList ++
    r.textColumn

end DumpRow

/-- The rows that show `count` bytes from an address on. -/
def dumpRows (m : Memory) (address : Int) (count : Nat) : List DumpRow :=
  (List.range ((count + (rowLength - 1)) / rowLength)).map fun j : Nat =>
    let start := (address + (rowLength * j : Nat)) % Memory.size
    ⟨start, m.slice start (min rowLength (count - rowLength * j))⟩

/-! ## Answers -/

/-- Why a session breaks off. -/
inductive Trouble where
  /-- The file to load is quoted badly. -/
  | words (error : ShellError)
  /-- A count is no number, or cannot be printed. -/
  | number (error : NumeralError)
  /-- A step refused for a reason that is no fault of the program. -/
  | step (reason : Stop)
  deriving DecidableEq, Repr

/-- The words for the reason. -/
def Trouble.message : Trouble → Text
  | .words e => e.message
  | .number e => e.message
  | .step e => e.message

/-- How a session stands after an answer. -/
inductive Standing where
  /-- It goes on. -/
  | ongoing
  /-- It was left. -/
  | left
  /-- It broke off. -/
  | broken (trouble : Trouble)
  deriving DecidableEq, Repr

/-- The answer to a line. -/
structure Reply where
  /-- The console afterwards. -/
  console : Console
  /-- What is printed. -/
  output : Text
  /-- How the session stands. -/
  standing : Standing

/-- Prints lines and goes on. -/
def say (c : Console) (lines : List Text) : Reply where
  console := c
  output := unlines lines
  standing := .ongoing

/-- Prints nothing and breaks off. -/
def breakOff (c : Console) (trouble : Trouble) : Reply where
  console := c
  output := []
  standing := .broken trouble

/-! ## Arguments -/

/-- An address: a number, or one of the two registers that hold one, by name. -/
def address (c : Console) (word : Text) : Except NumeralError Int :=
  let word := lower word
  if word = ['p', 'c'] then .ok c.machine.pc.toNat
  else if word = ['i'] then .ok c.machine.index.toNat
  else read 0 word

/-- A count, or the default if the argument is empty. -/
def countOr (default : Int) (argument : Text) : Except NumeralError Int :=
  if argument.isEmpty then .ok default else read 0 argument

/-- A stretch of memory: an address, or the default if there is none, and a count, or the default.
Words behind these two do not count. -/
def stretch (c : Console) (defaultAddress defaultCount : Int) :
    List Text → Except NumeralError (Int × Int)
  | [] => .ok (defaultAddress, defaultCount)
  | [first] => do
    let a ← address c first
    .ok (a, defaultCount)
  | first :: second :: _ => do
    let a ← address c first
    let n ← read 0 second
    .ok (a, n)

/-! ## Stepping -/

/-- Why stepping came to its end. -/
inductive StepEnd where
  /-- All steps were made. -/
  | done
  /-- The machine waits for a key. -/
  | waiting
  /-- A step refused. -/
  | refused (reason : Stop)
  deriving DecidableEq, Repr

/-- Several steps. -/
structure Stepped where
  /-- The console afterwards. -/
  console : Console
  /-- The instructions that were completed, oldest first. -/
  completed : List Fetch
  /-- Why there are no more. -/
  ending : StepEnd

/-- Makes up to so many steps. -/
def stepMany : Nat → Console → Stepped
  | 0, c => ⟨c, [], .done⟩
  | n + 1, c =>
    match c.step with
    | (d, .ok true) =>
      let rest := stepMany n d
      { rest with completed := ⟨c.machine.pc, c.nextWord⟩ :: rest.completed }
    | (d, .ok false) => ⟨d, [], .waiting⟩
    | (d, .error e) => ⟨d, [], .refused e⟩

/-- The fault that halted the console, if one did. -/
def haltedBy (c : Console) : Text :=
  match c.fault with
  | some f => f.message
  | none => "None".toList

/-- Makes steps and prints them. A console that prints its own record needs no other lines. -/
def stepReply (c : Console) (count : Int) : Reply :=
  let s := stepMany count.toNat c
  let lines := if c.tracing then s.console.recordLines else s.completed.map Fetch.line
  let c := s.console.withoutRecord
  match s.ending with
  | .done => say c lines
  | .waiting => say c (lines ++ ["CPU is waiting for a key ('press <k>').".toList])
  | .refused .halted => say c (lines ++ ["CPU is halted: ".toList ++ haltedBy c])
  | .refused (.fault f) => say c (lines ++ ["Fault: ".toList ++ f.message])
  | .refused e => ⟨c, unlines lines, .broken (.step e)⟩

/-! ## Running -/

/-- What is printed when all frames have run. -/
def ranMessage (c : Console) (count : Text) : Text :=
  "Ran ".toList ++ count ++ " frames.  PC=".toList ++ hex 5 c.machine.pc.toNat ++
    (if c.machine.paused then "  (waiting for key)".toList else [])

/-- Runs frames. A negative count is none. -/
def runReply (c : Console) (count : Int) : Reply :=
  let (d, result) := Console.runFrames count.toNat c
  let lines := d.recordLines
  let d := d.withoutRecord
  match result with
  | .ok () =>
    match written count with
    | .ok digits => say d (lines ++ [ranMessage d digits])
    | .error e => ⟨d, unlines lines, .broken (.number e)⟩
  | .error e =>
    if e.isFaultOrHalt then say d (lines ++ ["Fault: ".toList ++ e.message])
    else ⟨d, unlines lines, .broken (.step e)⟩

/-! ## Looking into memory -/

/-- What is printed for a number that cannot be read. -/
def numberMessage (e : NumeralError) : Text :=
  "Error: ".toList ++ e.message

/-- A hex dump. -/
def dumpReply (c : Console) (words : List Text) : Reply :=
  if words.isEmpty then say c ["Usage: dump <addr> [length]".toList]
  else
    match stretch c 0 64 words with
    | .error e => say c [numberMessage e]
    | .ok (a, n) => say c ((dumpRows c.machine.memory a n.toNat).map DumpRow.line)

/-- A row of a disassembly. The row at the program counter is marked. -/
def disasmLine (c : Console) (r : Row) : Text :=
  ' ' :: (if r.address = c.machine.pc.toNat then '>' else ' ') ::
    Disassembly.line r.address r.word

/-- A disassembly, from the program counter on if there is no address. -/
def disasmReply (c : Console) (words : List Text) : Reply :=
  match stretch c c.machine.pc.toNat 10 words with
  | .error e => say c [numberMessage e]
  | .ok (a, n) => say c ((Disassembly.ofMemory c.machine.memory a n).map (disasmLine c))

/-! ## Other commands -/

/-- Loads the program in a file. -/
def loadReply (d : Directory) (c : Console) (argument : Text) : Reply :=
  match shellWords argument with
  | .error e => breakOff c (.words e)
  | .ok [] => say c ["Usage: load <file>".toList]
  | .ok (name :: _) =>
    match c.loadFile d name with
    | .error e => say c ["Error: ".toList ++ e.message]
    | .ok loaded =>
      say loaded ["Loaded ".toList ++ decimal loaded.rom.length ++ " bytes from '".toList ++ name ++
        "' at ".toList ++ hex 0 Memory.programBase]

/-- Moves a key, which is given by a hexadecimal number. -/
def keyReply (c : Console) (move : Console → Int → Console) (argument usage : Text) : Reply :=
  match read 16 argument with
  | .ok k => say (move c k) []
  | .error _ => say c [usage]

/-- The words that turn tracing on; all others turn it off. -/
def onWords : List Text :=
  ["on".toList, "1".toList, "yes".toList]

/-- Turns tracing on or off. -/
def traceReply (c : Console) (argument : Text) : Reply :=
  if onWords.contains (lower argument) then say (c.traced true) ["Trace on.".toList]
  else say (c.traced false) ["Trace off.".toList]

/-- Leaves the session. -/
def leave (c : Console) (line : Text) : Reply where
  console := c
  output := unlines [line]
  standing := .left

/-! ## Lines -/

/-- Does what a command asks for. -/
def obey (d : Directory) (c : Console) (command : Command) (argument : Text) : Reply :=
  match command with
  | .endOfInput => leave c []
  | .quit => leave c "Goodbye.".toList
  | .help => ⟨c, helpOn argument, .ongoing⟩
  | .load => loadReply d c argument
  | .reset => say c.reset ["System reset.".toList]
  | .step =>
    match countOr 1 argument with
    | .ok n => stepReply c n
    | .error e => breakOff c (.number e)
  | .run =>
    match countOr 60 argument with
    | .ok n => runReply c n
    | .error e => breakOff c (.number e)
  | .regs => say c [c.registerReport]
  | .status => say c [c.stateReport]
  | .screen => say c [c.screen.pixels.text ['#'] ['.']]
  | .dump => dumpReply c (words argument)
  | .disasm => disasmReply c (words argument)
  | .press => keyReply c Console.pressKey argument "Usage: press <0-F>".toList
  | .release => keyReply c Console.releaseKey argument "Usage: release <0-F>".toList
  | .trace => traceReply c argument

/-- Answers a line. -/
def answer (d : Directory) (c : Console) (line : Text) : Reply :=
  match Request.ofLine line with
  | .nothing => say c []
  | .unknown word => say c ["Unknown command: ".toList ++ word ++ "  (type 'help')".toList]
  | .command command argument => obey d c command argument

/-! ## Sessions -/

/-- What a session starts with. -/
def introduction : Text :=
  unlines
    [[],
     "╔══════════════════════════════════════════════════════════╗".toList,
     "║              CHIP-8 Monitor  v1.0                        ║".toList,
     "║   Type 'help' for commands.  'quit' to exit.             ║".toList,
     "╚══════════════════════════════════════════════════════════╝".toList,
     []]

/-- What is printed before a line is read. -/
def prompt : Text := "C8> ".toList

/-- The line that stands for the end of the input. -/
def lastLine : Text := "EOF".toList

/-- Answers lines until one of them ends the session. -/
def converse (d : Directory) (c : Console) : List Text → Reply
  | [] =>
    let reply := answer d c lastLine
    { reply with output := prompt ++ reply.output }
  | line :: lines =>
    let reply := answer d c line
    match reply.standing with
    | .ongoing =>
      let rest := converse d reply.console lines
      { rest with output := prompt ++ reply.output ++ rest.output }
    | .left | .broken _ => { reply with output := prompt ++ reply.output }

end ChipEight.Monitor
