/-
# ChipEight.Monitor.Command -- what can be asked of the monitor

A line for the monitor is a command word with an argument behind it. The word is the longest run of
ASCII letters, ASCII digits and underscores at the front of the line, so nothing has to separate it
from its argument; blanks around the line and around the argument do not count. A question mark in
front stands for the word `help`.

`vocabulary` holds the words, in the order of their letters. A request is a line that was read: a
command with its argument, a line that is blank, or a line that starts with no known word.

The second half of the module is the help that `help` gives: one line for each command, and an
overview of all of them.
-/
import ChipEight.Text.Characters

namespace ChipEight.Monitor

open Text

/-- The commands. -/
inductive Command where
  | endOfInput
  | disasm
  | dump
  | help
  | load
  | press
  | quit
  | regs
  | release
  | reset
  | run
  | screen
  | status
  | step
  | trace
  deriving DecidableEq, Repr

/-- The command words. -/
def vocabulary : List (Text × Command) :=
  [("EOF".toList, .endOfInput), ("disasm".toList, .disasm), ("dump".toList, .dump),
   ("help".toList, .help), ("load".toList, .load), ("press".toList, .press), ("q".toList, .quit),
   ("quit".toList, .quit), ("regs".toList, .regs), ("release".toList, .release),
   ("reset".toList, .reset), ("run".toList, .run), ("screen".toList, .screen),
   ("status".toList, .status), ("step".toList, .step), ("trace".toList, .trace)]

/-- The command that a word names. -/
def commandNamed? (word : Text) : Option Command :=
  vocabulary.lookup word

/-! ## Lines -/

/-- A line that was read. -/
inductive Request where
  /-- A blank line. -/
  | nothing
  /-- A line without a command word, of which the first word is kept. -/
  | unknown (word : Text)
  /-- A command with its argument. -/
  | command (command : Command) (argument : Text)
  deriving DecidableEq, Repr

/-- A character of a command word. -/
def isWordCharacter (c : Char) : Bool :=
  c.isAlphanum || c == '_'

/-- The line with the question mark spelled out. -/
def spellOut : Text → Text
  | '?' :: rest => "help ".toList ++ rest
  | line => line

/-- Reads a line. -/
def Request.ofLine (line : Text) : Request :=
  let line := spellOut (trim line)
  match firstWord? line with
  | none => .nothing
  | some (first, _) =>
    match commandNamed? (line.takeWhile isWordCharacter) with
    | some c => .command c (trim (line.dropWhile isWordCharacter))
    | none => .unknown first

/-! ## Help -/

/-- What a command does, and how it is written. The end of input is not a command to be typed and
has no line. -/
def Command.summary? : Command → Option Text
  | .endOfInput => none
  | .disasm => some "Disassemble: disasm [addr] [count]".toList
  | .dump => some "Hex dump memory: dump <addr> [length]".toList
  | .help =>
    some "List available commands with \"help\" or detailed help with \"help cmd\".".toList
  | .load => some "Load a ROM file at 0x200: load <file>".toList
  | .press => some "Press a logical key (0-F): press <k>".toList
  | .quit => some "Exit the monitor.".toList
  | .regs => some "Show registers, timers and stack.".toList
  | .release => some "Release a logical key (0-F): release <k>".toList
  | .reset => some "Reset the machine and reload the current ROM.".toList
  | .run => some "Run N frames (default 60): run [frames]".toList
  | .screen => some "Print the display as text.".toList
  | .status => some "Show system status.".toList
  | .step => some "Step N instructions: step [count]".toList
  | .trace => some "Toggle instruction tracing: trace on|off".toList

/-- The words with a summary, or those without. -/
def wordsSummarised (summarised : Bool) : List Text :=
  (vocabulary.filter fun entry => entry.2.summary?.isSome == summarised).map Prod.fst

/-- The texts in columns of two. Each column is as wide as its widest text, and two blanks stand
between columns; the first text of each column is on the first line. -/
def twoLines (texts : List Text) : Text × Text :=
  match texts with
  | [] => ([], [])
  | [t] => (t, [])
  | t :: u :: rest =>
    let width := max t.length u.length
    let gap := fun line : Text => if line.isEmpty then [] else ' ' :: ' ' :: line
    let (upper, lower) := twoLines rest
    (padRight width t ++ gap upper, padRight width u ++ gap lower)

/-- A heading, underlined. -/
def heading (title : Text) : List Text :=
  [title, List.replicate title.length '=']

/-- The commands that can be asked about, and those that cannot. -/
def overview : Text :=
  let (upper, lower) := twoLines (wordsSummarised true)
  unlines <|
    [[]] ++ heading "Documented commands (type help <topic>):".toList ++ [upper, lower, []] ++
    heading "Undocumented commands:".toList ++ wordsSummarised false ++ [[]]

/-- Help on a topic; without a topic, the overview. -/
def helpOn (topic : Text) : Text :=
  if topic.isEmpty then overview
  else
    match (commandNamed? topic).bind Command.summary? with
    | some summary => unlines [summary]
    | none => unlines ["*** No help on ".toList ++ topic]

end ChipEight.Monitor
