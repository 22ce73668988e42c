/-
# ChipEight.CommandLine.Setting -- the settings of the command line

A setting is a flag, a number, or the pair of files of the assembler. `spellings` lists how settings
are written; some can be written in two ways.

A long spelling may be cut short as long as it stays the beginning of one spelling only. More may be
attached to a setting in the same argument: behind an equals sign, or right behind the letter of a
single dash.

`role` says what a single argument can be, before its neighbours are known: a setting, a
plain argument, something that looks like a setting but is none, or the separator behind which all
arguments are plain. An argument that looks like a negative number is plain, and so is one with a
blank in it.
-/
import ChipEight.Text.Characters
import ChipEight.Text.Quoted

namespace ChipEight.CommandLine

open Text

/-! ## Settings -/

/-- The settings without a value. -/
inductive Flag where
  | help
  | headless
  | monitor
  | trace
  | noSound
  | disasm
  | listing
  deriving DecidableEq, Repr

/-- The settings whose value is a number. -/
inductive Quantity where
  | speed
  | fps
  | scale
  | seed
  | frames
  deriving DecidableEq, Repr

/-- The settings. -/
inductive Setting where
  | flag (flag : Flag)
  | quantity (quantity : Quantity)
  /-- The program text to assemble, and the file for the image. -/
  | assemble
  deriving DecidableEq, Repr

/-- How settings are written. -/
def spellings : List (Text × Setting) :=
  [("-h".toList, .flag .help), ("--help".toList, .flag .help),
   ("--speed".toList, .quantity .speed), ("--fps".toList, .quantity .fps),
   ("--scale".toList, .quantity .scale), ("--seed".toList, .quantity .seed),
   ("--headless".toList, .flag .headless), ("--frames".toList, .quantity .frames),
   ("--monitor".toList, .flag .monitor), ("--trace".toList, .flag .trace),
   ("--no-sound".toList, .flag .noSound), ("--disasm".toList, .flag .disasm),
   ("--assemble".toList, .assemble), ("--listing".toList, .flag .listing),
   ("-l".toList, .flag .listing)]

/-- The name of a setting in messages: all its spellings. -/
def Setting.label (s : Setting) : Text :=
  joinWith ['/'] ((spellings.filter fun entry => entry.2 = s).map Prod.fst)

/-- The flag that a letter behind a single dash stands for. -/
def flagOfLetter? (c : Char) : Option Flag :=
  match spellings.lookup ['-', c] with
  | some (.flag f) => some f
  | _ => none

/-! ## Mistakes -/

/-- Why a command line is refused. -/
inductive UsageError where
  /-- The argument is the beginning of several spellings. -/
  | ambiguous (argument : Text) (candidates : List Text)
  /-- The setting lacks a value. -/
  | missingValue (setting : Setting)
  /-- The setting has a value and takes none. -/
  | surplusValue (setting : Setting) (value : Text)
  /-- The value is no number. -/
  | notANumber (setting : Setting) (value : Text)
  /-- There are arguments that mean nothing. -/
  | unrecognized (arguments : List Text)
  deriving DecidableEq, Repr

namespace UsageError

/-- The words about one setting. -/
def about (s : Setting) (words : Text) : Text :=
  "argument ".toList ++ s.label ++ ": ".toList ++ words

/-- The words for the mistake. -/
def message : UsageError → Text
  | .ambiguous argument candidates =>
    "ambiguous option: ".toList ++ argument ++ " could match ".toList ++
      joinWith ", ".toList candidates
  | .missingValue .assemble => about .assemble "expected 2 arguments".toList
  | .missingValue s => about s "expected one argument".toList
  | .surplusValue s value => about s ("ignored explicit argument ".toList ++ quoted value)
  | .notANumber s value => about s ("invalid int value: ".toList ++ quoted value)
  | .unrecognized arguments => "unrecognized arguments: ".toList ++ joinWith [' '] arguments

end UsageError

/-! ## Single arguments -/

/-- A setting as it is written in an argument. -/
structure Mention where
  /-- The spelling in full. -/
  spelling : Text
  /-- The setting. -/
  setting : Setting
  /-- What is attached to it. -/
  attached : Option Text
  deriving DecidableEq, Repr

/-- The spelling has a single dash and a letter. -/
def Mention.isShort (m : Mention) : Bool :=
  m.spelling.length == 2

/-- What an argument can be. -/
inductive Role where
  /-- It separates settings from plain arguments. -/
  | separator
  /-- It is a name or a value. -/
  | plain
  /-- It is a setting. -/
  | mention (mention : Mention)
  /-- It looks like a setting and is none. -/
  | unknown
  deriving DecidableEq, Repr

/-- The separator. -/
def separator : Text := ['-', '-']

/-- The argument names a setting in full, perhaps with a value behind an equals sign. -/
def exactMention? (argument : Text) : Option Mention :=
  match spellings.lookup argument with
  | some s => some ⟨argument, s, none⟩
  | none =>
    match cut '=' argument with
    | (_, none) => none
    | (name, some value) => (spellings.lookup name).map fun s => ⟨name, s, some value⟩

/-- The settings that an argument with a dash in front can mean if it names none in full. -/
def looseMentions (argument : Text) : List Mention :=
  if separator.isPrefixOf argument then
    let (name, value?) := cut '=' argument
    spellings.filterMap fun (spelling, s) =>
      if name.isPrefixOf spelling then some ⟨spelling, s, value?⟩ else none
  else
    spellings.filterMap fun (spelling, s) =>
      if spelling = argument.take 2 then some ⟨spelling, s, some (argument.drop 2)⟩
      else if argument.isPrefixOf spelling then some ⟨spelling, s, none⟩
      else none

/-- A digit of any script. -/
def isDigit (c : Char) : Bool :=
  (digitValue? c).isSome

/-- The argument is written like a negative number, with or without a fraction. One line feed at its
end does not count. -/
def isNegativeNumber : Text → Bool
  | '-' :: rest =>
    let number := if rest.getLast? = some '\n' then rest.dropLast else rest
    match number.dropWhile isDigit with
    | [] => !number.isEmpty
    | '.' :: fraction => !fraction.isEmpty && fraction.all isDigit
    | _ => false
  | _ => false

/-- What an argument in front of the separator can be. -/
def role (argument : Text) : Except UsageError Role :=
  if argument = separator then .ok .separator
  else if argument.head? ≠ some '-' then .ok .plain
  else
    match exactMention? argument with
    | some m => .ok (.mention m)
    | none =>
      if argument.length = 1 then .ok .plain
      else
        match looseMentions argument with
        | m :: n :: ms => .error (.ambiguous argument ((m :: n :: ms).map Mention.spelling))
        | [m] => .ok (.mention m)
        | [] =>
          if isNegativeNumber argument || argument.contains ' ' then .ok .plain
          else .ok .unknown

/-- An argument and its role. -/
structure Argument where
  /-- The argument. -/
  text : Text
  /-- What it is. -/
  role : Role
  deriving DecidableEq, Repr

namespace Argument

/-- The argument is a name or a value. -/
def isPlain (a : Argument) : Bool :=
  a.role = .plain

/-- The argument is the separator. -/
def isSeparator (a : Argument) : Bool :=
  a.role = .separator

/-- The argument is a setting or looks like one. -/
def isMarked (a : Argument) : Bool :=
  !a.isPlain && !a.isSeparator

/-- The arguments with their roles. All of them behind the separator are plain. -/
def ofTexts : List Text → Except UsageError (List Argument)
  | [] => .ok []
  | t :: ts => do
    let r ← CommandLine.role t
    if r = .separator then .ok (⟨t, r⟩ :: ts.map fun u => ⟨u, .plain⟩)
    else
      let rest ← ofTexts ts
      .ok (⟨t, r⟩ :: rest)

end Argument

end ChipEight.CommandLine
