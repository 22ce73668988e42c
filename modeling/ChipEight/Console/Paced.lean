/-
# ChipEight.Console.Paced -- frames in step with a clock

Frames are run at a rate by waiting between them. After each frame the time of the next one is moved
on by one interval; if that time is still to come, the console sleeps until then, and otherwise it
goes on at once and counts from now, so that lost time is not made up for.

The clock is a list of readings: each reading is used once, except that the last one is used for
ever, and a clock without readings stands at zero. A reading that is out of the range of
floating-point numbers ends the run when the clock is read. Before each frame the stop signal is
asked, and then the limit is looked at. A signal has an answer for every time it is asked.

As long as it can be read, the clock decides about the sleeps only: the frames that run, and what
they do, are those of `Console.runFrames`. A rate of zero has no interval, and neither has one that
is out of the range of floating-point numbers: then nothing runs.
-/
import ChipEight.Console.Frame

namespace ChipEight

/-! ## Clocks -/

/-- A reading is out of the range of floating-point numbers. -/
structure ReadingError where
  deriving DecidableEq, Repr

/-- The words for the error. -/
def ReadingError.message (_ : ReadingError) : Text :=
  "integer division result too large for a float".toList

/-- A clock as the list of its readings in seconds. -/
abbrev Clock := List (Except ReadingError Float)

namespace Clock

/-- The clock with the given times. -/
def ofTimes (times : List Float) : Clock :=
  times.map .ok

/-- The parts of a second that ticks are. -/
def ticksPerSecond : Nat := 1024

/-- So many ticks in seconds. A number that may be out of range before the division is rounded and
divided as a whole number; rounding has left zeros at its end, so that nothing is lost. -/
def seconds (ticks : Int) : Except ReadingError Float :=
  if Numeral.floatLimit * ticksPerSecond ≤ ticks.natAbs then .error ⟨⟩
  else if ticks.natAbs < Nat.pow 2 1000 then .ok (Float.ofInt ticks / Float.ofNat ticksPerSecond)
  else .ok (Float.ofInt (ticks.sign * (Numeral.toPrecision ticks.natAbs / ticksPerSecond : Nat)))

/-- The clock with the given readings in ticks. -/
def ofTicks (readings : List Int) : Clock :=
  readings.map seconds

/-- One reading. -/
def read : Clock → Except ReadingError Float
  | [] => .ok 0
  | t :: _ => t

/-- The clock after one reading. -/
def next : Clock → Clock
  | [] => []
  | [t] => [t]
  | _ :: ts => ts

end Clock

/-! ## Signals -/

/-- A stop signal: whether it says to stop when it was asked so many times before. -/
abbrev Signal := Nat → Bool

namespace Signal

/-- The signal that never says to stop. -/
def never : Signal := fun _ => false

/-- The signal that says to stop when it was asked so many times before. -/
def after (count : Nat) : Signal := fun asked => count ≤ asked

end Signal

/-! ## Rates -/

/-- Why a rate has no interval. -/
inductive RateError where
  /-- The rate is zero. -/
  | zero
  /-- The rate is out of range. -/
  | tooLarge
  deriving DecidableEq, Repr

/-- The words for the error. -/
def RateError.message : RateError → Text
  | .zero => "float division by zero".toList
  | .tooLarge => "int too large to convert to float".toList

/-- The time between two frames at a rate. -/
def intervalOf (framesPerSecond : Int) : Except RateError Float :=
  if framesPerSecond = 0 then .error .zero
  else if Numeral.floatLimit ≤ framesPerSecond.natAbs then .error .tooLarge
  else .ok (1.0 / Float.ofInt framesPerSecond)

/-! ## Paced runs -/

/-- How a paced run ended. -/
inductive PacedEnd where
  /-- So many frames ran, and then it was time to stop. -/
  | ran (frames : Nat)
  /-- A frame refused. -/
  | refused (reason : Stop)
  /-- The rate has no interval. -/
  | noInterval (error : RateError)
  /-- The clock could not be read. -/
  | noTime (error : ReadingError)
  /-- The rounds that were allowed are used up. -/
  | unfinished
  deriving DecidableEq, Repr

/-- A paced run. -/
structure PacedRun where
  /-- The console afterwards. -/
  console : Console
  /-- The lengths of the sleeps, in order. -/
  sleeps : List Float
  /-- How the run ended. -/
  ending : PacedEnd

namespace Console

/-- The run is over before its next frame. The signal has been asked once for each frame so far. -/
def isOver (limit : Option Int) (signal : Signal) (ran : Nat) : Bool :=
  signal ran || match limit with
    | some most => most ≤ ran
    | none => false

/-- The rest of a paced run, in which `ran` frames are done and the next one is due at `due`. -/
def pace (interval : Float) (limit : Option Int) (signal : Signal) :
    (rounds ran : Nat) → (due : Float) → Clock → Console → PacedRun
  | 0, _, _, _, c => ⟨c, [], .unfinished⟩
  | rounds + 1, ran, due, clock, c =>
    if isOver limit signal ran then ⟨c, [], .ran ran⟩
    else
      match c.runFrame with
      | (d, .error e) => ⟨d, [], .refused e⟩
      | (d, .ok ()) =>
        match clock.read with
        | .error e => ⟨d, [], .noTime e⟩
        | .ok now =>
          let due := due + interval
          let delay := due - now
          let clock := clock.next
          if 0 < delay then
            let run := pace interval limit signal rounds (ran + 1) due clock d
            { run with sleeps := delay :: run.sleeps }
          else
            match clock.read with
            | .error e => ⟨d, [], .noTime e⟩
            | .ok now => pace interval limit signal rounds (ran + 1) now clock.next d

/-- Rounds that are enough for a run with a limit; `patience` are allowed without. -/
def roundsFor (limit : Option Int) (patience : Nat) : Nat :=
  match limit with
  | some most => most.toNat + 1
  | none => patience

/-- Runs frames at a rate. -/
def runPaced (c : Console) (framesPerSecond : Int) (limit : Option Int)
    (signal : Signal) (patience : Nat) (clock : Clock) : PacedRun :=
  match intervalOf framesPerSecond with
  | .error e => ⟨c, [], .noInterval e⟩
  | .ok interval =>
    match clock.read with
    | .error e => ⟨c, [], .noTime e⟩
    | .ok now => pace interval limit signal (roundsFor limit patience) 0 now clock.next c

end Console

end ChipEight
