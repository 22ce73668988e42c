/-
# ChipEight.Audio.SquareWave -- one period of a tone

A square wave is high for the first half of its period and low for the rest; if the number of
samples is odd, the low part has one more. The period is the quotient of sample rate and frequency
in whole samples, and at least two of them. The quotient is first taken to fifty-three significant
bits and then rounded to a whole number, and both times a tie goes to the even neighbour.

Samples have sixteen bits with a sign, and a level that does not fit wraps. A tone for several
channels repeats each sample for each channel.

There is no wave of the frequency zero, nor if one of the numbers on the way is too large: the
quotient has to lie in the range of floating-point numbers, the length of the period and the number
of channels have to be below `countLimit` and the level not beyond it, and there has to be room for
the numbers of the samples and for the samples of all channels.
-/
import ChipEight.Room

namespace ChipEight.Audio

open Numeral

/-! ## What can go wrong -/

/-- Why there is no wave. -/
inductive WaveError where
  /-- The frequency is zero. -/
  | zeroFrequency
  /-- The quotient of rate and frequency is out of range. -/
  | quotientTooLarge
  /-- The period has too many samples. -/
  | periodTooLong
  /-- The level or the number of channels is out of range. -/
  | numberTooLarge
  /-- There is no room for the samples. -/
  | noRoom (error : ArrayError)
  deriving DecidableEq, Repr

/-- The words for the error. -/
def WaveError.message : WaveError → List Char
  | .zeroFrequency => "division by zero".toList
  | .quotientTooLarge => "integer division result too large for a float".toList
  | .periodTooLong => "Maximum allowed size exceeded".toList
  | .numberTooLarge => "Python int too large to convert to C long".toList
  | .noRoom e => e.message

/-! ## Rounding -/

/-- The whole number nearest to `n / d` taken to fifty-three significant bits. -/
def roundQuotient (n d : Nat) : Nat :=
  let step := lastPlace (n / d)
  let scale := Nat.pow 2 (precision - Nat.log2 (n / d))
  roundHalfEven (roundHalfEven (n * scale) (d * step)) scale * step

/-! ## Waves -/

/-- One period of a tone, for some channels. -/
structure Wave where
  /-- The number of samples for one channel. -/
  period : Nat
  /-- The level of the high half. -/
  amplitude : Int
  /-- The number of channels; the samples of a single channel are not grouped. -/
  channels : Int
  deriving DecidableEq, Repr

/-- The level of a tone that does not ask for another one. -/
def defaultAmplitude : Int := 0x3FFF

/-- The samples in one period. -/
def period (frequency rate : Int) : Except WaveError Nat :=
  if frequency = 0 then .error .zeroFrequency
  else if floatLimit * frequency.natAbs ≤ rate.natAbs then .error .quotientTooLarge
  else if rate.sign * frequency.sign ≤ 0 then .ok 2
  else
    let samples := max 2 (roundQuotient rate.natAbs frequency.natAbs)
    if countLimit ≤ samples then .error .periodTooLong else .ok samples

/-- A level as a sample of sixteen bits. -/
def sample (level : Int) : Int :=
  level.bmod 65536

/-- One period of a tone. -/
def squareWave (frequency rate channels amplitude : Int) : Except WaveError Wave := do
  let samples ← period frequency rate
  (arrayRoom .numbers [samples]).mapError .noRoom
  if countLimit < amplitude.natAbs then .error .numberTooLarge
  else if channels ≤ 1 then .ok ⟨samples, amplitude, channels⟩
  else if countLimit ≤ channels.toNat then .error .numberTooLarge
  else do
    (arrayRoom .samples [samples, channels.toNat]).mapError .noRoom
    .ok ⟨samples, amplitude, channels⟩

namespace Wave

/-- The sample at a place in the period. -/
def sampleAt (w : Wave) (place : Nat) : Int :=
  sample (if place < w.period / 2 then w.amplitude else -w.amplitude)

/-- The samples of one channel. -/
def samples (w : Wave) : List Int :=
  (List.range w.period).map w.sampleAt

/-- Each sample is repeated for every channel. -/
def isGrouped (w : Wave) : Bool :=
  1 < w.channels

/-- The samples of each moment, one for each channel. -/
def groups (w : Wave) : List (List Int) :=
  w.samples.map fun s => List.replicate w.channels.toNat s

/-- The sizes of the array that the samples are handed over in. -/
def shape (w : Wave) : List Int :=
  if w.isGrouped then [w.period, w.channels] else [w.period]

/-- The sample at a place in the order in which they are handed over. -/
def handedAt (w : Wave) (place : Nat) : Int :=
  w.sampleAt (if w.isGrouped then place / w.channels.toNat else place)

theorem length_samples (w : Wave) : w.samples.length = w.period := by
  simp [samples]

end Wave

end ChipEight.Audio
