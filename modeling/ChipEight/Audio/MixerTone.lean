/-
# ChipEight.Audio.MixerTone -- a tone that can be heard

A tone is played by a mixer: it is asked for its settings, opened if it has none, given the samples
of one period, and told to play them until they are stopped.

`MixerTone.start` makes a sound only if the frequency differs from the one the last sound was made
for, and starting a tone that is on, or stopping one that is off, does nothing. If the mixer cannot
be opened the tone is disabled for good: no call reaches the mixer any more. A frequency without a
wave, such as zero, is refused after the mixer was opened, and everything else stays as it was.
-/
import ChipEight.Audio.SquareWave
import ChipEight.Text.Basic

namespace ChipEight.Audio

/-! ## The mixer -/

/-- What an open mixer works with. -/
structure MixerSettings where
  /-- Samples in a second. -/
  rate : Int
  /-- Bits of a sample, negative if samples have a sign. -/
  format : Int
  /-- The number of channels. -/
  channels : Int
  deriving DecidableEq, Repr

/-- A mixer, with what will come of opening it. -/
structure Mixer where
  /-- The settings, once it is open. -/
  settings : Option MixerSettings
  /-- The settings it will have when it was opened, if not those that were asked for. -/
  opened : Option MixerSettings
  /-- Whether the next attempts to open it fail; later ones do not. -/
  failures : List Bool
  deriving DecidableEq, Repr

/-- A sound, and the frequency that it was made for. -/
structure Sound where
  /-- The frequency. -/
  frequency : Int
  /-- The samples. -/
  wave : Wave
  deriving DecidableEq, Repr

/-- What a mixer is asked to do. -/
inductive MixerCall where
  /-- Open with samples of sixteen bits on one channel, 1024 of them at a time. -/
  | init (rate : Int)
  /-- Make a sound. -/
  | make (sound : Sound)
  /-- Make the last sound as quiet as tones are. -/
  | volume
  /-- Play a sound over and over. -/
  | play (sound : Sound)
  /-- Stop the sound. -/
  | stop
  deriving DecidableEq, Repr

/-- The settings that are asked for. -/
def requested (rate : Int) : MixerSettings where
  rate := rate
  format := -16
  channels := 1

namespace Mixer

/-- The settings of the mixer, which is opened if it is not, with the calls that took. There are no
settings if it cannot be opened. -/
def ready (m : Mixer) (rate : Int) : Mixer × List MixerCall × Option MixerSettings :=
  match m.settings with
  | some settings => (m, [], some settings)
  | none =>
    let tried := { m with failures := m.failures.tail }
    if m.failures.head?.getD false then (tried, [.init rate], none)
    else
      let settings := m.opened.getD (requested rate)
      ({ tried with settings := some settings }, [.init rate], some settings)

end Mixer

/-! ## The tone -/

/-- A tone that is played by a mixer. -/
structure MixerTone where
  /-- The sample rate to ask for. -/
  rate : Int
  /-- The tone is on. -/
  active : Bool
  /-- The mixer has not refused yet. -/
  enabled : Bool
  /-- The last sound. -/
  sound : Option Sound
  /-- The mixer. -/
  mixer : Mixer
  deriving DecidableEq, Repr

/-- The sample rate of a tone that does not ask for another one. -/
def defaultRate : Int := 44100

/-- How a call to a tone went. -/
inductive ToneResult where
  /-- Nothing to report. -/
  | fine
  /-- The mixer could not be opened. -/
  | unavailable
  /-- There is no wave of the frequency. -/
  | noWave (error : WaveError)
  deriving DecidableEq, Repr

/-- What is reported when the mixer cannot be opened. -/
def unavailableReport : Text :=
  "[tone] audio unavailable: no audio device\n".toList

/-- A tone after a call, with the calls to the mixer that it took. -/
structure ToneStep where
  /-- The tone. -/
  tone : MixerTone
  /-- The calls to the mixer. -/
  calls : List MixerCall
  /-- How the call went. -/
  result : ToneResult
  deriving DecidableEq, Repr

namespace MixerTone

/-- A tone that was never started. -/
def new (rate : Int) (mixer : Mixer) : MixerTone where
  rate := rate
  active := false
  enabled := true
  sound := none
  mixer := mixer

/-- The frequency that the last sound was made for. -/
def frequency? (t : MixerTone) : Option Int :=
  t.sound.map Sound.frequency

/-- Plays a sound. -/
def play (t : MixerTone) (sound : Sound) (calls : List MixerCall) : ToneStep where
  tone := { t with active := true, sound := some sound }
  calls := calls ++ [.play sound]
  result := .fine

/-- Turns the tone on. -/
def start (t : MixerTone) (frequency : Int) : ToneStep :=
  if t.active || !t.enabled then ⟨t, [], .fine⟩
  else
    match t.sound.filter fun s => s.frequency = frequency with
    | some sound => t.play sound []
    | none =>
      match t.mixer.ready t.rate with
      | (mixer, calls, none) =>
        ⟨{ t with mixer := mixer, enabled := false }, calls, .unavailable⟩
      | (mixer, calls, some settings) =>
        let t := { t with mixer := mixer }
        match squareWave frequency settings.rate settings.channels defaultAmplitude with
        | .error e => ⟨t, calls, .noWave e⟩
        | .ok wave =>
          let sound := ⟨frequency, wave⟩
          t.play sound (calls ++ [.make sound, .volume])

/-- Turns the tone off. -/
def stop (t : MixerTone) : ToneStep :=
  if t.active then ⟨{ t with active := false }, [.stop], .fine⟩ else ⟨t, [], .fine⟩

end MixerTone

end ChipEight.Audio
