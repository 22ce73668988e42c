/-
# ChipEight.Console.Frame -- batches and frames

A batch runs some instructions one after another, and then lets the timers tick, reports the tone
and publishes the screen, each of them once. A machine that is paused, or becomes so, executes no
more in this batch, but the rest of the batch happens all the same. A step that refuses ends the
batch at once: then nothing ticks and nothing is published.

A frame is a batch at the console's own speed that is also counted. If that speed is no number, a
frame refuses before it has run an instruction.
-/
import ChipEight.Console.Step

namespace ChipEight

namespace Console

/-- Runs up to so many instructions, until the machine is paused or refuses. -/
def stepUpTo : Nat → Console → Console × Except Stop Unit
  | 0, c => (c, .ok ())
  | n + 1, c =>
    if c.machine.paused then (c, .ok ())
    else
      match c.step with
      | (d, .ok _) => stepUpTo n d
      | (d, .error e) => (d, .error e)

/-- Both timers go down by one. -/
def tick (c : Console) : Console :=
  c.withMachine c.machine.tick

/-- The tone is on while the sound timer runs. -/
def reportTone (c : Console) : Console :=
  { c with buzzer := if 0 < c.machine.sound then c.buzzer.start c.toneHz else c.buzzer.stop }

/-- Publishes the screen. -/
def render (c : Console) : Console :=
  { c with screen := c.screen.render }

/-- What happens at the end of a batch. -/
def endBatch (c : Console) : Console :=
  c.tick.reportTone.render

/-- Runs one batch. A negative count is none. -/
def runCycles (c : Console) (count : Int) : Console × Except Stop Unit :=
  if c.halted then (c, .error .halted)
  else
    match stepUpTo count.toNat c with
    | (d, .ok ()) => (d.endBatch, .ok ())
    | (d, .error e) => (d, .error e)

/-- Runs one batch of an amount of instructions. -/
def runAmount (c : Console) (amount : Amount) : Console × Except Stop Unit :=
  match amount with
  | .number count => c.runCycles count
  | .nothing => (c, .error (if c.halted then .halted else .notANumber))

/-- Runs one frame. -/
def runFrame (c : Console) : Console × Except Stop Unit :=
  match c.runAmount c.cyclesPerFrame with
  | (d, .ok ()) => ({ d with frames := d.frames + 1 }, .ok ())
  | (d, .error e) => (d, .error e)

/-- Runs frames one after another, until one refuses. -/
def runFrames : Nat → Console → Console × Except Stop Unit
  | 0, c => (c, .ok ())
  | n + 1, c =>
    match c.runFrame with
    | (d, .ok ()) => runFrames n d
    | (d, .error e) => (d, .error e)

end Console

end ChipEight
