import ChipEight.Audio.MixerTone
import ChipEight.Console.Assembled
import ChipEight.Console.Paced
import ChipEight.Main
import ChipEight.Proofs.Answers
import ChipEight.Proofs.Arithmetic
import ChipEight.Proofs.Batch
import ChipEight.Proofs.Blame
import ChipEight.Proofs.Calls
import ChipEight.Proofs.Choice
import ChipEight.Proofs.Coherence
import ChipEight.Proofs.Disassembled
import ChipEight.Proofs.Drawings
import ChipEight.Proofs.Dumps
import ChipEight.Proofs.Edits
import ChipEight.Proofs.Emission
import ChipEight.Proofs.Faults
import ChipEight.Proofs.Forms
import ChipEight.Proofs.Halted
import ChipEight.Proofs.Headless
import ChipEight.Proofs.HeldKeys
import ChipEight.Proofs.Incomplete
import ChipEight.Proofs.Interchange
import ChipEight.Proofs.Interrupted
import ChipEight.Proofs.LabelRows
import ChipEight.Proofs.Listed
import ChipEight.Proofs.Loading
import ChipEight.Proofs.Marks
import ChipEight.Proofs.Mirror
import ChipEight.Proofs.MixerTone
import ChipEight.Proofs.Pacing
import ChipEight.Proofs.PowerCycle
import ChipEight.Proofs.ProgramRows
import ChipEight.Proofs.Ranges
import ChipEight.Proofs.Relocation
import ChipEight.Proofs.Rows
import ChipEight.Proofs.Separation
import ChipEight.Proofs.Shown
import ChipEight.Proofs.Snapshots
import ChipEight.Proofs.Sprites
import ChipEight.Proofs.Stepping
import ChipEight.Proofs.Timers
import ChipEight.Proofs.Tone
import ChipEight.Proofs.ToneSources
import ChipEight.Proofs.Tracing
import ChipEight.Proofs.Transfers
import ChipEight.Proofs.Waiting
