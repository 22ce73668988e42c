/-
# ChipEight.Proofs.Headless -- a program that is run without a window

The program of the command line that is asked for `--headless` does what a console does that is made,
loaded and run for so many frames. Between the two stand three differences, and each is settled on its
own. The console of the program takes its random bytes from elsewhere, which nobody can tell while no
random instruction is executed (`runFrames_reseeded`). It may be traced, which adds the lines of the
record and changes nothing else. And the program has to tell a fault from other refusals: a console that
was just loaded meets no other (`EndsFresh`, and `WellFormed`).

The command line itself is a line of phrases, in any order.
-/
import ChipEight.CommandLine.Run
import ChipEight.Proofs.Batch
import ChipEight.Proofs.Phrases
import ChipEight.Proofs.Reseeded
import ChipEight.Proofs.Tracing

namespace ChipEight

namespace Console

variable {c : Console}

/-! ## Runs that start without a fault -/

/-- The outcome of a run that starts without a fault: if it completes, there is still none, and if it is
refused, it is not for an earlier one. -/
def EndsFresh {α : Type} (outcome : Console × Except Stop α) : Prop :=
  match outcome with
  | (d, .ok _) => d.halted = false
  | (_, .error reason) => reason ≠ .halted

theorem endsFresh_stepUpTo (hh : c.halted = false) (n : Nat) : EndsFresh (stepUpTo n c) := by
  induction n generalizing c with
  | zero => exact hh
  | succ n ih =>
    unfold stepUpTo
    by_cases hp : c.machine.paused = true
    · rw [if_pos hp]
      exact hh
    · rw [if_neg hp]
      have hanswer := answer_of_running hh (eq_false_of_ne_true hp)
      have hstep := halted_step (c := c)
      rcases hx : c.step with ⟨d, a⟩
      rw [hx] at hanswer hstep
      cases a with
      | ok _ => exact ih (hstep rfl)
      | error reason =>
        show reason ≠ .halted
        intro hreason
        exact hanswer.2 (congrArg Except.error hreason)

theorem endsFresh_runCycles (hh : c.halted = false) (count : Int) :
    EndsFresh (c.runCycles count) := by
  unfold runCycles
  rw [if_neg (by simp [hh])]
  have hloop := endsFresh_stepUpTo hh count.toNat
  rcases hx : stepUpTo count.toNat c with ⟨d, a⟩
  rw [hx] at hloop
  cases a with
  | ok _ => exact hloop
  | error reason => exact hloop

theorem endsFresh_runFrame (hh : c.halted = false) {count : Int}
    (hs : c.cyclesPerFrame = .number count) : EndsFresh c.runFrame := by
  unfold runFrame
  rw [hs]
  have hbatch := endsFresh_runCycles hh count
  dsimp only [runAmount]
  rcases hx : c.runCycles count with ⟨d, a⟩
  rw [hx] at hbatch
  cases a with
  | ok _ => exact hbatch
  | error reason => exact hbatch

theorem endsFresh_runFrames (hh : c.halted = false) {count : Int}
    (hs : c.cyclesPerFrame = .number count) (n : Nat) : EndsFresh (runFrames n c) := by
  induction n generalizing c with
  | zero => exact hh
  | succ n ih =>
    unfold runFrames
    have hframe := endsFresh_runFrame hh hs
    have hsetup : c.runFrame.1.cyclesPerFrame = c.cyclesPerFrame := by
      rw [← answering_fst fun _ => .done]
      exact (sameSetup_run c (show Operation.runFrame.Runs from trivial)).1.speed
    rcases hx : c.runFrame with ⟨d, a⟩
    rw [hx] at hframe hsetup
    cases a with
    | ok _ => exact ih hframe (hsetup.trans hs)
    | error reason => exact hframe

/-- A console that starts without a fault on a screen with pixels is refused its frames because of a
fault and for no other reason. -/
theorem isFault_of_runFrames {width height : Nat} (hw : 0 < width) (hv : 0 < height)
    (hc : c.WellFormed width height) (hh : c.halted = false) {count : Int}
    (hs : c.cyclesPerFrame = .number count) {n : Nat} {e : Stop}
    (h : (runFrames n c).2 = .error e) : ∃ f, e = .fault f := by
  have hkind := ((wellFormed_invariant hw hv).runFrames hc n).2 e h
  have hfresh := endsFresh_runFrames hh hs n
  rcases hx : runFrames n c with ⟨d, a⟩
  rw [hx] at h hfresh
  cases h
  cases e with
  | fault f => exact ⟨f, rfl⟩
  | halted => exact absurd rfl hfresh
  | noPixels | notAByte | notANumber => cases hkind

/-! ## The lines of a record -/

/-- The lines of the instructions that are fetched on the way through an operation, in order: those that
are executed, and one that meets a fault of the stack. -/
def fetchedLines (c : Console) (op : Operation) : List Text :=
  (fated [.executed, .stackFault] (c.waypoints op)).map fun w => w.reading.line

theorem fated_unrefused {via : List Console} (h : ∀ w ∈ via, w.Serviceable) :
    fated [.executed, .stackFault, .refused] via = fated [.executed, .stackFault] via := by
  refine List.filter_congr fun w hw => ?_
  have hno := (h w hw).fate?_ne_refused
  rcases hf : w.fate? with _ | ⟨⟨⟩⟩
  · rfl
  · rfl
  · rfl
  · exact absurd hf hno

theorem recordLines_of_traced {op : Operation} (hruns : op.Runs) (hop : ¬ op.Restarts)
    (ht : c.tracing = true) (hc : c.trace = []) (hs : c.Serviceable) :
    (c.perform op).1.recordLines = c.fetchedLines op := by
  have hserviceable : ∀ w ∈ c.waypoints op, w.Serviceable := by
    have hpassed : c.passed [op] = c.waypoints op := List.append_nil _
    rw [← hpassed]
    exact hs.passed (by simpa using hop)
  have htrace := (course_perform c hruns).journey.trace_eq ht
  rw [hc, fated_unrefused hserviceable] at htrace
  rw [recordLines, htrace, fetchedLines, List.reverse_nil, List.nil_append, List.map_map]
  rfl

end Console

/-! ## The lines of a screen -/

/-- The pixels of a screen as lines of text. -/
def Screen.picture (s : Screen) : List Text :=
  List.ofFn fun y : Fin s.height =>
    List.ofFn fun x : Fin s.width => if s.pixels.lit x y then '#' else '.'

theorem Screen.text_eq (s : Screen) :
    s.pixels.text ['#'] ['.'] = Text.joinWith ['\n'] s.picture := by
  have hrow (row : List Bool) : (row.flatMap fun pixel => if pixel then ['#'] else ['.']) =
      row.map fun pixel => if pixel then '#' else '.' := by
    induction row with
    | nil => rfl
    | cons pixel row ih => cases pixel <;> simp [ih]
  simp only [Bitmap.text, picture, hrow, Bitmap.toLists_eq, List.map_ofFn, Function.comp_def]

theorem Screen.length_picture (s : Screen) : s.picture.length = s.height :=
  List.length_ofFn

theorem Screen.length_of_mem_picture {s : Screen} {row : Text} (h : row ∈ s.picture) :
    row.length = s.width := by
  obtain ⟨y, rfl⟩ := List.mem_ofFn.mp h
  exact List.length_ofFn

/-! ## Frames with and without a record -/

namespace Console

variable {c : Console}

/-- Frames of a console that may be traced: the record makes no difference, and adds its lines. -/
theorem runFrames_traced (hc : c.traced false = c) (hs : c.Serviceable) (traced : Bool) (n : Int) :
    let run := runFrames n.toNat (c.traced traced)
    run.1.traced false = (runFrames n.toNat c).1 ∧ run.2 = (runFrames n.toNat c).2 ∧
      run.1.recordLines =
        if traced then (c.traced true).fetchedLines (.runFrames n) else [] := by
  have huntraced : Untraced (c.traced traced) c := hc.symm
  obtain ⟨hconsole, hanswer⟩ := untraced_simulation.runFrames huntraced n.toNat
  have hsame : (runFrames n.toNat (c.traced traced)).1.traced false = (runFrames n.toNat c).1 :=
    hconsole.symm
  refine ⟨hsame, hanswer.eq fun _ _ => id, ?_⟩
  cases traced with
  | true =>
    have hservice : (c.traced true).Serviceable := ⟨hs.width, hs.height, hs.delay⟩
    have hruns : (Operation.runFrames n).Runs := trivial
    have hlines := recordLines_of_traced hruns id rfl rfl hservice
    rwa [perform, answering_fst] at hlines
  | false =>
    rw [hc] at hsame ⊢
    have hnone : (runFrames n.toNat c).1.trace = [] := by rw [← hsame]; rfl
    rw [recordLines, hnone]
    rfl

/-! ## Consoles with a program -/

/-- A console of the standard kind with a program. -/
def loadedWith (bytes : List UInt8) (speed : Int) (random : RandomBytes) : Console :=
  (Console.standard random (.number speed)).after [.loadRom bytes]

section Loaded

variable {bytes : List UInt8} {speed : Int} {random seed : RandomBytes}

theorem wellFormed_loadedWith : (loadedWith bytes speed random).WellFormed 64 32 :=
  (wellFormed_invariant (by decide) (by decide)).after
    (wellFormed_new 64 32 random speed defaultToneHz) [.loadRom bytes]

theorem serviceable_loadedWith : (loadedWith bytes speed random).Serviceable where
  width := by
    rw [wellFormed_loadedWith.width]
    decide
  height := by
    rw [wellFormed_loadedWith.height]
    decide
  delay := wellFormed_loadedWith.machine.delay

variable (hfits : bytes.length ≤ Memory.programRoom)
include hfits

theorem loadedWith_eq :
    loadedWith bytes speed random =
      { Console.standard random (.number speed) with
        rom := bytes
        machine := Machine.powerOn.load bytes Memory.programBase } := by
  rw [loadedWith, after, List.foldl_cons, perform_loadRom _ hfits]
  rfl

theorem loadRom_standard :
    (Console.standard random (.number speed)).loadRom bytes =
      .ok (loadedWith bytes speed random) := by
  rw [loadedWith_eq hfits, loadRom, if_neg (Nat.not_lt.mpr hfits)]
  rfl

theorem loadedWith_reseeded :
    (loadedWith bytes speed seed).reseeded random = loadedWith bytes speed random := by
  rw [loadedWith_eq hfits, loadedWith_eq hfits]
  rfl

theorem traced_loadedWith :
    (loadedWith bytes speed random).traced false = loadedWith bytes speed random := by
  rw [loadedWith_eq hfits]
  rfl

/-- The frames of a program run alike with other random bytes and with a record, if they take no random
byte on their way. -/
theorem runFrames_loadedWith (random : RandomBytes) {n : Int}
    (hrandom : ∀ x kk, .random x kk ∉ (loadedWith bytes speed seed).executed [.runFrames n])
    (traced : Bool) :
    let run := runFrames n.toNat ((loadedWith bytes speed random).traced traced)
    let plain := runFrames n.toNat (loadedWith bytes speed seed)
    run.1.traced false = plain.1.reseeded random ∧ run.2 = plain.2 ∧
      run.1.recordLines =
        if traced then ((loadedWith bytes speed random).traced true).fetchedLines (.runFrames n)
        else [] := by
  have hguard : ∀ w ∈ waypointsOfFrames n.toNat (loadedWith bytes speed seed),
      ¬ w.TakesRandom := by
    rintro w hw ⟨x, kk, hx⟩
    have hmem := List.mem_filterMap.mpr ⟨w, hw, hx⟩
    exact hrandom x kk (List.mem_append_left [] hmem)
  have hreseeded := runFrames_reseeded hguard random
  rw [loadedWith_reseeded hfits] at hreseeded
  have hsame : (loadedWith bytes speed random).traced false = loadedWith bytes speed random :=
    traced_loadedWith hfits
  have hrun := runFrames_traced hsame serviceable_loadedWith traced n
  rwa [hreseeded] at hrun

/-- The frames of a program end in a fault, or are all run. -/
theorem isFault_loadedWith {n : Nat} {e : Stop}
    (h : (runFrames n (loadedWith bytes speed random)).2 = .error e) : ∃ f, e = .fault f := by
  have hrunning : (loadedWith bytes speed random).halted = false := by
    rw [loadedWith_eq hfits]
    rfl
  have hspeed : (loadedWith bytes speed random).cyclesPerFrame = .number speed := by
    rw [loadedWith_eq hfits]
    rfl
  exact isFault_of_runFrames (by decide) (by decide) wellFormed_loadedWith hrunning hspeed h

end Loaded

end Console

namespace CommandLine

open Text Numeral Console

/-! ## The command line -/

/-- The phrases that ask for a run without a window. -/
def headlessPhrases (name frames speed : Text) (n s : Int) (traced : Bool) : List Phrase :=
  [.program name, .flag .headless, .quantity .frames n frames, .quantity .speed s speed] ++
    if traced then [.flag .trace] else []

/-- What they ask for. -/
def headlessOptions (scale : Int) (name : Text) (n s : Int) (traced : Bool) : Options :=
  { Options.plain scale with
    rom := some name
    speed := .number s
    headless := true
    frames := .number n
    trace := traced }

theorem ofArguments_headless {scaleVariable : Option Text} {scale n s : Int}
    {name frames speed : Text} {traced : Bool} {phrases : List Phrase}
    (hscale : Options.defaultScale scaleVariable = .ok scale) (hname : role name = .ok .plain)
    (hframes : Spells frames n) (hspeed : Spells speed s)
    (h : phrases.Perm (headlessPhrases name frames speed n s traced)) :
    Options.ofArguments scaleVariable (phrases.flatMap Phrase.texts) =
      .ok (headlessOptions scale name n s traced) := by
  have hclear : ∀ phrase ∈ headlessPhrases name frames speed n s traced, phrase.IsClear := by
    cases traced <;> simp [headlessPhrases, Phrase.IsClear, hname, hframes, hspeed]
  have hone : (headlessPhrases name frames speed n s traced).countP Phrase.isProgram ≤ 1 := by
    cases traced <;> exact Nat.le_refl 1
  have hcomm : ∀ a ∈ headlessPhrases name frames speed n s traced,
      ∀ b ∈ headlessPhrases name frames speed n s traced, ∀ o : Options,
        (o.heed a).heed b = (o.heed b).heed a := by
    cases traced <;>
      simp [headlessPhrases, Options.heed, Options.raise, Options.setQuantity]
  rw [ofArguments_perm hscale hclear hone hcomm h]
  cases traced <;> rfl

/-! ## A run without a window -/

/-- The program that was loaded is named, with its length. -/
def loadLine (name : Text) (bytes : List UInt8) : Text :=
  "[chip8] loaded ".toList ++ decimal bytes.length ++ " bytes from '".toList ++ name ++ "'".toList

/-- A file that is read has a name. -/
theorem ne_nil_of_read {d : Directory} {name : Text} {bytes : List UInt8}
    (h : d.read name = .ok bytes) : name ≠ [] := by
  rintro rfl
  cases h

theorem romName?_of_read {d : Directory} {name : Text} {bytes : List UInt8}
    (hread : d.read name = .ok bytes) {o : Options} (hrom : o.rom = some name) :
    o.romName? = some name := by
  simp [Options.romName?, hrom, ne_nil_of_read hread]

/-- A program that is named and read is loaded, and then the options say how it goes on. If the file is
too long, the program ends here. -/
theorem begin_of_read {d : Directory} {name : Text} {bytes : List UInt8}
    (hread : d.read name = .ok bytes) {o : Options} (hrom : o.rom = some name)
    (hassemble : o.assemble = none) (hseed : o.seed = none) (random : RandomBytes) :
    begin d random o =
      match (Console.standard random o.speed).loadRom bytes with
      | .error e => .ended (failed d []
          ("[chip8] cannot load '".toList ++ name ++ "': ".toList ++ e.message))
      | .ok c => beginLoaded d o c (unlines [loadLine name bytes]) := by
  unfold begin
  rw [hassemble, hseed]
  dsimp only
  unfold beginConsole
  rw [romName?_of_read hread hrom]
  dsimp only
  unfold Console.loadFile
  rw [hread]
  dsimp only
  cases hl : (Console.standard random o.speed).loadRom bytes with
  | error e => rfl
  | ok c =>
    have hloaded : c.rom = bytes := by
      unfold Console.loadRom at hl
      split at hl <;> cases hl
      rfl
    dsimp only
    rw [hloaded]
    rfl

/-- The program comes to its frames, or to the end if the file does not fit. -/
theorem begin_headless {d : Directory} {name : Text} {bytes : List UInt8} {scale n s : Int}
    {traced : Bool} (hread : d.read name = .ok bytes) (random : RandomBytes) :
    begin d random (headlessOptions scale name n s traced) =
      .ended (match (Console.standard random (.number s)).loadRom bytes with
        | .error e => failed d []
            ("[chip8] cannot load '".toList ++ name ++ "': ".toList ++ e.message)
        | .ok c => runHeadless d (c.traced traced) n.toNat (unlines [loadLine name bytes])) := by
  have hname : (headlessOptions scale name n s traced).romName? = some name :=
    romName?_of_read hread rfl
  rw [begin_of_read hread rfl rfl rfl,
    show (headlessOptions scale name n s traced).speed = .number s from rfl]
  cases (Console.standard random (.number s)).loadRom bytes with
  | error e => rfl
  | ok c =>
    dsimp only
    unfold beginLoaded
    rw [hname]
    rfl

theorem runHeadless_ok {d : Directory} {c e : Console} {frames : Nat} (lines : List Text)
    (h : runFrames frames c = (e, .ok ())) (hheight : 0 < e.screen.height) :
    runHeadless d c frames (unlines lines) =
      succeeded d (unlines (lines ++ e.recordLines ++ e.screen.picture)) := by
  have hne : e.screen.picture ≠ [] := by
    rw [← List.length_pos_iff, Screen.length_picture]
    exact hheight
  unfold runHeadless
  rw [h]
  dsimp only
  rw [Screen.text_eq, unlines_joinWith hne, unlines_append, unlines_append]

theorem runHeadless_fault {d : Directory} {c e : Console} {frames : Nat} {f : Fault}
    (lines : List Text) (h : runFrames frames c = (e, .error (.fault f))) :
    runHeadless d c frames (unlines lines) =
      { ending := .exit 2
        output := unlines (lines ++ e.recordLines)
        report := unlines ["[chip8] fault: ".toList ++ f.message, e.registerReport]
        directory := d } := by
  unfold runHeadless
  rw [h, unlines_append]
  rfl

/-- A program that is run without a window does what a console does that is loaded with the file and
runs the frames, and ends with what that console answers. If the file is too long, nothing runs. If the
frames run, the program prints the screen. If they end in a fault, it prints no screen and reports the
fault with the registers at that moment. The lines of a record may stand in between, one for each
instruction that was fetched; whether they do makes no other difference.

The order of the settings does not matter, and neither does where the random bytes of the two consoles
come from if no random instruction is executed. -/
theorem run_headless {d : Directory} {name frames speed : Text} {bytes : List UInt8}
    {scaleVariable : Option Text} {scale n s : Int} {traced : Bool} {phrases : List Phrase}
    (hread : d.read name = .ok bytes) (hname : role name = .ok .plain)
    (hscale : Options.defaultScale scaleVariable = .ok scale)
    (hframes : Spells frames n) (hspeed : Spells speed s)
    (hphrases : phrases.Perm (headlessPhrases name frames speed n s traced))
    (random seed : RandomBytes) (input : Text) :
    let outcome := run d random scaleVariable (phrases.flatMap Phrase.texts) input
    let c := loadedWith bytes s seed
    let e := (c.perform (.runFrames n)).1
    let answer := (c.perform (.runFrames n)).2
    let lines := loadLine name bytes ::
      if traced then ((loadedWith bytes s random).traced true).fetchedLines (.runFrames n) else []
    (3584 < bytes.length → outcome = failed d []
      ("[chip8] cannot load '".toList ++ name ++ "': ".toList ++
        (⟨bytes.length⟩ : TooLarge).message)) ∧
    (bytes.length ≤ 3584 → (∀ x kk, .random x kk ∉ c.executed [.runFrames n]) →
      (e.screen.picture.length = 32 ∧ ∀ row ∈ e.screen.picture, row.length = 64) ∧
        (answer = .ok (.frames n) ∧ outcome = succeeded d (unlines (lines ++ e.screen.picture)) ∨
          ∃ f, answer = .error (.stop (.fault f)) ∧
            outcome =
              { ending := .exit 2
                output := unlines lines
                report := unlines ["[chip8] fault: ".toList ++ f.message, e.registerReport]
                directory := d })) := by
  dsimp only
  have hoptions := ofArguments_headless hscale hname hframes hspeed hphrases
  unfold run
  rw [hoptions]
  dsimp only
  rw [begin_headless hread]
  refine ⟨fun hlong => ?_, fun hfits hrandom => ?_⟩
  · have hload : (Console.standard random (.number s)).loadRom bytes = .error ⟨bytes.length⟩ :=
      if_pos hlong
    rw [hload]
  · rw [loadRom_standard hfits]
    dsimp only
    obtain ⟨hconsole, hanswer, hlines⟩ := runFrames_loadedWith hfits random hrandom traced
    have hwell : (runFrames n.toNat (loadedWith bytes s seed)).1.WellFormed 64 32 :=
      ((wellFormed_invariant (by decide) (by decide)).runFrames wellFormed_loadedWith n.toNat).1
    simp only [perform]
    rcases hx : runFrames n.toNat (loadedWith bytes s seed) with ⟨e, answer⟩
    rcases hy : runFrames n.toNat ((loadedWith bytes s random).traced traced) with ⟨x, result⟩
    rw [hx] at hconsole hanswer hwell
    rw [hy] at hconsole hanswer hlines
    dsimp only at hconsole hanswer hlines hwell
    subst hanswer
    rw [← hlines]
    -- neither the record nor the random bytes are shown
    have hscreen : x.screen = e.screen := by
      show (x.traced false).screen = (e.reseeded random).screen
      rw [hconsole]
    have hreport : x.registerReport = e.registerReport := by
      show (x.traced false).registerReport = (e.reseeded random).registerReport
      rw [hconsole]
    have hheight : 0 < x.screen.height := by
      rw [hscreen, hwell.height]
      decide
    refine ⟨⟨?_, ?_⟩, ?_⟩
    · rw [answering_fst, Screen.length_picture, hwell.height]
    · intro row hrow
      rw [answering_fst] at hrow
      rw [Screen.length_of_mem_picture hrow, hwell.width]
    · cases result with
      | ok =>
        refine .inl ⟨rfl, ?_⟩
        rw [runHeadless_ok _ hy hheight, hscreen]
        rfl
      | error reason =>
        obtain ⟨f, rfl⟩ := isFault_loadedWith hfits (congrArg Prod.snd hx)
        refine .inr ⟨f, rfl, ?_⟩
        rw [runHeadless_fault _ hy, hreport]
        rfl

/-- A program that draws a digit and returns without a call. -/
def drawAndReturn : List UInt8 :=
  [0x60, 0x05, 0xF0, 0x29, 0xD1, 0x15, 0x00, 0xEE]

/-- In one frame of three instructions the digit is drawn and printed. The second frame starts with the
return, which is a fault. -/
theorem run_headless_to_the_return :
    let d : Directory := ⟨[(["g".toList], drawAndReturn)], []⟩
    let drawn := run d (.seeded 1) none
      (["g", "--headless", "--frames", "1", "--speed", "3"].map String.toList) []
    let returned := run d (.seeded 2) none
      (["--trace", "--speed", "3", "--frames", "2", "g", "--headless"].map String.toList) []
    let lines := ["  200: 6005  LD V0, 0x05", "  202: F029  LD F, V0", "  204: D115  DRW V1, V1, 5",
      "  206: 00EE  RET"].map String.toList
    (∃ e : Console, e.screen.pixels.litCount = 14 ∧
        drawn = succeeded d (unlines (loadLine "g".toList drawAndReturn :: e.screen.picture))) ∧
      returned.ending = .exit 2 ∧
        returned.output = unlines (loadLine "g".toList drawAndReturn :: lines) := by
  have hread : (⟨[(["g".toList], drawAndReturn)], []⟩ : Directory).read "g".toList =
      .ok drawAndReturn := by decide +kernel
  have hscale : Options.defaultScale none = .ok Window.defaultScale := rfl
  have hdrawn : [Phrase.program "g".toList, .flag .headless, .quantity .frames 1 "1".toList,
      .quantity .speed 3 "3".toList].Perm
        (headlessPhrases "g".toList (decimal 1) (decimal 3) 1 3 false) := by decide +kernel
  have hreturned : [Phrase.flag .trace, .quantity .speed 3 "3".toList,
      .quantity .frames 2 "2".toList, .program "g".toList, .flag .headless].Perm
        (headlessPhrases "g".toList (decimal 2) (decimal 3) 2 3 true) := by decide +kernel
  have hexecuted : ∀ n ∈ [(1 : Int), 2],
      (loadedWith drawAndReturn 3 (.ofArray #[])).executed [.runFrames n] =
        [.loadByte 0 5, .glyph 0, .draw 1 1 5] := by decide +kernel
  refine ⟨?_, ?_⟩
  · have hran : ((loadedWith drawAndReturn 3 (.ofArray #[])).perform (.runFrames 1)).2 =
        .ok (.frames 1) := by decide +kernel
    obtain ⟨-, hends⟩ := run_headless hread rfl hscale (spells_decimal (by decide))
      (spells_decimal (by decide)) hdrawn (.seeded 1) (.ofArray #[]) []
    obtain ⟨-, ⟨-, houtcome⟩ | ⟨f, hanswer, -⟩⟩ :=
      hends (by decide) (by rw [hexecuted 1 (by decide)]; simp)
    · rw [if_neg (by decide), List.singleton_append] at houtcome
      refine ⟨_, ?_, houtcome⟩
      decide +kernel
    · cases hran.symm.trans hanswer
  · have hfault : ((loadedWith drawAndReturn 3 (.ofArray #[])).perform (.runFrames 2)).2 =
        .error (.stop (.fault (.emptyStack 0x206))) := by decide +kernel
    have hlines : ((loadedWith drawAndReturn 3 (.seeded 2)).traced true).fetchedLines
        (.runFrames 2) = ["  200: 6005  LD V0, 0x05", "  202: F029  LD F, V0",
          "  204: D115  DRW V1, V1, 5", "  206: 00EE  RET"].map String.toList := by decide +kernel
    obtain ⟨-, hends⟩ := run_headless hread rfl hscale (spells_decimal (by decide))
      (spells_decimal (by decide)) hreturned (.seeded 2) (.ofArray #[]) []
    obtain ⟨-, ⟨hanswer, -⟩ | ⟨f, -, houtcome⟩⟩ :=
      hends (by decide) (by rw [hexecuted 2 (by decide)]; simp)
    · cases hfault.symm.trans hanswer
    · refine ⟨congrArg Outcome.ending houtcome, ?_⟩
      rw [← hlines]
      exact congrArg Outcome.output houtcome

end CommandLine

end ChipEight
