/-
# ChipEight.Proofs.Drawings -- drawing in any order, and drawing twice

A drawing is a sprite and the place of its left upper corner. It inverts every pixel as often as its
set bits fall on it, and inverting is addition modulo two. So drawings that follow one another invert a
pixel as often as all their bits together do (`Bitmap.inverted`), and this sum does not depend on their
order.

A run draws whatever its drawing instructions find in the registers and in memory when their turn
comes. `drawn` reads these drawings off the waypoints of the run. As nothing else than drawing,
clearing and starting over touches the pixels, those at the end of a run are the ones from before it
with the drawings of the run on them (`screen_after`).

The same drawing twice inverts every pixel an even number of times. The flag tells different things
about the two, as the second one meets the pixels that the first one left.
-/
import ChipEight.Proofs.Course
import ChipEight.Proofs.Effects
import ChipEight.Proofs.Sprites

namespace ChipEight

/-! ## Drawings -/

/-- A sprite, and the pixel that its left upper corner is drawn at. -/
structure Drawing where
  /-- The column of the corner, before wrapping. -/
  x : UInt8
  /-- The row of the corner, before wrapping. -/
  y : UInt8
  /-- The rows of the sprite. -/
  sprite : List UInt8
  deriving DecidableEq

/-- How many set bits of a drawing fall on a pixel. -/
def Drawing.strokes {width height : Nat} (p : Drawing) (u : Fin width) (v : Fin height) : Nat :=
  Screen.strokes p.x.toNat p.y.toNat (spots p.sprite) u v

/-- Inversions add up. -/
theorem turned_turned (lit : Bool) (a b : Nat) : turned (turned lit a) b = turned lit (a + b) := by
  unfold turned
  rcases Nat.mod_two_eq_zero_or_one a with ha | ha <;>
    rcases Nat.mod_two_eq_zero_or_one b with hb | hb <;> simp [Nat.add_mod, ha, hb]

/-- Inverting a pixel as often again restores it. -/
theorem turned_same (lit : Bool) (a : Nat) : turned (turned lit a) a = lit := by
  have heven : (a + a) % 2 = 0 := by omega
  rw [turned_turned, turned, heven]
  simp

/-- A single inversion meets the pixel lit if it was lit. -/
theorem erases_iff_of_le_one {lit : Bool} {times : Nat} (h : times ≤ 1) :
    Erases lit times ↔ 1 ≤ times ∧ lit = true := by
  have hnever : ¬ 2 ≤ times := by omega
  simp only [Erases, hnever, or_false]

/-- If it is made again, it meets the pixel lit if it was dark. -/
theorem erases_turned_iff_of_le_one {lit : Bool} {times : Nat} (h : times ≤ 1) :
    Erases (turned lit times) times ↔ 1 ≤ times ∧ lit = false := by
  rw [erases_iff_of_le_one h]
  refine and_congr_right fun hpos => ?_
  obtain rfl : times = 1 := Nat.le_antisymm h hpos
  cases lit <;> decide

namespace Bitmap

variable {width height : Nat}

/-- The grid with drawings on it: each pixel is inverted as often as their set bits fall on it. -/
def inverted (b : Bitmap width height) (ps : List Drawing) : Bitmap width height :=
  ⟨Vector.ofFn fun v => Vector.ofFn fun u =>
    turned (b.lit u v) (ps.map fun p => p.strokes u v).sum⟩

theorem lit_inverted (b : Bitmap width height) (ps : List Drawing) (u : Fin width)
    (v : Fin height) :
    (b.inverted ps).lit u v = turned (b.lit u v) (ps.map fun p => p.strokes u v).sum := by
  simp [inverted, lit]

theorem inverted_nil (b : Bitmap width height) : b.inverted [] = b := by
  apply ext_lit
  intro u v
  rw [lit_inverted]
  exact turned_zero _

theorem inverted_append (b : Bitmap width height) (first second : List Drawing) :
    b.inverted (first ++ second) = (b.inverted first).inverted second := by
  apply ext_lit
  intro u v
  rw [lit_inverted, lit_inverted, lit_inverted, turned_turned, List.map_append, List.sum_append]

/-- The order of the drawings makes no difference. -/
theorem inverted_perm (b : Bitmap width height) {ps qs : List Drawing} (h : ps.Perm qs) :
    b.inverted ps = b.inverted qs := by
  apply ext_lit
  intro u v
  rw [lit_inverted, lit_inverted, (h.map _).sum_eq]

end Bitmap

/-! ## Screens -/

namespace Screen

/-- The screen with drawings on it. -/
def inverted (s : Screen) (ps : List Drawing) : Screen :=
  { s with pixels := s.pixels.inverted ps }

/-- Draws one drawing after another. -/
def drawAll? : Screen → List Drawing → Option Screen
  | s, [] => some s
  | s, p :: ps =>
    match s.draw? p.x.toNat p.y.toNat p.sprite with
    | none => none
    | some (t, _) => drawAll? t ps

/-- The second screen has the grid of the first one. What was published may be different. -/
def SamePixels (s t : Screen) : Prop :=
  ∃ frame renders, t = { s with frame := frame, renders := renders }

variable {s t : Screen} {p : Drawing} {ps : List Drawing} {hit : Bool}

theorem SamePixels.refl (s : Screen) : s.SamePixels s :=
  ⟨_, _, rfl⟩

theorem SamePixels.trans {u : Screen} (h : s.SamePixels t) (k : t.SamePixels u) :
    s.SamePixels u := by
  obtain ⟨_, _, rfl⟩ := h
  obtain ⟨_, _, rfl⟩ := k
  exact ⟨_, _, rfl⟩

theorem SamePixels.inverted (h : s.SamePixels t) (ps : List Drawing) :
    (s.inverted ps).SamePixels (t.inverted ps) := by
  obtain ⟨_, _, rfl⟩ := h
  exact ⟨_, _, rfl⟩

theorem inverted_nil (s : Screen) : s.inverted [] = s :=
  congrArg (fun pixels => { s with pixels := pixels }) s.pixels.inverted_nil

theorem inverted_append (s : Screen) (first second : List Drawing) :
    s.inverted (first ++ second) = (s.inverted first).inverted second :=
  congrArg (fun pixels => { s with pixels := pixels }) (s.pixels.inverted_append first second)

/-- A sprite that was drawn is a drawing on the screen, and a lit pixel was met if one of its bits
met one. -/
theorem draw?_law (h : s.draw? p.x.toNat p.y.toNat p.sprite = some (t, hit)) :
    t = s.inverted [p] ∧ (hit = true ↔ ∃ u v, Erases (s.pixels.lit u v) (p.strokes u v)) := by
  obtain ⟨pixels, rfl, hlit, hhit⟩ := plot?_law h
  have hpixels : pixels = s.pixels.inverted [p] := by
    apply Bitmap.ext_lit
    intro u v
    rw [hlit, Bitmap.lit_inverted, List.map_singleton, List.sum_singleton]
    rfl
  rw [hpixels]
  exact ⟨rfl, hhit⟩

/-- On a screen with pixels any drawings can be drawn. -/
theorem drawAll?_eq (hwidth : 0 < s.width) (hheight : 0 < s.height) (ps : List Drawing) :
    s.drawAll? ps = some (s.inverted ps) := by
  induction ps generalizing s with
  | nil => rw [inverted_nil, drawAll?]
  | cons p ps ih =>
    obtain ⟨⟨t, hit⟩, hdrawn⟩ := Option.isSome_iff_exists.mp
      (isSome_draw? hwidth hheight p.x.toNat p.y.toNat p.sprite)
    obtain ⟨rfl, -⟩ := draw?_law hdrawn
    have hrest := ih (s := s.inverted [p]) hwidth hheight
    rw [← inverted_append, List.singleton_append] at hrest
    rw [drawAll?, hdrawn]
    exact hrest

/-- The same drawing twice leaves the screen as it was. -/
theorem inverted_twice (s : Screen) (p : Drawing) : (s.inverted [p]).inverted [p] = s := by
  have hpixels : (s.pixels.inverted [p]).inverted [p] = s.pixels := by
    apply Bitmap.ext_lit
    intro u v
    rw [Bitmap.lit_inverted, Bitmap.lit_inverted, turned_same]
  exact congrArg (fun pixels => { s with pixels := pixels }) hpixels

/-- On a screen with pixels a drawing can be drawn, whatever is published there. -/
theorem exists_draw? (h : s.SamePixels t) (hwidth : 0 < s.width) (hheight : 0 < s.height)
    (p : Drawing) :
    ∃ u hit, t.draw? p.x.toNat p.y.toNat p.sprite = some (u, hit) ∧
      (s.inverted [p]).SamePixels u ∧
      (hit = true ↔ ∃ x y, Erases (s.pixels.lit x y) (p.strokes x y)) := by
  obtain ⟨frame, renders, ht⟩ := h
  obtain ⟨⟨u, hit⟩, hdrawn⟩ := Option.isSome_iff_exists.mp <|
    isSome_draw? (s := t) (ht ▸ hwidth) (ht ▸ hheight) p.x.toNat p.y.toNat p.sprite
  obtain ⟨hu, hhit⟩ := draw?_law hdrawn
  subst ht
  exact ⟨u, hit, hdrawn, ⟨frame, renders, hu⟩, hhit⟩

/-- Drawing the same again meets the pixels that the first time left. -/
theorem exists_erases_inverted (s : Screen) (p : Drawing) :
    (∃ u v, Erases ((s.inverted [p]).pixels.lit u v) (p.strokes u v)) ↔
      ∃ u v, Erases (turned (s.pixels.lit u v) (p.strokes u v)) (p.strokes u v) := by
  refine exists₂_congr fun u v => iff_of_eq (congrArg (Erases · _) ?_)
  exact (s.pixels.lit_inverted [p] u v).trans (congrArg (turned _) (List.sum_singleton ..))

end Screen

/-! ## Runs -/

/-- What a drawing instruction draws. -/
def Machine.drawing (m : Machine) (x y n : Nibble) : Drawing where
  x := m.register x
  y := m.register y
  sprite := m.memory.slice m.index.toNat n.val

namespace Console

/-- What a step from the console draws, if it draws something. -/
def drawing? (c : Console) : Option Drawing :=
  match c.executes? with
  | some (.draw x y n) => some (c.machine.drawing x y n)
  | _ => none

/-- What is drawn in a history, in order. -/
def drawn (c : Console) (ops : List Operation) : List Drawing :=
  (c.passed ops).filterMap drawing?

variable {c d : Console}

/-- No other instruction touches the screen. -/
theorem screen_of_other {i : Instruction} (hd : c.execute i = .ok d) (hclear : i ≠ .clear)
    (hdraw : ∀ x y n, i ≠ .draw x y n) : d.screen = c.screen := by
  rw [execute_eq] at hd
  cases i with
  | clear => exact absurd rfl hclear
  | draw x y n => exact absurd rfl (hdraw x y n)
  | ret | call | readDelay =>
    simp only [effect] at hd
    split at hd <;> cases hd
    rfl
  | fetch =>
    cases hd
    exact withMachine_screen _ _
  | _ =>
    cases hd
    rfl

/-- A step draws what it executes, and unless it clears the screen it does nothing else to it. -/
theorem screen_step (hclear : c.executes? ≠ some .clear) :
    c.step.1.screen = c.screen.inverted c.drawing?.toList := by
  have hnone (h : c.executes? = none) : c.screen.inverted c.drawing?.toList = c.screen := by
    rw [drawing?, h]
    exact c.screen.inverted_nil
  rcases hx : c.step with ⟨d, r⟩
  cases stepped_of_eq hx with
  | halted | paused => rw [hnone (by simp [executes?, hx])]
  | unknown =>
    rw [hnone (by simp [executes?, hx])]
    rfl
  | faulted =>
    rw [hnone (by simp [executes?, hx]), haltAt_fetched]
  | refused =>
    rw [hnone (by simp [executes?, hx]), fetched_eq]
  | @executed i d hh hp hi hd =>
    have hexecutes : c.executes? = some i := executes?_of_execute hh hp hi hd
    rw [fetched_eq] at hd
    show d.screen = _
    by_cases hdraw : ∃ x y n, i = .draw x y n
    · obtain ⟨x, y, n, rfl⟩ := hdraw
      simp only [execute_eq, effect] at hd
      split at hd <;> cases hd
      rename_i t hit hdrawn
      rw [drawing?, hexecutes]
      exact (Screen.draw?_law (p := c.machine.drawing x y n) hdrawn).1
    · have hother : ∀ x y n, i ≠ .draw x y n := fun x y n h => hdraw ⟨x, y, n, h⟩
      rw [screen_of_other hd (fun h => hclear (h ▸ hexecutes)) hother, drawing?, hexecutes]
      cases i with
      | draw x y n => exact absurd rfl (hother x y n)
      | _ => exact c.screen.inverted_nil.symm

/-- What lies between two steps of a run publishes at most. -/
theorem Course.screen {via : List Console} (h : Course c via d)
    (hclear : .clear ∉ via.filterMap executes?) :
    (c.screen.inverted (via.filterMap drawing?)).SamePixels d.screen := by
  induction h with
  | nil c =>
    rw [List.filterMap_nil, Screen.inverted_nil]
    exact .refl _
  | @step c d via _ ih =>
    have hfirst : c.executes? ≠ some .clear := fun h =>
      hclear (List.mem_filterMap.mpr ⟨c, List.mem_cons_self, h⟩)
    have hrest := ih fun h => hclear <| by
      obtain ⟨e, he, hx⟩ := List.mem_filterMap.mp h
      exact List.mem_filterMap.mpr ⟨e, List.mem_cons_of_mem c he, hx⟩
    rw [screen_step hfirst, ← Screen.inverted_append] at hrest
    have hdrawn : (c :: via).filterMap drawing? = c.drawing?.toList ++ via.filterMap drawing? := by
      rw [List.filterMap_cons]
      cases c.drawing? <;> rfl
    rwa [hdrawn]
  | @endBatch c d via _ ih =>
    have hpublished : c.screen.SamePixels c.endBatch.screen := ⟨_, _, rfl⟩
    exact (hpublished.inverted _).trans (ih hclear)
  | countFrame _ ih => exact ih hclear

theorem screen_perform {op : Operation} (hr : ¬ op.Runs) (hs : ¬ op.Restarts) :
    (c.perform op).1.screen = c.screen := by
  obtain ⟨m, rom, keypad, hd, -⟩ := perform_apart c hr hs
  rw [hd]

/-- After a history in which nothing clears the screen or starts anything over, the pixels are those
from before it with the drawings of the history on them. -/
theorem screen_after {ops : List Operation} (hops : ∀ op ∈ ops, ¬ op.Restarts)
    (hclear : .clear ∉ c.executed ops) :
    (c.screen.inverted (c.drawn ops)).SamePixels (c.after ops).screen := by
  induction ops generalizing c with
  | nil =>
    show (c.screen.inverted []).SamePixels c.screen
    rw [Screen.inverted_nil]
    exact .refl _
  | cons op ops ih =>
    rw [executed, List.mem_append, not_or] at hclear
    have hfirst : (c.screen.inverted ((c.waypoints op).filterMap drawing?)).SamePixels
        (c.perform op).1.screen := by
      by_cases hr : op.Runs
      · exact (course_perform c hr).screen hclear.1
      · rw [waypoints_of_not_runs c hr, List.filterMap_nil, Screen.inverted_nil,
          screen_perform hr (hops op List.mem_cons_self)]
        exact .refl _
    have hrest := ih (fun o ho => hops o (List.mem_cons_of_mem op ho)) hclear.2
    rw [drawn, passed, List.filterMap_append, Screen.inverted_append]
    exact (hfirst.inverted _).trans hrest

/-! ## The same drawing twice -/

/-- The next step executes a drawing instruction. -/
structure DrawsNext (c : Console) (x y n : Nibble) : Prop where
  running : c.halted = false
  awake : c.machine.paused = false
  word : c.nextWord.toNat = 0xD000 + 0x100 * x.val + 0x10 * y.val + n.val

variable {s : Screen} {x y n : Nibble}

/-- The step draws, and puts into the flag register whether a lit pixel was met. -/
theorem step_draws (hs : s.SamePixels c.screen) (hwidth : 0 < s.width) (hheight : 0 < s.height)
    (h : c.DrawsNext x y n) :
    ∃ d hit, c.step = (d, .ok true) ∧
      (s.inverted [c.machine.drawing x y n]).SamePixels d.screen ∧
      d.machine = c.machine.advance.setRegister Machine.flag (if hit then 1 else 0) ∧
      (hit = true ↔
        ∃ u v, Erases (s.pixels.lit u v) ((c.machine.drawing x y n).strokes u v)) := by
  obtain ⟨t, hit, hdrawn, hpixels, hhit⟩ :=
    Screen.exists_draw? hs hwidth hheight (c.machine.drawing x y n)
  have hi : Instruction.decode? c.nextWord = some (.draw x y n) :=
    Instruction.decode?_of_toNat rfl h.word
  exact ⟨_, hit, step_of_draw h.running h.awake hi hdrawn, hpixels, rfl, hhit⟩

end Console

namespace Machine

variable {m m' : Machine} {x y n : Nibble} {width height : Nat}

/-- The flag is not part of a drawing, unless the place is taken from the flag register. -/
theorem drawing_of_flag {b : UInt8} (h : m' = m.advance.setRegister flag b) (hx : x ≠ flag)
    (hy : y ≠ flag) : m'.drawing x y n = m.drawing x y n := by
  have hkept {r : Nibble} (hr : r ≠ flag) : m'.register r = m.register r := by
    rw [h, register_setRegister, if_neg hr.symm]
    rfl
  rw [drawing, hkept hx, hkept hy, h]
  rfl

theorem strokes_drawing (m : Machine) (x y n : Nibble) (u : Fin width) (v : Fin height) :
    (m.drawing x y n).strokes u v = m.coverage x y n u v :=
  m.strokes_eq_coverage x y n u v

/-- The flag register holds one if the statement is true, and zero if it is false. -/
def FlagTells (m : Machine) (p : Prop) : Prop :=
  (m.register flag = 1 ↔ p) ∧ (m.register flag = 0 ↔ ¬ p)

theorem flagTells_of_flag {hit : Bool} {p : Prop}
    (h : m' = m.advance.setRegister flag (if hit then 1 else 0)) (hp : hit = true ↔ p) :
    m'.FlagTells p := by
  have hflag : m'.register flag = if hit then 1 else 0 := by
    rw [h, register_setRegister, if_pos rfl]
  rw [FlagTells, hflag, ← hp]
  cases hit <;> decide

end Machine

namespace Console

/-- Drawings are inversions, so their order does not matter and the same one twice is none.

Take a screen with pixels and any drawings. Drawing them one after another succeeds, with the same
screen at the end whatever the order. The same pixels are at the end of every history that starts from
the pixels of this screen and draws these drawings in any order, by whichever programs, if the screen
is not cleared and nothing is started over meanwhile.

Now let a console with these pixels draw. Unless the place is taken from the flag register, the
drawing can be found in its registers and memory afterwards as it was before. Whichever console with
the pixels that are left draws the same again, the pixels are afterwards what they were before the
first time. If the screen is as large as a sprite, the flag tells the first time whether a set bit
fell on a lit pixel, and the second time whether one fell on a pixel that had been dark. -/
theorem drawings_commute_and_cancel {s : Screen} (hwidth : 0 < s.width) (hheight : 0 < s.height) :
    (∀ ps : List Drawing, ∃ t, (∀ qs, qs.Perm ps → s.drawAll? qs = some t) ∧
      ∀ (c : Console) (ops : List Operation), s.SamePixels c.screen →
        (∀ op ∈ ops, ¬ op.Restarts) → .clear ∉ c.executed ops → (c.drawn ops).Perm ps →
          t.SamePixels (c.after ops).screen) ∧
    ∀ (c : Console) (x y n : Nibble), s.SamePixels c.screen → c.DrawsNext x y n →
      let covers (u : Fin s.width) (v : Fin s.height) := 1 ≤ c.machine.coverage x y n u v
      ∃ d, c.step = (d, .ok true) ∧
        (x ≠ Machine.flag → y ≠ Machine.flag → d.machine.index = c.machine.index ∧
          d.machine.memory = c.machine.memory ∧ d.machine.drawing x y n = c.machine.drawing x y n) ∧
        ∀ e : Console, d.screen.SamePixels e.screen → e.DrawsNext x y n →
          e.machine.drawing x y n = c.machine.drawing x y n →
          ∃ f, e.step = (f, .ok true) ∧ s.SamePixels f.screen ∧
            (8 ≤ s.width → 15 ≤ s.height →
              d.machine.FlagTells (∃ u v, covers u v ∧ s.pixels.lit u v = true) ∧
              f.machine.FlagTells (∃ u v, covers u v ∧ s.pixels.lit u v = false)) := by
  refine ⟨?_, ?_⟩
  · intro ps
    refine ⟨s.inverted ps, ?_, ?_⟩
    · intro qs hqs
      rw [Screen.drawAll?_eq hwidth hheight, Screen.inverted, Bitmap.inverted_perm _ hqs]
      rfl
    · intro c ops hs hops hclear hps
      have hend := screen_after hops hclear
      have hstart := hs.inverted (c.drawn ops)
      rw [Screen.inverted, Bitmap.inverted_perm _ hps] at hstart
      exact hstart.trans hend
  · intro c x y n hs hnext covers
    obtain ⟨d, hit, hstep, hfirst, hd, hhit⟩ := step_draws hs hwidth hheight hnext
    refine ⟨d, hstep, ?_, ?_⟩
    · intro hx hy
      exact ⟨by rw [hd]; rfl, by rw [hd]; rfl, Machine.drawing_of_flag hd hx hy⟩
    · intro e he hagain hsame
      obtain ⟨f, hit', hstep', hsecond, hf, hhit'⟩ :=
        step_draws (hfirst.trans he) hwidth hheight hagain
      rw [hsame, Screen.inverted_twice] at hsecond
      refine ⟨f, hstep', hsecond, ?_⟩
      intro hw hh
      have hone (u : Fin s.width) (v : Fin s.height) :
          (c.machine.drawing x y n).strokes u v ≤ 1 := by
        rw [Machine.strokes_drawing]
        exact Machine.coverage_le_one hw hh c.machine x y n u v
      rw [hsame, Screen.exists_erases_inverted] at hhit'
      refine ⟨Machine.flagTells_of_flag hd (hhit.trans (exists₂_congr fun u v => ?_)),
        Machine.flagTells_of_flag hf (hhit'.trans (exists₂_congr fun u v => ?_))⟩
      · rw [erases_iff_of_le_one (hone u v), Machine.strokes_drawing]
      · rw [erases_turned_iff_of_le_one (hone u v), Machine.strokes_drawing]

/-- A console with a screen that is as large as a sprite. -/
def withSmallScreen : Console :=
  new (Screen.blank 8 15) (.ofArray #[]) (.number 10) 440

/-- The same console, about to draw the digit zero twice. -/
def aboutToDrawTwice : Console :=
  withSmallScreen.after [.loadRom [0xD0, 0x05, 0xD0, 0x05]]

/-- A run that draws the digits zero and one. -/
def zeroThenOne : List Operation :=
  [.loadRom [0xD0, 0x05, 0xA0, 0x05, 0xD0, 0x05], .runCycles 3]

/-- A run that draws the digits one and zero. -/
def oneThenZero : List Operation :=
  [.loadRom [0xA0, 0x05, 0xD0, 0x05, 0xA0, 0x00, 0xD0, 0x05], .runCycles 4]

/-- The digits zero and one, in the left upper corner. -/
def zeroAndOne : List Drawing :=
  [⟨0, 0, [0xF0, 0x90, 0x90, 0x90, 0xF0]⟩, ⟨0, 0, [0x20, 0x60, 0x20, 0x20, 0x70]⟩]

theorem drawings_commute_and_cancel_on_small_screen :
    (∃ t, (Screen.blank 8 15).drawAll? zeroAndOne.reverse = some t ∧
      t.SamePixels (withSmallScreen.after zeroThenOne).screen ∧
        t.SamePixels (withSmallScreen.after oneThenZero).screen) ∧
    ∃ d f, aboutToDrawTwice.step = (d, .ok true) ∧ d.step = (f, .ok true) ∧
      (Screen.blank 8 15).SamePixels f.screen ∧
      d.machine.register Machine.flag = 0 ∧ f.machine.register Machine.flag = 1 := by
  have hlaw := drawings_commute_and_cancel (s := Screen.blank 8 15) (by decide) (by decide)
  constructor
  · obtain ⟨t, hlists, hruns⟩ := hlaw.1 zeroAndOne
    have hstart : (Screen.blank 8 15).SamePixels withSmallScreen.screen := ⟨_, _, rfl⟩
    have hforward : .clear ∉ withSmallScreen.executed zeroThenOne ∧
        withSmallScreen.drawn zeroThenOne = zeroAndOne := by decide +kernel
    have hbackward : .clear ∉ withSmallScreen.executed oneThenZero ∧
        withSmallScreen.drawn oneThenZero = zeroAndOne.reverse := by decide +kernel
    refine ⟨t, hlists _ (List.reverse_perm _), hruns _ _ hstart ?_ hforward.1 (.of_eq hforward.2),
      hruns _ _ hstart ?_ hbackward.1 ((List.Perm.of_eq hbackward.2).trans (List.reverse_perm _))⟩
    · simp [zeroThenOne, Operation.Restarts]
    · simp [oneThenZero, Operation.Restarts]
  · have hstart : (Screen.blank 8 15).SamePixels aboutToDrawTwice.screen := ⟨_, _, rfl⟩
    have hfirst : aboutToDrawTwice.DrawsNext 0 0 5 :=
      ⟨by decide +kernel, by decide +kernel, by decide +kernel⟩
    obtain ⟨d, hstep, hkept, hagain⟩ := hlaw.2 aboutToDrawTwice 0 0 5 hstart hfirst
    have hd : d = aboutToDrawTwice.step.1 := by rw [hstep]
    have hsecond : d.DrawsNext 0 0 5 := by
      rw [hd]
      exact ⟨by decide +kernel, by decide +kernel, by decide +kernel⟩
    obtain ⟨f, hstep', hpixels, hflags⟩ :=
      hagain d (.refl _) hsecond (hkept (by decide) (by decide)).2.2
    obtain ⟨hflag, hflag'⟩ := hflags (by decide) (by decide)
    have hdark : ∀ u v, (Screen.blank 8 15).pixels.lit u v = false := Bitmap.lit_dark
    refine ⟨d, f, hstep, hstep', hpixels, hflag.2.mpr ?_, hflag'.1.mpr ?_⟩
    · rintro ⟨u, v, -, hlit⟩
      exact Bool.false_ne_true ((hdark u v).symm.trans hlit)
    · refine ⟨⟨0, by decide⟩, ⟨0, by decide⟩, ?_, hdark _ _⟩
      decide +kernel

end Console

end ChipEight
