/-
# ChipEight.Proofs.Sprites -- what drawing does to each pixel

A sprite is drawn bit by bit, and every set bit inverts one pixel. On a small screen several bits of
one sprite fall on the same pixel, so what becomes of a pixel depends on how many do. `strokes` counts
them for the places that `Screen.plot?` goes through, and two things follow from the count alone,
whatever the order: the pixel is inverted so many times (`turned`), and one of the inversions meets it
lit if it was lit before the first one or there is a second one (`Erases`). This is one induction along
the places, with one pixel under the pen in each step (`plot?_law`).

`coverage` counts the same from the other side, over rows and columns of the sprite in memory, without
a list of places. The law about the drawing instruction is stated with it.
-/
import ChipEight.Proofs.Decoding
import ChipEight.Proofs.Footprint
import ChipEight.Proofs.History
import Mathlib.Algebra.BigOperators.Group.Finset.Piecewise
import Mathlib.Algebra.BigOperators.Group.Finset.Sigma
import Mathlib.Data.Nat.Count
import Mathlib.Data.Nat.ModEq

namespace ChipEight

/-! ## One pixel -/

/-- A pixel that was inverted so many times. -/
def turned (lit : Bool) (times : Nat) : Bool :=
  lit ^^ decide (times % 2 = 1)

/-- One of so many inversions meets the pixel lit. -/
def Erases (lit : Bool) (times : Nat) : Prop :=
  1 ≤ times ∧ lit = true ∨ 2 ≤ times

theorem turned_zero (lit : Bool) : turned lit 0 = lit := by
  simp [turned]

/-- One more inversion in front, if there is one. -/
theorem turned_stroke (lit : Bool) (times : Nat) (p : Prop) [Decidable p] :
    turned lit (times + if p then 1 else 0) = turned (if p then !lit else lit) times := by
  unfold turned
  split
  · rcases Nat.mod_two_eq_zero_or_one times with h | h
    · have hnext : (times + 1) % 2 = 1 := by omega
      simp [h, hnext]
    · have hnext : (times + 1) % 2 = 0 := by omega
      simp [h, hnext]
  · rfl

theorem not_erases_zero (lit : Bool) : ¬ Erases lit 0 := by
  simp [Erases]

/-- The inversion in front meets the pixel as it was, and the others meet what it leaves. -/
theorem erases_stroke (lit : Bool) (times : Nat) (p : Prop) [Decidable p] :
    Erases lit (times + if p then 1 else 0) ↔
      (p ∧ lit = true) ∨ Erases (if p then !lit else lit) times := by
  unfold Erases
  by_cases hp : p
  · cases lit with
    | true => simp [hp]
    | false =>
      simp only [hp, if_true, Bool.not_false, Bool.false_eq_true, and_false, and_true, false_or]
      omega
  · simp [hp]

/-! ## Places -/

namespace Screen

/-- The place, moved by `x` and `y` and wrapped at both sides of the screen, is the pixel. -/
def FallsOn {width height : Nat} (x y : Nat) (u : Fin width) (v : Fin height)
    (place : Nat × Nat) : Prop :=
  (x + place.1) % width = u.val ∧ (y + place.2) % height = v.val

instance {width height : Nat} (x y : Nat) (u : Fin width) (v : Fin height) :
    DecidablePred (FallsOn x y u v) :=
  fun _ => inferInstanceAs (Decidable (_ ∧ _))

/-- How many of the places fall on the pixel. -/
def strokes {width height : Nat} (x y : Nat) (places : List (Nat × Nat)) (u : Fin width)
    (v : Fin height) : Nat :=
  places.countP fun place => FallsOn x y u v place

theorem val_wrap {size : Nat} (n : Nat) (h : 0 < size) : (wrap n h).val = n % size := by
  show ((n : Int) % size).toNat = n % size
  omega

/-- On a screen with pixels a place falls on one of them, and that one is inverted. -/
theorem toggle?_eq_some {s t : Screen} {x y : Nat} {erased : Bool}
    (h : s.toggle? x y = some (t, erased)) :
    ∃ (column : Fin s.width) (row : Fin s.height),
      column.val = x % s.width ∧ row.val = y % s.height ∧
        t = { s with pixels := s.pixels.toggle column row } ∧ erased = s.pixels.lit column row := by
  unfold toggle? at h
  split at h
  · rename_i hs
    cases h
    exact ⟨_, _, val_wrap x hs.1, val_wrap y hs.2, rfl, rfl⟩
  · cases h

/-- The pixel under the pen has one stroke more than the places behind give it. -/
theorem strokes_cons {width height : Nat} {x y : Nat} {place : Nat × Nat} {column : Fin width}
    {row : Fin height} (hcolumn : column.val = (x + place.1) % width)
    (hrow : row.val = (y + place.2) % height) (places : List (Nat × Nat)) (u : Fin width)
    (v : Fin height) :
    strokes x y (place :: places) u v =
      strokes x y places u v + if column = u ∧ row = v then 1 else 0 := by
  have hfalls : FallsOn x y u v place ↔ column = u ∧ row = v := by
    rw [FallsOn, ← hcolumn, ← hrow, Fin.ext_iff, Fin.ext_iff]
  simp only [strokes, List.countP_cons, hfalls, decide_eq_true_eq]

/-- Every pixel is inverted once for each place that falls on it, and a lit one was met if one of
these inversions meets it lit. -/
theorem plot?_law {s t : Screen} {x y : Nat} {places : List (Nat × Nat)} {hit : Bool}
    (h : plot? x y s places = some (t, hit)) :
    ∃ pixels : Bitmap s.width s.height, t = { s with pixels := pixels } ∧
      (∀ u v, pixels.lit u v = turned (s.pixels.lit u v) (strokes x y places u v)) ∧
      (hit = true ↔ ∃ u v, Erases (s.pixels.lit u v) (strokes x y places u v)) := by
  induction places generalizing s t hit with
  | nil =>
    cases h
    refine ⟨s.pixels, rfl, fun u v => (turned_zero _).symm, ?_⟩
    simp [strokes, not_erases_zero]
  | cons place places ih =>
    rw [plot?_cons] at h
    split at h
    · cases h
    rename_i r erased hr
    split at h
    · cases h
    rename_i later hlater
    cases h
    obtain ⟨column, row, hcolumn, hrow, rfl, rfl⟩ := toggle?_eq_some hr
    obtain ⟨pixels, hpixels, hlit, hhit⟩ := ih hlater
    have hstroke := strokes_cons hcolumn hrow places
    have htoggle : ∀ u v, (s.pixels.toggle column row).lit u v =
        if column = u ∧ row = v then !s.pixels.lit u v else s.pixels.lit u v := by
      intro u v
      rw [Bitmap.lit_toggle]
      split
      · rename_i hp
        rw [hp.1, hp.2]
      · rfl
    refine ⟨pixels, hpixels, ?_, ?_⟩
    · intro u v
      rw [hlit u v, hstroke u v, turned_stroke, htoggle]
    · have herased : s.pixels.lit column row = true ↔
          ∃ u v, (column = u ∧ row = v) ∧ s.pixels.lit u v = true := by
        constructor
        · exact fun hlit => ⟨column, row, ⟨rfl, rfl⟩, hlit⟩
        · rintro ⟨u, v, ⟨rfl, rfl⟩, hlit⟩
          exact hlit
      simp only [Bool.or_eq_true, hhit, herased, hstroke, erases_stroke, htoggle, exists_or]

end Screen

/-! ## Sprites in memory -/

/-- How many set bits of the `n` bytes at the index register fall on the pixel: the bit in a row and a
column of the sprite is moved by the two registers and wrapped at both sides of the screen, and the
byte of a row is taken from memory with its address wrapped. -/
def Machine.coverage {width height : Nat} (m : Machine) (x y n : Nibble) (u : Fin width)
    (v : Fin height) : Nat :=
  ((Finset.range n.val ×ˢ Finset.range 8).filter fun (row, column) =>
    (m.memory.read ((m.index.toNat + row) % 4096)).toNat.testBit (7 - column) = true ∧
      ((m.register x).toNat + column) % width = u.val ∧
      ((m.register y).toNat + row) % height = v.val).card

/-- The places of the set bits of one row. -/
def rowSpots (bits : UInt8) (row : Nat) : List (Nat × Nat) :=
  (List.range 8).filterMap fun column =>
    if bits.toNat.testBit (7 - column) then some (column, row) else none

theorem spots_concat (sprite : List UInt8) (bits : UInt8) :
    spots (sprite ++ [bits]) = spots sprite ++ rowSpots bits sprite.length := by
  simp [spots, rowSpots, List.zipIdx_append]

namespace Screen

variable {width height : Nat}

/-- The strokes of one row are its set bits in the right columns, if it is the right row. -/
theorem strokes_rowSpots (x y : Nat) (bits : UInt8) (row : Nat) (u : Fin width) (v : Fin height) :
    strokes x y (rowSpots bits row) u v =
      ∑ column ∈ Finset.range 8, if bits.toNat.testBit (7 - column) = true ∧
        (x + column) % width = u.val ∧ (y + row) % height = v.val then 1 else 0 := by
  rw [← Finset.card_filter, ← Nat.count_eq_card_filter_range, Nat.count, strokes, rowSpots,
    List.countP_filterMap]
  refine List.countP_congr fun column _ => ?_
  have hfalls : FallsOn x y u v (column, row) ↔
      (x + column) % width = u.val ∧ (y + row) % height = v.val := Iff.rfl
  by_cases hbit : bits.toNat.testBit (7 - column) = true
  · simp [hbit, ← hfalls]
  · simp [hbit]

theorem strokes_append (x y : Nat) (first second : List (Nat × Nat)) (u : Fin width)
    (v : Fin height) :
    strokes x y (first ++ second) u v = strokes x y first u v + strokes x y second u v :=
  List.countP_append

/-- The places of a sprite in memory give every pixel as many strokes as bits cover it. -/
theorem strokes_slice (m : Memory) (index : Nat) (x y n : Nat) (u : Fin width) (v : Fin height) :
    strokes x y (spots (m.slice index n)) u v =
      ∑ row ∈ Finset.range n, ∑ column ∈ Finset.range 8,
        if (m.read ((index + row) % 4096)).toNat.testBit (7 - column) = true ∧
          (x + column) % width = u.val ∧ (y + row) % height = v.val then 1 else 0 := by
  induction n with
  | zero => rfl
  | succ n ih =>
    have hlast : m.slice index (n + 1) = m.slice index n ++ [m.read ((index + n) % 4096)] := by
      rw [m.slice_add, m.slice_congr (b := (index + n) % 4096) (Int.emod_emod _ _).symm]
      simp [Memory.slice]
    have hlength : (m.slice index n).length = n := by simp [Memory.slice]
    rw [hlast, spots_concat, strokes_append, ih, strokes_rowSpots, hlength,
      Finset.sum_range_succ _ n]

end Screen

namespace Machine

variable {width height : Nat}

theorem strokes_eq_coverage (m : Machine) (x y n : Nibble) (u : Fin width) (v : Fin height) :
    Screen.strokes (m.register x).toNat (m.register y).toNat
      (spots (m.memory.slice m.index.toNat n.val)) u v = m.coverage x y n u v := by
  rw [Screen.strokes_slice, coverage, Finset.card_filter, Finset.sum_product]

/-- Two numbers less than `size` apart are equal if they wrap to the same place. -/
theorem eq_of_wrapped {base a b size : Nat} (h : (base + a) % size = (base + b) % size)
    (ha : a < size) (hb : b < size) : a = b :=
  Nat.ModEq.eq_of_lt_of_lt (Nat.ModEq.add_left_cancel' base h) ha hb

/-- On a screen that is as large as a sprite no two bits fall on one pixel. -/
theorem coverage_le_one (hwidth : 8 ≤ width) (hheight : 15 ≤ height) (m : Machine)
    (x y n : Nibble) (u : Fin width) (v : Fin height) : m.coverage x y n u v ≤ 1 := by
  refine Finset.card_le_one.mpr ?_
  rintro ⟨row, column⟩ ha ⟨row', column'⟩ hb
  simp only [Finset.mem_filter, Finset.mem_product, Finset.mem_range] at ha hb
  obtain ⟨⟨hrow, hcolumn⟩, -, hu, hv⟩ := ha
  obtain ⟨⟨hrow', hcolumn'⟩, -, hu', hv'⟩ := hb
  have hn := n.isLt
  have hrows : row = row' := eq_of_wrapped (hv.trans hv'.symm) (by omega) (by omega)
  have hcolumns : column = column' := eq_of_wrapped (hu.trans hu'.symm) (by omega) (by omega)
  rw [hrows, hcolumns]

end Machine

/-! ## The drawing instruction -/

namespace Console

theorem execute_draw {c : Console} {x y n : Nibble} {screen : Screen} {hit : Bool}
    (h : c.screen.draw? (c.machine.register x).toNat (c.machine.register y).toNat
      (c.machine.memory.slice c.machine.index.toNat n.val) = some (screen, hit)) :
    c.execute (.draw x y n) = .ok { c with
      machine := c.machine.setRegister Machine.flag (if hit then 1 else 0)
      screen := screen } := by
  rw [execute_eq]
  simp only [effect, h]

/-- What a step does that executes a drawing instruction: the fetch moves the program counter, which
the sprite does not depend on. -/
theorem step_of_draw {c : Console} (hh : c.halted = false) (hp : c.machine.paused = false)
    {x y n : Nibble} (hi : Instruction.decode? c.nextWord = some (.draw x y n)) {screen : Screen}
    {hit : Bool}
    (h : c.screen.draw? (c.machine.register x).toNat (c.machine.register y).toNat
      (c.machine.memory.slice c.machine.index.toNat n.val) = some (screen, hit)) :
    c.step = ({ c with
      machine := c.machine.advance.setRegister Machine.flag (if hit then 1 else 0)
      screen := screen
      cycles := c.cycles + 1
      trace := c.fetchRecord ++ c.trace }, .ok true) := by
  have hexecute : c.fetched.execute (.draw x y n) = .ok { c with
      machine := c.machine.advance.setRegister Machine.flag (if hit then 1 else 0)
      screen := screen
      trace := c.fetchRecord ++ c.trace } := by
    rw [fetched_eq]
    exact execute_draw h
  exact step_of_executed hh hp hi hexecute

/-- A drawing instruction inverts every pixel as often as set bits of the sprite cover it, and puts
one into the flag register if one of these inversions met a lit pixel and zero if none did. The sprite
stands where the two registers said before the instruction, whichever they are. Nothing else changes
but the program counter, the count of instructions and the record.

On a screen that is as large as a sprite no pixel is covered twice, so the flag says whether a set bit
covers a lit pixel. -/
theorem draw_law {c : Console} (hh : c.halted = false) (hp : c.machine.paused = false)
    (hwidth : 0 < c.screen.width) (hheight : 0 < c.screen.height) {x y n : Nibble}
    (hword : c.nextWord.toNat = 0xD000 + 0x100 * x.val + 0x10 * y.val + n.val) :
    let covered (u : Fin c.screen.width) (v : Fin c.screen.height) := c.machine.coverage x y n u v
    let lit := c.screen.pixels.lit
    ∃ (d : Console) (pixels : Bitmap c.screen.width c.screen.height) (hit : Bool),
      c.step = (d, .ok true) ∧ d.screen = { c.screen with pixels := pixels } ∧
        (∀ u v, pixels.lit u v = (lit u v ^^ decide (covered u v % 2 = 1))) ∧
        (∀ r, d.machine.register r =
          if r = Machine.flag then (if hit then 1 else 0) else c.machine.register r) ∧
        (hit = true ↔ ∃ u v, 1 ≤ covered u v ∧ lit u v = true ∨ 2 ≤ covered u v) ∧
        d = { c with
          machine := { c.machine with v := d.machine.v, pc := c.machine.pc + 2 }
          screen := d.screen
          cycles := c.cycles + 1
          trace := c.fetchRecord ++ c.trace } ∧
        (8 ≤ c.screen.width → 15 ≤ c.screen.height →
          (∀ u v, covered u v ≤ 1) ∧
            (hit = true ↔ ∃ u v, covered u v = 1 ∧ lit u v = true)) := by
  dsimp only
  have hi : Instruction.decode? c.nextWord = some (.draw x y n) := by
    obtain ⟨hg, rfl, rfl, rfl⟩ := Fields.ofWord_nibbles (g := 13) (x := x) (y := y) (n := n) hword
    exact Instruction.ofFields?_eq_some_iff.mpr (.draw hg)
  obtain ⟨⟨screen, hit⟩, hdrawn⟩ := Option.isSome_iff_exists.mp <|
    Screen.isSome_draw? hwidth hheight (c.machine.register x).toNat (c.machine.register y).toNat
      (c.machine.memory.slice c.machine.index.toNat n.val)
  obtain ⟨pixels, rfl, hlit, hhit⟩ := Screen.plot?_law hdrawn
  simp only [Machine.strokes_eq_coverage] at hlit hhit
  refine ⟨_, pixels, hit, step_of_draw hh hp hi hdrawn, rfl, hlit, ?_, hhit, rfl, ?_⟩
  · intro r
    rw [Machine.register_setRegister]
    simp only [eq_comm]
    rfl
  · intro hw hv
    have hone := Machine.coverage_le_one hw hv c.machine x y n
    refine ⟨hone, hhit.trans (exists₂_congr fun u v => ?_)⟩
    have := hone u v
    constructor
    · rintro (⟨hcovered, hlit⟩ | htwice)
      · exact ⟨by omega, hlit⟩
      · omega
    · rintro ⟨hcovered, hlit⟩
      exact .inl ⟨by omega, hlit⟩

/-- A console with a screen of three by two pixels, about to draw a sprite at the flag register: its
first row stands in the last cell of memory and its second row in the first cell. -/
def aboutToDraw : Console :=
  (new (Screen.blank 3 2) (.ofArray #[]) (.number 10) 440).after
    [.loadRom [0x6F, 0x02, 0xAF, 0xFF, 0xDF, 0x12], .loadProgram [0x91] 0xFFF, .step, .step]

theorem draw_law_around_both_sides :
    aboutToDraw.nextWord.toNat = 0xD000 + 0x100 * 15 + 0x10 * 1 + 2 ∧
      ∃ d pixels, aboutToDraw.step = (d, .ok true) ∧
        d.screen = { aboutToDraw.screen with pixels := pixels } ∧
        pixels.lit (wrap 0 (by decide +kernel)) (wrap 0 (by decide +kernel)) = true ∧
        pixels.lit (wrap 2 (by decide +kernel)) (wrap 0 (by decide +kernel)) = false ∧
        d.machine.register Machine.flag = 1 ∧ d.machine.index = 0xFFF := by
  have hword : aboutToDraw.nextWord.toNat =
      0xD000 + 0x100 * (15 : Nibble).val + 0x10 * (1 : Nibble).val + (2 : Nibble).val := by
    decide +kernel
  obtain ⟨d, pixels, hit, hstep, hscreen, hlit, hregister, hhit, hothers, -⟩ :=
    draw_law (by decide +kernel) (by decide +kernel) (by decide +kernel) (by decide +kernel) hword
  have hx : (aboutToDraw.machine.register 15).toNat = 2 := by decide +kernel
  have hy : (aboutToDraw.machine.register 1).toNat = 0 := by decide +kernel
  have hsprite : aboutToDraw.machine.memory.slice aboutToDraw.machine.index.toNat (2 : Nibble).val =
      [0x91, 0xF0] := by decide +kernel
  have hcovered (u : Fin aboutToDraw.screen.width) (v : Fin aboutToDraw.screen.height) :
      aboutToDraw.machine.coverage 15 1 2 u v = Screen.strokes 2 0 (spots [0x91, 0xF0]) u v := by
    rw [← Machine.strokes_eq_coverage, hx, hy, hsprite]
  simp only [hcovered] at hlit hhit
  -- two bits of the first row fall on the pixel at its right end
  have htwice : 2 ≤ Screen.strokes 2 0 (spots [0x91, 0xF0])
      (wrap 2 (by decide +kernel) : Fin aboutToDraw.screen.width)
      (wrap 0 (by decide +kernel) : Fin aboutToDraw.screen.height) := by decide +kernel
  have hflag := hregister Machine.flag
  rw [hhit.mpr ⟨_, _, .inr htwice⟩] at hflag
  have hindex : d.machine.index = aboutToDraw.machine.index := by rw [hothers]
  refine ⟨hword, d, pixels, hstep, hscreen, ?_, ?_, hflag, ?_⟩
  · rw [hlit]
    decide +kernel
  · rw [hlit]
    decide +kernel
  · rw [hindex]
    decide +kernel

end Console

end ChipEight
