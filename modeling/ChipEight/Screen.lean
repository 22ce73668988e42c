/-
# ChipEight.Screen -- pixels and published frames

A screen has a grid of pixels that is drawn into, and a frame: the grid as it was when it was last
published. Readers of the frame never see a picture that is half drawn.

Drawing inverts pixels. Coordinates are integers and wrap at both sides, so every pixel has one
place; only on a screen with a side of length zero is there no place at all, and `toggle?` has no
answer. A sprite is a list of bytes, one for each row of eight pixels, with the leftmost pixel in
the highest bit. `draw` inverts the pixels under the set bits in reading order, one after another,
and tells whether one of them was lit when its turn came. It stops where there is no pixel; but if a
place is missing on a screen, all are, so a sprite is drawn as a whole or not at all (`plot_eq`).
-/
import ChipEight.Room

namespace ChipEight

/-! ## Bitmaps -/

/-- A grid of pixels, lit or dark. -/
@[ext] structure Bitmap (width height : Nat) where
  /-- The rows from top to bottom, each from left to right. -/
  rows : Vector (Vector Bool width) height
  deriving DecidableEq

namespace Bitmap

variable {width height : Nat}

/-- All pixels dark. -/
def dark (width height : Nat) : Bitmap width height :=
  ⟨Vector.ofFn fun _ => Vector.replicate width false⟩

/-- Whether a pixel is lit. -/
def lit (b : Bitmap width height) (x : Fin width) (y : Fin height) : Bool :=
  b.rows[y.val][x.val]

/-- The grid with one pixel inverted. -/
def toggle (b : Bitmap width height) (x : Fin width) (y : Fin height) : Bitmap width height :=
  ⟨b.rows.set y.val (b.rows[y.val].set x.val (!b.lit x y))⟩

/-- The rows as lists. -/
def toLists (b : Bitmap width height) : List (List Bool) :=
  b.rows.toList.map Vector.toList

/-- The number of lit pixels. -/
def litCount (b : Bitmap width height) : Nat :=
  b.toLists.foldr (fun row n => row.countP id + n) 0

/-- The rows as text, one line for each. -/
def text (b : Bitmap width height) (on off : Text) : Text :=
  Text.joinWith ['\n'] (b.toLists.map fun row =>
    row.flatMap fun pixel => if pixel then on else off)

theorem lit_dark (x : Fin width) (y : Fin height) : (dark width height).lit x y = false := by
  simp [lit, dark]

/-- Inverting a pixel changes that pixel and no other. -/
theorem lit_toggle (b : Bitmap width height) (x u : Fin width) (y v : Fin height) :
    (b.toggle x y).lit u v = if x = u ∧ y = v then !b.lit x y else b.lit u v := by
  simp only [toggle, lit, Vector.getElem_set]
  by_cases hy : y = v
  · subst hy
    simp only [if_true, Vector.getElem_set, Fin.ext_iff, and_true]
  · have hv : y.val ≠ v.val := fun h => hy (Fin.ext h)
    simp [hv, hy]

/-- Two grids are equal if all their pixels are. -/
theorem ext_lit {b c : Bitmap width height} (h : ∀ x y, b.lit x y = c.lit x y) : b = c := by
  apply Bitmap.ext
  apply Vector.ext
  intro y hy
  apply Vector.ext
  intro x hx
  exact h ⟨x, hx⟩ ⟨y, hy⟩

end Bitmap

/-! ## Screens -/

/-- Why there is no screen with given sides. -/
inductive SideError where
  /-- A side does not fit into 64 bits with a sign. -/
  | tooLong
  /-- A side is negative. -/
  | negative
  /-- There is no room for the pixels. -/
  | noRoom (error : ArrayError)
  deriving DecidableEq, Repr

/-- The words for the error. -/
def SideError.message : SideError → Text
  | .tooLong => "Maximum allowed dimension exceeded".toList
  | .negative => "negative dimensions are not allowed".toList
  | .noRoom e => e.message

/-- The place of a coordinate on a side. -/
def wrap (n : Int) {size : Nat} (h : 0 < size) : Fin size :=
  ⟨(n % size).toNat, by
    have hnonneg := Int.emod_nonneg n (b := size) (by omega)
    have hlt := Int.emod_lt_of_pos n (b := size) (by omega)
    omega⟩

/-- A screen. -/
structure Screen where
  /-- The pixels in a row. -/
  width : Nat
  /-- The number of rows. -/
  height : Nat
  /-- The grid that is drawn into. -/
  pixels : Bitmap width height
  /-- The grid as it was last published. -/
  frame : Bitmap width height
  /-- How often the grid was published. -/
  renders : Nat
  deriving DecidableEq

/-- The places of the set bits of a sprite, as column and row, in reading order. -/
def spots (sprite : List UInt8) : List (Nat × Nat) :=
  sprite.zipIdx.flatMap fun (bits, row) =>
    (List.range 8).filterMap fun column =>
      if bits.toNat.testBit (7 - column) then some (column, row) else none

namespace Screen

/-- A dark screen. -/
def blank (width height : Nat) : Screen where
  width := width
  height := height
  pixels := Bitmap.dark width height
  frame := Bitmap.dark width height
  renders := 0

/-- A dark screen with sides given as integers. -/
def ofSides (width height : Int) : Except SideError Screen :=
  if !fits width || !fits height then .error .tooLong
  else if width < 0 ∨ height < 0 then .error .negative
  else
    match arrayRoom .pixels [height.toNat, width.toNat] with
    | .error e => .error (.noRoom e)
    | .ok () => .ok (blank width.toNat height.toNat)

/-- A dark screen of 64 by 32 pixels. -/
def standard : Screen :=
  blank 64 32

/-- The screen with one pixel inverted, and whether that pixel was lit. There is no pixel on a
screen with a side of length zero. -/
def toggle? (s : Screen) (x y : Int) : Option (Screen × Bool) :=
  if h : 0 < s.width ∧ 0 < s.height then
    let column := wrap x h.1
    let row := wrap y h.2
    some ({ s with pixels := s.pixels.toggle column row }, s.pixels.lit column row)
  else none

/-- Inverts the pixels at the places, moved by `x` and `y`, one after another, and tells whether one
of them was lit. Where there is no pixel it stops without an answer, and the pixels before that place
are inverted. -/
def plot (x y : Nat) : Screen → List (Nat × Nat) → Screen × Option Bool
  | s, [] => (s, some false)
  | s, (column, row) :: places =>
    match s.toggle? (x + column : Nat) (y + row : Nat) with
    | none => (s, none)
    | some (t, erased) =>
      let drawn := plot x y t places
      (drawn.1, drawn.2.map (erased || ·))

/-- Draws a sprite with its left upper corner at `x` and `y`. -/
def draw (s : Screen) (x y : Nat) (sprite : List UInt8) : Screen × Option Bool :=
  plot x y s (spots sprite)

/-- The screen with the pixels at the places inverted, if there are such pixels. -/
def plot? (x y : Nat) (s : Screen) (places : List (Nat × Nat)) : Option (Screen × Bool) :=
  (plot x y s places).2.map ((plot x y s places).1, ·)

/-- The screen with the sprite drawn on it, if there are pixels for it. -/
def draw? (s : Screen) (x y : Nat) (sprite : List UInt8) : Option (Screen × Bool) :=
  plot? x y s (spots sprite)

/-- Makes all pixels dark. -/
def clear (s : Screen) : Screen :=
  { s with pixels := Bitmap.dark s.width s.height }

/-- Publishes the pixels. -/
def render (s : Screen) : Screen :=
  { s with frame := s.pixels, renders := s.renders + 1 }

/-- The screen as it was when it was made. -/
def reset (s : Screen) : Screen :=
  { s.clear with frame := s.clear.pixels, renders := 0 }

theorem reset_eq_blank (s : Screen) : s.reset = blank s.width s.height := rfl

/-! ## Drawing is done as a whole -/

theorem plot?_cons (x y : Nat) (s : Screen) (column row : Nat) (places : List (Nat × Nat)) :
    plot? x y s ((column, row) :: places) =
      match s.toggle? (x + column : Nat) (y + row : Nat) with
      | none => none
      | some (t, erased) =>
        match plot? x y t places with
        | none => none
        | some (u, hit) => some (u, erased || hit) := by
  unfold plot?
  rw [plot]
  cases s.toggle? (x + column : Nat) (y + row : Nat) with
  | none => rfl
  | some drawn =>
    dsimp only
    cases (plot x y drawn.1 places).2 <;> rfl

/-- On a screen with pixels every place has one. -/
theorem isSome_toggle? {s : Screen} (hw : 0 < s.width) (hh : 0 < s.height) (x y : Int) :
    (s.toggle? x y).isSome = true := by
  rw [toggle?, dif_pos ⟨hw, hh⟩]
  rfl

theorem sides_of_toggle? {s t : Screen} {x y : Int} {lit : Bool}
    (h : s.toggle? x y = some (t, lit)) :
    (0 < s.width ∧ 0 < s.height) ∧ t.width = s.width ∧ t.height = s.height := by
  unfold toggle? at h
  split at h
  · cases h
    exact ⟨‹_›, rfl, rfl⟩
  · cases h

theorem isSome_plot? {s : Screen} (hw : 0 < s.width) (hh : 0 < s.height) (x y : Nat)
    (places : List (Nat × Nat)) : (plot? x y s places).isSome = true := by
  induction places generalizing s with
  | nil => rfl
  | cons place places ih =>
    obtain ⟨⟨t, erased⟩, ht⟩ :=
      Option.isSome_iff_exists.mp (isSome_toggle? hw hh (x + place.1 : Nat) (y + place.2 : Nat))
    obtain ⟨-, hwidth, hheight⟩ := sides_of_toggle? ht
    obtain ⟨⟨u, hit⟩, hu⟩ := Option.isSome_iff_exists.mp (ih (hwidth ▸ hw) (hheight ▸ hh))
    rw [plot?_cons]
    simp only [ht, hu, Option.isSome_some]

/-- On a screen with pixels every sprite is drawn. -/
theorem isSome_draw? {s : Screen} (hw : 0 < s.width) (hh : 0 < s.height) (x y : Nat)
    (sprite : List UInt8) : (s.draw? x y sprite).isSome = true :=
  isSome_plot? hw hh x y _

/-- A sprite that is not drawn has left no trace: if one place is missing, so is the first. -/
theorem plot_eq (x y : Nat) (s : Screen) (places : List (Nat × Nat)) :
    plot x y s places =
      match plot? x y s places with
      | none => (s, none)
      | some (t, hit) => (t, some hit) := by
  cases hplot : plot? x y s places with
  | some drawn =>
    obtain ⟨t, hit⟩ := drawn
    obtain ⟨hit', hhit, heq⟩ := Option.map_eq_some_iff.mp hplot
    cases heq
    exact Prod.ext rfl hhit
  | none =>
    have hnone := Option.map_eq_none_iff.mp hplot
    refine Prod.ext ?_ hnone
    cases places with
    | nil => rfl
    | cons place places =>
      rw [plot]
      cases htoggle : s.toggle? (x + place.1 : Nat) (y + place.2 : Nat) with
      | none => rfl
      | some drawn =>
        obtain ⟨⟨hw, hh⟩, -, -⟩ := sides_of_toggle? htoggle
        have hsome := isSome_plot? hw hh x y (place :: places)
        rw [hplot] at hsome
        cases hsome

end Screen

end ChipEight
