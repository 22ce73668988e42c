/-
# ChipEight.Proofs.Snapshots -- what is published of a screen

A screen is touched in four ways: a pixel is inverted, all pixels are made dark, the pixels are
published, and the screen is started over, which makes them dark and publishes them. `snapshot_law` says
what any sequence of touches leaves behind in terms of the sequence alone. A pixel is lit if it was
inverted an odd number of times since the pixels were last made dark. The frame is what the pixels were
when they were last published (`published`), and nothing that was done since is seen in it.

The induction goes along the sequence from its end: what one more touch does is a case for each of the
four (`Snapshot.touched`), and the ends of a longer sequence are told by its last touch alone.
-/
import ChipEight.Proofs.Footprint
import ChipEight.Window.Picture
import Mathlib.Algebra.BigOperators.Fin
import Mathlib.Algebra.Ring.Parity
import Mathlib.Data.List.DropRight

namespace ChipEight

/-! ## Touches -/

/-- What is done with a screen. -/
inductive Touch where
  /-- A pixel is inverted. -/
  | toggle (x y : Int)
  /-- All pixels are made dark. -/
  | clear
  /-- The pixels are published. -/
  | render
  /-- The screen is started over. -/
  | reset
  deriving DecidableEq, Repr

namespace Touch

/-- It makes all pixels dark. -/
def darkens : Touch → Bool
  | clear | reset => true
  | toggle _ _ | render => false

/-- It publishes the pixels. -/
def publishes : Touch → Bool
  | render | reset => true
  | toggle _ _ | clear => false

/-- It inverts this pixel. Coordinates wrap at both sides. -/
def inverts {width height : Nat} (u : Fin width) (v : Fin height) : Touch → Bool
  | toggle x y => x % width = u.val ∧ y % height = v.val
  | clear | render | reset => false

end Touch

/-- The touches up to the last one that publishes the pixels. -/
def published (touches : List Touch) : List Touch :=
  touches.rdropWhile fun t => !t.publishes

/-- How often a pixel was inverted since the pixels were last made dark. -/
def inversions {width height : Nat} (touches : List Touch) (u : Fin width) (v : Fin height) : Nat :=
  (touches.rtakeWhile fun t => !t.darkens).countP (Touch.inverts u v)

/-- How often the pixels were published since the screen was last started over. -/
def rendersSince (touches : List Touch) : Nat :=
  (touches.rtakeWhile fun t => t != .reset).count .render

section Concat

variable {width height : Nat} (touches : List Touch) (t : Touch)

theorem published_concat :
    published (touches ++ [t]) = if t.publishes then touches ++ [t] else published touches := by
  unfold published
  rw [List.rdropWhile_concat]
  cases t.publishes <;> rfl

theorem inversions_concat (u : Fin width) (v : Fin height) :
    inversions (touches ++ [t]) u v =
      if t.darkens then 0 else inversions touches u v + if t.inverts u v then 1 else 0 := by
  unfold inversions
  rw [List.rtakeWhile_concat]
  cases t.darkens with
  | true => rfl
  | false =>
    show List.countP _ (_ ++ [t]) = _
    rw [List.countP_append, List.countP_singleton]
    rfl

theorem rendersSince_concat :
    rendersSince (touches ++ [t]) =
      if t = .reset then 0 else rendersSince touches + if t = .render then 1 else 0 := by
  unfold rendersSince
  rw [List.rtakeWhile_concat]
  by_cases hreset : t = .reset
  · simp [hreset]
  · have hkept : (t != .reset) = true := by simpa using hreset
    rw [if_pos hkept, if_neg hreset, List.count_append, List.count_singleton]
    simp only [beq_iff_eq]

end Concat

namespace Screen

/-- The screen after one touch. There is none if a pixel is meant and the screen has no pixels. -/
def touch? (s : Screen) : Touch → Option Screen
  | .toggle x y => (s.toggle? x y).map Prod.fst
  | .clear => some s.clear
  | .render => some s.render
  | .reset => some s.reset

/-- The screen after the touches, one after another. -/
def after? (s : Screen) (touches : List Touch) : Option Screen :=
  touches.foldlM touch? s

theorem after?_concat (s : Screen) (touches : List Touch) (t : Touch) :
    s.after? (touches ++ [t]) = (s.after? touches).bind fun r => r.touch? t := by
  unfold after?
  rw [List.foldlM_append]
  refine Option.bind_congr fun r _ => ?_
  show (r.touch? t).bind some = _
  cases r.touch? t <;> rfl

end Screen

/-! ## Pixels -/

theorem wrap_eq_iff (n : Int) {size : Nat} (h : 0 < size) (k : Fin size) :
    wrap n h = k ↔ n % size = k.val := by
  have hnonneg := Int.emod_nonneg n (b := size) (by omega)
  rw [Fin.ext_iff]
  show (n % size).toNat = k.val ↔ _
  omega

namespace Bitmap

variable {width height : Nat}

/-- All pixels are dark if none was inverted. -/
theorem lit_dark_iff (u : Fin width) (v : Fin height) : (dark width height).lit u v = true ↔ Odd 0 := by
  rw [lit_dark]
  exact iff_of_false Bool.false_ne_true Nat.not_odd_zero

theorem countP_ofFn {n : Nat} (f : Fin n → Bool) :
    (List.ofFn f).countP id = ∑ i, if f i = true then 1 else 0 := by
  induction n with
  | zero => rfl
  | succ n ih =>
    rw [List.ofFn_succ, List.countP_cons, ih, Fin.sum_univ_succ]
    exact Nat.add_comm _ _

/-- The lit pixels are counted. -/
theorem litCount_eq (b : Bitmap width height) :
    b.litCount =
      (Finset.univ.filter fun p : Fin width × Fin height => b.lit p.1 p.2 = true).card := by
  have hsum (rows : List (List Bool)) :
      rows.foldr (fun row n => row.countP id + n) 0 = (rows.map (List.countP id)).sum := by
    induction rows with
    | nil => rfl
    | cons row rows ih => rw [List.foldr_cons, ih, List.map_cons, List.sum_cons]
  rw [litCount, hsum, toLists_eq, List.map_ofFn, List.sum_ofFn, Finset.card_filter,
    Fintype.sum_prod_type, Finset.sum_comm]
  exact Finset.sum_congr rfl fun y _ => countP_ofFn _

end Bitmap

namespace Window

/-- A picture has a column of colours for each column of pixels. -/
theorem pictureOf_eq {width height : Nat} (on off : Colour) (b : Bitmap width height) :
    pictureOf on off b = List.ofFn fun x : Fin width => List.ofFn fun y : Fin height =>
      if b.lit x y then on else off := by
  have hcolour (pixel : Bool) : colourOf on off (if pixel then 1 else 0) = if pixel then on else off := by
    cases pixel <;> rfl
  rw [pictureOf, picture, bytesOf, Bitmap.toLists_eq, List.map_ofFn]
  apply List.ext_getElem
  · simp
  · intro x hx hx'
    rw [List.length_ofFn] at hx'
    simp [hx', hcolour, Function.comp_def]

end Window

/-! ## Histories -/

section History

variable {width height : Nat}

/-- The touches make these pixels and this frame of a dark screen. -/
structure Snapshot (touches : List Touch) (pixels frame : Bitmap width height) : Prop where
  after : (Screen.blank width height).after? touches =
    some ⟨width, height, pixels, frame, rendersSince touches⟩
  published : ∃ renders, (Screen.blank width height).after? (published touches) =
    some ⟨width, height, frame, frame, renders⟩
  lit : ∀ u v, pixels.lit u v = true ↔ Odd (inversions touches u v)

theorem snapshot_nil : Snapshot [] (Bitmap.dark width height) (Bitmap.dark width height) where
  after := rfl
  published := ⟨0, rfl⟩
  lit := Bitmap.lit_dark_iff

/-- One more touch makes new pixels, a new frame, or both. -/
theorem Snapshot.touched (hw : 0 < width) (hh : 0 < height) {touches : List Touch}
    {pixels frame : Bitmap width height} (h : Snapshot touches pixels frame) (t : Touch) :
    ∃ pixels' frame' : Bitmap width height, Snapshot (touches ++ [t]) pixels' frame' := by
  have hafter : (Screen.blank width height).after? (touches ++ [t]) =
      (⟨width, height, pixels, frame, rendersSince touches⟩ : Screen).touch? t := by
    rw [Screen.after?_concat, h.after, Option.bind_some]
  cases t with
  | toggle x y =>
    refine ⟨pixels.toggle (wrap x hw) (wrap y hh), frame, ?_, ?_, ?_⟩
    · rw [hafter, rendersSince_concat, Screen.touch?, Screen.toggle?, dif_pos ⟨hw, hh⟩]
      rfl
    · rw [published_concat]
      exact h.published
    · intro u v
      have hpixel := h.lit u v
      have hinverts : (Touch.toggle x y).inverts u v = true ↔ wrap x hw = u ∧ wrap y hh = v := by
        rw [wrap_eq_iff, wrap_eq_iff]
        exact decide_eq_true_iff
      rw [inversions_concat, Bitmap.lit_toggle]
      simp only [Touch.darkens, Bool.false_eq_true, if_false, hinverts]
      by_cases hhit : wrap x hw = u ∧ wrap y hh = v
      · obtain ⟨rfl, rfl⟩ := hhit
        simp only [and_self, if_true, Nat.odd_add_one, ← hpixel, Bool.not_eq_true', Bool.not_eq_true]
      · simp only [if_neg hhit, Nat.add_zero, hpixel]
  | clear =>
    refine ⟨Bitmap.dark width height, frame, ?_, ?_, ?_⟩
    · rw [hafter, rendersSince_concat]
      rfl
    · rw [published_concat]
      exact h.published
    · intro u v
      rw [inversions_concat]
      exact Bitmap.lit_dark_iff u v
  | render =>
    refine ⟨pixels, pixels, ?_, ?_, ?_⟩
    · rw [hafter, rendersSince_concat]
      rfl
    · rw [published_concat]
      exact ⟨_, hafter⟩
    · intro u v
      rw [inversions_concat]
      exact h.lit u v
  | reset =>
    refine ⟨Bitmap.dark width height, Bitmap.dark width height, ?_, ?_, ?_⟩
    · rw [hafter, rendersSince_concat]
      rfl
    · rw [published_concat]
      exact ⟨_, hafter⟩
    · intro u v
      rw [inversions_concat]
      exact Bitmap.lit_dark_iff u v

theorem exists_snapshot (hw : 0 < width) (hh : 0 < height) (touches : List Touch) :
    ∃ pixels frame : Bitmap width height, Snapshot touches pixels frame := by
  induction touches using List.reverseRecOn with
  | nil => exact ⟨_, _, snapshot_nil⟩
  | append_singleton touches t ih =>
    obtain ⟨pixels, frame, h⟩ := ih
    exact h.touched hw hh t

/-- Whatever is done with a dark screen that has pixels, it has a frame: the pixels as they were behind
the last touch that published them, or at the start. It has counted how often they were published since
it was last started over. A pixel is lit if it was inverted an odd number of times since all were last
made dark, and so many are counted. The picture of the frame has a column for each column of pixels,
and in it for each row the colour of the pixel there. -/
theorem snapshot_law (hw : 0 < width) (hh : 0 < height) (touches : List Touch) :
    ∃ pixels frame : Bitmap width height,
      (Screen.blank width height).after? touches =
        some ⟨width, height, pixels, frame, rendersSince touches⟩ ∧
      (∃ renders, (Screen.blank width height).after? (published touches) =
        some ⟨width, height, frame, frame, renders⟩) ∧
      (∀ u v, pixels.lit u v = true ↔ Odd (inversions touches u v)) ∧
      pixels.litCount =
        (Finset.univ.filter fun p : Fin width × Fin height => Odd (inversions touches p.1 p.2)).card ∧
      ∀ on off, Window.pictureOf on off frame =
        List.ofFn fun x : Fin width => List.ofFn fun y : Fin height =>
          if frame.lit x y then on else off := by
  obtain ⟨pixels, frame, h⟩ := exists_snapshot hw hh touches
  refine ⟨pixels, frame, h.after, h.published, h.lit, ?_, ?_⟩
  · rw [pixels.litCount_eq]
    simp only [h.lit]
  · intro on off
    exact Window.pictureOf_eq on off frame

end History

/-- Touches of a screen of three by two pixels: two pixels are published, and all that follows is not. -/
def aroundTheSides : List Touch :=
  [.toggle (-1) 5, .toggle 4 1, .render, .toggle 0 0, .clear, .toggle (-3) 2]

theorem snapshot_law_around_the_sides :
    published aroundTheSides = [.toggle (-1) 5, .toggle 4 1, .render] ∧
    ∃ pixels frame : Bitmap 3 2,
      (Screen.blank 3 2).after? aroundTheSides = some ⟨3, 2, pixels, frame, 1⟩ ∧
      pixels.litCount = 1 ∧ pixels.lit 0 0 = true ∧
      Window.pictureOf Window.white Window.black frame =
        [[Window.black, Window.black], [Window.black, Window.white],
         [Window.black, Window.white]] := by
  obtain ⟨pixels, frame, hafter, ⟨renders, hpublished⟩, hlit, hcount, hpicture⟩ :=
    @snapshot_law 3 2 (by decide) (by decide) aroundTheSides
  have hframe : ((Screen.blank 3 2).after? (published aroundTheSides)).map
      (fun s => Window.pictureOf Window.white Window.black s.frame) =
        some [[Window.black, Window.black], [Window.black, Window.white],
          [Window.black, Window.white]] := by decide +kernel
  rw [hpublished] at hframe
  refine ⟨by decide, pixels, frame, hafter, ?_, ?_, Option.some.inj hframe⟩
  · rw [hcount]
    decide +kernel
  · exact (hlit 0 0).mpr (by decide +kernel)

end ChipEight
