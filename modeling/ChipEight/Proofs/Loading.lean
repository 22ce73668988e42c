/-
# ChipEight.Proofs.Loading -- what loading leaves where

An image is put into memory byte by byte, at an address that may be any integer and may lie so that
the bytes go around the end of memory, more than once if there are enough of them. So a cell may get
several bytes, and keeps the last one (`LastOn`); a cell that gets none keeps what it held
(`Memory.read_load_cases`).

A program is loaded only if it fits behind the place where programs start. Then no cell gets two
bytes, and none outside the program gets any (`Memory.read_load_outside`): neither the font in front
of it nor what an earlier, longer program has left behind it. A program that does not fit is refused
before anything is changed.
-/
import ChipEight.Proofs.History
import ChipEight.Proofs.Transfers
import Mathlib.Data.List.Induction

namespace ChipEight

/-! ## Cells -/

/-- Of the bytes of an image at an address, this is the last one that falls on the cell of `a`. -/
structure LastOn (address : Int) (image : List UInt8) (a : Int) (k : Nat) : Prop where
  /-- It is a byte of the image. -/
  lt : k < image.length
  /-- It falls on the cell. -/
  falls : SameCell a (address + k)
  /-- No byte behind it does. -/
  last : ∀ j, k < j → j < image.length → ¬ SameCell a (address + j)

/-- Some byte is the last one on a cell, unless none falls on it. -/
theorem exists_lastOn (address : Int) (image : List UInt8) (a : Int) :
    (∃ k, LastOn address image a k) ∨ ∀ k < image.length, ¬ SameCell a (address + k) := by
  induction image using List.reverseRecOn with
  | nil => exact .inr fun k hk => absurd hk (Nat.not_lt_zero k)
  | append_singleton image b ih =>
    have hlength : (image ++ [b]).length = image.length + 1 := List.length_append
    by_cases hb : SameCell a (address + image.length)
    · refine .inl ⟨image.length, by omega, hb, ?_⟩
      intro j hkj hj
      omega
    · rcases ih with ⟨k, hlt, hfalls, hlast⟩ | hnone
      · refine .inl ⟨k, by omega, hfalls, ?_⟩
        intro j hkj hj
        rcases Nat.lt_succ_iff_lt_or_eq.mp (hlength ▸ hj) with hbefore | rfl
        · exact hlast j hkj hbefore
        · exact hb
      · refine .inr ?_
        intro k hk
        rcases Nat.lt_succ_iff_lt_or_eq.mp (hlength ▸ hk) with hbefore | rfl
        · exact hnone k hbefore
        · exact hb

namespace Memory

/-- A cell holds the last byte that falls on it, or what it held before. -/
theorem read_load_cases (m : Memory) (address : Int) (image : List UInt8) (a : Int) :
    (∃ k, LastOn address image a k ∧ image[k]? = some ((m.load address image).read a)) ∨
      (∀ k < image.length, ¬ SameCell a (address + k)) ∧
        (m.load address image).read a = m.read a := by
  rcases exists_lastOn address image a with ⟨k, hk⟩ | hnone
  · refine .inl ⟨k, hk, ?_⟩
    rw [m.read_load_last hk.lt hk.falls hk.last]
    exact List.getElem?_eq_getElem hk.lt
  · refine .inr ⟨hnone, (m.read_load address image a).resolve_right ?_⟩
    rintro ⟨k, hk, hfalls⟩
    exact hnone k hk hfalls

/-- A program that fits reaches no cell in front of it or behind it. -/
theorem read_load_outside (m : Memory) {image : List UInt8} (hfits : image.length ≤ programRoom)
    {a : Int} (hcell : 0 ≤ a ∧ a < 4096) (hout : a < 0x200 ∨ 0x200 + image.length ≤ a) :
    (m.load programBase image).read a = m.read a := by
  refine (m.read_load programBase image a).resolve_right ?_
  rintro ⟨k, hk, hfalls⟩
  unfold SameCell at hfalls
  simp only [programRoom, size, programBase] at hfits hfalls
  omega

end Memory

/-! ## Programs -/

namespace Console

/-- Putting an image into memory changes memory only: each cell holds the last byte of the image
that falls on it, and the cells on which none falls hold what they held.

A program is refused if it has more than 3584 bytes, and only then, and the console is the one
before. Otherwise the program is remembered and stands in memory from 0x200 on; all other cells and
all other parts of the console are as before. -/
theorem loading_law (c : Console) (image : List UInt8) (address : Int) :
    let put := (c.perform (.loadProgram image address)).1
    let loaded := c.perform (.loadRom image)
    ((∀ a, (∃ k, LastOn address image a k ∧ image[k]? = some (put.machine.memory.read a)) ∨
          (∀ k < image.length, ¬ SameCell a (address + k)) ∧
            put.machine.memory.read a = c.machine.memory.read a) ∧
        put = { c with machine := { c.machine with memory := put.machine.memory } }) ∧
      ((∃ refusal, loaded.2 = .error refusal) ↔ 3584 < image.length) ∧
      (3584 < image.length → loaded = (c, .error (.size ⟨image.length⟩))) ∧
      (image.length ≤ 3584 →
        loaded.2 = .ok .done ∧
        (∀ (k : Nat) (b : UInt8), image[k]? = some b →
          loaded.1.machine.memory.read (0x200 + k) = b) ∧
        (∀ a : Int, 0 ≤ a ∧ a < 4096 → a < 0x200 ∨ 0x200 + image.length ≤ a →
          loaded.1.machine.memory.read a = c.machine.memory.read a) ∧
        loaded.1 = { c with
          rom := image, machine := { c.machine with memory := loaded.1.machine.memory } }) := by
  intro put loaded
  have hroom : Memory.programRoom = 3584 := rfl
  have hrefused (h : 3584 < image.length) : loaded = (c, .error (.size ⟨image.length⟩)) :=
    c.perform_loadRom_of_lt (hroom ▸ h)
  have hloaded (h : image.length ≤ 3584) : loaded =
      ({ c with rom := image, machine := c.machine.load image Memory.programBase }, .ok .done) :=
    c.perform_loadRom (hroom ▸ h)
  refine ⟨⟨c.machine.memory.read_load_cases address image, rfl⟩, ?_, hrefused, ?_⟩
  · constructor
    · rintro ⟨refusal, hanswer⟩
      by_contra hfits
      rw [hloaded (Nat.not_lt.mp hfits)] at hanswer
      cases hanswer
    · intro h
      exact ⟨_, congrArg Prod.snd (hrefused h)⟩
  · intro hfits
    rw [hloaded hfits]
    refine ⟨rfl, ?_, ?_, rfl⟩
    · intro k b hb
      obtain ⟨hk, rfl⟩ := List.getElem?_eq_some_iff.mp hb
      exact c.machine.memory.read_load_image Memory.programBase (by omega) hk
    · intro a hcell hout
      exact c.machine.memory.read_load_outside hfits hcell hout

/-- An image that goes all the way around memory and one byte further. -/
def wholeTurn : List UInt8 :=
  List.replicate 4096 7 ++ [9]

/-- Put in front of the first cell, an image of one byte more than memory has cells leaves its last
byte there and not its first one. As a program it is refused. -/
theorem loading_law_past_a_whole_turn :
    let c := standard (RandomBytes.ofArray #[]) (.number 10)
    (c.perform (.loadProgram wholeTurn (-1))).1.machine.memory.read 4095 = 9 ∧
      (3584 < wholeTurn.length ∧
        c.perform (.loadRom wholeTurn) = (c, .error (.size ⟨wholeTurn.length⟩))) := by
  intro c
  have hlength : wholeTurn.length = 4097 := by
    rw [wholeTurn, List.length_append, List.length_replicate]
    rfl
  obtain ⟨⟨hcells, -⟩, -, hrefused, -⟩ := loading_law c wholeTurn (-1)
  have hlong : 3584 < wholeTurn.length := by omega
  refine ⟨?_, hlong, hrefused hlong⟩
  have hlast : SameCell 4095 (-1 + (4096 : Nat)) := rfl
  rcases hcells 4095 with ⟨k, hk, hbyte⟩ | ⟨hnone, -⟩
  · have hlt := hk.lt
    obtain rfl : k = 4096 := by
      by_contra hne
      exact hk.last 4096 (by omega) (by omega) hlast
    have hnine : wholeTurn[4096]? = some 9 := by
      have hfront : (List.replicate 4096 (7 : UInt8)).length = 4096 := List.length_replicate
      rw [wholeTurn, List.getElem?_append_right (Nat.le_of_eq hfront), hfront]
      rfl
    exact Option.some.inj (hbyte.symm.trans hnine)
  · exact absurd hlast (hnone 4096 (by omega))

end Console

end ChipEight
