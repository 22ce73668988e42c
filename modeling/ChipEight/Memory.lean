/-
# ChipEight.Memory -- four kilobytes that wrap

Memory has 4096 cells of one byte. An address is any integer: `Memory.cell` reduces it modulo 4096,
so the cell behind the last one is the first one, and every read and write goes through it.

Instruction words take two cells, the high byte first. `Memory.load` copies an image byte by byte,
so of two bytes that fall on one cell the later one stays.
-/

namespace ChipEight

/-! ## Words and bytes -/

/-- The word of a high and a low byte. -/
def wordOf (high low : UInt8) : UInt16 :=
  UInt16.ofNat (high.toNat * 256 + low.toNat)

/-- The high byte of a word. -/
def highByte (w : UInt16) : UInt8 :=
  UInt8.ofNat (w.toNat / 256)

/-- The low byte of a word. -/
def lowByte (w : UInt16) : UInt8 :=
  UInt8.ofNat (w.toNat % 256)

/-- The low sixteen bits of an integer. -/
def wordOfInt (n : Int) : UInt16 :=
  UInt16.ofNat (n % 65536).toNat

/-- The low eight bits of an integer. -/
def byteOfInt (n : Int) : UInt8 :=
  UInt8.ofNat (n % 256).toNat

theorem wordOf_toNat (high low : UInt8) :
    (wordOf high low).toNat = high.toNat * 256 + low.toNat := by
  have := high.toNat_lt
  have := low.toNat_lt
  simp only [wordOf, UInt16.toNat_ofNat']
  omega

@[simp] theorem wordOf_bytes (w : UInt16) : wordOf (highByte w) (lowByte w) = w := by
  apply UInt16.toNat_inj.mp
  have := w.toNat_lt
  simp only [wordOf_toNat, highByte, lowByte, UInt8.toNat_ofNat']
  omega

@[simp] theorem highByte_wordOf (high low : UInt8) : highByte (wordOf high low) = high := by
  apply UInt8.toNat_inj.mp
  have := high.toNat_lt
  have := low.toNat_lt
  simp only [highByte, wordOf_toNat, UInt8.toNat_ofNat']
  omega

@[simp] theorem lowByte_wordOf (high low : UInt8) : lowByte (wordOf high low) = low := by
  apply UInt8.toNat_inj.mp
  have := low.toNat_lt
  simp only [lowByte, wordOf_toNat, UInt8.toNat_ofNat']
  omega

/-- A word is its own low sixteen bits. -/
theorem wordOfInt_toNat (w : UInt16) : wordOfInt w.toNat = w := by
  have := w.toNat_lt
  apply UInt16.toNat_inj.mp
  rw [wordOfInt, UInt16.toNat_ofNat']
  omega

theorem wordOfInt_eq_iff {n : Int} {w : UInt16} :
    wordOfInt n = w ↔ (w.toNat : Int) = n % 65536 := by
  have := w.toNat_lt
  rw [← UInt16.toNat_inj, wordOfInt, UInt16.toNat_ofNat']
  omega

theorem byteOfInt_eq_iff {n : Int} {b : UInt8} :
    byteOfInt n = b ↔ (b.toNat : Int) = n % 256 := by
  have := b.toNat_lt
  rw [← UInt8.toNat_inj, byteOfInt, UInt8.toNat_ofNat']
  omega

/-! ## Memory -/

/-- The 4096 cells of the machine. -/
@[ext] structure Memory where
  /-- The byte in each cell. -/
  cells : Vector UInt8 4096
  deriving DecidableEq, Repr

namespace Memory

/-- The number of cells. -/
def size : Nat := 4096

/-- Where programs are loaded and where they start. -/
def programBase : Nat := 0x200

/-- The bytes that a program may have. -/
def programRoom : Nat := size - programBase

/-- Nothing but zeros. -/
def zero : Memory := ⟨Vector.replicate 4096 0⟩

/-- The cell that an address falls on. -/
def cell (address : Int) : Fin 4096 :=
  ⟨(address % 4096).toNat, by omega⟩

/-- The byte at an address. -/
def read (m : Memory) (address : Int) : UInt8 :=
  m.cells[(cell address).val]

/-- Memory after a byte was put at an address. -/
def write (m : Memory) (address : Int) (b : UInt8) : Memory :=
  ⟨m.cells.set (cell address).val b⟩

/-- The word at an address and the one behind it. -/
def readWord (m : Memory) (address : Int) : UInt16 :=
  wordOf (m.read address) (m.read (address + 1))

/-- Memory after the bytes were put at an address and those behind it, one after another. -/
def load (m : Memory) (address : Int) : List UInt8 → Memory
  | [] => m
  | b :: bs => (m.write address b).load (address + 1) bs

/-- The bytes of `count` cells from an address on. -/
def slice (m : Memory) (address : Int) (count : Nat) : List UInt8 :=
  (List.range count).map fun k : Nat => m.read (address + k)

/-! ## The font -/

/-- The pictures of the sixteen digits, five rows of eight pixels each. -/
def font : List UInt8 :=
  [0xF0, 0x90, 0x90, 0x90, 0xF0,
   0x20, 0x60, 0x20, 0x20, 0x70,
   0xF0, 0x10, 0xF0, 0x80, 0xF0,
   0xF0, 0x10, 0xF0, 0x10, 0xF0,
   0x90, 0x90, 0xF0, 0x10, 0x10,
   0xF0, 0x80, 0xF0, 0x10, 0xF0,
   0xF0, 0x80, 0xF0, 0x90, 0xF0,
   0xF0, 0x10, 0x20, 0x40, 0x40,
   0xF0, 0x90, 0xF0, 0x90, 0xF0,
   0xF0, 0x90, 0xF0, 0x10, 0xF0,
   0xF0, 0x90, 0xF0, 0x90, 0x90,
   0xE0, 0x90, 0xE0, 0x90, 0xE0,
   0xF0, 0x80, 0x80, 0x80, 0xF0,
   0xE0, 0x90, 0x90, 0x90, 0xE0,
   0xF0, 0x80, 0xF0, 0x80, 0xF0,
   0xF0, 0x80, 0xF0, 0x80, 0x80]

/-- The rows of one picture of the font. -/
def glyphHeight : Nat := 5

/-- Memory with the font in its first cells. -/
def loadFont (m : Memory) : Memory :=
  m.load 0 font

/-! ## Small facts -/

theorem cell_eq_iff (a b : Int) : cell a = cell b ↔ a % 4096 = b % 4096 := by
  simp only [cell, Fin.mk.injEq]
  omega

theorem read_congr {a b : Int} (m : Memory) (h : a % 4096 = b % 4096) : m.read a = m.read b := by
  simp only [read, (cell_eq_iff a b).mpr h]

/-- A read sees the last byte written to its cell. -/
theorem read_write (m : Memory) (a b : Int) (v : UInt8) :
    (m.write a v).read b = if a % 4096 = b % 4096 then v else m.read b := by
  simp only [read, write, Vector.getElem_set]
  have h := cell_eq_iff a b
  simp only [Fin.ext_iff] at h
  simp only [h]

/-- Addresses that fall on one cell start one stretch of bytes. -/
theorem slice_congr {a b : Int} (m : Memory) (h : a % 4096 = b % 4096) (count : Nat) :
    m.slice a count = m.slice b count := by
  refine List.map_congr_left fun k _ => m.read_congr ?_
  omega

theorem slice_add (m : Memory) (a : Int) (i j : Nat) :
    m.slice a (i + j) = m.slice a i ++ m.slice (a + i) j := by
  simp only [slice, List.range_add, List.map_append, List.map_map]
  refine congrArg _ (List.map_congr_left fun k _ => m.read_congr ?_)
  simp only [Int.natCast_add]
  omega

end Memory

end ChipEight
