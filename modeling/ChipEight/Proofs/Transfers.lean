/-
# ChipEight.Proofs.Transfers -- registers that go to memory and come back

Three instructions move bytes between the registers and the cells behind the index register. They are
loads of an image, so what they leave in memory follows from two facts about loading: a cell on which
no byte of the image falls keeps its byte (`Memory.read_load`), and of the bytes that fall on one cell
the last one stays there (`Memory.read_load_last`). An image that is no longer than memory has one
byte for each of its cells, wherever it starts and even if it goes past the end of memory or of the
address space. `Wrote` is what such an instruction does to a console.

What is taken from the cells an image was put into is the image (`read_written`), and what is put back
into the cells it was taken from changes nothing (`Memory.load_of_read`).
-/
import ChipEight.Proofs.Effects

namespace ChipEight

/-! ## Loading -/

namespace Memory

/-- Of the bytes of an image that fall on one cell the last one stays there. -/
theorem read_load_last (m : Memory) {a address : Int} {image : List UInt8} {k : Nat}
    (hk : k < image.length) (ha : SameCell a (address + k))
    (hlast : ∀ j, k < j → j < image.length → ¬ SameCell a (address + j)) :
    (m.load address image).read a = image[k] := by
  induction image generalizing m address k with
  | nil => exact absurd hk (Nat.not_lt_zero k)
  | cons b image ih =>
    show ((m.write address b).load (address + 1) image).read a = (b :: image)[k]
    unfold SameCell at ha hlast
    cases k with
    | zero =>
      rcases (m.write address b).read_load (address + 1) image a with hsame | ⟨j, hj, hcell⟩
      · have hhere : address % 4096 = a % 4096 := by omega
        rw [hsame, read_write, if_pos hhere]
        rfl
      · unfold SameCell at hcell
        exact absurd (by omega) (hlast (j + 1) (by omega) (Nat.succ_lt_succ hj))
    | succ k =>
      apply ih (m.write address b) (Nat.lt_of_succ_lt_succ hk)
      · unfold SameCell
        omega
      · intro j hkj hj hcell
        unfold SameCell at hcell
        exact hlast (j + 1) (Nat.succ_lt_succ hkj) (Nat.succ_lt_succ hj) (by omega)

/-- An image that is no longer than memory can be read where it was put. -/
theorem read_load_image (m : Memory) (address : Int) {image : List UInt8}
    (hroom : image.length ≤ 4096) {k : Nat} (hk : k < image.length) :
    (m.load address image).read (address + k) = image[k] := by
  refine m.read_load_last hk rfl ?_
  intro j hkj hj hcell
  unfold SameCell at hcell
  omega

/-- A byte that is in its cell already changes nothing when it is put there. -/
theorem write_read (m : Memory) (a : Int) : m.write a (m.read a) = m :=
  Memory.ext (Vector.set_getElem_self _)

/-- Nor does an image whose bytes are in their cells already. -/
theorem load_of_read (m : Memory) {address : Int} {image : List UInt8}
    (h : ∀ (k : Nat) (hk : k < image.length), image[k] = m.read (address + k)) :
    m.load address image = m := by
  induction image generalizing address with
  | nil => rfl
  | cons b image ih =>
    have hb : b = m.read address := by simpa using h 0 (Nat.succ_pos _)
    show (m.write address b).load (address + 1) image = m
    rw [hb, write_read]
    apply ih
    intro k hk
    have hnext := h (k + 1) (Nat.succ_lt_succ hk)
    rw [List.getElem_cons_succ] at hnext
    rw [hnext, Int.natCast_succ, Int.add_assoc, Int.add_comm 1]

end Memory

/-! ## Registers -/

namespace Machine

/-- What a register holds after registers were taken from memory. -/
theorem register_fetch (m : Machine) (x r : Nibble) :
    (m.fetchRegisters x).register r =
      if r ≤ x then m.memory.read (m.index.toNat + r.val) else m.register r :=
  Vector.getElem_ofFn r.isLt

/-- The registers that are put into memory, in order. -/
theorem getElem?_stored (m : Machine) (x r : Nibble) :
    (m.v.toList.take (x.val + 1))[r.val]? = if r ≤ x then some (m.register r) else none := by
  rw [List.getElem?_take]
  by_cases hr : r ≤ x
  · have hlt : r.val < x.val + 1 := Nat.lt_succ_of_le hr
    simp [hr, hlt, register]
  · have hge : ¬ r.val < x.val + 1 := fun hlt => hr (Nat.le_of_lt_succ hlt)
    simp [hr, hge]

theorem length_stored (m : Machine) (x : Nibble) :
    (m.v.toList.take (x.val + 1)).length = x.val + 1 := by
  have := x.isLt
  simp only [List.length_take, Vector.length_toList]
  omega

/-- The three digits of a byte are digits, and those of its number. -/
theorem decimalDigits_eq (b : UInt8) :
    ∃ hundreds tens ones, decimalDigits b = [hundreds, tens, ones] ∧
      (hundreds ≤ 9 ∧ tens ≤ 9 ∧ ones ≤ 9) ∧
        100 * hundreds.toNat + 10 * tens.toNat + ones.toNat = b.toNat := by
  have hb := b.toNat_lt
  have hhundreds : (b / 100).toNat = b.toNat / 100 := UInt8.toNat_div b 100
  have htens : (b / 10 % 10).toNat = b.toNat / 10 % 10 :=
    (UInt8.toNat_mod (b / 10) 10).trans (congrArg (· % 10) (UInt8.toNat_div b 10))
  have hones : (b % 10).toNat = b.toNat % 10 := UInt8.toNat_mod b 10
  have hnine : (9 : UInt8).toNat = 9 := rfl
  refine ⟨_, _, _, rfl, ?_, ?_⟩
  · simp only [UInt8.le_iff_toNat_le, hhundreds, htens, hones, hnine]
    omega
  · rw [hhundreds, htens, hones]
    omega

end Machine

/-! ## The instructions -/

namespace Console

/-- The second console is the first one with the bytes in the cells behind the index register, and
with no other change. -/
structure Wrote (c : Console) (bytes : List UInt8) (d : Console) : Prop where
  written : ∀ (k : Nat) (b : UInt8), bytes[k]? = some b →
    d.machine.memory.read (c.machine.index.toNat + k) = b
  apart : ∀ a, (∀ k < bytes.length, ¬ SameCell a (c.machine.index.toNat + k)) →
    d.machine.memory.read a = c.machine.memory.read a
  others : d = { c with machine := { c.machine with memory := d.machine.memory } }

/-- The second console is the first one with registers taken from the cells behind the index
register, and with no other change. -/
structure Took (c : Console) (x : Nibble) (d : Console) : Prop where
  taken : ∀ r, d.machine.register r =
    if r ≤ x then c.machine.memory.read (c.machine.index.toNat + r.val) else c.machine.register r
  others : d = { c with machine := { c.machine with v := d.machine.v } }

theorem wrote (c : Console) {bytes : List UInt8} (hroom : bytes.length ≤ 4096) :
    c.Wrote bytes (c.withMachine (c.machine.load bytes c.machine.index.toNat)) where
  written k b hb := by
    obtain ⟨hk, rfl⟩ := List.getElem?_eq_some_iff.mp hb
    exact c.machine.memory.read_load_image _ hroom hk
  apart a ha := by
    refine (c.machine.memory.read_load _ bytes a).resolve_right ?_
    rintro ⟨k, hk, hcell⟩
    exact ha k hk hcell
  others := rfl

theorem took (c : Console) (x : Nibble) : c.Took x (c.withMachine (c.machine.fetchRegisters x)) where
  taken := c.machine.register_fetch x
  others := rfl

/-- Storing puts the registers into memory, one byte for each. -/
theorem wrote_of_store (c : Console) (x : Nibble) :
    ∃ d, c.execute (.store x) = .ok d ∧ c.Wrote (c.machine.v.toList.take (x.val + 1)) d := by
  have hroom : (c.machine.v.toList.take (x.val + 1)).length ≤ 4096 := by
    have := x.isLt
    rw [Machine.length_stored]
    omega
  exact ⟨_, c.execute_eq (.store x), c.wrote hroom⟩

theorem took_of_fetch (c : Console) (x : Nibble) :
    ∃ d, c.execute (.fetch x) = .ok d ∧ c.Took x d :=
  ⟨_, c.execute_eq (.fetch x), c.took x⟩

/-- Three digits are written, and they are those of the register. -/
theorem wrote_of_digits (c : Console) (x : Nibble) :
    ∃ d hundreds tens ones, c.execute (.digits x) = .ok d ∧
      (hundreds ≤ 9 ∧ tens ≤ 9 ∧ ones ≤ 9) ∧
      100 * hundreds.toNat + 10 * tens.toNat + ones.toNat = (c.machine.register x).toNat ∧
      c.Wrote [hundreds, tens, ones] d := by
  obtain ⟨hundreds, tens, ones, hdigits, hnine, hsum⟩ :=
    Machine.decimalDigits_eq (c.machine.register x)
  have hroom : (Machine.decimalDigits (c.machine.register x)).length ≤ 4096 := by
    simp [hdigits]
  have hd := c.wrote hroom
  rw [hdigits] at hd
  refine ⟨_, hundreds, tens, ones, ?_, hnine, hsum, hd⟩
  rw [← hdigits]
  exact c.execute_eq (.digits x)

variable {c d e f : Console} {x : Nibble} {bytes : List UInt8}

/-- The registers go to different cells, wherever the first one goes. -/
theorem eq_of_sameCell {index : Int} (r s : Nibble)
    (h : SameCell (index + r.val) (index + s.val)) : r = s := by
  have := r.isLt
  have := s.isLt
  unfold SameCell at h
  exact Fin.ext (by omega)

/-- What is taken from where bytes were put are these bytes. -/
theorem read_written (hd : c.Wrote bytes d) (hmemory : e.machine.memory = d.machine.memory)
    (hindex : e.machine.index = d.machine.index) (hf : e.Took x f) {r : Nibble} (hr : r ≤ x) {b : UInt8}
    (hb : bytes[r.val]? = some b) : f.machine.register r = b := by
  have hsame : d.machine.index = c.machine.index := by rw [hd.others]
  rw [hf.taken, if_pos hr, hmemory, hindex, hsame]
  exact hd.written r.val b hb

/-- Putting registers back where they were taken from changes nothing. -/
theorem store_took (hd : c.Took x d) : d.execute (.store x) = .ok d := by
  have hmemory : d.machine.memory = c.machine.memory := by rw [hd.others]
  have hindex : d.machine.index = c.machine.index := by rw [hd.others]
  have hload : d.machine.memory.load d.machine.index.toNat
      (d.machine.v.toList.take (x.val + 1)) = d.machine.memory := by
    apply Memory.load_of_read
    intro k hk
    rw [Machine.length_stored] at hk
    have hr : (⟨k, by have := x.isLt; omega⟩ : Nibble) ≤ x := Nat.le_of_lt_succ hk
    have hstored := d.machine.getElem?_stored x ⟨k, by have := x.isLt; omega⟩
    rw [if_pos hr, hd.taken, if_pos hr, ← hmemory, ← hindex] at hstored
    exact (List.getElem?_eq_some_iff.mp hstored).2
  rw [execute_eq]
  show Except.ok (d.withMachine { d.machine with memory := d.machine.memory.load _ _ }) = _
  rw [hload]
  rfl

/-- The words Fx55, Fx65 and Fx33 store registers, take them from memory, and store the digits of one.

Storing the registers 0 to `x` puts them into as many cells, behind the index register and around the
end of memory, and changes nothing else. Whatever becomes of the registers, taking them from there
brings these registers back and leaves the others alone; and storing what was just taken changes
nothing at all. Storing the digits of a register puts three digits into three cells, which together
are its number, changes nothing else, and taking three registers from there brings the digits. -/
theorem transfers_return (c : Console) (x : Nibble) :
    let index := c.machine.index.toNat
    (∀ w : UInt16, (w.toNat = 0xF055 + 0x100 * x.val → Instruction.decode? w = some (.store x)) ∧
      (w.toNat = 0xF065 + 0x100 * x.val → Instruction.decode? w = some (.fetch x)) ∧
      (w.toNat = 0xF033 + 0x100 * x.val → Instruction.decode? w = some (.digits x))) ∧
    (∃ d, c.execute (.store x) = .ok d ∧ c.Wrote (c.machine.v.toList.take (x.val + 1)) d ∧
      (∀ r ≤ x, d.machine.memory.read (index + r.val) = c.machine.register r) ∧
      (∀ r s : Nibble, SameCell (index + r.val) (index + s.val) → r = s) ∧
      ∀ e : Console, e.machine.memory = d.machine.memory → e.machine.index = d.machine.index →
        ∃ f, e.execute (.fetch x) = .ok f ∧ e.Took x f ∧
          ∀ r ≤ x, f.machine.register r = c.machine.register r) ∧
    (∃ d, c.execute (.fetch x) = .ok d ∧ d.execute (.store x) = .ok d ∧
      d.machine.memory = c.machine.memory) ∧
    ∃ d hundreds tens ones, c.execute (.digits x) = .ok d ∧
      (hundreds ≤ 9 ∧ tens ≤ 9 ∧ ones ≤ 9) ∧
      100 * hundreds.toNat + 10 * tens.toNat + ones.toNat = (c.machine.register x).toNat ∧
      c.Wrote [hundreds, tens, ones] d ∧
      ∃ e, d.execute (.fetch 2) = .ok e ∧ d.Took 2 e ∧ e.machine.register 0 = hundreds ∧
        e.machine.register 1 = tens ∧ e.machine.register 2 = ones := by
  intro index
  refine ⟨?_, ?_, ?_, ?_⟩
  · intro w
    refine ⟨fun hw => Instruction.decode?_of_toNat rfl ?_, fun hw => Instruction.decode?_of_toNat rfl ?_,
      fun hw => Instruction.decode?_of_toNat rfl ?_⟩ <;> simp only [hw, Instruction.code] <;> omega
  · obtain ⟨d, hstore, hd⟩ := c.wrote_of_store x
    have hstored {r : Nibble} (hr : r ≤ x) :
        (c.machine.v.toList.take (x.val + 1))[r.val]? = some (c.machine.register r) := by
      rw [Machine.getElem?_stored, if_pos hr]
    refine ⟨d, hstore, hd, fun r hr => hd.written r.val _ (hstored hr), eq_of_sameCell, ?_⟩
    intro e hmemory hindex
    obtain ⟨f, hfetch, hf⟩ := e.took_of_fetch x
    exact ⟨f, hfetch, hf, fun r hr => read_written hd hmemory hindex hf hr (hstored hr)⟩
  · obtain ⟨d, hfetch, hd⟩ := c.took_of_fetch x
    have hmemory : d.machine.memory = c.machine.memory := by rw [hd.others]
    exact ⟨d, hfetch, store_took hd, hmemory⟩
  · obtain ⟨d, hundreds, tens, ones, hdigits, hnine, hsum, hd⟩ := c.wrote_of_digits x
    obtain ⟨e, hfetch, he⟩ := d.took_of_fetch 2
    exact ⟨d, hundreds, tens, ones, hdigits, hnine, hsum, hd, e, hfetch, he,
      read_written hd rfl rfl he (r := 0) (by decide) rfl,
      read_written hd rfl rfl he (r := 1) (by decide) rfl,
      read_written hd rfl rfl he (r := 2) (by decide) rfl⟩

theorem transfers_return_across_end :
    aboutToStore.machine.index.toNat = 4095 ∧ aboutToStore.machine.register 1 = 5 ∧
      ∃ d, aboutToStore.execute (.store 1) = .ok d ∧ d.machine.memory.read 0 = 5 ∧
        ∃ f, (d.withMachine { d.machine with v := Vector.replicate 16 9 }).execute (.fetch 1) = .ok f ∧
          f.machine.register 1 = 5 ∧ f.machine.register 2 = 9 := by
  have hindex : aboutToStore.machine.index.toNat = 4095 := by decide +kernel
  have hone : aboutToStore.machine.register 1 = 5 := by decide +kernel
  obtain ⟨-, ⟨d, hstore, -, hcells, -, hfetch⟩, -, -⟩ := transfers_return aboutToStore 1
  obtain ⟨f, hf, htook, hback⟩ :=
    hfetch (d.withMachine { d.machine with v := Vector.replicate 16 9 }) rfl rfl
  refine ⟨hindex, hone, d, hstore, ?_, f, hf, (hback 1 (by decide)).trans hone,
    (htook.taken 2).trans rfl⟩
  have hend := hcells 1 (by decide)
  rw [hindex, hone] at hend
  exact ((Memory.read_congr _ (by decide)).trans hend)

end Console

end ChipEight
