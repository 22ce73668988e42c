/-
# ChipEight.Proofs.Rows -- a disassembly shows what is fetched

A row of a disassembly is read at an address that is reduced first, its second byte at an address
that is reduced again. A step reads its word at the program counter, whatever the upper bits of that
are. Both come to the same word (`ofMemory_eq`), for every start and every number of rows, and it
makes no difference whether the rows are read from a memory or from its bytes as an image
(`ofImage?_eq`).

The text of a row says what a step makes of it, since the disassembler and the machine read all words
alike. No mnemonic starts like the data directive, so a row that starts with `DW` stands where a step
finds no instruction, and there are no other such places (`data_isPrefix_iff`).
-/
import ChipEight.Proofs.Course
import ChipEight.Proofs.Disassembled

namespace ChipEight

open Text Numeral Assembly

/-! ## Texts that start like data -/

namespace Instruction

/-- No mnemonic starts like the data directive. -/
theorem not_data_isPrefix_capitals (m : Mnemonic) :
    ¬ "DW".toList <+: m.capitals ∧ "DW".toList.length ≤ m.capitals.length := by
  cases m with
  | alu op => cases op <;> decide
  | _ => decide

/-- No instruction is rendered like data. -/
theorem not_data_isPrefix_render (i : Instruction) : ¬ "DW".toList <+: i.render := by
  obtain ⟨hname, hlength⟩ := not_data_isPrefix_capitals i.family
  intro h
  apply hname
  have hstart : i.family.capitals <+: i.render := by
    rw [render_eq]
    cases i.operands with
    | nil => exact List.prefix_rfl
    | cons t ts => exact List.prefix_append _ _
  exact List.prefix_of_prefix_length_le h hstart hlength

/-- A word is written like data if and only if the machine finds no instruction for it. -/
theorem data_isPrefix_iff {w : UInt16} :
    "DW".toList <+: Disassembly.renderInt w.toNat ↔ decode? w = none := by
  rw [Disassembly.renderInt_toNat, renderWord]
  cases decode? w with
  | some i =>
    have hno := not_data_isPrefix_render i
    constructor
    · intro h
      exact absurd h hno
    · rintro ⟨⟩
  | none =>
    constructor
    · intro _
      rfl
    · intro _
      exact ⟨' ' :: hex 6 w.toNat, rfl⟩

end Instruction

/-! ## Words that are fetched -/

namespace Console

variable {c : Console}

/-- The word that a step fetches depends on the cell of the program counter only. -/
theorem nextWord_eq {a : Int} (h : (c.machine.pc.toNat : Int) % 4096 = a % 4096) :
    c.nextWord = c.machine.memory.readWord a := by
  have hlow : c.machine.memory.read c.machine.pc.toNat = c.machine.memory.read a :=
    c.machine.memory.read_congr h
  have hhigh : c.machine.memory.read (c.machine.pc.toNat + 1) = c.machine.memory.read (a + 1) := by
    apply c.machine.memory.read_congr
    omega
  rw [nextWord, Memory.readWord, hlow, hhigh]
  rfl

/-- A step of a running console finds no instruction if and only if the word that it fetches is
none, and then its fault names this word and the program counter. -/
theorem unknownInstruction_iff (hh : c.halted = false) (hp : c.machine.paused = false)
    {w : UInt16} {a : Int} :
    c.step.2 = .error (.fault (.unknownInstruction w a)) ↔
      Instruction.decode? c.nextWord = none ∧ w = c.nextWord ∧ a = c.machine.pc.toNat := by
  constructor
  · intro h
    have hs := stepped c
    rw [h] at hs
    generalize c.step.1 = d at hs
    cases hs with
    | unknown _ _ hi => exact ⟨hi, rfl, rfl⟩
    | faulted _ _ _ hr => cases hr
    | refused _ _ _ _ hno => exact absurd rfl (hno _)
  · rintro ⟨hi, rfl, rfl⟩
    rw [step_of_unknown hh hp hi]

end Console

/-! ## Rows -/

namespace Disassembly

/-- The row of the word at an address. -/
def rowAt (m : Memory) (a : Int) : Row :=
  ⟨a % 4096, m.readWord a, renderInt (m.readWord a).toNat⟩

/-- The second byte of a row is reduced a second time, which changes nothing. -/
theorem readWord_reduced (m : Memory) (a : Int) :
    wordOf (m.read (a % 4096)) (m.read ((a % 4096 + 1) % 4096)) = m.readWord a := by
  have hhigh : m.read (a % 4096) = m.read a := by
    apply m.read_congr
    omega
  have hlow : m.read ((a % 4096 + 1) % 4096) = m.read (a + 1) := by
    apply m.read_congr
    omega
  rw [hhigh, hlow, Memory.readWord]

theorem ofMemory_eq (m : Memory) (start count : Int) :
    ofMemory m start count =
      (List.range count.toNat).map fun k : Nat => rowAt m (start + 2 * k) := by
  unfold ofMemory rows
  apply List.map_congr_left
  intro k _
  have hword := readWord_reduced m (start + 2 * k)
  show Row.mk _ _ _ = Row.mk _ _ _
  rw [← hword]
  rfl

/-- The bytes of a memory give the same rows as an image. -/
theorem ofImage?_eq (m : Memory) (start count : Int) :
    ofImage? m.cells.toArray start count = some (ofMemory m start count) := by
  have hsize : m.cells.toArray.size = 4096 := m.cells.size_toArray
  have hbyte : ∀ a : Int, m.cells.toArray.getD (a % 4096).toNat 0 = m.read (a % 4096) := by
    intro a
    have hcell : (Memory.cell (a % 4096)).val = (a % 4096).toNat := by
      simp [Memory.cell]
    have hlt : (a % 4096).toNat < m.cells.toArray.size := by
      rw [hsize]
      omega
    rw [Array.getD, dif_pos hlt]
    show m.cells.toArray[(a % 4096).toNat] = m.cells[(Memory.cell (a % 4096)).val]
    simp only [hcell, Vector.getElem_toArray]
  unfold ofImage? ofMemory rows
  rw [if_neg (by simp [hsize]), hsize]
  apply congrArg some
  apply List.map_congr_left
  intro k _
  have hnat : ((4096 : Nat) : Int) = 4096 := rfl
  simp only [Memory.size, hnat, hbyte]

/-- A disassembly of a memory has as many rows as it was asked for, none if that is negative, and
each shows the reduced address, the word there and its text, as an image of the same bytes does. It
is the word that a step fetches whose program counter falls on the same cell. So the row at the
program counter of a running console shows the word that is executed next, with the text of the
instruction that is executed, and it starts like data if and only if the next step finds no
instruction; the fault then names the word of the row. -/
theorem ofMemory_shows_fetches (m : Memory) (start count : Int) :
    ((ofMemory m start count).length : Int) = max count 0 ∧
      ofImage? m.cells.toArray start count = some (ofMemory m start count) ∧
      (∀ k : Nat, (k : Int) < count →
        (ofMemory m start count)[k]? =
            some ⟨(start + 2 * k) % 4096, m.readWord (start + 2 * k),
              renderInt (m.readWord (start + 2 * k)).toNat⟩ ∧
          ∀ c : Console, c.machine.memory = m →
            (c.machine.pc.toNat : Int) % 4096 = (start + 2 * k) % 4096 →
            c.nextWord = m.readWord (start + 2 * k)) ∧
      ∀ c : Console, c.machine.memory = m → c.halted = false → c.machine.paused = false →
        ∃ row, ofMemory m c.machine.pc.toNat 1 = [row] ∧ row.word = c.nextWord ∧
          (∀ i, c.executes? = some i → i.encode = row.word ∧ row.text = i.render) ∧
          ∀ w a, c.step.2 = .error (.fault (.unknownInstruction w a)) ↔
            "DW".toList <+: row.text ∧ w = row.word ∧ a = c.machine.pc.toNat := by
  refine ⟨?_, ofImage?_eq m start count, ?_, ?_⟩
  · rw [ofMemory_eq, List.length_map, List.length_range]
    omega
  · intro k hk
    refine ⟨?_, ?_⟩
    · have hlt : k < count.toNat := by omega
      rw [ofMemory_eq, List.getElem?_map, List.getElem?_range hlt]
      rfl
    · rintro c rfl hcell
      exact Console.nextWord_eq hcell
  · rintro c rfl hh hp
    have hword : c.machine.memory.readWord c.machine.pc.toNat = c.nextWord := rfl
    have hrow : ofMemory c.machine.memory c.machine.pc.toNat 1 =
        [rowAt c.machine.memory c.machine.pc.toNat] := by
      rw [ofMemory_eq]
      simp
    refine ⟨_, hrow, hword, ?_, ?_⟩
    · intro i hi
      obtain ⟨-, -, hread, -⟩ := Console.executes?_eq_some_iff.mp hi
      exact ⟨Instruction.encode_of_decode? hread, renderInt_of_decode? hread⟩
    · intro w a
      show _ ↔ "DW".toList <+: renderInt (c.machine.memory.readWord _).toNat ∧ _
      rw [hword, Instruction.data_isPrefix_iff]
      exact Console.unknownInstruction_iff hh hp

/-- A console that jumps to a word which starts in the last cell and ends in the first one. -/
def atDataAcrossEnd : Console :=
  (Console.standard (.ofArray #[]) (.number 10)).after
    [.loadRom [0x1F, 0xFF], .loadProgram [0x50, 0x01] 0xFFF, .step]

theorem ofMemory_shows_fetches_across_end :
    let c := atDataAcrossEnd
    (ofMemory c.machine.memory (-1) 2)[0]? = some ⟨0xFFF, 0x5001, "DW 0x5001".toList⟩ ∧
      c.nextWord = 0x5001 ∧
        ∃ row, ofMemory c.machine.memory c.machine.pc.toNat 1 = [row] ∧
          "DW".toList <+: row.text ∧
            c.step.2 = .error (.fault (.unknownInstruction row.word 0xFFF)) := by
  intro c
  obtain ⟨-, -, hrows, hstep⟩ := ofMemory_shows_fetches c.machine.memory (-1) 2
  have hpc : c.machine.pc.toNat = 0xFFF := by decide +kernel
  have hread : c.machine.memory.readWord (-1) = 0x5001 := by decide +kernel
  have htext : renderInt (UInt16.toNat 0x5001) = "DW 0x5001".toList := by decide +kernel
  obtain ⟨hrow, hfetch⟩ := hrows 0 (by decide)
  have hnext := hfetch c rfl (by rw [hpc]; rfl)
  obtain ⟨row, hat, hword, -, hdata⟩ := hstep c rfl (by decide +kernel) (by decide +kernel)
  have hstart : (-1 : Int) + 2 * ((0 : Nat) : Int) = -1 := rfl
  rw [hstart, hread] at hrow hnext
  refine ⟨hrow.trans ?_, hnext, row, hat, ?_⟩
  · rw [htext]
    rfl
  · have hfault : c.step.2 = .error (.fault (.unknownInstruction 0x5001 0xFFF)) := by
      decide +kernel
    obtain ⟨hdirective, hw, -⟩ := (hdata _ _).mp hfault
    rw [← hw]
    exact ⟨hdirective, hfault⟩

end Disassembly

end ChipEight
