/-
# ChipEight.Proofs.Marks -- the mark of the next instruction

A disassembly that starts at the program counter shows first what the next step fetches, and the monitor
means to mark that row. The address of a row is reduced, and the mark compares it with the program
counter as it is. So the right rows are marked as long as the program counter lies in memory: the first
one, and again every row that comes back to it around the end of memory. A program counter beyond
memory is the address of no row, and then no row is marked, although the first one still shows what the
next step fetches.
-/
import ChipEight.Proofs.Answers
import ChipEight.Proofs.Rows

namespace ChipEight.Monitor

open Text Numeral

/-! ## Disassemblies from the program counter on -/

/-- The arguments that ask for so many rows from the program counter on: none at all, the name of the
register, and its name with a number. -/
inductive FromCounter : Text → Int → Prop where
  | plain {argument : Text} (h : words argument = []) : FromCounter argument 10
  | named {argument first : Text} (h : words argument = [first]) (hpc : lower first = ['p', 'c']) :
      FromCounter argument 10
  | counted {argument first second : Text} {rest : List Text} {n : Int}
      (h : words argument = first :: second :: rest) (hpc : lower first = ['p', 'c'])
      (hn : read 0 second = .ok n) : FromCounter argument n

theorem address_of_pc (c : Console) {word : Text} (h : lower word = ['p', 'c']) :
    address c word = .ok c.machine.pc.toNat := by
  rw [address, h]
  rfl

theorem FromCounter.stretch_eq {argument : Text} {n : Int} (h : FromCounter argument n)
    (c : Console) : stretch c c.machine.pc.toNat 10 (words argument) = .ok (c.machine.pc.toNat, n) := by
  cases h with
  | plain h =>
    rw [h]
    rfl
  | named h hpc =>
    rw [h, stretch, address_of_pc c hpc]
    rfl
  | counted h hpc hn =>
    rw [h, stretch, address_of_pc c hpc, hn]
    rfl

theorem disasmReply_of_fromCounter {argument : Text} {n : Int} (h : FromCounter argument n)
    (c : Console) : disasmReply c (words argument) =
      say c ((Disassembly.ofMemory c.machine.memory c.machine.pc.toNat n).map (disasmLine c)) := by
  rw [disasmReply, h.stretch_eq c]

/-! ## Marks -/

/-- A printed row, with a mark or without. -/
def printedRow (marked : Bool) (r : Row) : Text :=
  ' ' :: (if marked then '>' else ' ') :: Disassembly.line r.address r.word

theorem disasmLine_eq (c : Console) (r : Row) :
    disasmLine c r = printedRow (r.address = c.machine.pc.toNat) r := by
  simp only [disasmLine, printedRow, decide_eq_true_eq]

/-- The addresses of rows lie in memory. -/
theorem address_of_mem_ofMemory {m : Memory} {start count : Int} {r : Row}
    (h : r ∈ Disassembly.ofMemory m start count) : 0 ≤ r.address ∧ r.address < 4096 := by
  rw [Disassembly.ofMemory_eq] at h
  obtain ⟨k, -, rfl⟩ := List.mem_map.mp h
  show 0 ≤ (start + 2 * (k : Int)) % 4096 ∧ (start + 2 * (k : Int)) % 4096 < 4096
  omega

/-- A disassembly that starts at the program counter shows first the word that the next step fetches,
at its reduced address. While the program counter lies in memory, it marks exactly the rows with this
address, and so the first one; beyond memory it marks none. Nothing else is changed or printed. -/
theorem disasm_marks (d : Directory) (c : Console) {line argument : Text} {n : Int}
    (hline : Request.ofLine line = .command .disasm argument) (hn : FromCounter argument n) :
    let pc : Int := c.machine.pc.toNat
    let rows := Disassembly.ofMemory c.machine.memory pc n
    let reply := answer d c line
    (reply.console = c ∧ reply.standing = .ongoing ∧ (rows.length : Int) = max n 0) ∧
      (1 ≤ n → ∃ row rest, rows = row :: rest ∧ row.address = pc % 4096 ∧ row.word = c.nextWord) ∧
      (pc < 4096 → reply.output =
        unlines (rows.map fun row => printedRow (row.address = pc % 4096) row)) ∧
      (4096 ≤ pc → reply.output = unlines (rows.map (printedRow false))) := by
  intro pc rows reply
  have hreply : reply = say c (rows.map (disasmLine c)) := by
    show answer d c line = _
    unfold answer
    rw [hline]
    exact disasmReply_of_fromCounter hn c
  have hrows : rows = (List.range n.toNat).map fun k : Nat =>
      Disassembly.rowAt c.machine.memory (pc + 2 * k) :=
    Disassembly.ofMemory_eq c.machine.memory pc n
  have hlines (marked : Row → Bool)
      (hmarked : ∀ row ∈ rows, decide (row.address = pc) = marked row) :
      reply.output = unlines (rows.map fun row => printedRow (marked row) row) := by
    rw [hreply]
    show unlines (rows.map (disasmLine c)) = _
    refine congrArg unlines (List.map_congr_left fun row hrow => ?_)
    rw [disasmLine_eq, ← hmarked row hrow]
  refine ⟨⟨by rw [hreply]; rfl, by rw [hreply]; rfl, ?_⟩, ?_, ?_, ?_⟩
  · rw [hrows, List.length_map, List.length_range]
    omega
  · intro hone
    obtain ⟨m, hm⟩ : ∃ m, n.toNat = m + 1 := ⟨n.toNat - 1, by omega⟩
    rw [hm, List.range_succ_eq_map, List.map_cons] at hrows
    exact ⟨_, _, hrows, by simp [Disassembly.rowAt], by simp [Disassembly.rowAt, pc, Console.nextWord]⟩
  · intro hlow
    refine hlines (fun row => decide (row.address = pc % 4096)) fun row _ => ?_
    have hsame : pc % 4096 = pc := by omega
    rw [hsame]
  · intro hhigh
    refine hlines (fun _ => false) fun row hrow => ?_
    have := address_of_mem_ofMemory hrow
    exact decide_eq_false (by omega)

/-- A console that jumps to the last cell of memory. -/
def atLastCell : Console :=
  (Console.standard (.ofArray #[]) (.number 10)).after [.loadRom [0x1F, 0xFF], .step]

theorem disasm_marks_at_last_cell :
    (answer ⟨[], []⟩ atLastCell "disasm PC 2".toList).output =
      unlines [" >FFF: 00F0  SYS 0x0f0".toList, "  001: 9090  SNE V0, V9".toList] := by
  have hline : Request.ofLine "disasm PC 2".toList = .command .disasm "PC 2".toList := by
    decide +kernel
  have hwords : words "PC 2".toList = [['P', 'C'], ['2']] := by decide +kernel
  have hcounter : FromCounter "PC 2".toList 2 := .counted hwords (by decide) rfl
  obtain ⟨-, -, hlow, -⟩ := disasm_marks ⟨[], []⟩ atLastCell hline hcounter
  rw [hlow (by decide +kernel)]
  decide +kernel

/-- A console that jumps behind the end of memory, by an offset. -/
def beyondMemory : Console :=
  (Console.standard (.ofArray #[]) (.number 10)).after
    [.loadRom [0x60, 0x01, 0xBF, 0xFF], .step, .step]

/-- The next step fetches from the first cell, and the row that shows it is not marked. -/
theorem disasm_beyond_memory_unmarked :
    Reached (Console.standard (.ofArray #[]) (.number 10)) beyondMemory ∧
      beyondMemory.machine.pc.toNat = 0x1000 ∧ beyondMemory.nextWord = 0xF090 ∧
      (answer ⟨[], []⟩ beyondMemory "disasm pc 1".toList).output =
        unlines ["  000: F090  DW 0xf090".toList] := by
  have hreached : Reached (Console.standard (.ofArray #[]) (.number 10)) beyondMemory :=
    .operation .step (.operation .step (.operation (.loadRom [0x60, 0x01, 0xBF, 0xFF]) .start))
  exact ⟨hreached, by decide +kernel, by decide +kernel, by decide +kernel⟩

end ChipEight.Monitor
