/-
# ChipEight.Proofs.Dumps -- what a hex dump shows

A hex dump prints a stretch of memory in rows of sixteen bytes, and what is left in the last one. The
addresses of the rows are reduced, and so is the address of every byte, so a stretch may go around the
end of memory more than once. `dump_law` reads the printed rows again: their columns have fixed places,
as an address in memory has three digits and sixteen bytes fill the place that is left for them
(`showsBytes_line`), and the bytes of all rows together are the stretch that was asked for
(`flatMap_dumpRows`).
-/
import ChipEight.Monitor.Session
import ChipEight.Proofs.Digits
import ChipEight.Proofs.LetterCase
import ChipEight.Proofs.Pieces
import Mathlib.Data.List.Forall2

namespace ChipEight

open Text Numeral

namespace Monitor

/-! ## Columns of a printed row -/

/-- The place of the address in a printed row. -/
def addressColumn (row : Text) : Text :=
  (row.drop 2).take 3

/-- The place of the bytes. -/
def byteColumns (row : Text) : Text :=
  (row.drop 7).take 47

/-- The place of the characters, up to the end of the row. -/
def characterColumn (row : Text) : Text :=
  row.drop 56

/-- A printed row shows bytes from an address on, each in hexadecimal and as a character. A byte that
is no printable ASCII character is shown as a dot. -/
structure ShowsBytes (row : Text) (address : Int) (bytes : List UInt8) : Prop where
  label : IsColumn (addressColumn row) 3 address.toNat
  columns : List.Forall₂ (fun column b => IsColumn column 2 b.toNat) (words (byteColumns row)) bytes
  characters : characterColumn row =
    bytes.map fun b => if 0x20 ≤ b.toNat ∧ b.toNat ≤ 0x7E then Char.ofNat b.toNat else '.'
  unbroken : '\n' ∉ row

/-- Texts of one length are put together with a blank between neighbours. -/
theorem length_joinWith_le {width : Nat} {pieces : List Text} (h : ∀ t ∈ pieces, t.length = width) :
    (joinWith [' '] pieces).length ≤ (width + 1) * pieces.length - 1 := by
  induction pieces with
  | nil => exact Nat.zero_le _
  | cons t ts ih =>
    have ht := h t List.mem_cons_self
    have hrest := ih fun u hu => h u (List.mem_cons_of_mem t hu)
    rcases ts with _ | ⟨u, us⟩
    · simp only [joinWith, List.length_cons, List.length_nil]
      omega
    · have hone : 1 ≤ (u :: us).length := by simp
      have hmany : (width + 1) * 1 ≤ (width + 1) * (u :: us).length := Nat.mul_le_mul_left _ hone
      rw [joinWith_cons _ t (by simp), List.length_append, List.length_append, List.length_singleton,
        List.length_cons (a := t), Nat.mul_succ]
      omega

theorem isColumn_byte (b : UInt8) : IsColumn (upperHex 2 b.toNat) 2 b.toNat :=
  isColumn_upperHex (by decide) b.toNat_lt

namespace DumpRow

theorem character_eq (b : UInt8) : character b =
    if 0x20 ≤ b.toNat ∧ b.toNat ≤ 0x7E then Char.ofNat b.toNat else '.' := by
  unfold character
  have hlast : b.toNat < 0x7F ↔ b.toNat ≤ 0x7E := Nat.lt_succ_iff
  simp only [hlast]

theorem character_ne_lineFeed (b : UInt8) : character b ≠ '\n' := by
  unfold character
  split
  · rename_i h
    have all : ∀ n < 0x7F, 0x20 ≤ n → Char.ofNat n ≠ '\n' := by decide
    exact all b.toNat h.2 h.1
  · decide

variable (r : DumpRow)

theorem words_hexColumn {blanks : Text} (h : isAllBlank blanks = true) :
    words (r.hexColumn ++ blanks) = r.bytes.map fun b => upperHex 2 b.toNat := by
  apply words_joinWith _ _ h
  · intro t ht
    obtain ⟨b, -, rfl⟩ := List.mem_map.mp ht
    exact upperHex_ne_nil 2 _
  · intro t ht d hd
    obtain ⟨b, -, rfl⟩ := List.mem_map.mp ht
    exact isBlank_of_mem_upperHex hd

variable {r}

/-- Sixteen bytes fill the place that is left for them. -/
theorem length_padded (h : r.bytes.length ≤ rowLength) : (padRight 47 r.hexColumn).length = 47 := by
  have hwidth : ∀ t ∈ r.bytes.map fun b => upperHex 2 b.toNat, t.length = 2 := by
    intro t ht
    obtain ⟨b, -, rfl⟩ := List.mem_map.mp ht
    exact (isColumn_byte b).length
  have hle : r.hexColumn.length ≤ 3 * r.bytes.length - 1 := by
    have hjoined := length_joinWith_le hwidth
    rwa [List.length_map] at hjoined
  have hmost : rowLength = 16 := rfl
  rw [length_padRight]
  omega

theorem line_eq (r : DumpRow) :
    r.line = "  ".toList ++ (upperHex 3 r.address ++ (": ".toList ++
      (padRight 47 r.hexColumn ++ ("  ".toList ++ r.textColumn)))) := by
  show "  ".toList ++ upperHex 3 r.address ++ ": ".toList ++ padRight 47 r.hexColumn ++
    "  ".toList ++ r.textColumn = _
  simp only [List.append_assoc]

theorem lineFeed_not_mem_line : '\n' ∉ r.line := by
  have hhex : '\n' ∉ r.hexColumn := by
    intro hmem
    rcases mem_joinWith hmem with hsep | ⟨t, ht, hchar⟩
    · exact absurd hsep (by decide)
    · obtain ⟨b, -, rfl⟩ := List.mem_map.mp ht
      exact not_mem_upperHex (by decide) 2 _ hchar
  have htext : '\n' ∉ r.textColumn := by
    intro hmem
    obtain ⟨b, -, hb⟩ := List.mem_map.mp hmem
    exact character_ne_lineFeed b hb
  have haddress : '\n' ∉ upperHex 3 r.address := not_mem_upperHex (by decide) 3 _
  rw [line_eq]
  simp [padRight, hhex, htext, haddress]

end DumpRow

/-- A row with an address in memory and no more than sixteen bytes is printed in columns. -/
theorem showsBytes_line {r : DumpRow} (hlow : 0 ≤ r.address) (hhigh : r.address < 4096)
    (hlength : r.bytes.length ≤ rowLength) : ShowsBytes r.line r.address r.bytes := by
  obtain ⟨a, ha⟩ := Int.eq_ofNat_of_zero_le hlow
  have haddress : IsColumn (upperHex 3 a) 3 a :=
    isColumn_upperHex (by decide) (Int.ofNat_lt.mp (ha ▸ hhigh))
  have hrow := DumpRow.line_eq r
  rw [ha] at hrow
  obtain ⟨hfirst, hrest⟩ := haddress.row (padRight 47 r.hexColumn ++ ("  ".toList ++ r.textColumn))
  rw [← hrow] at hfirst hrest
  have hfilled := DumpRow.length_padded hlength
  have hsecond : byteColumns r.line = padRight 47 r.hexColumn := by
    rw [byteColumns, hrest]
    exact List.take_left' hfilled
  have hthird : characterColumn r.line = r.textColumn := by
    rw [characterColumn, ← List.drop_drop (i := 49) (j := 7), hrest,
      ← List.drop_drop (i := 2) (j := 47), List.drop_left' hfilled]
    rfl
  have hpadding : isAllBlank (List.replicate (47 - r.hexColumn.length) ' ') = true := by
    rw [isAllBlank, List.all_eq_true]
    intro d hd
    rw [List.eq_of_mem_replicate hd]
    decide
  refine ⟨?_, ?_, ?_, DumpRow.lineFeed_not_mem_line⟩
  · rw [ha, addressColumn, hfirst]
    exact haddress
  · rw [hsecond, padRight, DumpRow.words_hexColumn r hpadding, List.forall₂_map_left_iff]
    exact List.forall₂_same.mpr fun b _ => isColumn_byte b
  · rw [hthird]
    exact List.map_congr_left fun b _ => DumpRow.character_eq b

/-! ## Rows -/

/-- So many rows of sixteen bytes are what stands in them, as far as there is something left. -/
theorem flatMap_slices (m : Memory) (a : Int) (count rows : Nat) :
    ((List.range rows).flatMap fun j : Nat =>
      m.slice (a + (16 * j : Nat)) (min 16 (count - 16 * j))) = m.slice a (min count (16 * rows)) := by
  induction rows with
  | zero => simp [Memory.slice]
  | succ rows ih =>
    rw [List.range_succ, List.flatMap_append, ih, List.flatMap_singleton]
    rcases Nat.lt_or_ge (16 * rows) count with hlt | hge
    · have hfull : min count (16 * rows) = 16 * rows := Nat.min_eq_right (Nat.le_of_lt hlt)
      have hsum : min count (16 * (rows + 1)) = 16 * rows + min 16 (count - 16 * rows) := by omega
      rw [hfull, hsum, m.slice_add]
    · -- nothing is left for this row
      have hnone : min 16 (count - 16 * rows) = 0 := by omega
      have hsame : min count (16 * (rows + 1)) = min count (16 * rows) := by omega
      rw [hnone, hsame]
      exact List.append_nil _

/-- A row shows what stands behind the rows before it. -/
theorem dumpRows_eq (m : Memory) (a : Int) (count : Nat) :
    dumpRows m a count = (List.range ((count + 15) / 16)).map fun j : Nat =>
      ⟨(a + (16 * j : Nat)) % 4096, m.slice (a + (16 * j : Nat)) (min 16 (count - 16 * j))⟩ := by
  unfold dumpRows
  refine List.map_congr_left fun j _ => ?_
  have hsame : (a + (16 * j : Nat)) % 4096 % 4096 = (a + (16 * j : Nat)) % 4096 := by omega
  exact congrArg (DumpRow.mk _) (m.slice_congr hsame _)

/-- All rows are printed in columns. -/
theorem showsBytes_of_mem {m : Memory} {a : Int} {count : Nat} {r : DumpRow}
    (h : r ∈ dumpRows m a count) : ShowsBytes r.line r.address r.bytes := by
  rw [dumpRows_eq] at h
  obtain ⟨j, -, rfl⟩ := List.mem_map.mp h
  apply showsBytes_line
  · exact Int.emod_nonneg _ (by decide)
  · exact Int.emod_lt_of_pos _ (by decide)
  · show (m.slice _ _).length ≤ 16
    rw [Memory.slice, List.length_map, List.length_range]
    exact Nat.min_le_left _ _

/-- The bytes of all rows together are those of the stretch. -/
theorem flatMap_dumpRows (m : Memory) (a : Int) (count : Nat) :
    (dumpRows m a count).flatMap DumpRow.bytes = m.slice a count := by
  have hall : min count (16 * ((count + 15) / 16)) = count := by omega
  rw [dumpRows_eq, List.flatMap_map, flatMap_slices, hall]

/-! ## Lines that ask for a dump -/

/-- The line asks for so many bytes from an address on, or for sixty-four if it has no number. -/
inductive AsksDump (c : Console) (a : Int) : Int → Text → Prop where
  | plain {line argument first : Text} (command : Request.ofLine line = .command .dump argument)
      (h : words argument = [first]) (start : address c first = .ok a) : AsksDump c a 64 line
  | counted {line argument first second : Text} {rest : List Text} {n : Int}
      (command : Request.ofLine line = .command .dump argument)
      (h : words argument = first :: second :: rest) (start : address c first = .ok a)
      (count : read 0 second = .ok n) : AsksDump c a n line

theorem AsksDump.answer_eq {c : Console} {a n : Int} {line : Text} (h : AsksDump c a n line)
    (d : Directory) :
    answer d c line = say c ((dumpRows c.machine.memory a n.toNat).map DumpRow.line) := by
  unfold answer
  cases h with
  | plain command h start =>
    simp only [command, obey, dumpReply, h, stretch, start]
    rfl
  | counted command h start count =>
    simp only [command, obey, dumpReply, h, stretch, start, count]
    rfl

theorem isBlank_of_isWordCharacter {c : Char} (h : isWordCharacter c = true) : isBlank c = false := by
  have apart : areApart [(0x41, 0x5a), (0x61, 0x7a), (0x30, 0x39), (0x5f, 0x5f)] blankRuns = true := by
    decide
  -- letters and digits are told by the code of the character
  have hruns : ((decide (c.val ≥ 'A'.val ∧ c.val ≤ 'Z'.val) ||
      (decide (c.val ≥ 'a'.val) && decide (c.val ≤ 'z'.val))) ||
      (decide (c.val ≥ '0'.val) && decide (c.val ≤ '9'.val)) || c == '_') = true := h
  simp only [Bool.or_eq_true, Bool.and_eq_true, decide_eq_true_eq, beq_iff_eq, ge_iff_le,
    UInt32.le_iff_toNat_le] at hruns
  apply not_covers_of_apart apart
  rw [covers_iff]
  rcases hruns with ((hrun | hrun) | hrun) | rfl
  · exact ⟨(0x41, 0x5a), by decide, hrun⟩
  · exact ⟨(0x61, 0x7a), by decide, hrun⟩
  · exact ⟨(0x30, 0x39), by decide, hrun⟩
  · exact ⟨(0x5f, 0x5f), by decide, by decide⟩

/-- A command word and an argument with a blank between them are read as the command. -/
theorem ofLine_command {word argument : Text} {command : Command}
    (hname : commandNamed? word = some command) (hne : word ≠ [])
    (hword : ∀ c ∈ word, isWordCharacter c = true) (hargument : Trimmed argument)
    (hsome : argument ≠ []) :
    Request.ofLine (word ++ ' ' :: argument) = .command command argument := by
  have hblank : ∀ c ∈ word, isBlank c = false := fun c hc => isBlank_of_isWordCharacter (hword c hc)
  have htrim : trim (word ++ ' ' :: argument) = word ++ ' ' :: argument := by
    have htrimmed := (Trimmed.of_forall hblank).append hargument hne hsome [' ']
    rw [List.append_assoc] at htrimmed
    exact htrimmed.trim_eq
  have hspelled : spellOut (word ++ ' ' :: argument) = word ++ ' ' :: argument := by
    obtain ⟨c, cs, rfl⟩ := List.exists_cons_of_ne_nil hne
    unfold spellOut
    split
    · rename_i hmark
      rw [(List.cons.inj hmark).1] at hword
      exact absurd (hword '?' List.mem_cons_self) (by decide)
    · rfl
  have hfirst : firstWord? (word ++ ' ' :: argument) = some (word, trimStart (' ' :: argument)) := by
    apply firstWord?_append hne hblank
    intro c hc
    cases hc
    decide
  have hend : isWordCharacter ' ' = false := by decide
  have htake : (word ++ ' ' :: argument).takeWhile isWordCharacter = word := by
    rw [List.takeWhile_append_of_pos hword, List.takeWhile_cons, hend]
    exact List.append_nil word
  have hdrop : (word ++ ' ' :: argument).dropWhile isWordCharacter = ' ' :: argument := by
    rw [List.dropWhile_append_of_pos hword, List.dropWhile_cons, hend]
    rfl
  simp only [Request.ofLine, htrim, hspelled, hfirst, htake, hname, hdrop, trim_cons (c := ' ') rfl,
    hargument.trim_eq]

/-- An integer in hexadecimal is a word. -/
theorem isBlank_of_mem_hex {width : Nat} {n : Int} {c : Char} (h : c ∈ hex width n) :
    isBlank c = false :=
  of_mem_hex (p := fun c => isBlank c = false) (by decide) (by decide) (by decide) h

/-- It has small letters only, and is the name of no register. -/
theorem address_hex (c : Console) (n : Int) : address c (hex 0 n) = .ok n := by
  have hsmall : ∀ d ∈ hex 0 n, d.toNat < 128 ∧ d.toLower = d ∧ d ≠ 'p' ∧ d ≠ 'i' := by
    intro d hd
    exact of_mem_hex (p := fun d => d.toNat < 128 ∧ d.toLower = d ∧ d ≠ 'p' ∧ d ≠ 'i')
      (by decide) (by decide) (by decide) hd
  have hlower : lower (hex 0 n) = hex 0 n := by
    have hmap := lowerAfter_append (fun d hd => (hsmall d hd).1) [] []
    rw [List.append_nil, List.map_congr_left fun d hd => (hsmall d hd).2.1, List.map_id'] at hmap
    exact hmap.trans (List.append_nil _)
  have hcounter : hex 0 n ≠ ['p', 'c'] := by
    intro he
    exact (hsmall 'p' (by rw [he]; exact List.mem_cons_self)).2.2.1 rfl
  have hindex : hex 0 n ≠ ['i'] := by
    intro he
    exact (hsmall 'i' (by rw [he]; exact List.mem_cons_self)).2.2.2 rfl
  unfold address
  rw [hlower]
  simp only [if_neg hcounter, if_neg hindex, read_hex]

/-- Every stretch of memory can be asked for. -/
theorem exists_asksDump (c : Console) (a n : Int) : ∃ line, AsksDump c a n line := by
  have hne (m : Int) : hex 0 m ≠ [] := by simp [hex]
  have hblank (m : Int) : ∀ d ∈ hex 0 m, isBlank d = false := fun d hd => isBlank_of_mem_hex hd
  have hwords : words (hex 0 a ++ [' '] ++ hex 0 n) = [hex 0 a, hex 0 n] := by
    have hjoined : words (joinWith [' '] [hex 0 a, hex 0 n] ++ []) = [hex 0 a, hex 0 n] :=
      words_joinWith (by simp [hne]) (by simpa using ⟨hblank a, hblank n⟩) rfl
    rwa [List.append_nil] at hjoined
  have hargument : Trimmed (hex 0 a ++ [' '] ++ hex 0 n) :=
    (Trimmed.of_forall (hblank a)).append (.of_forall (hblank n)) (hne a) (hne n) [' ']
  have hcommand : Request.ofLine ("dump".toList ++ ' ' :: (hex 0 a ++ [' '] ++ hex 0 n)) =
      .command .dump (hex 0 a ++ [' '] ++ hex 0 n) :=
    ofLine_command (by decide) (by decide) (List.all_eq_true.mp (by decide)) hargument (by simp)
  exact ⟨_, .counted hcommand hwords (address_hex c a) (read_hex 0 n)⟩

/-! ## Dumps -/

/-- Every stretch of memory can be asked for, and what is printed then are rows of sixteen bytes, with
what is left in the last one; there are no rows if there is nothing to show. Each row shows the bytes
behind those of the rows before it, under its address in memory. The columns of all rows together are
the bytes of the stretch, each once and in order. Nothing else is changed or printed. -/
theorem dump_law (d : Directory) (c : Console) (a n : Int) :
    (∃ line, AsksDump c a n line) ∧
    ∀ line, AsksDump c a n line →
      let reply := answer d c line
      (reply.console = c ∧ reply.standing = .ongoing) ∧
      ∃ rows : List Text, reply.output = unlines rows ∧
        (rows.length : Int) = max 0 ((n + 15) / 16) ∧
        (∀ (j : Nat) (hj : j < rows.length), ShowsBytes rows[j] ((a + 16 * j) % 4096)
          (c.machine.memory.slice (a + 16 * j) (min 16 (n - 16 * j)).toNat)) ∧
        List.Forall₂ (fun column b => IsColumn column 2 b.toNat)
          (rows.flatMap fun row => words (byteColumns row))
          ((List.range n.toNat).map fun k : Nat => c.machine.memory.read ((a + k) % 4096)) := by
  refine ⟨exists_asksDump c a n, ?_⟩
  intro line hline reply
  have hreply : reply = say c ((dumpRows c.machine.memory a n.toNat).map DumpRow.line) :=
    hline.answer_eq d
  refine ⟨⟨by rw [hreply]; rfl, by rw [hreply]; rfl⟩, _, by rw [hreply]; rfl, ?_, ?_, ?_⟩
  · rw [dumpRows_eq, List.length_map, List.length_map, List.length_range]
    omega
  · intro j hj
    have hcount : min 16 (n.toNat - 16 * j) = (min 16 (n - 16 * j)).toNat := by omega
    rw [List.length_map] at hj
    have hshown := showsBytes_of_mem (List.getElem_mem hj)
    rw [← List.getElem_map DumpRow.line] at hshown
    have hrow : (dumpRows c.machine.memory a n.toNat)[j] = ⟨(a + 16 * j) % 4096,
        c.machine.memory.slice (a + 16 * j) (min 16 (n - 16 * j)).toNat⟩ := by
      simp [dumpRows_eq, hcount]
    rw [hrow] at hshown
    exact hshown
  · have hcolumns : List.Forall₂ (fun row r => List.Forall₂ (fun column b => IsColumn column 2 b.toNat)
        (words (byteColumns row)) r.bytes)
        ((dumpRows c.machine.memory a n.toNat).map DumpRow.line)
        (dumpRows c.machine.memory a n.toNat) := by
      rw [List.forall₂_map_left_iff]
      exact List.forall₂_same.mpr fun r hr => (showsBytes_of_mem hr).columns
    have hbytes : (List.range n.toNat).map (fun k : Nat => c.machine.memory.read ((a + k) % 4096)) =
        (dumpRows c.machine.memory a n.toNat).flatMap DumpRow.bytes := by
      rw [flatMap_dumpRows]
      refine List.map_congr_left fun k _ => c.machine.memory.read_congr ?_
      omega
    rw [hbytes]
    exact List.rel_flatMap hcolumns fun row r hrow => hrow

/-- A dump around the end of memory, of a console that was just turned on: behind the last four cells
comes the font. -/
theorem dump_law_across_end :
    let c := Console.standard (.ofArray #[]) (.number 10)
    let reply := answer ⟨[], []⟩ c "dump -4 20".toList
    AsksDump c (-4) 20 "dump -4 20".toList ∧ reply.console = c ∧
      reply.output = unlines
        ["  FFC: 00 00 00 00 F0 90 90 90 F0 20 60 20 20 70 F0 10  ......... `  p..".toList,
         "  00C: F0 80 F0 F0                                      ....".toList] ∧
      ∃ rows, reply.output = unlines rows ∧ rows.length = 2 ∧
        List.Forall₂ (fun column b => IsColumn column 2 b.toNat)
          (rows.flatMap fun row => words (byteColumns row)) (List.replicate 4 0 ++ Memory.font.take 16) := by
  intro c reply
  have hcommand : Request.ofLine "dump -4 20".toList = .command .dump "-4 20".toList := by
    decide +kernel
  have hwords : words "-4 20".toList = [['-', '4'], ['2', '0']] := by decide +kernel
  have hasks : AsksDump c (-4) 20 "dump -4 20".toList := .counted hcommand hwords (by rfl) (by rfl)
  obtain ⟨⟨hsame, -⟩, rows, houtput, hlength, -, hcolumns⟩ :=
    (dump_law ⟨[], []⟩ c (-4) 20).2 "dump -4 20".toList hasks
  have hbytes : (List.range (20 : Int).toNat).map (fun k : Nat => c.machine.memory.read ((-4 + k) % 4096)) =
      List.replicate 4 0 ++ Memory.font.take 16 := by
    decide +kernel
  rw [hbytes] at hcolumns
  have hrows : rows.length = 2 := Int.ofNat_inj.mp hlength
  exact ⟨hasks, hsame, by decide +kernel, rows, houtput, hrows, hcolumns⟩

end Monitor

end ChipEight
