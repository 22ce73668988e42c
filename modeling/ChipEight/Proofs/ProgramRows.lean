/-
# ChipEight.Proofs.ProgramRows -- a program that is shown as instructions

The program of the command line that is asked for `--disasm` prints a row for every two bytes of the
file. Nothing of the file is lost in that: the words of the rows are the bytes again, with a zero behind
the last one if their number is odd, and so is what the assembler makes of the texts, unless one of them
is data.

The bytes go a long way. They are put into a memory that holds nothing but zeros there (`slice_loaded`),
are taken from it in pairs (`flatMap_ofMemory`), and are written in columns, which have the same places in
every row since no address has more than three digits (`columns_romLine`).
-/
import ChipEight.Proofs.Headless
import ChipEight.Proofs.Loading
import ChipEight.Proofs.Rows

namespace ChipEight

open Text Numeral Assembly

/-! ## Bytes of a memory -/

namespace Memory

theorem wordBytes_readWord (m : Memory) (a : Int) : wordBytes (m.readWord a) = m.slice a 2 := by
  simp [wordBytes, readWord, slice, List.range_succ]

/-- An image that is no longer than memory is found where it was put. -/
theorem slice_load (m : Memory) (address : Int) {image : List UInt8} (h : image.length ≤ 4096) :
    (m.load address image).slice address image.length = image := by
  refine List.ext_getElem (by simp [slice]) fun k _ hk => ?_
  rw [← m.read_load_image address h hk]
  simp [slice]

/-- Behind the font there are zeros. -/
theorem read_loadFont {a : Int} (hlow : font.length ≤ a) (hhigh : a < 4096) :
    zero.loadFont.read a = 0 := by
  have hzero : zero.read a = 0 := by simp [read, zero]
  refine ((zero.read_load 0 font a).resolve_right ?_).trans hzero
  rintro ⟨k, hk, hfalls⟩
  unfold SameCell at hfalls
  omega

/-- A program in a memory that was just turned on has zeros behind it. -/
theorem slice_loaded {image : List UInt8} {count : Nat} (h : image.length + count ≤ programRoom) :
    (zero.loadFont.load programBase image).slice programBase (image.length + count) =
      image ++ List.replicate count 0 := by
  have hroom : image.length + count ≤ 3584 := h
  have hbase : ((programBase : Nat) : Int) = 0x200 := rfl
  have hfont : font.length = 80 := rfl
  rw [slice_add, slice_load _ _ (by omega)]
  refine congrArg _ (List.eq_replicate_iff.mpr ⟨by simp [slice], fun b hb => ?_⟩)
  obtain ⟨k, hk, rfl⟩ := List.mem_map.mp hb
  rw [List.mem_range] at hk
  rw [read_load_outside _ (Nat.le_trans (Nat.le_add_right _ _) h) (by omega) (by omega)]
  exact read_loadFont (by omega) (by omega)

end Memory

/-! ## Words of rows -/

namespace Disassembly

/-- The words of the rows are the bytes that the rows are read from. -/
theorem flatMap_ofMemory (m : Memory) (start : Int) (count : Nat) :
    ((ofMemory m start count).map Row.word).flatMap wordBytes = m.slice start (2 * count) := by
  rw [ofMemory_eq, Int.toNat_natCast]
  induction count with
  | zero => rfl
  | succ count ih =>
    have hword := m.wordBytes_readWord (start + 2 * count)
    rw [List.range_succ, List.map_append, List.map_append, List.flatMap_append, ih, Nat.mul_succ,
      m.slice_add]
    simpa [rowAt] using hword

end Disassembly

/-- Words with the same bytes are the same. -/
theorem Assembly.flatMap_wordBytes_injective :
    Function.Injective fun ws : List UInt16 => ws.flatMap wordBytes := by
  intro ws us h
  induction ws generalizing us with
  | nil =>
    cases us with
    | nil => rfl
    | cons u us => simp [wordBytes] at h
  | cons w ws ih =>
    cases us with
    | nil => simp [wordBytes] at h
    | cons u us =>
      simp only [List.flatMap_cons, wordBytes, List.cons_append, List.nil_append,
        List.cons.injEq] at h
      obtain ⟨hhigh, hlow, hrest⟩ := h
      rw [← wordOf_bytes w, hhigh, hlow, wordOf_bytes, ih hrest]

namespace CommandLine

open Console

/-! ## Columns of a printed row -/

/-- The place of the address in a printed row. -/
def addressColumn (row : Text) : Text :=
  (row.drop 2).take 3

/-- The place of the word. -/
def wordColumn (row : Text) : Text :=
  (row.drop 7).take 4

/-- The place of the text, up to the end of the row. -/
def textColumn (row : Text) : Text :=
  row.drop 13

/-- A printed row shows a word at an address. -/
structure ShowsWord (row : Text) (address : Nat) (w : UInt16) : Prop where
  address : IsColumn (addressColumn row) 3 address
  word : IsColumn (wordColumn row) 4 w.toNat
  unbroken : '\n' ∉ row

theorem columns_romLine {a : Nat} (ha : a < 4096) (w : UInt16) (text : Text) :
    let row := romLine ⟨a, w, text⟩
    ShowsWord row a w ∧ textColumn row = Disassembly.renderInt w.toNat := by
  intro row
  have haddress : IsColumn (upperHex 3 a) 3 a := isColumn_upperHex (by decide) ha
  have hword : IsColumn (upperHex 4 w.toNat) 4 w.toNat := isColumn_upperHex (by decide) w.toNat_lt
  have hrow : row = "  ".toList ++ (upperHex 3 a ++ (": ".toList ++
      (upperHex 4 w.toNat ++ ("  ".toList ++ Disassembly.renderInt w.toNat)))) := by
    simp [row, romLine, Disassembly.line]
  obtain ⟨hfirst, hrest⟩ := haddress.row (upperHex 4 w.toNat ++ ("  ".toList ++
    Disassembly.renderInt w.toNat))
  rw [← hrow] at hfirst hrest
  have hfirst : addressColumn row = upperHex 3 a := hfirst
  have hsecond : wordColumn row = upperHex 4 w.toNat := by
    rw [wordColumn, hrest]
    exact List.take_left' hword.length
  have hthird : textColumn row = Disassembly.renderInt w.toNat := by
    rw [textColumn, ← List.drop_drop (i := 6) (j := 7), hrest,
      ← List.drop_drop (i := 2) (j := 4), List.drop_left' hword.length]
    rfl
  refine ⟨⟨hfirst ▸ haddress, hsecond ▸ hword, ?_⟩, hthird⟩
  have hdigits (width : Nat) (n : Int) : '\n' ∉ upperHex width n :=
    not_mem_upperHex (by decide) width n
  have htext : '\n' ∉ Disassembly.renderInt w.toNat := (Disassembly.plainLine_render w).line
  rw [hrow]
  simp [hdigits, htext]

/-- The rows of a loaded program have words that are the program, with a zero behind it if it has an odd
number of bytes. -/
theorem words_romRows {bytes : List UInt8} (hfits : bytes.length ≤ Memory.programRoom) (speed : Int)
    (random : RandomBytes) :
    ((romRows (loadedWith bytes speed random)).map Row.word).flatMap wordBytes =
      bytes ++ List.replicate (bytes.length % 2) 0 := by
  have hroom : Memory.programRoom = 3584 := rfl
  have hcount : 2 * ((bytes.length + 1) / 2) = bytes.length + bytes.length % 2 := by omega
  rw [loadedWith_eq hfits, romRows, Disassembly.flatMap_ofMemory, hcount]
  exact Memory.slice_loaded (by omega)

theorem romRows_eq {bytes : List UInt8} (hfits : bytes.length ≤ Memory.programRoom) (speed : Int)
    (random : RandomBytes) :
    romRows (loadedWith bytes speed random) =
      (List.range ((bytes.length + 1) / 2)).map fun k : Nat =>
        Disassembly.rowAt (loadedWith bytes speed random).machine.memory (0x200 + 2 * k) := by
  have hrom : (loadedWith bytes speed random).rom = bytes := by rw [loadedWith_eq hfits]
  rw [romRows, hrom, Disassembly.ofMemory_eq]
  rfl

/-- Each of these rows is printed in columns. -/
theorem columns_of_romRows {bytes : List UInt8} (hfits : bytes.length ≤ Memory.programRoom)
    (speed : Int) (random : RandomBytes) {k : Nat} {r : Row}
    (h : (romRows (loadedWith bytes speed random))[k]? = some r) :
    ShowsWord (romLine r) (0x200 + 2 * k) r.word ∧
      textColumn (romLine r) = Disassembly.renderInt r.word.toNat := by
  have hroom : Memory.programRoom = 3584 := rfl
  rw [romRows_eq hfits, List.getElem?_map, Option.map_eq_some_iff] at h
  obtain ⟨j, hj, rfl⟩ := h
  obtain ⟨hk, rfl⟩ := List.getElem?_eq_some_iff.mp hj
  rw [List.length_range] at hk
  rw [List.getElem_range]
  -- the last address is in front of the end of memory, so none is reduced
  have haddress : (0x200 + 2 * (k : Int)) % 4096 = (0x200 + 2 * k : Nat) := by omega
  rw [Disassembly.rowAt, haddress]
  exact columns_romLine (by omega) _ _

/-! ## A program that is shown -/

/-- The phrases that ask for the instructions of a program. -/
def disasmPhrases (name : Text) : List Phrase :=
  [.program name, .flag .disasm]

/-- What they ask for. -/
def disasmOptions (scale : Int) (name : Text) : Options :=
  { Options.plain scale with rom := some name, disasm := true }

theorem ofArguments_disasm {scaleVariable : Option Text} {scale : Int} {name : Text}
    {phrases : List Phrase} (hscale : Options.defaultScale scaleVariable = .ok scale)
    (hname : role name = .ok .plain) (h : phrases.Perm (disasmPhrases name)) :
    Options.ofArguments scaleVariable (phrases.flatMap Phrase.texts) =
      .ok (disasmOptions scale name) := by
  have hclear : ∀ phrase ∈ disasmPhrases name, phrase.IsClear := by
    simp [disasmPhrases, Phrase.IsClear, hname]
  have hcomm : ∀ a ∈ disasmPhrases name, ∀ b ∈ disasmPhrases name, ∀ o : Options,
      (o.heed a).heed b = (o.heed b).heed a := by
    simp [disasmPhrases, Options.heed, Options.raise]
  rw [ofArguments_perm hscale hclear (Nat.le_refl 1) hcomm h]
  rfl

theorem begin_disasm {d : Directory} {name : Text} {bytes : List UInt8} {scale : Int}
    (hread : d.read name = .ok bytes) (hfits : bytes.length ≤ Memory.programRoom)
    (random : RandomBytes) :
    begin d random (disasmOptions scale name) =
      .ended (succeeded d (unlines (loadLine name bytes ::
        (romRows (loadedWith bytes defaultCyclesPerFrame random)).map romLine))) := by
  have hname : (disasmOptions scale name).romName? = some name := romName?_of_read hread rfl
  have hload : (Console.standard random (disasmOptions scale name).speed).loadRom bytes =
      .ok (loadedWith bytes defaultCyclesPerFrame random) := loadRom_standard hfits
  rw [begin_of_read hread rfl rfl rfl, hload]
  dsimp only
  unfold beginLoaded
  rw [hname]
  show Begun.ended (succeeded d (_ ++ _)) = _
  rw [← unlines_append]
  rfl

/-- A program that fits is shown in a row for every two bytes, and nothing of it is lost. The rows count
up from the place where programs start. Their words are the bytes of the file, with a zero behind them if
their number is odd. If the machine has an instruction for each of these words, the texts of the rows are
assembled to these bytes again, one text a line. -/
theorem run_disasm {d : Directory} {name : Text} {bytes : List UInt8} {scaleVariable : Option Text}
    {scale : Int} {phrases : List Phrase} (hread : d.read name = .ok bytes)
    (hfits : bytes.length ≤ 3584) (hname : role name = .ok .plain)
    (hscale : Options.defaultScale scaleVariable = .ok scale)
    (hphrases : phrases.Perm (disasmPhrases name)) (random : RandomBytes) (input : Text) :
    let shown := bytes ++ List.replicate (bytes.length % 2) 0
    ∃ (rows : List Text) (words : List UInt16),
      run d random scaleVariable (phrases.flatMap Phrase.texts) input =
          succeeded d (unlines (loadLine name bytes :: rows)) ∧
        (rows.length = (bytes.length + 1) / 2 ∧ words.length = rows.length) ∧
        (∀ (k : Nat) (row : Text) (w : UInt16), rows[k]? = some row → words[k]? = some w →
          ShowsWord row (0x200 + 2 * k) w) ∧
        words.flatMap wordBytes = shown ∧
        ((∀ w ∈ words, Instruction.Known w) → ∀ base, ∃ a,
          assemble (joinWith ['\n'] (rows.map textColumn)) base = .ok a ∧ a.image = shown) := by
  intro shown
  let rows := romRows (loadedWith bytes defaultCyclesPerFrame random)
  have hcolumns (k : Nat) (r : Row) (h : rows[k]? = some r) :=
    columns_of_romRows hfits defaultCyclesPerFrame random h
  have hbytes : (rows.map Row.word).flatMap wordBytes = shown :=
    words_romRows hfits defaultCyclesPerFrame random
  refine ⟨rows.map romLine, rows.map Row.word, ?_, ⟨?_, by simp⟩, ?_, hbytes, ?_⟩
  · unfold run
    rw [ofArguments_disasm hscale hname hphrases]
    dsimp only
    rw [begin_disasm hread hfits]
  · simp [rows, romRows_eq hfits]
  · intro k row w hrow hw
    rw [List.getElem?_map, Option.map_eq_some_iff] at hrow hw
    obtain ⟨r, hr, rfl⟩ := hrow
    obtain ⟨s, hs, rfl⟩ := hw
    cases hr.symm.trans hs
    exact (hcolumns k r hr).1
  · intro hknown base
    have htexts : (rows.map romLine).map textColumn =
        (rows.map Row.word).map fun w : UInt16 => Disassembly.renderInt w.toNat := by
      rw [List.map_map, List.map_map]
      refine List.map_congr_left fun r hr => ?_
      obtain ⟨k, hk⟩ := List.mem_iff_getElem?.mp hr
      exact (hcolumns k r hk).2
    obtain ⟨a, ha, himage⟩ := Disassembly.assemble_known hknown base
    exact ⟨a, htexts ▸ ha, himage.trans hbytes⟩

/-- A program of five bytes. -/
def fiveBytes : List UInt8 :=
  [0x00, 0xE0, 0x60, 0x05, 0x12]

/-- The last byte is shown with a zero behind it. -/
theorem run_disasm_odd :
    let d : Directory := ⟨[(["g".toList], fiveBytes)], []⟩
    let outcome := run d (.seeded 1) none (["--disasm", "g"].map String.toList) []
    outcome.output = unlines ("[chip8] loaded 5 bytes from 'g'".toList ::
        ["  200: 00E0  CLS", "  202: 6005  LD V0, 0x05", "  204: 1200  JP 0x200"].map
          String.toList) ∧
      ∃ rows : List Text, outcome = succeeded d (unlines (loadLine "g".toList fiveBytes :: rows)) ∧
        ∃ a, assemble (joinWith ['\n'] (rows.map textColumn)) 0 = .ok a ∧
          a.image = [0x00, 0xE0, 0x60, 0x05, 0x12, 0x00] := by
  intro d outcome
  have hread : d.read "g".toList = .ok fiveBytes := by decide +kernel
  have hscale : Options.defaultScale none = .ok Window.defaultScale := rfl
  obtain ⟨rows, words, hrun, -, -, hbytes, hassemble⟩ := run_disasm hread (by decide) rfl hscale
    (List.Perm.swap (Phrase.program "g".toList) (Phrase.flag .disasm) []) (.seeded 1) []
  have hwords : words = [0x00E0, 0x6005, 0x1200] :=
    flatMap_wordBytes_injective (hbytes.trans (by decide))
  have hknown : ∀ w ∈ words, Instruction.Known w := by
    intro w hw
    refine Instruction.known_iff.mpr (Option.isSome_iff_exists.mp ?_)
    have hall : [(0x00E0 : UInt16), 0x6005, 0x1200].all
        (fun w => (Instruction.decode? w).isSome) = true := by decide
    exact List.all_eq_true.mp hall w (hwords ▸ hw)
  exact ⟨by decide +kernel, rows, hrun, hassemble hknown 0⟩

end CommandLine

end ChipEight
