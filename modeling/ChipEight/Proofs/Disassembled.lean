/-
# ChipEight.Proofs.Disassembled -- disassembled words are assembled to themselves

The disassembler has tables of its own and never asks the machine. `renderInt_toNat` compares the two:
every word is written as the instruction that the machine finds for it, and as data if it finds none.

`program` is the text of a list of words, one line a word. Each line is plain (`plainLine_render`),
so the words are placed one behind the other and no label is defined, whatever they are. What
becomes of a word then depends on the word alone: an instruction gives its two bytes back
(`emit_known`), and a word that the machine has no instruction for is refused (`emit_unknown`).

The two passes are put together in `assemble_program`: the instruction set of the machine, the names
of the disassembler and the mnemonics of the assembler are the same.
-/
import ChipEight.Assembly.Image
import ChipEight.Disassembly
import ChipEight.Fault
import ChipEight.Proofs.Rendered

namespace ChipEight

open Text Numeral Assembly

/-! ## Words with an instruction -/

namespace Instruction

/-- The machine finds an instruction for the word, wherever it stands. -/
def Known (w : UInt16) : Prop :=
  ∀ address, ∃ i, find w address = .ok i

theorem known_iff {w : UInt16} : Known w ↔ ∃ i, decode? w = some i := by
  constructor
  · intro h
    obtain ⟨i, hi⟩ := h 0
    unfold find at hi
    split at hi
    · exact ⟨_, ‹_›⟩
    · cases hi
  · rintro ⟨i, hi⟩ address
    refine ⟨i, ?_⟩
    rw [find, hi]

theorem not_known_iff {w : UInt16} : ¬ Known w ↔ decode? w = none := by
  rw [known_iff, ← Option.isSome_iff_exists, Option.not_isSome_iff_eq_none]

/-- Either all words are known, or there is a first one that is not. -/
theorem known_or_first (ws : List UInt16) :
    (∀ w ∈ ws, Known w) ∨
      ∃ before w after, ws = before ++ w :: after ∧ (∀ u ∈ before, Known u) ∧ ¬ Known w := by
  cases hfind : ws.find? fun w => (decode? w).isNone with
  | none =>
    left
    intro w hw
    have h := List.find?_eq_none.mp hfind w hw
    rw [Option.isNone_iff_eq_none] at h
    exact known_iff.mpr (Option.ne_none_iff_exists'.mp h)
  | some w =>
    right
    obtain ⟨hw, before, after, hws, hbefore⟩ := List.find?_eq_some_iff_append.mp hfind
    refine ⟨before, w, after, hws, ?_, not_known_iff.mpr (Option.isNone_iff_eq_none.mp hw)⟩
    intro u hu
    have h := hbefore u hu
    rw [Bool.not_eq_true', Option.isNone_eq_false_iff] at h
    exact known_iff.mpr (Option.isSome_iff_exists.mp h)

end Instruction

/-! ## Two readers of words -/

namespace Disassembly

open Instruction

/-- The table of names lists the operations that the machine has. -/
theorem lookup_operationNames (n : Nat) :
    operationNames.lookup n = (AluOp.ofCode? n).map AluOp.mnemonic := by
  unfold AluOp.ofCode?
  split
  case h_10 =>
    apply List.lookup_eq_none_iff.mpr
    simp_all [operationNames]
  all_goals rfl

/-- The table of texts lists the instructions that the machine has in group 15. -/
theorem lookup_miscTexts (x : Nibble) (n : Nat) :
    (miscTexts.lookup n).map (· (registerName x)) = (ofMiscCode? x n).map render := by
  unfold ofMiscCode?
  split
  case h_10 =>
    have hnone : miscTexts.lookup n = none := by
      apply List.lookup_eq_none_iff.mpr
      simp_all [miscTexts]
    rw [hnone]
    rfl
  all_goals rfl

/-- Parts that make up an instruction are written like it. Two instructions are told by the whole
word before its parts are looked at. -/
theorem renderFields_of_reads {f : Fields} {i : Instruction} (h : Reads f i) (hclear : i ≠ .clear)
    (hret : i ≠ .ret) : renderFields f = i.render := by
  unfold renderFields
  cases h with
  | clear => exact absurd rfl hclear
  | ret => exact absurd rfl hret
  | alu hg hn =>
    simp only [hg, hn, lookup_operationNames, AluOp.ofCode?_code]
    rfl
  | skipEq hg hn | skipNe hg hn | skipHeld hg hn | skipFree hg hn | readDelay hg hn | awaitKey hg hn
  | setDelay hg hn | setSound hg hn | addIndex hg hn | glyph hg hn | digits hg hn | store hg hn
  | fetch hg hn =>
    simp only [hg, hn]
    rfl
  | _ hg =>
    simp only [hg]
    rfl

/-- Parts that make up no instruction are written as data. -/
theorem renderFields_of_unread {f : Fields} (h : ∀ i, ¬ Reads f i) :
    renderFields f = data f.word := by
  have hsystem : f.group.val ≠ 0 := by
    intro hg
    by_cases hn : f.nnn.val = 0x0E0
    · exact h _ (.clear hg hn)
    by_cases hn' : f.nnn.val = 0x0EE
    · exact h _ (.ret hg hn')
    exact h _ (.sys hg hn hn')
  unfold renderFields
  dsimp only
  -- a form that fits would make up an instruction
  rw [if_neg hsystem, if_neg (fun hg => h _ (.jump hg)), if_neg (fun hg => h _ (.call hg)),
    if_neg (fun hg => h _ (.skipEqByte hg)), if_neg (fun hg => h _ (.skipNeByte hg)),
    if_neg (fun hn => h _ (.skipEq hn.1 hn.2)), if_neg (fun hg => h _ (.loadByte hg)),
    if_neg (fun hg => h _ (.addByte hg))]
  by_cases hoperation : f.group.val = 8
  · have hnone : AluOp.ofCode? f.n.val = none := by
      apply Option.eq_none_iff_forall_ne_some.mpr
      intro op hop
      exact h _ (.alu hoperation (AluOp.code_of_ofCode? hop).symm)
    rw [if_pos hoperation, lookup_operationNames, hnone]
    rfl
  rw [if_neg hoperation, if_neg (fun hn => h _ (.skipNe hn.1 hn.2)),
    if_neg (fun hg => h _ (.loadIndex hg)), if_neg (fun hg => h _ (.jumpFrom hg)),
    if_neg (fun hg => h _ (.random hg)), if_neg (fun hg => h _ (.draw hg)),
    if_neg (fun hn => h _ (.skipHeld hn.1 hn.2)), if_neg (fun hn => h _ (.skipFree hn.1 hn.2))]
  by_cases hmisc : f.group.val = 15
  · have hnone : ofMiscCode? f.x f.kk.toNat = none := by
      apply Option.eq_none_iff_forall_ne_some.mpr
      intro i hi
      exact h _ (reads_of_ofMiscCode? hmisc hi)
    have htexts := lookup_miscTexts f.x f.kk.toNat
    rw [hnone, Option.map_none, Option.map_eq_none_iff] at htexts
    rw [if_pos hmisc, htexts]
  rw [if_neg hmisc]

/-- A word is one of the first 4096 if it has group zero and its address. -/
theorem toNat_eq_iff (w : UInt16) {a : Nat} (ha : a < 4096) :
    (w.toNat : Int) = a ↔ (Fields.ofWord w).group.val = 0 ∧ (Fields.ofWord w).nnn.val = a := by
  show _ ↔ w.toNat / 4096 = 0 ∧ w.toNat % 4096 = a
  omega

/-- Two readers of words agree: a word is written as the instruction that the machine finds for it, and
as data if the machine finds none. -/
theorem renderInt_toNat (w : UInt16) : renderInt w.toNat = Instruction.renderWord w := by
  have hclear : (w.toNat : Int) = 0x00E0 ↔ _ ∧ _ := toNat_eq_iff w (a := 0x0E0) (by decide)
  have hret : (w.toNat : Int) = 0x00EE ↔ _ ∧ _ := toNat_eq_iff w (a := 0x0EE) (by decide)
  unfold renderInt renderWord
  rw [wordOfInt_toNat]
  cases hread : decode? w with
  | none =>
    have hunread := decode?_eq_none_iff.mp hread
    rw [if_neg fun hn => hunread _ (.clear (hclear.mp hn).1 (hclear.mp hn).2),
      if_neg fun hn => hunread _ (.ret (hret.mp hn).1 (hret.mp hn).2),
      renderFields_of_unread hunread]
    rfl
  | some i =>
    have hreads := reads_of_decode? hread
    split
    · rename_i hn
      rw [hreads.unique (.clear (hclear.mp hn).1 (hclear.mp hn).2)]
      rfl
    rename_i hother
    split
    · rename_i hn
      rw [hreads.unique (.ret (hret.mp hn).1 (hret.mp hn).2)]
      rfl
    rename_i hother'
    apply renderFields_of_reads hreads
    · rintro rfl
      cases hreads with
      | clear hg hn => exact hother (hclear.mpr ⟨hg, hn⟩)
    · rintro rfl
      cases hreads with
      | ret hg hn => exact hother' (hret.mpr ⟨hg, hn⟩)

end Disassembly

/-! ## Lines -/

namespace Disassembly

/-- The words as program text, one line a word. -/
def program (ws : List UInt16) : Text :=
  joinWith ['\n'] (ws.map fun w : UInt16 => renderInt w.toNat)

theorem renderInt_of_decode? {w : UInt16} {i : Instruction} (h : Instruction.decode? w = some i) :
    renderInt w.toNat = i.render := by
  rw [renderInt_toNat, Instruction.renderWord, h]

theorem renderInt_of_none {w : UInt16} (h : Instruction.decode? w = none) :
    renderInt w.toNat = statement "DW".toList [hex 6 w.toNat] := by
  rw [renderInt_toNat, Instruction.renderWord, h]
  simp [statement, joinWith]

/-- Every word is rendered as a plain line. -/
theorem plainLine_render (w : UInt16) : PlainLine (renderInt w.toNat) := by
  cases h : Instruction.decode? w with
  | some i =>
    rw [renderInt_of_decode? h, Instruction.render_eq]
    exact plainLine_statement (Mnemonic.token_capitals _) (Mnemonic.startsPlain_capitals _)
      i.token_operands
  | none =>
    rw [renderInt_of_none h]
    exact plainLine_statement (by decide) (by decide) (by simp [token_hex])

/-- The statements of the words, the first one with a line number and at an address. -/
def placed (number : Nat) (address : Int) (ws : List UInt16) : List Placed :=
  inSequence number address (ws.map fun w : UInt16 => renderInt w.toNat)

theorem placed_cons (number : Nat) (address : Int) (w : UInt16) (ws : List UInt16) :
    placed number address (w :: ws) =
      ⟨number, renderInt w.toNat, .instruction, address, 2⟩ ::
        placed (number + 1) (address + 2) ws :=
  rfl

theorem layout_program (ws : List UInt16) (base : Int) :
    layout (program ws) base = .ok ⟨[], placed 1 base ws⟩ := by
  apply layout_joinWith
  intro t ht
  obtain ⟨w, -, rfl⟩ := List.mem_map.mp ht
  exact plainLine_render w

/-! ## Bytes -/

/-- A known word is made into its own bytes. -/
theorem emit_known {w : UInt16} (h : Instruction.Known w) (number : Nat) (address : Int) :
    Placed.emit [] ⟨number, renderInt w.toNat, .instruction, address, 2⟩ =
      .ok (.bytes (wordBytes w)) := by
  obtain ⟨i, hi⟩ := Instruction.known_iff.mp h
  have hrender := instruction_render i
  rw [← renderInt_of_decode? hi] at hrender
  simp only [Placed.emit, hrender, Except.mapError, bind, Except.bind,
    Instruction.encode_of_decode? hi]

/-- A word that is not known is refused for its name. -/
theorem emit_unknown {w : UInt16} (h : ¬ Instruction.Known w) (number : Nat) (address : Int) :
    Placed.emit [] ⟨number, renderInt w.toNat, .instruction, address, 2⟩ =
      .error (.line ⟨number, .statement (.unknownMnemonic "DW".toList) (renderInt w.toNat)⟩) := by
  have hdata := instruction_data [] w
  rw [← renderInt_of_none (Instruction.not_known_iff.mp h)] at hdata
  simp only [Placed.emit, hdata, Except.mapError, bind, Except.bind, Placed.failure]

/-- Known words are made into their own bytes, one after another. -/
theorem emitAll_known {ws : List UInt16} (h : ∀ w ∈ ws, Instruction.Known w) (number : Nat)
    (address : Int) : ∃ pieces, emitAll [] (placed number address ws) = .ok pieces ∧
      pieces.flatMap Piece.bytes = ws.flatMap wordBytes := by
  induction ws generalizing number address with
  | nil => exact ⟨[], rfl, rfl⟩
  | cons w ws ih =>
    have hw := emit_known (h w List.mem_cons_self) number address
    obtain ⟨pieces, hpieces, hbytes⟩ :=
      ih (fun u hu => h u (List.mem_cons_of_mem w hu)) (number + 1) (address + 2)
    refine ⟨⟨⟨number, renderInt w.toNat, .instruction, address, 2⟩, .bytes (wordBytes w)⟩ :: pieces,
      ?_, ?_⟩
    · rw [placed_cons, emitAll, hw]
      simp only [bind, Except.bind, hpieces]
    · rw [List.flatMap_cons, List.flatMap_cons, hbytes]
      rfl

/-- Of words that are not known the first one is reported, with the line it stands in. -/
theorem emitAll_unknown {before : List UInt16} (hbefore : ∀ u ∈ before, Instruction.Known u)
    {w : UInt16} (hw : ¬ Instruction.Known w) (after : List UInt16) (number : Nat)
    (address : Int) : emitAll [] (placed number address (before ++ w :: after)) =
      .error (.line ⟨number + before.length,
        .statement (.unknownMnemonic "DW".toList) (renderInt w.toNat)⟩) := by
  induction before generalizing number address with
  | nil =>
    have hemit := emit_unknown hw number address
    rw [List.nil_append, placed_cons, emitAll, hemit]
    rfl
  | cons u us ih =>
    have hu := emit_known (hbefore u List.mem_cons_self) number address
    have hrest := ih (fun v hv => hbefore v (List.mem_cons_of_mem u hv)) (number + 1) (address + 2)
    -- the first word is made into bytes, so the error is that of the others, one line on
    rw [List.cons_append, placed_cons, emitAll, hu]
    simp only [bind, Except.bind, hrest]
    rw [List.length_cons, Nat.add_right_comm, Nat.add_assoc]

/-! ## Both passes -/

theorem assemble_known {ws : List UInt16} (h : ∀ w ∈ ws, Instruction.Known w) (base : Int) :
    ∃ a, assemble (program ws) base = .ok a ∧ a.image = ws.flatMap wordBytes := by
  obtain ⟨pieces, hpieces, hbytes⟩ := emitAll_known h 1 base
  refine ⟨⟨[], pieces⟩, ?_, hbytes⟩
  rw [assemble, layout_program]
  simp only [Except.mapError, bind, Except.bind, hpieces]

theorem assemble_unknown {before : List UInt16} (hbefore : ∀ u ∈ before, Instruction.Known u)
    {w : UInt16} (hw : ¬ Instruction.Known w) (after : List UInt16) (base : Int) :
    assemble (program (before ++ w :: after)) base =
      .error (.line ⟨before.length + 1,
        .statement (.unknownMnemonic "DW".toList) (renderInt w.toNat)⟩) := by
  have hemit := emitAll_unknown hbefore hw after 1 base
  rw [assemble, layout_program]
  simp only [Except.mapError, bind, Except.bind, hemit]
  rw [Nat.add_comm]

/-- The text of a list of words is assembled if and only if the machine has an instruction for each
of them, and then to the bytes of the words. Otherwise the line of the first word without an
instruction is reported. -/
theorem assemble_program (ws : List UInt16) (base : Int) :
    ((∃ a, assemble (program ws) base = .ok a) ↔ ∀ w ∈ ws, Instruction.Known w) ∧
    (∀ a, assemble (program ws) base = .ok a → a.image = ws.flatMap wordBytes) ∧
    (∀ before w after, ws = before ++ w :: after → (∀ u ∈ before, Instruction.Known u) →
      ¬ Instruction.Known w → assemble (program ws) base =
        .error (.line ⟨before.length + 1,
          .statement (.unknownMnemonic "DW".toList) (renderInt w.toNat)⟩)) := by
  rcases Instruction.known_or_first ws with hall | ⟨before, w, after, rfl, hbefore, hw⟩
  · obtain ⟨a, ha, himage⟩ := assemble_known hall base
    refine ⟨⟨fun _ => hall, fun _ => ⟨a, ha⟩⟩, ?_, ?_⟩
    · intro b hb
      rw [ha] at hb
      cases hb
      exact himage
    · rintro before w after rfl - hw
      exact absurd (hall w (by simp)) hw
  · have herror := assemble_unknown hbefore hw after base
    refine ⟨⟨?_, ?_⟩, ?_, ?_⟩
    · rintro ⟨a, ha⟩
      rw [herror] at ha
      cases ha
    · intro hall
      exact absurd (hall w (by simp)) hw
    · intro a ha
      rw [herror] at ha
      cases ha
    · intro before' w' after' hws hbefore' hw'
      rw [hws]
      exact assemble_unknown hbefore' hw' after' base

/-- The second word has no instruction, and so the second line is reported. -/
theorem assemble_program_second_line :
    assemble (program [0x00E0, 0x5001, 0x6A02]) 0x200 =
      .error (.line ⟨2, .statement (.unknownMnemonic "DW".toList) "DW 0x5001".toList⟩) := by
  have hclear : ∀ u ∈ [(0x00E0 : UInt16)], Instruction.Known u := by
    intro u hu
    rw [List.mem_singleton] at hu
    subst hu
    exact Instruction.known_iff.mpr ⟨.clear, by decide⟩
  have hdata : ¬ Instruction.Known 0x5001 := Instruction.not_known_iff.mpr (by decide)
  have h := (assemble_program [0x00E0, 0x5001, 0x6A02] 0x200).2.2 [0x00E0] 0x5001 [0x6A02] rfl
    hclear hdata
  have htext : renderInt (UInt16.toNat 0x5001) = "DW 0x5001".toList := by decide +kernel
  rw [htext] at h
  exact h

end Disassembly

end ChipEight
