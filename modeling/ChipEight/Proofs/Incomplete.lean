/-
# ChipEight.Proofs.Incomplete -- lines with too few operands

The assembler never counts operands. A line with too few of them is refused because one branch or
another looks for an operand that is not there. Instead of following the branches, the proof goes by
the forms of an instruction: a line that is accepted has a form (`denotes_of_family`), and a form has
all its operands (`Denotes.arity_le`).

One form has fewer. The shifts look at one register only, and a shift may be written without the
second one. The branch for this is that of all operations, so an operation that needs two registers
may be written with one as well, and is read as if the second one was register 0
(`instruction_of_incomplete`). Every other line with too few operands is wrong, and is the one that is
blamed unless another one comes first.
-/
import ChipEight.Proofs.Blame
import ChipEight.Proofs.Statement

namespace ChipEight.Assembly

open Text

/-! ## Operands that are needed -/

/-- How many operands an instruction of the family needs. A shift needs no second register. -/
def Mnemonic.arity : Mnemonic → Nat
  | .cls | .ret => 0
  | .sys | .jp | .call | .skp | .sknp | .alu .shr | .alu .shl => 1
  | .se | .sne | .ld | .add | .alu _ | .rnd => 2
  | .drw => 3

/-- The text starts with the name of the family, in either case, and these operands follow. -/
def Names (text : Text) (m : Mnemonic) (operands : List Text) : Prop :=
  ∃ name rest, splitMnemonic? text = some (name, rest) ∧ (lower name, m) ∈ mnemonicNames ∧
    splitOperands rest = operands

section Operands

variable {labels : Labels} {operands : List Text} {k : Nat}

theorem lt_of_operand {P : Text → Prop} (h : ∃ t, operands[k]? = some t ∧ P t) :
    k < operands.length := by
  obtain ⟨t, ht, -⟩ := h
  exact (List.getElem?_eq_some_iff.mp ht).1

theorem Mnemonic.arity_alu_le (op : AluOp) : (Mnemonic.alu op).arity ≤ 2 := by
  cases op <;> decide

/-- A form has the operands that its family needs, or it is an operation with a single one. -/
theorem Denotes.arity_le {f : Fields} {m : Mnemonic} {i : Instruction}
    (h : Denotes labels operands f m i) :
    m.arity ≤ operands.length ∨ ∃ op, m = .alu op ∧ operands.length = 1 := by
  cases h with
  | cls | ret => exact .inl (Nat.zero_le _)
  | sys ha | sysClear ha | sysReturn ha | jp _ ha | call ha =>
    exact .inl (lt_of_operand ha.found)
  | jpIndexed _ hbase => exact .inl (lt_of_operand hbase)
  | seRegister _ hy | sneRegister _ hy | ldRegister _ hy | addRegister _ hy =>
    exact .inl (lt_of_operand hy)
  | seByte _ hno | sneByte _ hno | ldByte _ hno | addByte _ hno => exact .inl (lt_of_operand hno)
  | ldIndex _ ha => exact .inl (lt_of_operand ha.found)
  | ldIntoDelay _ hx | ldIntoSound _ hx | ldGlyph _ hx | ldDigits _ hx | ldStore _ hx
  | addIndex _ hx => exact .inl (lt_of_operand hx)
  | ldFromDelay _ hplace | ldKey _ hplace | ldFetch _ hplace => exact .inl (lt_of_operand hplace)
  | alu _ hy => exact .inl (Nat.le_trans (Mnemonic.arity_alu_le _) (lt_of_operand hy))
  | aluAlone _ hlength => exact .inr ⟨_, rfl, hlength⟩
  | rnd _ hkk => exact .inl (lt_of_operand hkk.found)
  | drw _ _ hn => exact .inl (lt_of_operand hn.found)
  | skp hx | sknp hx => exact .inl (lt_of_operand hx)

end Operands

/-! ## Lines -/

section Lines

variable {text : Text} {m : Mnemonic} {operands : List Text}

theorem eq_of_lowerChar_eq_dot {c : Char} (h : lowerChar c = '.') : c = '.' := by
  have hc : c.toNat < 128 := toNat_lt_of_lowerChar (by simp [h]) (by simp [h]) (by simp [h])
  refine of_toNat_lt (p := fun c => lowerChar c = '.' → c = '.') ?_ hc h
  decide +kernel

/-- No family has a name with a dot in front, so the text is no directive. -/
theorem Names.form (h : Names text m operands) : Form.ofStatement text = .instruction := by
  obtain ⟨name, rest, hsplit, hname, -⟩ := h
  have hnames : ∀ entry ∈ mnemonicNames, entry.1.head? ≠ some '.' := by decide
  apply ofStatement_of_no_dot
  intro letters
  unfold startsWith
  cases hlower : lower text with
  | nil => rfl
  | cons d ds =>
    rw [after?]
    split
    · rename_i hdot
      subst hdot
      -- the dot would be the first character of the mnemonic as well
      obtain ⟨c, cs, rfl, hc, -⟩ := lowerAfter_eq_cons (by decide) (by decide) hlower
      obtain rfl := eq_of_lowerChar_eq_dot hc
      cases hsplit
      exact absurd rfl (hnames _ hname)
    · rfl

theorem Names.ne_nil (h : Names text m operands) : text ≠ [] := by
  rintro rfl
  obtain ⟨_, _, hsplit, -⟩ := h
  cases hsplit

theorem Names.instruction_eq (h : Names text m operands) (labels : Labels) :
    instruction labels text = m.instruction labels operands := by
  obtain ⟨name, rest, hsplit, hname, rfl⟩ := h
  unfold instruction
  rw [hsplit]
  dsimp only
  rw [lookup_mnemonicNames hname]

/-- With too few operands a line means an instruction only if it is an operation and its single
operand is a register. The second register is then register 0. -/
theorem instruction_of_incomplete (h : Names text m operands) (hfew : operands.length < m.arity)
    (labels : Labels) (i : Instruction) :
    instruction labels text = .ok i ↔
      ∃ op t x, m = .alu op ∧ operands = [t] ∧ register t = .ok x ∧ i = .alu op x 0 := by
  rw [h.instruction_eq]
  constructor
  · intro hi
    have ht : ∀ t ∈ operands, Trimmed t := by
      obtain ⟨name, rest, -, -, rfl⟩ := h
      exact fun t => trimmed_of_mem_splitOperands
    rcases (denotes_of_family ht i.reads_encode hi).arity_le with hmany | ⟨op, rfl, hone⟩
    · exact absurd hmany (Nat.not_le.mpr hfew)
    · obtain ⟨t, rfl⟩ := List.length_eq_one_iff.mp hone
      simp only [Mnemonic.instruction, operation, bind_eq_ok_iff, operand_eq_ok_iff] at hi
      obtain ⟨first, hfirst, x, hx, hi⟩ := hi
      cases hfirst
      cases hi
      exact ⟨op, t, x, rfl, rfl, hx, rfl⟩
  · rintro ⟨op, t, x, rfl, rfl, hx, rfl⟩
    simp only [Mnemonic.instruction, operation, bind_eq_ok_iff, operand_eq_ok_iff]
    exact ⟨t, rfl, x, hx, rfl⟩

end Lines

/-! ## Programs -/

section Programs

variable {source : Text} {base : Int} {line : SourceLine}

/-- A text with a line that is not encodable is not assembled. -/
theorem assemble_ne_ok (hline : line ∈ sourceLines source)
    (hbad : ¬ Encodable (labelsOf base (sourceLines source)) line.statement) (a : Assembled) :
    assemble source base ≠ .ok a := by
  intro ha
  have hverdict := verdict_assemble source base
  rw [ha] at hverdict
  cases hverdict with
  | made _ encodable => exact hbad (encodable line hline)

/-- One of its lines is blamed. -/
theorem blamed_of_not_encodable (hline : line ∈ sourceLines source)
    (hbad : ¬ Encodable (labelsOf base (sourceLines source)) line.statement)
    (hroom : RoomForOrigins source base) :
    ∃ e, assemble source base = .error (.line e) ∧ Blamed base (sourceLines source) e := by
  have hverdict := verdict_assemble source base
  cases hrun : assemble source base with
  | ok a => exact absurd hrun (assemble_ne_ok hline hbad a)
  | error failure =>
    rw [hrun] at hverdict
    cases hverdict with
    | line blamed => exact ⟨_, rfl, blamed⟩
    | noRoom full => exact absurd hroom full

/-- If no line is misplaced and the lines before it are encodable, it is the one that is blamed. -/
theorem Blamed.of_not_encodable {e : AssemblyError} (h : Blamed base (sourceLines source) e)
    (hline : line ∈ sourceLines source)
    (hbad : ¬ Encodable (labelsOf base (sourceLines source)) line.statement)
    (hplaceable : Placeable base (sourceLines source))
    (hbefore : ∀ earlier ∈ sourceLines source, earlier.number < line.number →
      Encodable (labelsOf base (sourceLines source)) earlier.statement) :
    ∃ p, e = ⟨line.number, .statement p line.statement⟩ := by
  cases h with
  | placing here _ wrong => exact absurd wrong (hplaceable _ _ _ _ here)
  | @encoding before after blamed p _ here first wrong =>
    have hordered := sourceLines_pairwise source
    rw [here] at hline hordered
    rcases List.mem_append.mp hline with hmem | hmem
    · exact absurd (first line hmem) hbad
    · rcases List.mem_cons.mp hmem with rfl | hlater
      · exact ⟨p, rfl⟩
      · have hless : blamed.number < line.number :=
          List.rel_of_pairwise_cons (List.pairwise_append.mp hordered).2.1 hlater
        have hmember : blamed ∈ sourceLines source := by
          rw [here]
          exact List.mem_append_right _ List.mem_cons_self
        exact absurd (hbefore blamed hmember hless) wrong

/-- A line with fewer operands than an instruction of its mnemonic needs is no instruction, whatever
its operands and the labels are, unless its mnemonic is an operation on two registers and its single
operand is a register; this one is read with register 0 as the second one.

So a program text with any other line like this is not assembled. If there is room for what its
origins ask for, one of its lines is blamed, and it is this line if no line is misplaced and all lines
before it are encodable. -/
theorem missing_operands_blamed (hline : line ∈ sourceLines source) {m : Mnemonic}
    {operands : List Text} (hnames : Names line.statement m operands)
    (hfew : operands.length < m.arity) (base : Int) :
    let lines := sourceLines source
    let lone := ∃ op t x, m = .alu op ∧ operands = [t] ∧ register t = .ok x
    (∀ labels i, instruction labels line.statement = .ok i ↔
      ∃ op t x, m = .alu op ∧ operands = [t] ∧ register t = .ok x ∧ i = .alu op x 0) ∧
    (¬ lone →
      (∀ labels, ∃ p, instruction labels line.statement = .error p) ∧
      (∀ a, assemble source base ≠ .ok a) ∧
      (RoomForOrigins source base → ∃ e, assemble source base = .error (.line e) ∧
        Blamed base lines e ∧
        (Placeable base lines →
          (∀ earlier ∈ lines, earlier.number < line.number →
            Encodable (labelsOf base lines) earlier.statement) →
          ∃ p, e = ⟨line.number, .statement p line.statement⟩))) := by
  intro lines lone
  refine ⟨instruction_of_incomplete hnames hfew, ?_⟩
  intro hlone
  have hrefused (labels : Labels) : ∃ p, instruction labels line.statement = .error p := by
    cases hi : instruction labels line.statement with
    | error p => exact ⟨p, rfl⟩
    | ok i =>
      obtain ⟨op, t, x, hm, ht, hx, -⟩ := (instruction_of_incomplete hnames hfew labels i).mp hi
      exact absurd ⟨op, t, x, hm, ht, hx⟩ hlone
  have hbad : ¬ Encodable (labelsOf base lines) line.statement := by
    obtain ⟨p, hp⟩ := hrefused (labelsOf base lines)
    exact HasProblem.not_encodable (.instruction hnames.form hp) hnames.ne_nil
  refine ⟨hrefused, assemble_ne_ok hline hbad, ?_⟩
  intro hroom
  obtain ⟨e, he, hblamed⟩ := blamed_of_not_encodable hline hbad hroom
  exact ⟨e, he, hblamed, hblamed.of_not_encodable hline hbad⟩

end Programs

/-- A program text whose second line draws a sprite without a height, behind a line with all
operands. -/
def heightless : Text :=
  "start: ld i, start\n  DRW v1, v2 ; how high?".toList

theorem missing_operands_blamed_heightless :
    Names "DRW v1, v2".toList .drw ["v1".toList, "v2".toList] ∧
      (∀ labels, ∃ p, instruction labels "DRW v1, v2".toList = .error p) ∧
      ∃ e, assemble heightless 0x200 = .error (.line e) ∧ e.line = 2 ∧
        Blamed 0x200 (sourceLines heightless) e := by
  have hline : (⟨2, "DRW v1, v2".toList⟩ : SourceLine) ∈ sourceLines heightless := by decide +kernel
  have hnames : Names "DRW v1, v2".toList .drw ["v1".toList, "v2".toList] :=
    ⟨"DRW".toList, "v1, v2".toList, by decide +kernel, by decide +kernel, by decide +kernel⟩
  have hlaw := (missing_operands_blamed hline hnames (by decide) 0x200).2
  have hlone : ¬ ∃ op t x, Mnemonic.drw = .alu op ∧ ["v1".toList, "v2".toList] = [t] ∧
      register t = .ok x := by
    rintro ⟨op, t, x, hm, -⟩
    cases hm
  obtain ⟨hrefused, -, hblame⟩ := hlaw hlone
  have hrun : assemble heightless 0x200 =
      .error (.line ⟨2, .statement .missingOperand "DRW v1, v2".toList⟩) := by
    rfl
  have hsizes : (layout heightless 0x200).toOption.map (fun l => l.statements.map Placed.size) =
      some [2, 2] := by
    rfl
  have hroom : RoomForOrigins heightless 0x200 := by
    apply roomForOrigins_of_lt
    intro l hl s hs
    rw [hl] at hsizes
    have hsize : s.size ∈ [2, 2] := Option.some.inj hsizes ▸ List.mem_map_of_mem hs
    have hsmall : ∀ size ∈ [2, 2], size < memoryLimit := by decide
    exact hsmall _ hsize
  obtain ⟨e, he, hblamed, -⟩ := hblame hroom
  refine ⟨hnames, hrefused, e, he, ?_, hblamed⟩
  rw [hrun] at he
  cases he
  rfl

/-- The text with one register where two are needed is assembled. -/
theorem assemble_lone_register :
    Names "or v1".toList (.alu .or) ["v1".toList] ∧ 1 < (Mnemonic.alu .or).arity ∧
      (⟨1, "or v1".toList⟩ : SourceLine) ∈ sourceLines "or v1".toList ∧
      (assemble "or v1".toList 0x200).toOption.map Assembled.image = some [0x81, 0x01] := by
  refine ⟨⟨"or".toList, "v1".toList, ?_, ?_, ?_⟩, ?_, ?_, ?_⟩ <;> decide +kernel

end ChipEight.Assembly
