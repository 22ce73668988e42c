/-
# ChipEight.Proofs.Rendered -- the text of an instruction is read as that instruction

Every instruction is rendered as a statement: the name of its mnemonic and up to three operands
(`render_eq`). Each reader of operands gets back what the renderer of that operand was given, so
the assembler finds in the text the instruction itself (`instruction_render`).

A word that is no instruction is rendered as data under the name `DW`, which is no mnemonic.
-/
import ChipEight.Assembly.Encoding
import ChipEight.Instruction.Rendered
import ChipEight.Proofs.Choice
import ChipEight.Proofs.Digits
import ChipEight.Proofs.Statement

namespace ChipEight

open Text Numeral Assembly

/-! ## What an instruction is rendered as -/

/-- The family of an operation on two registers. -/
def AluOp.family : AluOp → Mnemonic
  | .move => .ld
  | .add => .add
  | op => .alu op

/-- The name of a family in capitals. -/
def Assembly.Mnemonic.capitals : Mnemonic → Text
  | .cls => "CLS".toList
  | .ret => "RET".toList
  | .sys => "SYS".toList
  | .jp => "JP".toList
  | .call => "CALL".toList
  | .se => "SE".toList
  | .sne => "SNE".toList
  | .ld => "LD".toList
  | .add => "ADD".toList
  | .alu op => op.mnemonic
  | .rnd => "RND".toList
  | .drw => "DRW".toList
  | .skp => "SKP".toList
  | .sknp => "SKNP".toList

namespace Instruction

/-- The family of an instruction. -/
def family : Instruction → Mnemonic
  | .clear => .cls
  | .ret => .ret
  | .sys _ => .sys
  | .jump _ | .jumpFrom _ => .jp
  | .call _ => .call
  | .skipEqByte _ _ | .skipEq _ _ => .se
  | .skipNeByte _ _ | .skipNe _ _ => .sne
  | .alu op _ _ => op.family
  | .addByte _ _ | .addIndex _ => .add
  | .random _ _ => .rnd
  | .draw _ _ _ => .drw
  | .skipHeld _ => .skp
  | .skipFree _ => .sknp
  | _ => .ld

/-- The operands that an instruction is rendered with. -/
def operands : Instruction → List Text
  | .clear | .ret => []
  | .sys a | .jump a | .call a => [renderAddress a]
  | .skipEqByte x kk | .skipNeByte x kk | .loadByte x kk | .addByte x kk | .random x kk =>
    [registerName x, renderByte kk]
  | .skipEq x y | .skipNe x y | .alu _ x y => [registerName x, registerName y]
  | .loadIndex a => ["I".toList, renderAddress a]
  | .jumpFrom a => ["V0".toList, renderAddress a]
  | .draw x y n => [registerName x, registerName y, decimal n.val]
  | .skipHeld x | .skipFree x => [registerName x]
  | .readDelay x => [registerName x, "DT".toList]
  | .awaitKey x => [registerName x, "K".toList]
  | .setDelay x => ["DT".toList, registerName x]
  | .setSound x => ["ST".toList, registerName x]
  | .addIndex x => ["I".toList, registerName x]
  | .glyph x => ["F".toList, registerName x]
  | .digits x => ["B".toList, registerName x]
  | .store x => ["[I]".toList, registerName x]
  | .fetch x => [registerName x, "[I]".toList]

/-- An instruction is rendered as a statement. -/
theorem render_eq (i : Instruction) : i.render = statement i.family.capitals i.operands := by
  unfold render family operands
  -- the renderer attaches blanks and commas to its constants, a statement puts them in between
  cases i with
  | alu op x y =>
    cases op <;> simp [statement, AluOp.family, Mnemonic.capitals, AluOp.mnemonic, joinWith]
  | _ => simp [statement, Mnemonic.capitals, joinWith]

end Instruction

/-! ## Names -/

namespace Assembly.Mnemonic

theorem token_capitals (m : Mnemonic) : Token m.capitals := by
  cases m with
  | alu op => cases op <;> decide
  | _ => decide

/-- No name starts like a directive. -/
theorem startsPlain_capitals (m : Mnemonic) : startsPlain m.capitals = true := by
  cases m with
  | alu op => cases op <;> decide
  | _ => decide

/-- A family is found under its name, but for the two operations that go by the name of another
family. -/
theorem lookup_capitals {m : Mnemonic} (hmove : m ≠ .alu .move) (hadd : m ≠ .alu .add) :
    mnemonicNames.lookup (lower m.capitals) = some m := by
  cases m with
  | alu op =>
    cases op with
    | move => exact absurd rfl hmove
    | add => exact absurd rfl hadd
    | _ => decide
  | _ => decide

end Assembly.Mnemonic

theorem Instruction.lookup_family (i : Instruction) :
    mnemonicNames.lookup (lower i.family.capitals) = some i.family := by
  apply Mnemonic.lookup_capitals
  all_goals
    cases i with
    | alu op x y => cases op <;> simp [family, AluOp.family]
    | _ => simp [family]

/-! ## Operands -/

section Operands

variable (x : Nibble) (a : Address) (kk : UInt8)

theorem token_registerName : Token (registerName x) := by
  have all : ∀ x : Nibble, Token (registerName x) := by decide
  exact all x

theorem token_decimal : Token (decimal x.val) := by
  have all : ∀ x : Nibble, Token (decimal x.val) := by decide
  exact all x

theorem token_hex (width n : Nat) : Token (hex width n) := by
  have digits : ∀ d < 16, isBoundary (Nat.digitChar d) = false := by decide
  rw [hex_natCast]
  refine ⟨by simp, ?_⟩
  intro c hc
  rw [List.mem_cons, List.mem_cons] at hc
  rcases hc with rfl | rfl | hc
  · decide
  · decide
  · obtain ⟨d, hd, rfl⟩ := exists_of_mem_hexDigits hc
    exact digits d hd

/-- Every operand is a token. -/
theorem Instruction.token_operands (i : Instruction) : ∀ t ∈ i.operands, Token t := by
  have hplaces : ∀ t ∈ ["I".toList, "V0".toList, "DT".toList, "K".toList, "ST".toList,
      "F".toList, "B".toList, "[I]".toList], Token t := by decide
  have hregister := token_registerName
  have hheight := token_decimal
  have haddress : ∀ a, Token (renderAddress a) := fun a => token_hex 5 a.val
  have hbyte : ∀ kk, Token (renderByte kk) := fun kk => token_hex 4 kk.toNat
  unfold operands
  cases i <;> simp_all

/-- Without labels a number in hexadecimal has its value. -/
theorem resolve_hex (width n : Nat) : resolve [] (hex width n) = .ok (n : Int) := by
  have h : number (hex width n) = .ok (n : Int) := by
    rw [number, (token_hex width n).trim_eq, read_hex]
  simp only [resolve, List.lookup_nil, h]

theorem address_of_resolve {labels : Labels} {t : Text} {v : Int} (h : resolve labels t = .ok v)
    {a : Address} (ha : v = a.val) : address labels t = .ok a := by
  have hv : 0 ≤ v ∧ v < 4096 := by
    have := a.isLt
    omega
  have hvalue : (⟨v.toNat, by omega⟩ : Address) = a := by
    apply Fin.ext
    show v.toNat = a.val
    rw [ha, Int.toNat_natCast]
  unfold address
  rw [h]
  exact (dif_pos hv).trans (congrArg Except.ok hvalue)

@[simp] theorem address_renderAddress : address [] (Instruction.renderAddress a) = .ok a :=
  address_of_resolve (resolve_hex 5 a.val) rfl

@[simp] theorem byte_renderByte : byte [] (Instruction.renderByte kk) = .ok kk := by
  have hkk := kk.toNat_lt
  have h : (-128 : Int) ≤ (kk.toNat : Int) ∧ (kk.toNat : Int) ≤ 255 := by omega
  have hvalue : byteOfInt (kk.toNat : Int) = kk := byteOfInt_eq_iff.mpr (by omega)
  unfold byte Instruction.renderByte
  rw [resolve_hex]
  simp only [bind, Except.bind]
  rw [if_pos h, hvalue]

@[simp] theorem height_decimal : height [] (decimal x.val) = .ok x := by
  have h : resolve [] (decimal x.val) = .ok (x.val : Int) := by
    -- outcomes cannot be compared by computation, but their values can
    have all : ∀ x : Nibble, (resolve [] (decimal x.val)).toOption = some (x.val : Int) := by decide
    have hx := all x
    cases hr : resolve [] (decimal x.val) with
    | error e => simp [hr, Except.toOption] at hx
    | ok v => simpa [hr, Except.toOption] using hx
  unfold height
  rw [h]
  simp only [bind, Except.bind]
  rw [Nibble.ofInt?_eq_some_iff.mpr rfl]

@[simp] theorem register?_registerName : register? (registerName x) = some x := by
  have all : ∀ x : Nibble, register? (registerName x) = some x := by decide
  exact all x

@[simp] theorem register_registerName : register (registerName x) = .ok x := by
  rw [register, register?_registerName]

theorem namesRegister_registerName : NamesRegister (registerName x) x :=
  (register?_eq_some_iff (token_registerName x).trimmed).mp (register?_registerName x)

/-- A byte in hexadecimal starts with a zero, which no register and no special place does. -/
theorem lower_renderByte : ∃ rest, lower (Instruction.renderByte kk) = '0' :: rest := by
  unfold Instruction.renderByte
  rw [hex_natCast]
  exact ⟨_, lowerAfter_cons (by decide) [] _⟩

@[simp] theorem register?_renderByte : register? (Instruction.renderByte kk) = none := by
  obtain ⟨rest, h⟩ := lower_renderByte kk
  have htoken : Token (Instruction.renderByte kk) := token_hex 4 kk.toNat
  rw [register?, htoken.trim_eq, h]
  rfl

@[simp] theorem loadFrom?_renderByte : loadFrom? (lower (Instruction.renderByte kk)) = none := by
  obtain ⟨rest, h⟩ := lower_renderByte kk
  rw [h]
  simp [loadFrom?]

end Operands

/-! ## Instructions -/

/-- The operands that an instruction is rendered with choose it among its family. -/
theorem Instruction.choose_operands (i : Instruction) :
    i.family.instruction [] i.operands = .ok i := by
  have ht : ∀ t ∈ i.operands, Trimmed t := fun t h => (i.token_operands t h).trimmed
  have hplaces := fun x => (namesRegister_registerName x).no_place
  have hreg := register_registerName
  have haddress := address_renderAddress
  -- first the forms that an operand other than a register or a byte chooses
  cases i with
  | jump a =>
    have hone : [renderAddress a].length ≠ 2 := by simp
    exact jump_of_address hone (.of_address rfl (haddress a))
  | jumpFrom a =>
    have hbase : SpelledAt ["V0".toList, renderAddress a] 0 "v0".toList := ⟨_, rfl, by decide⟩
    exact jump_of_base rfl hbase (.of_address rfl (haddress a))
  | loadIndex a => exact load_of_index ⟨_, rfl, by decide⟩ (.of_address rfl (haddress a))
  | readDelay x => exact load_of_from ht (.of_register ht rfl (hreg x)) ⟨_, rfl, rfl⟩ rfl
  | awaitKey x => exact load_of_from ht (.of_register ht rfl (hreg x)) ⟨_, rfl, rfl⟩ rfl
  | fetch x => exact load_of_from ht (.of_register ht rfl (hreg x)) ⟨_, rfl, rfl⟩ rfl
  | setDelay x =>
    exact load_of_into ht ⟨_, rfl, rfl⟩ (by decide) rfl (.of_register ht rfl (hreg x))
  | setSound x =>
    exact load_of_into ht ⟨_, rfl, rfl⟩ (by decide) rfl (.of_register ht rfl (hreg x))
  | glyph x =>
    exact load_of_into ht ⟨_, rfl, rfl⟩ (by decide) rfl (.of_register ht rfl (hreg x))
  | digits x =>
    exact load_of_into ht ⟨_, rfl, rfl⟩ (by decide) rfl (.of_register ht rfl (hreg x))
  | store x =>
    exact load_of_into ht ⟨_, rfl, rfl⟩ (by decide) rfl (.of_register ht rfl (hreg x))
  | addIndex x => exact addition_of_index ht ⟨_, rfl, rfl⟩ (.of_register ht rfl (hreg x))
  | alu op x y =>
    cases op <;>
      simp [family, operands, AluOp.family, Mnemonic.instruction, operation, operand, load,
        addition, hplaces, bind, Except.bind]
  | _ =>
    simp [family, operands, Mnemonic.instruction, comparison, load, addition, operand, hplaces,
      bind, Except.bind]

/-- The text of an instruction is read as that instruction. -/
theorem instruction_render (i : Instruction) : instruction [] i.render = .ok i := by
  have hmnemonic := splitMnemonic?_statement (Mnemonic.token_capitals i.family) i.token_operands
  unfold instruction
  rw [Instruction.render_eq, hmnemonic]
  simp only [i.lookup_family, splitOperands_joinWith i.token_operands]
  exact i.choose_operands

/-- The text of a word that is no instruction names no mnemonic. -/
theorem instruction_data (labels : Labels) (w : UInt16) :
    instruction labels (statement "DW".toList [hex 6 w.toNat]) =
      .error (.unknownMnemonic "DW".toList) := by
  have hname : Token "DW".toList := by decide
  have hword : ∀ t ∈ [hex 6 w.toNat], Token t := by simp [token_hex]
  have hlookup : mnemonicNames.lookup (lower "DW".toList) = none := by decide
  unfold instruction
  rw [splitMnemonic?_statement hname hword]
  simp only [hlookup]

end ChipEight
