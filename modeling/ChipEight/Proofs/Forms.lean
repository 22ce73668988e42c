/-
# ChipEight.Proofs.Forms -- what the operands of an instruction choose

An instruction line has many forms: the spelling of its operands chooses one, and the operands then
fill in registers, an address, a byte or a height. `Denotes` lists the forms, and for each the
instruction that a machine executes for it, with the operands in the fields of the word where that
machine looks for them. It says nothing about how a line is taken apart or a word put together.

Operands in the place of a register are compared with how registers are spelled, and operands in
other places have the value of a label or a number (`HasValue`). The words of two machine-code calls
have a meaning of their own, which is the one exception.

`denotes_of_family` says that an accepted line has a form, and that its word is read in this form:
the two directions are written separately, and no field spills into another.
-/
import ChipEight.Proofs.Decoding
import ChipEight.Proofs.Passes
import ChipEight.Proofs.Spelling

namespace ChipEight.Assembly

open Text Instruction

/-! ## Operands -/

/-- The value of the text is that of the label with this name, or if there is none, that of the
number. -/
def HasValue (labels : Labels) (t : Text) (v : Int) : Prop :=
  labels.lookup t = some v ∨ labels.lookup t = none ∧ number t = .ok v

section Places

variable (labels : Labels) (operands : List Text) (k : Nat)

/-- The operand in this place is spelled in these letters, in either case. -/
def SpelledAt (letters : Text) : Prop :=
  ∃ t, operands[k]? = some t ∧ lower t = letters

/-- The operand in this place names the register. -/
def RegisterAt (x : Nibble) : Prop :=
  ∃ t, operands[k]? = some t ∧ NamesRegister t x

/-- The operand in this place names no register. -/
def NoRegisterAt : Prop :=
  ∃ t, operands[k]? = some t ∧ ∀ x, ¬ NamesRegister t x

/-- The operand in this place has the value of the address. -/
def AddressAt (a : Address) : Prop :=
  ∃ t v, operands[k]? = some t ∧ HasValue labels t v ∧ (0 ≤ v ∧ v ≤ 0xFFF) ∧ (a.val : Int) = v

/-- The operand in this place has a value that fits into a byte, with or without a sign, and this is
the byte. -/
def ByteAt (kk : UInt8) : Prop :=
  ∃ t v, operands[k]? = some t ∧ HasValue labels t v ∧ (-128 ≤ v ∧ v ≤ 255) ∧
    (kk.toNat : Int) = v % 256

/-- The operand in this place has the value of the height. -/
def HeightAt (n : Nibble) : Prop :=
  ∃ t v, operands[k]? = some t ∧ HasValue labels t v ∧ (0 ≤ v ∧ v ≤ 15) ∧ (n.val : Int) = v

end Places

/-! ## Forms -/

/-- The operands choose a form of the mnemonic, the instruction is the one of that form, and the
fields hold what the operands name. -/
inductive Denotes (labels : Labels) (operands : List Text) (f : Fields) :
    Mnemonic → Instruction → Prop
  | cls : Denotes labels operands f .cls .clear
  | ret : Denotes labels operands f .ret .ret
  | sys : AddressAt labels operands 0 f.nnn → f.nnn.val ≠ 0x0E0 → f.nnn.val ≠ 0x0EE →
      Denotes labels operands f .sys (.sys f.nnn)
  | sysClear : AddressAt labels operands 0 f.nnn → f.nnn.val = 0x0E0 →
      Denotes labels operands f .sys .clear
  | sysReturn : AddressAt labels operands 0 f.nnn → f.nnn.val = 0x0EE →
      Denotes labels operands f .sys .ret
  | jp : operands.length ≠ 2 → AddressAt labels operands 0 f.nnn →
      Denotes labels operands f .jp (.jump f.nnn)
  | jpIndexed : operands.length = 2 → SpelledAt operands 0 "v0".toList →
      AddressAt labels operands 1 f.nnn → Denotes labels operands f .jp (.jumpFrom f.nnn)
  | call : AddressAt labels operands 0 f.nnn → Denotes labels operands f .call (.call f.nnn)
  | seRegister : RegisterAt operands 0 f.x → RegisterAt operands 1 f.y →
      Denotes labels operands f .se (.skipEq f.x f.y)
  | seByte : RegisterAt operands 0 f.x → NoRegisterAt operands 1 →
      ByteAt labels operands 1 f.kk → Denotes labels operands f .se (.skipEqByte f.x f.kk)
  | sneRegister : RegisterAt operands 0 f.x → RegisterAt operands 1 f.y →
      Denotes labels operands f .sne (.skipNe f.x f.y)
  | sneByte : RegisterAt operands 0 f.x → NoRegisterAt operands 1 →
      ByteAt labels operands 1 f.kk → Denotes labels operands f .sne (.skipNeByte f.x f.kk)
  | ldIndex : SpelledAt operands 0 "i".toList → AddressAt labels operands 1 f.nnn →
      Denotes labels operands f .ld (.loadIndex f.nnn)
  | ldIntoDelay : SpelledAt operands 0 "dt".toList → RegisterAt operands 1 f.x →
      Denotes labels operands f .ld (.setDelay f.x)
  | ldIntoSound : SpelledAt operands 0 "st".toList → RegisterAt operands 1 f.x →
      Denotes labels operands f .ld (.setSound f.x)
  | ldGlyph : SpelledAt operands 0 "f".toList → RegisterAt operands 1 f.x →
      Denotes labels operands f .ld (.glyph f.x)
  | ldDigits : SpelledAt operands 0 "b".toList → RegisterAt operands 1 f.x →
      Denotes labels operands f .ld (.digits f.x)
  | ldStore : SpelledAt operands 0 "[i]".toList → RegisterAt operands 1 f.x →
      Denotes labels operands f .ld (.store f.x)
  | ldFromDelay : RegisterAt operands 0 f.x → SpelledAt operands 1 "dt".toList →
      Denotes labels operands f .ld (.readDelay f.x)
  | ldKey : RegisterAt operands 0 f.x → SpelledAt operands 1 "k".toList →
      Denotes labels operands f .ld (.awaitKey f.x)
  | ldFetch : RegisterAt operands 0 f.x → SpelledAt operands 1 "[i]".toList →
      Denotes labels operands f .ld (.fetch f.x)
  | ldRegister : RegisterAt operands 0 f.x → RegisterAt operands 1 f.y →
      Denotes labels operands f .ld (.alu .move f.x f.y)
  | ldByte : RegisterAt operands 0 f.x → NoRegisterAt operands 1 →
      (∀ place ∈ ["dt".toList, "k".toList, "[i]".toList], ¬ SpelledAt operands 1 place) →
      ByteAt labels operands 1 f.kk → Denotes labels operands f .ld (.loadByte f.x f.kk)
  | addIndex : SpelledAt operands 0 "i".toList → RegisterAt operands 1 f.x →
      Denotes labels operands f .add (.addIndex f.x)
  | addRegister : RegisterAt operands 0 f.x → RegisterAt operands 1 f.y →
      Denotes labels operands f .add (.alu .add f.x f.y)
  | addByte : RegisterAt operands 0 f.x → NoRegisterAt operands 1 →
      ByteAt labels operands 1 f.kk → Denotes labels operands f .add (.addByte f.x f.kk)
  | alu {op : AluOp} : RegisterAt operands 0 f.x → RegisterAt operands 1 f.y →
      Denotes labels operands f (.alu op) (.alu op f.x f.y)
  | aluAlone {op : AluOp} : RegisterAt operands 0 f.x → operands.length = 1 → f.y = 0 →
      Denotes labels operands f (.alu op) (.alu op f.x f.y)
  | rnd : RegisterAt operands 0 f.x → ByteAt labels operands 1 f.kk →
      Denotes labels operands f .rnd (.random f.x f.kk)
  | drw : RegisterAt operands 0 f.x → RegisterAt operands 1 f.y →
      HeightAt labels operands 2 f.n → Denotes labels operands f .drw (.draw f.x f.y f.n)
  | skp : RegisterAt operands 0 f.x → Denotes labels operands f .skp (.skipHeld f.x)
  | sknp : RegisterAt operands 0 f.x → Denotes labels operands f .sknp (.skipFree f.x)

/-! ## Reading operands -/

section Reading

variable {labels : Labels} {operands : List Text} {t : Text} {k : Nat}

theorem resolve_eq_ok_iff {v : Int} : resolve labels t = .ok v ↔ HasValue labels t v := by
  unfold resolve HasValue
  cases labels.lookup t with
  | some w => simp
  | none => cases number t <;> simp

theorem resolve_of_lookup {v : Int} (h : labels.lookup t = some v) : resolve labels t = .ok v := by
  simp only [resolve, h]

theorem AddressAt.of_address (hk : operands[k]? = some t) {a : Address}
    (h : address labels t = .ok a) : AddressAt labels operands k a := by
  obtain ⟨v, hv, h⟩ := bind_eq_ok_iff.mp h
  split at h <;> cases h
  rename_i hrange
  exact ⟨t, v, hk, resolve_eq_ok_iff.mp hv, by omega, by simp; omega⟩

theorem ByteAt.of_byte (hk : operands[k]? = some t) {kk : UInt8}
    (h : byte labels t = .ok kk) : ByteAt labels operands k kk := by
  obtain ⟨v, hv, h⟩ := bind_eq_ok_iff.mp h
  split at h <;> cases h
  rename_i hrange
  exact ⟨t, v, hk, resolve_eq_ok_iff.mp hv, hrange, byteOfInt_eq_iff.mp rfl⟩

theorem HeightAt.of_height (hk : operands[k]? = some t) {n : Nibble}
    (h : height labels t = .ok n) : HeightAt labels operands k n := by
  obtain ⟨v, hv, h⟩ := bind_eq_ok_iff.mp h
  split at h <;> cases h
  rename_i hn
  have hvalue := Nibble.ofInt?_eq_some_iff.mp hn
  exact ⟨t, v, hk, resolve_eq_ok_iff.mp hv, by omega, hvalue.symm⟩

theorem not_spelledAt (hk : operands[k]? = some t) {letters : Text} (h : lower t ≠ letters) :
    ¬ SpelledAt operands k letters := by
  rintro ⟨u, hu, hlower⟩
  obtain rfl := Option.some.inj (hk.symm.trans hu)
  exact h hlower

end Reading

/-! ## Choosing a form -/

section Choosing

variable {labels : Labels} {operands : List Text} (ht : ∀ t ∈ operands, Trimmed t)
include ht

theorem RegisterAt.of_register {k : Nat} {t : Text} (hk : operands[k]? = some t) {x : Nibble}
    (h : register t = .ok x) : RegisterAt operands k x :=
  ⟨t, hk, (register_eq_ok_iff (ht t (List.mem_of_getElem? hk))).mp h⟩

theorem RegisterAt.of_register? {k : Nat} {t : Text} (hk : operands[k]? = some t) {x : Nibble}
    (h : register? t = some x) : RegisterAt operands k x :=
  ⟨t, hk, (register?_eq_some_iff (ht t (List.mem_of_getElem? hk))).mp h⟩

theorem NoRegisterAt.of_register? {k : Nat} {t : Text} (hk : operands[k]? = some t)
    (h : register? t = none) : NoRegisterAt operands k :=
  ⟨t, hk, (register?_eq_none_iff (ht t (List.mem_of_getElem? hk))).mp h⟩

/-- A comparison is one with a register if the second operand names one, and with a byte
otherwise. -/
theorem form_of_comparison {withRegister : Nibble → Nibble → Instruction}
    {withByte : Nibble → UInt8 → Instruction} {i : Instruction}
    (h : comparison labels operands withRegister withByte = .ok i) :
    ∃ x, RegisterAt operands 0 x ∧
      ((∃ y, RegisterAt operands 1 y ∧ i = withRegister x y) ∨
        ∃ kk, NoRegisterAt operands 1 ∧ ByteAt labels operands 1 kk ∧ i = withByte x kk) := by
  simp only [comparison, bind_eq_ok_iff, operand_eq_ok_iff] at h
  obtain ⟨first, h0, x, hx, second, h1, h⟩ := h
  refine ⟨x, .of_register ht h0 hx, ?_⟩
  split at h
  · rename_i y hy
    cases h
    exact .inl ⟨y, .of_register? ht h1 hy, rfl⟩
  · rename_i hnone
    obtain ⟨kk, hkk, h⟩ := bind_eq_ok_iff.mp h
    cases h
    exact .inr ⟨kk, .of_register? ht h1 hnone, .of_byte h1 hkk, rfl⟩

variable {f : Fields} {i : Instruction} (hr : Reads f i.asRead)
include hr

theorem denotes_of_addition (h : addition labels operands = .ok i) :
    Denotes labels operands f .add i.asRead := by
  simp only [addition, bind_eq_ok_iff, operand_eq_ok_iff] at h
  obtain ⟨target, h0, h⟩ := h
  split at h
  · rename_i hindex
    simp only [bind_eq_ok_iff, operand_eq_ok_iff] at h
    obtain ⟨source, h1, x, hx, h⟩ := h
    cases h
    cases hr
    exact .addIndex ⟨target, h0, hindex⟩ (.of_register ht h1 hx)
  · simp only [bind_eq_ok_iff, operand_eq_ok_iff] at h
    obtain ⟨x, hx, second, h1, h⟩ := h
    split at h
    · rename_i y hy
      cases h
      cases hr
      exact .addRegister (.of_register ht h0 hx) (.of_register? ht h1 hy)
    · rename_i hnone
      obtain ⟨kk, hkk, h⟩ := bind_eq_ok_iff.mp h
      cases h
      cases hr
      exact .addByte (.of_register ht h0 hx) (.of_register? ht h1 hnone) (.of_byte h1 hkk)

/-- A load into one of the special places. -/
theorem denotes_of_loadInto {make : Nibble → Instruction} {target source : Text}
    (h0 : operands[0]? = some target) (h1 : operands[1]? = some source)
    (hmake : loadInto? (lower target) = some make) {x : Nibble} (hx : register source = .ok x)
    (hi : i = make x) : Denotes labels operands f .ld i.asRead := by
  have hsource : RegisterAt operands 1 x := .of_register ht h1 hx
  unfold loadInto? at hmake
  split at hmake
  · cases hmake
    subst hi
    cases hr
    exact .ldIntoDelay ⟨target, h0, ‹_›⟩ hsource
  split at hmake
  · cases hmake
    subst hi
    cases hr
    exact .ldIntoSound ⟨target, h0, ‹_›⟩ hsource
  split at hmake
  · cases hmake
    subst hi
    cases hr
    exact .ldGlyph ⟨target, h0, ‹_›⟩ hsource
  split at hmake
  · cases hmake
    subst hi
    cases hr
    exact .ldDigits ⟨target, h0, ‹_›⟩ hsource
  split at hmake
  · cases hmake
    subst hi
    cases hr
    exact .ldStore ⟨target, h0, ‹_›⟩ hsource
  · cases hmake

/-- A load from one of the special places. -/
theorem denotes_of_loadFrom {make : Nibble → Instruction} {target source : Text}
    (h0 : operands[0]? = some target) (h1 : operands[1]? = some source)
    (hmake : loadFrom? (lower source) = some make) {x : Nibble} (hx : register target = .ok x)
    (hi : i = make x) : Denotes labels operands f .ld i.asRead := by
  have htarget : RegisterAt operands 0 x := .of_register ht h0 hx
  unfold loadFrom? at hmake
  split at hmake
  · cases hmake
    subst hi
    cases hr
    exact .ldFromDelay htarget ⟨source, h1, ‹_›⟩
  split at hmake
  · cases hmake
    subst hi
    cases hr
    exact .ldKey htarget ⟨source, h1, ‹_›⟩
  split at hmake
  · cases hmake
    subst hi
    cases hr
    exact .ldFetch htarget ⟨source, h1, ‹_›⟩
  · cases hmake

theorem denotes_of_load (h : load labels operands = .ok i) :
    Denotes labels operands f .ld i.asRead := by
  simp only [load, bind_eq_ok_iff, operand_eq_ok_iff] at h
  obtain ⟨target, h0, source, h1, h⟩ := h
  split at h
  · rename_i hindex
    obtain ⟨a, ha, h⟩ := bind_eq_ok_iff.mp h
    cases h
    cases hr
    exact .ldIndex ⟨target, h0, hindex⟩ (.of_address h1 ha)
  · split at h
    · rename_i make hmake
      obtain ⟨x, hx, h⟩ := bind_eq_ok_iff.mp h
      cases h
      exact denotes_of_loadInto ht hr h0 h1 hmake hx rfl
    · obtain ⟨x, hx, h⟩ := bind_eq_ok_iff.mp h
      split at h
      · rename_i make hmake
        cases h
        exact denotes_of_loadFrom ht hr h0 h1 hmake hx rfl
      · rename_i hplain
        split at h
        · rename_i y hy
          cases h
          cases hr
          exact .ldRegister (.of_register ht h0 hx) (.of_register? ht h1 hy)
        · rename_i hnone
          obtain ⟨kk, hkk, h⟩ := bind_eq_ok_iff.mp h
          cases h
          cases hr
          refine .ldByte (.of_register ht h0 hx) (.of_register? ht h1 hnone) ?_ (.of_byte h1 hkk)
          intro place hplace
          refine not_spelledAt h1 fun hlower => ?_
          rw [hlower] at hplain
          simp only [List.mem_cons, List.not_mem_nil, or_false] at hplace
          rcases hplace with rfl | rfl | rfl <;> cases hplain

theorem denotes_of_operation {op : AluOp} (h : operation op operands = .ok i) :
    Denotes labels operands f (.alu op) i.asRead := by
  simp only [operation, bind_eq_ok_iff, operand_eq_ok_iff] at h
  obtain ⟨first, h0, x, hx, h⟩ := h
  split at h
  · rename_i second h1
    obtain ⟨y, hy, h⟩ := bind_eq_ok_iff.mp h
    cases h
    cases hr
    exact .alu (.of_register ht h0 hx) (.of_register ht h1 hy)
  · rename_i hnone
    cases h
    have hlength : operands.length = 1 := by
      have hlow := (List.getElem?_eq_some_iff.mp h0).1
      have hhigh := List.getElem?_eq_none_iff.mp hnone
      omega
    generalize hzero : Nibble.ofNat 0 = y at hr ⊢
    cases hr
    exact .aluAlone (.of_register ht h0 hx) hlength hzero.symm

omit ht in
theorem denotes_of_jump (h : jump labels operands = .ok i) :
    Denotes labels operands f .jp i.asRead := by
  unfold jump at h
  split at h
  · rename_i base target
    split at h
    · rename_i hbase
      obtain ⟨a, ha, h⟩ := bind_eq_ok_iff.mp h
      cases h
      cases hr
      exact .jpIndexed rfl ⟨base, rfl, hbase⟩ (.of_address rfl ha)
    · cases h
  · rename_i hother
    simp only [bind_eq_ok_iff, operand_eq_ok_iff] at h
    obtain ⟨target, h0, a, ha, h⟩ := h
    cases h
    cases hr
    refine .jp ?_ (.of_address h0 ha)
    intro hlength
    obtain ⟨base, target, rfl⟩ := List.length_eq_two.mp hlength
    exact hother base target rfl

/-- The operands choose the form in which the word is read. -/
theorem denotes_of_family {m : Mnemonic} (h : m.instruction labels operands = .ok i) :
    Denotes labels operands f m i.asRead := by
  cases m with
  | cls =>
    cases h
    exact .cls
  | ret =>
    cases h
    exact .ret
  | sys =>
    simp only [Mnemonic.instruction, bind_eq_ok_iff, operand_eq_ok_iff] at h
    obtain ⟨target, h0, a, ha, h⟩ := h
    cases h
    have haddress : AddressAt labels operands 0 a := .of_address h0 ha
    unfold asRead at hr ⊢
    dsimp only at hr ⊢
    by_cases hclear : a.val = 0x0E0
    · rw [if_pos hclear] at hr ⊢
      cases hr with
      | clear _ hn =>
        obtain rfl : a = f.nnn := Fin.ext (hclear.trans hn.symm)
        exact .sysClear haddress hn
    · rw [if_neg hclear] at hr ⊢
      by_cases hret : a.val = 0x0EE
      · rw [if_pos hret] at hr ⊢
        cases hr with
        | ret _ hn =>
          obtain rfl : a = f.nnn := Fin.ext (hret.trans hn.symm)
          exact .sysReturn haddress hn
      · rw [if_neg hret] at hr ⊢
        cases hr
        exact .sys haddress hclear hret
  | jp => exact denotes_of_jump hr h
  | call =>
    simp only [Mnemonic.instruction, bind_eq_ok_iff, operand_eq_ok_iff] at h
    obtain ⟨target, h0, a, ha, h⟩ := h
    cases h
    cases hr
    exact .call (.of_address h0 ha)
  | se =>
    obtain ⟨x, hx, ⟨y, hy, rfl⟩ | ⟨kk, hno, hkk, rfl⟩⟩ := form_of_comparison ht h
    · cases hr
      exact .seRegister hx hy
    · cases hr
      exact .seByte hx hno hkk
  | sne =>
    obtain ⟨x, hx, ⟨y, hy, rfl⟩ | ⟨kk, hno, hkk, rfl⟩⟩ := form_of_comparison ht h
    · cases hr
      exact .sneRegister hx hy
    · cases hr
      exact .sneByte hx hno hkk
  | ld => exact denotes_of_load ht hr h
  | add => exact denotes_of_addition ht hr h
  | alu op => exact denotes_of_operation ht hr h
  | rnd =>
    simp only [Mnemonic.instruction, bind_eq_ok_iff, operand_eq_ok_iff] at h
    obtain ⟨first, h0, x, hx, second, h1, kk, hkk, h⟩ := h
    cases h
    cases hr
    exact .rnd (.of_register ht h0 hx) (.of_byte h1 hkk)
  | drw =>
    simp only [Mnemonic.instruction, bind_eq_ok_iff, operand_eq_ok_iff] at h
    obtain ⟨third, h2, n, hn, first, h0, x, hx, second, h1, y, hy, h⟩ := h
    cases h
    cases hr
    exact .drw (.of_register ht h0 hx) (.of_register ht h1 hy) (.of_height h2 hn)
  | skp =>
    simp only [Mnemonic.instruction, bind_eq_ok_iff, operand_eq_ok_iff] at h
    obtain ⟨first, h0, x, hx, h⟩ := h
    cases h
    cases hr
    exact .skp (.of_register ht h0 hx)
  | sknp =>
    simp only [Mnemonic.instruction, bind_eq_ok_iff, operand_eq_ok_iff] at h
    obtain ⟨first, h0, x, hx, h⟩ := h
    cases h
    cases hr
    exact .sknp (.of_register ht h0 hx)

end Choosing

end ChipEight.Assembly
