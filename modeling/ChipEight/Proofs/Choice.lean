/-
# ChipEight.Proofs.Choice -- every form is accepted, and means one instruction

The forms of `Denotes` are described apart from each other, and the assembler tells them apart by
trying one after another. `Denotes.accepted` says that this misses none of them, so no operands have
two forms with different instructions (`Denotes.unique`).

With that, `denotes_of_instruction` says what the word of an accepted line means: what is read back
from it is the instruction of the only form that the mnemonic and the operands choose.
-/
import ChipEight.Fault
import ChipEight.Proofs.Forms

namespace ChipEight.Assembly

open Text Instruction

/-! ## Operands of a form -/

/-- No register is spelled like a place with a meaning of its own. -/
theorem NamesRegister.no_place {t : Text} {x : Nibble} (h : NamesRegister t x) :
    lower t ≠ ['i'] ∧ loadInto? (lower t) = none ∧ loadFrom? (lower t) = none := by
  obtain ⟨e, hlower, -⟩ := h.lower_eq
  rw [hlower]
  simp [loadInto?, loadFrom?]

section Found

variable {labels : Labels} {operands : List Text} {k : Nat}

theorem AddressAt.found {a : Address} (h : AddressAt labels operands k a) :
    ∃ t, operands[k]? = some t ∧ address labels t = .ok a := by
  obtain ⟨t, v, hk, hv, hrange, ha⟩ := h
  refine ⟨t, hk, bind_eq_ok_iff.mpr ⟨v, resolve_eq_ok_iff.mpr hv, ?_⟩⟩
  rw [dif_pos (by omega)]
  exact congrArg Except.ok (Fin.ext (by simp only; omega))

theorem ByteAt.found {kk : UInt8} (h : ByteAt labels operands k kk) :
    ∃ t, operands[k]? = some t ∧ byte labels t = .ok kk := by
  obtain ⟨t, v, hk, hv, hrange, hkk⟩ := h
  refine ⟨t, hk, bind_eq_ok_iff.mpr ⟨v, resolve_eq_ok_iff.mpr hv, ?_⟩⟩
  rw [if_pos hrange, byteOfInt_eq_iff.mpr hkk]

theorem HeightAt.found {n : Nibble} (h : HeightAt labels operands k n) :
    ∃ t, operands[k]? = some t ∧ height labels t = .ok n := by
  obtain ⟨t, v, hk, hv, -, hn⟩ := h
  refine ⟨t, hk, bind_eq_ok_iff.mpr ⟨v, resolve_eq_ok_iff.mpr hv, ?_⟩⟩
  rw [Nibble.ofInt?_eq_some_iff.mpr hn.symm]

variable (ht : ∀ t ∈ operands, Trimmed t)
include ht

theorem RegisterAt.found {x : Nibble} (h : RegisterAt operands k x) :
    ∃ t, operands[k]? = some t ∧ NamesRegister t x ∧ register? t = some x ∧
      register t = .ok x := by
  obtain ⟨t, hk, hname⟩ := h
  have htrimmed := ht t (List.mem_of_getElem? hk)
  exact ⟨t, hk, hname, (register?_eq_some_iff htrimmed).mpr hname,
    (register_eq_ok_iff htrimmed).mpr hname⟩

theorem NoRegisterAt.found (h : NoRegisterAt operands k) :
    ∃ t, operands[k]? = some t ∧ register? t = none := by
  obtain ⟨t, hk, hno⟩ := h
  exact ⟨t, hk, (register?_eq_none_iff (ht t (List.mem_of_getElem? hk))).mpr hno⟩

theorem NoRegisterAt.found_byte (h : NoRegisterAt operands k) {kk : UInt8}
    (hkk : ByteAt labels operands k kk) :
    ∃ t, operands[k]? = some t ∧ register? t = none ∧ byte labels t = .ok kk := by
  obtain ⟨t, hk, hno⟩ := h.found ht
  obtain ⟨u, hu, hkk⟩ := hkk.found
  obtain rfl := Option.some.inj (hk.symm.trans hu)
  exact ⟨t, hk, hno, hkk⟩

end Found

/-! ## Forms of a family -/

section Families

variable {labels : Labels} {operands : List Text}

section Addresses

variable {a : Address}

theorem sys_of_address (ha : AddressAt labels operands 0 a) :
    Mnemonic.sys.instruction labels operands = .ok (.sys a) := by
  obtain ⟨t, h0, ha⟩ := ha.found
  simp only [Mnemonic.instruction, bind_eq_ok_iff, operand_eq_ok_iff]
  exact ⟨t, h0, a, ha, rfl⟩

theorem jump_of_address (hlength : operands.length ≠ 2) (ha : AddressAt labels operands 0 a) :
    jump labels operands = .ok (.jump a) := by
  obtain ⟨t, h0, ha⟩ := ha.found
  unfold jump
  split
  · exact absurd rfl hlength
  · simp only [bind_eq_ok_iff, operand_eq_ok_iff]
    exact ⟨t, h0, a, ha, rfl⟩

theorem jump_of_base (hlength : operands.length = 2) (hbase : SpelledAt operands 0 "v0".toList)
    (ha : AddressAt labels operands 1 a) : jump labels operands = .ok (.jumpFrom a) := by
  obtain ⟨base, h0, hbase⟩ := hbase
  obtain ⟨target, h1, htarget⟩ := ha.found
  obtain ⟨_, _, rfl⟩ := List.length_eq_two.mp hlength
  cases h0
  cases h1
  simp only [jump, hbase, if_true, bind_eq_ok_iff]
  exact ⟨a, htarget, rfl⟩

theorem load_of_index (hindex : SpelledAt operands 0 ['i']) (ha : AddressAt labels operands 1 a) :
    load labels operands = .ok (.loadIndex a) := by
  obtain ⟨target, h0, hindex⟩ := hindex
  obtain ⟨source, h1, ha⟩ := ha.found
  simp only [load, bind_eq_ok_iff, operand_eq_ok_iff]
  refine ⟨target, h0, source, h1, ?_⟩
  rw [if_pos hindex]
  exact bind_eq_ok_iff.mpr ⟨a, ha, rfl⟩

end Addresses

variable (ht : ∀ t ∈ operands, Trimmed t) {x y : Nibble} {kk : UInt8}
include ht

theorem comparison_of_register {withRegister : Nibble → Nibble → Instruction}
    {withByte : Nibble → UInt8 → Instruction} (hx : RegisterAt operands 0 x)
    (hy : RegisterAt operands 1 y) :
    comparison labels operands withRegister withByte = .ok (withRegister x y) := by
  obtain ⟨first, h0, -, -, hx⟩ := hx.found ht
  obtain ⟨second, h1, -, hy, -⟩ := hy.found ht
  simp only [comparison, bind_eq_ok_iff, operand_eq_ok_iff]
  exact ⟨first, h0, x, hx, second, h1, by rw [hy]⟩

theorem comparison_of_byte {withRegister : Nibble → Nibble → Instruction}
    {withByte : Nibble → UInt8 → Instruction} (hx : RegisterAt operands 0 x)
    (hno : NoRegisterAt operands 1) (hkk : ByteAt labels operands 1 kk) :
    comparison labels operands withRegister withByte = .ok (withByte x kk) := by
  obtain ⟨first, h0, -, -, hx⟩ := hx.found ht
  obtain ⟨second, h1, hno, hkk⟩ := hno.found_byte ht hkk
  simp only [comparison, bind_eq_ok_iff, operand_eq_ok_iff]
  refine ⟨first, h0, x, hx, second, h1, ?_⟩
  rw [hno]
  exact bind_eq_ok_iff.mpr ⟨kk, hkk, rfl⟩

theorem addition_of_index (hindex : SpelledAt operands 0 ['i']) (hx : RegisterAt operands 1 x) :
    addition labels operands = .ok (.addIndex x) := by
  obtain ⟨target, h0, hindex⟩ := hindex
  obtain ⟨source, h1, -, -, hx⟩ := hx.found ht
  simp only [addition, bind_eq_ok_iff, operand_eq_ok_iff]
  refine ⟨target, h0, ?_⟩
  rw [if_pos hindex]
  simp only [bind_eq_ok_iff, operand_eq_ok_iff]
  exact ⟨source, h1, x, hx, rfl⟩

theorem addition_of_register (hx : RegisterAt operands 0 x) (hy : RegisterAt operands 1 y) :
    addition labels operands = .ok (.alu .add x y) := by
  obtain ⟨first, h0, hname, -, hx⟩ := hx.found ht
  obtain ⟨second, h1, -, hy, -⟩ := hy.found ht
  simp only [addition, bind_eq_ok_iff, operand_eq_ok_iff]
  refine ⟨first, h0, ?_⟩
  rw [if_neg hname.no_place.1]
  simp only [bind_eq_ok_iff, operand_eq_ok_iff]
  exact ⟨x, hx, second, h1, by rw [hy]⟩

theorem addition_of_byte (hx : RegisterAt operands 0 x) (hno : NoRegisterAt operands 1)
    (hkk : ByteAt labels operands 1 kk) :
    addition labels operands = .ok (.addByte x kk) := by
  obtain ⟨first, h0, hname, -, hx⟩ := hx.found ht
  obtain ⟨second, h1, hno, hkk⟩ := hno.found_byte ht hkk
  simp only [addition, bind_eq_ok_iff, operand_eq_ok_iff]
  refine ⟨first, h0, ?_⟩
  rw [if_neg hname.no_place.1]
  simp only [bind_eq_ok_iff, operand_eq_ok_iff]
  refine ⟨x, hx, second, h1, ?_⟩
  rw [hno]
  exact bind_eq_ok_iff.mpr ⟨kk, hkk, rfl⟩

/-- A load into a special place is one, whatever it is loaded from. -/
theorem load_of_into {letters : Text} {make : Nibble → Instruction}
    (hplace : SpelledAt operands 0 letters) (hindex : letters ≠ ['i'])
    (hmake : loadInto? letters = some make) (hx : RegisterAt operands 1 x) :
    load labels operands = .ok (make x) := by
  obtain ⟨target, h0, rfl⟩ := hplace
  obtain ⟨source, h1, -, -, hx⟩ := hx.found ht
  simp only [load, bind_eq_ok_iff, operand_eq_ok_iff]
  refine ⟨target, h0, source, h1, ?_⟩
  rw [if_neg hindex, hmake]
  exact bind_eq_ok_iff.mpr ⟨x, hx, rfl⟩

theorem load_of_from {letters : Text} {make : Nibble → Instruction}
    (hx : RegisterAt operands 0 x) (hplace : SpelledAt operands 1 letters)
    (hmake : loadFrom? letters = some make) : load labels operands = .ok (make x) := by
  obtain ⟨target, h0, hname, -, hx⟩ := hx.found ht
  obtain ⟨source, h1, rfl⟩ := hplace
  obtain ⟨hindex, hinto, -⟩ := hname.no_place
  simp only [load, bind_eq_ok_iff, operand_eq_ok_iff]
  refine ⟨target, h0, source, h1, ?_⟩
  rw [if_neg hindex, hinto]
  exact bind_eq_ok_iff.mpr ⟨x, hx, by rw [hmake]⟩

theorem load_of_move (hx : RegisterAt operands 0 x) (hy : RegisterAt operands 1 y) :
    load labels operands = .ok (.alu .move x y) := by
  obtain ⟨target, h0, hname, -, hx⟩ := hx.found ht
  obtain ⟨source, h1, hsource, hy, -⟩ := hy.found ht
  obtain ⟨hindex, hinto, -⟩ := hname.no_place
  obtain ⟨-, -, hplain⟩ := hsource.no_place
  simp only [load, bind_eq_ok_iff, operand_eq_ok_iff]
  refine ⟨target, h0, source, h1, ?_⟩
  rw [if_neg hindex, hinto]
  exact bind_eq_ok_iff.mpr ⟨x, hx, by rw [hplain, hy]⟩

theorem load_of_byte (hx : RegisterAt operands 0 x) (hno : NoRegisterAt operands 1)
    (hplain : ∀ place ∈ ["dt".toList, "k".toList, "[i]".toList], ¬ SpelledAt operands 1 place)
    (hkk : ByteAt labels operands 1 kk) : load labels operands = .ok (.loadByte x kk) := by
  obtain ⟨target, h0, hname, -, hx⟩ := hx.found ht
  obtain ⟨source, h1, hno, hkk⟩ := hno.found_byte ht hkk
  obtain ⟨hindex, hinto, -⟩ := hname.no_place
  have hfrom : loadFrom? (lower source) = none := by
    have apart (place : Text) (h : place ∈ ["dt".toList, "k".toList, "[i]".toList]) :
        lower source ≠ place :=
      fun hlower => hplain place h ⟨source, h1, hlower⟩
    unfold loadFrom?
    rw [if_neg (apart _ (by simp)), if_neg (apart _ (by simp)), if_neg (apart _ (by simp))]
  simp only [load, bind_eq_ok_iff, operand_eq_ok_iff]
  refine ⟨target, h0, source, h1, ?_⟩
  rw [if_neg hindex, hinto]
  refine bind_eq_ok_iff.mpr ⟨x, hx, ?_⟩
  rw [hfrom, hno]
  exact bind_eq_ok_iff.mpr ⟨kk, hkk, rfl⟩

end Families

/-! ## All forms -/

section Accepting

variable {labels : Labels} {operands : List Text} (ht : ∀ t ∈ operands, Trimmed t) {f : Fields}
  {m : Mnemonic} {j : Instruction}
include ht

/-- Operands that choose a form of the mnemonic are accepted, and mean the instruction of that
form. -/
theorem Denotes.accepted (h : Denotes labels operands f m j) :
    ∃ i, m.instruction labels operands = .ok i ∧ i.asRead = j := by
  cases h with
  | cls | ret => exact ⟨_, rfl, rfl⟩
  | sys ha hclear hret =>
    exact ⟨.sys _, sys_of_address ha, by simp only [asRead, hclear, hret, if_false]⟩
  | sysClear ha hclear =>
    exact ⟨.sys _, sys_of_address ha, by simp only [asRead, hclear, if_true]⟩
  | sysReturn ha hret => exact ⟨.sys _, sys_of_address ha, by simp [asRead, hret]⟩
  | jp hlength ha => exact ⟨.jump _, jump_of_address hlength ha, rfl⟩
  | jpIndexed hlength hbase ha => exact ⟨.jumpFrom _, jump_of_base hlength hbase ha, rfl⟩
  | call ha =>
    obtain ⟨t, h0, ha⟩ := ha.found
    refine ⟨.call f.nnn, ?_, rfl⟩
    simp only [Mnemonic.instruction, bind_eq_ok_iff, operand_eq_ok_iff]
    exact ⟨t, h0, _, ha, rfl⟩
  | seRegister hx hy => exact ⟨.skipEq _ _, comparison_of_register ht hx hy, rfl⟩
  | seByte hx hno hkk => exact ⟨.skipEqByte _ _, comparison_of_byte ht hx hno hkk, rfl⟩
  | sneRegister hx hy => exact ⟨.skipNe _ _, comparison_of_register ht hx hy, rfl⟩
  | sneByte hx hno hkk => exact ⟨.skipNeByte _ _, comparison_of_byte ht hx hno hkk, rfl⟩
  | ldIndex hindex ha => exact ⟨.loadIndex _, load_of_index hindex ha, rfl⟩
  | ldIntoDelay hplace hx => exact ⟨.setDelay _, load_of_into ht hplace (by decide) rfl hx, rfl⟩
  | ldIntoSound hplace hx => exact ⟨.setSound _, load_of_into ht hplace (by decide) rfl hx, rfl⟩
  | ldGlyph hplace hx => exact ⟨.glyph _, load_of_into ht hplace (by decide) rfl hx, rfl⟩
  | ldDigits hplace hx => exact ⟨.digits _, load_of_into ht hplace (by decide) rfl hx, rfl⟩
  | ldStore hplace hx => exact ⟨.store _, load_of_into ht hplace (by decide) rfl hx, rfl⟩
  | ldFromDelay hx hplace => exact ⟨.readDelay _, load_of_from ht hx hplace rfl, rfl⟩
  | ldKey hx hplace => exact ⟨.awaitKey _, load_of_from ht hx hplace rfl, rfl⟩
  | ldFetch hx hplace => exact ⟨.fetch _, load_of_from ht hx hplace rfl, rfl⟩
  | ldRegister hx hy => exact ⟨.alu .move _ _, load_of_move ht hx hy, rfl⟩
  | ldByte hx hno hplain hkk => exact ⟨.loadByte _ _, load_of_byte ht hx hno hplain hkk, rfl⟩
  | addIndex hindex hx => exact ⟨.addIndex _, addition_of_index ht hindex hx, rfl⟩
  | addRegister hx hy => exact ⟨.alu .add _ _, addition_of_register ht hx hy, rfl⟩
  | addByte hx hno hkk => exact ⟨.addByte _ _, addition_of_byte ht hx hno hkk, rfl⟩
  | @alu op hx hy =>
    obtain ⟨first, h0, -, -, hx⟩ := hx.found ht
    obtain ⟨second, h1, -, -, hy⟩ := hy.found ht
    refine ⟨.alu op f.x f.y, ?_, rfl⟩
    simp only [Mnemonic.instruction, operation, bind_eq_ok_iff, operand_eq_ok_iff]
    refine ⟨first, h0, _, hx, ?_⟩
    rw [h1]
    exact bind_eq_ok_iff.mpr ⟨_, hy, rfl⟩
  | @aluAlone op hx hlength hy =>
    obtain ⟨first, h0, -, -, hx⟩ := hx.found ht
    have h1 : operands[1]? = none := List.getElem?_eq_none_iff.mpr (Nat.le_of_eq hlength)
    refine ⟨.alu op f.x f.y, ?_, rfl⟩
    simp only [Mnemonic.instruction, operation, bind_eq_ok_iff, operand_eq_ok_iff]
    refine ⟨first, h0, _, hx, ?_⟩
    rw [h1, hy]
    rfl
  | rnd hx hkk =>
    obtain ⟨first, h0, -, -, hx⟩ := hx.found ht
    obtain ⟨second, h1, hkk⟩ := hkk.found
    refine ⟨.random f.x f.kk, ?_, rfl⟩
    simp only [Mnemonic.instruction, bind_eq_ok_iff, operand_eq_ok_iff]
    exact ⟨first, h0, _, hx, second, h1, _, hkk, rfl⟩
  | drw hx hy hn =>
    obtain ⟨first, h0, -, -, hx⟩ := hx.found ht
    obtain ⟨second, h1, -, -, hy⟩ := hy.found ht
    obtain ⟨third, h2, hn⟩ := hn.found
    refine ⟨.draw f.x f.y f.n, ?_, rfl⟩
    simp only [Mnemonic.instruction, bind_eq_ok_iff, operand_eq_ok_iff]
    exact ⟨third, h2, _, hn, first, h0, _, hx, second, h1, _, hy, rfl⟩
  | skp hx =>
    obtain ⟨first, h0, -, -, hx⟩ := hx.found ht
    refine ⟨.skipHeld f.x, ?_, rfl⟩
    simp only [Mnemonic.instruction, bind_eq_ok_iff, operand_eq_ok_iff]
    exact ⟨first, h0, _, hx, rfl⟩
  | sknp hx =>
    obtain ⟨first, h0, -, -, hx⟩ := hx.found ht
    refine ⟨.skipFree f.x, ?_, rfl⟩
    simp only [Mnemonic.instruction, bind_eq_ok_iff, operand_eq_ok_iff]
    exact ⟨first, h0, _, hx, rfl⟩

/-- No operands choose two instructions of one mnemonic. -/
theorem Denotes.unique {g : Fields} {i : Instruction} (h : Denotes labels operands f m i)
    (h' : Denotes labels operands g m j) : i = j := by
  obtain ⟨_, hi, rfl⟩ := h.accepted ht
  obtain ⟨_, hj, rfl⟩ := h'.accepted ht
  rw [Except.ok.inj (hi.symm.trans hj)]

end Accepting

/-! ## Lines -/

/-- If a line means an instruction, its word has sixteen bits, and the machine finds an instruction
for it wherever it stands: the one of the form that mnemonic and operands choose, with what the
operands name in the fields of the word. They choose no other. -/
theorem denotes_of_instruction {labels : Labels} {text : Text} {i : Instruction}
    (h : instruction labels text = .ok i) :
    (i.code < 65536 ∧ i.encode.toNat = i.code) ∧
      ∃ name rest m j, splitMnemonic? text = some (name, rest) ∧ (lower name, m) ∈ mnemonicNames ∧
        (∀ address, Instruction.find i.encode address = .ok j) ∧
        Denotes labels (splitOperands rest) (Fields.ofWord i.encode) m j ∧
        ∀ f other, Denotes labels (splitOperands rest) f m other → other = j := by
  refine ⟨⟨i.code_lt, i.encode_toNat⟩, ?_⟩
  unfold instruction at h
  split at h
  · cases h
  · rename_i name rest hsplit
    split at h
    · cases h
    · rename_i m hlookup
      have hname : (lower name, m) ∈ mnemonicNames := by
        obtain ⟨before, after, hnames, -⟩ := List.lookup_eq_some_iff.mp hlookup
        rw [hnames]
        exact List.mem_append_right _ List.mem_cons_self
      have hfind : ∀ address, Instruction.find i.encode address = .ok i.asRead := by
        intro address
        rw [Instruction.find, i.decode?_encode]
      have ht : ∀ t ∈ splitOperands rest, Trimmed t := fun t => trimmed_of_mem_splitOperands
      have hform := denotes_of_family ht i.reads_encode h
      exact ⟨name, rest, m, i.asRead, hsplit, hname, hfind, hform,
        fun f other hother => hother.unique ht hform⟩

theorem denotes_of_negative_label :
    instruction [("n".toList, -2)] "  Sne Va , n".toList = .ok (.skipNeByte 10 0xFE) ∧
      (∀ address, Instruction.find 0x4AFE address = .ok (.skipNeByte 10 0xFE)) ∧
        Denotes [("n".toList, -2)] ["Va".toList, "n".toList] (Fields.ofWord 0x4AFE) .sne
          (.skipNeByte 10 0xFE) ∧
        ∀ f other, Denotes [("n".toList, -2)] ["Va".toList, "n".toList] f .sne other →
          other = .skipNeByte 10 0xFE := by
  have hline : instruction [("n".toList, -2)] "  Sne Va , n".toList = .ok (.skipNeByte 10 0xFE) := by
    rfl
  have hparts : splitMnemonic? "  Sne Va , n".toList = some ("Sne".toList, "Va , n".toList) := by
    decide
  have hword : encode (.skipNeByte 10 0xFE) = 0x4AFE := by decide
  obtain ⟨-, name, rest, m, j, hsplit, hname, hfind, hform, honly⟩ := denotes_of_instruction hline
  rw [hword] at hfind hform
  obtain ⟨rfl, rfl⟩ := Prod.mk.inj (Option.some.inj (hparts.symm.trans hsplit))
  obtain rfl : Instruction.skipNeByte 10 0xFE = j := Except.ok.inj (hfind 0)
  have hlower : lower "Sne".toList = "sne".toList := by decide
  obtain rfl : m = .sne := by
    rw [hlower] at hname
    simpa [mnemonicNames] using hname
  exact ⟨hline, hfind, hform, honly⟩

end ChipEight.Assembly
