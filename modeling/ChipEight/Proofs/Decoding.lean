/-
# ChipEight.Proofs.Decoding -- which fields make up which instruction

A word is looked up in a table by its group and, in six groups, by a second part of the word. `Reads`
says the same the other way round: one rule for each instruction, with the parts of the word that it
asks for and the parts that it takes. `ofFields?_eq_some_iff` says that the two agree, so a proof about
words that are read is a case analysis on `Reads` and never opens the table.

Words that are written have their parts where they are read from. There are three layouts, an
address, a register with a byte and three nibbles, and `reads_encode` follows from them: a word is
read as the instruction it was written for, but for the two machine-code calls whose words clear the
screen and return. The other way round, an instruction is written as the word that it was read from
(`encode_of_decode?`).
-/
import ChipEight.Instruction.Basic

namespace ChipEight

/-! ## Layouts -/

namespace Fields

variable {w : UInt16} {g : Nat}

/-- The parts of a word with an address behind its group. -/
theorem ofWord_address {a : Address} (h : w.toNat = 4096 * g + a.val) :
    (ofWord w).group.val = g ∧ (ofWord w).nnn = a := by
  refine ⟨?_, Fin.ext ?_⟩
  · show w.toNat / 4096 = g
    omega
  · show w.toNat % 4096 = a.val
    omega

/-- The parts of a word with a register and a byte behind its group. -/
theorem ofWord_byte {x : Nibble} {b : UInt8} (h : w.toNat = 4096 * g + 256 * x.val + b.toNat) :
    (ofWord w).group.val = g ∧ (ofWord w).x = x ∧ (ofWord w).kk = b := by
  have hb := b.toNat_lt
  refine ⟨?_, Fin.ext ?_, UInt8.toNat_inj.mp ?_⟩
  · show w.toNat / 4096 = g
    omega
  · show w.toNat / 256 % 16 = x.val
    omega
  · show (lowByte w).toNat = b.toNat
    rw [lowByte, UInt8.toNat_ofNat']
    omega

/-- The parts of a word with three nibbles behind its group. -/
theorem ofWord_nibbles {x y n : Nibble}
    (h : w.toNat = 4096 * g + 256 * x.val + 16 * y.val + n.val) :
    (ofWord w).group.val = g ∧ (ofWord w).x = x ∧ (ofWord w).y = y ∧ (ofWord w).n = n := by
  refine ⟨?_, Fin.ext ?_, Fin.ext ?_, Fin.ext ?_⟩
  · show w.toNat / 4096 = g
    omega
  · show w.toNat / 256 % 16 = x.val
    omega
  · show w.toNat / 16 % 16 = y.val
    omega
  · show w.toNat % 16 = n.val
    omega

end Fields

namespace Instruction

/-! ## Reading -/

/-- The fields make up the instruction. -/
inductive Reads (f : Fields) : Instruction → Prop
  | clear : f.group.val = 0 → f.nnn.val = 0x0E0 → Reads f .clear
  | ret : f.group.val = 0 → f.nnn.val = 0x0EE → Reads f .ret
  | sys : f.group.val = 0 → f.nnn.val ≠ 0x0E0 → f.nnn.val ≠ 0x0EE → Reads f (.sys f.nnn)
  | jump : f.group.val = 1 → Reads f (.jump f.nnn)
  | call : f.group.val = 2 → Reads f (.call f.nnn)
  | skipEqByte : f.group.val = 3 → Reads f (.skipEqByte f.x f.kk)
  | skipNeByte : f.group.val = 4 → Reads f (.skipNeByte f.x f.kk)
  | skipEq : f.group.val = 5 → f.n.val = 0 → Reads f (.skipEq f.x f.y)
  | loadByte : f.group.val = 6 → Reads f (.loadByte f.x f.kk)
  | addByte : f.group.val = 7 → Reads f (.addByte f.x f.kk)
  | alu {op : AluOp} : f.group.val = 8 → f.n.val = op.code → Reads f (.alu op f.x f.y)
  | skipNe : f.group.val = 9 → f.n.val = 0 → Reads f (.skipNe f.x f.y)
  | loadIndex : f.group.val = 10 → Reads f (.loadIndex f.nnn)
  | jumpFrom : f.group.val = 11 → Reads f (.jumpFrom f.nnn)
  | random : f.group.val = 12 → Reads f (.random f.x f.kk)
  | draw : f.group.val = 13 → Reads f (.draw f.x f.y f.n)
  | skipHeld : f.group.val = 14 → f.kk = 0x9E → Reads f (.skipHeld f.x)
  | skipFree : f.group.val = 14 → f.kk = 0xA1 → Reads f (.skipFree f.x)
  | readDelay : f.group.val = 15 → f.kk = 0x07 → Reads f (.readDelay f.x)
  | awaitKey : f.group.val = 15 → f.kk = 0x0A → Reads f (.awaitKey f.x)
  | setDelay : f.group.val = 15 → f.kk = 0x15 → Reads f (.setDelay f.x)
  | setSound : f.group.val = 15 → f.kk = 0x18 → Reads f (.setSound f.x)
  | addIndex : f.group.val = 15 → f.kk = 0x1E → Reads f (.addIndex f.x)
  | glyph : f.group.val = 15 → f.kk = 0x29 → Reads f (.glyph f.x)
  | digits : f.group.val = 15 → f.kk = 0x33 → Reads f (.digits f.x)
  | store : f.group.val = 15 → f.kk = 0x55 → Reads f (.store f.x)
  | fetch : f.group.val = 15 → f.kk = 0x65 → Reads f (.fetch f.x)

theorem reads_of_ofKeyCode? {f : Fields} {i : Instruction} (hg : f.group.val = 14)
    (h : ofKeyCode? f.x f.kk.toNat = some i) : Reads f i := by
  unfold ofKeyCode? at h
  split at h <;> cases h <;> rename_i hk
  · exact .skipHeld hg (UInt8.toNat_inj.mp hk)
  · exact .skipFree hg (UInt8.toNat_inj.mp hk)

theorem reads_of_ofMiscCode? {f : Fields} {i : Instruction} (hg : f.group.val = 15)
    (h : ofMiscCode? f.x f.kk.toNat = some i) : Reads f i := by
  unfold ofMiscCode? at h
  split at h <;> cases h <;> rename_i hk
  · exact .readDelay hg (UInt8.toNat_inj.mp hk)
  · exact .awaitKey hg (UInt8.toNat_inj.mp hk)
  · exact .setDelay hg (UInt8.toNat_inj.mp hk)
  · exact .setSound hg (UInt8.toNat_inj.mp hk)
  · exact .addIndex hg (UInt8.toNat_inj.mp hk)
  · exact .glyph hg (UInt8.toNat_inj.mp hk)
  · exact .digits hg (UInt8.toNat_inj.mp hk)
  · exact .store hg (UInt8.toNat_inj.mp hk)
  · exact .fetch hg (UInt8.toNat_inj.mp hk)

/-- In the system group, two addresses stand in the table by themselves. -/
theorem selector?_of_system {f : Fields} (hg : f.group.val = 0) :
    f.selector? =
      if f.nnn.val = 0x0E0 ∨ f.nnn.val = 0x0EE then some f.nnn.val else none := by
  simp only [Fields.selector?, hg]

theorem selector?_of_nibble {f : Fields}
    (hg : f.group.val = 5 ∨ f.group.val = 8 ∨ f.group.val = 9) : f.selector? = some f.n.val := by
  rcases hg with hg | hg | hg <;> simp only [Fields.selector?, hg]

theorem selector?_of_byte {f : Fields} (hg : f.group.val = 14 ∨ f.group.val = 15) :
    f.selector? = some f.kk.toNat := by
  rcases hg with hg | hg <;> simp only [Fields.selector?, hg]

theorem reads_of_ofFields? {f : Fields} {i : Instruction} (h : ofFields? f = some i) :
    Reads f i := by
  unfold ofFields? at h
  generalize hs : f.selector? = s at h
  unfold ofSelector? at h
  split at h
  case h_1 hg | h_2 hg =>
    rw [selector?_of_system hg] at hs
    split at hs
    · cases h
      first
        | exact .clear hg (Option.some.inj hs)
        | exact .ret hg (Option.some.inj hs)
    · cases hs
  case h_3 hg =>
    rw [selector?_of_system hg] at hs
    split at hs
    · cases hs
    · rename_i hother
      cases h
      exact .sys hg (fun hn => hother (.inl hn)) (fun hn => hother (.inr hn))
  case h_8 hg =>
    rw [selector?_of_nibble (.inl hg)] at hs
    cases h
    exact .skipEq hg (Option.some.inj hs)
  case h_11 hg =>
    rw [selector?_of_nibble (.inr (.inl hg))] at hs
    cases hs
    obtain ⟨op, hop, rfl⟩ := Option.map_eq_some_iff.mp h
    exact .alu hg (AluOp.code_of_ofCode? hop).symm
  case h_12 hg =>
    rw [selector?_of_nibble (.inr (.inr hg))] at hs
    cases h
    exact .skipNe hg (Option.some.inj hs)
  case h_17 hg =>
    rw [selector?_of_byte (.inl hg)] at hs
    cases hs
    exact reads_of_ofKeyCode? hg h
  case h_18 hg =>
    rw [selector?_of_byte (.inr hg)] at hs
    cases hs
    exact reads_of_ofMiscCode? hg h
  case h_19 => cases h
  -- in the other groups the group alone says which instruction it is
  all_goals
    rename_i hg
    cases h
    constructor
    exact hg

/-- The rules say what is read. -/
theorem ofFields?_eq_some_iff {f : Fields} {i : Instruction} :
    ofFields? f = some i ↔ Reads f i := by
  refine ⟨reads_of_ofFields?, fun h => ?_⟩
  unfold ofFields?
  cases h with
  | clear hg hn | ret hg hn =>
    rw [selector?_of_system hg, if_pos (by simp [hn]), hg, hn]
    rfl
  | sys hg hne hne' =>
    rw [selector?_of_system hg, if_neg (by simp [hne, hne']), hg]
    rfl
  | alu hg hn =>
    rw [selector?_of_nibble (.inr (.inl hg)), hg, hn]
    simp [ofSelector?, AluOp.ofCode?_code]
  | skipEq hg hn =>
    rw [selector?_of_nibble (.inl hg), hg, hn]
    rfl
  | skipNe hg hn =>
    rw [selector?_of_nibble (.inr (.inr hg)), hg, hn]
    rfl
  | skipHeld hg hk | skipFree hg hk =>
    rw [selector?_of_byte (.inl hg), hg, hk]
    rfl
  | readDelay hg hk | awaitKey hg hk | setDelay hg hk | setSound hg hk | addIndex hg hk
  | glyph hg hk | digits hg hk | store hg hk | fetch hg hk =>
    rw [selector?_of_byte (.inr hg), hg, hk]
    rfl
  | _ hg => simp only [Fields.selector?, ofSelector?, hg]

theorem reads_of_decode? {w : UInt16} {i : Instruction} (h : decode? w = some i) :
    Reads (Fields.ofWord w) i :=
  reads_of_ofFields? h

theorem decode?_eq_none_iff {w : UInt16} :
    decode? w = none ↔ ∀ i, ¬ Reads (Fields.ofWord w) i := by
  rw [Option.eq_none_iff_forall_ne_some]
  exact forall_congr' fun i => not_congr ofFields?_eq_some_iff

/-- Fields make up one instruction at most. -/
theorem Reads.unique {f : Fields} {i j : Instruction} (hi : Reads f i) (hj : Reads f j) : i = j :=
  Option.some.inj ((ofFields?_eq_some_iff.mpr hi).symm.trans (ofFields?_eq_some_iff.mpr hj))

/-! ## Writing -/

/-- What the word of an instruction is read as: the words of two machine-code calls have a meaning
of their own. -/
def asRead : Instruction → Instruction
  | .sys a => if a.val = 0x0E0 then .clear else if a.val = 0x0EE then .ret else .sys a
  | i => i

/-- The fields of a word that is written make up the instruction that it is read as. -/
theorem reads_encode (i : Instruction) : Reads (Fields.ofWord i.encode) i.asRead := by
  have layout := i.encode_toNat
  unfold asRead
  cases i with
  | clear =>
    obtain ⟨hg, ha⟩ := Fields.ofWord_address (g := 0) (a := 0x0E0) layout
    exact .clear hg (congrArg Fin.val ha)
  | ret =>
    obtain ⟨hg, ha⟩ := Fields.ofWord_address (g := 0) (a := 0x0EE) layout
    exact .ret hg (congrArg Fin.val ha)
  | sys a =>
    obtain ⟨hg, ha⟩ := Fields.ofWord_address (g := 0) (a := a) (by rw [layout]; simp [code])
    have hval := congrArg Fin.val ha
    dsimp only
    split
    · exact .clear hg (hval.trans ‹_›)
    · split
      · exact .ret hg (hval.trans ‹_›)
      · rename_i hne hne'
        simpa only [ha] using Reads.sys hg (hval ▸ hne) (hval ▸ hne')
  | jump a =>
    obtain ⟨hg, ha⟩ := Fields.ofWord_address (g := 1) (a := a) layout
    simpa only [ha] using Reads.jump hg
  | call a =>
    obtain ⟨hg, ha⟩ := Fields.ofWord_address (g := 2) (a := a) layout
    simpa only [ha] using Reads.call hg
  | loadIndex a =>
    obtain ⟨hg, ha⟩ := Fields.ofWord_address (g := 10) (a := a) layout
    simpa only [ha] using Reads.loadIndex hg
  | jumpFrom a =>
    obtain ⟨hg, ha⟩ := Fields.ofWord_address (g := 11) (a := a) layout
    simpa only [ha] using Reads.jumpFrom hg
  | skipEqByte x kk =>
    obtain ⟨hg, hx, hk⟩ := Fields.ofWord_byte (g := 3) (x := x) (b := kk) layout
    simpa only [hx, hk] using Reads.skipEqByte hg
  | skipNeByte x kk =>
    obtain ⟨hg, hx, hk⟩ := Fields.ofWord_byte (g := 4) (x := x) (b := kk) layout
    simpa only [hx, hk] using Reads.skipNeByte hg
  | loadByte x kk =>
    obtain ⟨hg, hx, hk⟩ := Fields.ofWord_byte (g := 6) (x := x) (b := kk) layout
    simpa only [hx, hk] using Reads.loadByte hg
  | addByte x kk =>
    obtain ⟨hg, hx, hk⟩ := Fields.ofWord_byte (g := 7) (x := x) (b := kk) layout
    simpa only [hx, hk] using Reads.addByte hg
  | random x kk =>
    obtain ⟨hg, hx, hk⟩ := Fields.ofWord_byte (g := 12) (x := x) (b := kk) layout
    simpa only [hx, hk] using Reads.random hg
  | skipEq x y =>
    obtain ⟨hg, hx, hy, hn⟩ := Fields.ofWord_nibbles (g := 5) (x := x) (y := y) (n := 0) layout
    simpa only [hx, hy] using Reads.skipEq hg (congrArg Fin.val hn)
  | skipNe x y =>
    obtain ⟨hg, hx, hy, hn⟩ := Fields.ofWord_nibbles (g := 9) (x := x) (y := y) (n := 0) layout
    simpa only [hx, hy] using Reads.skipNe hg (congrArg Fin.val hn)
  | alu op x y =>
    obtain ⟨hg, hx, hy, hn⟩ :=
      Fields.ofWord_nibbles (g := 8) (x := x) (y := y) (n := ⟨op.code, op.code_lt⟩) layout
    simpa only [hx, hy] using Reads.alu hg (congrArg Fin.val hn)
  | draw x y n =>
    obtain ⟨hg, hx, hy, hn⟩ := Fields.ofWord_nibbles (g := 13) (x := x) (y := y) (n := n) layout
    simpa only [hx, hy, hn] using Reads.draw hg
  | skipHeld x =>
    obtain ⟨hg, hx, hk⟩ := Fields.ofWord_byte (g := 14) (x := x) (b := 0x9E) layout
    simpa only [hx] using Reads.skipHeld hg hk
  | skipFree x =>
    obtain ⟨hg, hx, hk⟩ := Fields.ofWord_byte (g := 14) (x := x) (b := 0xA1) layout
    simpa only [hx] using Reads.skipFree hg hk
  | readDelay x =>
    obtain ⟨hg, hx, hk⟩ := Fields.ofWord_byte (g := 15) (x := x) (b := 0x07) layout
    simpa only [hx] using Reads.readDelay hg hk
  | awaitKey x =>
    obtain ⟨hg, hx, hk⟩ := Fields.ofWord_byte (g := 15) (x := x) (b := 0x0A) layout
    simpa only [hx] using Reads.awaitKey hg hk
  | setDelay x =>
    obtain ⟨hg, hx, hk⟩ := Fields.ofWord_byte (g := 15) (x := x) (b := 0x15) layout
    simpa only [hx] using Reads.setDelay hg hk
  | setSound x =>
    obtain ⟨hg, hx, hk⟩ := Fields.ofWord_byte (g := 15) (x := x) (b := 0x18) layout
    simpa only [hx] using Reads.setSound hg hk
  | addIndex x =>
    obtain ⟨hg, hx, hk⟩ := Fields.ofWord_byte (g := 15) (x := x) (b := 0x1E) layout
    simpa only [hx] using Reads.addIndex hg hk
  | glyph x =>
    obtain ⟨hg, hx, hk⟩ := Fields.ofWord_byte (g := 15) (x := x) (b := 0x29) layout
    simpa only [hx] using Reads.glyph hg hk
  | digits x =>
    obtain ⟨hg, hx, hk⟩ := Fields.ofWord_byte (g := 15) (x := x) (b := 0x33) layout
    simpa only [hx] using Reads.digits hg hk
  | store x =>
    obtain ⟨hg, hx, hk⟩ := Fields.ofWord_byte (g := 15) (x := x) (b := 0x55) layout
    simpa only [hx] using Reads.store hg hk
  | fetch x =>
    obtain ⟨hg, hx, hk⟩ := Fields.ofWord_byte (g := 15) (x := x) (b := 0x65) layout
    simpa only [hx] using Reads.fetch hg hk

theorem decode?_encode (i : Instruction) : decode? i.encode = some i.asRead :=
  ofFields?_eq_some_iff.mpr i.reads_encode

/-- An instruction has the number of a word whose fields make it up. -/
theorem Reads.code_eq {w : UInt16} {i : Instruction} (h : Reads (Fields.ofWord w) i) :
    i.code = w.toNat := by
  have hk : (Fields.ofWord w).kk.toNat = w.toNat % 256 := by
    show (lowByte w).toNat = _
    rw [lowByte, UInt8.toNat_ofNat']
    omega
  have parts : (Fields.ofWord w).group.val = w.toNat / 4096 ∧
      (Fields.ofWord w).x.val = w.toNat / 256 % 16 ∧ (Fields.ofWord w).y.val = w.toNat / 16 % 16 ∧
        (Fields.ofWord w).n.val = w.toNat % 16 ∧ (Fields.ofWord w).nnn.val = w.toNat % 4096 :=
    ⟨rfl, rfl, rfl, rfl, rfl⟩
  generalize Fields.ofWord w = f at h hk parts
  obtain ⟨hgroup, hx, hy, hn, hnnn⟩ := parts
  cases h with
  | skipHeld hg hb | skipFree hg hb | readDelay hg hb | awaitKey hg hb | setDelay hg hb
  | setSound hg hb | addIndex hg hb | glyph hg hb | digits hg hb | store hg hb | fetch hg hb =>
    simp only [hb, UInt8.reduceToNat] at hk
    simp only [code]
    omega
  | _ =>
    simp only [code]
    omega

/-- An instruction is written as the word that it was read from. -/
theorem encode_of_decode? {w : UInt16} {i : Instruction} (h : decode? w = some i) : i.encode = w :=
  UInt16.toNat_inj.mp (i.encode_toNat.trans (reads_of_decode? h).code_eq)

/-- A word with the number of an instruction is read as it, if it is not one of these two calls. -/
theorem decode?_of_toNat {w : UInt16} {i : Instruction} (hi : i.asRead = i)
    (hw : w.toNat = i.code) : decode? w = some i := by
  have hword : w = i.encode := UInt16.toNat_inj.mp (hw.trans i.encode_toNat.symm)
  rw [hword, decode?_encode, hi]

end Instruction

end ChipEight
