/-
# ChipEight.Proofs.Interchange -- names and literals of the same value

Where the value of an operand is looked up, it does not matter whether the operand is a label or a
literal of the label's value. Neither is a register or a special place, so both lead to the same plan
(`plan?_congr`), and what is completed with the value is the same (`complete_congr`). In data each
operand is a value. So the bytes of a statement stay, and with them the image (`literal_law`).

The literal could only mean something else if it was the name of a label; but a name is never read as
a number, and all labels are names (`areNames_of_layout`).
-/
import ChipEight.Proofs.Incomplete
import ChipEight.Proofs.Literals
import ChipEight.Proofs.Meaning

namespace ChipEight.Assembly

open Text Numeral

/-! ## Operands that are values at most -/

/-- The names of the special places in small letters. -/
def placeNames : List Text :=
  ["i".toList, "[i]".toList, "dt".toList, "st".toList, "k".toList, "f".toList, "b".toList]

/-- The operand is spelled neither like a register nor like a special place. -/
structure Plain (t : Text) : Prop where
  noRegister : ∀ x, ¬ NamesRegister t x
  noPlace : lower t ∉ placeNames

namespace Plain

variable {t t' : Text}

theorem register?_eq_none (h : Plain t) (ht : Trimmed t) : register? t = none :=
  (register?_eq_none_iff ht).mpr h.noRegister

theorem lower_ne (h : Plain t) {place : Text} (hplace : place ∈ placeNames) : lower t ≠ place := by
  rintro rfl
  exact h.noPlace hplace

theorem loadInto?_eq_none (h : Plain t) : loadInto? (lower t) = none := by
  unfold loadInto?
  rw [if_neg (h.lower_ne (by decide)), if_neg (h.lower_ne (by decide)),
    if_neg (h.lower_ne (by decide)), if_neg (h.lower_ne (by decide)),
    if_neg (h.lower_ne (by decide))]

theorem loadFrom?_eq_none (h : Plain t) : loadFrom? (lower t) = none := by
  unfold loadFrom?
  rw [if_neg (h.lower_ne (by decide)), if_neg (h.lower_ne (by decide)),
    if_neg (h.lower_ne (by decide))]

/-- The base of an indexed jump is a register. -/
theorem lower_ne_base (h : Plain t) (ht : Trimmed t) : lower t ≠ "v0".toList := by
  intro hbase
  have hnone := h.register?_eq_none ht
  unfold register? at hnone
  rw [ht.trim_eq, hbase] at hnone
  cases hnone

theorem sameRole (h : Plain t) (ht : Trimmed t) (h' : Plain t') (ht' : Trimmed t') :
    SameRole t t' where
  register := by rw [h.register?_eq_none ht, h'.register?_eq_none ht']
  index := iff_of_false (h.lower_ne (by decide)) (h'.lower_ne (by decide))
  into := by rw [h.loadInto?_eq_none, h'.loadInto?_eq_none]
  source := by rw [h.loadFrom?_eq_none, h'.loadFrom?_eq_none]
  base := iff_of_false (h.lower_ne_base ht) (h'.lower_ne_base ht')

end Plain

/-- A literal starts with a sign or a digit, and these stand before all letters. -/
theorem head_of_literal {n : Int} {t : Text} (h : IsLiteral n t) :
    ∃ c cs, t = c :: cs ∧ c.toNat < 65 := by
  have hlead {lead : Text} (sign : SignFor n lead) {c : Char} (hc : c.toNat < 65) (cs : Text) :
      ∃ d ds, lead ++ c :: cs = d :: ds ∧ d.toNat < 65 := by
    cases sign with
    | none => exact ⟨c, cs, rfl, hc⟩
    | plus => exact ⟨'+', c :: cs, rfl, by decide⟩
    | minus => exact ⟨'-', c :: cs, rfl, by decide⟩
  cases h with
  | decimal sign short =>
    have hdigits : ∀ d < 10, (Nat.digitChar d).toNat < 65 := by decide
    obtain ⟨c, cs, hcs⟩ := List.exists_cons_of_ne_nil
      (Nat.toDigits_ne_nil (b := 10) (n := n.natAbs))
    have hmem : c ∈ Nat.toDigits 10 n.natAbs := by
      rw [hcs]
      exact List.mem_cons_self
    obtain ⟨d, hd, rfl⟩ := exists_of_mem_toDigits (by decide) hmem
    rw [hcs]
    exact hlead sign (hdigits d hd) cs
  | marked sign known zeros same => exact hlead sign (by decide) _

theorem plain_of_literal {n : Int} {t : Text} (h : IsLiteral n t) : Plain t := by
  obtain ⟨c, cs, rfl, hc⟩ := head_of_literal h
  refine ⟨?_, ?_⟩
  · rintro x ⟨v, d, hv, hletter, -⟩
    obtain rfl := (List.cons.inj hv).1
    rcases hletter with rfl | rfl
    · exact absurd hc (by decide)
    · exact absurd hc (by decide)
  · have hlower : (lowerChar c).toNat < 65 := by
      refine of_toNat_lt (p := fun c => (lowerChar c).toNat < 65) ?_ hc
      decide +kernel
    have hplaces : ∀ place ∈ placeNames, ∀ d, place.head? = some d → 65 ≤ d.toNat := by
      intro place hplace d hd
      have all : placeNames.all (fun place => place.head?.all fun d => 65 ≤ d.toNat) = true := by
        decide
      simpa [hd] using List.all_eq_true.mp all place hplace
    intro hplace
    rw [lower, lowerAfter_cons (by omega)] at hplace
    exact absurd (hplaces _ hplace _ rfl) (by omega)

/-! ## Labels -/

/-- All labels are names. -/
def Labels.AreNames (labels : Labels) : Prop :=
  ∀ entry ∈ labels, isIdentifier entry.1 = true

theorem areNames_of_defineAll {labels labels' : Labels} (h : labels.AreNames) {address : Int}
    {label? : Option Text} (hdefine : defineAll labels address label? = .ok labels') :
    labels'.AreNames := by
  obtain ⟨rfl, -⟩ := defineAll_eq_ok hdefine
  intro entry hentry
  rcases List.mem_append.mp hentry with hmem | hmem
  · exact h entry hmem
  · obtain ⟨label, hlabel, rfl⟩ := List.mem_map.mp hmem
    rw [Option.mem_toList] at hlabel
    subst hlabel
    cases hname : isIdentifier label with
    | true => rfl
    | false => simp [defineAll, define, hname] at hdefine

theorem areNames_of_layout {source : Text} {base : Int} {l : Layout}
    (h : layout source base = .ok l) : l.labels.AreNames := by
  have hnone : Labels.AreNames [] := by
    intro entry hentry
    cases hentry
  exact labels_of_layout areNames_of_defineAll hnone h

theorem token_of_lookup {labels : Labels} (hlabels : labels.AreNames) {name : Text} {n : Int}
    (h : labels.lookup name = some n) : Token name :=
  token_of_isIdentifier (hlabels _ (mem_of_lookup h))

/-- A literal is no name, so it is not looked up among the labels in vain. -/
theorem resolve_of_literal {labels : Labels} (hlabels : labels.AreNames) {n : Int} {t : Text}
    (h : IsLiteral n t) : resolve labels t = .ok n := by
  have hnumber : number t = .ok n := by
    have hblank : isAllBlank [] = true := rfl
    have hpadded := number_of_literal h hblank hblank
    rwa [List.nil_append, List.append_nil] at hpadded
  have hnone : labels.lookup t = none := by
    cases hlookup : labels.lookup t with
    | none => rfl
    | some value =>
      rw [number_of_isIdentifier (hlabels _ (mem_of_lookup hlookup))] at hnumber
      cases hnumber
  rw [resolve, hnone, hnumber]

/-! ## Statements -/

/-- The two operands have the same role and the same value. -/
structure Alike (labels : Labels) (t t' : Text) : Prop where
  role : SameRole t t'
  value : resolve labels t = resolve labels t'

section Alike

variable {labels : Labels} {t t' : Text} {operands operands' : List Text}

theorem Alike.refl (labels : Labels) (t : Text) : Alike labels t t :=
  ⟨.refl t, rfl⟩

/-- A literal and a label of the same value are alike, if the label is no register and no special
place. -/
theorem alike_of_literal (hlabels : labels.AreNames) {n : Int} {t name : Text} (ht : IsLiteral n t)
    (hname : labels.lookup name = some n) (hplain : Plain name) : Alike labels t name where
  role := (plain_of_literal ht).sameRole (token_of_literal ht).trimmed hplain
    (token_of_lookup hlabels hname).trimmed
  value := by rw [resolve_of_literal hlabels ht, resolve_of_lookup hname]

/-- Operands that are alike in one place may be among the same others. -/
theorem forall₂_alike (h : Alike labels t t') (before after : List Text) :
    List.Forall₂ (Alike labels) (before ++ t :: after) (before ++ t' :: after) := by
  have hsame (ts : List Text) : List.Forall₂ (Alike labels) ts ts :=
    List.forall₂_same.mpr fun u _ => .refl labels u
  exact List.rel_append (hsame before) (.cons h (hsame after))

theorem fill_congr (h : Alike labels t t') (slot : Slot) : slot.fill labels t = slot.fill labels t' := by
  cases slot with
  | address make => simp only [Slot.fill, address, h.value]
  | byte make => simp only [Slot.fill, byte, h.value]
  | height make => simp only [Slot.fill, height, h.value]

theorem complete_congr (h : List.Forall₂ (Alike labels) operands operands') (plan : Plan) :
    plan.complete labels operands = plan.complete labels operands' := by
  cases plan with
  | settled i => rfl
  | awaiting place slot => exact bind_getElem?_congr h place fun u u' hu => fill_congr hu slot

/-- An instruction has the same plan with operands that are alike, and it is completed in the same
way. -/
theorem family_congr (h : List.Forall₂ (Alike labels) operands operands') (m : Mnemonic) :
    (m.instruction labels operands).toOption = (m.instruction labels operands').toOption := by
  have hroles : List.Forall₂ SameRole operands operands' := h.imp fun _ _ hu => hu.role
  rw [family_toOption, family_toOption, plan?_congr hroles]
  exact Option.bind_congr fun plan _ => complete_congr h plan

theorem resolveAll_congr (h : List.Forall₂ (Alike labels) operands operands') :
    resolveAll labels operands = resolveAll labels operands' := by
  induction h with
  | nil => rfl
  | cons first others ih => rw [resolveAll, resolveAll, first.value, ih]

end Alike

/-- Two statements of data, or two instructions, have the same name and the same operands but for one,
which is `t` in the first and `t'` in the second. -/
inductive Differ (t t' s s' : Text) : Prop where
  | bytes {before after : List Text} (form : Form.ofStatement s = .bytes (before ++ t :: after))
      (form' : Form.ofStatement s' = .bytes (before ++ t' :: after))
  | words {before after : List Text} (form : Form.ofStatement s = .words (before ++ t :: after))
      (form' : Form.ofStatement s' = .words (before ++ t' :: after))
  | instruction {m : Mnemonic} {before after : List Text} (names : Names s m (before ++ t :: after))
      (names' : Names s' m (before ++ t' :: after))

namespace Differ

variable {t t' s s' : Text}

theorem symm (h : Differ t t' s s') : Differ t' t s' s := by
  cases h with
  | bytes form form' => exact .bytes form' form
  | words form form' => exact .words form' form
  | instruction names names' => exact .instruction names' names

theorem ne_nil (h : Differ t t' s s') : s ≠ [] := by
  cases h with
  | bytes form form' => exact ne_nil_of_form form nofun
  | words form form' => exact ne_nil_of_form form nofun
  | instruction names names' => exact names.ne_nil

/-- The layout leaves the same room for both. -/
theorem size_eq (h : Differ t t' s s') (address : Int) :
    (Form.ofStatement s).size address = (Form.ofStatement s').size address := by
  cases h with
  | bytes form form' => simp only [form, form', Form.size, List.length_append, List.length_cons]
  | words form form' => simp only [form, form', Form.size, List.length_append, List.length_cons]
  | instruction names names' => rw [names.form, names'.form]

theorem bytes_eq {labels : Labels} (h : Differ t t' s s') (ht : Alike labels t t') (size : Nat) :
    statementBytes? labels s size = statementBytes? labels s' size := by
  unfold statementBytes? Placed.emit
  cases h with
  | @bytes before after form form' | @words before after form form' =>
    have hvalues := resolveAll_congr (forall₂_alike ht before after)
    simp only [form, form', toOption_bind, toOption_mapError, hvalues]
  | @instruction m before after names names' =>
    have hsame := family_congr (forall₂_alike ht before after) m
    simp only [names.form, names'.form, names.instruction_eq, names'.instruction_eq, toOption_bind,
      toOption_mapError, hsame]

end Differ

/-! ## Programs -/

/-- The second text is the first one with the operand `t` of a statement replaced by `t'`. -/
def Exchanged (t t' source source' : Text) : Prop :=
  ∃ before raw raw' after label? s s', splitOn '\n' source = before ++ raw :: after ∧
    splitOn '\n' source' = before ++ raw' :: after ∧
    labelAndStatement (withoutComment raw) = (label?, s) ∧
    labelAndStatement (withoutComment raw') = (label?, s') ∧ Differ t t' s s'

/-- What lines come to once all labels are known: the labels behind them, and their bytes. -/
def outcome (known labels : Labels) (address : Int) (lines : List SourceLine) :
    Option (Labels × Option (List UInt8)) :=
  (meaning labels address lines).map fun rest => (rest.1, rest.2 known)

theorem outcome_cons (known labels : Labels) (address : Int) (line : SourceLine)
    (lines : List SourceLine) :
    outcome known labels address (line :: lines) =
      (defineAll labels address line.label?).toOption.bind fun labels' =>
        if line.statement = [] then outcome known labels' address lines
        else ((Form.ofStatement line.statement).size address).toOption.bind fun size =>
          (outcome known labels' (address + size) lines).map fun rest =>
            (rest.1, (statementBytes? known line.statement size).bind fun bs =>
              rest.2.map (bs ++ ·)) := by
  unfold outcome
  rw [meaning_cons, Option.map_bind]
  refine Option.bind_congr fun labels' _ => ?_
  show Option.map _ (if _ then _ else _) = _
  by_cases hbare : line.statement = []
  · rw [if_pos hbare, if_pos hbare]
  · rw [if_neg hbare, if_neg hbare, Option.map_bind]
    refine Option.bind_congr fun size _ => ?_
    show Option.map _ (Option.map _ (meaning labels' (address + size) lines)) = _
    cases meaning labels' (address + size) lines <;> rfl

/-- Behind the same lines, lines that come to the same may stand for each other. -/
theorem outcome_append_congr {known : Labels} (front : List SourceLine) {lines lines' : List SourceLine}
    (h : ∀ labels address, outcome known labels address lines = outcome known labels address lines')
    (labels : Labels) (address : Int) :
    outcome known labels address (front ++ lines) = outcome known labels address (front ++ lines') := by
  induction front generalizing labels address with
  | nil => exact h labels address
  | cons line front ih =>
    rw [List.cons_append, List.cons_append, outcome_cons, outcome_cons]
    simp only [ih]

/-- The labels of a program are those behind its lines, and its image is what the lines come to if
these are known. -/
theorem image_eq_outcome {source : Text} {base : Int} {l : Layout}
    (h : layout source base = .ok l) :
    outcome l.labels [] base (linesOf (splitOn '\n' source)) =
      some (l.labels, (assemble source base).toOption.map Assembled.image) := by
  have hmeaning : meaning [] base (linesOf (splitOn '\n' source)) =
      some (l.labels, fun known =>
        (emitAll known l.statements).toOption.map fun pieces => pieces.flatMap Piece.bytes) := by
    rw [← meaning_sourceLines]
    show Option.map _ (layout source base).toOption = _
    rw [h]
    rfl
  rw [outcome, image_eq_meaning, hmeaning]
  rfl

namespace Exchanged

variable {t t' source source' : Text}

theorem symm (h : Exchanged t t' source source') : Exchanged t' t source' source := by
  obtain ⟨before, raw, raw', after, label?, s, s', hsource, hsource', hread, hread', hdiffer⟩ := h
  exact ⟨before, raw', raw, after, label?, s', s, hsource', hsource, hread', hread, hdiffer.symm⟩

/-- The lines come to the same with operands that are alike. -/
theorem outcome_eq {known : Labels} (h : Exchanged t t' source source') (ht : Alike known t t')
    (labels : Labels) (address : Int) :
    outcome known labels address (linesOf (splitOn '\n' source)) =
      outcome known labels address (linesOf (splitOn '\n' source')) := by
  obtain ⟨before, raw, raw', after, label?, s, s', hsource, hsource', hread, hread', hdiffer⟩ := h
  have hs := hdiffer.ne_nil
  have hs' := hdiffer.symm.ne_nil
  rw [hsource, hsource', linesOf_append, linesOf_append,
    linesOf_cons (ne_nil_of_read hread (by simp [hs])),
    linesOf_cons (ne_nil_of_read hread' (by simp [hs']))]
  apply outcome_append_congr
  intro labels address
  rw [outcome_cons, outcome_cons]
  simp only [SourceLine.label?, SourceLine.statement, hread, hread', if_neg hs, if_neg hs',
    hdiffer.size_eq, hdiffer.bytes_eq ht]

theorem image_eq {base : Int} {l : Layout} (h : Exchanged t t' source source')
    (hlayout : layout source base = .ok l) (ht : Alike l.labels t t') :
    (assemble source base).toOption.map Assembled.image =
      (assemble source' base).toOption.map Assembled.image := by
  have houtcome := h.outcome_eq ht [] base
  rw [image_eq_outcome hlayout, outcome] at houtcome
  obtain ⟨rest, hmeaning, hrest⟩ := Option.map_eq_some_iff.mp houtcome.symm
  obtain ⟨hlabels, himage⟩ := Prod.mk.inj hrest
  rw [image_eq_meaning source' base, hmeaning, Option.bind_some, hlabels, himage]

end Exchanged

/-- A literal of a number is read as this number, whatever blanks stand around it. A label with this
value may stand for it in any operand of data and of an instruction, if its name is spelled neither
like a register nor like a special place: both texts are assembled to the same bytes, or neither is
assembled. No name is a number at all. -/
theorem literal_law {n : Int} {t : Text} (ht : IsLiteral n t) :
    (∀ front back, isAllBlank front = true → isAllBlank back = true →
      number (front ++ t ++ back) = .ok n) ∧
    (∀ source source' base l name, layout source base = .ok l → l.labels.lookup name = some n →
      Plain name → Exchanged t name source source' →
        (assemble source base).toOption.map Assembled.image =
          (assemble source' base).toOption.map Assembled.image) ∧
    (∀ name, isIdentifier name = true → ∀ m, number name ≠ .ok m) := by
  refine ⟨?_, ?_, ?_⟩
  · intro front back hfront hback
    exact number_of_literal ht hfront hback
  · intro source source' base l name hlayout hname hplain hexchanged
    exact hexchanged.image_eq hlayout
      (alike_of_literal (areNames_of_layout hlayout) ht hname hplain)
  · intro name hname m hnumber
    rw [number_of_isIdentifier hname] at hnumber
    cases hnumber

/-- A program text whose second byte is a literal of the place where it starts. -/
def spelledOut : Text :=
  "table: .db 1, -0X00fA ; where it starts".toList

/-- The same program with the name of this place. -/
def named : Text :=
  "table: .db 1, table".toList

theorem literal_law_named :
    IsLiteral (-250) "-0X00fA".toList ∧ number " -0X00fA\t".toList = .ok (-250) ∧
      (∀ m, number "table".toList ≠ .ok m) ∧
      (assemble spelledOut (-250)).toOption.map Assembled.image = some [1, 6] ∧
      (assemble named (-250)).toOption.map Assembled.image = some [1, 6] := by
  have hliteral : IsLiteral (-250) "-0X00fA".toList :=
    @IsLiteral.marked (-250) ['-'] "fA".toList 'X' 16 (.minus (by decide)) (by decide) 2 (by decide)
  obtain ⟨hnumber, hsame, hnames⟩ := literal_law hliteral
  have hplain : Plain "table".toList := by
    refine ⟨?_, by decide +kernel⟩
    rintro x ⟨v, d, hname, -⟩
    cases hname
  have hexchanged : Exchanged "-0X00fA".toList "table".toList spelledOut named :=
    ⟨[], spelledOut, named, [], some "table".toList, ".db 1, -0X00fA".toList, ".db 1, table".toList,
      by decide +kernel, by decide +kernel, by decide +kernel, by decide +kernel,
      @Differ.bytes _ _ _ _ ["1".toList] [] (by decide +kernel) (by decide +kernel)⟩
  have hlayout : layout spelledOut (-250) = .ok ⟨[("table".toList, -250)],
      [⟨1, ".db 1, -0X00fA".toList, .bytes ["1".toList, "-0X00fA".toList], -250, 2⟩]⟩ := by rfl
  have himage : (assemble named (-250)).toOption.map Assembled.image = some [1, 6] := by
    decide +kernel
  refine ⟨hliteral, hnumber [' '] ['\t'] (by decide) (by decide), ?_, ?_, himage⟩
  · exact hnames _ (by decide +kernel)
  · exact (hsame _ _ _ _ _ hlayout (by decide +kernel) hplain hexchanged).trans himage

end ChipEight.Assembly
