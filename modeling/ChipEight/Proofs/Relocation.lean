/-
# ChipEight.Proofs.Relocation -- the same program at another address

Without an origin, nothing in a program text fixes an address. Placed elsewhere, the layout is the
same one with all its addresses shifted (`layout_shift`), and the same texts are refused. The bytes
change only where the value of a label goes into them: by the distance in a word that is an entry of
its own, and by the distance in the low twelve bits of an instruction.

Which operands are looked up as values is what the plan of an instruction says. So two instructions
for one text are compared by one plan that is completed twice, with the labels of either place
(`Emits.relocates`). Both images have room for a line at the same offset, since no line needs its
address to be measured.
-/
import ChipEight.Proofs.Blame
import ChipEight.Proofs.Plans

namespace ChipEight.Assembly

open Text

/-! ## Shifted layouts -/

/-- The labels at another distance from their origin. -/
def Labels.shift (d : Int) (labels : Labels) : Labels :=
  labels.map fun l => (l.1, l.2 + d)

/-- The layout with all addresses shifted, those of labels and those of statements. -/
def Layout.shift (d : Int) (l : Layout) : Layout where
  labels := Labels.shift d l.labels
  statements := l.statements.map fun s => { s with address := s.address + d }

/-- No line is an origin. -/
def OriginFree (lines : List SourceLine) : Prop :=
  ∀ line ∈ lines, (Form.ofStatement line.statement).isOrigin = false

theorem Labels.lookup_shift (d : Int) (labels : Labels) (t : Text) :
    (Labels.shift d labels).lookup t = (labels.lookup t).map (· + d) := by
  induction labels with
  | nil => rfl
  | cons l labels ih =>
    show List.lookup t ((l.1, l.2 + d) :: Labels.shift d labels) = _
    rw [List.lookup_cons, List.lookup_cons, ih]
    cases t == l.1 <;> rfl

theorem defineAll_shift (d : Int) (labels : Labels) (address : Int) (label? : Option Text) :
    defineAll (labels.shift d) (address + d) label? =
      (defineAll labels address label?).map (Labels.shift d) := by
  cases label? with
  | none => rfl
  | some label =>
    simp only [defineAll, define, Labels.lookup_shift, Option.isSome_map]
    split
    · rfl
    · split
      · rfl
      · simp [Labels.shift, Except.map]

/-- Only an origin is measured by its address. -/
theorem Form.size_add {form : Form} (h : form.isOrigin = false) (address d : Int) :
    form.size (address + d) = form.size address := by
  cases form with
  | origin operand => cases h
  | bytes operands | words operands | instruction => rfl

/-- Lines without an origin are placed in the same way everywhere. -/
theorem place_shift {lines : List SourceLine} (h : OriginFree lines) (d : Int) (labels : Labels)
    (address : Int) :
    place (labels.shift d) (address + d) lines =
      (place labels address lines).map (Layout.shift d) := by
  -- the labels so far and the address are shifted together, so both are carried along
  induction lines generalizing labels address with
  | nil => rfl
  | cons line lines ih =>
    obtain ⟨hline, hlines⟩ := List.forall_mem_cons.mp h
    have hshift := defineAll_shift d labels address line.label?
    cases hlabel : defineAll labels address line.label? with
    | error cause =>
      rw [hlabel] at hshift
      rw [place_of_label hlabel, place_of_label hshift]
      rfl
    | ok labels' =>
      rw [hlabel] at hshift
      by_cases hbare : line.statement = []
      · rw [place_of_bare hlabel hbare, place_of_bare hshift hbare]
        exact ih hlines labels' address
      have hmeasure := Form.size_add hline address d
      cases hsize : (Form.ofStatement line.statement).size address with
      | error cause =>
        rw [hsize] at hmeasure
        rw [place_of_size hlabel hbare hsize, place_of_size hshift hbare hmeasure]
        rfl
      | ok size =>
        rw [hsize] at hmeasure
        rw [place_of_statement lines hlabel hbare hsize,
          place_of_statement lines hshift hbare hmeasure, Int.add_right_comm,
          ih hlines labels' (address + size)]
        cases place labels' (address + size) lines <;> rfl

theorem layout_shift {source : Text} (h : OriginFree (sourceLines source)) (base d : Int) :
    layout source (base + d) = (layout source base).map (Layout.shift d) :=
  place_shift h d [] base

/-! ## Operands that are looked up -/

/-- The text is an instruction with these operands, and this is its plan. -/
def Planned (s : Text) (operands : List Text) (plan : Plan) : Prop :=
  ∃ name rest m, splitMnemonic? s = some (name, rest) ∧ (lower name, m) ∈ mnemonicNames ∧
    splitOperands rest = operands ∧ m.plan? operands = some plan

/-- The value of this operand is looked up for the bytes of the statement. -/
inductive LooksUp (s t : Text) : Prop where
  | bytes {operands : List Text} (form : Form.ofStatement s = .bytes operands)
      (mem : t ∈ operands)
  | words {operands : List Text} (form : Form.ofStatement s = .words operands)
      (mem : t ∈ operands)
  | instruction {operands : List Text} {plan : Plan} {k : Nat}
      (form : Form.ofStatement s = .instruction) (planned : Planned s operands plan)
      (place : plan.place? = some k) (operand : operands[k]? = some t)

/-- This operand is an entry of the statement: the word with this number. -/
def IsEntry (s : Text) (k : Nat) (t : Text) : Prop :=
  ∃ operands, Form.ofStatement s = .words operands ∧ operands[k]? = some t

/-- This operand is the address in the instruction. -/
def IsAddress (s t : Text) : Prop :=
  ∃ operands k make, Form.ofStatement s = .instruction ∧
    Planned s operands (.awaiting k (.address make)) ∧ operands[k]? = some t

section Planning

variable {labels : Labels} {s : Text} {operands : List Text} {plan : Plan}

theorem Planned.unique (h : Planned s operands plan) {operands' : List Text} {plan' : Plan}
    (h' : Planned s operands' plan') : operands = operands' ∧ plan = plan' := by
  obtain ⟨name, rest, m, hsplit, hm, rfl, hplan⟩ := h
  obtain ⟨name', rest', m', hsplit', hm', rfl, hplan'⟩ := h'
  cases hsplit.symm.trans hsplit'
  cases (lookup_mnemonicNames hm).symm.trans (lookup_mnemonicNames hm')
  exact ⟨rfl, Option.some.inj (hplan.symm.trans hplan')⟩

/-- An instruction is its plan, completed. -/
theorem Planned.complete_eq (h : Planned s operands plan) (labels : Labels) :
    (instruction labels s).toOption = plan.complete labels operands := by
  obtain ⟨name, rest, m, hsplit, hm, rfl, hplan⟩ := h
  rw [instruction_toOption hsplit, lookup_mnemonicNames hm, Option.bind_some, hplan,
    Option.bind_some]

theorem exists_planned {i : Instruction} (h : instruction labels s = .ok i) :
    ∃ operands plan, Planned s operands plan := by
  cases hsplit : splitMnemonic? s with
  | none =>
    unfold instruction at h
    rw [hsplit] at h
    cases h
  | some parts =>
    obtain ⟨name, rest⟩ := parts
    have hmade := @instruction_toOption labels s name rest hsplit
    rw [h] at hmade
    obtain ⟨m, hm, hplan⟩ := Option.bind_eq_some_iff.mp hmade.symm
    obtain ⟨plan, hplan, -⟩ := Option.bind_eq_some_iff.mp hplan
    exact ⟨_, plan, name, rest, m, hsplit, mem_of_lookup hm, rfl, hplan⟩

/-- An address goes into the low twelve bits, whatever is above them. -/
theorem code_of_address {m : Mnemonic} {k : Nat} {make : Address → Instruction}
    (h : m.plan? operands = some (.awaiting k (.address make))) :
    ∃ high, ∀ a, (make a).code = 4096 * high + a.val := by
  -- five forms await an address, and no plan of the other families does
  cases m with
  | cls | ret => cases h
  | sys =>
    cases h
    exact ⟨0, fun a => by simp [Instruction.code]⟩
  | call =>
    cases h
    exact ⟨2, fun a => rfl⟩
  | jp =>
    simp only [Mnemonic.plan?, jumpPlan?] at h
    split at h
    · split at h
      · cases h
        exact ⟨11, fun a => rfl⟩
      · cases h
    · cases h
      exact ⟨1, fun a => rfl⟩
  | ld =>
    simp only [Mnemonic.plan?, loadPlan?, Option.bind_eq_bind, Option.bind_eq_some_iff] at h
    obtain ⟨target, -, source, -, h⟩ := h
    split at h
    · cases h
      exact ⟨10, fun a => rfl⟩
    · split at h
      · simp [Option.bind_eq_some_iff] at h
      · simp only [Option.bind_eq_some_iff] at h
        obtain ⟨x, -, h⟩ := h
        split at h
        · cases h
        · split at h <;> cases h
  | se | sne =>
    simp only [Mnemonic.plan?, comparisonPlan?, Option.bind_eq_bind, Option.bind_eq_some_iff] at h
    obtain ⟨first, -, x, -, second, -, h⟩ := h
    split at h <;> cases h
  | add =>
    simp only [Mnemonic.plan?, additionPlan?, Option.bind_eq_bind, Option.bind_eq_some_iff] at h
    obtain ⟨target, -, h⟩ := h
    split at h
    · simp [Option.bind_eq_some_iff] at h
    · simp only [Option.bind_eq_some_iff] at h
      obtain ⟨x, -, second, -, h⟩ := h
      split at h <;> cases h
  | alu op =>
    simp only [Mnemonic.plan?, operationPlan?, Option.bind_eq_bind, Option.bind_eq_some_iff] at h
    obtain ⟨first, -, x, -, h⟩ := h
    split at h
    · simp [Option.bind_eq_some_iff] at h
    · cases h
  | rnd | drw | skp | sknp =>
    simp [Mnemonic.plan?, Option.bind_eq_some_iff] at h

end Planning

/-! ## Values -/

section Values

variable {labels : Labels} {t : Text}

/-- A value that is no label does not see where labels are. -/
theorem resolve_shift (h : labels.lookup t = none) (d : Int) :
    resolve (labels.shift d) t = resolve labels t := by
  simp only [resolve, Labels.lookup_shift, h, Option.map_none]

/-- A label has a value that is shifted with it. -/
theorem exists_resolve_shift (h : labels.lookup t ≠ none) (d : Int) :
    ∃ v, resolve labels t = .ok v ∧ resolve (labels.shift d) t = .ok (v + d) := by
  obtain ⟨v, hv⟩ := Option.ne_none_iff_exists'.mp h
  refine ⟨v, resolve_of_lookup hv, resolve_of_lookup ?_⟩
  rw [Labels.lookup_shift, hv]
  rfl

theorem val_of_address {v : Int} (hv : resolve labels t = .ok v) {a : Address}
    (h : address labels t = .ok a) : (a.val : Int) = v := by
  simp only [address, hv, bind, Except.bind] at h
  split at h
  · cases h
    show (v.toNat : Int) = v
    omega
  · cases h

/-- A slot is filled in the same way if its operand is no label. -/
theorem Slot.fill_shift (h : labels.lookup t = none) (d : Int) (slot : Slot) :
    slot.fill (labels.shift d) t = slot.fill labels t := by
  cases slot with
  | address make => simp only [Slot.fill, Assembly.address, resolve_shift h]
  | byte make => simp only [Slot.fill, Assembly.byte, resolve_shift h]
  | height make => simp only [Slot.fill, Assembly.height, resolve_shift h]

theorem Plan.complete_shift {plan : Plan} {operands : List Text}
    (h : ∀ k t, plan.place? = some k → operands[k]? = some t → labels.lookup t = none) (d : Int) :
    plan.complete (labels.shift d) operands = plan.complete labels operands := by
  cases plan with
  | settled i => rfl
  | awaiting k slot =>
    refine Option.bind_congr fun t ht => ?_
    exact slot.fill_shift (h k t rfl ht) d

/-- The values of operands that are no labels are the same. -/
theorem values_shift {operands : List Text} {values values' : List Int} {d : Int}
    (h : List.Forall₂ (fun operand value => resolve labels operand = .ok value) operands values)
    (h' : List.Forall₂ (fun operand value => resolve (labels.shift d) operand = .ok value)
      operands values')
    (hnone : ∀ t ∈ operands, labels.lookup t = none) : values' = values := by
  induction h generalizing values' with
  | nil =>
    cases h'
    rfl
  | cons hvalue _ ih =>
    obtain ⟨hfirst, hothers⟩ := List.forall_mem_cons.mp hnone
    cases h' with
    | cons hvalue' hvalues' =>
      rw [resolve_shift hfirst, hvalue] at hvalue'
      rw [ih hvalues' hothers, Except.ok.inj hvalue']

/-- The value of an operand stands in its place. -/
theorem value_of_operand {operands : List Text} {values : List Int}
    (h : List.Forall₂ (fun operand value => resolve labels operand = .ok value) operands values)
    {k : Nat} (hk : operands[k]? = some t) {v : Int} (hv : resolve labels t = .ok v) :
    values[k]? = some v := by
  induction h generalizing k with
  | nil => cases hk
  | cons hvalue _ ih =>
    cases k with
    | zero =>
      cases hk
      exact congrArg some (Except.ok.inj (hvalue.symm.trans hv))
    | succ k => exact ih hk

/-- The words of values stand one after another, two bytes each. -/
theorem entry_of_values {values : List Int} {k : Nat} {v : Int} (h : values[k]? = some v) :
    ((values.flatMap fun value => wordBytes (wordOfInt value)).drop (2 * k)).take 2 =
      wordBytes (wordOfInt v) := by
  induction values generalizing k with
  | nil => cases h
  | cons value values ih =>
    cases k with
    | zero =>
      cases h
      rfl
    | succ k => exact ih h

end Values

/-! ## Statements -/

/-- What may be different in the bytes of a statement if all labels are shifted. -/
structure Relocates (d : Int) (labels : Labels) (s : Text) (bytes bytes' : List UInt8) : Prop where
  /-- Their number stays. -/
  length : bytes'.length = bytes.length
  /-- They stay as they are if no label is looked up for them. -/
  fixed : (∀ t, LooksUp s t → labels.lookup t = none) → bytes' = bytes
  /-- A label that is an entry of its own changes by the distance, as far as a word goes. -/
  entries : ∀ k t, IsEntry s k t → labels.lookup t ≠ none → ∃ w w',
    (bytes.drop (2 * k)).take 2 = wordBytes w ∧ (bytes'.drop (2 * k)).take 2 = wordBytes w' ∧
      (w'.toNat : Int) = (w.toNat + d) % 65536
  /-- A label that is an address changes the low twelve bits by the distance, and no others. -/
  addresses : ∀ t, IsAddress s t → labels.lookup t ≠ none → ∃ w w',
    bytes = wordBytes w ∧ bytes' = wordBytes w' ∧ w'.toNat / 4096 = w.toNat / 4096 ∧
      ((w'.toNat % 4096 : Nat) : Int) = (w.toNat % 4096 : Nat) + d

/-- The number of bytes that the line takes, wherever it stands; nothing is said about origins. -/
def SourceLine.room (line : SourceLine) : Nat :=
  (line.next 0).toNat

section Lines

variable {labels : Labels} {address : Int} {line : SourceLine} {bytes : List UInt8}

/-- A line that is no origin takes as many bytes everywhere. -/
theorem Emits.length_eq (h : Emits labels address line.statement bytes)
    (hfree : (Form.ofStatement line.statement).isOrigin = false) :
    bytes.length = line.room := by
  unfold SourceLine.room SourceLine.next
  generalize line.statement = s at h hfree ⊢
  cases h with
  | nothing => rfl
  | origin form =>
    rw [form] at hfree
    cases hfree
  | @bytes _ operands values form resolved =>
    rw [if_neg (ne_nil_of_form form nofun), form]
    show (values.map byteOfInt).length = (0 + (operands.length : Int)).toNat
    rw [List.length_map, ← resolved.length_eq]
    omega
  | @words _ operands values form resolved =>
    rw [if_neg (ne_nil_of_form form nofun), form]
    show (values.flatMap fun value => wordBytes (wordOfInt value)).length =
      (0 + 2 * (operands.length : Int)).toNat
    rw [length_words, ← resolved.length_eq]
    omega
  | instruction form nonempty =>
    rw [if_neg nonempty, form]
    rfl

variable {s : Text} {d address' : Int} {bytes' : List UInt8}

/-- Nothing changes in a statement for which no label is looked up. -/
theorem Emits.bytes_eq (h : Emits labels address s bytes)
    (h' : Emits (labels.shift d) address' s bytes')
    (hfree : (Form.ofStatement s).isOrigin = false)
    (hnone : ∀ t, LooksUp s t → labels.lookup t = none) : bytes' = bytes := by
  cases h with
  | nothing => exact h'.eq_nil
  | origin form =>
    rw [form] at hfree
    cases hfree
  | bytes form resolved =>
    obtain ⟨values', resolved', rfl⟩ := h'.values_of_bytes form
    rw [values_shift resolved resolved' fun t ht => hnone t (.bytes form ht)]
  | words form resolved =>
    obtain ⟨values', resolved', rfl⟩ := h'.values_of_words form
    rw [values_shift resolved resolved' fun t ht => hnone t (.words form ht)]
  | instruction form nonempty read =>
    obtain ⟨i', read', rfl⟩ := h'.instruction_of_form form nonempty
    -- both instructions complete one plan, and what it awaits is no label
    obtain ⟨operands, plan, planned⟩ := exists_planned read
    have hsame : plan.complete (labels.shift d) operands = plan.complete labels operands :=
      Plan.complete_shift (fun k t hk ht => hnone t (.instruction form planned hk ht)) d
    rw [← planned.complete_eq, ← planned.complete_eq, read, read'] at hsame
    rw [Option.some.inj hsame]

/-- An entry is the word of its value. -/
theorem Emits.entry_eq (h : Emits labels address s bytes) {k : Nat} {t : Text}
    (ht : IsEntry s k t) {v : Int} (hv : resolve labels t = .ok v) :
    (bytes.drop (2 * k)).take 2 = wordBytes (wordOfInt v) := by
  obtain ⟨operands, form, hk⟩ := ht
  obtain ⟨values, resolved, rfl⟩ := h.values_of_words form
  exact entry_of_values (value_of_operand resolved hk hv)

/-- The value of the address is found in the low twelve bits. -/
theorem Emits.address_eq (h : Emits labels address s bytes) {operands : List Text} {k : Nat}
    {make : Address → Instruction} {t : Text} (form : Form.ofStatement s = .instruction)
    (planned : Planned s operands (.awaiting k (.address make))) (hk : operands[k]? = some t)
    {v : Int} (hv : resolve labels t = .ok v) :
    ∃ a : Address, (a.val : Int) = v ∧ bytes = wordBytes (make a).encode := by
  have hne : s ≠ [] := by
    rintro rfl
    obtain ⟨name, rest, m, hsplit, -⟩ := planned
    cases hsplit
  obtain ⟨i, read, rfl⟩ := h.instruction_of_form form hne
  have hmade := planned.complete_eq labels
  rw [read] at hmade
  obtain ⟨u, hu, hfill⟩ := Option.bind_eq_some_iff.mp hmade.symm
  cases hu.symm.trans hk
  obtain ⟨a, ha, rfl⟩ := Option.map_eq_some_iff.mp hfill
  cases haddress : Assembly.address labels t with
  | error p =>
    rw [haddress] at ha
    cases ha
  | ok b =>
    rw [haddress] at ha
    cases ha
    exact ⟨a, val_of_address hv haddress, rfl⟩

theorem Emits.relocates (h : Emits labels address line.statement bytes)
    (h' : Emits (labels.shift d) address' line.statement bytes')
    (hfree : (Form.ofStatement line.statement).isOrigin = false) :
    Relocates d labels line.statement bytes bytes' where
  length := by rw [h'.length_eq hfree, h.length_eq hfree]
  fixed := h.bytes_eq h' hfree
  entries := by
    intro k t ht hlabel
    obtain ⟨v, hv, hv'⟩ := exists_resolve_shift hlabel d
    refine ⟨_, _, h.entry_eq ht hv, h'.entry_eq ht hv', ?_⟩
    rw [wordOfInt_eq_iff.mp rfl, wordOfInt_eq_iff.mp rfl, Int.emod_add_emod]
  addresses := by
    rintro t ⟨operands, k, make, form, planned, hk⟩ hlabel
    obtain ⟨v, hv, hv'⟩ := exists_resolve_shift hlabel d
    obtain ⟨a, ha, hbytes⟩ := h.address_eq form planned hk hv
    obtain ⟨a', ha', hbytes'⟩ := h'.address_eq form planned hk hv'
    have ⟨_, _, m, _, _, _, hplan⟩ := planned
    obtain ⟨high, hcode⟩ := code_of_address hplan
    refine ⟨_, _, hbytes, hbytes', ?_⟩
    rw [Instruction.encode_toNat, Instruction.encode_toNat, hcode, hcode]
    omega

end Lines

/-! ## Programs -/

/-- The number of bytes that lines take, wherever they stand. -/
def roomOf : List SourceLine → Nat
  | [] => 0
  | line :: lines => line.room + roomOf lines

/-- The bytes of lines without an origin take the room of the lines. -/
theorem length_bytesOf {labels : Labels} {es : List Emission}
    (h : ∀ e ∈ es, Emits labels e.address e.line.statement e.bytes)
    (hfree : OriginFree (es.map Emission.line)) :
    (bytesOf es).length = roomOf (es.map Emission.line) := by
  induction es with
  | nil => rfl
  | cons e es ih =>
    obtain ⟨hfirst, hothers⟩ := List.forall_mem_cons.mp h
    obtain ⟨hline, hlines⟩ := List.forall_mem_cons.mp hfree
    rw [bytesOf_cons, List.length_append, hfirst.length_eq hline, ih hothers hlines]
    rfl

section Programs

variable {source : Text} {base d : Int} {a b : Assembled} {es es' : List Emission}

/-- The labels of a program are shifted with it. -/
theorem Account.labels_shift (h : Account source base a es)
    (h' : Account source (base + d) b es') (hfree : OriginFree (sourceLines source)) :
    b.labels = a.labels.shift d := by
  have hshift := layout_shift hfree base d
  rw [h.layout, h'.layout] at hshift
  exact congrArg Layout.labels (Except.ok.inj hshift)

/-- Lines of the same text have room for the same number of bytes. -/
theorem Account.length_eq (h : Account source base a es) (h' : Account source (base + d) b es')
    (hfree : OriginFree (sourceLines source)) {front after front' after' : List Emission}
    (hes : es = front ++ after) (hes' : es' = front' ++ after')
    (hlines : front'.map Emission.line = front.map Emission.line) :
    (bytesOf front').length = (bytesOf front).length := by
  have hfront : OriginFree (front.map Emission.line) := by
    intro line hline
    apply hfree
    rw [← h.lines, hes, List.map_append]
    exact List.mem_append_left _ hline
  have hemits : ∀ e ∈ front, Emits a.labels e.address e.line.statement e.bytes := fun e he =>
    h.emits e (hes ▸ List.mem_append_left _ he)
  have hemits' : ∀ e ∈ front', Emits b.labels e.address e.line.statement e.bytes := fun e he =>
    h'.emits e (hes' ▸ List.mem_append_left _ he)
  rw [length_bytesOf hemits hfront, length_bytesOf hemits' (hlines ▸ hfront), hlines]

/-- A line is found at the same offset in both images, and its bytes differ in the labels that are
looked up for them at most. -/
theorem Account.relocates (h : Account source base a es) (h' : Account source (base + d) b es')
    (hfree : OriginFree (sourceLines source)) {before : List Emission} {e : Emission}
    {after : List Emission} (hes : es = before ++ e :: after) :
    Relocates d a.labels e.line.statement (a.window (bytesOf before).length e.bytes.length)
      (b.window (bytesOf before).length e.bytes.length) := by
  -- the same line of the other run stands behind the same lines, and these take the same room
  have hlines : es'.map Emission.line =
      before.map Emission.line ++ e.line :: after.map Emission.line := by
    rw [h'.lines, ← h.lines, hes, List.map_append, List.map_cons]
  obtain ⟨before', others, hes', hbefore, hothers⟩ := List.map_eq_append_iff.mp hlines
  obtain ⟨e', after', rfl, he, -⟩ := List.map_eq_cons_iff.mp hothers
  have hoffset := h.length_eq h' hfree hes hes' hbefore
  have hmem : e ∈ es := hes ▸ List.mem_append_right _ List.mem_cons_self
  have hmem' : e' ∈ es' := hes' ▸ List.mem_append_right _ List.mem_cons_self
  have hline : (Form.ofStatement e.line.statement).isOrigin = false := by
    apply hfree
    rw [← h.lines]
    exact List.mem_map_of_mem hmem
  have hemits' := h'.emits e' hmem'
  rw [he, h.labels_shift h' hfree] at hemits'
  have hrelocates := (h.emits e hmem).relocates hemits' hline
  have hwindow' := h'.window_eq hes'
  rw [hrelocates.length, hoffset] at hwindow'
  rw [h.window_eq hes, hwindow']
  exact hrelocates

end Programs

/-- A program without an origin is placed at another address with all its addresses shifted, or
refused there for the same reason. If both are assembled, the images are equally long, and a line
is found at the same offset in both, with the bytes that are the same but for its labels. -/
theorem relocation_law {source : Text} (h : OriginFree (sourceLines source)) (base d : Int) :
    layout source (base + d) = (layout source base).map (Layout.shift d) ∧
      ∀ a b, assemble source base = .ok a → assemble source (base + d) = .ok b →
        b.image.length = a.image.length ∧
          ∃ es, Account source base a es ∧ ∀ before e after, es = before ++ e :: after →
            Relocates d a.labels e.line.statement
              (a.window (bytesOf before).length e.bytes.length)
              (b.window (bytesOf before).length e.bytes.length) := by
  refine ⟨layout_shift h base d, ?_⟩
  intro a b ha hb
  obtain ⟨_, hlayout, hemit⟩ := assemble_eq_ok ha
  obtain ⟨es, -, -, hes⟩ := account_of_passes hlayout hemit
  obtain ⟨_, hlayout', hemit'⟩ := assemble_eq_ok hb
  obtain ⟨es', -, -, hes'⟩ := account_of_passes hlayout' hemit'
  refine ⟨?_, es, hes, ?_⟩
  · rw [hes.image, hes'.image]
    apply hes.length_eq hes' h (List.append_nil es).symm (List.append_nil es').symm
    rw [hes.lines, hes'.lines]
  · intro before e after hsplit
    exact hes.relocates hes' h hsplit

/-- A program with labels in instructions, and as entries of a table, in front of their definition
and behind it. -/
def dispatch : Text :=
  "start: ld i, table\njp end\ntable: .dw start, 7, end\nend: se v1, 7".toList

theorem relocation_law_dispatch : OriginFree (sourceLines dispatch) ∧
    ∃ a b es, assemble dispatch 0x200 = .ok a ∧ assemble dispatch (0x200 + 0x100) = .ok b ∧
      a.image = [0xA2, 0x04, 0x12, 0x0A, 0x02, 0x00, 0, 7, 0x02, 0x0A, 0x31, 7] ∧
      b.image = [0xA3, 0x04, 0x13, 0x0A, 0x03, 0x00, 0, 7, 0x03, 0x0A, 0x31, 7] ∧
      Account dispatch 0x200 a es ∧ ∀ before e after, es = before ++ e :: after →
        Relocates 0x100 a.labels e.line.statement
          (a.window (bytesOf before).length e.bytes.length)
          (b.window (bytesOf before).length e.bytes.length) := by
  have hfree : OriginFree (sourceLines dispatch) := by
    unfold OriginFree
    decide
  have hrun : (assemble dispatch 0x200).toOption.map Assembled.image =
      some [0xA2, 0x04, 0x12, 0x0A, 0x02, 0x00, 0, 7, 0x02, 0x0A, 0x31, 7] := by
    decide +kernel
  have hrun' : (assemble dispatch (0x200 + 0x100)).toOption.map Assembled.image =
      some [0xA3, 0x04, 0x13, 0x0A, 0x03, 0x00, 0, 7, 0x03, 0x0A, 0x31, 7] := by
    decide +kernel
  obtain ⟨a, ha, himage⟩ := assemble_eq_ok_of_image hrun
  obtain ⟨b, hb, himage'⟩ := assemble_eq_ok_of_image hrun'
  obtain ⟨-, es, hes, hrelocates⟩ := (relocation_law hfree 0x200 0x100).2 a b ha hb
  exact ⟨hfree, a, b, es, ha, hb, himage, himage', hes, hrelocates⟩

end ChipEight.Assembly
