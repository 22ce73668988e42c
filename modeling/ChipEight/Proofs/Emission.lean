/-
# ChipEight.Proofs.Emission -- both passes agree on every byte

The layout fixes where each line stands before any byte is made, and the bytes are made line by line
without looking at the addresses again. `Emits` says what a statement at an address has to be made
into once all labels are known, and an `Emission` is a line with its address and its bytes.

`Run` puts the two passes side by side, one line at a time. Whatever is said about a whole program
follows from it by induction: the image is what the lines emit, each line stands behind the bytes of
the lines before it, and each statement is as long as the layout took it to be. `Account` collects
this for a program, and `account_of_assemble` says that it holds for every program that is
assembled. So the bytes of a line are found in the image at the distance of its address from the
first one (`Account.window_eq`).
-/
import ChipEight.Proofs.Passes

namespace ChipEight.Assembly

open Text

/-! ## What a statement stands for -/

/-- The bytes that a statement at an address stands for, given the labels. -/
inductive Emits (labels : Labels) (address : Int) : Text → List UInt8 → Prop where
  /-- No statement, no bytes. -/
  | nothing : Emits labels address [] []
  /-- An origin stands for zeros up to its target. -/
  | origin {text operand : Text} {target : Int} (form : Form.ofStatement text = .origin operand)
      (read : number operand = .ok target) (ahead : address ≤ target) :
      Emits labels address text (List.replicate (target - address).toNat 0)
  /-- Each operand is one byte. -/
  | bytes {text : Text} {operands : List Text} {values : List Int}
      (form : Form.ofStatement text = .bytes operands)
      (resolved : List.Forall₂ (fun operand value => resolve labels operand = .ok value)
        operands values) :
      Emits labels address text (values.map byteOfInt)
  /-- Each operand is one word, the high byte first. -/
  | words {text : Text} {operands : List Text} {values : List Int}
      (form : Form.ofStatement text = .words operands)
      (resolved : List.Forall₂ (fun operand value => resolve labels operand = .ok value)
        operands values) :
      Emits labels address text (values.flatMap fun value => wordBytes (wordOfInt value))
  /-- An instruction is the word that it is encoded as. -/
  | instruction {text : Text} {i : Instruction} (form : Form.ofStatement text = .instruction)
      (nonempty : text ≠ []) (read : instruction labels text = .ok i) :
      Emits labels address text (wordBytes i.encode)

section Reading

variable {labels : Labels} {address : Int} {text : Text} {bytes : List UInt8}

/-- Only a text with a statement is a directive. -/
theorem ne_nil_of_form {form : Form} (h : Form.ofStatement text = form)
    (hform : form ≠ .instruction) : text ≠ [] := by
  rintro rfl
  exact hform (h.symm.trans (by decide))

theorem Emits.eq_nil (h : Emits labels address [] bytes) : bytes = [] := by
  cases h with
  | nothing => rfl
  | origin form | bytes form | words form => exact absurd rfl (ne_nil_of_form form nofun)
  | instruction form nonempty => exact absurd rfl nonempty

theorem Emits.values_of_bytes (h : Emits labels address text bytes) {operands : List Text}
    (hform : Form.ofStatement text = .bytes operands) :
    ∃ values, List.Forall₂ (fun operand value => resolve labels operand = .ok value)
      operands values ∧ bytes = values.map byteOfInt := by
  cases h with
  | nothing => exact absurd rfl (ne_nil_of_form hform nofun)
  | bytes form resolved =>
    cases form.symm.trans hform
    exact ⟨_, resolved, rfl⟩
  | origin form | words form | instruction form => cases form.symm.trans hform

theorem Emits.values_of_words (h : Emits labels address text bytes) {operands : List Text}
    (hform : Form.ofStatement text = .words operands) :
    ∃ values, List.Forall₂ (fun operand value => resolve labels operand = .ok value)
      operands values ∧ bytes = values.flatMap fun value => wordBytes (wordOfInt value) := by
  cases h with
  | nothing => exact absurd rfl (ne_nil_of_form hform nofun)
  | words form resolved =>
    cases form.symm.trans hform
    exact ⟨_, resolved, rfl⟩
  | origin form | bytes form | instruction form => cases form.symm.trans hform

theorem Emits.instruction_of_form (h : Emits labels address text bytes)
    (hform : Form.ofStatement text = .instruction) (hne : text ≠ []) :
    ∃ i, Assembly.instruction labels text = .ok i ∧ bytes = wordBytes i.encode := by
  cases h with
  | nothing => exact absurd rfl hne
  | instruction form nonempty read => exact ⟨_, read, rfl⟩
  | origin form | bytes form | words form => cases form.symm.trans hform

/-- Words are two bytes each. -/
theorem length_words (values : List Int) :
    (values.flatMap fun value => wordBytes (wordOfInt value)).length = 2 * values.length := by
  rw [List.length_flatMap]
  simp [wordBytes, Nat.mul_comm]

end Reading

/-- Behind an origin the address is its target. -/
theorem Emits.reach_target {labels : Labels} {address target : Int} {text operand : Text}
    {bytes : List UInt8} (h : Emits labels address text bytes)
    (hform : Form.ofStatement text = .origin operand) (hread : number operand = .ok target) :
    address + bytes.length = target := by
  cases h with
  | nothing => exact absurd rfl (ne_nil_of_form hform nofun)
  | origin form read ahead =>
    rw [form] at hform
    cases hform
    rw [read] at hread
    cases hread
    rw [List.length_replicate]
    omega
  | bytes form | words form | instruction form =>
    rw [form] at hform
    cases hform

theorem zeros_eq_ok {count : Nat} {content : Content} (h : zeros count = .ok content) :
    content = .zeros count := by
  unfold zeros at h
  split at h
  · cases h
  · split at h
    · cases h
    · cases h
      rfl

/-- What a placed statement is made into is what it stands for, and as long as it was placed. -/
theorem emits_of_emit {labels : Labels} {line : Nat} {text : Text} {address : Int} {size : Nat}
    {content : Content} (hne : text ≠ [])
    (hsize : (Form.ofStatement text).size address = .ok size)
    (h : Placed.emit labels ⟨line, text, Form.ofStatement text, address, size⟩ = .ok content) :
    Emits labels address text content.toList ∧ content.size = size := by
  unfold Placed.emit at h
  cases hform : Form.ofStatement text with
  | origin operand =>
    simp only [hform, Form.size] at h hsize
    rw [mapError_eq_ok_iff] at h
    have hcontent := zeros_eq_ok h
    subst hcontent
    split at hsize
    · cases hsize
    · rename_i target hread
      split at hsize
      · cases hsize
      · rename_i hahead
        cases hsize
        exact ⟨.origin hform hread (by omega), rfl⟩
  | bytes operands =>
    simp only [hform, Form.size] at h hsize
    obtain ⟨values, hvalues, h⟩ := bind_eq_ok_iff.mp h
    have hresolved := forall₂_of_resolveAll (mapError_eq_ok_iff.mp hvalues)
    cases h
    cases hsize
    refine ⟨.bytes hform hresolved, ?_⟩
    show (values.map byteOfInt).length = operands.length
    rw [List.length_map, hresolved.length_eq]
  | words operands =>
    simp only [hform, Form.size] at h hsize
    obtain ⟨values, hvalues, h⟩ := bind_eq_ok_iff.mp h
    have hresolved := forall₂_of_resolveAll (mapError_eq_ok_iff.mp hvalues)
    cases h
    cases hsize
    refine ⟨.words hform hresolved, ?_⟩
    show (values.flatMap fun value => wordBytes (wordOfInt value)).length = 2 * operands.length
    rw [length_words, hresolved.length_eq]
  | instruction =>
    simp only [hform, Form.size] at h hsize
    obtain ⟨i, hi, h⟩ := bind_eq_ok_iff.mp h
    cases h
    cases hsize
    exact ⟨.instruction hform hne (mapError_eq_ok_iff.mp hi), rfl⟩

/-! ## Both passes, line by line -/

/-- A line with the address where it stands and the bytes that it adds to the image. -/
structure Emission where
  /-- The line. -/
  line : SourceLine
  /-- Where its bytes start. -/
  address : Int
  /-- Its bytes. -/
  bytes : List UInt8

/-- The bytes that lines add to the image. -/
def bytesOf (es : List Emission) : List UInt8 :=
  es.flatMap Emission.bytes

theorem bytesOf_cons (e : Emission) (es : List Emission) :
    bytesOf (e :: es) = e.bytes ++ bytesOf es :=
  List.flatMap_cons

/-- The labels that lines define. -/
def definitions (es : List Emission) : Labels :=
  es.flatMap fun e => e.line.label?.toList.map fun label => (label, e.address)

/-- Both passes over lines that start at an address, with the pieces that come out. -/
inductive Run (final : Labels) : Int → List Emission → List Piece → Prop where
  /-- No lines are left. -/
  | nil (address : Int) : Run final address [] []
  /-- A line without a statement adds nothing. -/
  | bare {address : Int} {line : SourceLine} {es : List Emission} {pieces : List Piece}
      (empty : line.statement = []) (others : Run final address es pieces) :
      Run final address (⟨line, address, []⟩ :: es) pieces
  /-- A statement adds the bytes that it is made into, and the others stand behind the place that
  the layout has left for them. -/
  | statement {address : Int} {line : SourceLine} {size : Nat} {content : Content}
      {es : List Emission} {pieces : List Piece} (nonempty : line.statement ≠ [])
      (sized : (Form.ofStatement line.statement).size address = .ok size)
      (emitted : Placed.emit final ⟨line.number, line.statement, Form.ofStatement line.statement,
        address, size⟩ = .ok content)
      (others : Run final (address + size) es pieces) :
      Run final address (⟨line, address, content.toList⟩ :: es)
        (⟨⟨line.number, line.statement, Form.ofStatement line.statement, address, size⟩, content⟩ ::
          pieces)

/-- Two passes that succeed one after the other are a run over the lines. -/
theorem run_of_passes {final labels : Labels} {address : Int} {lines : List SourceLine} {l : Layout}
    {pieces : List Piece} (hplace : place labels address lines = .ok l)
    (hemit : emitAll final l.statements = .ok pieces) :
    ∃ es, Run final address es pieces ∧ es.map Emission.line = lines ∧
      l.labels = labels ++ definitions es := by
  -- each line is placed with the labels and at the address that the lines before it have left
  induction lines generalizing labels address l pieces with
  | nil =>
    cases hplace
    cases hemit
    exact ⟨[], .nil address, rfl, (List.append_nil labels).symm⟩
  | cons line lines ih =>
    cases place_cons hplace with
    | bare defined empty others =>
      obtain ⟨es, hrun, hlines, hlabels⟩ := ih others hemit
      refine ⟨⟨line, address, []⟩ :: es, .bare empty hrun, by rw [List.map_cons, hlines], ?_⟩
      rw [hlabels, (defineAll_eq_ok defined).1, List.append_assoc]
      rfl
    | statement defined nonempty sized others first =>
      rw [first] at hemit
      obtain ⟨content, rest, hcontent, hrest, rfl⟩ := emitAll_cons hemit
      obtain ⟨es, hrun, hlines, hlabels⟩ := ih others hrest
      refine ⟨⟨line, address, content.toList⟩ :: es, .statement nonempty sized hcontent hrun,
        by rw [List.map_cons, hlines], ?_⟩
      have hlabels : l.labels = _ := hlabels
      rw [hlabels, (defineAll_eq_ok defined).1, List.append_assoc]
      rfl

namespace Run

variable {final : Labels} {address : Int} {es : List Emission} {pieces : List Piece}

/-- The image is what the lines add to it. -/
theorem image_eq (h : Run final address es pieces) :
    pieces.flatMap Piece.bytes = bytesOf es := by
  induction h with
  | nil address => rfl
  | bare empty others ih => exact ih
  | statement nonempty sized emitted others ih =>
    rw [List.flatMap_cons, ih]
    rfl

/-- Every line adds what its statement stands for where it stands. -/
theorem emits (h : Run final address es pieces) :
    ∀ e ∈ es, Emits final e.address e.line.statement e.bytes := by
  induction h with
  | nil address => simp
  | bare empty others ih =>
    rintro e (_ | ⟨_, he⟩)
    · rw [empty]
      exact .nothing
    · exact ih e he
  | statement nonempty sized emitted others ih =>
    rintro e (_ | ⟨_, he⟩)
    · exact (emits_of_emit nonempty sized emitted).1
    · exact ih e he

/-- Every statement is made into as many bytes as the layout has counted. -/
theorem reserved (h : Run final address es pieces) :
    ∀ p ∈ pieces, p.bytes.length = p.statement.size := by
  induction h with
  | nil address => simp
  | bare empty others ih => exact ih
  | statement nonempty sized emitted others ih =>
    rintro p (_ | ⟨_, hp⟩)
    · rw [Piece.bytes, Content.length_toList]
      exact (emits_of_emit nonempty sized emitted).2
    · exact ih p hp

/-- Every line stands behind the bytes of the lines before it. -/
theorem address_eq (h : Run final address es pieces) {before : List Emission} {e : Emission}
    {after : List Emission} (hes : es = before ++ e :: after) :
    e.address = address + (bytesOf before).length := by
  -- the first line stands at the address, any other one behind the bytes of the first
  induction h generalizing before with
  | nil address => simp at hes
  | bare empty others ih =>
    rcases before with _ | ⟨b, before⟩
    · cases hes
      exact (Int.add_zero _).symm
    · obtain ⟨rfl, htail⟩ := List.cons.inj hes
      rw [ih htail, bytesOf_cons, List.nil_append]
  | statement nonempty sized emitted others ih =>
    rcases before with _ | ⟨b, before⟩
    · cases hes
      exact (Int.add_zero _).symm
    · obtain ⟨rfl, htail⟩ := List.cons.inj hes
      rw [ih htail, bytesOf_cons, List.length_append, Content.length_toList,
        (emits_of_emit nonempty sized emitted).2, Int.natCast_add, Int.add_assoc]

end Run

/-! ## Labels -/

/-- No label is defined twice. -/
def Labels.Distinct (labels : Labels) : Prop :=
  (labels.map Prod.fst).Nodup

/-- With distinct labels, the value of a label is the one it was defined with. -/
theorem Labels.Distinct.lookup_eq_some_iff {labels : Labels} (h : Distinct labels) {label : Text}
    {value : Int} : labels.lookup label = some value ↔ (label, value) ∈ labels := by
  induction labels with
  | nil => simp
  | cons entry labels ih =>
    obtain ⟨name, v⟩ := entry
    have hd := List.nodup_cons.mp h
    rw [List.lookup_cons, List.mem_cons]
    by_cases hname : label = name
    · subst hname
      have hnot : (label, value) ∉ labels := by
        intro hmem
        exact hd.1 (List.mem_map.mpr ⟨_, hmem, rfl⟩)
      simp [hnot, eq_comm]
    · have hne : (label == name) = false := by simpa using hname
      rw [hne]
      simp only [Prod.mk.injEq, hname, false_and, false_or]
      exact ih hd.2

/-- What a line defines is added without a clash. -/
theorem Labels.Distinct.defineAll {labels labels' : Labels} (h : Distinct labels) {address : Int}
    {label? : Option Text} (hdefine : Assembly.defineAll labels address label? = .ok labels') :
    Distinct labels' := by
  obtain ⟨rfl, hnew⟩ := defineAll_eq_ok hdefine
  cases label? with
  | none => simpa using h
  | some label =>
    have hlabel := List.lookup_eq_none_iff.mp (hnew label rfl)
    unfold Distinct at h ⊢
    rw [List.map_append, List.nodup_append]
    refine ⟨h, by simp, ?_⟩
    rintro name hname _ hmem rfl
    obtain ⟨entry, hentry, rfl⟩ := List.mem_map.mp hname
    have hsame : entry.1 = label := by simpa using hmem
    have hne := hlabel entry hentry
    rw [hsame] at hne
    simp at hne

/-- A layout has distinct labels. -/
theorem distinct_of_layout {source : Text} {base : Int} {l : Layout}
    (h : layout source base = .ok l) : l.labels.Distinct :=
  labels_of_layout Labels.Distinct.defineAll List.nodup_nil h

/-! ## Programs -/

/-- What lines add to an assembled program, each at its place. -/
structure Account (source : Text) (base : Int) (a : Assembled) (es : List Emission) : Prop where
  /-- The lines are those of the source, in its order. -/
  lines : es.map Emission.line = sourceLines source
  /-- The image is what the lines add to it. -/
  image : a.image = bytesOf es
  /-- Every line stands behind the bytes of the lines before it. -/
  consecutive : ∀ before e after, es = before ++ e :: after →
    e.address = base + (bytesOf before).length
  /-- Every line adds what its statement stands for, all labels known. -/
  emits : ∀ e ∈ es, Emits a.labels e.address e.line.statement e.bytes
  /-- The statements are those of the layout, with the same labels. -/
  layout : layout source base = .ok ⟨a.labels, a.pieces.map Piece.statement⟩
  /-- Every statement is made into as many bytes as the layout has counted. -/
  reserved : ∀ p ∈ a.pieces, p.bytes.length = p.statement.size
  /-- A label stands behind the bytes of the lines before the one that defines it. -/
  labels : ∀ label value, a.labels.lookup label = some value ↔
    ∃ before e after, es = before ++ e :: after ∧ e.line.label? = some label ∧
      value = base + (bytesOf before).length
  /-- Behind an origin the image reaches up to its target. -/
  origins : ∀ before e after operand target, es = before ++ e :: after →
    Form.ofStatement e.line.statement = .origin operand → number operand = .ok target →
    ((bytesOf (before ++ [e])).length : Int) = target - base

/-- So many bytes of the image behind an offset. -/
def Assembled.window (a : Assembled) (offset count : Nat) : List UInt8 :=
  (a.image.drop offset).take count

/-- The bytes of a line are found in the image behind those of the lines before it. -/
theorem Account.window_eq {source : Text} {base : Int} {a : Assembled} {es : List Emission}
    (h : Account source base a es) {before : List Emission} {e : Emission} {after : List Emission}
    (hes : es = before ++ e :: after) :
    a.window (bytesOf before).length e.bytes.length = e.bytes := by
  have hsplit : bytesOf es = bytesOf before ++ (e.bytes ++ bytesOf after) := by
    rw [hes, bytesOf, List.flatMap_append, List.flatMap_cons]
    rfl
  rw [Assembled.window, h.image, hsplit, List.drop_left, List.take_left]

/-- Whatever has an image was assembled. -/
theorem assemble_eq_ok_of_image {source : Text} {base : Int} {image : List UInt8}
    (h : (assemble source base).toOption.map Assembled.image = some image) :
    ∃ a, assemble source base = .ok a ∧ a.image = image := by
  cases hrun : assemble source base with
  | error e =>
    rw [hrun] at h
    cases h
  | ok a =>
    rw [hrun] at h
    exact ⟨a, rfl, Option.some.inj h⟩

/-- The labels of lines stand with the addresses of these lines. -/
theorem mem_definitions {es : List Emission} {label : Text} {value : Int} :
    (label, value) ∈ definitions es ↔ ∃ e ∈ es, e.line.label? = some label ∧ e.address = value := by
  simp only [definitions, List.mem_flatMap, List.mem_map, Option.mem_toList, Prod.mk.injEq]
  constructor
  · rintro ⟨e, he, _, hlabel, rfl, rfl⟩
    exact ⟨e, he, hlabel, rfl⟩
  · rintro ⟨e, he, hlabel, rfl⟩
    exact ⟨e, he, label, hlabel, rfl, rfl⟩

theorem statements_of_emitAll {labels : Labels} {statements : List Placed} {pieces : List Piece}
    (h : emitAll labels statements = .ok pieces) : pieces.map Piece.statement = statements := by
  induction statements generalizing pieces with
  | nil =>
    cases h
    rfl
  | cons s ss ih =>
    obtain ⟨content, rest, -, hrest, rfl⟩ := emitAll_cons h
    rw [List.map_cons, ih hrest]

/-- What comes out of both passes is a run over the lines, and their account. -/
theorem account_of_passes {source : Text} {base : Int} {labels : Labels}
    {statements : List Placed} {pieces : List Piece}
    (hlayout : layout source base = .ok ⟨labels, statements⟩)
    (hemit : emitAll labels statements = .ok pieces) :
    ∃ es, Run labels base es pieces ∧ labels = definitions es ∧
      Account source base ⟨labels, pieces⟩ es := by
  have hdistinct : labels.Distinct := distinct_of_layout hlayout
  obtain ⟨es, hrun, hlines, hlabels⟩ := run_of_passes hlayout hemit
  have hlabels : labels = definitions es := hlabels
  refine ⟨es, hrun, hlabels, hlines, hrun.image_eq, ?_, hrun.emits, ?_, hrun.reserved, ?_, ?_⟩
  · intro before e after hes
    exact hrun.address_eq hes
  · rw [statements_of_emitAll hemit]
    exact hlayout
  · intro label value
    rw [hdistinct.lookup_eq_some_iff, hlabels, mem_definitions]
    constructor
    · rintro ⟨e, he, hlabel, rfl⟩
      obtain ⟨before, after, hes⟩ := List.append_of_mem he
      exact ⟨before, e, after, hes, hlabel, hrun.address_eq hes⟩
    · rintro ⟨before, e, after, hes, hlabel, rfl⟩
      exact ⟨e, by rw [hes]; simp, hlabel, hrun.address_eq hes⟩
  · intro before e after operand target hes hform hread
    have hemits := hrun.emits e (by rw [hes]; simp)
    have htarget := hemits.reach_target hform hread
    have haddress := hrun.address_eq hes
    have hlength : (bytesOf (before ++ [e])).length = (bytesOf before).length + e.bytes.length := by
      simp [bytesOf]
    rw [hlength]
    omega

/-- Every program that is assembled is the account of its lines. -/
theorem account_of_assemble {source : Text} {base : Int} {a : Assembled}
    (h : assemble source base = .ok a) : ∃ es, Account source base a es := by
  obtain ⟨statements, hlayout, hemit⟩ := assemble_eq_ok h
  obtain ⟨es, -, -, hes⟩ := account_of_passes hlayout hemit
  exact ⟨es, hes⟩

/-- A program with a label that is used before it is defined, behind an origin and at the end. -/
def forwardProgram : Text :=
  "jp end ; to the end\n.org 0x206\ntable: .DB 1, -1, table,\n.dw end, 70000\n\nend:".toList

/-- The account of a program whose labels are used before they are defined. -/
theorem account_of_forwardProgram : ∃ a es, assemble forwardProgram 0x200 = .ok a ∧
    a.image = [0x12, 0x0D, 0, 0, 0, 0, 1, 0xFF, 0x06, 0x02, 0x0D, 0x11, 0x70] ∧
    Account forwardProgram 0x200 a es := by
  have hrun : (assemble forwardProgram 0x200).toOption.map Assembled.image =
      some [0x12, 0x0D, 0, 0, 0, 0, 1, 0xFF, 0x06, 0x02, 0x0D, 0x11, 0x70] := by
    decide +kernel
  cases h : assemble forwardProgram 0x200 with
  | error e =>
    rw [h] at hrun
    cases hrun
  | ok a =>
    rw [h] at hrun
    obtain ⟨es, hes⟩ := account_of_assemble h
    exact ⟨a, es, rfl, Option.some.inj hrun, hes⟩

end ChipEight.Assembly
