/-
# ChipEight.Proofs.Phrases -- command lines made of phrases

A phrase is a part of a command line that means something by itself: the name of a program, a flag, or
a quantity with its number behind it. Such a line asks for what its phrases ask for, one after another
(`ofArguments_phrases`), if it names one program at most. Where they are about different parts of the
options, it asks for the same in any order (`ofArguments_perm`). Nothing is said about lines that are
written in other ways: with a setting cut short, a value attached, or a separator.

The number of a quantity is a text of its own that `Spells` the number. Every number in decimal digits
is such a text, with its sign (`spells_decimal`); a negative one starts with a dash and is no setting all
the same.
-/
import ChipEight.CommandLine.Options
import ChipEight.Proofs.Digits
import ChipEight.Proofs.Pieces
import Mathlib.Data.List.Basic

namespace ChipEight.CommandLine

open Text Numeral

/-! ## Phrases -/

/-- A text that is a number by itself on a command line. -/
structure Spells (text : Text) (n : Int) : Prop where
  plain : role text = .ok .plain
  number : read 10 text = .ok n

/-- The long spelling of a flag. -/
def Flag.spelling : Flag → Text
  | .help => "--help".toList
  | .headless => "--headless".toList
  | .monitor => "--monitor".toList
  | .trace => "--trace".toList
  | .noSound => "--no-sound".toList
  | .disasm => "--disasm".toList
  | .listing => "--listing".toList

/-- The spelling of a quantity. -/
def Quantity.spelling : Quantity → Text
  | .speed => "--speed".toList
  | .fps => "--fps".toList
  | .scale => "--scale".toList
  | .seed => "--seed".toList
  | .frames => "--frames".toList

/-- A part of a command line that means something by itself. -/
inductive Phrase where
  /-- The program to load. -/
  | program (name : Text)
  /-- A flag. -/
  | flag (flag : Flag)
  /-- A quantity, and a number written as a text. -/
  | quantity (quantity : Quantity) (n : Int) (text : Text)
  deriving DecidableEq, Repr

namespace Phrase

/-- The texts on the command line. -/
def texts : Phrase → List Text
  | .program name => [name]
  | .flag f => [f.spelling]
  | .quantity q _ text => [q.spelling, text]

/-- The texts with their roles. -/
def arguments : Phrase → List Argument
  | .program name => [⟨name, .plain⟩]
  | .flag f => [⟨f.spelling, .mention ⟨f.spelling, .flag f, none⟩⟩]
  | .quantity q _ text =>
    [⟨q.spelling, .mention ⟨q.spelling, .quantity q, none⟩⟩, ⟨text, .plain⟩]

/-- The phrase is understood: the name is not taken for a setting, the flag does not ask for help, and
the text is the number. -/
def IsClear : Phrase → Prop
  | .program name => role name = .ok .plain
  | .flag f => f ≠ .help
  | .quantity _ n text => Spells text n

/-- The phrase names a program. -/
def isProgram : Phrase → Bool
  | .program _ => true
  | _ => false

end Phrase

/-- Turns on what a flag asks for. Help is not turned on but given. -/
def Options.raise (o : Options) : Flag → Options
  | .help => o
  | .headless => { o with headless := true }
  | .monitor => { o with monitor := true }
  | .trace => { o with trace := true }
  | .noSound => { o with noSound := true }
  | .disasm => { o with disasm := true }
  | .listing => { o with listing := true }

/-- Does what a phrase asks for. -/
def Options.heed (o : Options) : Phrase → Options
  | .program name => { o with rom := some name }
  | .flag f => o.raise f
  | .quantity q n _ => o.setQuantity q (.number n)

/-! ## Roles -/

theorem role_flag (f : Flag) : role f.spelling = .ok (.mention ⟨f.spelling, .flag f, none⟩) := by
  cases f <;> rfl

theorem role_quantity (q : Quantity) :
    role q.spelling = .ok (.mention ⟨q.spelling, .quantity q, none⟩) := by
  cases q <;> rfl

theorem ne_separator_of_plain {text : Text} (h : role text = .ok .plain) : text ≠ separator := by
  rintro rfl
  cases h

/-- Arguments without a separator have the roles that they have by themselves. -/
theorem ofTexts_map_text {arguments : List Argument}
    (h : ∀ a ∈ arguments, role a.text = .ok a.role ∧ a.role ≠ .separator) :
    Argument.ofTexts (arguments.map Argument.text) = .ok arguments := by
  induction arguments with
  | nil => rfl
  | cons a arguments ih =>
    obtain ⟨⟨hrole, hne⟩, hrest⟩ := List.forall_mem_cons.mp h
    simp only [List.map_cons, Argument.ofTexts, hrole, ih hrest]
    show (if a.role = .separator then _ else _) = _
    rw [if_neg hne]
    rfl

theorem Phrase.IsClear.roles {phrase : Phrase} (h : phrase.IsClear) :
    ∀ a ∈ phrase.arguments, role a.text = .ok a.role ∧ a.role ≠ .separator := by
  cases phrase with
  | program name =>
    have hplain : role name = .ok .plain := h
    simp [arguments, hplain]
  | flag f => simp [arguments, role_flag]
  | quantity q n text => simp [arguments, role_quantity, h.plain]

theorem Phrase.texts_eq (phrase : Phrase) : phrase.texts = phrase.arguments.map Argument.text := by
  cases phrase <;> rfl

theorem ofTexts_phrases {phrases : List Phrase} (h : ∀ phrase ∈ phrases, phrase.IsClear) :
    Argument.ofTexts (phrases.flatMap Phrase.texts) = .ok (phrases.flatMap Phrase.arguments) := by
  have htexts : phrases.flatMap Phrase.texts =
      (phrases.flatMap Phrase.arguments).map Argument.text := by
    rw [List.map_flatMap]
    exact List.flatMap_congr fun phrase _ => phrase.texts_eq
  rw [htexts]
  refine ofTexts_map_text fun a ha => ?_
  obtain ⟨phrase, hphrase, ha⟩ := List.mem_flatMap.mp ha
  exact (h phrase hphrase).roles a ha

/-! ## Reading the line -/

namespace Options.Progress

variable {p : Progress} {rest : List Argument}

theorem follow_flag {f : Flag} (hf : f ≠ .help) (o : Options) (spelling : Text)
    (behind : List Argument) :
    o.follow ⟨spelling, .flag f, none⟩ behind = .ok ⟨o.raise f, 0⟩ := by
  cases f <;> first | rfl | exact absurd rfl hf

theorem follow_quantity {text : Text} {n : Int} (h : Spells text n) (q : Quantity) (o : Options)
    (spelling : Text) (behind : List Argument) :
    o.follow ⟨spelling, .quantity q, none⟩ (⟨text, .plain⟩ :: behind) =
      .ok ⟨o.setQuantity q (.number n), 1⟩ := by
  have hread : o.readQuantity q text = .ok (o.setQuantity q (.number n)) := by
    simp only [readQuantity, if_neg (ne_separator_of_plain h.plain), h.number]
  show (do let o ← o.readQuantity q text; .ok (⟨o, 1⟩ : Followed)) = _
  rw [hread]
  rfl

theorem consume_mention {m : Mention} {f : Followed} (text : Text)
    (h : p.options.follow m rest = .ok f) :
    p.consume (⟨text, .mention m⟩ :: rest) =
      { p with options := f.options }.consume (rest.drop f.used) := by
  have hmarked : (⟨text, .mention m⟩ :: rest).any Argument.isMarked = true := rfl
  rw [consume, if_neg (by simp [hmarked])]
  dsimp only
  rw [h]

/-- A plain argument in front of a setting is the program, if there was none. -/
theorem consume_plain (h : rest.any Argument.isMarked = true) (text : Text) :
    p.consume (⟨text, .plain⟩ :: rest) = (p.takePlain text).consume rest := by
  have hmarked : (⟨text, .plain⟩ :: rest).any Argument.isMarked = true := h
  rw [consume, if_neg (by simp [hmarked])]

/-- A plain argument behind the last setting is the program, if there was none. -/
theorem consume_last {name : Text} (hname : name ≠ separator) (hp : p.romTaken = false) :
    p.consume [⟨name, .plain⟩] =
      .ok { p with options := { p.options with rom := some name }, romTaken := true } := by
  have hpart : Progress.romPart [⟨name, .plain⟩] = ([⟨name, .plain⟩], []) := rfl
  have herase : [name].erase separator = [name] := List.erase_of_not_mem (by simpa using hname.symm)
  rw [consume, if_pos (by rfl)]
  simp only [finish, hp, hpart, Bool.false_eq_true, if_false, List.map_cons, List.map_nil, herase,
    List.head?_cons, List.append_nil]

theorem consume_nil (hrom : p.romTaken = false → p.options.rom = none) :
    p.consume [] = .ok { p with romTaken := true } := by
  have hpart : Progress.romPart [] = ([], []) := rfl
  rw [consume, if_pos (by rfl)]
  unfold finish
  cases hp : p.romTaken with
  | true => simp [← hp]
  | false =>
    have hsame : { p.options with rom := none } = p.options := by rw [← hrom hp]
    simp only [hpart, Bool.false_eq_true, if_false, List.map_nil, List.erase_nil, List.head?_nil,
      List.append_nil, hsame]

/-- Phrases that are clear are heeded in order, and leave no argument that means nothing. The program
may be taken once. -/
theorem consume_phrases {phrases : List Phrase} (hclear : ∀ phrase ∈ phrases, phrase.IsClear)
    (hrom : p.romTaken = false → p.options.rom = none)
    (hone : phrases.countP Phrase.isProgram + p.romTaken.toNat ≤ 1) :
    p.consume (phrases.flatMap Phrase.arguments) =
      .ok { p with options := phrases.foldl Options.heed p.options, romTaken := true } := by
  induction phrases generalizing p with
  | nil => exact consume_nil hrom
  | cons phrase phrases ih =>
    obtain ⟨hphrase, hrest⟩ := List.forall_mem_cons.mp hclear
    cases phrase with
    | flag f =>
      have hfollow := follow_flag hphrase p.options f.spelling (phrases.flatMap Phrase.arguments)
      refine (consume_mention f.spelling hfollow).trans ?_
      refine ih hrest (fun hp => ?_) (by simpa [Phrase.isProgram] using hone)
      rw [← hrom hp]
      cases f <;> rfl
    | quantity q n text =>
      have hfollow :=
        follow_quantity hphrase q p.options q.spelling (phrases.flatMap Phrase.arguments)
      refine (consume_mention q.spelling hfollow).trans ?_
      refine ih hrest (fun hp => ?_) (by simpa [Phrase.isProgram] using hone)
      rw [← hrom hp]
      cases q <;> rfl
    | program name =>
      have hp : p.romTaken = false := by
        cases hp : p.romTaken with
        | false => rfl
        | true => simp [Phrase.isProgram, hp] at hone
      have hnone : phrases.countP Phrase.isProgram = 0 := by
        rw [List.countP_cons_of_pos rfl] at hone
        omega
      have htaken : p.takePlain name =
          { p with options := p.options.heed (.program name), romTaken := true } := by
        unfold takePlain
        rw [if_neg (by simp [hp])]
        rfl
      -- behind the name comes nothing, or a setting
      cases phrases with
      | nil => exact consume_last (ne_separator_of_plain hphrase) hp
      | cons phrase phrases =>
        have hmarked :
            ((phrase :: phrases).flatMap Phrase.arguments).any Argument.isMarked = true := by
          cases phrase with
          | program => simp [Phrase.isProgram] at hnone
          | flag | quantity => rfl
        refine (consume_plain hmarked name).trans ?_
        rw [htaken]
        exact ih hrest nofun (by simp [hnone])

end Options.Progress

/-- A line of phrases asks for what its phrases ask for, one after another. -/
theorem ofArguments_phrases {scaleVariable : Option Text} {scale : Int} {phrases : List Phrase}
    (hscale : Options.defaultScale scaleVariable = .ok scale)
    (hclear : ∀ phrase ∈ phrases, phrase.IsClear) (hone : phrases.countP Phrase.isProgram ≤ 1) :
    Options.ofArguments scaleVariable (phrases.flatMap Phrase.texts) =
      .ok (phrases.foldl Options.heed (.plain scale)) := by
  have hconsume := Options.Progress.consume_phrases (p := ⟨.plain scale, false, []⟩) hclear
    (fun _ => rfl) hone
  unfold Options.ofArguments
  rw [hscale, ofTexts_phrases hclear]
  show (do let p ← Options.Progress.consume ⟨.plain scale, false, []⟩ _; _) = _
  rw [hconsume]
  rfl

/-- If phrases are about different parts of the options, their order on the line does not matter. -/
theorem ofArguments_perm {scaleVariable : Option Text} {scale : Int} {phrases listed : List Phrase}
    (hscale : Options.defaultScale scaleVariable = .ok scale)
    (hclear : ∀ phrase ∈ listed, phrase.IsClear) (hone : listed.countP Phrase.isProgram ≤ 1)
    (hcomm : ∀ a ∈ listed, ∀ b ∈ listed, ∀ o : Options, (o.heed a).heed b = (o.heed b).heed a)
    (h : phrases.Perm listed) :
    Options.ofArguments scaleVariable (phrases.flatMap Phrase.texts) =
      .ok (listed.foldl Options.heed (.plain scale)) := by
  rw [ofArguments_phrases hscale (fun phrase hp => hclear phrase (h.mem_iff.mp hp))
    (by rwa [h.countP_eq]), ← h.symm.foldl_eq' hcomm]

/-! ## Numbers in decimal digits -/

/-- What holds of the ten digits holds of each digit of a number. -/
theorem forall_mem_toDigits {P : Char → Prop} (h : ∀ d < 10, P d.digitChar) (n : Nat) :
    ∀ c ∈ Nat.toDigits 10 n, P c := by
  intro c hc
  obtain ⟨d, hd, rfl⟩ := exists_of_mem_toDigits (by decide) hc
  exact h d hd

theorem front_ten (s : Text) : front 10 s = ⟨10, false, s⟩ := by
  unfold front
  split <;> simp

/-- What is written in decimal digits is read again, if there are not too many. -/
theorem read_decimal {n : Int} (h : (Nat.toDigits 10 n.natAbs).length ≤ digitLimit) :
    read 10 (decimal n) = .ok n :=
  read_toDigits (signFor_sign n) (front_ten _) h

/-- No setting has a digit behind its first dash. -/
theorem second_of_spelling : ∀ entry ∈ spellings, isDigitOf 10 (entry.1.getD 1 ' ') = false := by
  decide

theorem ne_of_mem_spellings {entry : Text × Setting} (h : entry ∈ spellings) {c : Char}
    (hc : isDigitOf 10 c = true) (cs : Text) : '-' :: c :: cs ≠ entry.1 := by
  intro he
  have hsecond := second_of_spelling entry h
  rw [← he] at hsecond
  exact Bool.false_ne_true (hsecond.symm.trans hc)

/-- Digits behind a dash name no setting, in full or cut short, and with nothing attached. -/
theorem exactMention?_of_digits {c : Char} {cs : Text}
    (h : ∀ d ∈ c :: cs, isDigitOf 10 d = true) : exactMention? ('-' :: c :: cs) = none := by
  have hlookup : spellings.lookup ('-' :: c :: cs) = none := by
    rw [List.lookup_eq_none_iff]
    intro entry hentry
    simpa using ne_of_mem_spellings hentry (h c List.mem_cons_self) cs
  have hcut : cut '=' ('-' :: c :: cs) = ('-' :: c :: cs, none) := by
    refine cut_of_not_mem fun hmem => ?_
    rcases List.mem_cons.mp hmem with he | hmem
    · cases he
    · cases h _ hmem
  simp only [exactMention?, hlookup, hcut]

theorem looseMentions_of_digit {c : Char} (hc : isDigitOf 10 c = true) (cs : Text) :
    looseMentions ('-' :: c :: cs) = [] := by
  have hdash : '-' ≠ c := by
    rintro rfl
    cases hc
  unfold looseMentions
  rw [if_neg (by simp [separator, List.isPrefixOf, hdash]), List.filterMap_eq_nil_iff]
  intro entry hentry
  dsimp only
  rw [if_neg, if_neg]
  · intro hprefix
    obtain ⟨t, ht⟩ := List.isPrefixOf_iff_prefix.mp hprefix
    exact ne_of_mem_spellings hentry hc (cs ++ t) ht
  · exact (ne_of_mem_spellings hentry hc []).symm

theorem isNegativeNumber_of_digits {c : Char} {cs : Text}
    (h : ∀ d ∈ c :: cs, isDigit d = true ∧ d ≠ '\n') : isNegativeNumber ('-' :: c :: cs) = true := by
  have hlast : (c :: cs).getLast? ≠ some '\n' := fun he => (h _ (List.mem_of_getLast? he)).2 rfl
  have hdrop : (c :: cs).dropWhile isDigit = [] :=
    List.dropWhile_eq_nil_iff.mpr fun d hd => (h d hd).1
  simp only [isNegativeNumber, if_neg hlast, hdrop]
  rfl

theorem role_negative {c : Char} {cs : Text}
    (h : ∀ d ∈ c :: cs, isDigitOf 10 d = true ∧ isDigit d = true ∧ d ≠ '\n') :
    role ('-' :: c :: cs) = .ok .plain := by
  have hc := (h c List.mem_cons_self).1
  have hseparator : '-' :: c :: cs ≠ separator := by
    intro he
    cases he
    cases hc
  unfold role
  rw [if_neg hseparator, if_neg (by simp), exactMention?_of_digits fun d hd => (h d hd).1]
  dsimp only
  rw [if_neg (by simp), looseMentions_of_digit hc]
  dsimp only
  rw [isNegativeNumber_of_digits fun d hd => (h d hd).2]
  rfl

theorem role_of_head {text : Text} (h : text.head? ≠ some '-') : role text = .ok .plain := by
  have hseparator : text ≠ separator := by
    rintro rfl
    exact h rfl
  unfold role
  rw [if_neg hseparator, if_pos h]

theorem role_decimal (n : Int) : role (decimal n) = .ok .plain := by
  have hall : ∀ c ∈ Nat.toDigits 10 n.natAbs,
      c ≠ '-' ∧ isDigitOf 10 c = true ∧ isDigit c = true ∧ c ≠ '\n' :=
    forall_mem_toDigits (by decide) _
  obtain ⟨c, cs, hdigits⟩ :=
    List.exists_cons_of_ne_nil (Nat.toDigits_ne_nil (b := 10) (n := n.natAbs))
  rw [hdigits] at hall
  rw [decimal, hdigits, sign]
  split
  · exact role_negative fun d hd => (hall d hd).2
  · refine role_of_head ?_
    simpa using (hall c List.mem_cons_self).1

/-- Decimal digits, and a minus sign if it is needed, are a number by themselves. -/
theorem spells_decimal {n : Int} (h : (Nat.toDigits 10 n.natAbs).length ≤ digitLimit) :
    Spells (decimal n) n :=
  ⟨role_decimal n, read_decimal h⟩

end ChipEight.CommandLine
