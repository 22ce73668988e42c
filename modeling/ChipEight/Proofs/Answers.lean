/-
# ChipEight.Proofs.Answers -- what the monitor makes of every line

A line ends a session in two ways. `quit` and the end of the input leave it. And there are lines that
break it off; `Ends` lists them, and they are fewer than a reader of the commands would think: the
commands that run the console can be refused for no reason but a fault or an earlier one, which they
report, because every console that is reached keeps a screen with pixels and a speed that is a number
(`Monitor.Invariant`). What is left is about the argument alone, before the console is touched, or about
a count that cannot be printed.

`Malformed` lists the lines that cannot be understood, or that name a file that cannot be loaded. None
of them touches the console. Most are answered with a message; those that `Ends` lists are not.
-/
import ChipEight.Monitor.Session
import ChipEight.Proofs.Ranges

namespace ChipEight.Monitor

open Text Numeral Console

/-! ## Consoles that come to the monitor -/

/-- Consoles reached by operations, by turning tracing on and off, and by lines for the monitor. -/
inductive Reached (start : Console) : Console → Prop where
  | start : Reached start start
  | operation {c : Console} (op : Operation) : Reached start c → Reached start (c.perform op).1
  | traced {c : Console} (on : Bool) : Reached start c → Reached start (c.traced on)
  | line {c : Console} (d : Directory) (line : Text) :
      Reached start c → Reached start (answer d c line).console

theorem console_stepReply (c : Console) (count : Int) :
    (stepReply c count).console = (stepMany count.toNat c).console.withoutRecord := by
  unfold stepReply
  dsimp only
  split <;> rfl

theorem console_runReply (c : Console) (count : Int) :
    (runReply c count).console = (runFrames count.toNat c).1.withoutRecord := by
  unfold runReply
  dsimp only
  repeat' split
  all_goals rfl

/-- What every operation keeps, and also the start and the end of a record. -/
structure Invariant (P : Console → Prop) (Q : Stop → Prop) : Prop
    extends Console.Invariant P Q where
  traced {c : Console} (on : Bool) : P c → P (c.traced on)

namespace Invariant

variable {P : Console → Prop} {Q : Stop → Prop} {c : Console} (h : Invariant P Q)
include h

theorem loadFile (hc : P c) {d : Directory} {name : Text} {loaded : Console}
    (hl : c.loadFile d name = .ok loaded) : P loaded := by
  unfold Console.loadFile at hl
  split at hl
  · cases hl
  · split at hl <;> cases hl
    rename_i hrom
    exact h.loadRom hc hrom

theorem stepMany (hc : P c) (n : Nat) :
    P (stepMany n c).console ∧
      ∀ reason, (Monitor.stepMany n c).ending = .refused reason → Q reason := by
  induction n generalizing c with
  | zero => exact ⟨hc, nofun⟩
  | succ n ih =>
    unfold Monitor.stepMany
    have hs := h.step hc
    match hx : c.step with
    | (d, .ok true) =>
      rw [hx] at hs
      exact ih hs.1
    | (d, .ok false) =>
      rw [hx] at hs
      exact ⟨hs.1, nofun⟩
    | (d, .error e) =>
      rw [hx] at hs
      refine ⟨hs.1, ?_⟩
      rintro _ ⟨⟩
      exact hs.2 e rfl

/-- What a line leaves behind is reached by what the line asks for, and by a new record. -/
theorem answer (hc : P c) (d : Directory) (line : Text) : P (answer d c line).console := by
  unfold Monitor.answer
  cases Request.ofLine line with
  | nothing | unknown => exact hc
  | command command argument =>
    cases command with
    | endOfInput | quit | help | regs | status | screen => exact hc
    | load =>
      simp only [obey, loadReply]
      split
      · exact hc
      · exact hc
      · split
        · exact hc
        · rename_i loaded hl
          exact h.loadFile hc hl
    | reset => exact h.reset hc
    | step =>
      simp only [obey]
      split
      · rw [console_stepReply]
        exact h.traced _ (h.stepMany hc _).1
      · exact hc
    | run =>
      simp only [obey]
      split
      · rw [console_runReply]
        exact h.traced _ (h.runFrames hc _).1
      · exact hc
    | dump =>
      simp only [obey, dumpReply]
      repeat' split
      all_goals exact hc
    | disasm =>
      simp only [obey, disasmReply]
      split <;> exact hc
    | press =>
      simp only [obey, keyReply]
      split
      · exact h.press _ hc
      · exact hc
    | release =>
      simp only [obey, keyReply]
      split
      · exact h.release _ hc
      · exact hc
    | trace =>
      simp only [obey, traceReply]
      split <;> exact h.traced _ hc

theorem reached {start : Console} (hs : P start) (hr : Reached start c) : P c := by
  induction hr with
  | start => exact hs
  | operation op _ ih => exact (h.perform ih op).1
  | traced on _ ih => exact h.traced on ih
  | line d line _ ih => exact h.answer ih d line

end Invariant

theorem wellFormed_invariant {width height : Nat} (hw : 0 < width) (hh : 0 < height) :
    Invariant (WellFormed width height) (·.isFaultOrHalt = true) where
  toInvariant := Console.wellFormed_invariant hw hh
  traced _ h := ⟨h.machine, h.width, h.height, h.speed⟩

/-! ## Lines that end a session -/

/-- The lines that end a session, and how: two commands leave it, and it is broken off by an open
quotation behind `load`, by a count behind `step` or `run` that is no number, and by a count of frames
that have run but that is too long to be printed. -/
inductive Ends (c : Console) : Request → Standing → Prop where
  | quit {argument : Text} : Ends c (.command .quit argument) .left
  | endOfInput {argument : Text} : Ends c (.command .endOfInput argument) .left
  | quotation {argument : Text} {e : ShellError} (h : shellWords argument = .error e) :
      Ends c (.command .load argument) (.broken (.words e))
  | steps {argument : Text} {e : NumeralError} (h : countOr 1 argument = .error e) :
      Ends c (.command .step argument) (.broken (.number e))
  | frames {argument : Text} {e : NumeralError} (h : countOr 60 argument = .error e) :
      Ends c (.command .run argument) (.broken (.number e))
  | longCount {argument : Text} {n : Int} {d : Console} {e : NumeralError}
      (hn : countOr 60 argument = .ok n) (hrun : runFrames n.toNat c = (d, .ok ()))
      (he : written n = .error e) : Ends c (.command .run argument) (.broken (.number e))

/-- The lines that cannot be understood, or that name a file that cannot be loaded. -/
inductive Malformed (d : Directory) (c : Console) : Request → Prop where
  | word {word : Text} : Malformed d c (.unknown word)
  | quotation {argument : Text} {e : ShellError} (h : shellWords argument = .error e) :
      Malformed d c (.command .load argument)
  | noFile {argument : Text} (h : shellWords argument = .ok []) :
      Malformed d c (.command .load argument)
  | file {argument name : Text} {rest : List Text} {e : LoadError}
      (h : shellWords argument = .ok (name :: rest)) (he : c.loadFile d name = .error e) :
      Malformed d c (.command .load argument)
  | count {command : Command} {argument : Text} {e : NumeralError}
      (hc : command = .step ∨ command = .run) (hne : argument ≠ [])
      (h : read 0 argument = .error e) : Malformed d c (.command command argument)
  | noAddress {argument : Text} (h : words argument = []) :
      Malformed d c (.command .dump argument)
  | address {command : Command} {argument first : Text} {rest : List Text} {e : NumeralError}
      (hc : command = .dump ∨ command = .disasm) (h : words argument = first :: rest)
      (he : address c first = .error e) : Malformed d c (.command command argument)
  | length {command : Command} {argument first second : Text} {rest : List Text}
      {e : NumeralError} (hc : command = .dump ∨ command = .disasm)
      (h : words argument = first :: second :: rest) (he : read 0 second = .error e) :
      Malformed d c (.command command argument)
  | key {command : Command} {argument : Text} {e : NumeralError}
      (hc : command = .press ∨ command = .release) (h : read 16 argument = .error e) :
      Malformed d c (.command command argument)

/-! ## How the session stands -/

/-- What is printed behind the instructions when stepping comes to its end. -/
def Stepped.closing (s : Stepped) : List Text :=
  match s.ending with
  | .done => []
  | .waiting => ["CPU is waiting for a key ('press <k>').".toList]
  | .refused .halted => ["CPU is halted: ".toList ++ haltedBy s.console]
  | .refused reason => ["Fault: ".toList ++ reason.message]

/-- Steps are always answered if nothing refuses them but a fault or an earlier one. -/
theorem stepReply_eq {c : Console} (count : Int)
    (h : ∀ reason, (stepMany count.toNat c).ending = .refused reason →
      reason.isFaultOrHalt = true) :
    let s := stepMany count.toNat c
    stepReply c count = say s.console.withoutRecord
      ((if c.tracing then s.console.recordLines else s.completed.map Fetch.line) ++ s.closing) := by
  unfold stepReply Stepped.closing
  dsimp only
  split
  · rename_i hending
    rw [hending, List.append_nil]
  · rename_i hending
    rw [hending]
  · rename_i hending
    rw [hending]
    rfl
  · rename_i f hending
    rw [hending]
    rfl
  · rename_i reason hnotHalted hnotFault hending
    have hreason := h reason hending
    cases reason with
    | fault f => exact absurd rfl (hnotFault f)
    | halted => exact absurd rfl hnotHalted
    | noPixels | notAByte | notANumber => cases hreason

theorem standing_stepReply {c : Console} (count : Int)
    (h : ∀ reason, (stepMany count.toNat c).ending = .refused reason →
      reason.isFaultOrHalt = true) :
    (stepReply c count).standing = .ongoing := by
  rw [stepReply_eq count h]
  rfl

/-- Frames break a session off if they have run and their number cannot be printed, and otherwise the
session goes on. -/
theorem standing_runReply {c : Console} (count : Int)
    (h : ∀ reason, (runFrames count.toNat c).2 = .error reason → reason.isFaultOrHalt = true) :
    (runReply c count).standing = .ongoing ∧
        (∀ d e, runFrames count.toNat c = (d, .ok ()) → written count ≠ .error e) ∨
      ∃ d e, (runReply c count).standing = .broken (.number e) ∧
        runFrames count.toNat c = (d, .ok ()) ∧ written count = .error e := by
  unfold runReply
  match hx : runFrames count.toNat c with
  | (d, .error reason) =>
    dsimp only
    rw [if_pos (h reason (congrArg Prod.snd hx))]
    refine .inl ⟨rfl, ?_⟩
    intro _ _ hrun
    cases congrArg Prod.snd hrun
  | (d, .ok ()) =>
    dsimp only
    cases hw : written count with
    | ok digits =>
      refine .inl ⟨rfl, ?_⟩
      rintro _ e - hwritten
      cases hwritten
    | error e => exact .inr ⟨d, e, rfl, rfl, rfl⟩

/-- A session that goes on does not end in any way. -/
theorem standing_iff_of_ongoing {reply : Reply} {ends : Standing → Prop} {s : Standing}
    (hs : s ≠ .ongoing) (h : reply.standing = .ongoing) (hno : ¬ ends s) :
    reply.standing = s ↔ ends s :=
  ⟨fun he => absurd (he.symm.trans h) hs, fun he => absurd he hno⟩

/-- A session ends in one way only. -/
theorem Ends.unique {c : Console} {request : Request} {s t : Standing} (hs : Ends c request s)
    (ht : Ends c request t) : s = t := by
  cases hs with
  | quit | endOfInput =>
    cases ht
    rfl
  | quotation h =>
    cases ht with
    | quotation h' =>
      cases h.symm.trans h'
      rfl
  | steps h =>
    cases ht with
    | steps h' =>
      cases h.symm.trans h'
      rfl
  | frames h =>
    cases ht with
    | frames h' =>
      cases h.symm.trans h'
      rfl
    | longCount hn => cases h.symm.trans hn
  | longCount hn _ he =>
    cases ht with
    | frames h => cases hn.symm.trans h
    | longCount hn' _ he' =>
      cases hn.symm.trans hn'
      cases he.symm.trans he'
      rfl

theorem standing_iff_of_ends {c : Console} {request : Request} {reply : Reply} {s t : Standing}
    (h : reply.standing = t) (ht : Ends c request t) :
    reply.standing = s ↔ Ends c request s := by
  constructor
  · rintro rfl
    exact h ▸ ht
  · intro hs
    rw [h]
    exact ht.unique hs

theorem standing_obey {c : Console}
    (hstep : ∀ n reason, (stepMany n c).ending = .refused reason → reason.isFaultOrHalt = true)
    (hrun : ∀ n reason, (runFrames n c).2 = .error reason → reason.isFaultOrHalt = true)
    (d : Directory) (command : Command) (argument : Text) {s : Standing} (hs : s ≠ .ongoing) :
    (obey d c command argument).standing = s ↔ Ends c (.command command argument) s := by
  cases command with
  | endOfInput => exact standing_iff_of_ends rfl .endOfInput
  | quit => exact standing_iff_of_ends rfl .quit
  | load =>
    simp only [obey, loadReply]
    split
    · rename_i h
      exact standing_iff_of_ends rfl (.quotation h)
    · rename_i h
      exact standing_iff_of_ongoing hs rfl fun | .quotation h' => by cases h.symm.trans h'
    · rename_i h
      refine standing_iff_of_ongoing hs ?_ fun | .quotation h' => by cases h.symm.trans h'
      split <;> rfl
  | step =>
    simp only [obey]
    split
    · rename_i n hn
      exact standing_iff_of_ongoing hs (standing_stepReply n (hstep _))
        fun | .steps h => by cases hn.symm.trans h
    · rename_i h
      exact standing_iff_of_ends rfl (.steps h)
  | run =>
    simp only [obey]
    split
    · rename_i n hn
      obtain ⟨hongoing, hno⟩ | ⟨d, e, hbroken, hran, he⟩ := standing_runReply n (hrun _)
      · refine standing_iff_of_ongoing hs hongoing ?_
        intro hends
        cases hends with
        | frames h => cases hn.symm.trans h
        | longCount hn' hran he =>
          cases hn.symm.trans hn'
          exact hno _ _ hran he
      · exact standing_iff_of_ends hbroken (.longCount hn hran he)
    · rename_i h
      exact standing_iff_of_ends rfl (.frames h)
  | dump =>
    refine standing_iff_of_ongoing hs ?_ nofun
    simp only [obey, dumpReply]
    repeat' split
    all_goals rfl
  | disasm =>
    refine standing_iff_of_ongoing hs ?_ nofun
    simp only [obey, disasmReply]
    split <;> rfl
  | press | release =>
    refine standing_iff_of_ongoing hs ?_ nofun
    simp only [obey, keyReply]
    split <;> rfl
  | trace =>
    refine standing_iff_of_ongoing hs ?_ nofun
    simp only [obey, traceReply]
    split <;> rfl
  | help | regs | status | screen | reset => exact standing_iff_of_ongoing hs rfl nofun

theorem standing_answer {c : Console}
    (hstep : ∀ n reason, (stepMany n c).ending = .refused reason → reason.isFaultOrHalt = true)
    (hrun : ∀ n reason, (runFrames n c).2 = .error reason → reason.isFaultOrHalt = true)
    (d : Directory) (line : Text) {s : Standing} (hs : s ≠ .ongoing) :
    (answer d c line).standing = s ↔ Ends c (Request.ofLine line) s := by
  unfold answer
  cases Request.ofLine line with
  | nothing | unknown => exact standing_iff_of_ongoing hs rfl nofun
  | command command argument => exact standing_obey hstep hrun d command argument hs

/-! ## What a malformed line leaves behind -/

/-- The line is answered with a message, or with nothing because the session breaks off. -/
def Untouched (c : Console) (reply : Reply) : Prop :=
  (∃ message, message ≠ [] ∧ reply = say c [message]) ∨ ∃ trouble, reply = breakOff c trouble

theorem untouched_say {c : Console} {message : Text} (h : message ≠ []) :
    Untouched c (say c [message]) :=
  .inl ⟨message, h, rfl⟩

theorem untouched_breakOff (c : Console) (trouble : Trouble) : Untouched c (breakOff c trouble) :=
  .inr ⟨trouble, rfl⟩

theorem countOr_of_error {default : Int} {argument : Text} {e : NumeralError}
    (hne : argument ≠ []) (h : read 0 argument = .error e) : countOr default argument = .error e := by
  unfold countOr
  rw [if_neg (by simpa using hne), h]

/-- A stretch is refused if its address is no number, or its count is none. -/
theorem stretch_of_address {c : Console} {first : Text} {e : NumeralError}
    (he : address c first = .error e) (a n : Int) (rest : List Text) :
    stretch c a n (first :: rest) = .error e := by
  cases rest <;> simp only [stretch, he] <;> rfl

theorem stretch_of_count {c : Console} {first second : Text} {e : NumeralError}
    (he : read 0 second = .error e) (a n : Int) (rest : List Text) :
    ∃ e, stretch c a n (first :: second :: rest) = .error e := by
  cases ha : address c first with
  | error e => exact ⟨e, stretch_of_address ha a n _⟩
  | ok b =>
    refine ⟨e, ?_⟩
    simp only [stretch, ha, he]
    rfl

theorem untouched_of_stretch {d : Directory} {c : Console} {command : Command}
    {argument first : Text} {rest : List Text} (hc : command = .dump ∨ command = .disasm)
    (h : words argument = first :: rest)
    (he : ∀ a n, ∃ e, stretch c a n (first :: rest) = .error e) :
    Untouched c (obey d c command argument) := by
  rcases hc with rfl | rfl
  · obtain ⟨e, he⟩ := he 0 64
    simp only [obey, dumpReply, h, he]
    exact untouched_say nofun
  · obtain ⟨e, he⟩ := he c.machine.pc.toNat 10
    simp only [obey, disasmReply, h, he]
    exact untouched_say nofun

theorem untouched_of_malformed {d : Directory} {c : Console} {line : Text}
    (h : Malformed d c (Request.ofLine line)) : Untouched c (answer d c line) := by
  unfold answer
  generalize Request.ofLine line = request at h
  cases h with
  | word => exact untouched_say nofun
  | quotation h =>
    simp only [obey, loadReply, h]
    exact untouched_breakOff _ _
  | noFile h =>
    simp only [obey, loadReply, h]
    exact untouched_say nofun
  | file h he =>
    simp only [obey, loadReply, h, he]
    exact untouched_say nofun
  | count hc hne h =>
    rcases hc with rfl | rfl <;> simp only [obey, countOr_of_error hne h] <;>
      exact untouched_breakOff _ _
  | noAddress h =>
    simp only [obey, dumpReply, h]
    exact untouched_say nofun
  | address hc h he =>
    exact untouched_of_stretch hc h fun a n => ⟨_, stretch_of_address he a n _⟩
  | length hc h he => exact untouched_of_stretch hc h fun a n => stretch_of_count he a n _
  | key hc h =>
    rcases hc with rfl | rfl <;> simp only [obey, keyReply, h] <;> exact untouched_say nofun

/-! ## Every line -/

/-- A line for the monitor of a console with pixels, whatever was done to it before, ends the session
in the ways of `Ends` and in no other. A malformed line leaves the console as it was, and is answered
with a message unless it breaks the session off. -/
theorem answer_of_reached {width height : Nat} (hw : 0 < width) (hh : 0 < height)
    {random : RandomBytes} {speed toneHz : Int} {c : Console}
    (h : Reached (new (Screen.blank width height) random (.number speed) toneHz) c)
    (d : Directory) (line : Text) :
    let request := Request.ofLine line
    let reply := answer d c line
    (∀ s, s ≠ .ongoing → (reply.standing = s ↔ Ends c request s)) ∧
      (Malformed d c request → reply.console = c ∧
        ((∃ message, message ≠ [] ∧ reply.output = unlines [message] ∧
            reply.standing = .ongoing) ∨
          ∃ trouble, Ends c request (.broken trouble) ∧ reply.output = [])) := by
  dsimp only
  have hkept := wellFormed_invariant hw hh
  have hc := hkept.reached (wellFormed_new width height random speed toneHz) h
  have hends {s : Standing} (hs : s ≠ .ongoing) :
      (answer d c line).standing = s ↔ Ends c (Request.ofLine line) s :=
    standing_answer (fun n => (hkept.stepMany hc n).2) (fun n => (hkept.runFrames hc n).2) d line hs
  refine ⟨fun _ hs => hends hs, fun hmalformed => ?_⟩
  obtain ⟨message, hne, hreply⟩ | ⟨trouble, hreply⟩ := untouched_of_malformed hmalformed
  · rw [hreply]
    exact ⟨rfl, .inl ⟨message, hne, rfl, rfl⟩⟩
  · have hbroken : (answer d c line).standing = .broken trouble := by rw [hreply]; rfl
    refine ⟨by rw [hreply]; rfl, .inr ⟨trouble, (hends (s := .broken trouble) nofun).mp hbroken, ?_⟩⟩
    rw [hreply]
    rfl

/-- A console that was turned on and whose tracing was turned on by a line. -/
def tracedByLine : Console :=
  (answer ⟨[], []⟩ (Console.standard (.ofArray #[]) (.number 10)) "trace on".toList).console

theorem answer_of_reached_unknown_key :
    let reply := answer ⟨[], []⟩ tracedByLine "press Z".toList
    Reached (Console.standard (.ofArray #[]) (.number 10)) tracedByLine ∧
      Malformed ⟨[], []⟩ tracedByLine (Request.ofLine "press Z".toList) ∧
      reply.console = tracedByLine ∧
      ∃ message, message ≠ [] ∧ reply.output = unlines [message] ∧ reply.standing = .ongoing := by
  have hreached : Reached (Console.standard (.ofArray #[]) (.number 10)) tracedByLine :=
    .line _ _ .start
  have hrequest : Request.ofLine "press Z".toList = .command .press ['Z'] := by decide +kernel
  have hread : read 16 ['Z'] = .error (.malformed 16 ['Z']) := rfl
  have hmalformed : Malformed ⟨[], []⟩ tracedByLine (Request.ofLine "press Z".toList) := by
    rw [hrequest]
    exact .key (.inl rfl) hread
  obtain ⟨-, huntouched⟩ :=
    answer_of_reached (by decide) (by decide) hreached ⟨[], []⟩ "press Z".toList
  obtain ⟨hconsole, hanswered | ⟨trouble, hends, -⟩⟩ := huntouched hmalformed
  · exact ⟨hreached, hmalformed, hconsole, hanswered⟩
  · rw [hrequest] at hends
    cases hends

/-- A count that is no number: nothing is printed, and the session breaks off. -/
theorem steps_without_number_break_off :
    let start := Console.standard (.ofArray #[]) (.number 10)
    let reply := answer ⟨[], []⟩ start "step abc".toList
    Reached start start ∧ Malformed ⟨[], []⟩ start (Request.ofLine "step abc".toList) ∧
      reply.standing = .broken (.number (.malformed 0 "abc".toList)) ∧ reply.output = [] := by
  have hrequest : Request.ofLine "step abc".toList = .command .step "abc".toList := by
    decide +kernel
  have hread : read 0 "abc".toList = .error (.malformed 0 "abc".toList) := rfl
  have hne : "abc".toList ≠ [] := by decide
  refine ⟨.start, ?_, ?_, ?_⟩
  · rw [hrequest]
    exact .count (.inl rfl) hne hread
  all_goals
    unfold answer
    simp only [hrequest, obey, countOr_of_error hne hread]
    rfl

end ChipEight.Monitor
