/-
# ChipEight.Proofs.Interrupted -- starting over while keys go down and up

A console is started over by one party while another one presses and releases keys. The parts of a
restart come in their order, and before, between and behind them any number of keys may go down or
up. `Interrupted` is this run of two parties, with nothing said about which of them is next.

A key can reach a register only while one waits, and the first part of a restart ends every wait.
What keys have put into registers before that is gone when the machine is restarted, and what comes
later finds no register. So whatever the order, the console gets where an undisturbed restart leads,
but for the keys that are held (`reset_among_keys`). It matters that the keypad is cleared before
the machine: the other way round, a key could arrive in a register that was just cleared.
-/
import ChipEight.Console.Reset
import ChipEight.Proofs.Halted
import ChipEight.Proofs.Rounds

namespace ChipEight.Console

variable {a c d : Console} {part : Console → Console} {parts : List (Console → Console)}

/-! ## Runs of two parties -/

/-- The changes are made one after another, and keys go down and up in any order among them. -/
inductive Interrupted : List (Console → Console) → Console → Console → Prop
  | done (c : Console) : Interrupted [] c c
  | key {parts : List (Console → Console)} {c d : Console} (op : Operation) : op.isKey = true →
      Interrupted parts (c.perform op).1 d → Interrupted parts c d
  | part {part : Console → Console} {parts : List (Console → Console)} {c d : Console} :
      Interrupted parts (part c) d → Interrupted (part :: parts) c d

theorem applyAll_append (first second : List (Console → Console)) (c : Console) :
    applyAll (first ++ second) c = applyAll second (applyAll first c) :=
  List.foldl_append

/-- Nobody has to press a key. -/
theorem interrupted_applyAll (parts : List (Console → Console)) (c : Console) :
    Interrupted parts c (applyAll parts c) := by
  induction parts generalizing c with
  | nil => exact .done c
  | cons part parts ih => exact .part (ih (part c))

/-- The first change is made behind some keys. -/
theorem Interrupted.uncons (h : Interrupted (part :: parts) c d) :
    ∃ b, Interrupted [] c b ∧ Interrupted parts (part b) d := by
  generalize hall : part :: parts = all at h
  induction h with
  | done => cases hall
  | key op hop _ ih =>
    obtain ⟨b, hkeys, hrest⟩ := ih hall
    exact ⟨b, .key op hop hkeys, hrest⟩
  | @part first rest c d h =>
    obtain ⟨rfl, rfl⟩ := List.cons.inj hall
    exact ⟨c, .done c, h⟩

/-- A relation to a console that is left in peace, kept by keys and by each of the changes, holds
when all changes are made. -/
theorem Interrupted.follows {R : Console → Console → Prop} (h : Interrupted parts c d)
    (key : ∀ {a c : Console} (op : Operation), op.isKey = true → R a c → R a (c.perform op).1)
    (change : ∀ part ∈ parts, ∀ {a c : Console}, R a c → R (part a) (part c)) (hc : R a c) :
    R (applyAll parts a) d := by
  induction h generalizing a with
  | done => exact hc
  | key op hop _ ih => exact ih change (key op hop hc)
  | part _ ih =>
    have hfirst := change _ List.mem_cons_self hc
    exact ih (fun p hp => change p (List.mem_cons_of_mem _ hp)) hfirst

/-! ## What keys reach -/

/-- The second console differs from the first one at most in what keys reach: the registers, the
pause, and the keypad. -/
def KeysApart (a c : Console) : Prop :=
  ∃ v paused keypad,
    c = { a with machine := { a.machine with v := v, paused := paused }, keypad := keypad }

theorem KeysApart.refl (a : Console) : KeysApart a a :=
  ⟨_, _, _, rfl⟩

theorem KeysApart.key {op : Operation} (hop : op.isKey = true) (h : KeysApart a c) :
    KeysApart a (c.perform op).1 := by
  obtain ⟨v, paused, keypad, rfl⟩ := h
  cases op with
  | press key =>
    show KeysApart a (pressKey _ key)
    rcases pressKey_cases _ key with ⟨-, hd⟩ | ⟨k, -, ⟨-, hd⟩ | ⟨x, -, hd⟩⟩
    · rw [hd]
      exact ⟨v, paused, keypad, rfl⟩
    · rw [hd]
      exact ⟨v, paused, _, rfl⟩
    · rw [hd]
      exact ⟨_, false, _, rfl⟩
  | release key =>
    obtain ⟨held, hd⟩ := releaseKey_eq
      { a with machine := { a.machine with v := v, paused := paused }, keypad := keypad } key
    show KeysApart a (releaseKey _ key)
    rw [hd]
    exact ⟨v, paused, _, rfl⟩
  | _ => cases hop

/-- The second console differs from the first one at most in which keys are held, and no register
waits in it. -/
def HeldApart (a c : Console) : Prop :=
  ∃ held, c = { a with keypad := { held := held, latch := none } }

/-- While no register waits, keys reach nothing but which keys are held. -/
theorem HeldApart.key {op : Operation} (hop : op.isKey = true) (h : HeldApart a c) :
    HeldApart a (c.perform op).1 := by
  obtain ⟨held, rfl⟩ := h
  cases op with
  | press key =>
    obtain ⟨later, hd⟩ := pressKey_eq
      (c := { a with keypad := { held := held, latch := none } }) rfl key
    exact ⟨later, hd⟩
  | release key =>
    obtain ⟨later, hd⟩ := releaseKey_eq { a with keypad := { held := held, latch := none } } key
    exact ⟨later, hd⟩
  | _ => cases hop

/-- The changes that follow when the machine is restarted look at no held key. -/
theorem HeldApart.change (hp : part ∈ resetParts.drop 2) (h : HeldApart a c) :
    HeldApart (part a) (part c) := by
  obtain ⟨held, rfl⟩ := h
  simp only [resetParts, processorResetParts, List.cons_append, List.nil_append,
    List.drop_succ_cons, List.drop_zero, List.mem_cons, List.not_mem_nil, or_false] at hp
  rcases hp with rfl | rfl | rfl | rfl | rfl | rfl | rfl
  case inr.inl => exact ⟨Keypad.released.held, rfl⟩
  all_goals exact ⟨held, rfl⟩

/-! ## Restarts -/

/-- A restart can be interrupted by no key at all, and then it is the restart of one party. However
many keys go down and up before, between and behind its parts, whatever they are and whether or not
a register waited for one: the console is the one that an undisturbed restart leaves, but for the
keys that are held. All registers are zero, and it neither waits nor has a register that does. -/
theorem reset_among_keys (c : Console) :
    Interrupted resetParts c c.reset ∧
      ∀ d, Interrupted resetParts c d →
        (∃ held, d = { c.reset with keypad := { c.reset.keypad with held := held } }) ∧
          (∀ x, d.machine.register x = 0) ∧ d.machine.paused = false ∧ d.keypad.latch = none := by
  refine ⟨interrupted_applyAll resetParts c, ?_⟩
  intro d h
  -- first the keypad is cleared, behind keys that may have reached a register
  obtain ⟨b, hbefore, h⟩ := h.uncons
  have hb : KeysApart c b := hbefore.follows (fun _ => KeysApart.key) nofun (.refl c)
  -- then the machine is restarted, behind keys that found no register
  obtain ⟨e, hbetween, h⟩ := h.uncons
  have he : HeldApart b.clearKeypad e :=
    hbetween.follows (fun _ => HeldApart.key) nofun ⟨Keypad.released.held, rfl⟩
  have hrestarted : HeldApart c.clearKeypad.restartMachine e.restartMachine := by
    obtain ⟨_, _, _, rfl⟩ := hb
    obtain ⟨held, rfl⟩ := he
    exact ⟨held, rfl⟩
  have hrest : ∀ part ∈ resetParts.drop 2, ∀ {a c : Console}, HeldApart a c →
      HeldApart (part a) (part c) := by
    intro part hp a c
    exact HeldApart.change hp
  have hreset : applyAll (resetParts.drop 2) c.clearKeypad.restartMachine = c.reset :=
    (applyAll_append [clearKeypad, restartMachine] (resetParts.drop 2) c).symm
  have hd : HeldApart c.reset d := hreset ▸ h.follows (fun _ => HeldApart.key) hrest hrestarted
  obtain ⟨held, rfl⟩ := hd
  refine ⟨⟨held, rfl⟩, ?_, rfl, rfl⟩
  intro x
  show getElem (Vector.replicate 16 (0 : UInt8)) x.val _ = 0
  exact Vector.getElem_replicate _

/-- A console that waits for a key in register 2, while key 9 is held and register 5 holds a
number. -/
def waitingWithNumber : Console :=
  (new (Screen.blank 8 5) (.ofArray #[]) (.number 3) 440).after
    [.loadRom [0x65, 0x07, 0xF2, 0x0A], .press 9, .runFrame]

/-- What comes out if keys go down and up before the first part of a restart, in the middle of it,
and at its end. -/
def restartedAmongKeys (c : Console) : Console :=
  let c := (c.pressKey 11).clearKeypad
  let c := ((c.pressKey 4).restartMachine.pressKey 3).releaseKey 4
  let c := (c.pressKey 16).clearFault.clearKeypad.clearScreen.silence
  let c := (c.pressKey 6).restartScreen.clearFrames
  (c.pressKey 1).reloadRom.releaseKey 1

theorem interrupted_restartedAmongKeys (c : Console) :
    Interrupted resetParts c (restartedAmongKeys c) :=
  .key (.press 11) rfl <| .part <| .key (.press 4) rfl <| .part <| .key (.press 3) rfl <|
    .key (.release 4) rfl <| .key (.press 16) rfl <| .part <| .part <| .part <| .part <|
      .key (.press 6) rfl <| .part <| .part <| .key (.press 1) rfl <| .part <|
        .key (.release 1) rfl <| .done _

theorem reset_among_keys_while_waiting :
    waitingWithNumber.machine.paused = true ∧
      (waitingWithNumber.pressKey 11).machine.register 2 = 11 ∧
        let d := restartedAmongKeys waitingWithNumber
        Interrupted resetParts waitingWithNumber d ∧ (∀ x, d.machine.register x = 0) ∧
          d.machine.paused = false ∧ d.keypad.latch = none ∧ d.keypad.heldKeys = [6] := by
  have hrun := interrupted_restartedAmongKeys waitingWithNumber
  obtain ⟨-, hregisters, hpaused, hlatch⟩ := (reset_among_keys waitingWithNumber).2 _ hrun
  exact ⟨by decide +kernel, by decide +kernel, hrun, hregisters, hpaused, hlatch,
    by decide +kernel⟩

end ChipEight.Console
