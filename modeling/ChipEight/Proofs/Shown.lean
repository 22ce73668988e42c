/-
# ChipEight.Proofs.Shown -- what a window shows until it is closed

A window goes round after round: it polls, handles every event of the poll, and shows the frame that
is published then. Whether to go on is asked between rounds only, so an event behind the one that
closes the window still reaches the console, and so does everything else of that poll.

`Poll.operations` is what a poll does to a console, as operations: the frames that were run
meanwhile, and the keys that go down and up, in the order of their events. One round is settled by
`roundsFrom_eq`, with its three ways to go on, and `roundsFrom_skip` takes any number of rounds by
induction, as long as no poll closes the window and no surface is lost. How a window ends is then a
matter of one more round (`run_shows`).
-/
import ChipEight.Proofs.Course
import ChipEight.Window.Loop

namespace ChipEight.Window

open Text

/-! ## Polls -/

/-- What an event does to a console. Escape and names that are not on the map do nothing. -/
def Event.operations : Event → List Operation
  | .keyDown name => (keyNamed? name).toList.map fun key => .press key.val
  | .keyUp name => (keyNamed? name).toList.map fun key => .release key.val
  | .quit | .other => []

/-- The event closes the window. -/
def Event.closes : Event → Bool
  | .keyDown name => name = escapeKey
  | .quit => true
  | .keyUp _ | .other => false

/-- What a poll does to a console, in order. -/
def Poll.operations (p : Poll) : List Operation :=
  .runFrames p.frames :: p.events.flatMap Event.operations

/-- An event of the poll closes the window. -/
def Poll.closes (p : Poll) : Bool :=
  p.events.any Event.closes

/-- The console after polls. -/
def afterPolls (c : Console) (polls : List Poll) : Console :=
  c.after (polls.flatMap Poll.operations)

/-- The frames that are run before the poll with this number are run to the end. -/
def FramesRun (c : Console) (polls : List Poll) (j : Nat) : Prop :=
  ∀ p, polls[j]? = some p →
    (Console.runFrames p.frames (afterPolls c (polls.take j))).2.isOk = true

variable {s : Settings} {failAt : Option Int} {c : Console} {p : Poll} {polls : List Poll}

theorem afterPolls_cons (c : Console) (p : Poll) (polls : List Poll) :
    afterPolls c (p :: polls) = afterPolls (afterPolls c [p]) polls := by
  simp only [afterPolls, List.flatMap_cons, List.flatMap_nil, List.append_nil,
    Console.after_append]

theorem framesRun_succ {j : Nat} :
    FramesRun c (p :: polls) (j + 1) ↔ FramesRun (afterPolls c [p]) polls j := by
  unfold FramesRun
  rw [List.getElem?_cons_succ, List.take_succ_cons, afterPolls_cons]

/-- A poll lets the frames run first, and then its events take place. -/
theorem afterPolls_singleton (c : Console) (p : Poll) :
    afterPolls c [p] =
      (Console.runFrames p.frames c).1.after (p.events.flatMap Event.operations) := by
  rw [afterPolls, List.flatMap_singleton, Poll.operations, Console.after_cons]
  show ((Console.answering _ (Console.runFrames (p.frames : Int).toNat c)).1).after _ = _
  rw [Console.answering_fst, Int.toNat_natCast]

/-- Escape is on no place of the keypad. -/
theorem keyNamed?_escapeKey : keyNamed? escapeKey = none := by decide +kernel

theorem hostKey_true (c : Console) (name : Text) :
    hostKey c name true = c.after ((keyNamed? name).toList.map fun key => .press key.val) := by
  unfold hostKey
  cases keyNamed? name <;> rfl

theorem hostKey_false (c : Console) (name : Text) :
    hostKey c name false = c.after ((keyNamed? name).toList.map fun key => .release key.val) := by
  unfold hostKey
  cases keyNamed? name <;> rfl

theorem handle_eq (c : Console) (e : Event) : handle c e = (c.after e.operations, e.closes) := by
  cases e with
  | keyDown name =>
    by_cases hescape : name = escapeKey
    · subst hescape
      simp [handle, Event.closes, Event.operations, keyNamed?_escapeKey, Console.after]
    · simp [handle, Event.closes, Event.operations, hostKey_true, hescape]
  | keyUp name =>
    show (hostKey c name false, false) = _
    rw [hostKey_false]
    rfl
  | quit | other => rfl

/-- Every event is handled, also behind the one that closes the window. -/
theorem handleAll_eq (c : Console) (es : List Event) :
    handleAll c es = (c.after (es.flatMap Event.operations), es.any Event.closes) := by
  induction es generalizing c with
  | nil => rfl
  | cons e es ih =>
    rw [handleAll, handle_eq]
    dsimp only
    rw [ih, List.flatMap_cons, Console.after_append, List.any_cons]

/-! ## Rounds -/

/-- The calls of a round that shows the console. -/
def roundCalls (s : Settings) (d : Console) : List DisplayCall :=
  [.picture (pictureOf white black d.screen.frame) d.keypad.heldKeys,
    .scale (d.screen.width * s.scale) (d.screen.height * s.scale), .blit 0 0,
    .tick s.framesPerSecond]

/-- The poll that comes next. -/
def nextPoll (polls : List Poll) : Poll :=
  polls.headD lastPoll

/-- The rest of a window's rounds, with the polls that it still gets. -/
def roundsFrom (s : Settings) (failAt : Option Int) (shown : Nat) (c : Console)
    (polls : List Poll) : Ended :=
  rounds s failAt shown c (nextPoll polls) polls.tail

/-- The window with more calls before its own. -/
def Ended.behind (calls : List DisplayCall) (e : Ended) : Ended :=
  { e with calls := calls ++ e.calls }

theorem Ended.behind_append (first second : List DisplayCall) (e : Ended) :
    e.behind (first ++ second) = (e.behind second).behind first := by
  simp only [behind, List.append_assoc]

/-- The last poll is handled where the rounds end as it is anywhere else. -/
theorem rounds_lastPoll (s : Settings) (failAt : Option Int) (shown : Nat) (c : Console) :
    rounds s failAt shown c lastPoll [] =
      if failAt = some (shown + 1 : Int) then ⟨c, showCalls s c, .lost⟩
      else ⟨c, roundCalls s c, .closed⟩ :=
  rfl

/-- One round, if the frames before its poll are run. The window goes on only if its surface is not
lost and no event of the poll closes it. -/
theorem roundsFrom_eq (shown : Nat)
    (hframes : (Console.runFrames (nextPoll polls).frames c).2.isOk = true) :
    let d := afterPolls c [nextPoll polls]
    roundsFrom s failAt shown c polls =
      if failAt = some (shown + 1 : Int) then ⟨d, (roundCalls s d).dropLast, .lost⟩
      else if (nextPoll polls).closes then ⟨d, roundCalls s d, .closed⟩
      else (roundsFrom s failAt (shown + 1) d polls.tail).behind (roundCalls s d) := by
  intro d
  cases polls with
  | nil => exact rounds_lastPoll s failAt shown c
  | cons p polls =>
    have hd : d = _ := afterPolls_singleton c p
    have hframes : (Console.runFrames p.frames c).2.isOk = true := hframes
    show rounds s failAt shown c p polls = if _ then _ else if p.closes then _ else _
    clear_value d
    unfold rounds
    rcases hx : Console.runFrames p.frames c with ⟨e, r⟩
    rw [hx] at hframes hd
    cases r with
    | error _ => cases hframes
    | ok _ =>
      dsimp only
      rw [handleAll_eq, ← hd]
      dsimp only
      rw [Poll.closes]
      cases polls with
      | nil =>
        -- the rounds end here with one that shows the console for the last time
        have hlast : roundsFrom s failAt (shown + 1) d [] = _ :=
          rounds_lastPoll s failAt (shown + 1) d
        have hnumber : ((shown + 1 : Nat) : Int) + 1 = shown + 2 := by omega
        rw [List.tail_cons, hlast, hnumber]
        by_cases hlost : failAt = some (shown + 2 : Int)
        · rw [if_pos hlost, if_pos hlost]
          rfl
        · rw [if_neg hlost, if_neg hlost]
          rfl
      | cons q polls => rfl

/-- A round in which the window goes on. -/
theorem roundsFrom_cons (shown : Nat) (hopen : p.closes = false)
    (hlost : failAt ≠ some (shown + 1 : Int))
    (hframes : (Console.runFrames p.frames c).2.isOk = true) :
    roundsFrom s failAt shown c (p :: polls) =
      (roundsFrom s failAt (shown + 1) (afterPolls c [p]) polls).behind
        (roundCalls s (afterPolls c [p])) := by
  have hnext : (Console.runFrames (nextPoll (p :: polls)).frames c).2.isOk = true := hframes
  have hgoes : ¬ (nextPoll (p :: polls)).closes = true := by
    rw [Bool.not_eq_true]
    exact hopen
  rw [roundsFrom_eq shown hnext, if_neg hlost, if_neg hgoes]
  rfl

/-! ## Many rounds -/

/-- The number of the poll that closes a window. -/
def closingPoll (polls : List Poll) : Nat :=
  (polls ++ [lastPoll]).findIdx Poll.closes

theorem closingPoll_of_closes (h : p.closes = true) : closingPoll (p :: polls) = 0 := by
  rw [closingPoll, List.cons_append, List.findIdx_cons, h]
  rfl

theorem closingPoll_of_not_closes (h : p.closes = false) :
    closingPoll (p :: polls) = closingPoll polls + 1 := by
  rw [closingPoll, List.cons_append, List.findIdx_cons, h]
  rfl

/-- A poll before the one that closes the window has no event that does. -/
theorem of_lt_closingPoll {m : Nat} (hm : m < closingPoll (p :: polls)) :
    p.closes = false ∧ m ≤ closingPoll polls := by
  cases hp : p.closes with
  | true =>
    rw [closingPoll_of_closes hp] at hm
    cases hm
  | false =>
    rw [closingPoll_of_not_closes hp] at hm
    exact ⟨rfl, Nat.le_of_lt_succ hm⟩

/-- A window is closed by its polls, or by the one behind them. -/
theorem closingPoll_le (polls : List Poll) : closingPoll polls ≤ polls.length := by
  induction polls with
  | nil => exact Nat.le_refl 0
  | cons p polls ih =>
    cases hp : p.closes with
    | true =>
      rw [closingPoll_of_closes hp]
      exact Nat.zero_le _
    | false =>
      rw [closingPoll_of_not_closes hp]
      exact Nat.succ_le_succ ih

theorem closes_closingPoll (polls : List Poll) :
    (nextPoll (polls.drop (closingPoll polls))).closes = true := by
  induction polls with
  | nil => rfl
  | cons p polls ih =>
    cases hp : p.closes with
    | true =>
      rw [closingPoll_of_closes hp]
      exact hp
    | false =>
      rw [closingPoll_of_not_closes hp]
      exact ih

/-- When `m` polls have been made, the next one has the number `m`. -/
theorem getElem?_nextPoll {m : Nat} (hm : m ≤ polls.length) :
    (polls ++ [lastPoll])[m]? = some (nextPoll (polls.drop m)) := by
  induction polls generalizing m with
  | nil =>
    obtain rfl := Nat.le_zero.mp hm
    rfl
  | cons p polls ih =>
    cases m with
    | zero => rfl
    | succ m => exact ih (Nat.le_of_succ_le_succ hm)

/-- The console after the polls up to the one with this number, whose events are handled too. -/
def consoleAt (c : Console) (polls : List Poll) (j : Nat) : Console :=
  afterPolls c ((polls ++ [lastPoll]).take (j + 1))

theorem consoleAt_succ (c : Console) (p : Poll) (polls : List Poll) (j : Nat) :
    consoleAt c (p :: polls) (j + 1) = consoleAt (afterPolls c [p]) polls j :=
  afterPolls_cons c p _

theorem consoleAt_eq {m : Nat} (hm : m ≤ polls.length) :
    consoleAt c polls m = afterPolls (afterPolls c ((polls ++ [lastPoll]).take m))
      [nextPoll (polls.drop m)] := by
  have hnext := getElem?_nextPoll hm
  rw [consoleAt, List.take_add_one, hnext, Option.toList_some]
  simp only [afterPolls, List.flatMap_append, Console.after_append]

/-- The calls of the first rounds. -/
def callsOfRounds (s : Settings) (c : Console) (polls : List Poll) (m : Nat) : List DisplayCall :=
  (List.range m).flatMap fun j => roundCalls s (consoleAt c polls j)

theorem callsOfRounds_cons (s : Settings) (c : Console) (p : Poll) (polls : List Poll) (m : Nat) :
    callsOfRounds s c (p :: polls) (m + 1) =
      roundCalls s (afterPolls c [p]) ++ callsOfRounds s (afterPolls c [p]) polls m := by
  unfold callsOfRounds
  rw [List.range_succ_eq_map, List.flatMap_cons, List.flatMap_map]
  simp only [Nat.succ_eq_add_one, consoleAt_succ]
  rfl

theorem callsOfRounds_succ (s : Settings) (c : Console) (polls : List Poll) (m : Nat) :
    callsOfRounds s c polls (m + 1) =
      callsOfRounds s c polls m ++ roundCalls s (consoleAt c polls m) := by
  unfold callsOfRounds
  rw [List.range_succ, List.flatMap_append, List.flatMap_singleton]

/-- The first rounds of a window: each shows the console that its poll leaves. There are as many as
there are polls before the one that closes the window, unless a surface is lost or a frame
refuses. -/
theorem roundsFrom_skip {m : Nat} (shown : Nat) (hm : m ≤ closingPoll polls)
    (hshown : ∀ n < m, failAt ≠ some (shown + n + 1 : Int))
    (hframes : ∀ j < m, FramesRun c (polls ++ [lastPoll]) j) :
    roundsFrom s failAt shown c polls =
      (roundsFrom s failAt (shown + m) (afterPolls c ((polls ++ [lastPoll]).take m))
        (polls.drop m)).behind (callsOfRounds s c polls m) := by
  induction m generalizing polls c shown with
  | zero => rfl
  | succ m ih =>
    cases polls with
    | nil => cases hm
    | cons p polls =>
      obtain ⟨hopen, hm⟩ := of_lt_closingPoll hm
      have hlost : failAt ≠ some (shown + 1 : Int) := by
        simpa using hshown 0 (Nat.succ_pos m)
      have hlater : ∀ n < m, failAt ≠ some ((shown + 1 : Nat) + n + 1 : Int) := by
        intro n hn
        have hnumber : ((shown + 1 : Nat) + n + 1 : Int) = shown + (n + 1 : Nat) + 1 := by omega
        rw [hnumber]
        exact hshown (n + 1) (Nat.succ_lt_succ hn)
      have hfirst : (Console.runFrames p.frames c).2.isOk = true :=
        hframes 0 (Nat.succ_pos m) p rfl
      have hrest := ih (c := afterPolls c [p]) (shown + 1) hm hlater
        fun j hj => framesRun_succ.mp (hframes (j + 1) (Nat.succ_lt_succ hj))
      have hcount : shown + 1 + m = shown + (m + 1) := by omega
      rw [roundsFrom_cons shown hopen hlost hfirst, hrest, callsOfRounds_cons, Ended.behind_append,
        List.cons_append, List.take_succ_cons, afterPolls_cons c p ((polls ++ [lastPoll]).take m),
        List.drop_succ_cons, hcount]

/-! ## Windows -/

/-- The calls that open a window. -/
def openingCalls (s : Settings) (c : Console) : List DisplayCall :=
  [.init, .caption s.title, .mode (c.screen.width * s.scale) (c.screen.height * s.scale),
    .surface c.screen.width c.screen.height]

/-- A window opens, takes its rounds, and quits. -/
theorem run_eq (s : Settings) (failAt : Option Int) (c : Console) (polls : List Poll) :
    run s failAt c polls =
      { roundsFrom s failAt 0 c polls with
        calls := openingCalls s c ++ (roundsFrom s failAt 0 c polls).calls ++ [.quit] } := by
  cases polls <;> rfl

/-- No round quits. -/
theorem quit_notMem_roundsFrom (shown : Nat) :
    .quit ∉ (roundsFrom s failAt shown c polls).calls := by
  have hround : ∀ d : Console, DisplayCall.quit ∉ roundCalls s d := by
    intro d
    simp [roundCalls]
  have hlost : ∀ d : Console, DisplayCall.quit ∉ (roundCalls s d).dropLast := by
    intro d
    exact fun h => hround d (List.dropLast_subset _ h)
  induction polls generalizing shown c with
  | nil =>
    show .quit ∉ (rounds s failAt shown c lastPoll []).calls
    rw [rounds_lastPoll]
    split
    · exact hlost c
    · exact hround c
  | cons p polls ih =>
    cases hframes : (Console.runFrames (nextPoll (p :: polls)).frames c).2.isOk with
    | true =>
      rw [roundsFrom_eq shown hframes]
      split
      · exact hlost _
      · split
        · exact hround _
        · intro h
          rcases List.mem_append.mp h with hfirst | hrest
          · exact hround _ hfirst
          · exact ih (shown + 1) hrest
    | false =>
      show .quit ∉ (rounds s failAt shown c p polls).calls
      unfold rounds
      have hframes : (Console.runFrames p.frames c).2.isOk = false := hframes
      rcases hx : Console.runFrames p.frames c with ⟨d, r⟩
      rw [hx] at hframes
      cases r with
      | ok _ => cases hframes
      | error _ => exact List.not_mem_nil

/-- The round behind the first ones, which loses the surface, closes the window, or goes on. -/
theorem roundsFrom_reach {m : Nat} (hm : m ≤ closingPoll polls)
    (hshown : ∀ n < m, failAt ≠ some (n + 1 : Int))
    (hframes : ∀ j ≤ m, FramesRun c (polls ++ [lastPoll]) j) :
    let d := consoleAt c polls m
    roundsFrom s failAt 0 c polls =
      Ended.behind (callsOfRounds s c polls m)
        (if failAt = some (m + 1 : Int) then ⟨d, (roundCalls s d).dropLast, .lost⟩
        else if (nextPoll (polls.drop m)).closes then ⟨d, roundCalls s d, .closed⟩
        else (roundsFrom s failAt (m + 1) d (polls.drop m).tail).behind (roundCalls s d)) := by
  intro d
  have hlength := Nat.le_trans hm (closingPoll_le polls)
  have hlast := hframes m (Nat.le_refl m) _ (getElem?_nextPoll hlength)
  have hbefore : ∀ n < m, failAt ≠ some ((0 : Nat) + n + 1 : Int) := by
    intro n hn
    simpa using hshown n hn
  rw [roundsFrom_skip 0 hm hbefore fun j hj => hframes j (Nat.le_of_lt hj), Nat.zero_add,
    roundsFrom_eq m hlast, ← consoleAt_eq hlength]

/-- The rounds of a window before its surface is lost, and the one in which it is. -/
theorem roundsFrom_lost {m : Nat} (hm : m ≤ closingPoll polls)
    (hframes : ∀ j ≤ m, FramesRun c (polls ++ [lastPoll]) j) :
    roundsFrom s (some (m + 1)) 0 c polls =
      ⟨consoleAt c polls m,
        callsOfRounds s c polls m ++ (roundCalls s (consoleAt c polls m)).dropLast, .lost⟩ := by
  have hshown : ∀ n < m, some (m + 1 : Int) ≠ some (n + 1 : Int) := by
    intro n hn h
    have heq := Option.some.inj h
    omega
  rw [roundsFrom_reach hm hshown hframes, if_pos rfl]
  rfl

/-- The rounds of a window that is closed. -/
theorem roundsFrom_closed (hshown : ∀ n ≤ closingPoll polls, failAt ≠ some (n + 1 : Int))
    (hframes : ∀ j ≤ closingPoll polls, FramesRun c (polls ++ [lastPoll]) j) :
    roundsFrom s failAt 0 c polls =
      ⟨consoleAt c polls (closingPoll polls),
        callsOfRounds s c polls (closingPoll polls + 1), .closed⟩ := by
  have hbefore : ∀ n < closingPoll polls, failAt ≠ some (n + 1 : Int) :=
    fun n hn => hshown n (Nat.le_of_lt hn)
  rw [callsOfRounds_succ, roundsFrom_reach (Nat.le_refl _) hbefore hframes,
    if_neg (hshown _ (Nat.le_refl _)), if_pos (closes_closingPoll polls)]
  rfl

/-- Let a window show a console. Whatever polls it gets, one that asks to quit comes behind them, so
there is a first poll `k` with an event that closes the window. If no frame refuses and no surface
is lost up to then, there are as many rounds as polls up to this one, and nothing is reported. Each
round shows the frame that is published when all events of its poll have been handled. The console
ends as it would if it were asked for the frames and the keys of these polls as operations, in the
order in which they come, and that includes what comes behind the closing event.

If the surface is lost instead when the frame with the number `m + 1` is to be shown, the window
ends in that round, before the clock ticks; it reports that and is closed. However a window ends, it
quits once, as the last thing it does. -/
theorem run_shows (s : Settings) (c : Console) (polls : List Poll) :
    let script := polls ++ [lastPoll]
    let k := script.findIdx Poll.closes
    let shown : Nat → Console := fun j => afterPolls c (script.take (j + 1))
    k < script.length ∧
      (∀ failAt, (∀ n ≤ k, failAt ≠ some (n + 1 : Int)) → (∀ j ≤ k, FramesRun c script j) →
        let e := run s failAt c polls
        e.console = shown k ∧
          e.calls = openingCalls s c ++
            (List.range (k + 1)).flatMap (fun j => roundCalls s (shown j)) ++ [.quit] ∧
          e.ending = .closed ∧ e.isClosed = true ∧ e.report = []) ∧
      (∀ m ≤ k, (∀ j ≤ m, FramesRun c script j) →
        let e := run s (some (m + 1)) c polls
        e.console = shown m ∧
          e.calls = openingCalls s c ++
            (List.range m).flatMap (fun j => roundCalls s (shown j)) ++
              (roundCalls s (shown m)).dropLast ++ [.quit] ∧
          e.ending = .lost ∧ e.isClosed = true ∧
          e.report = "\n[display] error: surface lost\n".toList) ∧
      ∀ failAt, ∃ calls, (run s failAt c polls).calls = calls ++ [.quit] ∧ .quit ∉ calls := by
  intro script k shown
  refine ⟨?_, ?_, ?_, ?_⟩
  · have hlength : closingPoll polls ≤ polls.length := closingPoll_le polls
    show closingPoll polls < script.length
    rw [List.length_append]
    exact Nat.lt_succ_of_le hlength
  · intro failAt hshown hframes e
    have he : e = _ := run_eq s failAt c polls
    rw [roundsFrom_closed hshown hframes] at he
    rw [he]
    exact ⟨rfl, rfl, rfl, rfl, rfl⟩
  · intro m hm hframes e
    have he : e = _ := run_eq s (some (m + 1)) c polls
    rw [roundsFrom_lost hm hframes, ← List.append_assoc] at he
    rw [he]
    exact ⟨rfl, rfl, rfl, rfl, rfl⟩
  · intro failAt
    have hopening : DisplayCall.quit ∉ openingCalls s c := by simp [openingCalls]
    rw [run_eq]
    refine ⟨_, rfl, ?_⟩
    intro h
    rcases List.mem_append.mp h with hopen | hrounds
    · exact hopening hopen
    · exact quit_notMem_roundsFrom 0 hrounds

/-- A console that waits for a key in register 2 and will then draw the digit of that key. -/
def waitingToDraw : Console :=
  (Console.standard (.ofArray #[]) (.number 3)).after
    [.loadRom [0xF2, 0x0A, 0xF2, 0x29, 0xD0, 0x05, 0x12, 0x06], .runFrame]

/-- A key that ends the wait, a frame and a key behind the request to quit, and a poll that is never
made. -/
def closingPolls : List Poll :=
  [⟨0, [.keyUp ['w'], .keyDown ['E'], .other]⟩, ⟨1, [.quit, .keyDown ['q']]⟩, ⟨0, [.keyDown ['1']]⟩]

theorem run_shows_keyBehindQuit :
    let s := Settings.new 10 defaultTitle 60
    let closed := run s none waitingToDraw closingPolls
    let lost := run s (some 2) waitingToDraw closingPolls
    waitingToDraw.machine.paused = true ∧ closed.ending = .closed ∧
      closed.calls.length = 4 + 2 * 4 + 1 ∧ closed.console.machine.register 2 = 6 ∧
        closed.console.keypad.heldKeys = [4, 6] ∧ closed.console.screen.frame.litCount = 15 ∧
          lost.console = closed.console ∧ lost.calls.length = 4 + 4 + 3 + 1 := by
  intro s closed lost
  obtain ⟨-, hclosed, hlost, -⟩ := run_shows s waitingToDraw closingPolls
  have hk : (closingPolls ++ [lastPoll]).findIdx Poll.closes = 1 := by decide +kernel
  have hframes : ∀ j ≤ 1, FramesRun waitingToDraw (closingPolls ++ [lastPoll]) j := by
    intro j hj p hp
    obtain rfl | rfl : j = 0 ∨ j = 1 := by omega
    · cases hp
      decide +kernel
    · cases hp
      decide +kernel
  rw [hk] at hclosed hlost
  obtain ⟨hconsole, hcalls, hending, -, -⟩ := hclosed none (fun _ _ => nofun) hframes
  obtain ⟨hsame, hfewer, -, -, -⟩ := hlost 1 (Nat.le_refl 1) hframes
  have hafter : closed.console = afterPolls waitingToDraw (closingPolls.take 2) := hconsole
  have hcalls : closed.calls = _ := hcalls
  have hfewer : lost.calls = _ := hfewer
  refine ⟨by decide +kernel, hending, ?_, ?_, ?_, ?_, hsame.trans hconsole.symm, ?_⟩
  · rw [hcalls]
    rfl
  · rw [hafter]
    decide +kernel
  · rw [hafter]
    decide +kernel
  · rw [hafter]
    decide +kernel
  · rw [hfewer]
    rfl

end ChipEight.Window
