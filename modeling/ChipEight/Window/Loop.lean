/-
# ChipEight.Window.Loop -- showing a console in a window

The window asks for events, hands the keys on, and shows the frame that was published last, over and
over until it is closed. It is closed by a request to quit or by the escape key; the events behind
that one in the same poll still count, and the frame is shown once more.

A poll may also find that frames were run meanwhile. They come before the events of the poll, and a
frame that refuses ends the window at once. If the surface is lost while a frame is shown, the
window reports that and closes. In every case the last thing it does is to quit.

Everything the window asks the display for is recorded as a list of calls.

The sixteen keys lie on four rows of a keyboard, in the places where they have on the keypad:

    1 2 3 4        1 2 3 C
    Q W E R        4 5 6 D
    A S D F        7 8 9 E
    Z X C V        A 0 B F

Host keys are given by name, and the case of the name does not matter. Names that are not on the map
do nothing.
-/
import ChipEight.Console.Frame
import ChipEight.Text.LowerCase
import ChipEight.Window.Picture

namespace ChipEight.Window

open Text

/-! ## Keys -/

/-- A key by its number. -/
def key (n : Nat) : Nibble :=
  Nibble.ofNat n

/-- The host keys and the keys that they stand for. -/
def keyMap : List (Text × Nibble) :=
  [(['1'], key 0x1), (['2'], key 0x2), (['3'], key 0x3), (['4'], key 0xC),
   (['q'], key 0x4), (['w'], key 0x5), (['e'], key 0x6), (['r'], key 0xD),
   (['a'], key 0x7), (['s'], key 0x8), (['d'], key 0x9), (['f'], key 0xE),
   (['z'], key 0xA), (['x'], key 0x0), (['c'], key 0xB), (['v'], key 0xF)]

/-- The key that a host key stands for. -/
def keyNamed? (name : Text) : Option Nibble :=
  keyMap.lookup (lower name)

/-- A host key goes down or up. -/
def hostKey (c : Console) (name : Text) (down : Bool) : Console :=
  match keyNamed? name with
  | none => c
  | some key => if down then c.pressKey key.val else c.releaseKey key.val

/-! ## Events and calls -/

/-- What a poll finds. -/
inductive Event where
  /-- A host key went down. -/
  | keyDown (name : Text)
  /-- A host key went up. -/
  | keyUp (name : Text)
  /-- The window is asked to close. -/
  | quit
  /-- Something the window does not handle. -/
  | other
  deriving DecidableEq, Repr

/-- One poll. -/
structure Poll where
  /-- The frames that were run before the poll answers. -/
  frames : Nat
  /-- The events. -/
  events : List Event
  deriving DecidableEq, Repr

/-- What the display is asked for. -/
inductive DisplayCall where
  | init
  | caption (title : Text)
  | mode (width height : Int)
  | surface (width height : Nat)
  | picture (columns : List (List Colour)) (held : List Nibble)
  | scale (width height : Int)
  | blit (x y : Int)
  | tick (framesPerSecond : Int)
  | quit
  deriving DecidableEq, Repr

/-- A window. -/
structure Settings where
  /-- The side of a pixel on the display. -/
  scale : Int
  /-- The title. -/
  title : Text
  /-- The frames to show in a second. -/
  framesPerSecond : Int
  deriving DecidableEq, Repr

/-- The scale of a window for which none is chosen. -/
def defaultScale : Int := 10

/-- The title of a window for which none is chosen. -/
def defaultTitle : Text := "CHIP-8".toList

/-- The rate of a window for which none is chosen. -/
def defaultFramesPerSecond : Int := 60

namespace Settings

/-- Settings with a scale of one at least. -/
def new (scale : Int) (title : Text) (framesPerSecond : Int) : Settings where
  scale := max 1 scale
  title := title
  framesPerSecond := framesPerSecond

end Settings

/-- The name of the key that closes the window. -/
def escapeKey : Text := "escape".toList

/-! ## One round -/

/-- Handles an event. The second part says whether the window is to close. -/
def handle (c : Console) : Event → Console × Bool
  | .keyDown name => if name = escapeKey then (c, true) else (hostKey c name true, false)
  | .keyUp name => (hostKey c name false, false)
  | .quit => (c, true)
  | .other => (c, false)

/-- Handles events one after another. -/
def handleAll (c : Console) : List Event → Console × Bool
  | [] => (c, false)
  | e :: es =>
    let (c, close) := handle c e
    let (c, closeLater) := handleAll c es
    (c, close || closeLater)

/-- The size of the display for a screen. -/
def displaySize (s : Settings) (screen : Screen) : Int × Int :=
  (screen.width * s.scale, screen.height * s.scale)

/-- The calls that show the published frame, up to the moment when it becomes visible. -/
def showCalls (s : Settings) (c : Console) : List DisplayCall :=
  let (width, height) := displaySize s c.screen
  [.picture (pictureOf white black c.screen.frame) c.keypad.heldKeys, .scale width height,
   .blit 0 0]

/-- How a window ended. -/
inductive Ending where
  /-- It was closed. -/
  | closed
  /-- The surface was lost. -/
  | lost
  /-- A frame refused. -/
  | refused (reason : Stop)
  deriving DecidableEq, Repr

/-- A window that has ended. -/
structure Ended where
  /-- The console afterwards. -/
  console : Console
  /-- The calls to the display, in order. -/
  calls : List DisplayCall
  /-- How it ended. -/
  ending : Ending

/-- The polls a window gets: when they are used up, the next one asks to quit. -/
def lastPoll : Poll where
  frames := 0
  events := [.quit]

/-- The rest of a window's rounds. `shown` counts the frames that were shown, and the surface is
lost when the frame with the number `failAt` is to be shown. -/
def rounds (s : Settings) (failAt : Option Int) (shown : Nat) (c : Console) (poll : Poll)
    (polls : List Poll) : Ended :=
  match Console.runFrames poll.frames c with
  | (c, .error reason) => ⟨c, [], .refused reason⟩
  | (c, .ok ()) =>
    let (c, close) := handleAll c poll.events
    let calls := showCalls s c
    if failAt = some (shown + 1 : Int) then ⟨c, calls, .lost⟩
    else
      let calls := calls ++ [.tick s.framesPerSecond]
      if close then ⟨c, calls, .closed⟩
      else
        match polls with
        | [] =>
          -- The poll that asks to quit is the last one in any case.
          let (d, _) := handleAll c lastPoll.events
          if failAt = some (shown + 2 : Int) then ⟨d, calls ++ showCalls s d, .lost⟩
          else ⟨d, calls ++ showCalls s d ++ [.tick s.framesPerSecond], .closed⟩
        | next :: polls =>
          let rest := rounds s failAt (shown + 1) c next polls
          { rest with calls := calls ++ rest.calls }

/-- Opens a window and shows the console until it is closed. -/
def run (s : Settings) (failAt : Option Int) (c : Console) (polls : List Poll) : Ended :=
  let (width, height) := displaySize s c.screen
  let opening := [.init, .caption s.title, .mode width height,
    .surface c.screen.width c.screen.height]
  let ended := match polls with
    | [] => rounds s failAt 0 c lastPoll []
    | poll :: polls => rounds s failAt 0 c poll polls
  { ended with calls := opening ++ ended.calls ++ [.quit] }

/-- What is reported when the surface is lost. -/
def lostReport : Text :=
  "\n[display] error: surface lost\n".toList

namespace Ended

/-- The window was closed, by an event or by the loss of its surface. -/
def isClosed (e : Ended) : Bool :=
  match e.ending with
  | .closed | .lost => true
  | .refused _ => false

/-- What was reported. -/
def report (e : Ended) : Text :=
  match e.ending with
  | .lost => lostReport
  | .closed | .refused _ => []

end Ended

end ChipEight.Window
