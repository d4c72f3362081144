import ClaimGrid.Text.Outline

/-!
# Stop lines

A stop line joins one handle to any number of signals through a channel that never carries a
message. The handle owns the only sender. Stopping takes the sender out of the handle and drops it,
and a handle that is dropped takes its sender along. A channel without a sender is disconnected for
good, and that is what the signals on the line listen for. Signals can be copied freely, and the
handle keeps one for this; there are also signals that are on no line and never fire.

## Main definitions

* `Channel`, `Sender`, `Receiver`: a channel and its two ends.
* `Receiver.tryReceive`, `Receiver.receiveWithin`: what a receiver is told, at once or after a wait.
* `StopHandle`, `StopSignal`: the owner of a line and a listener.
* `StopLine`: the channel, the handle and the signals made so far.
* `StopLine.fired`, `StopLine.waits`, `StopLine.stopped?`: what signals and handle report.
* `StopRequest`, `StopLine.step`: what can be done with the handle and the signals.
-/

namespace ClaimGrid

/-! ### Channels -/

/-- A channel on which no message is ever sent. -/
structure Channel where
  /-- The number of its senders that have not been dropped. -/
  senders : Nat
  deriving DecidableEq

/-- A sender for the channel of a line. -/
inductive Sender where
  | line
  deriving DecidableEq

/-- What a receiver listens to. -/
inductive Receiver where
  /-- The channel of a line. -/
  | line
  /-- No channel. -/
  | never
  deriving DecidableEq

/-- What a receiver is told that asks for a message. -/
inductive Reception where
  /-- No message has come, but the channel is connected. -/
  | empty
  /-- No message can come any more. -/
  | disconnected
  deriving DecidableEq

/-- Drops the sender that a place holds, if it holds one. -/
def Channel.dropSender (c : Channel) : Option Sender → Channel
  | some .line => { c with senders := c.senders - 1 }
  | none => c

/-- Asks for a message. A channel is disconnected when all its senders have been dropped. -/
def Receiver.tryReceive (c : Channel) : Receiver → Reception
  | .line => if c.senders = 0 then .disconnected else .empty
  | .never => .empty

/-- Waits for a message while the channel goes through the given states; the time is over after the
last of them. -/
def Receiver.receiveWithin (r : Receiver) : List Channel → Reception
  | [] => .empty
  | c :: cs =>
    match r.tryReceive c with
    | .disconnected => .disconnected
    | .empty => r.receiveWithin cs

/-! ### Handles and signals -/

/-- A listener on a line, or on none. -/
structure StopSignal where
  /-- Where it listens. -/
  receiver : Receiver
  deriving DecidableEq

/-- A signal that never fires. -/
def StopSignal.never : StopSignal := ⟨.never⟩

/-- Whether the signal has fired. -/
def StopSignal.isStopped (g : StopSignal) (c : Channel) : Bool :=
  g.receiver.tryReceive c == .disconnected

/-- Whether the signal fires while the channel goes through the given states. -/
def StopSignal.waits (g : StopSignal) (cs : List Channel) : Bool :=
  g.receiver.receiveWithin cs == .disconnected

/-- The owner of a line. -/
structure StopHandle where
  /-- The sender of the line, until the line is stopped. -/
  sender : Option Sender
  /-- The signal that is copied for whoever asks for one. -/
  signal : StopSignal
  deriving DecidableEq

/-- Whether the line was stopped. -/
def StopHandle.isStopped (h : StopHandle) : Bool := h.sender.isNone

/-! ### Lines -/

/-- A line with the signals made so far, numbered from zero. -/
structure StopLine where
  /-- The channel from the handle to the signals. -/
  channel : Channel
  /-- The handle, until it is dropped. -/
  handle : Option StopHandle
  /-- The signals, on the line or not. -/
  signals : List StopSignal
  deriving DecidableEq

/-- What can be done with a handle and its signals. -/
inductive StopRequest where
  | stop
  | drop
  | signal
  | copy (i : Nat)
  | never
  deriving DecidableEq

namespace StopLine

/-- A fresh handle with its first signal, of which it keeps a copy. -/
def new : StopLine :=
  let signal : StopSignal := ⟨.line⟩
  { channel := ⟨1⟩, handle := some { sender := some .line, signal := signal }, signals := [signal] }

variable (s : StopLine)

/-- Whether the signal `i` has fired. -/
def fired (i : Nat) : Bool := s.signals[i]?.any (·.isStopped s.channel)

/-- Whether the line was stopped, as the handle sees it; a dropped handle sees nothing. -/
def stopped? : Option Bool := s.handle.map (·.isStopped)

/-- Stops the line: the sender is taken out of the handle and dropped. Without a handle nothing
happens. -/
def stop : StopLine :=
  match s.handle with
  | none => s
  | some h =>
    { s with
      channel := s.channel.dropSender h.sender
      handle := some { h with sender := none } }

/-- Drops the handle with all that it holds. -/
def drop : StopLine :=
  match s.handle with
  | none => s
  | some h => { s with channel := s.channel.dropSender h.sender, handle := none }

/-- Makes another signal from the handle; without a handle nothing happens. -/
def signal : StopLine :=
  { s with signals := s.signals ++ (s.handle.map (·.signal)).toList }

/-- Copies the signal `i`, if there is one. -/
def copy (i : Nat) : StopLine := { s with signals := s.signals ++ s.signals[i]?.toList }

/-- Makes a signal that never fires. -/
def never : StopLine := { s with signals := s.signals ++ [.never] }

/-- The handle as it is shown to a developer, unless it was dropped. -/
def outline? : Option Outline :=
  s.stopped?.map fun b => .record "StopHandle" [("stopped", .flag b)]

/-- The line after a request. -/
def step : StopRequest → StopLine
  | .stop => s.stop
  | .drop => s.drop
  | .signal => s.signal
  | .copy i => s.copy i
  | .never => s.never

/-- The line after a list of requests. -/
def run (rs : List StopRequest) : StopLine := rs.foldl step s

/-- The states of the channel while requests are made, the first one included. -/
def channels (s : StopLine) : List StopRequest → List Channel
  | [] => [s.channel]
  | r :: rs => s.channel :: (s.step r).channels rs

/-- Waits for the signal `i` while others make requests; the time is over after the last of them.
Answers whether the signal fired. -/
def waits (i : Nat) (during : List StopRequest) : Bool :=
  s.signals[i]?.any (·.waits (s.channels during))

end StopLine

end ClaimGrid
