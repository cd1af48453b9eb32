/-
# Frames that are sent out of one buffer

rflink specification, §4.1: encoding; §4.4: transmitting.

A node need not make room for each frame anew.  It can keep one buffer, clear
it, write the next frame into it and send what it holds, whatever was left
there by the frame before.

| | a node without a buffer | a node with one |
| --- | --- | --- |
| before a frame is written | there is nothing | what is left is cleared away |
| a frame that cannot be written | is not sent | is not sent, and the buffer is left empty |
| any other frame | is sent | is written, and what the buffer holds is sent |

Both make the same requests, one after another, and come to the same results.
That goes for one frame and is kept by the ways in which actions are put
together, so it goes for acknowledgments and for copies of datagrams, which
are all that a node sends.

Main statements: `Buffered.transmit_does`, `Buffered.Does.bind` and
`Buffered.transmits_does`.
-/

import PacketRadio.Link.Outbound

namespace PacketRadio
namespace Link

/-- A buffer after it has been cleared. -/
def cleared (buffer : Bytes) : Bytes :=
  buffer.take 0

/-- **What is written into a cleared buffer does not depend on what it held.** -/
theorem encodeOnto_cleared (c : Frame.Config) (f : Frame) (buffer : Bytes) :
    f.encodeOnto c (cleared buffer) = f.encodeOnto c [] := rfl

/-- An action of a node that keeps a buffer. -/
def Buffered (α : Type) : Type :=
  Bytes → Node → Task ((Except Error α × Node) × Bytes)

namespace Buffered

variable {α β ι : Type}

/-- An action that leaves the buffer alone. -/
def lift (x : Action α) : Buffered α :=
  fun buffer n => (x n).bind fun p => .done (p, buffer)

/-- Goes on from the result, if there is one, with the buffer as it is then. -/
def bind (x : Buffered α) (f : α → Buffered β) : Buffered β :=
  fun buffer n => (x buffer n).bind fun
    | ((.ok a, n), buffer) => f a buffer n
    | ((.error e, n), buffer) => .done ((.error e, n), buffer)

instance : Monad Buffered where
  pure a := lift (pure a)
  bind := bind

/-- The outcome of an action that must not end the one it is part of. -/
def attempt (x : Buffered α) : Buffered (Except Error α) :=
  fun buffer n => (x buffer n).bind fun ((r, n), buffer) => .done ((.ok r, n), buffer)

/-- What the buffer holds. -/
def held : Buffered Bytes :=
  fun buffer n => .done ((.ok buffer, n), buffer)

/-- Clears the buffer and writes a frame into it. -/
def write (frame : Frame) : Buffered Unit :=
  fun buffer n =>
    match frame.encodeOnto n.config.frame (cleared buffer) with
    | (buffer, .ok ()) => .done ((.ok (), n), buffer)
    | (buffer, .error e) => .done ((.error (.frame e), n), buffer)

/-- Sends a frame out of the buffer and goes back to listening. -/
def transmit (frame : Frame) : Buffered Unit := do
  write frame
  lift (Action.setMode .transmit)
  let sent ← attempt (do lift (Action.radio (.transmit (← held))))
  let restored ← attempt (lift (Action.setMode .receive))
  lift (Action.ofExcept sent)
  lift (Action.ofExcept restored)

/-- Acknowledges the datagram under a header. -/
def sendAck (h : Header) : Buffered Unit := do
  let n ← lift Action.node
  transmit (Frame.ackFor h n.address)
  lift (Action.count fun t => { t with acksSent := t.acksSent + 1 })

/-- Sends one copy of a datagram. -/
def sendData (dst : Address) (id flags : UInt8) (payload : Bytes) : Buffered Unit := do
  let n ← lift Action.node
  transmit ⟨⟨dst, n.address, id, flags⟩, payload⟩
  lift (Action.count fun t => { t with dataSent := t.dataSent + 1 })

/-! ## The same without a buffer -/

/-- Whatever the buffer holds, the one action does what the other does. -/
def Does (x : Buffered α) (y : Action α) : Prop :=
  ∀ buffer n, ((x buffer n).bind fun p => .done p.1) = y n

theorem lift_does (x : Action α) : (lift x).Does x := by
  intro buffer n
  rw [lift, Task.bind_assoc]
  exact Task.bind_done (x n)

/-- **One action after another.** -/
theorem Does.bind {x : Buffered α} {y : Action α} {f : α → Buffered β} {g : α → Action β}
    (hx : x.Does y) (hf : ∀ a, (f a).Does (g a)) : (x >>= f).Does (y >>= g) := by
  intro buffer n
  change _ = Action.bind y g n
  rw [Action.bind, ← hx buffer n, Task.bind_assoc]
  refine (Task.bind_assoc _ _ _).trans (congrArg _ (funext ?_))
  rintro ⟨⟨_ | a, n⟩, buffer⟩
  · rfl
  · exact hf a buffer n

theorem Does.attempt {x : Buffered α} {y : Action α} (hx : x.Does y) :
    (attempt x).Does (Action.attempt y) := by
  intro buffer n
  rw [Action.attempt, ← hx buffer n, Task.bind_assoc]
  exact Task.bind_assoc _ _ _

/-- An action that looks at the node goes on with it. -/
theorem node_bind (f : Node → Action α) (n : Node) : (Action.node >>= f) n = f n n := rfl

/-- What has been written is what the frame alone makes. -/
theorem write_of_ok {frame : Frame} {n : Node} {wire : Bytes}
    (h : frame.encode n.config.frame = .ok wire) (buffer : Bytes) :
    write frame buffer n = .done ((.ok (), n), wire) := by
  rw [write, encodeOnto_cleared, Frame.encodeOnto, h]
  rfl

/-- A frame that cannot be written leaves the buffer empty. -/
theorem write_of_error {frame : Frame} {n : Node} {e : Frame.Error}
    (h : frame.encode n.config.frame = .error e) (buffer : Bytes) :
    write frame buffer n = .done ((.error (.frame e), n), []) := by
  rw [write, encodeOnto_cleared, Frame.encodeOnto, h]

/-- **A frame that is sent out of a buffer is sent as it is**, whatever the buffer held. -/
theorem transmit_does (frame : Frame) : (transmit frame).Does (Action.transmit frame) := by
  intro buffer n
  have hbuffered : transmit frame buffer n = (write frame buffer n).bind _ := rfl
  rw [hbuffered, Action.transmit, node_bind]
  cases hencode : frame.encode n.config.frame with
  | error e =>
    rw [write_of_error hencode]
    rfl
  | ok wire =>
    rw [write_of_ok hencode]
    -- From here on the buffer holds the frame, and the two ask for the same.
    refine congrArg (Task.ask _) (funext fun switched => ?_)
    cases switched with
    | error e => rfl
    | ok u =>
      refine congrArg (Task.ask _) (funext fun sent => ?_)
      refine congrArg (Task.ask _) (funext fun restored => ?_)
      cases sent <;> cases restored <;> rfl

/-- **So are acknowledgments**, one kind of the frames that a node sends. -/
theorem sendAck_does (h : Header) : (sendAck h).Does (Action.sendAck h) :=
  (lift_does _).bind fun _ => (transmit_does _).bind fun _ => lift_does _

/-- **So are copies of datagrams**, the other kind. -/
theorem sendData_does (dst : Address) (id flags : UInt8) (payload : Bytes) :
    (sendData dst id flags payload).Does (Action.sendData dst id flags payload) :=
  (lift_does _).bind fun _ => (transmit_does _).bind fun _ => lift_does _

/-- **One thing after another can be done with one buffer.** -/
theorem does_forM {f : ι → Buffered Unit} {g : ι → Action Unit} (h : ∀ i, (f i).Does (g i))
    (is : List ι) : (is.forM f).Does (is.forM g) := by
  induction is with
  | nil => exact lift_does _
  | cons i is ih => exact (h i).bind fun _ => ih

/-- **Any number of frames can go out of one buffer**, also after one that could not be sent. -/
theorem transmits_does (frames : List Frame) :
    (frames.forM fun f => attempt (transmit f) >>= fun _ => pure ()).Does
      (frames.forM fun f => Action.attempt (Action.transmit f) >>= fun _ => pure ()) :=
  does_forM (fun f => (transmit_does f).attempt.bind fun _ => lift_does _) frames

end Buffered
end Link
end PacketRadio
