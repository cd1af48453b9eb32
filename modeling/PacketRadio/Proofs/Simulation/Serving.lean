/-
# The server's stretches when nothing goes wrong

rflink specification, §10: `simulate` without fault injection.

| the server | its stretch |
| --- | --- |
| waits for a datagram, and nothing has come in | pauses, having looked at the stop flag if due |
| waits for a datagram, and one has come in | takes it, answers it if it is to, and pauses |
| waits for its answer to be acknowledged, and nothing has come in | pauses again |
| waits for its answer to be acknowledged, and it has been | waits for a datagram, as above |

It finishes when it finds the stop flag set.  An acknowledgment that has come in
is taken before the next datagram, since it came in before it.

Main statements: `Server.Attends.finds_nothing`, `Server.Attends.finds_stop`,
`Server.Attends.takes`, `Server.Attends.answers` and
`Server.Replying.goes_on_waiting`.
-/

import PacketRadio.Proofs.Simulation.Sending

namespace PacketRadio
namespace Simulation

open Link (Activity Delivery Node Operation Pending Reply SendOutcome Turn)
open Link.Action
open Scene (Shows)

variable {s : Settings} {σ : Scene} {network : Network} {n : Node} {i bound deadline : Nat}

namespace Server

/-- What the server has to tell when it has taken so many datagrams. -/
def Told (s : Settings) (i : Nat) (f : Findings) : Prop :=
  f.deliveries = (List.range i).map (s.delivery .client)

theorem Told.next {f : Findings} (h : Told s i f) :
    Told s (i + 1) (f.addDelivery (s.delivery .client i)) := by
  have hdeliveries : f.deliveries = _ := h
  simp [Told, Findings.addDelivery, hdeliveries, List.range_succ]

/-- The server has taken so many datagrams and is done with them; it looks at the stop flag at
`bound` at the latest. -/
structure Listening (s : Settings) (i bound : Nat) (sv : Server) (n : Node) : Prop where
  /-- It is about to look at the stop flag, or waits for a datagram. -/
  stage : sv.stage = .ready ∨
    ∃ deadline ≤ bound, sv.stage = .receiving (.receiving (some deadline))
  /-- What it has to tell. -/
  told : Told s i sv.found
  /-- Its node. -/
  node : Standing s .server (s.answers i) i none [] n

/-- The server has answered the datagram of this number, from zero, and waits for its answer to be
acknowledged. -/
structure Replying (s : Settings) (i deadline : Nat) (sv : Server) (n : Node) : Prop where
  /-- It answers. -/
  reply : s.reply = true
  /-- It waits. -/
  stage : ∃ started, sv.stage =
    .replying (s.delivery .client i) (.sending (s.sent .server i started deadline))
  /-- What it has to tell of those before. -/
  told : Told s i sv.found
  /-- Its node. -/
  node : Standing s .server (i + 1) (i + 1) (some ⟨s.client, UInt8.ofNat i, false⟩) [] n

/-- So many datagrams are over for the server as soon as it has looked at what is left for it. -/
inductive Attends (s : Settings) (i bound now : Nat) (sv : Server) (n : Node) :
    List Frame → Prop where
  /-- Nothing is left. -/
  | listening (h : Listening s i bound sv n) : Attends s i bound now sv n []
  /-- The acknowledgment of its last answer is. -/
  | settling {j deadline : Nat} (hi : i = j + 1) (h : Replying s j deadline sv n)
      (htime : now < deadline) : Attends s i bound now sv n [s.ack .client j]

/-- Little is left for the server. -/
theorem Attends.length_le {now : Nat} {sv : Server} {left : List Frame}
    (h : Attends s i bound now sv n left) : left.length ≤ 1 := by
  cases h with
  | listening => exact Nat.zero_le _
  | settling => exact Nat.le_refl _

/-- What holds of a server that wakes at some time holds of one that wakes earlier. -/
theorem Attends.earlier {now now' : Nat} {sv : Server} {left : List Frame}
    (h : Attends s i bound now sv n left) (hle : now' ≤ now) :
    Attends s i bound now' sv n left := by
  cases h with
  | listening h => exact .listening h
  | settling hi h htime => exact .settling hi h (Nat.lt_of_le_of_lt hle htime)

theorem listening_zero (s : Settings) (bound : Nat) :
    Listening s 0 bound {} (Node.fresh (s.node s.server)) :=
  ⟨.inl rfl, rfl, by
    have hnone : s.answers 0 = 0 := by simp [Settings.answers]
    rw [hnone]
    exact .fresh s .server⟩

/-- A stretch of the server comes to what its own turn leads to. -/
theorem comes {sv : Server} {Q : Network → Close → Prop}
    (h : (sv.turn s).Gets (Network.surroundings Party.server.station) network n
      (Role.Leads s .server Q)) : (Role.server sv).Comes s network n Q :=
  Role.Comes.of_leads rfl (fun _ => rfl) h

section

variable {found : Findings} {Q : Network → Close → Prop} (h : Shows s.frame σ network)

include h

/-! ## To where it listens -/

/-- The server waits for a datagram unless it is to stop. -/
theorem from_ready (hstopped : σ.stopped = false)
    (hclock : σ.now + serverPatience < Deadline.beyond)
    (hrest : (Role.server ⟨.receiving (.receiving (some (σ.now + serverPatience))), found⟩).Comes s
      network n Q) : (Role.server ⟨.ready, found⟩).Comes s network n Q := by
  have hdeadline : Deadline.after σ.now serverPatience = some (σ.now + serverPatience) :=
    if_pos hclock
  refine comes ?_
  simp only [Server.turn, gets_bind]
  refine Scene.gets_stopped h ?_
  simp only [proceeds_ok, hstopped, Bool.false_eq_true, if_false, gets_bind]
  refine Standing.gets_recvTimeout h serverPatience ?_
  rw [hdeadline]
  exact hrest

/-- The server stops. -/
theorem from_ready_stopped (hboard : σ.aboard .server = true) (hstopped : σ.stopped = true)
    (hQ : ∀ network', Shows s.frame σ network' → Q network' (.finished found n)) :
    (Role.server ⟨.ready, found⟩).Comes s network n Q := by
  refine comes ?_
  simp only [Server.turn, gets_bind]
  refine Scene.gets_stopped h ?_
  simp only [proceeds_ok, hstopped, if_true, gets_bind]
  refine Scene.gets_setMode h hboard fun network₁ h₁ _ => ?_
  exact hQ network₁ h₁

/-- The time to wait for a datagram is up. -/
theorem from_expired (hn : Standing s .server (s.answers i) i none [] n)
    (htime : deadline ≤ σ.now)
    (hrest : ∀ n', Standing s .server (s.answers i) i none [] n' →
      (Role.server ⟨.ready, found⟩).Comes s network n' Q) :
    (Role.server ⟨.receiving (.receiving (some deadline)), found⟩).Comes s network n Q := by
  refine comes ?_
  simp only [Server.turn, gets_bind]
  exact hn.gets_receiving_expired h ((Deadline.left_eq_none_iff _ _).2 ⟨deadline, rfl, htime⟩) hrest

/-- The answer has been acknowledged, and the server is done with the datagram. -/
theorem from_settling (hs : s.Calm) (hboard : σ.aboard .server = true) {started : Nat}
    {rest : List Frame} (hreply : s.reply = true) (hfound : Told s i found)
    (hn : Standing s .server (i + 1) (i + 1) (some ⟨s.client, UInt8.ofNat i, false⟩) [] n)
    (hinbox : σ.inbox .server = s.ack .client i :: rest) (htime : σ.now < deadline)
    (hrest : ∀ network' n' found', Told s (i + 1) found' →
      Standing s .server (s.answers (i + 1)) (i + 1) none [] n' →
      Shows s.frame (σ.put .server rest) network' →
      (Role.server ⟨.ready, found'⟩).Comes s network' n' Q) :
    (Role.server ⟨.replying (s.delivery .client i) (.sending (s.sent .server i started deadline)),
      found⟩).Comes s network n Q := by
  have hanswers : s.answers (i + 1) = i + 1 := by simp [Settings.answers, hreply]
  refine comes ?_
  simp only [Server.turn, gets_bind]
  refine hn.gets_waiting_ack hs h hboard hinbox htime fun network₁ n₁ hn₁ h₁ => ?_
  refine comes ?_
  simp only [Server.turn, gets_bind]
  refine hn₁.gets_acked h₁ fun n₂ hn₂ => ?_
  rw [Scene.take_of_cons _ _ hinbox] at h₁
  exact hrest network₁ n₂ _ hfound.next (by rw [hanswers]; exact hn₂) h₁

/-- **Unless it is to stop, the server listens for a while**, with all that is left for it taken. -/
theorem Attends.watches (hs : s.Calm) (hboard : σ.aboard .server = true) {sv : Server}
    {left more : List Frame} (ha : Attends s i bound σ.now sv n left)
    (hinbox : σ.inbox .server = left ++ more) (hstopped : σ.stopped = false)
    (hbound : σ.now + serverPatience ≤ bound) (hclock : bound < Deadline.beyond)
    (hrest : ∀ network' n' deadline found, σ.now < deadline → deadline ≤ bound → Told s i found →
      Standing s .server (s.answers i) i none [] n' →
      Shows s.frame (σ.put .server more) network' →
      (Role.server ⟨.receiving (.receiving (some deadline)), found⟩).Comes s network' n' Q) :
    (Role.server sv).Comes s network n Q := by
  have hpatience : 0 < serverPatience := by decide
  have hnear : σ.now + serverPatience < Deadline.beyond := by omega
  obtain ⟨stage, found⟩ := sv
  cases ha with
  | listening hl =>
    obtain ⟨hstage, hfound, hn⟩ := hl
    have hsame : σ.put .server more = σ := by
      have hmore : more = σ.inbox .server := hinbox.symm
      rw [hmore, Scene.put_inbox]
    rw [hsame] at hrest
    have hready : ∀ n', Standing s .server (s.answers i) i none [] n' →
        (Role.server ⟨.ready, found⟩).Comes s network n' Q := fun n' hn' =>
      from_ready h hstopped hnear (hrest _ n' _ found (by omega) hbound hfound hn' h)
    rcases hstage with rfl | ⟨deadline, hle, rfl⟩
    · exact hready n hn
    · by_cases htime : σ.now < deadline
      · exact hrest _ n deadline found htime hle hfound hn h
      · exact from_expired h hn (Nat.not_lt.1 htime) hready
  | @settling j deadline hi hr htime =>
    obtain ⟨hreply, ⟨started, rfl⟩, hfound, hn⟩ := hr
    subst hi
    refine from_settling h hs hboard hreply hfound hn hinbox htime
      fun network₁ n₁ found₁ hfound₁ hn₁ h₁ => ?_
    exact from_ready h₁ hstopped hnear (hrest _ n₁ _ found₁ (Nat.lt_add_of_pos_right hpatience)
      hbound hfound₁ hn₁ h₁)

/-! ## From where it listens -/

/-- The server listens and finds nothing. -/
theorem receiving_idle (hboard : σ.aboard .server = true) (hfound : Told s i found)
    (hn : Standing s .server (s.answers i) i none [] n) (hinbox : σ.inbox .server = [])
    (htime : σ.now < deadline) (hbound : deadline ≤ bound)
    (hQ : ∀ network' sv' n' duration, 0 < duration → duration ≤ pollInterval →
      σ.now + duration ≤ bound → Listening s i bound sv' n' → Shows s.frame σ network' →
      Q network' (.paused duration (.server sv') n')) :
    (Role.server ⟨.receiving (.receiving (some deadline)), found⟩).Comes s network n Q := by
  have hpositive : 0 < pollInterval := by decide
  have hleft : Deadline.left σ.now (some deadline) = some (deadline - σ.now) := if_pos htime
  refine comes ?_
  simp only [Server.turn, gets_bind]
  refine hn.gets_receiving_idle h hboard hleft hinbox fun network₁ n₁ hn₁ h₁ => ?_
  exact ⟨_, n₁, rfl, hQ network₁ _ n₁ _ (by omega) (by omega) (by omega)
    ⟨.inr ⟨deadline, hbound, rfl⟩, hfound, hn₁⟩ h₁⟩

/-- The server listens and takes a datagram. -/
theorem receiving_takes (hs : s.Calm) (hboard : σ.aboard .server = true)
    (hn : Standing s .server (s.answers i) i none [] n)
    (hinbox : σ.inbox .server = [s.datagram .client i]) (htime : σ.now < deadline)
    (hrest : ∀ network' n', Standing s .server (s.answers i) (i + 1) none [] n' →
      Shows s.frame ((σ.put .server []).air .server (s.ack .server i)) network' →
      (received s ⟨.receiving (.receiving (some deadline)), found⟩
        (.finish (.delivery (some (s.delivery .client i))))).Gets
          (Network.surroundings Party.server.station) network' n' (Role.Leads s .server Q)) :
    (Role.server ⟨.receiving (.receiving (some deadline)), found⟩).Comes s network n Q := by
  have hleft : Deadline.left σ.now (some deadline) = some (deadline - σ.now) := if_pos htime
  refine comes ?_
  simp only [Server.turn, gets_bind]
  refine hn.gets_receiving_datagram hs h hboard (by decide) hleft hinbox
    fun network₁ n₁ hn₁ h₁ => ?_
  rw [Scene.take_of_cons _ _ hinbox] at h₁
  refine comes ?_
  simp only [Server.turn, gets_bind]
  exact hn₁.gets_receiving_delivery fun n₂ hn₂ => hrest network₁ n₂ hn₂ h₁

/-! ## Whole stretches -/

/-- **Nothing new has come in**, and the server goes on listening. -/
theorem Attends.finds_nothing (hs : s.Calm) (hboard : σ.aboard .server = true) {sv : Server}
    {left : List Frame} (ha : Attends s i bound σ.now sv n left)
    (hinbox : σ.inbox .server = left) (hstopped : σ.stopped = false)
    (hbound : σ.now + serverPatience ≤ bound) (hclock : bound < Deadline.beyond)
    (hQ : ∀ network' sv' n' duration, 0 < duration → duration ≤ pollInterval →
      σ.now + duration ≤ bound → Listening s i bound sv' n' →
      Shows s.frame (σ.put .server []) network' →
      Q network' (.paused duration (.server sv') n')) :
    (Role.server sv).Comes s network n Q := by
  have hmore : σ.inbox .server = left ++ [] := by rw [hinbox, List.append_nil]
  refine ha.watches h hs hboard hmore hstopped hbound hclock
    fun network₁ n₁ deadline found₁ htime hle hfound hn₁ h₁ => ?_
  exact receiving_idle h₁ hboard hfound hn₁ (Scene.put_inbox_self ..) htime hle hQ

/-- **The server stops** unless it still waits for a datagram, of which none comes. -/
theorem Attends.finds_stop (hs : s.Calm) (hboard : σ.aboard .server = true) {sv : Server}
    {left : List Frame} (ha : Attends s i bound σ.now sv n left)
    (hinbox : σ.inbox .server = left) (hstopped : σ.stopped = true)
    (hlater : ∀ network' sv' n' duration, 0 < duration → duration ≤ pollInterval →
      σ.now + duration ≤ bound → Listening s i bound sv' n' →
      Shows s.frame (σ.put .server []) network' →
      Q network' (.paused duration (.server sv') n'))
    (hlast : ∀ network' found n', Told s i found →
      Standing s .server (s.answers i) i none [] n' →
      Shows s.frame (σ.put .server []) network' → Q network' (.finished found n')) :
    (Role.server sv).Comes s network n Q := by
  obtain ⟨stage, found⟩ := sv
  cases ha with
  | listening hl =>
    obtain ⟨hstage, hfound, hn⟩ := hl
    have hsame : σ.put .server [] = σ := by rw [← hinbox, Scene.put_inbox]
    rw [hsame] at hlater hlast
    have hready : ∀ n', Standing s .server (s.answers i) i none [] n' →
        (Role.server ⟨.ready, found⟩).Comes s network n' Q := fun n' hn' =>
      from_ready_stopped h hboard hstopped fun network₁ h₁ => hlast network₁ found n' hfound hn' h₁
    rcases hstage with rfl | ⟨deadline, hle, rfl⟩
    · exact hready n hn
    · by_cases htime : σ.now < deadline
      · exact receiving_idle h hboard hfound hn hinbox htime hle hlater
      · exact from_expired h hn (Nat.not_lt.1 htime) hready
  | @settling j deadline hi hr htime =>
    obtain ⟨hreply, ⟨started, rfl⟩, hfound, hn⟩ := hr
    subst hi
    refine from_settling h hs hboard hreply hfound hn hinbox htime
      fun network₁ n₁ found₁ hfound₁ hn₁ h₁ => ?_
    exact from_ready_stopped h₁ hboard hstopped fun network₂ h₂ =>
      hlast network₂ found₁ n₁ hfound₁ hn₁ h₂

/-- **The server takes a datagram** that it does not answer. -/
theorem Attends.takes (hs : s.Calm) (hboard : σ.aboard .server = true) {sv : Server}
    {left : List Frame} (ha : Attends s i bound σ.now sv n left)
    (hinbox : σ.inbox .server = left ++ [s.datagram .client i]) (hstopped : σ.stopped = false)
    (hbound : σ.now + serverPatience ≤ bound) (hclock : bound < Deadline.beyond)
    (hsilent : s.reply = false)
    (hQ : ∀ network' sv' n' duration, 0 < duration → duration ≤ pollInterval →
      σ.now + duration ≤ bound → Listening s (i + 1) bound sv' n' →
      Shows s.frame ((σ.put .server []).airs .server (s.response i)) network' →
      Q network' (.paused duration (.server sv') n')) :
    (Role.server sv).Comes s network n Q := by
  have hanswers : ∀ k, s.answers k = 0 := fun k => by simp [Settings.answers, hsilent]
  have hresponse : s.response i = [s.ack .server i] := by simp [Settings.response, hsilent]
  have hpatience : 0 < serverPatience := by decide
  rw [hresponse] at hQ
  refine ha.watches h hs hboard hinbox hstopped hbound hclock
    fun network₁ n₁ deadline found₁ htime hle hfound hn₁ h₁ => ?_
  refine receiving_takes h₁ hs hboard hn₁ (Scene.put_inbox_self ..) htime
    fun network₂ n₂ hn₂ h₂ => ?_
  rw [Scene.put_put] at h₂
  simp only [received, hsilent, Bool.false_eq_true, if_false]
  have hn₂' : Standing s .server (s.answers (i + 1)) (i + 1) none [] n₂ := by
    rw [hanswers]
    rwa [hanswers] at hn₂
  refine from_ready h₂ hstopped (by show σ.now + _ < _; omega) ?_
  refine receiving_idle h₂ hboard hfound.next hn₂' ?_ (Nat.lt_add_of_pos_right hpatience) hbound hQ
  simp

/-- **The server takes a datagram and answers it.** -/
theorem Attends.answers (hs : s.Calm) (hboard : σ.aboard .server = true) {sv : Server}
    {left : List Frame} (ha : Attends s i bound σ.now sv n left)
    (hinbox : σ.inbox .server = left ++ [s.datagram .client i]) (hstopped : σ.stopped = false)
    (hbound : σ.now + serverPatience ≤ bound) (hclock : bound < Deadline.beyond)
    (hreply : s.reply = true) (hnear : σ.now + s.ackTimeout < Deadline.beyond)
    (hQ : ∀ network' sv' n', Replying s i (σ.now + s.ackTimeout) sv' n' →
      Shows s.frame ((σ.put .server []).airs .server (s.response i)) network' →
      Q network' (.paused pollInterval (.server sv') n')) :
    (Role.server sv).Comes s network n Q := by
  have hanswers : ∀ k, s.answers k = k := fun k => by simp [Settings.answers, hreply]
  have hresponse : s.response i = [s.ack .server i, s.datagram .server i] := by
    simp [Settings.response, hreply]
  have hpatient := hs.patient
  have hpause : min pollInterval (σ.now + s.ackTimeout - σ.now) = pollInterval := by omega
  rw [hresponse] at hQ
  refine ha.watches h hs hboard hinbox hstopped hbound hclock
    fun network₁ n₁ deadline found₁ htime hle hfound hn₁ h₁ => ?_
  refine receiving_takes h₁ hs hboard hn₁ (Scene.put_inbox_self ..) htime
    fun network₂ n₂ hn₂ h₂ => ?_
  rw [Scene.put_put] at h₂
  rw [hanswers] at hn₂
  simp only [received, hreply, if_true, gets_bind]
  refine hn₂.gets_send hs h₂ (by decide) fun n₃ hn₃ => ?_
  refine comes ?_
  simp only [Server.turn, gets_bind]
  refine hn₃.gets_transmitting hs h₂ hboard i _ hnear fun network₃ n₄ hn₄ h₃ => ?_
  refine comes ?_
  simp only [Server.turn, gets_bind]
  refine hn₄.gets_waiting_idle h₃ hboard (by simp) ?_ fun network₄ h₄ => ?_
  · show σ.now < σ.now + s.ackTimeout
    omega
  · have hreplying : Replying s i (σ.now + s.ackTimeout) ⟨.replying (s.delivery .client i)
        (.sending (s.sent .server i σ.now (σ.now + s.ackTimeout))), found₁⟩ n₄ :=
      ⟨hreply, ⟨_, rfl⟩, hfound, hn₄⟩
    have hquit := hQ network₄ _ n₄ hreplying h₄
    rw [← hpause] at hquit
    exact ⟨_, n₄, rfl, hquit⟩

/-- **The server goes on waiting** for its answer to be acknowledged as long as nothing has come
in. -/
theorem Replying.goes_on_waiting (hboard : σ.aboard .server = true) {sv : Server}
    (hr : Replying s i deadline sv n) (hinbox : σ.inbox .server = []) (htime : σ.now < deadline)
    (hQ : ∀ network' sv', Replying s i deadline sv' n → Shows s.frame σ network' →
      Q network' (.paused (min pollInterval (deadline - σ.now)) (.server sv') n)) :
    (Role.server sv).Comes s network n Q := by
  obtain ⟨stage, found⟩ := sv
  obtain ⟨hreply, ⟨started, rfl⟩, hfound, hn⟩ := hr
  refine comes ?_
  simp only [Server.turn, gets_bind]
  refine hn.gets_waiting_idle h hboard hinbox htime fun network₁ h₁ => ?_
  exact ⟨_, n, rfl, hQ network₁ _ ⟨hreply, ⟨started, rfl⟩, hfound, hn⟩ h₁⟩

end

end Server
end Simulation
end PacketRadio
