/-
# The client's stretches when nothing goes wrong

rflink specification, §10: `simulate` without fault injection.

| the client | its stretch |
| --- | --- |
| is about to send a datagram | sends it and pauses |
| waits, and nothing has come in | pauses again |
| waits, and all that it waits for has come in | goes on to the next datagram, or has finished |

The server acknowledges a datagram and answers it at one stretch, so what the
client waits for comes in together.

Main statements: `Client.begins`, `Client.goes_on_waiting`, `Client.ends` and
`Client.has_nothing`.
-/

import PacketRadio.Proofs.Simulation.Exchange

namespace PacketRadio
namespace Simulation

open Link (Activity Delivery Node Operation Pending Reply SendOutcome Turn)
open Link.Action
open Scene (Shows)

variable {s : Settings} {σ : Scene} {network : Network} {n : Node} {i started deadline : Nat}

namespace Settings

/-- How many of the first datagrams' answers there are. -/
def answers (s : Settings) (i : Nat) : Nat :=
  if s.reply then i else 0

/-- What the server sends back at once when it takes a datagram. -/
def response (s : Settings) (i : Nat) : List Frame :=
  s.ack .server i :: if s.reply then [s.datagram .server i] else []

/-- What the client sends when that comes in. -/
def thanks (s : Settings) (i : Nat) : List Frame :=
  if s.reply then [s.ack .client i] else []

end Settings

namespace Client

/-- What the client has to tell when so many datagrams have been sent. -/
structure Told (s : Settings) (i : Nat) (f : Findings) : Prop where
  /-- All were acknowledged at once. -/
  sends : ∃ elapsed : Nat → Nat, f.sends = (List.range i).map fun k =>
    (k + 1, SendOutcome.acked (UInt8.ofNat k) 1 (elapsed k))
  /-- All were answered, if they were to be. -/
  deliveries : f.deliveries = (List.range (s.answers i)).map (s.delivery .server)
  /-- No answer is missing. -/
  missing : f.missingReplies = 0

theorem Told.nil (s : Settings) : Told s 0 {} :=
  ⟨⟨fun _ => 0, rfl⟩, by simp [Settings.answers], rfl⟩

/-- One more datagram has been acknowledged, and answered if it was to be. -/
theorem Told.next {f : Findings} (h : Told s i f) (elapsed : Nat) :
    Told s (i + 1)
      { f with
        sends := f.sends ++ [(i + 1, SendOutcome.acked (UInt8.ofNat i) 1 elapsed)]
        deliveries := f.deliveries ++ if s.reply then [s.delivery .server i] else [] } := by
  obtain ⟨⟨times, hsends⟩, hdeliveries, hmissing⟩ := h
  refine ⟨⟨Function.update times i elapsed, ?_⟩, ?_, hmissing⟩
  · have hsame : ∀ k ∈ List.range i, Function.update times i elapsed k = times k := by
      intro k hk
      exact Function.update_of_ne (Nat.ne_of_lt (List.mem_range.1 hk)) ..
    simp only [List.range_succ, List.map_append, List.map_singleton, Function.update_self, hsends]
    congr 1
    exact List.map_congr_left fun k hk => by rw [hsame k hk]
  · rw [hdeliveries]
    unfold Settings.answers
    cases s.reply with
    | true => simp [List.range_succ]
    | false => simp

/-- The client is about to send the datagram of this number, from zero. -/
structure Between (s : Settings) (i : Nat) (c : Client) (n : Node) : Prop where
  /-- It counts from one. -/
  number : c.number = i + 1
  /-- It is about to send. -/
  stage : c.stage = .ready
  /-- What it has to tell of those before. -/
  told : Told s i c.found
  /-- Its node. -/
  node : Standing s .client i (s.answers i) none [] n

/-- The client has sent that datagram and waits. -/
structure Waiting (s : Settings) (i started deadline : Nat) (c : Client) (n : Node) : Prop where
  /-- It counts from one. -/
  number : c.number = i + 1
  /-- It waits for an acknowledgment. -/
  stage : c.stage = .sending (.sending (s.sent .client i started deadline))
  /-- What it has to tell of those before. -/
  told : Told s i c.found
  /-- Its node. -/
  node : Standing s .client (i + 1) (s.answers i) (some ⟨s.server, UInt8.ofNat i, false⟩) [] n

theorem between_zero (s : Settings) : Between s 0 {} (Node.fresh (s.node s.client)) :=
  ⟨rfl, rfl, .nil s, by
    have hnone : s.answers 0 = 0 := by simp [Settings.answers]
    rw [hnone]
    exact .fresh s .client⟩

/-- A stretch of the client comes to what its own turn leads to. -/
theorem comes {c : Client} {Q : Network → Close → Prop}
    (h : (c.turn s).Gets (Network.surroundings Party.client.station) network n
      (Role.Leads s .client Q)) : (Role.client c).Comes s network n Q :=
  Role.Comes.of_leads rfl (fun _ => rfl) h

section

variable {c : Client} (h : Shows s.frame σ network) (hboard : σ.aboard .client = true)

/-- **There is nothing to send.** -/
theorem has_nothing (hc : Between s i c n) (hi : s.count ≤ i) {Q : Network → Close → Prop}
    (hQ : Q network (.finished c.found n)) : (Role.client c).Comes s network n Q := by
  refine comes ?_
  have hcount : s.count < c.number := by rw [hc.number]; omega
  simp only [Client.turn, hc.stage, if_pos hcount]
  exact hQ

include h hboard

/-- **The client sends a datagram**, and pauses. -/
theorem begins (hs : s.Calm) (hc : Between s i c n) (hi : i < s.count)
    (hinbox : σ.inbox .client = []) (hstopped : σ.stopped = false)
    (hclock : σ.now + s.ackTimeout < Deadline.beyond) {Q : Network → Close → Prop}
    (hQ : ∀ network' c' n', Waiting s i σ.now (σ.now + s.ackTimeout) c' n' →
      Shows s.frame (σ.air .client (s.datagram .client i)) network' →
      Q network' (.paused pollInterval (.client c') n')) :
    (Role.client c).Comes s network n Q := by
  have hcount : ¬s.count < c.number := by rw [hc.number]; omega
  have hpause : min pollInterval (σ.now + s.ackTimeout - σ.now) = pollInterval := by
    have := hs.patient
    omega
  refine comes ?_
  simp only [Client.turn, hc.stage, if_neg hcount, gets_bind]
  refine Scene.gets_stopped h ?_
  simp only [proceeds_ok, hstopped, Bool.false_eq_true, if_false, gets_bind]
  refine hc.node.gets_send hs h (by decide) fun n₁ hn₁ => ?_
  refine comes ?_
  simp only [Client.turn, gets_bind]
  refine hn₁.gets_transmitting hs h hboard i σ.now hclock fun network₂ n₂ hn₂ h₂ => ?_
  refine comes ?_
  simp only [Client.turn, gets_bind]
  refine hn₂.gets_waiting_idle h₂ hboard ((Scene.air_inbox_self ..).trans hinbox) ?_
    fun network₃ h₃ => ?_
  · show σ.now < σ.now + s.ackTimeout
    have := hs.patient
    omega
  · rw [show (σ.air .client (s.datagram .client i)).now = σ.now from rfl, hpause]
    exact ⟨_, n₂, rfl, hQ network₃ _ n₂ ⟨hc.number, rfl, hc.told, hn₂⟩ h₃⟩

/-- **The client goes on waiting** as long as nothing has come in. -/
theorem goes_on_waiting (hc : Waiting s i started deadline c n) (hinbox : σ.inbox .client = [])
    (htime : σ.now < deadline) {Q : Network → Close → Prop}
    (hQ : ∀ network' c', Waiting s i started deadline c' n → Shows s.frame σ network' →
      Q network' (.paused (min pollInterval (deadline - σ.now)) (.client c') n)) :
    (Role.client c).Comes s network n Q := by
  refine comes ?_
  simp only [Client.turn, hc.stage, gets_bind]
  refine hc.node.gets_waiting_idle h hboard hinbox htime fun network₁ h₁ => ?_
  exact ⟨_, n, rfl, hQ network₁ _ ⟨hc.number, rfl, hc.told, hc.node⟩ h₁⟩

omit h hboard in
/-- The client goes on to the next datagram, if there is one. -/
theorem gets_next (hs : s.Calm) {c : Client} (hnumber : c.number = i + 1)
    (htold : Told s (i + 1) c.found) (hn : Standing s .client (i + 1) (s.answers (i + 1)) none [] n)
    {Q : Network → Close → Prop}
    (hQ : ∀ c', Between s (i + 1) c' n →
      if i + 1 < s.count then Q network (.paused s.interval (.client c') n)
      else Q network (.finished c'.found n)) :
    (next s c).Gets (Network.surroundings Party.client.station) network n
      (Role.Leads s .client Q) := by
  have hdone := hQ { c with number := c.number + 1, stage := .ready }
    ⟨congrArg (· + 1) hnumber, rfl, htold, hn⟩
  unfold next
  rw [hnumber] at hdone ⊢
  split
  · rename_i hlt
    rw [if_pos hlt] at hdone
    simp only [gets_bind]
    exact (gets_sleep hs.interval).2 ⟨_, n, rfl, hdone⟩
  · rename_i hlt
    rw [if_neg hlt] at hdone
    exact hdone

/-- **The client takes what it has waited for** and goes on to the next datagram, or has
finished. -/
theorem ends (hs : s.Calm) (hc : Waiting s i started deadline c n)
    (hinbox : σ.inbox .client = s.response i) (htime : σ.now < deadline)
    {Q : Network → Close → Prop}
    (hQ : ∀ network' c' n', Between s (i + 1) c' n' →
      Shows s.frame ((σ.put .client []).airs .client (s.thanks i)) network' →
      if i + 1 < s.count then Q network' (.paused s.interval (.client c') n')
      else Q network' (.finished c'.found n')) :
    (Role.client c).Comes s network n Q := by
  obtain ⟨number, stage, found⟩ := c
  obtain ⟨rfl, rfl, hfound, hn⟩ := hc
  refine comes ?_
  simp only [Client.turn, gets_bind]
  refine hn.gets_waiting_ack hs h hboard hinbox htime fun network₁ n₁ hn₁ h₁ => ?_
  refine comes ?_
  simp only [Client.turn, gets_bind]
  refine hn₁.gets_acked h₁ fun n₂ hn₂ => ?_
  simp only [sent, proceeds_ok, SendOutcome.isAcked, Bool.and_true]
  have htold := hfound.next (σ.now - started)
  cases hreply : s.reply with
  | false =>
    have hanswers : ∀ k, s.answers k = 0 := fun k => by simp [Settings.answers, hreply]
    have hone : σ.inbox .client = [s.ack .server i] := by
      simp [hinbox, Settings.response, hreply]
    rw [Scene.take_of_cons _ _ hone] at h₁
    simp only [hreply, Bool.false_eq_true, if_false, List.append_nil] at htold
    rw [hanswers, ← hanswers (i + 1)] at hn₂
    simp only [Bool.false_eq_true, if_false]
    refine gets_next hs rfl htold hn₂ fun c' hc' => hQ network₁ c' n₂ hc' ?_
    simpa [Settings.thanks, hreply, Scene.airs] using h₁
  | true =>
    have hanswers : ∀ k, s.answers k = k := fun k => by simp [Settings.answers, hreply]
    have hmore : (σ.take .client).inbox .client = [s.datagram .server i] := by
      simp [Scene.take, hinbox, Settings.response, hreply]
    simp only [hreply, if_true] at htold
    rw [hanswers] at hn₂
    simp only [if_true, gets_bind]
    refine Standing.gets_recvTimeout h₁ s.replyTimeout ?_
    simp only [proceeds_ok, replied]
    refine comes ?_
    simp only [Client.turn, gets_bind]
    obtain ⟨rest, hrest⟩ := Deadline.left_after σ.now hs.replyTimeout
    refine hn₂.gets_receiving_datagram hs h₁ hboard (by decide) hrest hmore
      fun network₂ n₃ hn₃ h₂ => ?_
    refine comes ?_
    simp only [Client.turn, gets_bind]
    refine hn₃.gets_receiving_delivery fun n₄ hn₄ => ?_
    rw [Scene.take_of_cons _ _ hmore, Scene.take, Scene.put_put] at h₂
    have hn₄' : Standing s .client (i + 1) (s.answers (i + 1)) none [] n₄ := by
      rw [hanswers]
      exact hn₄
    refine gets_next hs rfl htold hn₄' fun c' hc' => hQ network₂ c' n₄ hc' ?_
    simpa [Settings.thanks, hreply, Scene.airs] using h₂

end

end Client
end Simulation
end PacketRadio
