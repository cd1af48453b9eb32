/-
# What is sent in a simulation in which nothing goes wrong

rflink specification, §10: `simulate` without fault injection.

Each datagram is sent once and acknowledged, and so is each answer.

| sent for one datagram | by |
| --- | --- |
| the datagram | the client |
| its acknowledgment | the server |
| the answer, if there is to be one | the server |
| its acknowledgment | the client |

Main statements: `Settings.Calm.numbered`, `Settings.length_exchanges` and
`Settings.datagrams_exchanges`.
-/

import PacketRadio.Proofs.Simulation.Overhearing

namespace PacketRadio
namespace Simulation

open Link (Delivery)

variable {s : Settings} {i : Nat}

namespace Settings

/-- All that is sent for one datagram, in order. -/
def exchange (s : Settings) (i : Nat) : List Frame :=
  s.datagram .client i :: (s.response i ++ s.thanks i)

/-- All that is sent for the first datagrams. -/
def exchanges (s : Settings) (i : Nat) : List Frame :=
  (List.range i).flatMap s.exchange

/-- What is handed over for one datagram, to whom it is for or who listens. -/
def handed (s : Settings) (i : Nat) : List Delivery :=
  s.delivery .client i :: if s.reply then [s.delivery .server i] else []

theorem exchanges_succ (s : Settings) (i : Nat) :
    s.exchanges (i + 1) = s.exchanges i ++ s.exchange i := by
  simp [exchanges, List.range_succ]

theorem length_response (s : Settings) (i : Nat) : (s.response i).length ≤ 2 := by
  unfold response
  split <;> simp

theorem length_thanks (s : Settings) (i : Nat) : (s.thanks i).length ≤ 1 := by
  unfold thanks
  split <;> simp

theorem spoken_response (s : Settings) (i : Nat) : ∀ f ∈ s.response i, Spoken s f := by
  have hack : Spoken s (s.ack .server i) := .ack (by decide) i
  have hanswer : Spoken s (s.datagram .server i) := .datagram (by decide) i
  unfold response
  split <;> simp [hack, hanswer]

theorem spoken_thanks (s : Settings) (i : Nat) : ∀ f ∈ s.thanks i, Spoken s f := by
  have hack : Spoken s (s.ack .client i) := .ack (by decide) i
  unfold thanks
  split <;> simp [hack]

/-- **Two frames are sent for a datagram**, and two for its answer. -/
theorem length_exchanges (s : Settings) (i : Nat) :
    (s.exchanges i).length = if s.reply then 4 * i else 2 * i := by
  induction i with
  | zero => simp [exchanges]
  | succ i ih =>
    rw [exchanges_succ, List.length_append, ih]
    cases hreply : s.reply <;> simp [exchange, response, thanks, hreply] <;> omega

/-- **The datagrams and the answers**, as they are handed over. -/
theorem datagrams_exchanges (s : Settings) (i : Nat) :
    datagrams (s.exchanges i) = (List.range i).flatMap s.handed := by
  induction i with
  | zero => rfl
  | succ i ih =>
    have hsplit : datagrams (s.exchanges i ++ s.exchange i) =
        datagrams (s.exchanges i) ++ datagrams (s.exchange i) := by simp [datagrams]
    have hexchange : datagrams (s.exchange i) = s.handed i := by
      cases hreply : s.reply <;>
        simp [datagrams, exchange, response, thanks, handed, hreply, datagram_isAck, ack_isAck,
          delivery]
    rw [exchanges_succ, hsplit, ih, hexchange, List.range_succ, List.flatMap_append]
    simp

/-- A party's datagrams among all that is sent. -/
def sentBy (s : Settings) (i : Nat) : Party → Nat
  | .client => i
  | _ => s.answers i

theorem Calm.countP_exchanges (hs : s.Calm) {p : Party} (hp : p ≠ .sniffer) (i : Nat) :
    (s.exchanges i).countP (s.isFrom p) = s.sentBy i p := by
  induction i with
  | zero => cases p <;> simp [exchanges, sentBy, answers]
  | succ i ih =>
    have hclient := isFrom_datagram hs (p := .client) (by decide) hp i
    have hserver := isFrom_datagram hs (p := .server) (by decide) hp i
    rw [exchanges_succ, List.countP_append, ih]
    cases hreply : s.reply <;> cases p <;>
      simp_all [exchange, response, thanks, sentBy, answers, isFrom_ack]

/-- **All that is sent is numbered from zero.** -/
theorem Calm.numbered (hs : s.Calm) (i : Nat) : Numbered s (s.exchanges i) := by
  induction i with
  | zero => exact numbered_nil
  | succ i ih =>
    have hdatagram := ih.append_datagram (p := .client) (i := i) (by decide)
      (hs.countP_exchanges (by decide) i)
    have hack := hdatagram.append (.ack (p := .server) (by decide) i)
    rw [exchanges_succ]
    cases hreply : s.reply with
    | false => simpa [exchange, response, thanks, hreply] using hack
    | true =>
      have hcount : (s.exchanges i ++ [s.datagram .client i] ++ [s.ack .server i]).countP
          (s.isFrom .server) = i := by
        have hnone := isFrom_datagram hs (p := .client) (q := .server) (by decide) (by decide) i
        have hserver := hs.countP_exchanges (p := .server) (by decide) i
        simp [List.countP_append, isFrom_ack, hnone, hserver, sentBy, answers, hreply]
      have hanswer := hack.append_datagram (p := .server) (by decide) hcount
      have hthanks := hanswer.append (.ack (p := .client) (by decide) i)
      simpa [exchange, response, thanks, hreply] using hthanks

end Settings
end Simulation
end PacketRadio
