/-
# Deliveries follow send calls

rflink specification, §4.4: one-entry look-back per sender.

Between any nodes of one network, whatever is lost, damaged or repeated on the
way and in whatever order the nodes go on: the deliveries that a node hands
over from one sender are some of that sender's send calls, in order, none of
them twice, each with its destination, payload and number.

Copies reach a node in the order of the calls (`Reach.genuine`), and a node
never hands over one number twice in a row (`Reach.orderly`).  Two copies of
one call have one number, so that is enough: there is no need for the numbers
of different calls to differ.

Main statement: `Reach.deliveries_follow_calls`.
-/

import PacketRadio.Proofs.Network.Moves
import PacketRadio.Proofs.Network.Provenance

namespace PacketRadio

open Link (Datagram Delivery Ledger Occurrence arrival arrivals idsFrom)
open Link.Datagram (IsCall Follow)

/-- The sequence number that a result reports. -/
def Link.Reply.number : Link.Reply → Option UInt8
  | .sent id => some id
  | .outcome ended => some ended.id
  | _ => none

/-- Numbers that never fall and never stay the same rise. -/
theorem pairwise_lt_of_isChain {ks : List Nat} (hle : ks.Pairwise (· ≤ ·))
    (hne : ks.IsChain (· ≠ ·)) : ks.Pairwise (· < ·) := by
  rw [← List.isChain_iff_pairwise, List.isChain_iff_forall_rel_of_append_cons_cons]
  intro a b l₁ l₂ hl
  have hle' := List.isChain_iff_forall_rel_of_append_cons_cons.1 hle.isChain hl
  have hne' := List.isChain_iff_forall_rel_of_append_cons_cons.1 hne hl
  omega

/-- **Copies of which no two in a row have one number are of different calls.** -/
theorem Link.Datagram.Follow.strict {calls : List Datagram} {ds : List Delivery}
    (h : Follow calls ds) (hids : (ds.map (·.id)).IsChain (· ≠ ·)) :
    ∃ ks : List Nat, ks.Pairwise (· < ·) ∧ List.Forall₂ (IsCall calls) ds ks := by
  obtain ⟨ks, hks, hds⟩ := h
  have hmap : ds.map (·.id) = ks.map UInt8.ofNat := by
    clear hids hks
    induction hds with
    | nil => rfl
    | cons hd _ ih =>
      obtain ⟨-, -, -, -, hid⟩ := hd
      rw [List.map_cons, List.map_cons, hid, ih]
  rw [hmap, List.isChain_map] at hids
  exact ⟨ks, pairwise_lt_of_isChain hks (hids.imp fun _ _ h heq => h (congrArg _ heq)), hds⟩

namespace Roster

variable {R : Roster} {tr : Trace} {s : System}

/-- A delivery is of a frame that came in. -/
theorem Reach.handed_subset (h : R.Reach tr s) (q : Nat) :
    (R.ledger tr q).handed.Sublist (arrivals R.frame (R.reached tr s q)) := by
  rw [reached, Link.arrivals_append]
  exact (h.orderly q).1.trans (List.sublist_append_left _ _)

/-- **Whatever a node hands over comes from a node.** -/
theorem Reach.handed_src (h : R.Reach tr s) {q : Nat} {d : Delivery}
    (hd : d ∈ (R.ledger tr q).handed) : ∃ i c, R.config i = some c ∧ d.src = c.address := by
  obtain ⟨r, hr, harrival⟩ := List.mem_filterMap.1 ((h.handed_subset q).subset hd)
  obtain ⟨f, hf, -, rfl⟩ := Link.arrival_eq_some_iff.1 harrival
  obtain ⟨i, c, hc, hsrc, -⟩ := (h.genuine q).known r hr f hf
  exact ⟨i, c, hc, hsrc⟩

/-- **What a node hands over from one sender are some of its send calls, in order.** -/
theorem Reach.handed_calls (h : R.Reach tr s) (q : Nat) {i : Nat} {c : Link.Config}
    (hc : R.config i = some c) :
    ∃ ks : List Nat, ks.Pairwise (· < ·) ∧ List.Forall₂ (IsCall (R.ledger tr i).calls)
      ((R.ledger tr q).handed.filter (·.src = c.address)) ks := by
  have hfollow := ((h.genuine q).follow hc).sublist ((h.handed_subset q).filter _)
  exact hfollow.strict ((h.orderly q).2 c.address)

/-- **A send that has ended reports the number of its call.** -/
theorem Reach.reported (h : R.Reach tr s) {i : Nat} {before after : Trace} {reply : Link.Reply}
    {id : UInt8} (htr : tr = before ++ (i, .ended (.ok reply)) :: after)
    (hid : reply.number = some id) :
    ∃ call, (R.ledger before i).calls[(R.ledger before i).calls.length - 1]? = some call ∧
      id = UInt8.ofNat ((R.ledger before i).calls.length - 1) := by
  rw [htr, List.append_cons] at h
  obtain ⟨s₁, h₁, -⟩ := Reach.split h
  obtain ⟨c, hc, hconcludes⟩ := h₁.concludes
  cases reply with
  | sent id' =>
    obtain rfl := Option.some.inj hid
    obtain ⟨call, hcall⟩ := Option.isSome_iff_exists.1 hconcludes.1
    exact ⟨call, R.ledger_atLatest before i call hcall, hconcludes.2⟩
  | outcome outcome =>
    obtain rfl := Option.some.inj hid
    obtain ⟨call, hcall⟩ := Option.isSome_iff_exists.1 hconcludes.1
    exact ⟨call, R.ledger_atLatest before i call hcall, hconcludes.2.1⟩
  | _ => cases hid

/-- **No creation, no duplication, no reordering.**  Whatever a node hands over comes from a node
of the network; what it hands over from one sender are some of the sender's send calls, in order
and none of them twice, each with its destination, payload and number; and the number of a call is
the one that the call reports when it is over. -/
theorem Reach.deliveries_follow_calls (h : R.Reach tr s) (q : Nat) :
    (∀ d ∈ (R.ledger tr q).handed, ∃ i c, R.config i = some c ∧ d.src = c.address) ∧
      (∀ i c, R.config i = some c → ∃ ks : List Nat, ks.Pairwise (· < ·) ∧
        List.Forall₂ (IsCall (R.ledger tr i).calls)
          ((R.ledger tr q).handed.filter (·.src = c.address)) ks) ∧
      ∀ i before after reply id, tr = before ++ (i, .ended (.ok reply)) :: after →
        reply.number = some id →
        ∃ call, (R.ledger before i).calls[(R.ledger before i).calls.length - 1]? = some call ∧
          id = UInt8.ofNat ((R.ledger before i).calls.length - 1) :=
  ⟨fun _ hd => h.handed_src hd, fun _ _ hc => h.handed_calls q hc,
    fun _ _ _ _ _ htr hid => h.reported htr hid⟩

/-- The first node of the pair sends a datagram twice, because nobody answers in time. -/
def sentTwice : List Move :=
  Move.run 0 (.sendReliableWith 2 [7] 2 1) 18 ++ Move.run 1 .poll 9 ++ Move.run 1 .poll 8

/-- The second node hears both copies and hands over one. -/
theorem sentTwice_handed_once :
    let tr := (pairUp.moves sentTwice).1
    (arrivals pair.frame (pair.ledger tr 1).heard).length = 2 ∧
      (pair.ledger tr 1).handed = [⟨2, 1, 0, 0, [7], -40⟩] ∧
      ∃ ks : List Nat, ks.Pairwise (· < ·) ∧ List.Forall₂ (IsCall (pair.ledger tr 0).calls)
        ((pair.ledger tr 1).handed.filter (·.src = 1)) ks := by
  intro tr
  have h := reach_pairUp.moves sentTwice
  rw [List.nil_append] at h
  exact ⟨by decide +kernel, by decide +kernel,
    (h.deliveries_follow_calls 1).2.1 0 { address := 1 } rfl⟩

end Roster
end PacketRadio
