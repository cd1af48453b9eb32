/-
# What is known of each peer

rflink specification, §3: the per-peer receive state; §4.5: the last RSSI per
peer.

A table from addresses to values, kept in the order of the addresses.

Main statements: `get?_insert_self` and `get?_insert_of_ne`, which make the
table a function of the address.
-/

import PacketRadio.Frame.Header

namespace PacketRadio
namespace Link

/-- A value for some of the addresses. -/
structure PeerTable (α : Type) where
  /-- The entries by rising address. -/
  entries : List (Address × α) := []
  deriving DecidableEq, Repr

namespace PeerTable

variable {α : Type}

/-- The value of an address. -/
def get? (t : PeerTable α) (a : Address) : Option α :=
  t.entries.lookup a

/-- The number of addresses with a value. -/
def size (t : PeerTable α) : Nat :=
  t.entries.length

/-- Puts an entry in its place, over the old one of the same address. -/
def put (a : Address) (v : α) : List (Address × α) → List (Address × α)
  | [] => [(a, v)]
  | (b, w) :: rest =>
    if a < b then (a, v) :: (b, w) :: rest
    else if a = b then (a, v) :: rest
    else (b, w) :: put a v rest

/-- Gives an address a value. -/
def insert (t : PeerTable α) (a : Address) (v : α) : PeerTable α :=
  ⟨put a v t.entries⟩

@[simp] theorem get?_empty (a : Address) : (⟨[]⟩ : PeerTable α).get? a = none := rfl

/-- **The address that was given a value has it.** -/
@[simp] theorem get?_insert_self (t : PeerTable α) (a : Address) (v : α) :
    (t.insert a v).get? a = some v := by
  have key : ∀ l : List (Address × α), (put a v l).lookup a = some v := by
    intro l
    induction l with
    | nil => simp [put]
    | cons p rest ih =>
      obtain ⟨b, w⟩ := p
      unfold put
      split
      · simp
      · split
        · simp
        · rename_i hne
          have hab : (a == b) = false := by simpa using hne
          simpa [List.lookup_cons, hab] using ih
  exact key t.entries

/-- **The others keep theirs.** -/
theorem get?_insert_of_ne (t : PeerTable α) {a c : Address} (v : α) (h : c ≠ a) :
    (t.insert a v).get? c = t.get? c := by
  have hca : (c == a) = false := by simpa using h
  have key : ∀ l : List (Address × α), (put a v l).lookup c = l.lookup c := by
    intro l
    induction l with
    | nil => simp [put, List.lookup_cons, hca]
    | cons p rest ih =>
      obtain ⟨b, w⟩ := p
      unfold put
      split
      · simp [List.lookup_cons, hca]
      · split
        · rename_i heq
          subst heq
          simp [List.lookup_cons, hca]
        · simp [List.lookup_cons, ih]
  exact key t.entries

end PeerTable
end Link
end PacketRadio
