/-
# The course of a simulation in which nothing goes wrong

rflink specification, §10: `simulate` without fault injection.

The client sends one datagram after another, and each is over before the next
one is sent.

| phase | the client | waits for the client | waits for the server |
| --- | --- | --- | --- |
| between | is about to send a datagram | nothing | what is left of the one before |
| sent | waits | nothing | the datagram, and what is left of the one before |
| answered | waits | what it waits for | nothing |
| ended | has finished | nothing | what is left of the last one |

While the client waits the server looks at its radio once in each pause of the
client, and the other way round, so no wait ever runs out.  The node that
listens looks at its radio as often.  If the pause between datagrams is longer
than that, never more than one exchange waits for it, so it misses nothing.

Main statements: `Goes.wakes` and `Goes.run`.
-/

import PacketRadio.Proofs.Simulation.Moment
import PacketRadio.Proofs.Simulation.Transcript

namespace PacketRadio
namespace Simulation

open Link (Channel Node)
open Scene (Shows)

variable {s : Settings} {σ σ' : Scene} {m : Moment} {i : Nat}

/-! ## Time -/

namespace Settings

/-- When a datagram is sent at the latest. -/
def due (s : Settings) (i : Nat) : Nat :=
  i * (s.ackTimeout + s.interval)

/-- When everybody has finished at the latest. -/
def horizon (s : Settings) : Nat :=
  s.due s.count + serverPatience

theorem due_succ (s : Settings) (i : Nat) : s.due (i + 1) = s.due i + (s.ackTimeout + s.interval) :=
  Nat.succ_mul ..

/-- A datagram is due with time to spare. -/
theorem due_le {i : Nat} (h : i ≤ s.count) : s.due i + serverPatience ≤ s.horizon :=
  Nat.add_le_add_right (Nat.mul_le_mul_right _ h) _

/-- The clock reaches to the end. -/
theorem Calm.horizon_lt (hs : s.Calm) : s.horizon + s.ackTimeout < Deadline.beyond := by
  have hclock := hs.clock
  have hsecond : serverPatience ≤ Duration.second := by decide
  rw [Nat.succ_mul] at hclock
  unfold horizon due
  omega

end Settings

/-! ## The two that talk -/

/-- How far the exchange at hand is. -/
inductive Phase where
  /-- It has not begun. -/
  | between
  /-- The datagram has been sent. -/
  | sent
  /-- It has been acknowledged, and answered if it was to be. -/
  | answered
  /-- There is none any more. -/
  | ended
  deriving DecidableEq

/-- The client and the server are at this phase of an exchange. -/
inductive Talk (s : Settings) (σ : Scene) : Phase → Option Standby → Option Standby → Prop where
  /-- The client is about to send the datagram of this number, from zero. -/
  | between {i wake wake' : Nat} {c : Client} {sv : Server} {n n' : Node} (hi : i ≤ s.count)
      (hclient : Client.Between s i c n) (hinbox : σ.inbox .client = [])
      (hserver : Server.Attends s i s.horizon wake' sv n' (σ.inbox .server))
      (hlog : σ.log = s.exchanges i) (hdue : wake ≤ s.due i) (hnear : wake' ≤ wake + pollInterval) :
      Talk s σ .between (some ⟨.client c, n, wake⟩) (some ⟨.server sv, n', wake'⟩)
  /-- The datagram waits for the server. -/
  | sent {i started deadline wake wake' : Nat} {c : Client} {sv : Server} {n n' : Node}
      {left : List Frame} (hi : i < s.count) (hclient : Client.Waiting s i started deadline c n)
      (hinbox : σ.inbox .client = []) (hserver : Server.Attends s i s.horizon wake' sv n' left)
      (hinbox' : σ.inbox .server = left ++ [s.datagram .client i])
      (hlog : σ.log = s.exchanges i ++ [s.datagram .client i])
      (hdue : deadline ≤ s.due i + s.ackTimeout) (hwait : wake < deadline)
      (hsoon : wake' + pollInterval < deadline) (hnear : wake ≤ wake' + pollInterval) :
      Talk s σ .sent (some ⟨.client c, n, wake⟩) (some ⟨.server sv, n', wake'⟩)
  /-- What comes back waits for the client. -/
  | answered {i started deadline wake wake' : Nat} {c : Client} {sv : Server} {n n' : Node}
      (hi : i < s.count) (hclient : Client.Waiting s i started deadline c n)
      (hinbox : σ.inbox .client = s.response i)
      (hserver : Server.Attends s (i + 1) s.horizon (wake + pollInterval) sv n' (s.thanks i))
      (hinbox' : σ.inbox .server = [])
      (hlog : σ.log = s.exchanges i ++ s.datagram .client i :: s.response i)
      (hdue : deadline ≤ s.due i + s.ackTimeout) (hwait : wake < deadline)
      (hnear : wake' ≤ wake + pollInterval) :
      Talk s σ .answered (some ⟨.client c, n, wake⟩) (some ⟨.server sv, n', wake'⟩)
  /-- The client has finished, and the server is about to. -/
  | ending {wake : Nat} {sv : Server} {n : Node}
      (hserver : Server.Attends s s.count s.horizon wake sv n (σ.inbox .server))
      (hlog : σ.log = s.exchanges s.count) (hbound : wake ≤ s.horizon) :
      Talk s σ .ended none (some ⟨.server sv, n, wake⟩)
  /-- Both have finished. -/
  | ended (hlog : σ.log = s.exchanges s.count) : Talk s σ .ended none none

variable {phase phase' : Phase} {client client' server server' sniffer : Option Standby}

/-- Whatever else changes, the two are at the same phase. -/
theorem Talk.congr (h : Talk s σ phase client server)
    (hinbox : ∀ p ≠ .sniffer, σ'.inbox p = σ.inbox p) (hlog : σ'.log = σ.log) :
    Talk s σ' phase client server := by
  have hclient := hinbox .client (by decide)
  have hserver := hinbox .server (by decide)
  cases h with
  | between hi hc hempty hsv hl hdue hnear =>
    exact .between hi hc (hclient.trans hempty) (hserver ▸ hsv) (hlog.trans hl) hdue hnear
  | sent hi hc hempty hsv hwaits hl hdue hwait hsoon hnear =>
    exact .sent hi hc (hclient.trans hempty) hsv (hserver.trans hwaits) (hlog.trans hl) hdue hwait
      hsoon hnear
  | answered hi hc hwaits hsv hempty hl hdue hwait hnear =>
    exact .answered hi hc (hclient.trans hwaits) hsv (hserver.trans hempty) (hlog.trans hl) hdue
      hwait hnear
  | ending hsv hl hbound => exact .ending (hserver ▸ hsv) (hlog.trans hl) hbound
  | ended hl => exact .ended (hlog.trans hl)

/-- **What has been sent is numbered from zero.** -/
theorem Talk.numbered (hs : s.Calm) (h : Talk s σ phase client server) : Numbered s σ.log := by
  have hall := hs.numbered
  cases h with
  | between _ _ _ _ hl | ending _ hl | ended hl =>
    rw [hl]
    exact hall _
  | @sent i _ _ _ _ _ _ _ _ _ _ _ _ _ _ hl =>
    have hnext := hall (i + 1)
    rw [s.exchanges_succ, Settings.exchange, List.append_cons] at hnext
    rw [hl]
    exact hnext.before _
  | @answered i _ _ _ _ _ _ _ _ _ _ _ _ _ hl =>
    have hnext := hall (i + 1)
    rw [s.exchanges_succ, Settings.exchange, ← List.cons_append, ← List.append_assoc] at hnext
    rw [hl]
    exact hnext.before _

/-- Everybody wakes before the end. -/
theorem Talk.wake_le (h : Talk s σ phase client server) :
    (∀ b, client = some b → b.wake + pollInterval ≤ s.horizon) ∧
      ∀ b, server = some b → b.wake ≤ s.horizon := by
  have hpatience : pollInterval ≤ serverPatience := by decide
  cases h with
  | @between i wake wake' _ _ _ _ hi _ _ _ _ hdue hnear =>
    have hend := Settings.due_le hi
    simp only [Option.some.injEq, forall_eq']
    omega
  | @sent i _ _ wake wake' _ _ _ _ _ hi _ _ _ _ _ hdue hwait hsoon _ =>
    have hend := Settings.due_le (Nat.succ_le_of_lt hi)
    rw [s.due_succ] at hend
    simp only [Option.some.injEq, forall_eq']
    omega
  | @answered i _ _ wake wake' _ _ _ _ hi _ _ _ _ _ hdue hwait hnear =>
    have hend := Settings.due_le (Nat.succ_le_of_lt hi)
    rw [s.due_succ] at hend
    simp only [Option.some.injEq, forall_eq']
    omega
  | ending _ _ hbound => exact ⟨by simp, by simpa using hbound⟩
  | ended => exact ⟨by simp, by simp⟩

/-! ## The node that listens -/

/-- The most frames that wait for the node that listens in a phase. -/
def Phase.most : Phase → Nat
  | .sent => 1
  | .answered => 3
  | _ => 4

/-- What waits for the node that listens is of one exchange; it takes that before the next one
begins. -/
structure Few (waiting : List Frame) (phase : Phase) (client : Option Standby) (wake : Nat) :
    Prop where
  /-- There is not much. -/
  most : waiting.length ≤ phase.most
  /-- It wakes before the client. -/
  first : phase = .between → waiting = [] ∨ ∀ b, client = some b → wake < b.wake

section

variable {waiting fs : List Frame} {phase phase' : Phase} {client client' : Option Standby}
  {wake : Nat}

/-- More of the same exchange is sent, or the last one is over. -/
theorem Few.append (h : Few waiting phase client wake)
    (hmost : phase.most + fs.length ≤ phase'.most) (hphase : phase' ≠ .between) :
    Few (waiting ++ fs) phase' client' wake := by
  refine ⟨?_, fun heq => absurd heq hphase⟩
  have := h.most
  rw [List.length_append]
  omega

/-- An exchange begins. -/
theorem Few.begin {b : Standby} (h : Few waiting .between (some b) wake) (hfirst : b.wake ≤ wake)
    (hfs : fs.length ≤ 1) : Few (waiting ++ fs) .sent client' wake := by
  rcases h.first rfl with rfl | hlt
  · exact ⟨hfs, nofun⟩
  · exact absurd (hlt b rfl) (Nat.not_lt.2 hfirst)

/-- An exchange ends. -/
theorem Few.end (h : Few waiting .answered client wake) (hfs : fs.length ≤ 1)
    (hfirst : ∀ b, client' = some b → wake < b.wake) :
    Few (waiting ++ fs) .between client' wake := by
  refine ⟨?_, fun _ => .inr hfirst⟩
  have hmost : waiting.length ≤ 3 := h.most
  show _ ≤ 4
  rw [List.length_append]
  omega

end

/-- The node that listens, if there is one, listens or has finished.  Unless one datagram can follow
another too fast for it, it has heard all that has been sent but what waits for it. -/
inductive Ears (s : Settings) (σ : Scene) (phase : Phase) (client : Option Standby) :
    Option Standby → Prop where
  /-- There is none. -/
  | absent (ha : s.sniffer = none) : Ears s σ phase client none
  /-- It listens. -/
  | listening {a : Address} {sn : Sniffer} {n : Node} {wake : Nat} (ha : s.sniffer = some a)
      (hsn : sn.Alert) (hn : Overhears s a n) (hspoken : ∀ f ∈ σ.inbox .sniffer, Spoken s f)
      (hnear : ∀ b, client = some b → wake ≤ b.wake + pollInterval) (hbound : wake ≤ s.horizon)
      (hheard : pollInterval < s.interval → Few (σ.inbox .sniffer) phase client wake ∧
        ∃ heard, Recorded s heard n σ.channels ∧ heard ++ σ.inbox .sniffer = σ.log) :
      Ears s σ phase client (some ⟨.sniffer sn, n, wake⟩)
  /-- It has finished. -/
  | finished {a : Address} (ha : s.sniffer = some a) (hclient : client = none)
      (hheard : pollInterval < s.interval → σ.channels = [recording σ.log]) :
      Ears s σ phase client none

/-- Whoever leaves changes nothing for the node that listens. -/
theorem Ears.leave (h : Ears s σ phase client sniffer) (p : Party) :
    Ears s (σ.leave p) phase client sniffer := by
  have hinbox : (σ.leave p).inbox = σ.inbox := by cases p <;> rfl
  have hlog : (σ.leave p).log = σ.log := by cases p <;> rfl
  have hchannels : (σ.leave p).channels = σ.channels := by cases p <;> rfl
  cases h with
  | absent ha => exact .absent ha
  | listening ha hsn hn hspoken hnear hbound hheard =>
    rw [← hinbox, ← hchannels, ← hlog] at hheard
    exact .listening ha hsn hn (hinbox ▸ hspoken) hnear hbound hheard
  | finished ha hclient hheard =>
    rw [← hchannels, ← hlog] at hheard
    exact .finished ha hclient hheard

theorem Phase.most_le (phase : Phase) : phase.most ≤ Scene.room := by
  cases phase <;> decide

/-- **What somebody else sends** the node that listens hears. -/
theorem Ears.acted {p : Party} {now : Nat} {fs : List Frame}
    (h : Ears s σ phase client sniffer) (hp : p ≠ .sniffer) (hσ : σ.Acted p now fs σ')
    (hspoken : ∀ f ∈ fs, Spoken s f) (hover : client = none → fs = [])
    (hlater : ∀ b', client' = some b' → ∃ b, client = some b ∧ b.wake ≤ b'.wake)
    (hfew : ∀ waiting b, sniffer = some b → pollInterval < s.interval →
      (∀ c, client = some c → b.wake ≤ c.wake + pollInterval) → Few waiting phase client b.wake →
      Few (waiting ++ fs) phase' client' b.wake) :
    Ears s σ' phase' client' sniffer := by
  have hinbox := hσ.others .sniffer hp.symm
  have hchannels := hσ.channels
  cases h with
  | absent ha => exact .absent ha
  | @listening a sn n wake ha hsn hn hold hnear hbound hheard =>
    refine .listening ha hsn hn (fun f hf => ?_) (fun b' hb' => ?_) hbound fun hslow => ?_
    · rw [hinbox] at hf
      exact (Scene.mem_foldl_heard hf).elim (hold f) (hspoken f)
    · obtain ⟨b, hb, hle⟩ := hlater b' hb'
      have := hnear b hb
      omega
    · obtain ⟨hbefore, heard, hrecorded, hrest⟩ := hheard hslow
      have hafter := hfew _ _ rfl hslow hnear hbefore
      have hroom : (σ.inbox .sniffer).length + fs.length ≤ Scene.room := by
        rw [← List.length_append]
        exact Nat.le_trans hafter.most phase'.most_le
      rw [Scene.foldl_heard hroom] at hinbox
      refine ⟨hinbox ▸ hafter, heard, hchannels ▸ hrecorded, ?_⟩
      rw [hinbox, hσ.log, ← hrest, List.append_assoc]
  | finished ha hclient hheard =>
    have hclient' : client' = none := by
      cases hc : client' with
      | none => rfl
      | some b' =>
        obtain ⟨b, hb, -⟩ := hlater b' hc
        rw [hclient] at hb
        cases hb
    refine .finished ha hclient' fun hslow => ?_
    rw [hchannels, hheard hslow, hσ.log, hover hclient, List.append_nil]

/-- Somebody else who sends nothing changes nothing for the node that listens. -/
theorem Ears.silent {p : Party} {now : Nat} (h : Ears s σ phase client sniffer) (hp : p ≠ .sniffer)
    (hσ : σ.Acted p now [] σ') : Ears s σ' phase client sniffer := by
  refine h.acted hp hσ (by simp) (fun _ => rfl) (fun b' hb' => ⟨b', hb', le_rfl⟩) ?_
  exact fun waiting b' _ _ _ hfew => by rwa [List.append_nil]

/-! ## Everybody -/

/-- What holds of a simulation in which nothing goes wrong, from one stretch to the next. -/
structure Goes (s : Settings) (m : Moment) : Prop where
  /-- Each party is at the same phase. -/
  phase : ∃ phase, Talk s m.scene phase (m.cast .client) (m.cast .server) ∧
    Ears s m.scene phase (m.cast .client) (m.cast .sniffer)
  /-- The stop flag is set once the client has finished. -/
  stopped : m.scene.stopped = (m.cast .client).isNone
  /-- Who has not finished is on the medium. -/
  aboard : ∀ p b, m.cast p = some b → m.scene.aboard p = true
  /-- What the client has to tell when it has finished. -/
  client : m.cast .client = none → ∃ found n, m.ends .client = some (found, n) ∧
    Client.Told s s.count found
  /-- What the server has. -/
  server : m.cast .server = none → ∃ found n, m.ends .server = some (found, n) ∧
    Server.Told s s.count found ∧ n.telemetry.duplicates = 0

/-- **The next moment when a party pauses**, if it is at the same phase as the others again. -/
theorem Goes.pause (h : Goes s m) {p : Party} {b : Standby} (hb : m.cast p = some b)
    (haboard : σ.aboard = m.scene.aboard) (hstopped : σ.stopped = m.scene.stopped)
    {duration : Nat} {role : Role} {n : Node}
    (hphase : ∃ phase,
      Talk s σ phase ((m.settle p σ (.paused duration role n)).cast .client)
        ((m.settle p σ (.paused duration role n)).cast .server) ∧
      Ears s σ phase ((m.settle p σ (.paused duration role n)).cast .client)
        ((m.settle p σ (.paused duration role n)).cast .sniffer)) :
    Goes s (m.settle p σ (.paused duration role n)) := by
  have hnone : ∀ q, (m.settle p σ (.paused duration role n)).cast q = none ↔ m.cast q = none := by
    intro q
    by_cases hq : q = p
    · subst hq
      simp [Moment.settle, hb]
    · simp [Moment.settle, hq]
  refine ⟨hphase, ?_, fun q c hc => ?_, fun hq => ?_, fun hq => ?_⟩
  · rw [Bool.eq_iff_iff, Option.isNone_iff_eq_none, hnone, ← Option.isNone_iff_eq_none, ← h.stopped]
    exact Bool.eq_iff_iff.1 hstopped
  · have hsome : m.cast q ≠ none := fun hq => by simp [(hnone q).2 hq] at hc
    obtain ⟨c', hc'⟩ := Option.ne_none_iff_exists'.1 hsome
    show σ.aboard q = true
    rw [haboard]
    exact h.aboard q c' hc'
  · exact h.client ((hnone _).1 hq)
  · exact h.server ((hnone _).1 hq)

/-- **The next moment when a party has finished**, if the others are at the same phase again. -/
theorem Goes.finish (h : Goes s m) {p : Party} (haboard : σ.aboard = m.scene.aboard)
    {found : Findings} {n : Node}
    (hphase : ∃ phase,
      Talk s (σ.leave p) phase ((m.settle p σ (.finished found n)).cast .client)
        ((m.settle p σ (.finished found n)).cast .server) ∧
      Ears s (σ.leave p) phase ((m.settle p σ (.finished found n)).cast .client)
        ((m.settle p σ (.finished found n)).cast .sniffer))
    (hstopped : (σ.leave p).stopped = ((m.settle p σ (.finished found n)).cast .client).isNone)
    (hclient : p = .client → Client.Told s s.count found)
    (hserver : p = .server → Server.Told s s.count found ∧ n.telemetry.duplicates = 0) :
    Goes s (m.settle p σ (.finished found n)) := by
  have hcast : ∀ q ≠ p, (m.settle p σ (.finished found n)).cast q = m.cast q :=
    fun q hq => Function.update_of_ne hq ..
  have hends : ∀ q ≠ p, (m.settle p σ (.finished found n)).ends q = m.ends q :=
    fun q hq => Function.update_of_ne hq ..
  have hself : (m.settle p σ (.finished found n)).ends p = some (found, n) :=
    Function.update_self ..
  refine ⟨hphase, hstopped, fun q b hb => ?_, fun hnone => ?_, fun hnone => ?_⟩
  · have hq : q ≠ p := by
      rintro rfl
      simp [Moment.settle] at hb
    show (σ.leave p).aboard q = true
    rw [σ.leave_aboard hq, haboard]
    exact h.aboard q b ((hcast q hq).symm.trans hb)
  · by_cases hp : p = .client
    · subst hp
      exact ⟨found, n, hself, hclient rfl⟩
    · rw [hcast _ (Ne.symm hp)] at hnone
      rw [hends _ (Ne.symm hp)]
      exact h.client hnone
  · by_cases hp : p = .server
    · subst hp
      exact ⟨found, n, hself, hserver rfl⟩
    · rw [hcast _ (Ne.symm hp)] at hnone
      rw [hends _ (Ne.symm hp)]
      exact h.server hnone

/-! ## The client wakes -/

section

variable {b : Standby} {network : Network} (hs : s.Calm) (h : Goes s m)
  (hb : m.cast .client = some b) (hserver : m.cast .server = server)
  (hfirst : ∀ q c, m.cast q = some c → b.wake ≤ c.wake)
  (hn : Shows s.frame (m.scene.later b.wake) network)

include hs h hb hserver hfirst hn

/-- The client sends a datagram, unless there is none. -/
theorem Goes.client_between (htalk : Talk s m.scene .between (some b) server)
    (hears : Ears s m.scene .between (some b) (m.cast .sniffer)) :
    b.role.Comes s network b.node (Moment.Becomes s (Goes s) m .client b.wake) := by
  have hboard := h.aboard .client b hb
  have hstopped : m.scene.stopped = false := by rw [h.stopped, hb]; rfl
  have hpatient := hs.patient
  have hclock := hs.horizon_lt
  have hpatience : pollInterval ≤ serverPatience := by decide
  cases htalk with
  | @between i wake wake' c sv n n' hi hc hinbox hsv hlog hdue hnear =>
    have hle : wake ≤ wake' := hfirst .server _ hserver
    have hend := Settings.due_le hi
    by_cases hlt : i < s.count
    · refine Client.begins hn hboard hs hc hlt hinbox hstopped ?_ fun network' c' n₁ hc' hn' => ?_
      · show wake + s.ackTimeout < _
        omega
      have hacted := m.scene.acted_of_empty .client hinbox wake [s.datagram .client i]
      refine ⟨_, hn', rfl, ⟨by decide, rfl⟩, ?_⟩
      refine h.pause hb hacted.aboard hacted.stopped ⟨.sent, ?_, ?_⟩
      · show Talk s _ _ (some ⟨.client c', n₁, wake + pollInterval⟩) (m.cast .server)
        rw [hserver]
        refine .sent hlt hc' hacted.own hsv ?_ ?_ ?_ ?_ ?_ ?_
        · rw [← Scene.foldl_heard (Nat.le_trans (Nat.succ_le_succ hsv.length_le) (by decide))]
          exact hacted.others .server (by decide)
        · exact hacted.log.trans (by rw [hlog])
        · show wake + s.ackTimeout ≤ _
          omega
        · show wake + pollInterval < wake + s.ackTimeout
          omega
        · show wake' + pollInterval < wake + s.ackTimeout
          omega
        · omega
      · show Ears s _ _ (some ⟨.client c', n₁, wake + pollInterval⟩) (m.cast .sniffer)
        refine hears.acted (by decide) hacted ?_ nofun (by simp) ?_
        · simpa using Spoken.datagram (by decide) i
        · exact fun waiting b' hb' _ _ hfew => hfew.begin (hfirst .sniffer b' hb') (by simp)
    · obtain rfl : i = s.count := by omega
      have hacted := m.scene.acted_of_empty .client hinbox wake []
      refine Client.has_nothing hc (Nat.le_refl _) ?_
      refine ⟨_, hn, rfl, trivial, h.finish ?_ ⟨.ended, ?_, ?_⟩ ?_ (fun _ => hc.told) ?_⟩
      · rfl
      · show Talk s _ _ none (m.cast .server)
        rw [hserver]
        exact .ending hsv hlog (by omega)
      · show Ears s _ _ none (m.cast .sniffer)
        refine Ears.leave (hears.acted (by decide) hacted nofun nofun ?_ ?_) .client
        · rintro b' ⟨⟩
        · exact fun waiting b' hb' _ _ hfew => hfew.append (by decide) (by decide)
      · rfl
      · exact nofun

omit hs in
/-- The client goes on waiting for its datagram to be acknowledged. -/
theorem Goes.client_sent (htalk : Talk s m.scene .sent (some b) server)
    (hears : Ears s m.scene .sent (some b) (m.cast .sniffer)) :
    b.role.Comes s network b.node (Moment.Becomes s (Goes s) m .client b.wake) := by
  have hboard := h.aboard .client b hb
  cases htalk with
  | @sent i started deadline wake wake' c sv n n' left hi hc hinbox hsv hinbox' hlog hdue hwait
      hsoon hnear =>
    have hle : wake ≤ wake' := hfirst .server _ hserver
    have hpause : min pollInterval (deadline - wake) = pollInterval := by omega
    refine Client.goes_on_waiting hn hboard hc hinbox hwait fun network' c' hc' hn' => ?_
    rw [show (m.scene.later wake).now = wake from rfl, hpause]
    have hacted := m.scene.acted_of_empty .client hinbox wake []
    refine ⟨_, hn', rfl, ⟨by decide, rfl⟩, ?_⟩
    refine h.pause hb hacted.aboard hacted.stopped ⟨.sent, ?_, ?_⟩
    · show Talk s _ _ (some ⟨.client c', n, wake + pollInterval⟩) (m.cast .server)
      rw [hserver]
      exact .sent hi hc' hinbox hsv hinbox' hlog hdue (by omega) hsoon (by omega)
    · show Ears s _ _ (some ⟨.client c', n, wake + pollInterval⟩) (m.cast .sniffer)
      refine hears.acted (by decide) hacted nofun nofun (by simp) ?_
      exact fun waiting b' hb' _ _ hfew => hfew.append (Nat.le_refl _) (by decide)

/-- The client takes what has come back, and goes on to the next datagram or has finished. -/
theorem Goes.client_answered (htalk : Talk s m.scene .answered (some b) server)
    (hears : Ears s m.scene .answered (some b) (m.cast .sniffer)) :
    b.role.Comes s network b.node (Moment.Becomes s (Goes s) m .client b.wake) := by
  have hboard := h.aboard .client b hb
  have hpatience : pollInterval ≤ serverPatience := by decide
  cases htalk with
  | @answered i started deadline wake wake' c sv n n' hi hc hinbox hsv hinbox' hlog hdue hwait
      hnear =>
    have hle : wake ≤ wake' := hfirst .server _ hserver
    refine Client.ends hn hboard hs hc hinbox hwait fun network' c' n₁ hc' hn' => ?_
    have hacted := m.scene.acted_airs .client wake (s.thanks i)
    generalize ((m.scene.later wake).put .client []).airs .client (s.thanks i) = σ at hn' hacted
    have hall : σ.log = s.exchanges (i + 1) := by
      rw [hacted.log, hlog, s.exchanges_succ, Settings.exchange, List.append_assoc,
        List.cons_append]
    have hleft : σ.inbox .server = s.thanks i := by
      rw [hacted.others .server (by decide), hinbox']
      exact Scene.foldl_heard_nil (Nat.le_trans (s.length_thanks i) (by decide))
    have hsv' : Server.Attends s (i + 1) s.horizon wake' sv n' (σ.inbox .server) := by
      rw [hleft]
      exact hsv.earlier hnear
    have hend := Settings.due_le (Nat.succ_le_of_lt hi)
    rw [s.due_succ] at hend
    split
    · refine ⟨_, hn', hacted.now, ⟨hs.interval, rfl⟩, ?_⟩
      refine h.pause hb hacted.aboard hacted.stopped ⟨.between, ?_, ?_⟩
      · show Talk s _ _ (some ⟨.client c', n₁, σ.now + s.interval⟩) (m.cast .server)
        rw [hserver, hacted.now]
        refine .between hi hc' hacted.own hsv' hall ?_ (by omega)
        rw [s.due_succ]
        omega
      · show Ears s _ _ (some ⟨.client c', n₁, σ.now + s.interval⟩) (m.cast .sniffer)
        rw [hacted.now]
        refine hears.acted (by decide) hacted (s.spoken_thanks i) (by simp) (by simp) ?_
        refine fun waiting b' _ hslow hsoon hfew => hfew.end (s.length_thanks i) ?_
        simp only [Option.some.injEq, forall_eq'] at hsoon ⊢
        omega
    · obtain hlast : i + 1 = s.count := by omega
      rw [hlast] at hc' hsv' hall
      refine ⟨_, hn', hacted.now, trivial, ?_⟩
      refine h.finish hacted.aboard ⟨.ended, ?_, ?_⟩ rfl (fun _ => hc'.told) (by simp)
      · show Talk s _ _ none (m.cast .server)
        rw [hserver]
        exact .ending hsv' hall (by omega)
      · show Ears s _ _ none (m.cast .sniffer)
        refine Ears.leave (hears.acted (by decide) hacted (s.spoken_thanks i) (by simp)
          (by simp) ?_) .client
        refine fun waiting b' _ _ _ hfew => hfew.append ?_ (by decide)
        exact Nat.add_le_add_left (s.length_thanks i) 3

omit hserver in
/-- **The client keeps to the course.** -/
theorem Goes.client_wakes :
    b.role.Comes s network b.node (Moment.Becomes s (Goes s) m .client b.wake) := by
  obtain ⟨phase, htalk, hears⟩ := h.phase
  rw [hb] at htalk hears
  cases phase with
  | between => exact h.client_between hs hb rfl hfirst hn htalk hears
  | sent => exact h.client_sent hb rfl hfirst hn htalk hears
  | answered => exact h.client_answered hs hb rfl hfirst hn htalk hears
  | ended => cases htalk

end

/-! ## The server wakes -/

section

variable {b : Standby} {network : Network} (hs : s.Calm) (h : Goes s m)
  (hb : m.cast .server = some b) (hclient : m.cast .client = client)
  (hfirst : ∀ q c, m.cast q = some c → b.wake ≤ c.wake)
  (hn : Shows s.frame (m.scene.later b.wake) network)

include hs h hb hclient hfirst hn

/-- The server takes what is left for it, and goes on listening. -/
theorem Goes.server_between (htalk : Talk s m.scene .between client (some b))
    (hears : Ears s m.scene .between client (m.cast .sniffer)) :
    b.role.Comes s network b.node (Moment.Becomes s (Goes s) m .server b.wake) := by
  have hboard := h.aboard .server b hb
  have hclock := hs.horizon_lt
  cases htalk with
  | @between i wake wake' c sv n n' hi hc hinbox hsv hlog hdue hnear =>
    have hle : wake' ≤ wake := hfirst .client _ hclient
    have hend := Settings.due_le hi
    have hstopped : m.scene.stopped = false := by rw [h.stopped, hclient]; rfl
    have hacted := m.scene.acted_airs .server wake' []
    refine Server.Attends.finds_nothing hn hs hboard hsv rfl hstopped ?_ (by omega)
      fun network' sv' n₁ duration hpositive hshort _ hl hn' => ?_
    · show wake' + serverPatience ≤ _
      omega
    refine ⟨_, hn', rfl, ⟨hpositive, rfl⟩, ?_⟩
    refine h.pause hb hacted.aboard hacted.stopped ⟨.between, ?_, ?_⟩
    · show Talk s _ _ (m.cast .client) (some ⟨.server sv', n₁, wake' + duration⟩)
      rw [hclient]
      refine .between hi hc ((hacted.others .client (by decide)).trans hinbox) ?_ ?_ hdue (by omega)
      · rw [hacted.own]
        exact .listening hl
      · exact hacted.log.trans (by rw [hlog, List.append_nil])
    · show Ears s _ _ (m.cast .client) (m.cast .sniffer)
      rw [hclient]
      exact hears.silent (by decide) hacted

/-- The server takes the datagram, and answers it if it is to. -/
theorem Goes.server_sent (htalk : Talk s m.scene .sent client (some b))
    (hears : Ears s m.scene .sent client (m.cast .sniffer)) :
    b.role.Comes s network b.node (Moment.Becomes s (Goes s) m .server b.wake) := by
  have hboard := h.aboard .server b hb
  have hclock := hs.horizon_lt
  have hpatient := hs.patient
  cases htalk with
  | @sent i started deadline wake wake' c sv n n' left hi hc hinbox hsv hinbox' hlog hdue hwait
      hsoon hnear =>
    have hle : wake' ≤ wake := hfirst .client _ hclient
    have hend := Settings.due_le (Nat.succ_le_of_lt hi)
    rw [s.due_succ] at hend
    have hstopped : m.scene.stopped = false := by rw [h.stopped, hclient]; rfl
    have hacted := m.scene.acted_airs .server wake' (s.response i)
    -- what comes of it, whether it answers or not
    have hnext : ∀ network' sv' n₁ duration, 0 < duration → duration ≤ pollInterval →
        Server.Attends s (i + 1) s.horizon (wake + pollInterval) sv' n₁ (s.thanks i) →
        Shows s.frame (((m.scene.later wake').put .server []).airs .server (s.response i))
          network' →
        Moment.Becomes s (Goes s) m .server wake' network' (.paused duration (.server sv') n₁) := by
      intro network' sv' n₁ duration hpositive hshort hsv' hn'
      generalize ((m.scene.later wake').put .server []).airs .server (s.response i) = σ
        at hn' hacted
      refine ⟨σ, hn', hacted.now, ⟨hpositive, rfl⟩, ?_⟩
      refine h.pause hb hacted.aboard hacted.stopped ⟨.answered, ?_, ?_⟩
      · show Talk s _ _ (m.cast .client) (some ⟨.server sv', n₁, σ.now + duration⟩)
        rw [hclient, hacted.now]
        refine .answered hi hc ?_ hsv' hacted.own ?_ hdue hwait (by omega)
        · rw [hacted.others .client (by decide), hinbox]
          exact Scene.foldl_heard_nil (Nat.le_trans (s.length_response i) (by decide))
        · rw [hacted.log, hlog, List.append_assoc]
          rfl
      · show Ears s _ _ (m.cast .client) (m.cast .sniffer)
        rw [hclient]
        refine hears.acted (by decide) hacted (s.spoken_response i) nofun
          (fun b' hb' => ⟨b', hb', le_rfl⟩) ?_
        refine fun waiting b' _ _ _ hfew => hfew.append ?_ (by decide)
        exact Nat.add_le_add_left (s.length_response i) 1
    cases hreply : s.reply with
    | false =>
      have hthanks : s.thanks i = [] := by simp [Settings.thanks, hreply]
      refine hsv.takes hn hs hboard hinbox' hstopped ?_ (by omega) hreply
        fun network' sv' n₁ duration hpositive hshort _ hl hn' => ?_
      · show wake' + serverPatience ≤ _
        omega
      refine hnext network' sv' n₁ duration hpositive hshort ?_ hn'
      rw [hthanks]
      exact .listening hl
    | true =>
      have hthanks : s.thanks i = [s.ack .client i] := by simp [Settings.thanks, hreply]
      refine hsv.answers hn hs hboard hinbox' hstopped ?_ (by omega) hreply ?_
        fun network' sv' n₁ hr hn' => ?_
      · show wake' + serverPatience ≤ _
        omega
      · show wake' + s.ackTimeout < _
        omega
      refine hnext network' sv' n₁ pollInterval (by decide) (Nat.le_refl _) ?_ hn'
      rw [hthanks]
      refine .settling rfl hr ?_
      show wake + pollInterval < wake' + s.ackTimeout
      omega

/-- The server goes on waiting, for a datagram or for its answer to be acknowledged. -/
theorem Goes.server_answered (htalk : Talk s m.scene .answered client (some b))
    (hears : Ears s m.scene .answered client (m.cast .sniffer)) :
    b.role.Comes s network b.node (Moment.Becomes s (Goes s) m .server b.wake) := by
  have hboard := h.aboard .server b hb
  have hclock := hs.horizon_lt
  cases htalk with
  | @answered i started deadline wake wake' c sv n n' hi hc hinbox hsv hinbox' hlog hdue hwait
      hnear =>
    have hle : wake' ≤ wake := hfirst .client _ hclient
    have hend := Settings.due_le (Nat.succ_le_of_lt hi)
    rw [s.due_succ] at hend
    have hstopped : m.scene.stopped = false := by rw [h.stopped, hclient]; rfl
    have hnext : ∀ network' sv' n₁ duration σ, m.scene.Acted .server wake' [] σ →
        0 < duration → duration ≤ pollInterval →
        Server.Attends s (i + 1) s.horizon (wake + pollInterval) sv' n₁ (s.thanks i) →
        Shows s.frame σ network' →
        Moment.Becomes s (Goes s) m .server wake' network' (.paused duration (.server sv') n₁) := by
      intro network' sv' n₁ duration σ hacted hpositive hshort hsv' hn'
      refine ⟨σ, hn', hacted.now, ⟨hpositive, rfl⟩, ?_⟩
      refine h.pause hb hacted.aboard hacted.stopped ⟨.answered, ?_, ?_⟩
      · show Talk s _ _ (m.cast .client) (some ⟨.server sv', n₁, σ.now + duration⟩)
        rw [hclient, hacted.now]
        refine .answered hi hc ((hacted.others .client (by decide)).trans hinbox) hsv' hacted.own
          ?_ hdue hwait (by omega)
        rw [hacted.log, hlog, List.append_nil]
      · show Ears s _ _ (m.cast .client) (m.cast .sniffer)
        rw [hclient]
        exact hears.silent (by decide) hacted
    generalize hthanks : s.thanks i = left at hsv hnext
    cases hsv with
    | listening hl =>
      refine Server.Attends.finds_nothing hn hs hboard (.listening hl) hinbox' hstopped ?_
        (by omega) fun network' sv' n₁ duration hpositive hshort _ hl' hn' => ?_
      · show wake' + serverPatience ≤ _
        omega
      exact hnext network' sv' n₁ duration _ (m.scene.acted_airs .server wake' []) hpositive hshort
        (.listening hl') hn'
    | @settling j deadline' hj hr htime =>
      have hpause : min pollInterval (deadline' - wake') = pollInterval := by omega
      refine hr.goes_on_waiting hn hboard hinbox' ?_ fun network' sv' hr' hn' => ?_
      · show wake' < deadline'
        omega
      rw [show (m.scene.later wake').now = wake' from rfl, hpause]
      exact hnext network' sv' n' pollInterval _ (m.scene.acted_of_empty .server hinbox' wake' [])
        (by decide) (Nat.le_refl _) (.settling hj hr' htime) hn'

/-- The server finishes once it has looked at the stop flag. -/
theorem Goes.server_ended (htalk : Talk s m.scene .ended client (some b))
    (hears : Ears s m.scene .ended client (m.cast .sniffer)) :
    b.role.Comes s network b.node (Moment.Becomes s (Goes s) m .server b.wake) := by
  have hboard := h.aboard .server b hb
  cases htalk with
  | @ending wake sv n hsv hlog hbound =>
    have hstopped : m.scene.stopped = true := by rw [h.stopped, hclient]; rfl
    have hacted := m.scene.acted_airs .server wake []
    have hears' := hears.silent (by decide) hacted
    have hlog' := hacted.log.trans (by rw [hlog, List.append_nil])
    refine hsv.finds_stop hn hs hboard rfl hstopped
      (fun network' sv' n₁ duration hpositive hshort hend hl hn' => ?_)
      fun network' found n₁ hfound hn₁ hn' => ?_
    · refine ⟨_, hn', rfl, ⟨hpositive, rfl⟩, ?_⟩
      refine h.pause hb hacted.aboard hacted.stopped ⟨.ended, ?_, ?_⟩
      · show Talk s _ _ (m.cast .client) (some ⟨.server sv', n₁, wake + duration⟩)
        rw [hclient]
        refine .ending ?_ hlog' hend
        rw [hacted.own]
        exact .listening hl
      · show Ears s _ _ (m.cast .client) (m.cast .sniffer)
        rw [hclient]
        exact hears'
    · refine ⟨_, hn', rfl, trivial, ?_⟩
      refine h.finish hacted.aboard ⟨.ended, ?_, ?_⟩ ?_ nofun fun _ => ⟨hfound, hn₁.duplicates⟩
      · show Talk s _ _ (m.cast .client) none
        rw [hclient]
        exact .ended hlog'
      · show Ears s _ _ (m.cast .client) (m.cast .sniffer)
        rw [hclient]
        exact hears'.leave .server
      · show m.scene.stopped = (m.cast .client).isNone
        exact h.stopped

omit hclient in
/-- **The server keeps to the course.** -/
theorem Goes.server_wakes :
    b.role.Comes s network b.node (Moment.Becomes s (Goes s) m .server b.wake) := by
  obtain ⟨phase, htalk, hears⟩ := h.phase
  rw [hb] at htalk
  cases phase with
  | between => exact h.server_between hs hb rfl hfirst hn htalk hears
  | sent => exact h.server_sent hs hb rfl hfirst hn htalk hears
  | answered => exact h.server_answered hs hb rfl hfirst hn htalk hears
  | ended => exact h.server_ended hs hb rfl hfirst hn htalk hears

end

/-! ## The node that listens wakes -/

/-- What has been sent has been heard when nothing waits any more. -/
theorem hears_all {heard : List Frame} {n n' : Node} {channels : List Channel} (hs : s.Calm)
    (htalk : Talk s σ phase client server) (hrest : heard ++ σ.inbox .sniffer = σ.log)
    (hrecorded : Recorded s heard n σ.channels)
    (hhears : Hears s (σ.inbox .sniffer) n σ.channels n' channels) :
    Recorded s σ.log n' channels := by
  rw [← hrest]
  exact hhears heard (hrest ▸ htalk.numbered hs) hrecorded

/-- **The node that listens keeps to the course.** -/
theorem Goes.sniffer_wakes {b : Standby} {network : Network} (hs : s.Calm) (h : Goes s m)
    (hb : m.cast .sniffer = some b) (hfirst : ∀ q c, m.cast q = some c → b.wake ≤ c.wake)
    (hn : Shows s.frame (m.scene.later b.wake) network) :
    b.role.Comes s network b.node (Moment.Becomes s (Goes s) m .sniffer b.wake) := by
  have hboard := h.aboard .sniffer b hb
  obtain ⟨phase, htalk, hears⟩ := h.phase
  rw [hb] at hears
  cases hears with
  | @listening a sn n wake ha hsn hn₀ hspoken hnear hbound hheard =>
    -- the scene when the node has taken what waited for it
    have hothers : ∀ channels, ∀ p ≠ .sniffer,
        (((m.scene.later wake).put .sniffer []).fill channels).inbox p = m.scene.inbox p :=
      fun channels p hp => Scene.put_inbox_of_ne (m.scene.later wake) .sniffer hp []
    cases hclient : m.cast .client with
    | some c =>
      have hle : wake ≤ c.wake := hfirst .client c hclient
      have hstopped : m.scene.stopped = false := by rw [h.stopped, hclient]; rfl
      have hend := htalk.wake_le.1 c hclient
      refine Sniffer.goes_on_listening hs hn hboard ha hn₀ hspoken hstopped hsn
        fun network' n' channels hempties => ?_
      refine ⟨_, hempties.network, rfl, ⟨by decide, rfl⟩, h.pause hb ?_ ?_ ⟨phase, ?_, ?_⟩⟩
      · rfl
      · rfl
      · show Talk s _ _ (m.cast .client) (m.cast .server)
        exact htalk.congr (hothers channels) rfl
      · show Ears s _ _ (m.cast .client)
          (some ⟨.sniffer (.listening (.listening stopFlag)), n', wake + pollInterval⟩)
        rw [hclient]
        have hempty : (((m.scene.later wake).put .sniffer []).fill channels).inbox .sniffer = [] :=
          Scene.put_inbox_self (m.scene.later wake) .sniffer []
        refine .listening ha (.inr rfl) hempties.overhears (by simp [hempty])
          (by simpa using hle) ?_ fun hslow => ?_
        · show wake + pollInterval ≤ _
          omega
        · obtain ⟨-, heard, hrecorded, hrest⟩ := hheard hslow
          rw [hempty]
          refine ⟨⟨Nat.zero_le _, fun _ => .inl rfl⟩, m.scene.log, ?_, List.append_nil _⟩
          exact hears_all hs htalk hrest hrecorded hempties.hears
    | none =>
      have hstopped : m.scene.stopped = true := by rw [h.stopped, hclient]; rfl
      refine Sniffer.finds_stop hs hn hboard ha hn₀ hspoken hstopped hsn
        fun network' n' channels hempties => ?_
      refine ⟨_, hempties.network, rfl, trivial, ?_⟩
      refine h.finish ?_ ⟨phase, ?_, ?_⟩ ?_ nofun nofun
      · rfl
      · show Talk s _ _ (m.cast .client) (m.cast .server)
        exact htalk.congr (hothers channels) rfl
      · show Ears s _ _ (m.cast .client) none
        refine Ears.leave (.finished ha hclient fun hslow => ?_) .sniffer
        obtain ⟨-, heard, hrecorded, hrest⟩ := hheard hslow
        exact (hears_all hs htalk hrest hrecorded hempties.hears).waiting
      · show m.scene.stopped = (m.cast .client).isNone
        exact h.stopped

/-! ## To the end -/

/-- **Whoever wakes keeps to the course.** -/
theorem Goes.wakes (hs : s.Calm) (h : Goes s m) {p : Party} {b : Standby} (hb : m.cast p = some b)
    (hfirst : ∀ q c, m.cast q = some c → b.wake ≤ c.wake) {network : Network}
    (hn : Shows s.frame (m.scene.later b.wake) network) :
    b.role.Comes s network b.node (Moment.Becomes s (Goes s) m p b.wake) := by
  cases p with
  | client => exact h.client_wakes hs hb hfirst hn
  | server => exact h.server_wakes hs hb hfirst hn
  | sniffer => exact h.sniffer_wakes hs hb hfirst hn

/-- Everybody wakes before the end. -/
theorem Goes.wake_le (h : Goes s m) {p : Party} {b : Standby} (hb : m.cast p = some b) :
    b.wake ≤ s.horizon := by
  obtain ⟨phase, htalk, hears⟩ := h.phase
  cases p with
  | client => exact Nat.le_trans (Nat.le_add_right ..) (htalk.wake_le.1 b hb)
  | server => exact htalk.wake_le.2 b hb
  | sniffer =>
    rw [hb] at hears
    cases hears with
    | listening _ _ _ _ _ hbound _ => exact hbound

/-- **A simulation that is on course comes to its end**, and stays on course. -/
theorem Goes.run (hs : s.Calm) (h : Goes s m) {st : State} (hst : m.Of s st) :
    ∃ patience st' m', st.wakeNext.run s patience = some { st' with acting := none } ∧ Goes s m' ∧
      m'.Of s st' ∧ ∀ p, m'.cast p = none :=
  hst.run (fun _ hm _ _ hb => hm.wake_le hb)
    (fun _ hm _ _ hb hfirst _ hn => hm.wakes hs hb hfirst hn) h

end Simulation
end PacketRadio
