/-
This file settles what becomes of a message that arrives after its sender has gone on to
another ratchet key. The receiver keeps the chains of up to eight ratchet keys for it, but
`decrypt` compares the key of the message with the one last seen only: any other key turns
the ratchet, and the chain kept for the message is replaced by one neither side derives.
So a late message is received in place exactly as long as nothing under a newer key came
before it.
-/

import Mathlib
import Insub.Crypto.Agreement

namespace Insub

open Rust

variable (crypto : Primitives)

/-- A genuine envelope, not delivered yet, under a ratchet key its sender has left. The
receiver still holds the chain of that key, and the number was skipped and saved there or
lies at most `maxSkip` ahead. -/
structure Side.Late (sender receiver : Side) (position : Nat) (envelope : Envelope) : Prop where
  genuine : sender.SentAt position envelope
  once : position ∉ sender.delivered
  earlier : envelope.ratchetKey ≠ sender.ratchetKey crypto
  held : ∃ chain used,
    receiver.ratchet.receivingChains.lookup envelope.ratchetKey = some (chain, used) ∧
      (envelope.number ∈ chain.skippedKeys ∨
        (chain.messageNumber < envelope.number ∧
          envelope.number ≤ chain.messageNumber + Chain.maxSkip))

/-- Whatever is delivered from here on decrypts to the plaintext that was encrypted. -/
def World.Synchronised (world : World) : Prop :=
  ∀ last, Relation.ReflTransGen (World.Step crypto) world last →
    ∀ receiver position envelope env,
      Side.Deliverable crypto (last receiver.other) (last receiver) position envelope env →
        ((last receiver).decrypt crypto envelope env).1 = .ok envelope.plaintext

/-- The envelope decrypts to its plaintext on the chain kept for it. Nothing else of the
receiver moves, times aside, and the two sides stay synchronised. -/
structure World.ReceivesInPlace (world : World) (receiver : Party) (position : Nat)
    (envelope : Envelope) (env : Surroundings) : Prop where
  opened : ((world receiver).decrypt crypto envelope env).1 = .ok envelope.plaintext
  rootKey : ((world receiver).decrypt crypto envelope env).2.ratchet.rootKey =
    (world receiver).ratchet.rootKey
  sendingChain : ((world receiver).decrypt crypto envelope env).2.ratchet.sendingChain =
    (world receiver).ratchet.sendingChain
  ourDhPriv : ((world receiver).decrypt crypto envelope env).2.ratchet.ourDhPriv =
    (world receiver).ratchet.ourDhPriv
  theirDhPub : ((world receiver).decrypt crypto envelope env).2.ratchet.theirDhPub =
    (world receiver).ratchet.theirDhPub
  otherChains : ∀ key, key ≠ envelope.ratchetKey →
    (((world receiver).decrypt crypto envelope env).2.ratchet.receivingChains.lookup key).map
        Prod.fst =
      ((world receiver).ratchet.receivingChains.lookup key).map Prod.fst
  synchronised : (world.deliver crypto receiver position envelope env).Synchronised crypto

variable {crypto}

theorem World.Agreed.synchronised (commutes : crypto.DiffieHellmanCommutes)
    (opens : crypto.OpensSealed) {world : World} (agreed : world.Agreed crypto) :
    world.Synchronised crypto := by
  intro last run receiver position envelope env deliverable
  exact ((agreed.run commutes opens run).deliver commutes opens deliverable).1

/-- Putting back the chain of the current ratchet key leaves the other chains alone. -/
theorem Side.lookup_putChain_ne {receiver : Side} {chain : Chain} {now : Nat} {key : Key}
    (different : key ≠ receiver.ratchet.theirDhPub) :
    (receiver.putChain crypto chain now).ratchet.receivingChains.lookup key =
      receiver.ratchet.receivingChains.lookup key :=
  AList.lookup_insert_ne different

/-- A number that was skipped and saved has been passed. -/
theorem Chain.Represents.number_near {seed : Key} {chain : Chain} {window : ReceiveWindow}
    {number : Nat} (represents : chain.Represents crypto seed window)
    (selectable : number ∈ chain.skippedKeys ∨
      (chain.messageNumber < number ∧ number ≤ chain.messageNumber + Chain.maxSkip)) :
    number ≤ chain.messageNumber + Chain.maxSkip := by
  rcases selectable with saved | ⟨_, near⟩
  · have found := AList.lookup_isSome.mpr saved
    rw [represents.skipped] at found
    by_cases outstanding : number ∈ window.outstanding
    · have bound := window.passed number outstanding
      have reached := represents.number
      omega
    · rw [if_neg outstanding] at found
      cases found
  · exact near

/-- A late envelope under the ratchet key last seen is one the network may deliver. -/
theorem Flow.late_near {sender receiver : Side} {seed : Key}
    (flow : Flow crypto sender receiver seed) {position : Nat} {envelope : Envelope}
    (late : Side.Late crypto sender receiver position envelope)
    (current : envelope.ratchetKey = receiver.ratchet.theirDhPub) :
    envelope.number ≤ receiver.reached envelope.ratchetKey + Chain.maxSkip := by
  obtain ⟨chain, used, held, selectable⟩ := late.held
  obtain ⟨found, time, window, foundHeld, represents, _⟩ := flow.held
  have same : (found, time) = (chain, used) := by
    rw [← current, held] at foundHeld
    exact (Option.some.inj foundHeld).symm
  obtain ⟨rfl, rfl⟩ := Prod.mk.inj same
  rw [Side.reached, held]
  exact represents.number_near selectable

/-- Under the ratchet key last seen, a late envelope is received in place. -/
theorem World.Agreed.receivesInPlace (commutes : crypto.DiffieHellmanCommutes)
    (opens : crypto.OpensSealed) {world : World} (agreed : world.Agreed crypto)
    {receiver : Party} {position : Nat} {envelope : Envelope} (env : Surroundings)
    (late : Side.Late crypto (world receiver.other) (world receiver) position envelope)
    (current : envelope.ratchetKey = (world receiver).ratchet.theirDhPub) :
    world.ReceivesInPlace crypto receiver position envelope env := by
  have inPlace : ∀ chain : Chain, (world receiver).decrypt crypto envelope env =
      (.ok envelope.plaintext, (world receiver).putChain crypto chain env.usedAt) →
        (world.deliver crypto receiver position envelope env).Agreed crypto →
          world.ReceivesInPlace crypto receiver position envelope env := by
    intro chain run next
    refine ⟨?_, ?_, ?_, ?_, ?_, ?_, next.synchronised commutes opens⟩ <;> rw [run]
    · rfl
    · rfl
    · rfl
    · rfl
    · intro key different
      rw [Side.lookup_putChain_ne (current ▸ different)]
  obtain ⟨leader, leaderSeed, followerSeed, heldSeed, synced⟩ := agreed
  rcases receiver.eq_or_eq_other leader with rfl | rfl
  · obtain ⟨chain, run, next⟩ := synced.leader_receives opens env late.genuine late.once
      (synced.followerFlow.late_near late current) current
    refine inPlace chain run ⟨receiver, leaderSeed, followerSeed, heldSeed, ?_⟩
    rw [World.deliver_receiver, World.deliver_sender, run]
    exact next
  · rw [Party.other_other] at late
    have sender := World.deliver_sender crypto world leader.other position envelope env
    rw [Party.other_other] at sender
    obtain ⟨chain, run, next⟩ := synced.follower_receives opens env late.genuine late.once
      (synced.leaderFlow.late_near late current) current
    refine inPlace chain run ⟨leader, leaderSeed, followerSeed, heldSeed, ?_⟩
    rw [sender, World.deliver_receiver, run]
    exact next

/-- In every run, a late envelope is received in place if and only if it was sent under the
ratchet key the receiver has last seen. -/
theorem late_receivesInPlace_iff (crypto : Primitives) (commutes : crypto.DiffieHellmanCommutes)
    (opens : crypto.OpensSealed) {first last : World} (start : World.Start crypto first)
    (run : Relation.ReflTransGen (World.Step crypto) first last) (receiver : Party)
    (position : Nat) (envelope : Envelope) (env : Surroundings)
    (late : Side.Late crypto (last receiver.other) (last receiver) position envelope) :
    last.ReceivesInPlace crypto receiver position envelope env ↔
      envelope.ratchetKey = (last receiver).ratchet.theirDhPub := by
  constructor
  · intro inPlace
    rw [← inPlace.theirDhPub]
    exact (DoubleRatchet.decrypt_theirDhPub crypto _ _ _ _ _ env).symm
  · exact ((start.agreed commutes).run commutes opens run).receivesInPlace commutes opens env late

/-! ### A late message in the sample conversation -/

/-- The responder has spoken as well, on the chain it was built with. -/
def sampleSpoken : World :=
  sampleGreeting.encrypt sampleSuite .responder [1] (Octets.zero 12)

/-- The responder has received the greeting, which turned its ratchet, and has answered. -/
def sampleAnswered : World :=
  (sampleSpoken.deliver sampleSuite .responder 0 (sampleSpoken.envelope .initiator 0)
    (drawing 4)).encrypt sampleSuite .responder [2] (Octets.zero 12)

/-- The answer has overtaken what the responder said first. -/
def sampleOvertaken : World :=
  sampleAnswered.deliver sampleSuite .initiator 1 (sampleAnswered.envelope .responder 1)
    (drawing 5)

theorem sampleAnswered_run :
    Relation.ReflTransGen (World.Step sampleSuite) sampleStart sampleAnswered := by
  refine ((sampleGreeting_run.tail (.encrypt sampleGreeting .responder [1] (Octets.zero 12) ?_)).tail
    (.deliver sampleSpoken .responder 0 (sampleSpoken.envelope .initiator 0) (drawing 4)
      ⟨?_, ?_, ?_, ?_, fun _ => ?_⟩)).tail
    (.encrypt _ .responder [2] (Octets.zero 12) ?_)
  · decide +kernel
  · decide +kernel
  · decide +kernel
  · exact fun later member => absurd member (Finset.notMem_empty later)
  · decide +kernel
  · decide +kernel
  · decide +kernel

theorem sampleOvertaken_run :
    Relation.ReflTransGen (World.Step sampleSuite) sampleStart sampleOvertaken := by
  refine sampleAnswered_run.tail (.deliver sampleAnswered .initiator 1
    (sampleAnswered.envelope .responder 1) (drawing 5) ⟨?_, ?_, ?_, ?_, fun _ => ?_⟩)
  · decide +kernel
  · decide +kernel
  · exact fun later member => absurd member (Finset.notMem_empty later)
  · decide +kernel
  · decide +kernel

/-- A number ahead of the chain of its ratchet key, as a test over the lookup. -/
theorem Side.late_of_ahead {sender receiver : Side} {position : Nat} {envelope : Envelope}
    (genuine : sender.SentAt position envelope) (once : position ∉ sender.delivered)
    (earlier : envelope.ratchetKey ≠ sender.ratchetKey crypto)
    (ahead : (receiver.ratchet.receivingChains.lookup envelope.ratchetKey).any (fun entry =>
      entry.1.messageNumber < envelope.number ∧
        envelope.number ≤ entry.1.messageNumber + Chain.maxSkip) = true) :
    Side.Late crypto sender receiver position envelope where
  genuine := genuine
  once := once
  earlier := earlier
  held := by
    obtain ⟨⟨chain, used⟩, held, near⟩ := (Option.any_eq_true _ _).mp ahead
    exact ⟨chain, used, held, Or.inr (of_decide_eq_true near)⟩

/-- Before the answer is delivered, what the responder said first is received in place. -/
theorem sampleAnswered_receivesInPlace :
    sampleAnswered.ReceivesInPlace sampleSuite .initiator 0 (sampleAnswered.envelope .responder 0)
      (drawing 5) := by
  refine (late_receivesInPlace_iff sampleSuite SampleSuite.diffieHellmanCommutes
    SampleSuite.opensSealed sampleStart_start sampleAnswered_run .initiator 0
    (sampleAnswered.envelope .responder 0) (drawing 5) (Side.late_of_ahead ?_ ?_ ?_ ?_)).mpr ?_
  all_goals decide +kernel

/-- Once it is delivered, the initiator takes a step with the key of the late message, which
the root key of neither side follows, and what was said first does not decrypt. -/
theorem overtaken_message_lost : ∃ first last : World, World.Start sampleSuite first ∧
    Relation.ReflTransGen (World.Step sampleSuite) first last ∧
      ∃ receiver position envelope env,
        Side.Late sampleSuite (last receiver.other) (last receiver) position envelope ∧
          ¬ last.ReceivesInPlace sampleSuite receiver position envelope env := by
  refine ⟨sampleStart, sampleOvertaken, sampleStart_start, sampleOvertaken_run, .initiator, 0,
    sampleOvertaken.envelope .responder 0, drawing 6, Side.late_of_ahead ?_ ?_ ?_ ?_,
    fun inPlace => ?_⟩
  · decide +kernel
  · decide +kernel
  · decide +kernel
  · decide +kernel
  · have opened := inPlace.opened
    revert opened
    decide +kernel

end Insub
