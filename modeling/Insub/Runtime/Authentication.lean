/-
This file settles whom the runtime takes its peers to be. A session is entered under a
master key: the one the user called for, or the one the caller names in its payload. The
first is checked against the certificate of the peer, the second is not. So every session
is authenticated as long as every call that is received names the key its certificate
verifies under, and a caller that names another key is entered under that one.
-/

import Mathlib
import Insub.Crypto.SampleSuite
import Insub.Runtime.Tables

namespace Insub

open Rust

namespace Runtime

variable {crypto : Primitives} {noise : Noise}

/-- What the payload of a call says of its sender: the certificate and the claimed master
key. -/
def claim (runtime : Runtime crypto noise) (packet : Packet) :
    Outcome (DeviceCertificate crypto × Key) := do
  let responder ← Responder.new noise runtime.deviceX25519Priv
  let peerPayload ← (responder.accept packet.payload.data).1
  let certBytes ← slice 32 128 peerPayload
  let certificate ← DeviceCertificate.fromSerialized certBytes.toList
  let masterPubkey ← slice 160 32 peerPayload
  .ok (certificate, masterPubkey)

/-- The certificate of a call verifies under the master key it claims. -/
def ClaimIsCertified (runtime : Runtime crypto noise) (packet : Packet) : Prop :=
  ∀ certificate masterPubkey, runtime.claim packet = .ok (certificate, masterPubkey) →
    certificate.VerifiesUnder masterPubkey

instance (runtime : Runtime crypto noise) (packet : Packet) :
    Decidable (runtime.ClaimIsCertified packet) :=
  match said : runtime.claim packet with
  | .ok (certificate, masterPubkey) =>
    decidable_of_iff (certificate.VerifiesUnder masterPubkey) (by
      simp only [ClaimIsCertified, said, Except.ok.injEq, Prod.mk.injEq, and_imp]
      exact ⟨fun verifies _ _ first second => first ▸ second ▸ verifies,
        fun all => all certificate masterPubkey rfl rfl⟩)
  | .error _ => .isTrue fun _ _ claimed => by
    rw [said] at claimed
    cases claimed

/-- What a call has to keep to, if it is taken for a new one and answered. -/
def CallIsCertified (runtime : Runtime crypto noise) : Call crypto noise → Prop
  | .tickHandshake packet _ draws => runtime.IsNewCall packet draws →
    ∀ connId, runtime.answer packet draws = some connId → runtime.ClaimIsCertified packet
  | _ => True

/-- A call that keeps to it. -/
def CertifiedStep (before after : Runtime crypto noise) : Prop :=
  ∃ call, before.CallIsCertified call ∧ after = (before.perform call).2

/-- Every session is authenticated under the key it is entered under, and every pending
session expects the user it was prepared for. -/
structure Authentic (runtime : Runtime crypto noise) : Prop where
  registered : ∀ connId session peerPk, runtime.sessions.lookup connId = some session →
    runtime.connToPk.lookup connId = some peerPk → session.Authenticated peerPk
  pending : ∀ tag session peerPkOpt,
    runtime.pendingSessions.lookup tag = some (session, peerPkOpt) →
      ∃ user, session.peerUserId = some user ∧ peerPkOpt = some user.publicKey.bytes

/-- One change of the tables keeps them authentic. -/
theorem Authentic.change {before after : Runtime crypto noise} (authentic : before.Authentic)
    (change : Change Session.Authenticated before after) : after.Authentic := by
  obtain ⟨registered, pending⟩ := authentic
  cases change with
  | frame sessions pendingSessions connToPk _ =>
    refine ⟨?_, ?_⟩
    · rw [sessions, connToPk]
      exact registered
    · rw [pendingSessions]
      exact pending
  | called tag session user expects =>
    refine ⟨registered, fun other found peerPkOpt held => ?_⟩
    rcases HashMap.lookup_insert_eq_some_iff.mp held with ⟨-, same⟩ | ⟨-, held⟩
    · obtain ⟨rfl, rfl⟩ := Prod.mk.inj same
      exact ⟨user, expects, rfl⟩
    · exact pending other found peerPkOpt held
  | advanced tag old session peerPkOpt found expects =>
    refine ⟨registered, fun other last lastPk held => ?_⟩
    rcases HashMap.lookup_insert_eq_some_iff.mp held with ⟨-, same⟩ | ⟨-, held⟩
    · obtain ⟨rfl, rfl⟩ := Prod.mk.inj same
      rw [expects]
      exact pending tag old peerPkOpt found
    · exact pending other last lastPk held
  | settled tag =>
    refine ⟨registered, fun other last lastPk held => ?_⟩
    exact pending other last lastPk (HashMap.lookup_erase_eq_some_iff.mp held).2
  | registered connId peerPk session admitted =>
    refine ⟨fun other found pk held named => ?_, pending⟩
    rw [register] at held named
    rcases HashMap.lookup_insert_eq_some_iff.mp held with ⟨same, rfl⟩ | ⟨different, held⟩
    · rw [same, AList.lookup_insert] at named
      rw [← Option.some.inj named]
      exact admitted
    · rw [AList.lookup_insert_ne different] at named
      exact registered other found pk held named
  | dropped connId =>
    refine ⟨fun other found pk held named => ?_, ?_⟩
    · obtain ⟨different, held⟩ := lookup_sessions_removeStaleConn before connId other found held
      rw [lookup_connToPk_removeStaleConn before different] at named
      exact registered other found pk held named
    · rw [pendingSessions_removeStaleConn]
      exact pending
  | ratcheted connId session ratchet found =>
    refine ⟨fun other last pk held named => ?_, pending⟩
    rcases HashMap.lookup_insert_eq_some_iff.mp held with ⟨rfl, rfl⟩ | ⟨-, held⟩
    · exact (registered other session pk found named).with_ratchet ratchet
    · exact registered other last pk held named

/-- A session that answered a call holds the certificate of the call, and is about the static
key the handshake authenticated. -/
theorem authenticated_of_answer {runtime : Runtime crypto noise} {packet : Packet}
    {draws : HandshakeDraws} {fresh accepted : Session crypto noise} {connId : ConnectionId}
    (certified : runtime.ClaimIsCertified packet) (spawned : runtime.spawnResponder = .ok fresh)
    (accepting : fresh.acceptHandshake packet.payload.data = (.ok (), accepted))
    (set : (accepted.replyHandshake draws).2.connectionId = some connId) :
    (accepted.replyHandshake draws).2.Authenticated
      (accepted.peerMasterPubkey.getD (Octets.zero 32)) := by
  obtain ⟨cert, _, spawned⟩ := Outcome.bind_eq_ok_iff.mp spawned
  obtain ⟨masterPk, _, spawned⟩ := Outcome.bind_eq_ok_iff.mp spawned
  obtain ⟨built, buildsResponder, spawned⟩ := Outcome.bind_eq_ok_iff.mp spawned
  obtain ⟨responder, peerPayload, certBytes, certificate, masterPubkey, holds, opened, certAt,
    parsed, masterAt, kept, claimed, unset⟩ := Session.acceptHandshake_ok accepting
  rw [← Except.ok.inj spawned] at holds unset
  have same : built = responder := Option.some.inj holds
  have claims : runtime.claim packet = .ok (certificate, masterPubkey) := by
    rw [claim, buildsResponder, same]
    simp only [Outcome.bind_ok, opened, certAt, parsed, masterAt]
  obtain ⟨keeps, bound⟩ := Session.replyHandshake_remoteStatic accepted draws unset
  obtain ⟨found, foundAt, remoteStatic⟩ := bound connId set
  rw [kept] at foundAt
  refine ⟨certificate, keeps.trans kept, ?_, ?_⟩
  · rw [claimed]
    exact certified certificate masterPubkey claims
  · rw [remoteStatic, ← Option.some.inj foundAt]

theorem Authentic.changes {before after : Runtime crypto noise} (authentic : before.Authentic)
    (changes : Changes Session.Authenticated before after) : after.Authentic := by
  refine Run.preserves ?_ authentic changes
  exact fun _ _ holds change => holds.change change

theorem Authentic.perform {runtime : Runtime crypto noise} (authentic : runtime.Authentic)
    {call : Call crypto noise} (certified : runtime.CallIsCertified call) :
    (runtime.perform call).2.Authentic := by
  refine authentic.changes (perform_changes runtime call ?_ ?_)
  · rintro packet sender draws rfl session peerPkOpt last found completed
    obtain ⟨user, expects, rfl⟩ := authentic.pending _ session peerPkOpt found
    exact Session.completeHandshake_authenticated expects completed
  · rintro packet sender draws rfl newCall fresh accepted spawned accepting connId answers set
    exact authenticated_of_answer (certified newCall connId answers) spawned accepting set

theorem authentic_bind (address : SocketAddr) (deviceX25519Priv : Key)
    (peerKeys : HashMap SocketAddr (VerifyingKey crypto)) :
    (bind address deviceX25519Priv peerKeys : Runtime crypto noise).Authentic where
  registered _ _ _ found := by cases found
  pending _ _ _ found := by cases found

/-- In every run in which every call names the master key its certificate verifies under,
every session is authenticated under the key it is entered under. -/
theorem registered_authenticated (crypto : Primitives) (noise : Noise) (address : SocketAddr)
    (deviceX25519Priv : Key) (peerKeys : HashMap SocketAddr (VerifyingKey crypto))
    {last : Runtime crypto noise}
    (run : Relation.ReflTransGen CertifiedStep (bind address deviceX25519Priv peerKeys) last)
    {connId : ConnectionId} {session : Session crypto noise} {peerPk : Key}
    (held : last.sessions.lookup connId = some session)
    (named : last.connToPk.lookup connId = some peerPk) : session.Authenticated peerPk := by
  have authentic : last.Authentic := by
    refine Run.preserves ?_ (authentic_bind address deviceX25519Priv peerKeys) run
    rintro before after holds ⟨call, certified, rfl⟩
    exact holds.perform certified
  exact authentic.registered connId session peerPk held named

/-! ### Two calls -/

/-- A certificate of a device, signed by a master key of the sample suite. -/
def sampleCertificate (master device : Nat) : DeviceCertificate sampleSuite :=
  let deviceEd25519Pubkey := SampleSuite.verifyingKey (SampleSuite.octets 32 device)
  let deviceX25519Pubkey := sampleSuite.publicKey (SampleSuite.octets 32 device)
  { deviceEd25519Pubkey
    deviceX25519Pubkey
    masterSignature := SampleSuite.sign (SampleSuite.octets 32 master)
      (DeviceCertificate.signedData deviceEd25519Pubkey deviceX25519Pubkey) }

def sampleAddress : SocketAddr := .v4 (Octets.zero 4) 9000

/-- A call from device `6`, with a certificate of one master key and the claim of another. -/
def sampleCall (master claimed : Nat) : Packet :=
  let payload := (sampleSuite.publicKey (SampleSuite.octets 32 8)).toList ++
    (sampleCertificate master 6).serialize ++ (SampleSuite.octets 32 claimed).toList ++
      Session.addressBytes sampleAddress
  Packet.new 0 1
    { Payload.new .handshake ((sampleSuite.publicKey (SampleSuite.octets 32 6)).toList ++ payload)
      with connectionId := SampleSuite.octets 16 1 }

def sampleDraws : RuntimeDraws where
  handshake :=
    { ratchetSecret := SampleSuite.octets 32 9
      ephemeral := SampleSuite.octets 32 10
      preRatchetSecret := SampleSuite.octets 32 11
      now := 0 }
  packetId := 2
  frameId := 3

/-- The runtime of device `50` of the user with master key `42`, before and after a call. -/
def sampleRuntime : Runtime sampleSuite SampleSuite.noise :=
  (((bind sampleAddress (SampleSuite.octets 32 50) ∅).perform
    (.setMasterPubkey (SampleSuite.octets 32 42))).2.perform
      (.setDeviceCert (sampleCertificate 42 50))).2

def sampleCalled (master claimed : Nat) : Runtime sampleSuite SampleSuite.noise :=
  (sampleRuntime.perform
    (.tickHandshake (sampleCall master claimed) sampleAddress sampleDraws)).2

/-- The connection of a call. -/
def sampleConnection (master claimed : Nat) : ConnectionId :=
  ((sampleCalled master claimed).connToPk.keys).headD (Octets.zero 16)

/-- The session of a call, known to be there. -/
theorem sampleCalled_session (master claimed : Nat)
    (held : sampleConnection master claimed ∈ (sampleCalled master claimed).sessions) :
    ∃ session, (sampleCalled master claimed).sessions.lookup (sampleConnection master claimed) =
      some session :=
  Option.isSome_iff_exists.mp (AList.lookup_isSome.mpr held)

theorem sampleRuntime_run : Relation.ReflTransGen CertifiedStep
    (bind sampleAddress (SampleSuite.octets 32 50) ∅) sampleRuntime :=
  (Relation.ReflTransGen.single
    ⟨.setMasterPubkey (SampleSuite.octets 32 42), trivial, rfl⟩).tail
      ⟨.setDeviceCert (sampleCertificate 42 50), trivial, rfl⟩

/-- A certified step is a step. -/
theorem CertifiedStep.step {before after : Runtime crypto noise}
    (step : CertifiedStep before after) : Step before after := by
  obtain ⟨call, _, made⟩ := step
  exact ⟨call, made⟩

/-- A caller whose certificate its own master key `41` has signed, and who claims to be the
user with master key `40`, gets a session that is entered under `40`. -/
theorem impostor_registered : ∃ last : Runtime sampleSuite SampleSuite.noise,
    Relation.ReflTransGen Step (bind sampleAddress (SampleSuite.octets 32 50) ∅) last ∧
      ∃ connId session peerPk, last.sessions.lookup connId = some session ∧
        last.connToPk.lookup connId = some peerPk ∧ ¬ session.Authenticated peerPk := by
  have run : Relation.ReflTransGen Step
      (bind sampleAddress (SampleSuite.octets 32 50) ∅) (sampleCalled 41 40) :=
    (Relation.ReflTransGen.mono (fun _ _ => CertifiedStep.step) _ _ sampleRuntime_run).tail
      ⟨.tickHandshake (sampleCall 41 40) sampleAddress sampleDraws, rfl⟩
  obtain ⟨session, held⟩ := sampleCalled_session 41 40 (by decide +kernel)
  refine ⟨_, run, _, session, SampleSuite.octets 32 40, held, by decide +kernel, ?_⟩
  rintro ⟨certificate, holds, verifies, _⟩
  have refused : ((sampleCalled 41 40).sessions.lookup (sampleConnection 41 40)).any (fun session =>
      session.peerDeviceCertificate.any fun certificate =>
        certificate.VerifiesUnder (SampleSuite.octets 32 40)) = false := by
    decide +kernel
  rw [held, Option.any_some, holds, Option.any_some] at refused
  exact of_decide_eq_false refused verifies

/-- A caller that claims the master key its certificate verifies under is authenticated. -/
theorem honest_caller_authenticated : ∃ session,
    (sampleCalled 40 40).sessions.lookup (sampleConnection 40 40) = some session ∧
      session.Authenticated (SampleSuite.octets 32 40) := by
  obtain ⟨session, held⟩ := sampleCalled_session 40 40 (by decide +kernel)
  have certified : sampleRuntime.ClaimIsCertified (sampleCall 40 40) := by decide +kernel
  have called : CertifiedStep sampleRuntime (sampleCalled 40 40) :=
    ⟨.tickHandshake (sampleCall 40 40) sampleAddress sampleDraws, fun _ _ _ => certified, rfl⟩
  exact ⟨session, held, registered_authenticated sampleSuite SampleSuite.noise sampleAddress
    (SampleSuite.octets 32 50) ∅ (sampleRuntime_run.tail called) held (by decide +kernel)⟩

end Runtime

end Insub
