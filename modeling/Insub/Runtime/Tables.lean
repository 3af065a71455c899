/-
This file proves that the tables of sessions agree with each other in every run: a session is
registered under a key, and that key lists its connection. It says what giving up a
connection does to each table.
-/

import Mathlib
import Insub.Runtime.Calls

namespace Insub

open Rust

namespace Runtime

variable {crypto : Primitives} {noise : Noise}

/-! ### Giving up a connection -/

/-- What is left of the connections of a user. -/
def keptConns (connId : ConnectionId) (conns : List ConnectionId) : Option (List ConnectionId) :=
  let kept := conns.filter (· ≠ connId)
  if kept.isEmpty then none else some kept

theorem lookup_dropConn_self (pkToConn : HashMap Key (List ConnectionId)) (pk : Key)
    (connId : ConnectionId) :
    (dropConn pkToConn pk connId).lookup pk = (pkToConn.lookup pk).bind (keptConns connId) := by
  rw [dropConn]
  cases held : pkToConn.lookup pk with
  | none => exact held
  | some conns =>
    dsimp only [keptConns, Option.bind_some]
    split
    · exact AList.lookup_erase pk pkToConn
    · exact AList.lookup_insert pkToConn

theorem lookup_dropConn_ne (pkToConn : HashMap Key (List ConnectionId)) {pk other : Key}
    (connId : ConnectionId) (different : other ≠ pk) :
    (dropConn pkToConn pk connId).lookup other = pkToConn.lookup other := by
  rw [dropConn]
  cases pkToConn.lookup pk with
  | none => rfl
  | some conns =>
    dsimp only
    split
    · exact AList.lookup_erase_ne different
    · exact AList.lookup_insert_ne different

/-- A list that names another connection keeps it. -/
theorem mem_keptConns {connId other : ConnectionId} {conns : List ConnectionId}
    (member : other ∈ conns) (different : other ≠ connId) :
    ∃ kept, keptConns connId conns = some kept ∧ other ∈ kept := by
  have kept : other ∈ conns.filter (· ≠ connId) :=
    List.mem_filter.mpr ⟨member, decide_eq_true different⟩
  refine ⟨conns.filter (· ≠ connId), if_neg ?_, kept⟩
  rw [List.isEmpty_iff]
  exact List.ne_nil_of_mem kept

theorem sessions_removeStaleConn (runtime : Runtime crypto noise) (connId : ConnectionId) :
    (runtime.removeStaleConn connId).sessions = runtime.sessions.erase connId := by
  rw [removeStaleConn]
  cases runtime.connToPk.lookup connId <;> rfl

theorem lookup_sessions_removeStaleConn (runtime : Runtime crypto noise)
    (connId other : ConnectionId) (session : Session crypto noise)
    (found : (runtime.removeStaleConn connId).sessions.lookup other = some session) :
    other ≠ connId ∧ runtime.sessions.lookup other = some session := by
  rw [sessions_removeStaleConn] at found
  exact HashMap.lookup_erase_eq_some_iff.mp found

theorem lookup_connToPk_removeStaleConn (runtime : Runtime crypto noise)
    {connId other : ConnectionId} (different : other ≠ connId) :
    (runtime.removeStaleConn connId).connToPk.lookup other = runtime.connToPk.lookup other := by
  rw [removeStaleConn]
  cases named : runtime.connToPk.lookup connId with
  | none => rfl
  | some pk => exact AList.lookup_erase_ne different

theorem pendingSessions_removeStaleConn (runtime : Runtime crypto noise) (connId : ConnectionId) :
    (runtime.removeStaleConn connId).pendingSessions = runtime.pendingSessions := by
  rw [removeStaleConn]
  cases runtime.connToPk.lookup connId <;> rfl

theorem removeStaleConn_named {runtime : Runtime crypto noise} {connId : ConnectionId} {pk : Key}
    (named : runtime.connToPk.lookup connId = some pk) :
    runtime.removeStaleConn connId = { runtime with
      sessions := runtime.sessions.erase connId
      connToPk := runtime.connToPk.erase connId
      pkToConn := dropConn runtime.pkToConn pk connId } := by
  rw [removeStaleConn, named]

/-! ### The tables agree -/

/-- Every session is registered under a key, and every key lists the connections that are
registered under it. -/
structure Consistent (runtime : Runtime crypto noise) : Prop where
  named : ∀ connId ∈ runtime.sessions, connId ∈ runtime.connToPk
  listed : ∀ connId pk, runtime.connToPk.lookup connId = some pk →
    ∃ conns, runtime.pkToConn.lookup pk = some conns ∧ connId ∈ conns

/-- A registration adds the connection to the list of its key, and to no other. -/
theorem listed_register_iff {runtime : Runtime crypto noise} {connId other : ConnectionId}
    {peerPk pk : Key} {session : Session crypto noise} :
    (∃ conns, (runtime.register connId peerPk session).2.pkToConn.lookup pk = some conns ∧
      other ∈ conns) ↔
        pk = peerPk ∧ other = connId ∨
          ∃ conns, runtime.pkToConn.lookup pk = some conns ∧ other ∈ conns := by
  rw [Runtime.register]
  dsimp only
  by_cases same : pk = peerPk
  · rw [same, AList.lookup_insert]
    cases runtime.pkToConn.lookup peerPk <;> simp [or_comm]
  · rw [AList.lookup_insert_ne same]
    simp [same]

theorem Consistent.register {runtime : Runtime crypto noise} (consistent : runtime.Consistent)
    (connId : ConnectionId) (peerPk : Key) (session : Session crypto noise) :
    (runtime.register connId peerPk session).2.Consistent := by
  obtain ⟨named, listed⟩ := consistent
  refine ⟨fun other held => ?_, fun other pk entered => ?_⟩
  · refine (AList.mem_insert _).mpr ?_
    exact ((AList.mem_insert _).mp held).imp_right (named other)
  · rw [listed_register_iff]
    rcases HashMap.lookup_insert_eq_some_iff.mp entered with ⟨same, samePk⟩ | ⟨-, entered⟩
    · exact Or.inl ⟨samePk.symm, same⟩
    · exact Or.inr (listed other pk entered)

theorem Consistent.removeStaleConn {runtime : Runtime crypto noise}
    (consistent : runtime.Consistent) (connId : ConnectionId) :
    (runtime.removeStaleConn connId).Consistent := by
  obtain ⟨named, listed⟩ := consistent
  refine ⟨fun other held => ?_, fun other pk entered => ?_⟩
  · rw [sessions_removeStaleConn] at held
    obtain ⟨different, held⟩ := AList.mem_erase.mp held
    rw [← AList.lookup_isSome, lookup_connToPk_removeStaleConn runtime different,
      AList.lookup_isSome]
    exact named other held
  · cases dropped : runtime.connToPk.lookup connId with
    | none =>
      rw [Runtime.removeStaleConn, dropped] at entered ⊢
      exact listed other pk entered
    | some droppedPk =>
      rw [removeStaleConn_named dropped] at entered ⊢
      obtain ⟨different, entered⟩ := HashMap.lookup_erase_eq_some_iff.mp entered
      obtain ⟨conns, held, member⟩ := listed other pk entered
      by_cases samePk : pk = droppedPk
      · obtain ⟨kept, left, stays⟩ := mem_keptConns member different
        rw [← samePk, lookup_dropConn_self, held]
        exact ⟨kept, left, stays⟩
      · rw [lookup_dropConn_ne _ _ samePk]
        exact ⟨conns, held, member⟩

theorem Consistent.change {admits : Session crypto noise → Key → Prop}
    {before after : Runtime crypto noise} (consistent : before.Consistent)
    (change : Change admits before after) : after.Consistent := by
  obtain ⟨named, listed⟩ := consistent
  cases change with
  | frame sessions _ connToPk pkToConn =>
    refine ⟨?_, ?_⟩
    · rw [sessions, connToPk]
      exact named
    · rw [connToPk, pkToConn]
      exact listed
  | called tag session user expects => exact ⟨named, listed⟩
  | advanced tag old session peerPkOpt found expects => exact ⟨named, listed⟩
  | settled tag => exact ⟨named, listed⟩
  | registered connId peerPk session admitted =>
    exact Consistent.register ⟨named, listed⟩ connId peerPk session
  | dropped connId => exact Consistent.removeStaleConn ⟨named, listed⟩ connId
  | ratcheted connId session ratchet found =>
    refine ⟨fun other held => ?_, listed⟩
    rcases (AList.mem_insert _).mp held with rfl | held
    · exact named _ (AList.lookup_isSome.mp (Option.isSome_iff_exists.mpr ⟨session, found⟩))
    · exact named other held

theorem Consistent.perform {runtime : Runtime crypto noise} (consistent : runtime.Consistent)
    (call : Call crypto noise) : (runtime.perform call).2.Consistent := by
  have changes : Changes (fun _ _ => True) runtime (runtime.perform call).2 := by
    refine perform_changes runtime call ?_ ?_
    · intros
      trivial
    · intros
      trivial
  refine Run.preserves ?_ consistent changes
  exact fun _ _ holds change => holds.change change

theorem consistent_bind (address : SocketAddr) (deviceX25519Priv : Key)
    (peerKeys : HashMap SocketAddr (VerifyingKey crypto)) :
    (bind address deviceX25519Priv peerKeys : Runtime crypto noise).Consistent where
  named connId held := absurd held (AList.notMem_empty connId)
  listed _ _ entered := by cases entered

/-- The tables agree in every state a run reaches. -/
theorem consistent_of_run {address : SocketAddr} {deviceX25519Priv : Key}
    {peerKeys : HashMap SocketAddr (VerifyingKey crypto)} {last : Runtime crypto noise}
    (run : Relation.ReflTransGen Step (bind address deviceX25519Priv peerKeys) last) :
    last.Consistent := by
  refine Run.preserves ?_ (consistent_bind address deviceX25519Priv peerKeys) run
  rintro before after holds ⟨call, rfl⟩
  exact holds.perform call

end Runtime

end Insub
