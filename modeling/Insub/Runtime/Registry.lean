/-
This file says when the tables of sessions are in order: each session is registered under one
key, and the connections that a key lists are those that are registered under it, each once.
It proves that every change of the tables leaves them so, as long as a session is registered
under a connection id that is new.
-/

import Mathlib
import Insub.Protocol.Established
import Insub.Runtime.Tables

namespace Insub

open Rust

namespace Runtime

variable {crypto : Primitives} {noise : Noise}

/-- The tables of sessions agree, and every session in them is established. -/
structure Orderly (runtime : Runtime crypto noise) : Prop where
  sameKeys : ∀ connId, connId ∈ runtime.sessions ↔ connId ∈ runtime.connToPk
  established : ∀ connId session, runtime.sessions.lookup connId = some session →
    session.isEstablished = true
  listed : ∀ connId pk, runtime.connToPk.lookup connId = some pk ↔
    ∃ conns, runtime.pkToConn.lookup pk = some conns ∧ connId ∈ conns
  distinct : ∀ pk conns, runtime.pkToConn.lookup pk = some conns → conns.Nodup
  nonempty : ∀ pk conns, runtime.pkToConn.lookup pk = some conns → conns ≠ []

/-- Every session is ready on its connection, and every pending one speaks for someone. -/
structure Staffed (runtime : Runtime crypto noise) : Prop where
  ready : ∀ connId session, runtime.sessions.lookup connId = some session → session.Ready connId
  pending : ∀ tag entry, runtime.pendingSessions.lookup tag = some entry →
    entry.1.ourMasterPubkey.isSome = true

/-! ### What each change leaves in order -/

theorem Orderly.of_tables {before after : Runtime crypto noise} (orderly : before.Orderly)
    (sessions : after.sessions = before.sessions) (connToPk : after.connToPk = before.connToPk)
    (pkToConn : after.pkToConn = before.pkToConn) : after.Orderly := by
  obtain ⟨sameKeys, established, listed, distinct, nonempty⟩ := orderly
  refine ⟨?_, ?_, ?_, ?_, ?_⟩
  · rw [sessions, connToPk]
    exact sameKeys
  · rw [sessions]
    exact established
  · rw [connToPk, pkToConn]
    exact listed
  · rw [pkToConn]
    exact distinct
  · rw [pkToConn]
    exact nonempty

/-- A list of connections is never empty after a registration, and names each once if the new
connection id was not in the list of its key. -/
theorem Orderly.conns_register {runtime : Runtime crypto noise} (orderly : runtime.Orderly)
    {connId : ConnectionId} {peerPk pk : Key} {session : Session crypto noise}
    (unlisted : ∀ conns, runtime.pkToConn.lookup peerPk = some conns → connId ∉ conns)
    {conns : List ConnectionId}
    (held : (runtime.register connId peerPk session).2.pkToConn.lookup pk = some conns) :
    conns.Nodup ∧ conns ≠ [] := by
  rcases HashMap.lookup_insert_eq_some_iff.mp held with ⟨-, rfl⟩ | ⟨-, held⟩
  · refine ⟨?_, List.append_ne_nil_of_right_ne_nil _ (List.cons_ne_nil _ _)⟩
    cases listed : runtime.pkToConn.lookup peerPk with
    | none => exact List.nodup_singleton connId
    | some conns =>
      refine List.nodup_append.mpr
        ⟨orderly.distinct peerPk conns listed, List.nodup_singleton _, ?_⟩
      rintro other member last single rfl
      rw [List.mem_singleton.mp single] at member
      exact unlisted conns listed member
  · exact ⟨orderly.distinct pk conns held, orderly.nonempty pk conns held⟩

/-- An established session under a connection id that is new. -/
theorem Orderly.register {runtime : Runtime crypto noise} (orderly : runtime.Orderly)
    {connId : ConnectionId} (fresh : connId ∉ runtime.connToPk) (peerPk : Key)
    {session : Session crypto noise} (established : session.isEstablished = true) :
    (runtime.register connId peerPk session).2.Orderly := by
  have unlisted (pk : Key) (conns : List ConnectionId)
      (held : runtime.pkToConn.lookup pk = some conns) : connId ∉ conns := by
    intro member
    have entered := (orderly.listed connId pk).mpr ⟨conns, held, member⟩
    exact fresh (AList.lookup_isSome.mp (Option.isSome_iff_exists.mpr ⟨pk, entered⟩))
  refine ⟨fun other => ?_, fun other found held => ?_, fun other pk => ?_,
    fun pk conns held => (orderly.conns_register (unlisted peerPk) held).1,
    fun pk conns held => (orderly.conns_register (unlisted peerPk) held).2⟩
  · rw [Runtime.register, AList.mem_insert, AList.mem_insert, orderly.sameKeys]
  · rcases HashMap.lookup_insert_eq_some_iff.mp held with ⟨-, rfl⟩ | ⟨-, held⟩
    · exact established
    · exact orderly.established other found held
  · rw [listed_register_iff, ← orderly.listed]
    refine HashMap.lookup_insert_eq_some_iff.trans ?_
    constructor
    · rintro (⟨same, samePk⟩ | ⟨-, entered⟩)
      · exact Or.inl ⟨samePk.symm, same⟩
      · exact Or.inr entered
    · rintro (⟨samePk, same⟩ | entered)
      · exact Or.inl ⟨same, samePk.symm⟩
      · refine Or.inr ⟨?_, entered⟩
        rintro rfl
        obtain ⟨conns, held, member⟩ := (orderly.listed other pk).mp entered
        exact unlisted pk conns held member

/-- What is left of a list are its other connections, if there are any. -/
theorem keptConns_eq_some_iff {connId : ConnectionId} {conns kept : List ConnectionId} :
    keptConns connId conns = some kept ↔ kept = conns.filter (· ≠ connId) ∧ kept ≠ [] := by
  rw [keptConns]
  split
  · rename_i empty
    refine iff_of_false (fun none => by cases none) ?_
    rintro ⟨rfl, left⟩
    exact left (List.isEmpty_iff.mp empty)
  · rename_i some
    constructor
    · rintro ⟨⟩
      exact ⟨rfl, fun none => some (List.isEmpty_iff.mpr none)⟩
    · rintro ⟨rfl, _⟩
      rfl

/-- Giving up a connection takes it off every list. -/
theorem Orderly.lookup_dropConn_iff {runtime : Runtime crypto noise} (orderly : runtime.Orderly)
    {connId : ConnectionId} {droppedPk : Key}
    (entered : runtime.connToPk.lookup connId = some droppedPk) {pk : Key}
    {conns : List ConnectionId} :
    (dropConn runtime.pkToConn droppedPk connId).lookup pk = some conns ↔
      ∃ before, runtime.pkToConn.lookup pk = some before ∧
        conns = before.filter (· ≠ connId) ∧ conns ≠ [] := by
  have kept : (dropConn runtime.pkToConn droppedPk connId).lookup pk =
      (runtime.pkToConn.lookup pk).bind (keptConns connId) := by
    by_cases samePk : pk = droppedPk
    · rw [samePk, lookup_dropConn_self]
    · rw [lookup_dropConn_ne _ _ samePk]
      cases held : runtime.pkToConn.lookup pk with
      | none => rfl
      | some conns =>
        have unlisted : connId ∉ conns := by
          intro member
          have other := (orderly.listed connId pk).mpr ⟨conns, held, member⟩
          rw [entered] at other
          exact samePk (Option.some.inj other).symm
        refine Eq.symm (keptConns_eq_some_iff.mpr ⟨?_, orderly.nonempty pk conns held⟩)
        refine (List.filter_eq_self.mpr fun other member => ?_).symm
        refine decide_eq_true ?_
        rintro rfl
        exact unlisted member
  rw [kept, Option.bind_eq_some_iff]
  exact exists_congr fun before => and_congr_right fun _ => keptConns_eq_some_iff

/-- A connection that is given up is in none of the tables. -/
theorem Orderly.removeStaleConn {runtime : Runtime crypto noise} (orderly : runtime.Orderly)
    (connId : ConnectionId) : (runtime.removeStaleConn connId).Orderly := by
  have established (other : ConnectionId) (found : Session crypto noise)
      (held : (runtime.removeStaleConn connId).sessions.lookup other = some found) :
      found.isEstablished = true :=
    orderly.established other found (lookup_sessions_removeStaleConn runtime connId other found held).2
  cases entered : runtime.connToPk.lookup connId with
  | none =>
    have absent : connId ∉ runtime.sessions := by
      rw [orderly.sameKeys, ← AList.lookup_isSome, entered]
      exact Bool.false_ne_true
    have same : runtime.removeStaleConn connId =
        { runtime with sessions := runtime.sessions.erase connId } := by
      rw [Runtime.removeStaleConn, entered]
    rw [same] at established ⊢
    refine ⟨fun other => ?_, established, orderly.listed, orderly.distinct, orderly.nonempty⟩
    rw [AList.mem_erase, orderly.sameKeys]
    refine and_iff_right_of_imp fun held => ?_
    rintro rfl
    exact absent ((orderly.sameKeys other).mpr held)
  | some droppedPk =>
    have lists {pk : Key} {conns : List ConnectionId} :
        (dropConn runtime.pkToConn droppedPk connId).lookup pk = some conns ↔ _ :=
      orderly.lookup_dropConn_iff entered
    rw [removeStaleConn_named entered] at established ⊢
    refine ⟨fun other => ?_, established, fun other pk => ?_, fun pk conns held => ?_,
      fun pk conns held => ?_⟩
    · rw [AList.mem_erase, AList.mem_erase, orderly.sameKeys]
    · refine HashMap.lookup_erase_eq_some_iff.trans ?_
      rw [orderly.listed]
      constructor
      · rintro ⟨different, conns, held, member⟩
        have stays : other ∈ conns.filter (· ≠ connId) :=
          List.mem_filter.mpr ⟨member, decide_eq_true different⟩
        exact ⟨_, lists.mpr ⟨conns, held, rfl, List.ne_nil_of_mem stays⟩, stays⟩
      · rintro ⟨conns, held, member⟩
        obtain ⟨before, listed, rfl, _⟩ := lists.mp held
        obtain ⟨member, different⟩ := List.mem_filter.mp member
        exact ⟨of_decide_eq_true different, before, listed, member⟩
    · obtain ⟨before, listed, rfl, _⟩ := lists.mp held
      exact (orderly.distinct pk before listed).filter _
    · obtain ⟨_, _, _, left⟩ := lists.mp held
      exact left

/-- A session that moves on in its place. -/
theorem Orderly.replace {runtime : Runtime crypto noise} (orderly : runtime.Orderly)
    {connId : ConnectionId} {session next : Session crypto noise}
    (found : runtime.sessions.lookup connId = some session)
    (established : next.isEstablished = true) :
    Orderly { runtime with sessions := runtime.sessions.insert connId next } := by
  have here : connId ∈ runtime.sessions :=
    AList.lookup_isSome.mp (Option.isSome_iff_exists.mpr ⟨session, found⟩)
  refine ⟨fun other => ?_, fun other last held => ?_, orderly.listed, orderly.distinct,
    orderly.nonempty⟩
  · rw [AList.mem_insert, ← orderly.sameKeys]
    refine or_iff_right_of_imp ?_
    rintro rfl
    exact here
  · rcases HashMap.lookup_insert_eq_some_iff.mp held with ⟨-, rfl⟩ | ⟨-, held⟩
    · exact established
    · exact orderly.established other last held

/-! ### What each change leaves staffed -/

theorem Staffed.of_tables {before after : Runtime crypto noise} (staffed : before.Staffed)
    (sessions : after.sessions = before.sessions)
    (pendingSessions : after.pendingSessions = before.pendingSessions) : after.Staffed where
  ready := sessions ▸ staffed.ready
  pending := pendingSessions ▸ staffed.pending

theorem Staffed.insertPending {runtime : Runtime crypto noise} (staffed : runtime.Staffed)
    (tag : HandshakeTag) {session : Session crypto noise} (peerPkOpt : Option Key)
    (speaks : session.ourMasterPubkey.isSome = true) :
    Staffed { runtime with
      pendingSessions := runtime.pendingSessions.insert tag (session, peerPkOpt) } := by
  refine ⟨staffed.ready, fun other entry held => ?_⟩
  rcases HashMap.lookup_insert_eq_some_iff.mp held with ⟨-, rfl⟩ | ⟨-, held⟩
  · exact speaks
  · exact staffed.pending other entry held

theorem Staffed.erasePending {runtime : Runtime crypto noise} (staffed : runtime.Staffed)
    (tag : HandshakeTag) :
    Staffed { runtime with pendingSessions := runtime.pendingSessions.erase tag } := by
  refine ⟨staffed.ready, fun other entry held => ?_⟩
  exact staffed.pending other entry (HashMap.lookup_erase_eq_some_iff.mp held).2

theorem Staffed.insertSession {runtime after : Runtime crypto noise} (staffed : runtime.Staffed)
    {connId : ConnectionId} {session : Session crypto noise} (ready : session.Ready connId)
    (sessions : after.sessions = runtime.sessions.insert connId session)
    (pendingSessions : after.pendingSessions = runtime.pendingSessions) : after.Staffed := by
  refine ⟨fun other found held => ?_, pendingSessions ▸ staffed.pending⟩
  rw [sessions] at held
  rcases HashMap.lookup_insert_eq_some_iff.mp held with ⟨rfl, rfl⟩ | ⟨-, held⟩
  · exact ready
  · exact staffed.ready other found held

theorem Staffed.removeStaleConn {runtime : Runtime crypto noise} (staffed : runtime.Staffed)
    (connId : ConnectionId) : (runtime.removeStaleConn connId).Staffed where
  ready other session held :=
    staffed.ready other session (lookup_sessions_removeStaleConn runtime connId other session held).2
  pending := pendingSessions_removeStaleConn runtime connId ▸ staffed.pending

end Runtime

end Insub
