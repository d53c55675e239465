/-
Dactor/NodeDirectory.lean

The node directory (`system_actors.rs`) and the membership events that
`connect_peer` and `disconnect_peer` of the ractor runtime derive from it
(`dactor-ractor/runtime.rs`, `docs/cluster-behavior.md`).

Each call decides from the directory status before it whether to emit: a
connect emits `NodeJoined` unless the peer is `Connected`, a disconnect emits
`NodeLeft` if it is.  A connected peer that is marked `Unreachable` is not
`Connected` any more, so its disconnect emits nothing and its next connect
joins it a second time (`unreachable_peer_never_leaves`).  Everything else of the
contract holds in every run; the alternation of the events holds exactly in the
runs without such a call (`membership_events_iff`).
-/
import Dactor.Runs
import Dactor.Basic

namespace Dactor

open Runs

/-! ### The directory -/

inductive PeerStatus
  | connecting
  | connected
  | unreachable
  | disconnected
deriving DecidableEq, Repr

structure PeerInfo where
  nodeId : NodeId
  status : PeerStatus
  address : Option String
deriving DecidableEq, Repr

structure NodeDirectory where
  peers : Finmap fun _ : NodeId => PeerInfo

namespace NodeDirectory

def new : NodeDirectory := ⟨∅⟩

def addPeer (d : NodeDirectory) (n : NodeId) (address : Option String) : NodeDirectory :=
  ⟨d.peers.insert n ⟨n, .connecting, address⟩⟩

/-- A status for a peer that is not there is lost. -/
def setStatus (d : NodeDirectory) (n : NodeId) (status : PeerStatus) : NodeDirectory :=
  match d.peers.lookup n with
  | some info => ⟨d.peers.insert n { info with status }⟩
  | none => d

def removePeer (d : NodeDirectory) (n : NodeId) : NodeDirectory := ⟨d.peers.erase n⟩

def getPeer (d : NodeDirectory) (n : NodeId) : Option PeerInfo := d.peers.lookup n

def isConnected (d : NodeDirectory) (n : NodeId) : Bool :=
  ((d.getPeer n).map fun info => decide (info.status = .connected)).getD false

end NodeDirectory

/-! ### Membership -/

inductive ClusterEvent
  | nodeJoined (n : NodeId)
  | nodeLeft (n : NodeId)
deriving DecidableEq, Repr

/-- The directory of a runtime and the events it has emitted, oldest first. -/
structure Cluster where
  directory : NodeDirectory
  events : List ClusterEvent

namespace Cluster

def new : Cluster := ⟨.new, []⟩

def emit (s : Cluster) (e : ClusterEvent) : Cluster := { s with events := s.events ++ [e] }

/-- The directory after a connect: a known peer keeps its address unless the call brings
one. -/
def connected (d : NodeDirectory) (n : NodeId) (address : Option String) : NodeDirectory :=
  (match d.getPeer n with
    | some existing => (d.removePeer n).addPeer n (address.or existing.address)
    | none => d.addPeer n address).setStatus n .connected

def connectPeer (s : Cluster) (n : NodeId) (address : Option String) : Cluster :=
  let s' : Cluster := { s with directory := connected s.directory n address }
  if s.directory.isConnected n then s' else s'.emit (.nodeJoined n)

def disconnectPeer (s : Cluster) (n : NodeId) : Cluster :=
  let s' : Cluster := { s with directory := s.directory.setStatus n .disconnected }
  if s.directory.isConnected n then s'.emit (.nodeLeft n) else s'

/-- `node_directory_mut().set_status(n, Unreachable)`. -/
def markUnreachable (s : Cluster) (n : NodeId) : Cluster :=
  { s with directory := s.directory.setStatus n .unreachable }

inductive Call
  | connectPeer (n : NodeId) (address : Option String)
  | disconnectPeer (n : NodeId)
  | markUnreachable (n : NodeId)
deriving DecidableEq

/-- The peer that a call is about. -/
def Call.peer : Call → NodeId
  | connectPeer n _ | disconnectPeer n | markUnreachable n => n

def step (s : Cluster) : Call → Cluster
  | .connectPeer n address => s.connectPeer n address
  | .disconnectPeer n => s.disconnectPeer n
  | .markUnreachable n => s.markUnreachable n

/-! ### What the events owe -/

inductive Membership
  | joined
  | left
deriving DecidableEq, Repr

/-- What an event says about a peer. -/
def about (n : NodeId) : ClusterEvent → Option Membership
  | .nodeJoined m => if m = n then some .joined else none
  | .nodeLeft m => if m = n then some .left else none

def eventsOf (s : Cluster) (n : NodeId) : List Membership := s.events.filterMap (about n)

/-- The event number `k` of a peer, counted from zero. -/
def turn (k : ℕ) : Membership := if k % 2 = 0 then .joined else .left

/-- Joined, left, joined, and so on. -/
def Alternates (l : List Membership) : Prop := ∀ k m, l[k]? = some m → m = turn k

/-- What a call owes: the events of every peer alternate, those of a peer that was just
disconnected do not end with a join, those of a peer that was just connected do, a known
peer keeps its address unless a connect brings one, and nothing changes for the others. -/
structure Honours (s : Cluster) (c : Call) : Prop where
  alternate : ∀ n, Alternates ((s.step c).eventsOf n)
  left : ∀ n, c = .disconnectPeer n → ((s.step c).eventsOf n).getLast? ≠ some .joined
  joined : ∀ n address, c = .connectPeer n address →
    ((s.step c).eventsOf n).getLast? = some .joined
  address : ∀ n info, s.directory.getPeer n = some info →
    ∃ info', (s.step c).directory.getPeer n = some info' ∧
      (info'.address = info.address ∨
        ∃ address, c = .connectPeer n (some address) ∧ info'.address = some address)
  others : ∀ n, n ≠ c.peer → (s.step c).directory.getPeer n = s.directory.getPeer n ∧
    (s.step c).eventsOf n = s.eventsOf n

/-- The peer is marked `Unreachable`, and the last event said that it had joined: it was
`Connected` when it was marked. -/
def Suspected (s : Cluster) (n : NodeId) : Prop :=
  (∃ info, s.directory.getPeer n = some info ∧ info.status = .unreachable) ∧
    (s.eventsOf n).getLast? = some .joined

/-- The call does not connect or disconnect a peer that was connected when it was marked
`Unreachable`. -/
def NotSuspected (s : Cluster) : Call → Prop
  | .connectPeer n _ | .disconnectPeer n => ¬ s.Suspected n
  | .markUnreachable _ => True

end Cluster

/-! ### The directory, entry by entry -/

namespace NodeDirectory

theorem getPeer_setStatus (d : NodeDirectory) (n m : NodeId) (status : PeerStatus) :
    (d.setStatus n status).getPeer m =
      if m = n then (d.getPeer n).map fun info => { info with status } else d.getPeer m := by
  unfold setStatus getPeer
  cases hn : d.peers.lookup n with
  | none =>
    by_cases hm : m = n
    · rw [if_pos hm, hm, hn]
      rfl
    · rw [if_neg hm]
  | some info =>
    by_cases hm : m = n
    · rw [if_pos hm, hm]
      exact Finmap.lookup_insert _
    · rw [if_neg hm]
      exact Finmap.lookup_insert_of_ne _ hm

theorem getPeer_addPeer (d : NodeDirectory) (n m : NodeId) (address : Option String) :
    (d.addPeer n address).getPeer m =
      if m = n then some ⟨n, .connecting, address⟩ else d.getPeer m := by
  unfold addPeer getPeer
  by_cases hm : m = n
  · rw [if_pos hm, hm]
    exact Finmap.lookup_insert _
  · rw [if_neg hm]
    exact Finmap.lookup_insert_of_ne _ hm

theorem getPeer_removePeer_of_ne (d : NodeDirectory) {n m : NodeId} (h : m ≠ n) :
    (d.removePeer n).getPeer m = d.getPeer m :=
  Finmap.lookup_erase_ne h

theorem isConnected_iff (d : NodeDirectory) (n : NodeId) :
    d.isConnected n = true ↔ ∃ info, d.getPeer n = some info ∧ info.status = .connected := by
  unfold isConnected
  cases d.getPeer n with
  | none => simp
  | some info => simp

end NodeDirectory

namespace Cluster

open NodeDirectory

theorem getPeer_connected (d : NodeDirectory) (n m : NodeId) (address : Option String) :
    (connected d n address).getPeer m =
      if m = n then some ⟨n, .connected, address.or ((d.getPeer n).bind PeerInfo.address)⟩
      else d.getPeer m := by
  unfold connected
  rw [getPeer_setStatus]
  by_cases hm : m = n
  · rw [if_pos hm, if_pos hm]
    cases hn : d.getPeer n with
    | none =>
      show ((d.addPeer n address).getPeer n).map _ = _
      rw [getPeer_addPeer, if_pos rfl]
      simp
    | some existing =>
      show (((d.removePeer n).addPeer n _).getPeer n).map _ = _
      rw [getPeer_addPeer, if_pos rfl]
      rfl
  · rw [if_neg hm, if_neg hm]
    split
    · rw [getPeer_addPeer, if_neg hm, getPeer_removePeer_of_ne d hm]
    · rw [getPeer_addPeer, if_neg hm]

/-! ### Alternation -/

theorem alternates_nil : Alternates [] := by
  intro k m h
  cases h

/-- One more event keeps the alternation exactly when it is the next in turn. -/
theorem alternates_append {l : List Membership} (h : Alternates l) (m : Membership) :
    Alternates (l ++ [m]) ↔ m = turn l.length := by
  constructor
  · intro h'
    exact h' l.length m (by rw [List.getElem?_append_right (le_refl _), Nat.sub_self]; rfl)
  · rintro rfl k m' hk
    rw [List.getElem?_append] at hk
    split at hk
    · exact h k m' hk
    · rename_i hge
      have hlen := (List.getElem?_eq_some_iff.mp hk).1
      have hkl : k = l.length := by
        simp only [List.length_cons, List.length_nil] at hlen
        omega
      rw [hkl, Nat.sub_self] at hk
      cases hk
      rw [hkl]

/-- The last event was a join exactly when it is a leave's turn. -/
theorem getLast?_joined_iff {l : List Membership} (h : Alternates l) :
    l.getLast? = some .joined ↔ turn l.length = .left := by
  induction l using List.reverseRecOn with
  | nil => exact iff_of_false (by simp) (by decide)
  | append_singleton l m _ =>
    have hm : m = turn l.length :=
      h l.length m (by rw [List.getElem?_append_right (le_refl _), Nat.sub_self]; rfl)
    rw [List.getLast?_append, List.getLast?_singleton, Option.some_or, Option.some.injEq, hm,
      List.length_append, List.length_cons, List.length_nil]
    unfold turn
    rcases Nat.mod_two_eq_zero_or_one l.length with h0 | h1
    · rw [if_pos h0, if_neg (by omega)]
      decide
    · rw [if_neg (by omega), if_pos (by omega)]
      decide

/-- Before a peer has joined, or after it has left, it is a join's turn. -/
theorem turn_of_not_joined {l : List Membership} (h : Alternates l)
    (hlast : l.getLast? ≠ some .joined) : turn l.length = .joined := by
  cases hturn : turn l.length with
  | joined => rfl
  | left => exact absurd ((getLast?_joined_iff h).mpr hturn) hlast

/-! ### One call -/

theorem eventsOf_emit (s : Cluster) (e : ClusterEvent) (n : NodeId) :
    (s.emit e).eventsOf n = s.eventsOf n ++ (about n e).toList := by
  show (s.events ++ [e]).filterMap (about n) = _
  rw [List.filterMap_append]
  cases h : about n e with
  | none =>
    rw [List.filterMap_cons_none h]
    rfl
  | some m =>
    rw [List.filterMap_cons_some h]
    rfl

/-- An event that is about one peer reaches the events of that peer only. -/
theorem eventsOf_emit_about (s : Cluster) (e : ClusterEvent) {n : NodeId} {what : Membership}
    (m : NodeId) (h : ∀ m, about m e = if n = m then some what else none) :
    (s.emit e).eventsOf m =
      if m = n then s.eventsOf m ++ [what] else s.eventsOf m := by
  rw [eventsOf_emit, h]
  by_cases hm : m = n
  · rw [if_pos hm, if_pos hm.symm]
    rfl
  · rw [if_neg hm, if_neg (Ne.symm hm)]
    exact List.append_nil _

theorem eventsOf_connectPeer (s : Cluster) (n m : NodeId) (address : Option String) :
    (s.connectPeer n address).eventsOf m =
      if m = n ∧ s.directory.isConnected n = false then s.eventsOf m ++ [.joined]
      else s.eventsOf m := by
  unfold connectPeer
  cases hconn : s.directory.isConnected n with
  | true => exact (if_neg (by simp)).symm
  | false =>
    show Cluster.eventsOf (Cluster.emit _ (.nodeJoined n)) m = _
    rw [eventsOf_emit_about _ _ _ (fun _ => rfl)]
    exact if_congr (and_iff_left rfl).symm rfl rfl

theorem eventsOf_disconnectPeer (s : Cluster) (n m : NodeId) :
    (s.disconnectPeer n).eventsOf m =
      if m = n ∧ s.directory.isConnected n = true then s.eventsOf m ++ [.left]
      else s.eventsOf m := by
  unfold disconnectPeer
  cases hconn : s.directory.isConnected n with
  | false => exact (if_neg (by simp)).symm
  | true =>
    show Cluster.eventsOf (Cluster.emit _ (.nodeLeft n)) m = _
    rw [eventsOf_emit_about _ _ _ (fun _ => rfl)]
    exact if_congr (and_iff_left rfl).symm rfl rfl

theorem directory_connectPeer (s : Cluster) (n : NodeId) (address : Option String) :
    (s.connectPeer n address).directory = connected s.directory n address := by
  unfold connectPeer
  cases s.directory.isConnected n <;> rfl

theorem directory_disconnectPeer (s : Cluster) (n : NodeId) :
    (s.disconnectPeer n).directory = s.directory.setStatus n .disconnected := by
  unfold disconnectPeer
  cases s.directory.isConnected n <;> rfl

/-- A change of status keeps the addresses. -/
theorem address_setStatus (d : NodeDirectory) (n m : NodeId) (status : PeerStatus)
    {info : PeerInfo} (h : d.getPeer m = some info) :
    ∃ info', (d.setStatus n status).getPeer m = some info' ∧ info'.address = info.address := by
  rw [getPeer_setStatus]
  by_cases hm : m = n
  · rw [if_pos hm, ← hm, h]
    exact ⟨_, rfl, rfl⟩
  · rw [if_neg hm]
    exact ⟨info, h, rfl⟩

/-- No call but a connect with an address changes the address of a known peer. -/
theorem address_step (s : Cluster) (c : Call) (n : NodeId) (info : PeerInfo)
    (h : s.directory.getPeer n = some info) :
    ∃ info', (s.step c).directory.getPeer n = some info' ∧
      (info'.address = info.address ∨
        ∃ address, c = .connectPeer n (some address) ∧ info'.address = some address) := by
  cases c with
  | connectPeer m address =>
    show ∃ info', (s.connectPeer m address).directory.getPeer n = some info' ∧ _
    rw [directory_connectPeer, getPeer_connected]
    by_cases hm : n = m
    · subst hm
      rw [if_pos rfl, h]
      refine ⟨_, rfl, ?_⟩
      cases address with
      | none => exact Or.inl rfl
      | some a => exact Or.inr ⟨a, rfl, rfl⟩
    · rw [if_neg hm]
      exact ⟨info, h, Or.inl rfl⟩
  | disconnectPeer m =>
    show ∃ info', (s.disconnectPeer m).directory.getPeer n = some info' ∧ _
    rw [directory_disconnectPeer]
    obtain ⟨info', hget, haddr⟩ := address_setStatus s.directory m n .disconnected h
    exact ⟨info', hget, Or.inl haddr⟩
  | markUnreachable m =>
    obtain ⟨info', hget, haddr⟩ := address_setStatus s.directory m n .unreachable h
    exact ⟨info', hget, Or.inl haddr⟩

/-- A call changes nothing for the other peers. -/
theorem others_step (s : Cluster) (c : Call) (n : NodeId) (h : n ≠ c.peer) :
    (s.step c).directory.getPeer n = s.directory.getPeer n ∧
      (s.step c).eventsOf n = s.eventsOf n := by
  cases c with
  | connectPeer m address =>
    have hm : n ≠ m := h
    show (s.connectPeer m address).directory.getPeer n = _ ∧
      (s.connectPeer m address).eventsOf n = _
    rw [directory_connectPeer, getPeer_connected, eventsOf_connectPeer, if_neg hm,
      if_neg fun h' => hm h'.1]
    exact ⟨rfl, rfl⟩
  | disconnectPeer m =>
    have hm : n ≠ m := h
    show (s.disconnectPeer m).directory.getPeer n = _ ∧ (s.disconnectPeer m).eventsOf n = _
    rw [directory_disconnectPeer, getPeer_setStatus, eventsOf_disconnectPeer, if_neg hm,
      if_neg fun h' => hm h'.1]
    exact ⟨rfl, rfl⟩
  | markUnreachable m =>
    have hm : n ≠ m := h
    show (s.directory.setStatus m .unreachable).getPeer n = _ ∧ _
    rw [getPeer_setStatus, if_neg hm]
    exact ⟨rfl, rfl⟩

/-! ### The entry of a peer and its events -/

/-- A connected peer has joined, a disconnected one has not joined since it left, and a
peer that is not there has no events.  Of an unreachable peer nothing is said. -/
structure PeerFits (entry : Option PeerInfo) (l : List Membership) : Prop where
  alternate : Alternates l
  unknown : entry = none → l = []
  joined : ∀ info ∈ entry, info.status = .connected → l.getLast? = some .joined
  left : ∀ info ∈ entry, info.status = .disconnected → l.getLast? ≠ some .joined
  settled : ∀ info ∈ entry, info.status ≠ .connecting

/-- The entry of a peer whose status was set has that status. -/
theorem status_of_mem {entry : Option PeerInfo} {status : PeerStatus} {info : PeerInfo}
    (h : info ∈ entry.map fun info => { info with status }) : info.status = status := by
  obtain ⟨old, -, rfl⟩ := Option.map_eq_some_iff.mp h
  rfl

def Consistent (s : Cluster) : Prop :=
  ∀ n, PeerFits (s.directory.getPeer n) (s.eventsOf n)

theorem consistent_new : new.Consistent := by
  intro n
  have hnone : new.directory.getPeer n = none := Finmap.lookup_empty n
  rw [hnone]
  exact
    { alternate := alternates_nil
      unknown := fun _ => rfl
      joined := fun info h => by cases h
      left := fun info h => by cases h
      settled := fun info h => by cases h }

/-- A peer that is neither connected nor suspected has not joined since it left. -/
theorem Consistent.not_joined {s : Cluster} (h : s.Consistent) {n : NodeId}
    (hconn : s.directory.isConnected n = false) (hsus : ¬ s.Suspected n) :
    (s.eventsOf n).getLast? ≠ some .joined := by
  intro hlast
  cases hentry : s.directory.getPeer n with
  | none =>
    rw [(h n).unknown hentry] at hlast
    cases hlast
  | some info =>
    cases hstatus : info.status with
    | connecting => exact (h n).settled info hentry hstatus
    | connected =>
      have htrue := (s.directory.isConnected_iff n).mpr ⟨info, hentry, hstatus⟩
      rw [hconn] at htrue
      cases htrue
    | unreachable => exact hsus ⟨⟨info, hentry, hstatus⟩, hlast⟩
    | disconnected => exact (h n).left info hentry hstatus hlast

theorem Consistent.joined_of_connected {s : Cluster} (h : s.Consistent) {n : NodeId}
    (hconn : s.directory.isConnected n = true) : (s.eventsOf n).getLast? = some .joined := by
  obtain ⟨info, hentry, hstatus⟩ := (s.directory.isConnected_iff n).mp hconn
  exact (h n).joined info hentry hstatus

/-- The events of a peer that is connected: they alternate and end with a join. -/
theorem Consistent.connectPeer {s : Cluster} (h : s.Consistent) {n : NodeId}
    (hsus : ¬ s.Suspected n) (address : Option String) :
    Alternates ((s.connectPeer n address).eventsOf n) ∧
      ((s.connectPeer n address).eventsOf n).getLast? = some .joined := by
  rw [eventsOf_connectPeer]
  cases hconn : s.directory.isConnected n with
  | true =>
    rw [if_neg (by simp)]
    exact ⟨(h n).alternate, h.joined_of_connected hconn⟩
  | false =>
    rw [if_pos ⟨rfl, rfl⟩]
    refine ⟨(alternates_append (h n).alternate _).mpr ?_, List.getLast?_concat⟩
    exact (turn_of_not_joined (h n).alternate (h.not_joined hconn hsus)).symm

/-- The events of a peer that is disconnected: they alternate and do not end with a
join. -/
theorem Consistent.disconnectPeer {s : Cluster} (h : s.Consistent) {n : NodeId}
    (hsus : ¬ s.Suspected n) :
    Alternates ((s.disconnectPeer n).eventsOf n) ∧
      ((s.disconnectPeer n).eventsOf n).getLast? ≠ some .joined := by
  rw [eventsOf_disconnectPeer]
  cases hconn : s.directory.isConnected n with
  | true =>
    rw [if_pos ⟨rfl, rfl⟩]
    have hturn := (getLast?_joined_iff (h n).alternate).mp (h.joined_of_connected hconn)
    refine ⟨(alternates_append (h n).alternate _).mpr hturn.symm, ?_⟩
    rw [List.getLast?_concat]
    decide
  | false =>
    rw [if_neg (by simp)]
    exact ⟨(h n).alternate, h.not_joined hconn hsus⟩

theorem Consistent.step {s : Cluster} (c : Call) (hc : s.NotSuspected c) (h : s.Consistent) :
    (s.step c).Consistent := by
  intro m
  by_cases hm : m = c.peer
  · subst hm
    cases c with
    | connectPeer n address =>
      obtain ⟨halt, hlast⟩ := h.connectPeer hc address
      have hentry := (congrArg (fun d => d.getPeer n) (directory_connectPeer s n address)).trans
        (getPeer_connected s.directory n n address)
      rw [if_pos rfl] at hentry
      show PeerFits ((s.connectPeer n address).directory.getPeer n) _
      rw [show (s.connectPeer n address).directory.getPeer n = _ from hentry]
      exact
        { alternate := halt
          unknown := fun hnone => by cases hnone
          joined := fun _ _ _ => hlast
          left := fun info hinfo hstatus => by
            cases hinfo
            cases hstatus
          settled := fun info hinfo hstatus => by
            cases hinfo
            cases hstatus }
    | disconnectPeer n =>
      obtain ⟨halt, hlast⟩ := h.disconnectPeer hc
      have hentry := (congrArg (fun d => d.getPeer n) (directory_disconnectPeer s n)).trans
        (getPeer_setStatus s.directory n n .disconnected)
      rw [if_pos rfl] at hentry
      show PeerFits ((s.disconnectPeer n).directory.getPeer n) _
      rw [show (s.disconnectPeer n).directory.getPeer n = _ from hentry]
      exact
        { alternate := halt
          unknown := fun hnone => by
            have hunknown := (h n).unknown (Option.map_eq_none_iff.mp hnone)
            have hconn : s.directory.isConnected n = false := by
              rw [isConnected, Option.map_eq_none_iff.mp hnone]
              rfl
            show (s.disconnectPeer n).eventsOf n = []
            rw [eventsOf_disconnectPeer, if_neg (by simp [hconn])]
            exact hunknown
          joined := fun info hinfo hstatus => by
            cases (status_of_mem hinfo).symm.trans hstatus
          left := fun _ _ _ => hlast
          settled := fun info hinfo hstatus => by
            cases (status_of_mem hinfo).symm.trans hstatus }
    | markUnreachable n =>
      have hentry := getPeer_setStatus s.directory n n .unreachable
      rw [if_pos rfl] at hentry
      show PeerFits ((s.directory.setStatus n .unreachable).getPeer n) (s.eventsOf n)
      rw [hentry]
      exact
        { alternate := (h n).alternate
          unknown := fun hnone => (h n).unknown (Option.map_eq_none_iff.mp hnone)
          joined := fun info hinfo hstatus => by
            cases (status_of_mem hinfo).symm.trans hstatus
          left := fun info hinfo hstatus => by
            cases (status_of_mem hinfo).symm.trans hstatus
          settled := fun info hinfo hstatus => by
            cases (status_of_mem hinfo).symm.trans hstatus }
  · obtain ⟨hentry, hevents⟩ := others_step s c m hm
    rw [hentry, hevents]
    exact h m

/-- A call honours the contract exactly when it spares the suspected peers. -/
theorem Consistent.honours_iff {s : Cluster} (h : s.Consistent) (c : Call) :
    s.Honours c ↔ s.NotSuspected c := by
  constructor
  · intro hon
    cases c with
    | connectPeer n address =>
      rintro ⟨⟨info, hentry, hstatus⟩, hlast⟩
      -- the peer is not `Connected`, so it joins once more
      have hconn : s.directory.isConnected n = false := by
        rw [isConnected, hentry]
        simp [hstatus]
      have halt := hon.alternate n
      rw [show (s.step (.connectPeer n address)).eventsOf n = _ from
        eventsOf_connectPeer s n n address, if_pos ⟨rfl, hconn⟩,
        alternates_append (h n).alternate, (getLast?_joined_iff (h n).alternate).mp hlast] at halt
      cases halt
    | disconnectPeer n =>
      rintro ⟨⟨info, hentry, hstatus⟩, hlast⟩
      have hconn : ¬ (n = n ∧ s.directory.isConnected n = true) := by
        rw [isConnected, hentry]
        simp [hstatus]
      apply hon.left n rfl
      rw [show (s.step (.disconnectPeer n)).eventsOf n = _ from eventsOf_disconnectPeer s n n,
        if_neg hconn]
      exact hlast
    | markUnreachable n => trivial
  · intro hc
    have hnext := h.step c hc
    exact
      { alternate := fun n => (hnext n).alternate
        left := fun n heq => by
          subst heq
          exact (h.disconnectPeer hc).2
        joined := fun n address heq => by
          subst heq
          exact (h.connectPeer hc address).2
        address := address_step s c
        others := others_step s c }

/-! ### Runs -/

/-- **The membership events describe the directory exactly in the runs that spare the
suspected peers**: no `connect_peer` or `disconnect_peer` of a peer that was connected when
it was marked `Unreachable`. -/
theorem membership_events_iff (calls : List Call) :
    Admissible step Honours new calls ↔ Admissible step NotSuspected new calls :=
  admissible_congr_of_inv (fun _ c hc h => h.step c hc) (fun _ c h => h.honours_iff c)
    consistent_new

/-- A peer joins, becomes unreachable and is disconnected: it never leaves. -/
theorem unreachable_peer_never_leaves :
    ¬ Admissible step Honours new
      [.connectPeer ⟨"n2"⟩ none, .markUnreachable ⟨"n2"⟩, .disconnectPeer ⟨"n2"⟩] := by
  rintro ⟨-, -, h, -⟩
  exact h.left ⟨"n2"⟩ rfl (by decide)

end Cluster

end Dactor
