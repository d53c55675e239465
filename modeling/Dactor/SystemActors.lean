/-
Dactor/SystemActors.lean

The managers of the control plane (`system_actors.rs`) and the native actors
around them (`dactor-ractor/system_actors.rs`): remote watches, cancellation
tokens and the node directory.

Each native actor handles its messages one at a time, so what it holds is
decided by the order of the messages alone: the last message about a watcher and
its target (`watching_after`), about a request (`token_after`) or about a peer
(`directory_after`).
-/
import Mathlib.Data.List.ReduceOption
import Mathlib.Data.Set.Card
import Dactor.Servers
import Dactor.NodeDirectory
import Dactor.Proto

namespace Dactor

open Servers

/-! ### Remote watches -/

/-- The remote watchers of local actors, by target; a target without watchers has no
entry. -/
structure WatchManager where
  watchers : Finmap fun _ : ActorId => Finset ActorId
  occupied : ∀ target set, watchers.lookup target = some set → set ≠ ∅

namespace WatchManager

def new : WatchManager where
  watchers := ∅
  occupied := fun target set h => by
    rw [Finmap.lookup_empty] at h
    cases h

/-- `watchers_of`; the order of the hash set is not modelled. -/
def watchersOf (m : WatchManager) (target : ActorId) : Finset ActorId :=
  (m.watchers.lookup target).getD ∅

theorem occupied_insert {watchers : Finmap fun _ : ActorId => Finset ActorId}
    (h : ∀ target set, watchers.lookup target = some set → set ≠ ∅) {target : ActorId}
    {set : Finset ActorId} (hset : set ≠ ∅) (target' : ActorId) (set' : Finset ActorId)
    (hlookup : (watchers.insert target set).lookup target' = some set') : set' ≠ ∅ := by
  by_cases heq : target' = target
  · rw [heq, Finmap.lookup_insert] at hlookup
    exact Option.some.inj hlookup ▸ hset
  · rw [Finmap.lookup_insert_of_ne _ heq] at hlookup
    exact h target' set' hlookup

theorem occupied_erase {watchers : Finmap fun _ : ActorId => Finset ActorId}
    (h : ∀ target set, watchers.lookup target = some set → set ≠ ∅) (target : ActorId)
    (target' : ActorId) (set' : Finset ActorId)
    (hlookup : (watchers.erase target).lookup target' = some set') : set' ≠ ∅ := by
  by_cases heq : target' = target
  · rw [heq, Finmap.lookup_erase] at hlookup
    cases hlookup
  · rw [Finmap.lookup_erase_ne heq] at hlookup
    exact h target' set' hlookup

def watch (m : WatchManager) (target watcher : ActorId) : WatchManager where
  watchers := m.watchers.insert target (insert watcher (m.watchersOf target))
  occupied := occupied_insert m.occupied (Finset.insert_ne_empty _ _)

def unwatch (m : WatchManager) (target watcher : ActorId) : WatchManager :=
  match m.watchers.lookup target with
  | none => m
  | some set =>
    if h : set.erase watcher = ∅ then
      { watchers := m.watchers.erase target
        occupied := occupied_erase m.occupied target }
    else
      { watchers := m.watchers.insert target (set.erase watcher)
        occupied := occupied_insert m.occupied h }

/-- What `on_terminated` returns, in the order of the hash set, which is not modelled. -/
def notifications (m : WatchManager) (terminated : ActorId) : Finset WatchNotification :=
  (m.watchersOf terminated).map ⟨fun watcher => ⟨terminated, watcher⟩, fun _ _ h => by cases h; rfl⟩

/-- What `on_terminated` leaves. -/
def onTerminated (m : WatchManager) (terminated : ActorId) : WatchManager where
  watchers := m.watchers.erase terminated
  occupied := occupied_erase m.occupied terminated

def watchedCount (m : WatchManager) : ℕ := m.watchers.keys.card

@[simp] theorem watchersOf_new (target : ActorId) : new.watchersOf target = ∅ := by
  rw [watchersOf, new, Finmap.lookup_empty]
  rfl

theorem watchersOf_watch (m : WatchManager) (target watcher target' : ActorId) :
    (m.watch target watcher).watchersOf target' =
      if target' = target then insert watcher (m.watchersOf target) else m.watchersOf target' := by
  by_cases h : target' = target
  · rw [if_pos h, h, watchersOf, watch, Finmap.lookup_insert]
    rfl
  · rw [if_neg h, watchersOf, watch, Finmap.lookup_insert_of_ne _ h]
    rfl

theorem watchersOf_onTerminated (m : WatchManager) (target target' : ActorId) :
    (m.onTerminated target).watchersOf target' =
      if target' = target then ∅ else m.watchersOf target' := by
  by_cases h : target' = target
  · rw [if_pos h, h, watchersOf, onTerminated, Finmap.lookup_erase]
    rfl
  · rw [if_neg h, watchersOf, onTerminated, Finmap.lookup_erase_ne h]
    rfl

theorem watchersOf_unwatch (m : WatchManager) (target watcher target' : ActorId) :
    (m.unwatch target watcher).watchersOf target' =
      if target' = target then (m.watchersOf target).erase watcher else m.watchersOf target' := by
  rw [unwatch]
  split
  case h_1 hnone =>
    -- nobody watches the target
    split
    · next h => rw [h, watchersOf, hnone]; rfl
    · rfl
  case h_2 set hsome =>
    have hset : m.watchersOf target = set := by rw [watchersOf, hsome]; rfl
    rw [hset]
    split
    · next hempty =>
      rw [hempty]
      exact m.watchersOf_onTerminated target target'
    · by_cases h : target' = target
      · rw [if_pos h, h, watchersOf, Finmap.lookup_insert]
        rfl
      · rw [if_neg h, watchersOf, Finmap.lookup_insert_of_ne _ h]
        rfl

theorem mem_notifications {m : WatchManager} {terminated : ActorId} {n : WatchNotification} :
    n ∈ m.notifications terminated ↔
      n.terminated = terminated ∧ n.watcher ∈ m.watchersOf terminated := by
  rw [notifications, Finset.mem_map]
  constructor
  · rintro ⟨watcher, hwatcher, rfl⟩
    exact ⟨rfl, hwatcher⟩
  · rintro ⟨rfl, hwatcher⟩
    exact ⟨n.watcher, hwatcher, rfl⟩

/-- A target is counted exactly if somebody watches it. -/
theorem mem_keys_iff (m : WatchManager) (target : ActorId) :
    target ∈ m.watchers.keys ↔ m.watchersOf target ≠ ∅ := by
  rw [Finmap.mem_keys, ← Finmap.lookup_isSome, watchersOf]
  cases h : m.watchers.lookup target with
  | none => simp
  | some set => simpa using m.occupied target set h

end WatchManager

/-- The messages of the `WatchManagerActor`; `OnTerminated` and `GetWatchedCount` carry a
reply channel. -/
inductive WatchManagerMsg
  | watch (target watcher : ActorId)
  | unwatch (target watcher : ActorId)
  | onTerminated (terminated : ActorId)
  | getWatchedCount
deriving DecidableEq

inductive WatchManagerReply
  | none
  | notifications (set : Finset WatchNotification)
  | count (n : ℕ)

/-- `WatchManagerActor::handle`. -/
def WatchManager.handle (m : WatchManager) : WatchManagerMsg → WatchManager × WatchManagerReply
  | .watch target watcher => (m.watch target watcher, .none)
  | .unwatch target watcher => (m.unwatch target watcher, .none)
  | .onTerminated terminated =>
    (m.onTerminated terminated, .notifications (m.notifications terminated))
  | .getWatchedCount => (m, .count m.watchedCount)

/-- What a message says about whether `watcher` watches `target`. -/
def WatchManagerMsg.about (target watcher : ActorId) : WatchManagerMsg → Option Bool
  | watch t w => if t = target ∧ w = watcher then some true else none
  | unwatch t w => if t = target ∧ w = watcher then some false else none
  | onTerminated t => if t = target then some false else none
  | getWatchedCount => none

/-- The last of the messages about the two is a watch. -/
def Watching (msgs : List WatchManagerMsg) (target watcher : ActorId) : Prop :=
  (msgs.filterMap (WatchManagerMsg.about target watcher)).getLast? = some true

theorem watching_step (target watcher : ActorId) (m : WatchManager) (msg : WatchManagerMsg) :
    decide (watcher ∈ (m.handle msg).1.watchersOf target) =
      (msg.about target watcher).getD (decide (watcher ∈ m.watchersOf target)) := by
  cases msg with
  | watch t w =>
    rw [WatchManager.handle, WatchManager.watchersOf_watch, WatchManagerMsg.about]
    by_cases ht : target = t
    · by_cases hw : watcher = w
      · simp [ht, hw]
      · simp [ht, hw, Ne.symm hw]
    · simp [ht, Ne.symm ht]
  | unwatch t w =>
    rw [WatchManager.handle, WatchManager.watchersOf_unwatch, WatchManagerMsg.about]
    by_cases ht : target = t
    · by_cases hw : watcher = w
      · simp [ht, hw]
      · simp [ht, hw, Ne.symm hw]
    · simp [ht, Ne.symm ht]
  | onTerminated t =>
    rw [WatchManager.handle, WatchManager.watchersOf_onTerminated, WatchManagerMsg.about]
    by_cases ht : target = t
    · simp [ht]
    · simp [ht, Ne.symm ht]
  | getWatchedCount => rfl

/-- The manager holds exactly the watches that the messages have left. -/
theorem watching_after (msgs : List WatchManagerMsg) (target watcher : ActorId) :
    watcher ∈ (after WatchManager.handle .new msgs).watchersOf target ↔
      Watching msgs target watcher := by
  have h := obs_after WatchManager.handle (fun m => decide (watcher ∈ m.watchersOf target))
    (watching_step target watcher) .new msgs
  apply decide_eq_true_iff.symm.trans
  rw [h, Watching]
  cases (msgs.filterMap (WatchManagerMsg.about target watcher)).getLast? with
  | none => simp
  | some b => simp

/-- The targets that are watched, counted. -/
theorem watchedCount_after (msgs : List WatchManagerMsg) :
    (after WatchManager.handle .new msgs).watchedCount =
      Set.ncard {target | ∃ watcher, Watching msgs target watcher} := by
  rw [WatchManager.watchedCount, ← Set.ncard_coe_finset]
  congr 1
  ext target
  rw [Finset.mem_coe, WatchManager.mem_keys_iff, ← Finset.nonempty_iff_ne_empty]
  exact exists_congr fun watcher => watching_after msgs target watcher

/-! ### Cancellation -/

variable {T : Type}

/-- The cancellation tokens of the active requests. -/
structure CancelManager (T : Type) where
  tokens : Finmap fun _ : String => T

namespace CancelManager

def new : CancelManager T := ⟨∅⟩

def register (m : CancelManager T) (requestId : String) (token : T) : CancelManager T :=
  ⟨m.tokens.insert requestId token⟩

def remove (m : CancelManager T) (requestId : String) : CancelManager T :=
  ⟨m.tokens.erase requestId⟩

/-- `cancel`: the response, with the token that it cancels, and what it leaves. -/
def cancel (m : CancelManager T) (requestId : String) :
    CancelManager T × CancelResponse × Option T :=
  match m.tokens.lookup requestId with
  | some token => (m.remove requestId, .acknowledged, some token)
  | none => (m, .notFound ("no active request with id '" ++ requestId ++ "'"), none)

def activeCount (m : CancelManager T) : ℕ := m.tokens.keys.card

end CancelManager

/-- The messages of the `CancelManagerActor`; `Cancel` and `GetActiveCount` carry a reply
channel. -/
inductive CancelManagerMsg (T : Type)
  | register (requestId : String) (token : T)
  | cancel (requestId : String)
  | complete (requestId : String)
  | getActiveCount

inductive CancelManagerReply (T : Type)
  | none
  | response (response : CancelResponse) (cancelled : Option T)
  | count (n : ℕ)

/-- `CancelManagerActor::handle`. -/
def CancelManager.handle (m : CancelManager T) :
    CancelManagerMsg T → CancelManager T × CancelManagerReply T
  | .register requestId token => (m.register requestId token, .none)
  | .cancel requestId =>
    ((m.cancel requestId).1, .response (m.cancel requestId).2.1 (m.cancel requestId).2.2)
  | .complete requestId => (m.remove requestId, .none)
  | .getActiveCount => (m, .count m.activeCount)

/-- What a message makes of the token of a request. -/
def CancelManagerMsg.about (requestId : String) : CancelManagerMsg T → Option (Option T)
  | register id token => if id = requestId then some (some token) else none
  | cancel id => if id = requestId then some none else none
  | complete id => if id = requestId then some none else none
  | getActiveCount => none

/-- The token of a request: the last message about it has registered it. -/
def activeToken (msgs : List (CancelManagerMsg T)) (requestId : String) : Option T :=
  ((msgs.filterMap (CancelManagerMsg.about requestId)).getLast?).getD none

theorem CancelManager.lookup_remove (m : CancelManager T) (id requestId : String) :
    (m.remove id).tokens.lookup requestId =
      if id = requestId then none else m.tokens.lookup requestId := by
  by_cases h : id = requestId
  · rw [if_pos h, ← h, remove, Finmap.lookup_erase]
  · rw [if_neg h, remove, Finmap.lookup_erase_ne (Ne.symm h)]

theorem token_step (requestId : String) (m : CancelManager T) (msg : CancelManagerMsg T) :
    (m.handle msg).1.tokens.lookup requestId =
      (msg.about requestId).getD (m.tokens.lookup requestId) := by
  cases msg with
  | register id token =>
    rw [CancelManager.handle, CancelManager.register, CancelManagerMsg.about]
    by_cases h : id = requestId
    · rw [if_pos h, ← h]
      exact Finmap.lookup_insert _
    · rw [if_neg h]
      exact Finmap.lookup_insert_of_ne _ (Ne.symm h)
  | cancel id =>
    rw [CancelManager.handle, CancelManager.cancel, CancelManagerMsg.about]
    cases hid : m.tokens.lookup id with
    | some token =>
      show (m.remove id).tokens.lookup requestId = _
      rw [CancelManager.lookup_remove]
      split <;> rfl
    | none =>
      show m.tokens.lookup requestId = _
      split
      · next h => rw [← h, hid]; rfl
      · rfl
  | complete id =>
    rw [CancelManager.handle, CancelManagerMsg.about, CancelManager.lookup_remove]
    split <;> rfl
  | getActiveCount => rfl

/-- The manager holds exactly the tokens that the messages have left. -/
theorem token_after (msgs : List (CancelManagerMsg T)) (requestId : String) :
    (after CancelManager.handle .new msgs).tokens.lookup requestId = activeToken msgs requestId :=
  obs_after CancelManager.handle (fun m => m.tokens.lookup requestId) (token_step requestId)
    .new msgs

/-- The requests that have a token, counted. -/
theorem activeCount_after (msgs : List (CancelManagerMsg T)) :
    (after CancelManager.handle .new msgs).activeCount =
      Set.ncard {requestId | activeToken msgs requestId ≠ none} := by
  rw [CancelManager.activeCount, ← Set.ncard_coe_finset]
  congr 1
  ext requestId
  rw [Finset.mem_coe, Finmap.mem_keys, ← Finmap.lookup_isSome, token_after]
  exact Option.isSome_iff_ne_none

/-! ### The node directory -/

namespace NodeDirectory

def peerCount (d : NodeDirectory) : ℕ := d.peers.keys.card

def connectedCount (d : NodeDirectory) : ℕ :=
  (d.peers.entries.map Sigma.snd).countP fun info => info.status = .connected

end NodeDirectory

/-- The messages of the `NodeDirectoryActor`; the queries carry a reply channel. -/
inductive NodeDirectoryMsg
  | connectPeer (peerId : NodeId) (address : Option String)
  | disconnectPeer (peerId : NodeId)
  | isConnected (peerId : NodeId)
  | getPeerCount
  | getConnectedCount
  | getPeerInfo (peerId : NodeId)
deriving DecidableEq

inductive NodeDirectoryReply
  | none
  | connected (b : Bool)
  | count (n : ℕ)
  | info (info : Option PeerInfo)

/-- `NodeDirectoryActor::handle`. -/
def NodeDirectory.handle (d : NodeDirectory) :
    NodeDirectoryMsg → NodeDirectory × NodeDirectoryReply
  | .connectPeer peerId address =>
    ((match d.getPeer peerId with
      | some existing =>
        (d.removePeer peerId).addPeer peerId (address.or existing.address)
      | none => d.addPeer peerId address).setStatus peerId .connected, .none)
  | .disconnectPeer peerId => (d.setStatus peerId .disconnected, .none)
  | .isConnected peerId => (d, .connected (d.isConnected peerId))
  | .getPeerCount => (d, .count d.peerCount)
  | .getConnectedCount => (d, .count d.connectedCount)
  | .getPeerInfo peerId => (d, .info (d.getPeer peerId))

/-- The connect of the actor is the one of the runtime's own directory. -/
theorem handle_connectPeer (d : NodeDirectory) (peerId : NodeId) (address : Option String) :
    (d.handle (.connectPeer peerId address)).1 = Cluster.connected d peerId address := rfl

/-- The address that a connect of the peer brings. -/
def NodeDirectoryMsg.join (n : NodeId) : NodeDirectoryMsg → Option (Option String)
  | connectPeer peerId address => if peerId = n then some address else none
  | _ => none

/-- The addresses that the connects of a peer brought. -/
def joins (msgs : List NodeDirectoryMsg) (n : NodeId) : List (Option String) :=
  msgs.filterMap (NodeDirectoryMsg.join n)

/-- The status that a message gives a peer. -/
def NodeDirectoryMsg.status (n : NodeId) : NodeDirectoryMsg → Option PeerStatus
  | connectPeer peerId _ => if peerId = n then some .connected else none
  | disconnectPeer peerId => if peerId = n then some .disconnected else none
  | _ => none

/-- What the messages have left of a peer: nothing before its first connect, then the status
of the last connect or disconnect and the last address that a connect brought. -/
def peerAfter (msgs : List NodeDirectoryMsg) (n : NodeId) : Option PeerInfo :=
  if joins msgs n = [] then none
  else some
    { nodeId := n
      status := ((msgs.filterMap (NodeDirectoryMsg.status n)).getLast?).getD .connecting
      address := (joins msgs n).reduceOption.getLast? }

/-- A message that is not about the peer leaves what there is of it. -/
theorem peerAfter_of_other {n : NodeId} (msg : NodeDirectoryMsg) (hjoin : msg.join n = none)
    (hstatus : msg.status n = none) (msgs : List NodeDirectoryMsg) :
    peerAfter (msgs ++ [msg]) n = peerAfter msgs n := by
  simp [peerAfter, joins, hjoin, hstatus]

theorem peerAfter_connectPeer (msgs : List NodeDirectoryMsg) (n : NodeId)
    (address : Option String) :
    peerAfter (msgs ++ [.connectPeer n address]) n =
      some ⟨n, .connected, address.or ((peerAfter msgs n).bind PeerInfo.address)⟩ := by
  have hjoin : NodeDirectoryMsg.join n (.connectPeer n address) = some address := if_pos rfl
  have hstatus : NodeDirectoryMsg.status n (.connectPeer n address) = some .connected := if_pos rfl
  -- the address before is the last one brought: there is none before the first connect
  have hold : (peerAfter msgs n).bind PeerInfo.address = (joins msgs n).reduceOption.getLast? := by
    rw [peerAfter]
    split
    · next hnone => rw [hnone]; rfl
    · rfl
  have hnew : joins (msgs ++ [.connectPeer n address]) n = joins msgs n ++ [address] := by
    simp [joins, hjoin]
  rw [hold, peerAfter, hnew, List.reduceOption_append]
  cases address with
  | none => simp [hstatus]
  | some a => simp [hstatus]

theorem peerAfter_disconnectPeer (msgs : List NodeDirectoryMsg) (n : NodeId) :
    peerAfter (msgs ++ [.disconnectPeer n]) n =
      (peerAfter msgs n).map fun info => { info with status := .disconnected } := by
  have hstatus : NodeDirectoryMsg.status n (.disconnectPeer n) = some .disconnected := if_pos rfl
  have hnew : joins (msgs ++ [.disconnectPeer n]) n = joins msgs n := by
    simp [joins, NodeDirectoryMsg.join]
  rw [peerAfter, hnew, peerAfter]
  split
  · rfl
  · simp [hstatus]

/-- The directory is exactly what the messages have left of each peer. -/
theorem directory_after (msgs : List NodeDirectoryMsg) (n : NodeId) :
    (after NodeDirectory.handle .new msgs).getPeer n = peerAfter msgs n := by
  induction msgs using List.reverseRecOn with
  | nil => rfl
  | append_singleton msgs msg ih =>
    rw [after_append]
    show ((after NodeDirectory.handle .new msgs).handle msg).1.getPeer n = _
    generalize after NodeDirectory.handle .new msgs = d at ih
    cases msg with
    | connectPeer peerId address =>
      rw [handle_connectPeer, Cluster.getPeer_connected]
      by_cases hn : n = peerId
      · subst hn
        rw [if_pos rfl, ih, peerAfter_connectPeer]
      · have hother := peerAfter_of_other (.connectPeer peerId address)
          (if_neg (Ne.symm hn)) (if_neg (Ne.symm hn)) msgs
        rw [if_neg hn, ih, hother]
    | disconnectPeer peerId =>
      show (d.setStatus peerId .disconnected).getPeer n = _
      rw [NodeDirectory.getPeer_setStatus]
      by_cases hn : n = peerId
      · subst hn
        rw [if_pos rfl, ih, peerAfter_disconnectPeer]
      · have hother := peerAfter_of_other (.disconnectPeer peerId) rfl
          (if_neg (Ne.symm hn)) msgs
        rw [if_neg hn, ih, hother]
    | isConnected peerId => exact ih.trans (peerAfter_of_other _ rfl rfl msgs).symm
    | getPeerCount => exact ih.trans (peerAfter_of_other _ rfl rfl msgs).symm
    | getConnectedCount => exact ih.trans (peerAfter_of_other _ rfl rfl msgs).symm
    | getPeerInfo peerId => exact ih.trans (peerAfter_of_other _ rfl rfl msgs).symm

theorem NodeDirectory.connectedCount_eq (d : NodeDirectory) :
    d.connectedCount = Set.ncard {n | d.isConnected n = true} := by
  have hkeys : {n | d.isConnected n = true} =
      ((d.peers.keys.filter fun n => d.isConnected n = true : Finset NodeId) : Set NodeId) := by
    ext n
    rw [Set.mem_ofPred_eq, Finset.mem_coe, Finset.mem_filter, Finmap.mem_keys,
      ← Finmap.lookup_isSome]
    refine ⟨fun h => ⟨?_, h⟩, And.right⟩
    obtain ⟨info, hinfo, -⟩ := (d.isConnected_iff n).mp h
    exact Option.isSome_iff_exists.mpr ⟨info, hinfo⟩
  rw [hkeys, Set.ncard_coe_finset, connectedCount, Multiset.countP_map,
    ← Multiset.countP_eq_card_filter]
  show _ = ((d.peers.entries.map Sigma.fst).filter _).card
  rw [← Multiset.countP_eq_card_filter, Multiset.countP_map, ← Multiset.countP_eq_card_filter]
  apply Multiset.countP_congr rfl
  rintro ⟨n, info⟩ hentry
  -- the entry of a peer is what a lookup of it finds
  have hlookup : d.getPeer n = some info := Finmap.mem_lookup_iff.mpr hentry
  rw [d.isConnected_iff n, hlookup]
  simp

/-- The peers that have ever connected, counted. -/
theorem peerCount_after (msgs : List NodeDirectoryMsg) :
    (after NodeDirectory.handle .new msgs).peerCount = Set.ncard {n | joins msgs n ≠ []} := by
  rw [NodeDirectory.peerCount, ← Set.ncard_coe_finset]
  congr 1
  ext n
  rw [Finset.mem_coe, Finmap.mem_keys, ← Finmap.lookup_isSome]
  show ((after NodeDirectory.handle .new msgs).getPeer n).isSome = true ↔ joins msgs n ≠ []
  rw [directory_after, peerAfter]
  split
  · next hnone => simp [hnone]
  · next hsome => simp [hsome]

/-- The peers that are connected, counted. -/
theorem connectedCount_after (msgs : List NodeDirectoryMsg) :
    (after NodeDirectory.handle .new msgs).connectedCount =
      Set.ncard {n | (peerAfter msgs n).map PeerInfo.status = some .connected} := by
  rw [NodeDirectory.connectedCount_eq]
  congr 1
  ext n
  rw [Set.mem_ofPred_eq, Set.mem_ofPred_eq, NodeDirectory.isConnected_iff, directory_after,
    Option.map_eq_some_iff]

end Dactor
