/-
Dactor/Handshake.lean

The version handshake of two nodes (`system_actors.rs`): each side sends its
`HandshakeRequest`, validates the request it receives against its own, and
sends the verdict back.

Both requests and both verdicts cross the wire, so the exchange composes the
codecs of `Proto.lean` with two runs of `validateHandshake` in opposite roles.
Main result: `handshake_agrees`.
-/
import Dactor.Proto

namespace Dactor

open Codecs

/-! ### Validation -/

/-- The ordered checks: wire protocol first, adapter second. -/
def validateHandshake (here remote : HandshakeRequest) : HandshakeResponse :=
  if !here.wireVersion.isCompatible remote.wireVersion then
    .rejected here.nodeId here.wireVersion .incompatibleProtocol
      ("wire version " ++ remote.wireVersion.display ++ " is incompatible with local " ++
        here.wireVersion.display ++ " (different MAJOR version)")
  else if here.adapter ≠ remote.adapter then
    .rejected here.nodeId here.wireVersion .incompatibleAdapter
      ("adapter \"" ++ remote.adapter ++ "\" does not match local \"" ++ here.adapter ++ "\"")
  else
    .accepted here.nodeId here.wireVersion here.appVersion here.adapter

def NodeId.display (n : NodeId) : String := "Node(" ++ n.id ++ ")"

/-- A rejection needs no identity. -/
def verifyPeerIdentity (expected : NodeId) : HandshakeResponse → Except String Unit
  | .accepted nodeId _ _ _ =>
    if nodeId ≠ expected then
      .error ("peer identity mismatch: expected " ++ expected.display ++ ", got " ++
        nodeId.display)
    else .ok ()
  | .rejected _ _ _ _ => .ok ()

/-- What `requester` decodes: its request is encoded and decoded by `responder`, which
validates it and encodes the verdict. -/
def handshake (prost : Prost) (requester responder : HandshakeRequest) :
    Except SerializationError HandshakeResponse := do
  let remote ← decodeHandshakeRequest prost (encodeHandshakeRequest prost requester)
  decodeHandshakeResponse prost
    (encodeHandshakeResponse prost (validateHandshake responder remote))

/-- The two messages of `handshake` are within the size limit. -/
def HandshakeFits (prost : Prost) (requester responder : HandshakeRequest) : Prop :=
  (encodeHandshakeRequest prost requester).length ≤ maxSystemMsgSize ∧
    ∀ remote, decodeHandshakeRequest prost (encodeHandshakeRequest prost requester) = .ok remote →
      (encodeHandshakeResponse prost (validateHandshake responder remote)).length ≤
        maxSystemMsgSize

/-! ### Verdicts -/

/-- `none` for an acceptance, otherwise the reason of the rejection. -/
def HandshakeResponse.verdict : HandshakeResponse → Option RejectionReason
  | accepted _ _ _ _ => none
  | rejected _ _ reason _ => some reason

/-- The verdict the two requests deserve, whichever side gives it. -/
def handshakeVerdict (a b : HandshakeRequest) : Option RejectionReason :=
  if a.wireVersion.major ≠ b.wireVersion.major then some .incompatibleProtocol
  else if a.adapter ≠ b.adapter then some .incompatibleAdapter
  else none

theorem handshakeVerdict_comm (a b : HandshakeRequest) :
    handshakeVerdict a b = handshakeVerdict b a := by
  simp only [handshakeVerdict, ne_comm (a := a.wireVersion.major), ne_comm (a := a.adapter)]

theorem handshakeVerdict_eq_none {a b : HandshakeRequest} :
    handshakeVerdict a b = none ↔
      a.wireVersion.major = b.wireVersion.major ∧ a.adapter = b.adapter := by
  unfold handshakeVerdict
  by_cases hmajor : a.wireVersion.major = b.wireVersion.major
  · by_cases hadapter : a.adapter = b.adapter
    · simp [hmajor, hadapter]
    · simp [hmajor, hadapter]
  · simp [hmajor]

theorem verdict_validateHandshake (here remote : HandshakeRequest) :
    (validateHandshake here remote).verdict = handshakeVerdict here remote := by
  unfold validateHandshake handshakeVerdict
  by_cases hmajor : here.wireVersion.major = remote.wireVersion.major
  · have hcompat : here.wireVersion.isCompatible remote.wireVersion = true := by
      simpa [WireVersion.isCompatible] using hmajor
    rw [hcompat, if_neg (by decide), if_neg (not_not_intro hmajor)]
    by_cases hadapter : here.adapter = remote.adapter
    · rw [if_neg (not_not_intro hadapter), if_neg (not_not_intro hadapter)]
      rfl
    · rw [if_pos hadapter, if_pos hadapter]
      rfl
  · have hcompat : here.wireVersion.isCompatible remote.wireVersion = false := by
      simpa [WireVersion.isCompatible] using hmajor
    rw [hcompat, if_pos (by decide), if_pos hmajor]
    rfl

/-- The response carries the identity of the side that gives it, so it is as complete
as that side's request. -/
theorem validateHandshake_complete {here : HandshakeRequest} (h : here.Complete)
    (remote : HandshakeRequest) : (validateHandshake here remote).Complete := by
  unfold validateHandshake
  split
  · exact h.1
  · split
    · exact h.1
    · exact h

/-- An acceptance passes the identity check exactly for the responder's node. -/
theorem verifyPeerIdentity_validateHandshake {here remote : HandshakeRequest}
    (h : (validateHandshake here remote).verdict = none) (expected : NodeId) :
    verifyPeerIdentity expected (validateHandshake here remote) = .ok () ↔
      here.nodeId = expected := by
  unfold validateHandshake at h ⊢
  split
  · rename_i hc
    rw [if_pos hc] at h
    cases h
  · rename_i hc
    rw [if_neg hc] at h
    split
    · rename_i hadapter
      rw [if_pos hadapter] at h
      cases h
    · simp [verifyPeerIdentity]

/-! ### The exchange -/

/-- Within the size limits the exchange is the validation of the request itself. -/
theorem handshake_eq {prost : Prost} (hprost : prost.Lawful)
    {requester responder : HandshakeRequest} (hreq : requester.Complete)
    (hresp : responder.Complete) (hfits : HandshakeFits prost requester responder) :
    handshake prost requester responder = .ok (validateHandshake responder requester) := by
  have hreqs := decodeMessage_roundTrips hprost.handshakeRequest HandshakeRequest.faithful
    maxSystemMsgSize "HandshakeRequest"
  have hresps := decodeMessage_roundTrips hprost.handshakeResponse HandshakeResponse.faithful
    maxSystemMsgSize "HandshakeResponse"
  have hdec : decodeHandshakeRequest prost (encodeHandshakeRequest prost requester) =
      .ok requester := hreqs.survives requester hfits.1 hreq
  unfold handshake
  rw [hdec]
  exact hresps.survives _ (hfits.2 requester hdec) (validateHandshake_complete hresp requester)

/-- **Both ends of a handshake reach the same verdict.**  Each side decodes a response;
the responses agree, they are acceptances exactly when the MAJOR versions and the adapters
are equal, a difference of the MAJOR versions is the reason whenever there is one, and an
acceptance passes the identity check exactly for the node that gave it. -/
theorem handshake_agrees (prost : Prost) (hprost : prost.Lawful) (a b : HandshakeRequest)
    (ha : a.Complete) (hb : b.Complete) (hab : HandshakeFits prost a b)
    (hba : HandshakeFits prost b a) :
    ∃ ra rb, handshake prost a b = .ok ra ∧ handshake prost b a = .ok rb ∧
      ra.verdict = rb.verdict ∧
      (ra.verdict = none ↔
        a.wireVersion.major = b.wireVersion.major ∧ a.adapter = b.adapter) ∧
      (a.wireVersion.major ≠ b.wireVersion.major →
        ra.verdict = some .incompatibleProtocol) ∧
      (ra.verdict = none →
        (∀ n, verifyPeerIdentity n ra = .ok () ↔ b.nodeId = n) ∧
        ∀ n, verifyPeerIdentity n rb = .ok () ↔ a.nodeId = n) := by
  refine ⟨_, _, handshake_eq hprost ha hb hab, handshake_eq hprost hb ha hba, ?_⟩
  have hswap : (validateHandshake b a).verdict = (validateHandshake a b).verdict := by
    rw [verdict_validateHandshake, verdict_validateHandshake, handshakeVerdict_comm]
  refine ⟨hswap, ?_, ?_, ?_⟩
  · rw [hswap, verdict_validateHandshake, handshakeVerdict_eq_none]
  · intro hmajor
    rw [hswap, verdict_validateHandshake, handshakeVerdict, if_pos hmajor]
  · intro hnone
    exact ⟨verifyPeerIdentity_validateHandshake hnone,
      verifyPeerIdentity_validateHandshake (hswap ▸ hnone)⟩

/-! ### Two nodes of one cluster -/

/-- Nodes `n1` and `n2` on the same adapter, with versions `0.2.0` and `0.3.1`. -/
def nodeOne : HandshakeRequest := ⟨⟨"n1"⟩, ⟨0, 2, 0⟩, none, "ractor"⟩

def nodeTwo : HandshakeRequest := ⟨⟨"n2"⟩, ⟨0, 3, 1⟩, none, "ractor"⟩

def nodeTwoBytes : Bytes :=
  [0x0a, 0x02, 0x6e, 0x32, 0x12, 0x05, 0x30, 0x2e, 0x33, 0x2e, 0x31, 0x22, 0x06, 0x72, 0x61,
    0x63, 0x74, 0x6f, 0x72]

/-- The protobuf bytes of the two requests and of the two acceptances. -/
noncomputable def clusterProst : Prost :=
  { sampleProst with
    handshakeRequest := .sample₂ nodeOne.toProto sampleHandshake nodeTwo.toProto nodeTwoBytes
    handshakeResponse := .sample₂ (validateHandshake nodeOne nodeTwo).toProto
      ([0x0a, 0x13] ++ sampleHandshake) (validateHandshake nodeTwo nodeOne).toProto
      ([0x0a, 0x13] ++ nodeTwoBytes) }

theorem clusterProst_lawful : clusterProst.Lawful :=
  { sampleProst_lawful with
    handshakeRequest := Format.sample₂_lawful _ _ _ _
    handshakeResponse := Format.sample₂_lawful _ _ _ _ }

theorem nodeOne_complete : nodeOne.Complete := ⟨by decide, by decide⟩

theorem nodeTwo_complete : nodeTwo.Complete := ⟨by decide, by decide⟩

theorem encode_nodeOne : encodeHandshakeRequest clusterProst nodeOne = sampleHandshake := by
  apply Format.sample₂_encode_left
  · intro h
    exact absurd (congrArg HandshakeRequestProto.nodeId h) (by decide)
  · decide

theorem encode_nodeTwo : encodeHandshakeRequest clusterProst nodeTwo = nodeTwoBytes :=
  Format.sample₂_encode_right _ _ _ _

/-- The acceptances differ in the node that gives them. -/
theorem encode_acceptOne :
    encodeHandshakeResponse clusterProst (validateHandshake nodeOne nodeTwo) =
      [0x0a, 0x13] ++ sampleHandshake := by
  apply Format.sample₂_encode_left
  · intro h
    have hresult := congrArg HandshakeResponseProto.result h
    simp [validateHandshake, nodeOne, nodeTwo, WireVersion.isCompatible,
      HandshakeResponse.toProto] at hresult
  · decide

theorem encode_acceptTwo :
    encodeHandshakeResponse clusterProst (validateHandshake nodeTwo nodeOne) =
      [0x0a, 0x13] ++ nodeTwoBytes :=
  Format.sample₂_encode_right _ _ _ _

theorem handshakeFits_nodes : HandshakeFits clusterProst nodeOne nodeTwo ∧
    HandshakeFits clusterProst nodeTwo nodeOne := by
  have hround := decodeMessage_roundTrips clusterProst_lawful.handshakeRequest
    HandshakeRequest.faithful maxSystemMsgSize "HandshakeRequest"
  have hone : (encodeHandshakeRequest clusterProst nodeOne).length ≤ maxSystemMsgSize := by
    rw [encode_nodeOne]
    decide
  have htwo : (encodeHandshakeRequest clusterProst nodeTwo).length ≤ maxSystemMsgSize := by
    rw [encode_nodeTwo]
    decide
  constructor
  · refine ⟨hone, fun remote h => ?_⟩
    cases h.symm.trans (hround.survives nodeOne hone nodeOne_complete)
    rw [encode_acceptTwo]
    decide
  · refine ⟨htwo, fun remote h => ?_⟩
    cases h.symm.trans (hround.survives nodeTwo htwo nodeTwo_complete)
    rw [encode_acceptOne]
    decide

/-- The two nodes accept each other. -/
theorem handshake_agrees_nodes :
    clusterProst.Lawful ∧ nodeOne.Complete ∧ nodeTwo.Complete ∧
      HandshakeFits clusterProst nodeOne nodeTwo ∧ HandshakeFits clusterProst nodeTwo nodeOne ∧
      ∃ ra rb, handshake clusterProst nodeOne nodeTwo = .ok ra ∧
        handshake clusterProst nodeTwo nodeOne = .ok rb ∧ ra.verdict = none ∧
        rb.verdict = none := by
  obtain ⟨h₁₂, h₂₁⟩ := handshakeFits_nodes
  obtain ⟨ra, rb, hra, hrb, heq, hnone, -⟩ := handshake_agrees clusterProst clusterProst_lawful
    nodeOne nodeTwo nodeOne_complete nodeTwo_complete h₁₂ h₂₁
  have haccept : ra.verdict = none := hnone.mpr ⟨rfl, rfl⟩
  exact ⟨clusterProst_lawful, nodeOne_complete, nodeTwo_complete, h₁₂, h₂₁, ra, rb, hra, hrb,
    haccept, heq ▸ haccept⟩

end Dactor
