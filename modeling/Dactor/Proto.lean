/-
Dactor/Proto.lean

The protobuf codecs of the system messages and of the wire envelope
(`proto.rs`, with the schema `proto/system.proto`).

The generated types are the structures of the schema; the byte format of each
(`encode_to_vec` and `decode` of the protobuf library) is a parameter, and so is
the text form of a `Uuid`.  Each encoder fills the generated structure, each
decoder checks the size of the payload, decodes the structure and checks its
fields; the decoders differ in those checks only.

Main result: `wire_roundTrips`, the contract of all twelve pairs.
-/
import Dactor.Basic
import Dactor.Codecs
import Dactor.Version
import Mathlib.Tactic.DeriveCountable

namespace Dactor

open Codecs

structure SerializationError where
  message : String
deriving DecidableEq, Repr

/-! ### The system messages (`system_actors.rs`) -/

structure SpawnRequest where
  typeName : String
  argsBytes : Bytes
  name : String
  requestId : String
deriving DecidableEq, Repr

inductive SpawnResponse
  | success (requestId : String) (actorId : ActorId)
  | failure (requestId : String) (error : String)
deriving DecidableEq, Repr

structure WatchRequest where
  target : ActorId
  watcher : ActorId
deriving DecidableEq, Repr

structure UnwatchRequest where
  target : ActorId
  watcher : ActorId
deriving DecidableEq, Repr

structure WatchNotification where
  terminated : ActorId
  watcher : ActorId
deriving DecidableEq, Repr

structure CancelRequest where
  target : ActorId
  requestId : Option String
deriving DecidableEq, Repr

inductive CancelResponse
  | acknowledged
  | notFound (reason : String)
deriving DecidableEq, Repr

/-- The pair that `encode_connect_peer` takes and `decode_connect_peer` returns. -/
structure ConnectPeer where
  nodeId : NodeId
  address : Option String
deriving DecidableEq, Repr

structure HandshakeRequest where
  nodeId : NodeId
  wireVersion : WireVersion
  appVersion : Option String
  adapter : String
deriving DecidableEq, Repr

inductive RejectionReason
  | incompatibleProtocol
  | incompatibleAdapter
deriving DecidableEq, Repr

inductive HandshakeResponse
  | accepted (nodeId : NodeId) (wireVersion : WireVersion) (appVersion : Option String)
      (adapter : String)
  | rejected (nodeId : NodeId) (wireVersion : WireVersion) (reason : RejectionReason)
      (detail : String)
deriving DecidableEq, Repr

/-! ### The generated types (`system.proto`)

A message field is optional in the generated structure, and an enumeration is
carried as an `i32`. -/

structure ActorIdProto where
  nodeId : String
  «local» : UInt64
deriving Countable

structure SpawnRequestProto where
  typeName : String
  argsBytes : Bytes
  name : String
  requestId : String
deriving Countable

structure SpawnSuccessProto where
  requestId : String
  actorId : Option ActorIdProto
deriving Countable

structure SpawnFailureProto where
  requestId : String
  error : String
deriving Countable

inductive SpawnResponseProto.Result
  | success (s : SpawnSuccessProto)
  | failure (f : SpawnFailureProto)
deriving Countable

structure SpawnResponseProto where
  result : Option SpawnResponseProto.Result
deriving Countable

structure WatchRequestProto where
  target : Option ActorIdProto
  watcher : Option ActorIdProto
deriving Countable

structure UnwatchRequestProto where
  target : Option ActorIdProto
  watcher : Option ActorIdProto
deriving Countable

structure WatchNotificationProto where
  terminated : Option ActorIdProto
  watcher : Option ActorIdProto
deriving Countable

structure CancelRequestProto where
  target : Option ActorIdProto
  requestId : Option String
deriving Countable

structure CancelNotFoundProto where
  reason : String
deriving Countable

/-- `CancelAcknowledgedProto` has no fields. -/
inductive CancelResponseProto.Result
  | acknowledged
  | notFound (nf : CancelNotFoundProto)
deriving Countable

structure CancelResponseProto where
  result : Option CancelResponseProto.Result
deriving Countable

structure ConnectPeerProto where
  nodeId : String
  address : Option String
deriving Countable

structure DisconnectPeerProto where
  nodeId : String
deriving Countable

structure HandshakeRequestProto where
  nodeId : String
  wireVersion : String
  appVersion : Option String
  adapter : String
deriving Countable

structure HandshakeAcceptedProto where
  nodeId : String
  wireVersion : String
  appVersion : Option String
  adapter : String
deriving Countable

structure HandshakeRejectedProto where
  nodeId : String
  wireVersion : String
  reason : Int32
  detail : String
deriving Countable

inductive HandshakeResponseProto.Result
  | accepted (a : HandshakeAcceptedProto)
  | rejected (r : HandshakeRejectedProto)
deriving Countable

structure HandshakeResponseProto where
  result : Option HandshakeResponseProto.Result
deriving Countable

structure WireEnvelopeProto where
  target : Option ActorIdProto
  targetName : String
  messageType : String
  sendMode : Int32
  headers : Finmap fun _ : String => Bytes
  body : Bytes
  requestId : Option String
  version : Option UInt32
deriving Countable

inductive RejectionReasonProto
  | rejectionReasonIncompatibleProtocol
  | rejectionReasonIncompatibleAdapter

/-- `as i32`. -/
def RejectionReasonProto.toInt32 : RejectionReasonProto → Int32
  | rejectionReasonIncompatibleProtocol => 0
  | rejectionReasonIncompatibleAdapter => 1

/-- The generated `TryFrom<i32>`. -/
def RejectionReasonProto.tryFrom (value : Int32) : Option RejectionReasonProto :=
  if value = 0 then some rejectionReasonIncompatibleProtocol
  else if value = 1 then some rejectionReasonIncompatibleAdapter
  else none

inductive SendModeProto
  | sendModeTell | sendModeAsk | sendModeExpand | sendModeReduce | sendModeTransform

def SendModeProto.toInt32 : SendModeProto → Int32
  | sendModeTell => 0
  | sendModeAsk => 1
  | sendModeExpand => 2
  | sendModeReduce => 3
  | sendModeTransform => 4

def SendModeProto.tryFrom (value : Int32) : Option SendModeProto :=
  if value = 0 then some sendModeTell
  else if value = 1 then some sendModeAsk
  else if value = 2 then some sendModeExpand
  else if value = 3 then some sendModeReduce
  else if value = 4 then some sendModeTransform
  else none

/-- The protobuf library on the twelve message types that are encoded. -/
structure Prost where
  spawnRequest : Format SpawnRequestProto
  spawnResponse : Format SpawnResponseProto
  watchRequest : Format WatchRequestProto
  unwatchRequest : Format UnwatchRequestProto
  watchNotification : Format WatchNotificationProto
  cancelRequest : Format CancelRequestProto
  cancelResponse : Format CancelResponseProto
  connectPeer : Format ConnectPeerProto
  disconnectPeer : Format DisconnectPeerProto
  handshakeRequest : Format HandshakeRequestProto
  handshakeResponse : Format HandshakeResponseProto
  wireEnvelope : Format WireEnvelopeProto

/-- It decodes what it encodes. -/
structure Prost.Lawful (prost : Prost) : Prop where
  spawnRequest : prost.spawnRequest.Lawful
  spawnResponse : prost.spawnResponse.Lawful
  watchRequest : prost.watchRequest.Lawful
  unwatchRequest : prost.unwatchRequest.Lawful
  watchNotification : prost.watchNotification.Lawful
  cancelRequest : prost.cancelRequest.Lawful
  cancelResponse : prost.cancelResponse.Lawful
  connectPeer : prost.connectPeer.Lawful
  disconnectPeer : prost.disconnectPeer.Lawful
  handshakeRequest : prost.handshakeRequest.Lawful
  handshakeResponse : prost.handshakeResponse.Lawful
  wireEnvelope : prost.wireEnvelope.Lawful

/-- The text form of a `Uuid`. -/
structure UuidText where
  toString : Uuid → String
  parseStr : String → Except String Uuid

def UuidText.Lawful (uuid : UuidText) : Prop := ∀ u, uuid.parseStr (uuid.toString u) = .ok u

/-! ### Size limit and field checks -/

def maxSystemMsgSize : ℕ := 4 * 1024 * 1024

def maxWireEnvelopeSize : ℕ := 64 * 1024 * 1024

def checkSize (bytes : Bytes) (limit : ℕ) (what : String) : Except SerializationError Unit :=
  if bytes.length > limit then
    .error ⟨what ++ ": payload too large (" ++ toString bytes.length ++ " bytes, max " ++
      toString limit ++ ")"⟩
  else .ok ()

/-- The test `is_empty` of a required string, with the error that names the field. -/
def requireNonEmpty (value : String) (field : String) : Except SerializationError Unit :=
  if value = "" then .error ⟨field ++ " must not be empty"⟩ else .ok ()

def ActorId.toProto (id : ActorId) : ActorIdProto := ⟨id.node.id, id.local⟩

def actorIdFromProto (proto : ActorIdProto) : Except SerializationError ActorId := do
  requireNonEmpty proto.nodeId "ActorId: node_id"
  return ⟨⟨proto.nodeId⟩, proto.local⟩

def requireActorId (field : Option ActorIdProto) (name : String) :
    Except SerializationError ActorId :=
  match field with
  | none => .error ⟨"missing required field: " ++ name⟩
  | some proto => actorIdFromProto proto

def ParseWireVersionError.display (e : ParseWireVersionError) : String :=
  "invalid wire version \"" ++ e.input ++ "\": " ++ e.reason

/-- `WireVersion::parse` with the error of the message `what`. -/
def parseWireVersion (text : String) (what : String) : Except SerializationError WireVersion :=
  (WireVersion.parse text).mapError fun e => ⟨what ++ ": invalid wire_version: " ++ e.display⟩

/-- A decoder of the family: the size check, the protobuf decoder and the checks of
the fields. -/
def decodeMessage {π α : Type} (format : Format π) (limit : ℕ) (what : String)
    (fromProto : π → Except SerializationError α) : Bytes → Except SerializationError α :=
  Codecs.decode (fun bytes => checkSize bytes limit what) format
    (fun e => ⟨"decode " ++ what ++ ": " ++ e⟩) fromProto

/-! ### Spawn -/

def SpawnRequest.toProto (req : SpawnRequest) : SpawnRequestProto :=
  ⟨req.typeName, req.argsBytes, req.name, req.requestId⟩

def SpawnRequest.fromProto (proto : SpawnRequestProto) :
    Except SerializationError SpawnRequest := do
  requireNonEmpty proto.typeName "SpawnRequest: type_name"
  requireNonEmpty proto.requestId "SpawnRequest: request_id"
  return ⟨proto.typeName, proto.argsBytes, proto.name, proto.requestId⟩

def encodeSpawnRequest (prost : Prost) (req : SpawnRequest) : Bytes :=
  prost.spawnRequest.encode req.toProto

def decodeSpawnRequest (prost : Prost) : Bytes → Except SerializationError SpawnRequest :=
  decodeMessage prost.spawnRequest maxSystemMsgSize "SpawnRequest" SpawnRequest.fromProto

def SpawnResponse.toProto : SpawnResponse → SpawnResponseProto
  | success requestId actorId => ⟨some (.success ⟨requestId, some actorId.toProto⟩)⟩
  | failure requestId error => ⟨some (.failure ⟨requestId, error⟩)⟩

def SpawnResponse.fromProto (proto : SpawnResponseProto) :
    Except SerializationError SpawnResponse :=
  match proto.result with
  | some (.success s) => do
    let actorId ← requireActorId s.actorId "SpawnSuccess.actor_id"
    return success s.requestId actorId
  | some (.failure f) => .ok (failure f.requestId f.error)
  | none => .error ⟨"SpawnResponse: missing oneof result"⟩

def encodeSpawnResponse (prost : Prost) (resp : SpawnResponse) : Bytes :=
  prost.spawnResponse.encode resp.toProto

def decodeSpawnResponse (prost : Prost) : Bytes → Except SerializationError SpawnResponse :=
  decodeMessage prost.spawnResponse maxSystemMsgSize "SpawnResponse" SpawnResponse.fromProto

/-! ### Watch -/

def WatchRequest.toProto (req : WatchRequest) : WatchRequestProto :=
  ⟨some req.target.toProto, some req.watcher.toProto⟩

def WatchRequest.fromProto (proto : WatchRequestProto) :
    Except SerializationError WatchRequest := do
  let target ← requireActorId proto.target "WatchRequest.target"
  let watcher ← requireActorId proto.watcher "WatchRequest.watcher"
  return ⟨target, watcher⟩

def encodeWatchRequest (prost : Prost) (req : WatchRequest) : Bytes :=
  prost.watchRequest.encode req.toProto

def decodeWatchRequest (prost : Prost) : Bytes → Except SerializationError WatchRequest :=
  decodeMessage prost.watchRequest maxSystemMsgSize "WatchRequest" WatchRequest.fromProto

def UnwatchRequest.toProto (req : UnwatchRequest) : UnwatchRequestProto :=
  ⟨some req.target.toProto, some req.watcher.toProto⟩

def UnwatchRequest.fromProto (proto : UnwatchRequestProto) :
    Except SerializationError UnwatchRequest := do
  let target ← requireActorId proto.target "UnwatchRequest.target"
  let watcher ← requireActorId proto.watcher "UnwatchRequest.watcher"
  return ⟨target, watcher⟩

def encodeUnwatchRequest (prost : Prost) (req : UnwatchRequest) : Bytes :=
  prost.unwatchRequest.encode req.toProto

def decodeUnwatchRequest (prost : Prost) : Bytes → Except SerializationError UnwatchRequest :=
  decodeMessage prost.unwatchRequest maxSystemMsgSize "UnwatchRequest" UnwatchRequest.fromProto

def WatchNotification.toProto (notif : WatchNotification) : WatchNotificationProto :=
  ⟨some notif.terminated.toProto, some notif.watcher.toProto⟩

def WatchNotification.fromProto (proto : WatchNotificationProto) :
    Except SerializationError WatchNotification := do
  let terminated ← requireActorId proto.terminated "WatchNotification.terminated"
  let watcher ← requireActorId proto.watcher "WatchNotification.watcher"
  return ⟨terminated, watcher⟩

def encodeWatchNotification (prost : Prost) (notif : WatchNotification) : Bytes :=
  prost.watchNotification.encode notif.toProto

def decodeWatchNotification (prost : Prost) :
    Bytes → Except SerializationError WatchNotification :=
  decodeMessage prost.watchNotification maxSystemMsgSize "WatchNotification"
    WatchNotification.fromProto

/-! ### Cancel -/

def CancelRequest.toProto (req : CancelRequest) : CancelRequestProto :=
  ⟨some req.target.toProto, req.requestId⟩

def CancelRequest.fromProto (proto : CancelRequestProto) :
    Except SerializationError CancelRequest := do
  let target ← requireActorId proto.target "CancelRequest.target"
  return ⟨target, proto.requestId⟩

def encodeCancelRequest (prost : Prost) (req : CancelRequest) : Bytes :=
  prost.cancelRequest.encode req.toProto

def decodeCancelRequest (prost : Prost) : Bytes → Except SerializationError CancelRequest :=
  decodeMessage prost.cancelRequest maxSystemMsgSize "CancelRequest" CancelRequest.fromProto

def CancelResponse.toProto : CancelResponse → CancelResponseProto
  | acknowledged => ⟨some .acknowledged⟩
  | notFound reason => ⟨some (.notFound ⟨reason⟩)⟩

def CancelResponse.fromProto (proto : CancelResponseProto) :
    Except SerializationError CancelResponse :=
  match proto.result with
  | some .acknowledged => .ok acknowledged
  | some (.notFound nf) => .ok (notFound nf.reason)
  | none => .error ⟨"CancelResponse: missing oneof result"⟩

def encodeCancelResponse (prost : Prost) (resp : CancelResponse) : Bytes :=
  prost.cancelResponse.encode resp.toProto

def decodeCancelResponse (prost : Prost) : Bytes → Except SerializationError CancelResponse :=
  decodeMessage prost.cancelResponse maxSystemMsgSize "CancelResponse" CancelResponse.fromProto

/-! ### Peers -/

def ConnectPeer.toProto (peer : ConnectPeer) : ConnectPeerProto :=
  ⟨peer.nodeId.id, peer.address⟩

def ConnectPeer.fromProto (proto : ConnectPeerProto) :
    Except SerializationError ConnectPeer := do
  requireNonEmpty proto.nodeId "ConnectPeer: node_id"
  return ⟨⟨proto.nodeId⟩, proto.address⟩

def encodeConnectPeer (prost : Prost) (peer : ConnectPeer) : Bytes :=
  prost.connectPeer.encode peer.toProto

def decodeConnectPeer (prost : Prost) : Bytes → Except SerializationError ConnectPeer :=
  decodeMessage prost.connectPeer maxSystemMsgSize "ConnectPeer" ConnectPeer.fromProto

def disconnectPeerToProto (nodeId : NodeId) : DisconnectPeerProto := ⟨nodeId.id⟩

def disconnectPeerFromProto (proto : DisconnectPeerProto) :
    Except SerializationError NodeId := do
  requireNonEmpty proto.nodeId "DisconnectPeer: node_id"
  return ⟨proto.nodeId⟩

def encodeDisconnectPeer (prost : Prost) (nodeId : NodeId) : Bytes :=
  prost.disconnectPeer.encode (disconnectPeerToProto nodeId)

def decodeDisconnectPeer (prost : Prost) : Bytes → Except SerializationError NodeId :=
  decodeMessage prost.disconnectPeer maxSystemMsgSize "DisconnectPeer" disconnectPeerFromProto

/-! ### Handshake -/

def HandshakeRequest.toProto (req : HandshakeRequest) : HandshakeRequestProto :=
  ⟨req.nodeId.id, req.wireVersion.display, req.appVersion, req.adapter⟩

def HandshakeRequest.fromProto (proto : HandshakeRequestProto) :
    Except SerializationError HandshakeRequest := do
  requireNonEmpty proto.nodeId "HandshakeRequest: node_id"
  requireNonEmpty proto.wireVersion "HandshakeRequest: wire_version"
  requireNonEmpty proto.adapter "HandshakeRequest: adapter"
  let wireVersion ← parseWireVersion proto.wireVersion "HandshakeRequest"
  return ⟨⟨proto.nodeId⟩, wireVersion, proto.appVersion, proto.adapter⟩

def encodeHandshakeRequest (prost : Prost) (req : HandshakeRequest) : Bytes :=
  prost.handshakeRequest.encode req.toProto

def decodeHandshakeRequest (prost : Prost) :
    Bytes → Except SerializationError HandshakeRequest :=
  decodeMessage prost.handshakeRequest maxSystemMsgSize "HandshakeRequest"
    HandshakeRequest.fromProto

def rejectionReasonToProto : RejectionReason → RejectionReasonProto
  | .incompatibleProtocol => .rejectionReasonIncompatibleProtocol
  | .incompatibleAdapter => .rejectionReasonIncompatibleAdapter

def rejectionReasonFromProto (value : Int32) : Except SerializationError RejectionReason :=
  match RejectionReasonProto.tryFrom value with
  | some .rejectionReasonIncompatibleProtocol => .ok .incompatibleProtocol
  | some .rejectionReasonIncompatibleAdapter => .ok .incompatibleAdapter
  | none => .error ⟨"unknown RejectionReason value: " ++ toString value.toInt⟩

def HandshakeResponse.toProto : HandshakeResponse → HandshakeResponseProto
  | accepted nodeId wireVersion appVersion adapter =>
    ⟨some (.accepted ⟨nodeId.id, wireVersion.display, appVersion, adapter⟩)⟩
  | rejected nodeId wireVersion reason detail =>
    ⟨some (.rejected ⟨nodeId.id, wireVersion.display, (rejectionReasonToProto reason).toInt32,
      detail⟩)⟩

def HandshakeResponse.fromProto (proto : HandshakeResponseProto) :
    Except SerializationError HandshakeResponse :=
  match proto.result with
  | some (.accepted a) => do
    requireNonEmpty a.nodeId "HandshakeAccepted: node_id"
    requireNonEmpty a.wireVersion "HandshakeAccepted: wire_version"
    requireNonEmpty a.adapter "HandshakeAccepted: adapter"
    let wireVersion ← parseWireVersion a.wireVersion "HandshakeAccepted"
    return accepted ⟨a.nodeId⟩ wireVersion a.appVersion a.adapter
  | some (.rejected r) => do
    requireNonEmpty r.nodeId "HandshakeRejected: node_id"
    requireNonEmpty r.wireVersion "HandshakeRejected: wire_version"
    let wireVersion ← parseWireVersion r.wireVersion "HandshakeRejected"
    let reason ← rejectionReasonFromProto r.reason
    return rejected ⟨r.nodeId⟩ wireVersion reason r.detail
  | none => .error ⟨"HandshakeResponse: missing oneof result"⟩

def encodeHandshakeResponse (prost : Prost) (resp : HandshakeResponse) : Bytes :=
  prost.handshakeResponse.encode resp.toProto

def decodeHandshakeResponse (prost : Prost) :
    Bytes → Except SerializationError HandshakeResponse :=
  decodeMessage prost.handshakeResponse maxSystemMsgSize "HandshakeResponse"
    HandshakeResponse.fromProto

/-! ### Wire envelopes -/

def sendModeToProto : SendMode → Int32
  | .tell => SendModeProto.sendModeTell.toInt32
  | .ask => SendModeProto.sendModeAsk.toInt32
  | .expand => SendModeProto.sendModeExpand.toInt32
  | .reduce => SendModeProto.sendModeReduce.toInt32
  | .transform => SendModeProto.sendModeTransform.toInt32

def sendModeFromProto (value : Int32) : Except SerializationError SendMode :=
  match SendModeProto.tryFrom value with
  | some .sendModeTell => .ok .tell
  | some .sendModeAsk => .ok .ask
  | some .sendModeExpand => .ok .expand
  | some .sendModeReduce => .ok .reduce
  | some .sendModeTransform => .ok .transform
  | none => .error ⟨"unknown SendMode value: " ++ toString value.toInt⟩

/-- The optional request id, parsed (`map` and `transpose`). -/
def requestIdFromProto (uuid : UuidText) : Option String →
    Except SerializationError (Option Uuid)
  | none => .ok none
  | some text => do
    let id ← (uuid.parseStr text).mapError fun e => ⟨"invalid request_id UUID: " ++ e⟩
    return some id

def WireEnvelope.toProto (uuid : UuidText) (env : WireEnvelope) : WireEnvelopeProto where
  target := some env.target.toProto
  targetName := env.targetName
  messageType := env.messageType
  sendMode := sendModeToProto env.sendMode
  headers := env.headers.entries
  body := env.body
  requestId := env.requestId.map uuid.toString
  version := env.version

def WireEnvelope.fromProto (uuid : UuidText) (proto : WireEnvelopeProto) :
    Except SerializationError WireEnvelope := do
  let target ← requireActorId proto.target "WireEnvelope.target"
  let sendMode ← sendModeFromProto proto.sendMode
  let requestId ← requestIdFromProto uuid proto.requestId
  return {
    target
    targetName := proto.targetName
    messageType := proto.messageType
    sendMode
    headers := ⟨proto.headers⟩
    body := proto.body
    requestId
    version := proto.version }

def encodeWireEnvelope (prost : Prost) (uuid : UuidText) (env : WireEnvelope) : Bytes :=
  prost.wireEnvelope.encode (env.toProto uuid)

def decodeWireEnvelope (prost : Prost) (uuid : UuidText) :
    Bytes → Except SerializationError WireEnvelope :=
  decodeMessage prost.wireEnvelope maxWireEnvelopeSize "WireEnvelope"
    (WireEnvelope.fromProto uuid)

/-! ### Complete values

Which strings a message may not leave empty. -/

def ActorId.Complete (id : ActorId) : Prop := id.node.id ≠ ""

def SpawnRequest.Complete (req : SpawnRequest) : Prop := req.typeName ≠ "" ∧ req.requestId ≠ ""

def SpawnResponse.Complete : SpawnResponse → Prop
  | success _ actorId => actorId.Complete
  | failure _ _ => True

def WatchRequest.Complete (req : WatchRequest) : Prop :=
  req.target.Complete ∧ req.watcher.Complete

def UnwatchRequest.Complete (req : UnwatchRequest) : Prop :=
  req.target.Complete ∧ req.watcher.Complete

def WatchNotification.Complete (notif : WatchNotification) : Prop :=
  notif.terminated.Complete ∧ notif.watcher.Complete

def CancelRequest.Complete (req : CancelRequest) : Prop := req.target.Complete

/-- No field of a cancel response is required. -/
def CancelResponse.Complete (_ : CancelResponse) : Prop := True

def ConnectPeer.Complete (peer : ConnectPeer) : Prop := peer.nodeId.id ≠ ""

def NodeId.Complete (nodeId : NodeId) : Prop := nodeId.id ≠ ""

def HandshakeRequest.Complete (req : HandshakeRequest) : Prop :=
  req.nodeId.id ≠ "" ∧ req.adapter ≠ ""

def HandshakeResponse.Complete : HandshakeResponse → Prop
  | accepted nodeId _ _ adapter => nodeId.id ≠ "" ∧ adapter ≠ ""
  | rejected nodeId _ _ _ => nodeId.id ≠ ""

def WireEnvelope.Complete (env : WireEnvelope) : Prop := env.target.Complete

/-! ### When the checks pass -/

theorem checkSize_eq_ok {limit : ℕ} {what : String} (bytes : Bytes) :
    checkSize bytes limit what = .ok () ↔ bytes.length ≤ limit := by
  unfold checkSize
  split
  · rename_i h
    exact iff_of_false (by simp) (Nat.not_le_of_gt h)
  · rename_i h
    exact iff_of_true rfl (Nat.le_of_not_gt h)

@[simp] theorem requireNonEmpty_eq_ok {value field : String} {u : Unit} :
    requireNonEmpty value field = .ok u ↔ value ≠ "" := by
  unfold requireNonEmpty
  split <;> simp_all

theorem mapError_eq_ok {ε ε' α : Type} {x : Except ε α} {f : ε → ε'} {a : α} :
    x.mapError f = .ok a ↔ x = .ok a := by
  cases x with
  | error e => simp [Except.mapError]
  | ok b => simp [Except.mapError]

/-- A present actor id with a node name is taken back as it was. -/
@[simp] theorem requireActorId_toProto {id id' : ActorId} {name : String} :
    requireActorId (some id.toProto) name = .ok id' ↔ id.Complete ∧ id = id' := by
  obtain ⟨⟨node⟩, l⟩ := id
  simp [requireActorId, actorIdFromProto, ActorId.toProto, bind_eq_ok, ActorId.Complete, pure,
    Except.pure]

theorem requireActorId_complete {field : Option ActorIdProto} {name : String} {id : ActorId}
    (h : requireActorId field name = .ok id) : id.Complete := by
  cases field with
  | none => cases h
  | some proto =>
    obtain ⟨_, hne, hid⟩ := bind_eq_ok.mp h
    cases hid
    exact requireNonEmpty_eq_ok.mp hne

theorem display_ne_empty (v : WireVersion) : v.display ≠ "" := by
  intro h
  have hlen := congrArg String.toList h
  rw [WireVersion.toList_display] at hlen
  simp at hlen

@[simp] theorem parseWireVersion_display {v w : WireVersion} {what : String} :
    parseWireVersion v.display what = .ok w ↔ v = w := by
  rw [parseWireVersion, mapError_eq_ok, WireVersion.parse_of_display, Except.ok.injEq]

@[simp] theorem rejectionReason_round (reason reason' : RejectionReason) :
    rejectionReasonFromProto (rejectionReasonToProto reason).toInt32 = .ok reason' ↔
      reason = reason' := by
  cases reason <;> cases reason' <;> decide

@[simp] theorem sendMode_round (mode mode' : SendMode) :
    sendModeFromProto (sendModeToProto mode) = .ok mode' ↔ mode = mode' := by
  cases mode <;> cases mode' <;> decide

theorem requestId_round {uuid : UuidText} (huuid : uuid.Lawful) (id id' : Option Uuid) :
    requestIdFromProto uuid (id.map uuid.toString) = .ok id' ↔ id = id' := by
  cases id with
  | none => simp [requestIdFromProto]
  | some u =>
    simp [requestIdFromProto, bind_eq_ok, mapError_eq_ok, huuid u, pure, Except.pure]

/-! ### The conversions are faithful -/

theorem SpawnRequest.faithful :
    Faithful SpawnRequest.toProto SpawnRequest.fromProto SpawnRequest.Complete := by
  apply Faithful.of_iff
  · rintro ⟨typeName, args, name, id⟩ y
    simp [fromProto, toProto, Complete, bind_eq_ok, pure, Except.pure, and_assoc]
  · intro p x h
    obtain ⟨_, htype, h⟩ := bind_eq_ok.mp h
    obtain ⟨_, hid, h⟩ := bind_eq_ok.mp h
    cases h
    exact ⟨requireNonEmpty_eq_ok.mp htype, requireNonEmpty_eq_ok.mp hid⟩

theorem SpawnResponse.faithful :
    Faithful SpawnResponse.toProto SpawnResponse.fromProto SpawnResponse.Complete := by
  apply Faithful.of_iff
  · rintro (⟨id, actor⟩ | ⟨id, error⟩) y
    · simp [fromProto, toProto, Complete, bind_eq_ok, pure, Except.pure]
    · simp [fromProto, toProto, Complete]
  · rintro ⟨_ | ⟨s | f⟩⟩ x h
    · cases h
    · obtain ⟨actor, hactor, h⟩ := bind_eq_ok.mp h
      cases h
      exact requireActorId_complete hactor
    · cases h
      trivial

/-- Two required actor ids in a row, as the three watch messages have them. -/
theorem actorIds_complete {α : Type} {first second : Option ActorIdProto}
    {firstName secondName : String} {mk : ActorId → ActorId → α} {x : α}
    (h : (do
      let a ← requireActorId first firstName
      let b ← requireActorId second secondName
      return mk a b) = Except.ok x) :
    ∃ a b : ActorId, x = mk a b ∧ a.Complete ∧ b.Complete := by
  obtain ⟨a, ha, h⟩ := bind_eq_ok.mp h
  obtain ⟨b, hb, h⟩ := bind_eq_ok.mp h
  cases h
  exact ⟨a, b, rfl, requireActorId_complete ha, requireActorId_complete hb⟩

theorem WatchRequest.faithful :
    Faithful WatchRequest.toProto WatchRequest.fromProto WatchRequest.Complete := by
  apply Faithful.of_iff
  · rintro ⟨target, watcher⟩ y
    simp [fromProto, toProto, Complete, bind_eq_ok, pure, Except.pure, and_assoc]
  · intro p x h
    obtain ⟨target, watcher, rfl, htarget, hwatcher⟩ := actorIds_complete h
    exact ⟨htarget, hwatcher⟩

theorem UnwatchRequest.faithful :
    Faithful UnwatchRequest.toProto UnwatchRequest.fromProto UnwatchRequest.Complete := by
  apply Faithful.of_iff
  · rintro ⟨target, watcher⟩ y
    simp [fromProto, toProto, Complete, bind_eq_ok, pure, Except.pure, and_assoc]
  · intro p x h
    obtain ⟨target, watcher, rfl, htarget, hwatcher⟩ := actorIds_complete h
    exact ⟨htarget, hwatcher⟩

theorem WatchNotification.faithful :
    Faithful WatchNotification.toProto WatchNotification.fromProto
      WatchNotification.Complete := by
  apply Faithful.of_iff
  · rintro ⟨terminated, watcher⟩ y
    simp [fromProto, toProto, Complete, bind_eq_ok, pure, Except.pure, and_assoc]
  · intro p x h
    obtain ⟨terminated, watcher, rfl, hterminated, hwatcher⟩ := actorIds_complete h
    exact ⟨hterminated, hwatcher⟩

theorem CancelRequest.faithful :
    Faithful CancelRequest.toProto CancelRequest.fromProto CancelRequest.Complete := by
  apply Faithful.of_iff
  · rintro ⟨target, id⟩ y
    simp [fromProto, toProto, Complete, bind_eq_ok, pure, Except.pure]
  · intro p x h
    obtain ⟨target, htarget, h⟩ := bind_eq_ok.mp h
    cases h
    exact requireActorId_complete htarget

theorem CancelResponse.faithful :
    Faithful CancelResponse.toProto CancelResponse.fromProto CancelResponse.Complete := by
  apply Faithful.of_iff
  · rintro (_ | reason) y
    · simp [fromProto, toProto, Complete]
    · simp [fromProto, toProto, Complete]
  · intro p x h
    trivial

theorem ConnectPeer.faithful :
    Faithful ConnectPeer.toProto ConnectPeer.fromProto ConnectPeer.Complete := by
  apply Faithful.of_iff
  · rintro ⟨⟨node⟩, address⟩ y
    simp [fromProto, toProto, Complete, bind_eq_ok, pure, Except.pure]
  · intro p x h
    obtain ⟨_, hnode, h⟩ := bind_eq_ok.mp h
    cases h
    exact requireNonEmpty_eq_ok.mp hnode

theorem disconnectPeer_faithful :
    Faithful disconnectPeerToProto disconnectPeerFromProto NodeId.Complete := by
  apply Faithful.of_iff
  · rintro ⟨node⟩ y
    simp [disconnectPeerFromProto, disconnectPeerToProto, NodeId.Complete, bind_eq_ok, pure,
      Except.pure]
  · intro p x h
    obtain ⟨_, hnode, h⟩ := bind_eq_ok.mp h
    cases h
    exact requireNonEmpty_eq_ok.mp hnode

theorem HandshakeRequest.faithful :
    Faithful HandshakeRequest.toProto HandshakeRequest.fromProto
      HandshakeRequest.Complete := by
  apply Faithful.of_iff
  · rintro ⟨⟨node⟩, version, app, adapter⟩ y
    simp [fromProto, toProto, Complete, bind_eq_ok, pure, Except.pure, display_ne_empty,
      and_assoc]
  · intro p x h
    obtain ⟨_, hnode, h⟩ := bind_eq_ok.mp h
    obtain ⟨_, -, h⟩ := bind_eq_ok.mp h
    obtain ⟨_, hadapter, h⟩ := bind_eq_ok.mp h
    obtain ⟨version, -, h⟩ := bind_eq_ok.mp h
    cases h
    exact ⟨requireNonEmpty_eq_ok.mp hnode, requireNonEmpty_eq_ok.mp hadapter⟩

theorem HandshakeResponse.faithful :
    Faithful HandshakeResponse.toProto HandshakeResponse.fromProto
      HandshakeResponse.Complete := by
  apply Faithful.of_iff
  · rintro (⟨⟨node⟩, version, app, adapter⟩ | ⟨⟨node⟩, version, reason, detail⟩) y
    · simp [fromProto, toProto, Complete, bind_eq_ok, pure, Except.pure, display_ne_empty,
        and_assoc]
    · simp [fromProto, toProto, Complete, bind_eq_ok, pure, Except.pure, display_ne_empty]
  · rintro ⟨_ | ⟨a | r⟩⟩ x h
    · cases h
    · obtain ⟨_, hnode, h⟩ := bind_eq_ok.mp h
      obtain ⟨_, -, h⟩ := bind_eq_ok.mp h
      obtain ⟨_, hadapter, h⟩ := bind_eq_ok.mp h
      obtain ⟨version, -, h⟩ := bind_eq_ok.mp h
      cases h
      exact ⟨requireNonEmpty_eq_ok.mp hnode, requireNonEmpty_eq_ok.mp hadapter⟩
    · obtain ⟨_, hnode, h⟩ := bind_eq_ok.mp h
      obtain ⟨_, -, h⟩ := bind_eq_ok.mp h
      obtain ⟨version, -, h⟩ := bind_eq_ok.mp h
      obtain ⟨reason, -, h⟩ := bind_eq_ok.mp h
      cases h
      exact requireNonEmpty_eq_ok.mp hnode

theorem WireEnvelope.faithful {uuid : UuidText} (huuid : uuid.Lawful) :
    Faithful (WireEnvelope.toProto uuid) (WireEnvelope.fromProto uuid)
      WireEnvelope.Complete := by
  apply Faithful.of_iff
  · rintro ⟨target, name, type, mode, ⟨headers⟩, body, id, version⟩ y
    simp [fromProto, toProto, Complete, bind_eq_ok, pure, Except.pure, requestId_round huuid]
  · intro p x h
    obtain ⟨target, htarget, h⟩ := bind_eq_ok.mp h
    obtain ⟨mode, -, h⟩ := bind_eq_ok.mp h
    obtain ⟨id, -, h⟩ := bind_eq_ok.mp h
    cases h
    exact requireActorId_complete htarget

/-! ### The codecs -/

theorem decodeMessage_roundTrips {π α : Type} {format : Format π} (hformat : format.Lawful)
    {put : α → π} {fromProto : π → Except SerializationError α} {Complete : α → Prop}
    (h : Faithful put fromProto Complete) (limit : ℕ) (what : String) :
    RoundTrips (fun x => format.encode (put x)) (decodeMessage format limit what fromProto) limit
      Complete :=
  RoundTrips.of_faithful hformat checkSize_eq_ok h

/-- **Every system message and envelope survives the wire exactly.**  For each of the
twelve codecs: a value comes back unchanged when its encoding is within the size limit
and no required string is empty, it is refused otherwise, and a value that was decoded
from any bytes at all is stable. -/
theorem wire_roundTrips (prost : Prost) (uuid : UuidText) (hprost : prost.Lawful)
    (huuid : uuid.Lawful) :
    RoundTrips (encodeSpawnRequest prost) (decodeSpawnRequest prost) maxSystemMsgSize
        SpawnRequest.Complete ∧
      RoundTrips (encodeSpawnResponse prost) (decodeSpawnResponse prost) maxSystemMsgSize
        SpawnResponse.Complete ∧
      RoundTrips (encodeWatchRequest prost) (decodeWatchRequest prost) maxSystemMsgSize
        WatchRequest.Complete ∧
      RoundTrips (encodeUnwatchRequest prost) (decodeUnwatchRequest prost) maxSystemMsgSize
        UnwatchRequest.Complete ∧
      RoundTrips (encodeWatchNotification prost) (decodeWatchNotification prost)
        maxSystemMsgSize WatchNotification.Complete ∧
      RoundTrips (encodeCancelRequest prost) (decodeCancelRequest prost) maxSystemMsgSize
        CancelRequest.Complete ∧
      RoundTrips (encodeCancelResponse prost) (decodeCancelResponse prost) maxSystemMsgSize
        CancelResponse.Complete ∧
      RoundTrips (encodeConnectPeer prost) (decodeConnectPeer prost) maxSystemMsgSize
        ConnectPeer.Complete ∧
      RoundTrips (encodeDisconnectPeer prost) (decodeDisconnectPeer prost) maxSystemMsgSize
        NodeId.Complete ∧
      RoundTrips (encodeHandshakeRequest prost) (decodeHandshakeRequest prost)
        maxSystemMsgSize HandshakeRequest.Complete ∧
      RoundTrips (encodeHandshakeResponse prost) (decodeHandshakeResponse prost)
        maxSystemMsgSize HandshakeResponse.Complete ∧
      RoundTrips (encodeWireEnvelope prost uuid) (decodeWireEnvelope prost uuid)
        maxWireEnvelopeSize WireEnvelope.Complete :=
  ⟨decodeMessage_roundTrips hprost.spawnRequest SpawnRequest.faithful _ _,
    decodeMessage_roundTrips hprost.spawnResponse SpawnResponse.faithful _ _,
    decodeMessage_roundTrips hprost.watchRequest WatchRequest.faithful _ _,
    decodeMessage_roundTrips hprost.unwatchRequest UnwatchRequest.faithful _ _,
    decodeMessage_roundTrips hprost.watchNotification WatchNotification.faithful _ _,
    decodeMessage_roundTrips hprost.cancelRequest CancelRequest.faithful _ _,
    decodeMessage_roundTrips hprost.cancelResponse CancelResponse.faithful _ _,
    decodeMessage_roundTrips hprost.connectPeer ConnectPeer.faithful _ _,
    decodeMessage_roundTrips hprost.disconnectPeer disconnectPeer_faithful _ _,
    decodeMessage_roundTrips hprost.handshakeRequest HandshakeRequest.faithful _ _,
    decodeMessage_roundTrips hprost.handshakeResponse HandshakeResponse.faithful _ _,
    decodeMessage_roundTrips hprost.wireEnvelope (WireEnvelope.faithful huuid) _ _⟩

/-! ### Samples

One message of each type with its protobuf bytes. -/

section Samples

/-- The UTF-8 bytes of an ASCII text. -/
def ascii (text : String) : Bytes := text.toList.map fun c => c.val.toUInt8

/-- A request to spawn a `T`, named `a`, with one byte of arguments. -/
def sampleSpawnRequest : SpawnRequest := ⟨"T", [1], "a", "r1"⟩

def sampleSpawnRequestBytes : Bytes :=
  [0x0a, 0x01, 0x54, 0x12, 0x01, 0x01, 0x1a, 0x01, 0x61, 0x22, 0x02, 0x72, 0x31]

def sampleUuid : Uuid := 0x550e8400e29b41d4a716446655440000

def sampleUuidText : String := "550e8400-e29b-41d4-a716-446655440000"

/-- An ask for the actor `1` of node `n1`. -/
def sampleAsk : WireEnvelope where
  target := ⟨⟨"n1"⟩, 1⟩
  targetName := "test"
  messageType := "test::Msg"
  sendMode := .ask
  headers := ⟨∅⟩
  body := [1]
  requestId := some sampleUuid
  version := none

def sampleAskProto : WireEnvelopeProto :=
  ⟨some ⟨"n1", 1⟩, "test", "test::Msg", 1, ∅, [1], some sampleUuidText, none⟩

def sampleAskBytes : Bytes :=
  [0x0a, 0x06, 0x0a, 0x02, 0x6e, 0x31, 0x10, 0x01, 0x12, 0x04] ++ ascii "test" ++
    [0x1a, 0x09] ++ ascii "test::Msg" ++ [0x20, 0x01, 0x32, 0x01, 0x01, 0x3a, 0x24] ++
    ascii sampleUuidText

/-- Actor `1` of node `n1`, actor `2` of node `n2`. -/
def sampleActorIds : Bytes :=
  [0x0a, 0x06, 0x0a, 0x02, 0x6e, 0x31, 0x10, 0x01, 0x12, 0x06, 0x0a, 0x02, 0x6e, 0x32, 0x10,
    0x02]

/-- Node `n1`, version `0.2.0`, no application version, adapter `ractor`. -/
def sampleHandshake : Bytes :=
  [0x0a, 0x02, 0x6e, 0x31, 0x12, 0x05, 0x30, 0x2e, 0x32, 0x2e, 0x30, 0x22, 0x06, 0x72, 0x61,
    0x63, 0x74, 0x6f, 0x72]

noncomputable def sampleProst : Prost where
  spawnRequest := .sample ⟨"T", [1], "a", "r1"⟩ sampleSpawnRequestBytes
  spawnResponse := .sample ⟨some (.success ⟨"r1", some ⟨"n1", 1⟩⟩)⟩
    [0x0a, 0x0c, 0x0a, 0x02, 0x72, 0x31, 0x12, 0x06, 0x0a, 0x02, 0x6e, 0x31, 0x10, 0x01]
  watchRequest := .sample ⟨some ⟨"n1", 1⟩, some ⟨"n2", 2⟩⟩ sampleActorIds
  unwatchRequest := .sample ⟨some ⟨"n1", 1⟩, some ⟨"n2", 2⟩⟩ sampleActorIds
  watchNotification := .sample ⟨some ⟨"n1", 1⟩, some ⟨"n2", 2⟩⟩ sampleActorIds
  cancelRequest := .sample ⟨some ⟨"n1", 1⟩, some "r1"⟩
    [0x0a, 0x06, 0x0a, 0x02, 0x6e, 0x31, 0x10, 0x01, 0x12, 0x02, 0x72, 0x31]
  cancelResponse := .sample ⟨some .acknowledged⟩ [0x0a, 0x00]
  connectPeer := .sample ⟨"n1", none⟩ [0x0a, 0x02, 0x6e, 0x31]
  disconnectPeer := .sample ⟨"n1"⟩ [0x0a, 0x02, 0x6e, 0x31]
  handshakeRequest := .sample ⟨"n1", "0.2.0", none, "ractor"⟩ sampleHandshake
  handshakeResponse := .sample ⟨some (.accepted ⟨"n1", "0.2.0", none, "ractor"⟩)⟩
    ([0x0a, 0x13] ++ sampleHandshake)
  wireEnvelope := .sample sampleAskProto sampleAskBytes

theorem sampleProst_lawful : sampleProst.Lawful :=
  ⟨Format.sample_lawful _ _, Format.sample_lawful _ _, Format.sample_lawful _ _,
    Format.sample_lawful _ _, Format.sample_lawful _ _, Format.sample_lawful _ _,
    Format.sample_lawful _ _, Format.sample_lawful _ _, Format.sample_lawful _ _,
    Format.sample_lawful _ _, Format.sample_lawful _ _, Format.sample_lawful _ _⟩

noncomputable def sampleUuidCode : Uuid → List Char :=
  recode someCode sampleUuid sampleUuidText.toList

noncomputable def sampleUuids : UuidText where
  toString u := String.ofList (sampleUuidCode u)
  parseStr text := undo sampleUuidCode "invalid character" text.toList

theorem sampleUuids_lawful : sampleUuids.Lawful := by
  intro u
  show undo sampleUuidCode _ (String.ofList (sampleUuidCode u)).toList = _
  rw [String.toList_ofList]
  exact undo_apply (recode_injective someCode_injective) _ u

theorem sampleUuids_toString : sampleUuids.toString sampleUuid = sampleUuidText := by
  show String.ofList (recode someCode sampleUuid sampleUuidText.toList sampleUuid) = _
  rw [recode_self, String.ofList_toList]

theorem sampleAsk_toProto : sampleAsk.toProto sampleUuids = sampleAskProto := by
  show WireEnvelopeProto.mk _ _ _ _ _ _ (some (sampleUuids.toString sampleUuid)) _ = _
  rw [sampleUuids_toString]
  rfl

theorem encode_sampleAsk : encodeWireEnvelope sampleProst sampleUuids sampleAsk =
    sampleAskBytes := by
  show sampleProst.wireEnvelope.encode (sampleAsk.toProto sampleUuids) = _
  rw [sampleAsk_toProto]
  exact recode_self

theorem encode_sampleSpawnRequest : encodeSpawnRequest sampleProst sampleSpawnRequest =
    sampleSpawnRequestBytes :=
  recode_self

theorem decode_sampleSpawnRequest :
    decodeSpawnRequest sampleProst sampleSpawnRequestBytes = .ok sampleSpawnRequest := by
  have h := (decodeMessage_roundTrips sampleProst_lawful.spawnRequest SpawnRequest.faithful
    maxSystemMsgSize "SpawnRequest").survives sampleSpawnRequest
  have hsize : (encodeSpawnRequest sampleProst sampleSpawnRequest).length ≤ maxSystemMsgSize := by
    rw [encode_sampleSpawnRequest]
    decide
  rw [← encode_sampleSpawnRequest]
  exact h hsize ⟨by decide, by decide⟩

/-- The spawn request and the ask of the samples survive, in their protobuf bytes. -/
theorem wire_roundTrips_samples :
    sampleProst.Lawful ∧ sampleUuids.Lawful ∧
      encodeSpawnRequest sampleProst sampleSpawnRequest = sampleSpawnRequestBytes ∧
      decodeSpawnRequest sampleProst (encodeSpawnRequest sampleProst sampleSpawnRequest) =
        .ok sampleSpawnRequest ∧
      encodeWireEnvelope sampleProst sampleUuids sampleAsk = sampleAskBytes ∧
      decodeWireEnvelope sampleProst sampleUuids
        (encodeWireEnvelope sampleProst sampleUuids sampleAsk) = .ok sampleAsk := by
  have h := wire_roundTrips sampleProst sampleUuids sampleProst_lawful sampleUuids_lawful
  refine ⟨sampleProst_lawful, sampleUuids_lawful, encode_sampleSpawnRequest, ?_,
    encode_sampleAsk, ?_⟩
  · apply h.1.survives
    · rw [encode_sampleSpawnRequest]
      decide
    · exact ⟨by decide, by decide⟩
  · apply h.2.2.2.2.2.2.2.2.2.2.2.survives
    · rw [encode_sampleAsk]
      decide
    · show "n1" ≠ ""
      decide

end Samples

end Dactor
