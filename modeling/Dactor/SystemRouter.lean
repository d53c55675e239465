/-
Dactor/SystemRouter.lean

The routing of system envelopes (`system_router.rs`, `route_system_envelope` of
`dactor-ractor/runtime.rs`) to the native system actors.

An envelope is checked, decoded and posted to the mailbox of one actor; the call
returns at once, or waits for the reply to its message.  Other callers post to the
same mailboxes through `system_actor_refs`, and the actors work when they are
scheduled.

Main results: `remote_watches_exact` — whatever the interleaving, a termination
notifies exactly the watchers whose last acknowledged message was a watch;
`control_queries_exact` — the directory and the counts are answered alike;
`cancel_outcome_exact` — a routed cancel gets the reply to its own message, and
cancels the token that was registered last; `dual_paths_agree` — the native
actors end with the state and the answers of the runtime's own managers when
both are given the same operations.
-/
import Dactor.SystemActors
import Dactor.RemoteSpawn

namespace Dactor

open Runs Servers

variable {A T : Type}

/-! ### System envelopes -/

def systemMsgTypeSpawn : String := "dactor::system_actors::SpawnRequest"
def systemMsgTypeWatch : String := "dactor::system_actors::WatchRequest"
def systemMsgTypeUnwatch : String := "dactor::system_actors::UnwatchRequest"
def systemMsgTypeCancel : String := "dactor::system_actors::CancelRequest"
def systemMsgTypeConnectPeer : String := "dactor::system_actors::ConnectPeer"
def systemMsgTypeDisconnectPeer : String := "dactor::system_actors::DisconnectPeer"

def isSystemMessageType (messageType : String) : Bool :=
  messageType ∈ [systemMsgTypeSpawn, systemMsgTypeWatch, systemMsgTypeUnwatch,
    systemMsgTypeCancel, systemMsgTypeConnectPeer, systemMsgTypeDisconnectPeer]

def validateSystemMessageType (messageType : String) : Except RoutingError Unit :=
  if isSystemMessageType messageType then .ok ()
  else .error ⟨"unknown system message type: " ++ messageType⟩

/-- A message for one of the system actors. -/
inductive SystemPost (T : Type)
  | spawnManager (request : SpawnRequest)
  | watchManager (msg : WatchManagerMsg)
  | cancelManager (msg : CancelManagerMsg T)
  | nodeDirectory (msg : NodeDirectoryMsg)

/-- The error of a body that does not decode. -/
def decoded {α : Type} (what : String) (result : Except SerializationError α) :
    Except RoutingError α :=
  result.mapError fun e => ⟨"decode " ++ what ++ ": " ++ e.display⟩

/-- A cancel without a request id has nothing to cancel. -/
def cancelPost (request : CancelRequest) : Except RoutingError (SystemPost T) :=
  match request.requestId with
  | none => .error ⟨"CancelRequest missing request_id"⟩
  | some requestId => .ok (.cancelManager (.cancel requestId))

/-- The arms of `route_system_envelope`, up to the post. -/
def systemPost (prost : Prost) (envelope : WireEnvelope) : Except RoutingError (SystemPost T) :=
  if envelope.messageType = systemMsgTypeSpawn then
    (decoded "SpawnRequest" (decodeSpawnRequest prost envelope.body)).map .spawnManager
  else if envelope.messageType = systemMsgTypeWatch then
    (decoded "WatchRequest" (decodeWatchRequest prost envelope.body)).map fun request =>
      .watchManager (.watch request.target request.watcher)
  else if envelope.messageType = systemMsgTypeUnwatch then
    (decoded "UnwatchRequest" (decodeUnwatchRequest prost envelope.body)).map fun request =>
      .watchManager (.unwatch request.target request.watcher)
  else if envelope.messageType = systemMsgTypeCancel then
    decoded "CancelRequest" (decodeCancelRequest prost envelope.body) >>= cancelPost
  else if envelope.messageType = systemMsgTypeConnectPeer then
    (decoded "ConnectPeer" (decodeConnectPeer prost envelope.body)).map fun peer =>
      .nodeDirectory (.connectPeer peer.nodeId peer.address)
  else if envelope.messageType = systemMsgTypeDisconnectPeer then
    (decoded "DisconnectPeer" (decodeDisconnectPeer prost envelope.body)).map fun peerId =>
      .nodeDirectory (.disconnectPeer peerId)
  else .error ⟨"unhandled system message type: " ++ envelope.messageType⟩

/-! ### A node -/

/-- The native actors of the control plane.  There is one of each: only the spawn manager
is pooled. -/
structure ControlPlane (T : Type) where
  watchManager : Server WatchManager WatchManagerMsg WatchManagerReply
  cancelManager : Server (CancelManager T) (CancelManagerMsg T) (CancelManagerReply T)
  nodeDirectory : Server NodeDirectory NodeDirectoryMsg NodeDirectoryReply

inductive ControlActor
  | watchManager
  | cancelManager
  | nodeDirectory
deriving DecidableEq

namespace ControlPlane

def fresh : ControlPlane T := ⟨.new .new, .new .new, .new .new⟩

/-- A message enters the mailbox of its actor; a spawn request is not for one of these. -/
def post (c : ControlPlane T) : SystemPost T → ControlPlane T
  | .spawnManager _ => c
  | .watchManager msg => { c with watchManager := c.watchManager.post msg }
  | .cancelManager msg => { c with cancelManager := c.cancelManager.post msg }
  | .nodeDirectory msg => { c with nodeDirectory := c.nodeDirectory.post msg }

/-- An actor handles its oldest message. -/
def work (c : ControlPlane T) : ControlActor → ControlPlane T
  | .watchManager => { c with watchManager := c.watchManager.work WatchManager.handle }
  | .cancelManager => { c with cancelManager := c.cancelManager.work CancelManager.handle }
  | .nodeDirectory => { c with nodeDirectory := c.nodeDirectory.work NodeDirectory.handle }

end ControlPlane

/-- The part of a `RactorRuntime` that system envelopes reach; `system_actors` holds the
spawn managers and the control plane, so the two are started together. -/
structure SystemNode (A T : Type) where
  spawning : SpawnRuntime A
  control : Option (ControlPlane T)
  together : control.isSome = spawning.systemActors.isSome

/-- How a call of `route_system_envelope` stands after its post: it has returned, or it
waits for the reply to its message, which is number `ticket` of the mailbox. -/
inductive Routed
  | acknowledged
  | awaitingSpawn (requestId : String)
  | awaitingCancel (ticket : ℕ)
deriving DecidableEq

namespace SystemNode

def withNodeId (nodeId : NodeId) : SystemNode A T := ⟨.withNodeId nodeId, none, rfl⟩

/-- Everything that concerns the spawn managers; a start starts the control plane too. -/
def spawnCall (s : SystemNode A T) (call : SpawnRuntime.Call A) : SystemNode A T where
  spawning := s.spawning.step call
  control :=
    match call with
    | .startSystemActors _ => some .fresh
    | _ => s.control
  together := by
    have h := s.together
    cases call with
    | registerFactory typeName factory => simpa [SpawnRuntime.step, SpawnRuntime.registerFactory]
    | startSystemActors poolSize => rfl
    | handleSpawnRequest request => exact h
    | postRequest request => simpa [SpawnRuntime.step, SpawnRuntime.postRequest]
    | process i =>
      rw [h, SpawnRuntime.step, SpawnRuntime.process]
      cases hactors : s.spawning.systemActors with
      | none => rw [hactors]
      | some handle =>
        dsimp only
        cases handle.workers[i]? with
        | none => rw [hactors]
        | some a => rfl

def withControl (s : SystemNode A T) (f : ControlPlane T → ControlPlane T) : SystemNode A T where
  spawning := s.spawning
  control := s.control.map f
  together := by rw [Option.isSome_map, s.together]

def post (s : SystemNode A T) (msg : SystemPost T) : SystemNode A T :=
  match msg with
  | .spawnManager request => s.spawnCall (.postRequest request)
  | msg => s.withControl (·.post msg)

/-- How the call stands that posts the message. -/
def routed (refs : ControlPlane T) : SystemPost T → Routed
  | .spawnManager request => .awaitingSpawn request.requestId
  | .watchManager _ | .nodeDirectory _ => .acknowledged
  | .cancelManager _ =>
    .awaitingCancel (refs.cancelManager.answers.length + refs.cancelManager.mailbox.length)

def routeSystemEnvelope (prost : Prost) (s : SystemNode A T) (envelope : WireEnvelope) :
    Except RoutingError (SystemNode A T × Routed) := do
  validateSystemMessageType envelope.messageType
  match s.control with
  | none => .error ⟨"system actors not started"⟩
  | some refs => do
    let msg ← systemPost prost envelope
    return (s.post msg, routed refs msg)

/-! ### Runs -/

/-- What happens on a node: a call about spawning, a routed envelope, a message that is
cast through `system_actor_refs`, or an actor of the control plane that is scheduled. -/
inductive Event (A T : Type)
  | spawn (call : SpawnRuntime.Call A)
  | route (envelope : WireEnvelope)
  | cast (msg : SystemPost T)
  | work (actor : ControlActor)

def step (prost : Prost) (s : SystemNode A T) : Event A T → SystemNode A T
  | .spawn call => s.spawnCall call
  | .route envelope =>
    match s.routeSystemEnvelope prost envelope with
    | .ok (s', _) => s'
    | .error _ => s
  | .cast msg => s.post msg
  | .work actor => s.withControl (·.work actor)

end SystemNode

/-! ### One actor at a time -/

/-- The message that an envelope is routed as, if it is well formed. -/
def accepted (prost : Prost) (envelope : WireEnvelope) : Option (SystemPost T) :=
  (do
    validateSystemMessageType envelope.messageType
    systemPost prost envelope : Except RoutingError (SystemPost T)).toOption

/-- The place of one actor in the control plane. -/
structure Seat (T σ μ ρ : Type) where
  actor : ControlActor
  view : ControlPlane T → Server σ μ ρ
  handle : σ → μ → σ × ρ
  init : σ
  pick : SystemPost T → Option μ
  view_fresh : view .fresh = .new init
  view_post : ∀ c msg, view (c.post msg) = (pick msg).elim (view c) (view c).post
  view_work : ∀ c a, view (c.work a) = if a = actor then (view c).work handle else view c

def watchSeat : Seat T WatchManager WatchManagerMsg WatchManagerReply where
  actor := .watchManager
  view := ControlPlane.watchManager
  handle := WatchManager.handle
  init := .new
  pick
    | .watchManager msg => some msg
    | _ => none
  view_fresh := rfl
  view_post := fun _ msg => by cases msg <;> rfl
  view_work := fun _ a => by cases a <;> rfl

def cancelSeat : Seat T (CancelManager T) (CancelManagerMsg T) (CancelManagerReply T) where
  actor := .cancelManager
  view := ControlPlane.cancelManager
  handle := CancelManager.handle
  init := .new
  pick
    | .cancelManager msg => some msg
    | _ => none
  view_fresh := rfl
  view_post := fun _ msg => by cases msg <;> rfl
  view_work := fun _ a => by cases a <;> rfl

def directorySeat : Seat T NodeDirectory NodeDirectoryMsg NodeDirectoryReply where
  actor := .nodeDirectory
  view := ControlPlane.nodeDirectory
  handle := NodeDirectory.handle
  init := .new
  pick
    | .nodeDirectory msg => some msg
    | _ => none
  view_fresh := rfl
  view_post := fun _ msg => by cases msg <;> rfl
  view_work := fun _ a => by cases a <;> rfl

namespace Seat

open SystemNode

variable {σ μ ρ : Type} (seat : Seat T σ μ ρ) (prost : Prost)

/-- What an event on the node is for the actor. -/
def event : SystemNode.Event A T → Option (Servers.Event μ)
  | .spawn (.startSystemActors _) => some .start
  | .spawn _ => none
  | .route envelope => ((accepted prost envelope).bind seat.pick).map .post
  | .cast msg => (seat.pick msg).map .post
  | .work a => if a = seat.actor then some .work else none

/-- The messages that were posted to the actor since it was started. -/
def received (events : List (SystemNode.Event A T)) : Option (List μ) :=
  inbox (events.filterMap (seat.event prost))

theorem control_post (s : SystemNode A T) (msg : SystemPost T) :
    (s.post msg).control = s.control.map (·.post msg) := by
  cases msg with
  | spawnManager request =>
    show s.control = s.control.map id
    rw [Option.map_id]
    rfl
  | watchManager msg => rfl
  | cancelManager msg => rfl
  | nodeDirectory msg => rfl

/-- A routed envelope posts its message, if it is well formed and somebody is there. -/
theorem control_route (s : SystemNode A T) (envelope : WireEnvelope) :
    (s.step prost (.route envelope)).control =
      (accepted prost envelope).elim s.control fun msg => s.control.map (·.post msg) := by
  rw [SystemNode.step, routeSystemEnvelope, accepted]
  cases hvalid : validateSystemMessageType envelope.messageType with
  | error e => rfl
  | ok u =>
    cases hcontrol : s.control with
    | none =>
      show s.control = _
      rw [hcontrol]
      cases (systemPost prost envelope : Except RoutingError (SystemPost T)) with
      | error e => rfl
      | ok msg => rfl
    | some refs =>
      cases hpost : (systemPost prost envelope : Except RoutingError (SystemPost T)) with
      | error e => exact hcontrol
      | ok msg =>
        show (s.post msg).control = _
        rw [control_post, hcontrol]
        rfl

theorem view_map_post (control : Option (ControlPlane T)) (msg : SystemPost T) :
    (control.map (·.post msg)).map seat.view =
      (seat.pick msg).elim (control.map seat.view) fun m =>
        (control.map seat.view).map (·.post m) := by
  cases control with
  | none => cases seat.pick msg <;> rfl
  | some c =>
    show some (seat.view (c.post msg)) = _
    rw [seat.view_post]
    cases seat.pick msg <;> rfl

theorem view_step (s : SystemNode A T) (e : SystemNode.Event A T) :
    (s.step prost e).control.map seat.view =
      (seat.event prost e).elim (s.control.map seat.view)
        (Servers.step seat.handle seat.init (s.control.map seat.view)) := by
  cases e with
  | spawn call =>
    cases call with
    | startSystemActors poolSize => exact congrArg some seat.view_fresh
    | _ => rfl
  | route envelope =>
    rw [control_route, event]
    cases accepted prost envelope with
    | none => rfl
    | some msg =>
      show (s.control.map (·.post msg)).map seat.view = _
      rw [view_map_post]
      show _ = ((seat.pick msg).map Servers.Event.post).elim _ _
      cases seat.pick msg <;> rfl
  | cast msg =>
    show (s.post msg).control.map seat.view = _
    rw [control_post, view_map_post, event]
    cases seat.pick msg <;> rfl
  | work a =>
    show (s.control.map (·.work a)).map seat.view = _
    rw [event]
    cases s.control with
    | none => split <;> rfl
    | some c =>
      show some (seat.view (c.work a)) = _
      rw [seat.view_work]
      split <;> rfl

/-- **Each actor serves what it received**, whatever else happens on the node. -/
theorem serves (nodeId : NodeId) (events : List (SystemNode.Event A T)) :
    Option.Rel (Serves seat.handle seat.init) (seat.received prost events)
      ((run (SystemNode.step prost) (withNodeId nodeId) events).control.map seat.view) := by
  rw [run_view (fun s : SystemNode A T => s.control.map seat.view) (seat.view_step prost)]
  exact serves_run seat.handle seat.init _

end Seat

/-- A seat that has received `msgs` and is not started again has received more. -/
theorem Seat.received_append {σ μ ρ : Type} (seat : Seat T σ μ ρ) (prost : Prost)
    {past later : List (SystemNode.Event A T)} {msgs : List μ}
    (hpast : seat.received prost past = some msgs)
    (hlater : ∀ poolSize, .spawn (.startSystemActors poolSize) ∉ later) :
    seat.received prost (past ++ later) =
      some (msgs ++ (later.filterMap (seat.event prost)).filterMap Servers.Event.posted) := by
  rw [received, inbox, List.filterMap_append, run_append]
  have hstart : ∀ e ∈ later.filterMap (seat.event prost), e ≠ .start := by
    rintro e he rfl
    obtain ⟨event, hevent, heq⟩ := List.mem_filterMap.mp he
    cases event with
    | spawn call =>
      cases call with
      | startSystemActors poolSize => exact hlater poolSize hevent
      | _ => cases heq
    | route envelope =>
      obtain ⟨m, -, hm⟩ := Option.map_eq_some_iff.mp heq
      cases hm
    | cast msg =>
      obtain ⟨m, -, hm⟩ := Option.map_eq_some_iff.mp heq
      cases hm
    | work a =>
      rw [event] at heq
      split at heq
      · cases heq
      · cases heq
  show run note (inbox (past.filterMap (seat.event prost))) _ = _
  rw [show inbox (past.filterMap (seat.event prost)) = some msgs from hpast]
  exact run_note_of_no_start hstart msgs

/-- An accepted envelope is posted wherever the actors are started. -/
theorem route_of_accepted {prost : Prost} {s : SystemNode A T} {refs : ControlPlane T}
    (hrefs : s.control = some refs) {envelope : WireEnvelope} {msg : SystemPost T}
    (h : accepted prost envelope = some msg) :
    s.routeSystemEnvelope prost envelope = .ok (s.post msg, SystemNode.routed refs msg) := by
  rw [accepted] at h
  rw [SystemNode.routeSystemEnvelope]
  cases hvalid : validateSystemMessageType envelope.messageType with
  | error e => rw [hvalid] at h; cases h
  | ok u =>
    cases hpost : (systemPost prost envelope : Except RoutingError (SystemPost T)) with
    | error e => rw [hvalid, hpost] at h; cases h
    | ok msg' =>
      rw [hvalid, hpost] at h
      cases h
      rw [hrefs]
      rfl

/-! ### The two copies of the managers

The runtime keeps managers of its own for its synchronous calls, beside the ones of the
native actors. -/

/-- An operation that both copies have. -/
inductive SystemOp (T : Type)
  | remoteWatch (target watcher : ActorId)
  | remoteUnwatch (target watcher : ActorId)
  | notifyTerminated (terminated : ActorId)
  | registerCancel (requestId : String) (token : T)
  | cancelRequest (target : ActorId) (requestId : String)
  | completeRequest (requestId : String)
  | connectPeer (peerId : NodeId) (address : Option String)
  | disconnectPeer (peerId : NodeId)

/-- The managers of the runtime, with what its calls returned. -/
structure PlainManagers (T : Type) where
  watchManager : WatchManager
  cancelManager : CancelManager T
  cluster : Cluster
  notified : List (Finset WatchNotification)
  responses : List (CancelResponse × Option T)

namespace PlainManagers

def new : PlainManagers T := ⟨.new, .new, .new, [], []⟩

def step (m : PlainManagers T) : SystemOp T → PlainManagers T
  | .remoteWatch target watcher => { m with watchManager := m.watchManager.watch target watcher }
  | .remoteUnwatch target watcher =>
    { m with watchManager := m.watchManager.unwatch target watcher }
  | .notifyTerminated terminated =>
    { m with
      watchManager := m.watchManager.onTerminated terminated
      notified := m.notified ++ [m.watchManager.notifications terminated] }
  | .registerCancel requestId token =>
    { m with cancelManager := m.cancelManager.register requestId token }
  | .cancelRequest _ requestId =>
    { m with
      cancelManager := (m.cancelManager.cancel requestId).1
      responses := m.responses ++ [(m.cancelManager.cancel requestId).2] }
  | .completeRequest requestId => { m with cancelManager := m.cancelManager.remove requestId }
  | .connectPeer peerId address => { m with cluster := m.cluster.connectPeer peerId address }
  | .disconnectPeer peerId => { m with cluster := m.cluster.disconnectPeer peerId }

end PlainManagers

namespace SystemOp

/-- The message of the operation to a native actor. -/
def post : SystemOp T → SystemPost T
  | remoteWatch target watcher => .watchManager (.watch target watcher)
  | remoteUnwatch target watcher => .watchManager (.unwatch target watcher)
  | notifyTerminated terminated => .watchManager (.onTerminated terminated)
  | registerCancel requestId token => .cancelManager (.register requestId token)
  | cancelRequest _ requestId => .cancelManager (.cancel requestId)
  | completeRequest requestId => .cancelManager (.complete requestId)
  | connectPeer peerId address => .nodeDirectory (.connectPeer peerId address)
  | disconnectPeer peerId => .nodeDirectory (.disconnectPeer peerId)

/-- The type and the body of the envelope of the operation; three operations have none. -/
def wire (prost : Prost) : SystemOp T → Option (String × Bytes)
  | remoteWatch target watcher =>
    some (systemMsgTypeWatch, encodeWatchRequest prost ⟨target, watcher⟩)
  | remoteUnwatch target watcher =>
    some (systemMsgTypeUnwatch, encodeUnwatchRequest prost ⟨target, watcher⟩)
  | cancelRequest target requestId =>
    some (systemMsgTypeCancel, encodeCancelRequest prost ⟨target, some requestId⟩)
  | connectPeer peerId address =>
    some (systemMsgTypeConnectPeer, encodeConnectPeer prost ⟨peerId, address⟩)
  | disconnectPeer peerId =>
    some (systemMsgTypeDisconnectPeer, encodeDisconnectPeer prost peerId)
  | notifyTerminated _ | registerCancel _ _ | completeRequest _ => none

/-- The operation at the native actors: its envelope is routed, or its message is cast.  The
rest of the envelope does not matter. -/
def event (prost : Prost) (carrier : WireEnvelope) (op : SystemOp T) : SystemNode.Event A T :=
  match op.wire prost with
  | some (messageType, body) => .route { carrier with messageType, body }
  | none => .cast op.post

/-- The ids that the wire format requires. -/
def Complete : SystemOp T → Prop
  | remoteWatch target watcher | remoteUnwatch target watcher =>
    target.Complete ∧ watcher.Complete
  | cancelRequest target _ => target.Complete
  | connectPeer peerId _ | disconnectPeer peerId => peerId.Complete
  | notifyTerminated _ | registerCancel _ _ | completeRequest _ => True

/-- The operation survives the wire. -/
def Sendable (prost : Prost) (op : SystemOp T) : Prop :=
  op.Complete ∧ ∀ messageType body, op.wire prost = some (messageType, body) →
    body.length ≤ maxSystemMsgSize

end SystemOp

/-- Work, and what concerns the spawn managers only. -/
def SystemNode.Event.quiet : SystemNode.Event A T → Bool
  | .spawn (.startSystemActors _) => false
  | .spawn _ => true
  | .route _ | .cast _ => false
  | .work _ => true

section Wire

variable {prost : Prost}

theorem accepted_of_post {envelope : WireEnvelope} {msg : SystemPost T}
    (htype : isSystemMessageType envelope.messageType = true)
    (hpost : systemPost prost envelope = .ok msg) : accepted prost envelope = some msg := by
  rw [accepted, validateSystemMessageType, if_pos htype]
  show Except.toOption (systemPost prost envelope) = some msg
  rw [hpost]
  rfl

/-- The message of a sendable operation arrives as it was meant. -/
theorem SystemOp.accepted_wire (hprost : prost.Lawful) {op : SystemOp T} (h : op.Sendable prost)
    {envelope : WireEnvelope}
    (hwire : op.wire prost = some (envelope.messageType, envelope.body)) :
    accepted prost envelope = some op.post := by
  obtain ⟨hcomplete, hfits⟩ := h
  have hsize := hfits _ _ hwire
  clear hfits
  cases op with
  | remoteWatch target watcher =>
    obtain ⟨htype, hbody⟩ := Prod.mk.inj (Option.some.inj hwire)
    rw [← hbody] at hsize
    have hdecode : decodeWatchRequest prost (encodeWatchRequest prost ⟨target, watcher⟩) = _ :=
      (decodeMessage_roundTrips hprost.watchRequest WatchRequest.faithful
        maxSystemMsgSize "WatchRequest").survives ⟨target, watcher⟩ hsize hcomplete
    apply accepted_of_post (by rw [← htype]; decide)
    rw [systemPost, ← htype, ← hbody, if_neg (by decide), if_pos rfl, hdecode]
    rfl
  | remoteUnwatch target watcher =>
    obtain ⟨htype, hbody⟩ := Prod.mk.inj (Option.some.inj hwire)
    rw [← hbody] at hsize
    have hdecode : decodeUnwatchRequest prost (encodeUnwatchRequest prost ⟨target, watcher⟩) = _ :=
      (decodeMessage_roundTrips hprost.unwatchRequest UnwatchRequest.faithful
        maxSystemMsgSize "UnwatchRequest").survives ⟨target, watcher⟩ hsize hcomplete
    apply accepted_of_post (by rw [← htype]; decide)
    rw [systemPost, ← htype, ← hbody, if_neg (by decide), if_neg (by decide), if_pos rfl, hdecode]
    rfl
  | cancelRequest target requestId =>
    obtain ⟨htype, hbody⟩ := Prod.mk.inj (Option.some.inj hwire)
    rw [← hbody] at hsize
    have hdecode : decodeCancelRequest prost
        (encodeCancelRequest prost ⟨target, some requestId⟩) = _ :=
      (decodeMessage_roundTrips hprost.cancelRequest CancelRequest.faithful
        maxSystemMsgSize "CancelRequest").survives ⟨target, some requestId⟩ hsize hcomplete
    apply accepted_of_post (by rw [← htype]; decide)
    rw [systemPost, ← htype, ← hbody, if_neg (by decide), if_neg (by decide),
      if_neg (by decide), if_pos rfl, hdecode]
    rfl
  | connectPeer peerId address =>
    obtain ⟨htype, hbody⟩ := Prod.mk.inj (Option.some.inj hwire)
    rw [← hbody] at hsize
    have hdecode : decodeConnectPeer prost (encodeConnectPeer prost ⟨peerId, address⟩) = _ :=
      (decodeMessage_roundTrips hprost.connectPeer ConnectPeer.faithful
        maxSystemMsgSize "ConnectPeer").survives ⟨peerId, address⟩ hsize hcomplete
    apply accepted_of_post (by rw [← htype]; decide)
    rw [systemPost, ← htype, ← hbody, if_neg (by decide), if_neg (by decide), if_neg (by decide),
      if_neg (by decide), if_pos rfl, hdecode]
    rfl
  | disconnectPeer peerId =>
    obtain ⟨htype, hbody⟩ := Prod.mk.inj (Option.some.inj hwire)
    rw [← hbody] at hsize
    have hdecode : decodeDisconnectPeer prost (encodeDisconnectPeer prost peerId) = _ :=
      (decodeMessage_roundTrips hprost.disconnectPeer disconnectPeer_faithful
        maxSystemMsgSize "DisconnectPeer").survives peerId hsize hcomplete
    apply accepted_of_post (by rw [← htype]; decide)
    rw [systemPost, ← htype, ← hbody, if_neg (by decide), if_neg (by decide), if_neg (by decide),
      if_neg (by decide), if_neg (by decide), if_pos rfl, hdecode]
    rfl
  | notifyTerminated terminated => cases hwire
  | registerCancel requestId token => cases hwire
  | completeRequest requestId => cases hwire

/-- The operation reaches each actor as its message. -/
theorem SystemOp.event_seen {σ μ ρ : Type} (seat : Seat T σ μ ρ) (hprost : prost.Lawful)
    {op : SystemOp T} (h : op.Sendable prost) (carrier : WireEnvelope) :
    (seat.event (A := A) prost (op.event prost carrier)).bind Servers.Event.posted =
      seat.pick op.post := by
  have hposted : ∀ m : Option μ, (m.map Servers.Event.post).bind Servers.Event.posted = m := by
    intro m
    cases m <;> rfl
  rw [event]
  cases hwire : op.wire prost with
  | none => exact hposted _
  | some wire =>
    obtain ⟨messageType, body⟩ := wire
    show ((((accepted prost _).bind seat.pick).map _).bind _) = _
    rw [hposted, op.accepted_wire hprost h hwire]
    rfl

/-- Events that post nothing do not matter. -/
theorem Seat.posts_filter {σ μ ρ : Type} (seat : Seat T σ μ ρ)
    (events : List (SystemNode.Event A T)) :
    (events.filterMap (seat.event prost)).filterMap Servers.Event.posted =
      (events.filter fun e => !e.quiet).filterMap fun e =>
        (seat.event prost e).bind Servers.Event.posted := by
  rw [List.filterMap_filterMap, List.filterMap_filter]
  apply List.filterMap_congr
  intro e _
  cases e with
  | spawn call => cases call <;> rfl
  | route envelope => rfl
  | cast msg => rfl
  | work a =>
    rw [event]
    split <;> rfl

/-- What an actor receives when the operations are sent to a started node, in order, with
any work in between. -/
theorem Seat.received_ops {σ μ ρ : Type} (seat : Seat T σ μ ρ) (hprost : prost.Lawful)
    (poolSize : Option ℕ) (carrier : SystemOp T → WireEnvelope) {ops : List (SystemOp T)}
    (hops : ∀ op ∈ ops, op.Sendable prost) {events : List (SystemNode.Event A T)}
    (hevents : (events.filter fun e => !e.quiet) = ops.map fun op => op.event prost (carrier op)) :
    seat.received prost (.spawn (.startSystemActors poolSize) :: events) =
      some (ops.filterMap fun op => seat.pick op.post) := by
  have hstart : ∀ poolSize, .spawn (.startSystemActors poolSize) ∉ events := by
    intro size hmem
    have hloud : .spawn (.startSystemActors size) ∈ events.filter fun e => !e.quiet :=
      List.mem_filter.mpr ⟨hmem, rfl⟩
    rw [hevents] at hloud
    obtain ⟨op, -, hop⟩ := List.mem_map.mp hloud
    rw [SystemOp.event] at hop
    split at hop
    · cases hop
    · cases hop
  have hone : seat.received prost ([.spawn (.startSystemActors poolSize)] :
      List (SystemNode.Event A T)) = some [] := rfl
  have hall := seat.received_append prost hone hstart
  rw [List.singleton_append, List.nil_append] at hall
  rw [hall, seat.posts_filter, hevents, List.filterMap_map]
  congr 1
  apply List.filterMap_congr
  intro op hop
  exact SystemOp.event_seen seat hprost (hops op hop) (carrier op)

end Wire

/-! ### A sample run -/

section Samples

/-- A watch and a cancel that travel as the sample bytes, with a termination between. -/
def sampleOps : List (SystemOp ℕ) :=
  [.remoteWatch ⟨⟨"n1"⟩, 1⟩ ⟨⟨"n2"⟩, 2⟩, .registerCancel "r1" 7, .notifyTerminated ⟨⟨"n1"⟩, 1⟩,
    .cancelRequest ⟨⟨"n1"⟩, 1⟩ "r1"]

theorem sampleOps_sendable : ∀ op ∈ sampleOps, op.Sendable sampleProst := by
  have hn1 : (⟨⟨"n1"⟩, 1⟩ : ActorId).Complete := by
    show "n1" ≠ ""
    decide
  have hn2 : (⟨⟨"n2"⟩, 2⟩ : ActorId).Complete := by
    show "n2" ≠ ""
    decide
  have hwatch : encodeWatchRequest sampleProst ⟨⟨⟨"n1"⟩, 1⟩, ⟨⟨"n2"⟩, 2⟩⟩ = sampleActorIds :=
    Codecs.recode_self
  have hcancel : encodeCancelRequest sampleProst ⟨⟨⟨"n1"⟩, 1⟩, some "r1"⟩ =
      [0x0a, 0x06, 0x0a, 0x02, 0x6e, 0x31, 0x10, 0x01, 0x12, 0x02, 0x72, 0x31] :=
    Codecs.recode_self
  simp only [sampleOps, List.forall_mem_cons, SystemOp.Sendable, SystemOp.Complete, SystemOp.wire,
    Option.some.injEq, Prod.mk.injEq]
  refine ⟨⟨⟨hn1, hn2⟩, ?_⟩, ⟨trivial, ?_⟩, ⟨trivial, ?_⟩, ⟨hn1, ?_⟩, ?_⟩
  · rintro messageType body ⟨-, rfl⟩
    rw [hwatch]
    decide
  · rintro messageType body h
    cases h
  · rintro messageType body h
    cases h
  · rintro messageType body ⟨-, rfl⟩
    rw [hcancel]
    decide
  · rintro op h
    cases h

end Samples

/-! ### Remote watches -/

/-- What the watch manager owes for the messages it received: every notification and every
count that it has answered is the one of the messages before it, and it has answered all
that is not in its mailbox. -/
structure WatchesExact (msgs : List WatchManagerMsg)
    (srv : Server WatchManager WatchManagerMsg WatchManagerReply) : Prop where
  answered : srv.answers.map Prod.fst ++ srv.mailbox = msgs
  notified : ∀ (i : ℕ) terminated (reply : WatchManagerReply),
    srv.answers[i]? = some (.onTerminated terminated, reply) →
    ∃ set, reply = .notifications set ∧ ∀ n, n ∈ set ↔
      n.terminated = terminated ∧ Watching (msgs.take i) terminated n.watcher
  counted : ∀ (i : ℕ) (reply : WatchManagerReply),
    srv.answers[i]? = some (.getWatchedCount, reply) →
    reply = .count (Set.ncard {target | ∃ watcher, Watching (msgs.take i) target watcher})

/-- **Remote watches are exact.**  Whatever is routed, cast and scheduled in between, a
termination notifies exactly the watchers whose last message about the target was a watch,
among the messages that were acknowledged before the termination was posted. -/
theorem remote_watches_exact (prost : Prost) (nodeId : NodeId)
    (events : List (SystemNode.Event A T)) :
    Option.Rel WatchesExact (watchSeat.received prost events)
      ((run (SystemNode.step prost) (.withNodeId nodeId) events).control.map
        ControlPlane.watchManager) := by
  apply rel_of_serves _ (watchSeat.serves prost nodeId events)
  intro msgs srv h
  refine ⟨h.answered, ?_, ?_⟩
  · intro i terminated reply hanswer
    obtain ⟨-, rfl⟩ := h.answer hanswer
    refine ⟨_, rfl, fun n => ?_⟩
    rw [WatchManager.mem_notifications]
    exact and_congr_right fun _ => watching_after (msgs.take i) terminated n.watcher
  · intro i reply hanswer
    obtain ⟨-, rfl⟩ := h.answer hanswer
    exact congrArg WatchManagerReply.count (watchedCount_after (msgs.take i))

/-! ### The directory and the counts -/

/-- What the node directory owes: its answers are those of the connects and disconnects
before them. -/
structure DirectoryExact (msgs : List NodeDirectoryMsg)
    (srv : Server NodeDirectory NodeDirectoryMsg NodeDirectoryReply) : Prop where
  answered : srv.answers.map Prod.fst ++ srv.mailbox = msgs
  info : ∀ (i : ℕ) n (reply : NodeDirectoryReply),
    srv.answers[i]? = some (.getPeerInfo n, reply) → reply = .info (peerAfter (msgs.take i) n)
  connected : ∀ (i : ℕ) n (reply : NodeDirectoryReply),
    srv.answers[i]? = some (.isConnected n, reply) →
    ∃ b, reply = .connected b ∧
      (b = true ↔ (peerAfter (msgs.take i) n).map PeerInfo.status = some .connected)
  peers : ∀ (i : ℕ) (reply : NodeDirectoryReply),
    srv.answers[i]? = some (.getPeerCount, reply) →
    reply = .count (Set.ncard {n | joins (msgs.take i) n ≠ []})
  connectedPeers : ∀ (i : ℕ) (reply : NodeDirectoryReply),
    srv.answers[i]? = some (.getConnectedCount, reply) →
    reply = .count
      (Set.ncard {n | (peerAfter (msgs.take i) n).map PeerInfo.status = some .connected})

/-- What the cancel manager owes for a query of its count. -/
structure ActiveExact (msgs : List (CancelManagerMsg T))
    (srv : Server (CancelManager T) (CancelManagerMsg T) (CancelManagerReply T)) : Prop where
  answered : srv.answers.map Prod.fst ++ srv.mailbox = msgs
  active : ∀ (i : ℕ) (reply : CancelManagerReply T),
    srv.answers[i]? = some (.getActiveCount, reply) →
    reply = .count (Set.ncard {requestId | activeToken (msgs.take i) requestId ≠ none})

/-- **Queries of the control plane are exact.**  Whatever is routed, cast and scheduled in
between, the directory answers for a peer with the status of the last connect or disconnect
that was acknowledged before the query, and the last address that a connect brought, and its
counts are those of the peers that ever connected and that are connected; the cancel manager
counts the requests whose last message registered a token. -/
theorem control_queries_exact (prost : Prost) (nodeId : NodeId)
    (events : List (SystemNode.Event A T)) :
    Option.Rel DirectoryExact ((directorySeat (T := T)).received prost events)
      ((run (SystemNode.step prost) (.withNodeId nodeId) events).control.map
        ControlPlane.nodeDirectory) ∧
    Option.Rel ActiveExact ((cancelSeat (T := T)).received prost events)
      ((run (SystemNode.step prost) (.withNodeId nodeId) events).control.map
        ControlPlane.cancelManager) := by
  constructor
  · apply rel_of_serves _ (directorySeat.serves prost nodeId events)
    intro msgs srv h
    refine ⟨h.answered, ?_, ?_, ?_, ?_⟩
    · intro i n reply hanswer
      obtain ⟨-, rfl⟩ := h.answer hanswer
      exact congrArg NodeDirectoryReply.info (directory_after (msgs.take i) n)
    · intro i n reply hanswer
      obtain ⟨-, rfl⟩ := h.answer hanswer
      refine ⟨_, rfl, ?_⟩
      rw [← directory_after, Option.map_eq_some_iff]
      exact NodeDirectory.isConnected_iff _ n
    · intro i reply hanswer
      obtain ⟨-, rfl⟩ := h.answer hanswer
      exact congrArg NodeDirectoryReply.count (peerCount_after (msgs.take i))
    · intro i reply hanswer
      obtain ⟨-, rfl⟩ := h.answer hanswer
      exact congrArg NodeDirectoryReply.count (connectedCount_after (msgs.take i))
  · apply rel_of_serves _ (cancelSeat.serves prost nodeId events)
    intro msgs srv h
    refine ⟨h.answered, ?_⟩
    intro i reply hanswer
    obtain ⟨-, rfl⟩ := h.answer hanswer
    exact congrArg CancelManagerReply.count (activeCount_after (msgs.take i))

/-! ### Remote cancellation -/

/-- The outcomes of a routed cancel. -/
inductive CancelOutcome
  | cancelAcknowledged
  | cancelNotFound (reason : String)
deriving DecidableEq

def CancelOutcome.ofResponse : CancelResponse → CancelOutcome
  | .acknowledged => .cancelAcknowledged
  | .notFound reason => .cancelNotFound reason

/-- What the call that waits for message number `ticket` of the cancel manager returns, and
the token that was cancelled for it; nothing as long as it waits. -/
def cancelOutcome (c : ControlPlane T) (ticket : ℕ) : Option (CancelOutcome × Option T) :=
  match c.cancelManager.answers[ticket]? with
  | some (_, .response response cancelled) => some (.ofResponse response, cancelled)
  | _ => none

/-- An envelope that is posted to the cancel manager is a cancel with a request id. -/
theorem systemPost_cancel {prost : Prost} {envelope : WireEnvelope} {msg : CancelManagerMsg T}
    (h : systemPost prost envelope = .ok (.cancelManager msg)) :
    ∃ requestId, msg = .cancel requestId := by
  -- the other arms post to other actors
  have hmap : ∀ {α : Type} (x : Except RoutingError α) (f : α → SystemPost T),
      (∀ a, f a ≠ .cancelManager msg) → x.map f ≠ .ok (.cancelManager msg) := by
    intro α x f hf hx
    cases x with
    | error e => cases hx
    | ok a => exact hf a (Except.ok.inj hx)
  rw [systemPost] at h
  split at h
  · exact absurd h (hmap _ _ fun _ hc => by cases hc)
  split at h
  · exact absurd h (hmap _ _ fun _ hc => by cases hc)
  split at h
  · exact absurd h (hmap _ _ fun _ hc => by cases hc)
  split at h
  · obtain ⟨request, -, hpost⟩ := Codecs.bind_eq_ok.mp h
    rw [cancelPost] at hpost
    cases hid : request.requestId with
    | none => rw [hid] at hpost; cases hpost
    | some requestId => rw [hid] at hpost; cases hpost; exact ⟨requestId, rfl⟩
  split at h
  · exact absurd h (hmap _ _ fun _ hc => by cases hc)
  split at h
  · exact absurd h (hmap _ _ fun _ hc => by cases hc)
  · cases h

/-- The call waits for a cancel: its message was accepted, and its ticket is the number of
messages that were posted before. -/
theorem route_awaitingCancel {prost : Prost} {s s' : SystemNode A T} {envelope : WireEnvelope}
    {ticket : ℕ} (h : s.routeSystemEnvelope prost envelope = .ok (s', .awaitingCancel ticket)) :
    ∃ refs requestId, s.control = some refs ∧
      systemPost (T := T) prost envelope = .ok (.cancelManager (.cancel requestId)) ∧
      accepted (T := T) prost envelope = some (.cancelManager (.cancel requestId)) ∧
      ticket = refs.cancelManager.answers.length + refs.cancelManager.mailbox.length := by
  obtain ⟨u, hvalid, h⟩ := Codecs.bind_eq_ok.mp h
  cases hcontrol : s.control with
  | none => rw [hcontrol] at h; cases h
  | some refs =>
    rw [hcontrol] at h
    obtain ⟨msg, hmsg, hrouted⟩ := Codecs.bind_eq_ok.mp h
    have hrouted := (Prod.mk.inj (Except.ok.inj hrouted)).2
    cases msg with
    | spawnManager request => cases hrouted
    | watchManager msg => cases hrouted
    | nodeDirectory msg => cases hrouted
    | cancelManager msg =>
      obtain ⟨requestId, rfl⟩ := systemPost_cancel hmsg
      refine ⟨refs, requestId, rfl, hmsg, ?_, (Routed.awaitingCancel.inj hrouted).symm⟩
      rw [accepted, hvalid]
      show Except.toOption (systemPost prost envelope) = _
      rw [hmsg]
      rfl

/-- What a cancel of the request is owed, with the token that is registered for it. -/
def owedOutcome (requestId : String) : Option T → CancelOutcome × Option T
  | some token => (.cancelAcknowledged, some token)
  | none => (.cancelNotFound ("no active request with id '" ++ requestId ++ "'"), none)

theorem cancel_reply (m : CancelManager T) (requestId : String) :
    (CancelOutcome.ofResponse (m.cancel requestId).2.1, (m.cancel requestId).2.2) =
      owedOutcome requestId (m.tokens.lookup requestId) := by
  rw [CancelManager.cancel]
  cases m.tokens.lookup requestId with
  | none => rfl
  | some token => rfl

/-- **A routed cancel gets the reply to its own message.**  Whatever is routed, cast and
scheduled before and after it, the call returns once the cancel manager has come to its
message; it acknowledges exactly if the last message about the request that was posted
before has registered a token, and that token is the one that is cancelled. -/
theorem cancel_outcome_exact (prost : Prost) (nodeId : NodeId)
    (past later : List (SystemNode.Event A T)) (envelope : WireEnvelope) {s' : SystemNode A T}
    {ticket : ℕ}
    (hroute : (run (SystemNode.step prost) (.withNodeId nodeId) past).routeSystemEnvelope prost
      envelope = .ok (s', .awaitingCancel ticket))
    (hlater : ∀ poolSize, .spawn (.startSystemActors poolSize) ∉ later) :
    ∃ msgs requestId c, cancelSeat.received prost past = some msgs ∧
      systemPost (T := T) prost envelope = .ok (.cancelManager (.cancel requestId)) ∧
      (run (SystemNode.step prost) (.withNodeId nodeId)
        (past ++ .route envelope :: later)).control = some c ∧
      cancelOutcome c ticket =
        if ticket < c.cancelManager.answers.length then
          some (owedOutcome requestId (activeToken msgs requestId))
        else none := by
  obtain ⟨refs, requestId, hrefs, hpost, haccepted, hticket⟩ := route_awaitingCancel hroute
  have hpast := cancelSeat.serves prost nodeId past
  rw [hrefs] at hpast
  cases hmsgs : (cancelSeat (T := T)).received prost past with
  | none => rw [hmsgs] at hpast; cases hpast
  | some msgs =>
  rw [hmsgs] at hpast
  cases hpast with
  | some hserves =>
  -- the ticket is the place of the message among all that are posted
  have hlength : ticket = msgs.length := by
    rw [hticket, ← hserves.answered, List.length_append, List.length_map]
    rfl
  have hall := cancelSeat.serves prost nodeId (past ++ .route envelope :: later)
  have hroutedEvent : (cancelSeat (T := T)).event (A := A) prost (.route envelope) =
      some (.post (.cancel requestId)) := by
    rw [Seat.event, haccepted]
    rfl
  rw [cancelSeat.received_append prost hmsgs (by simpa using hlater), List.filterMap_cons,
    hroutedEvent] at hall
  cases hcontrol : (run (SystemNode.step prost) (.withNodeId nodeId)
      (past ++ .route envelope :: later)).control with
  | none => rw [hcontrol] at hall; cases hall
  | some c =>
  rw [hcontrol] at hall
  cases hall with
  | some hfinal =>
  refine ⟨msgs, requestId, c, rfl, hpost, rfl, ?_⟩
  by_cases hdone : ticket < c.cancelManager.answers.length
  · rw [if_pos hdone]
    obtain ⟨⟨m, reply⟩, hanswer⟩ : ∃ entry, c.cancelManager.answers[ticket]? = some entry :=
      ⟨_, List.getElem?_eq_getElem hdone⟩
    obtain ⟨hm, hreply⟩ := hfinal.answer hanswer
    simp only [hlength, List.filterMap_cons, Servers.Event.posted,
      List.getElem?_append_right le_rfl, Nat.sub_self, List.getElem?_cons_zero,
      Option.some.injEq] at hm
    rw [hlength, List.take_left, ← hm] at hreply
    rw [cancelOutcome, hanswer, hreply, ← token_after]
    exact congrArg some (cancel_reply (after CancelManager.handle .new msgs) requestId)
  · rw [if_neg hdone, cancelOutcome, List.getElem?_eq_none (Nat.le_of_not_lt hdone)]

/-- A node with a token for the request `r1`. -/
def tokenForR1 : List (SystemNode.Event ℕ ℕ) :=
  [.spawn (.startSystemActors none), .cast (.cancelManager (.register "r1" 7))]

/-- The sample cancel, as an envelope. -/
noncomputable def sampleCancel : WireEnvelope :=
  { sampleAsk with
    messageType := systemMsgTypeCancel
    body := encodeCancelRequest sampleProst ⟨⟨⟨"n1"⟩, 1⟩, some "r1"⟩ }

/-- The sample cancel on a node that has a token for it. -/
theorem cancel_outcome_exact_r1 :
    ∃ s', (run (SystemNode.step sampleProst) (.withNodeId ⟨"n1"⟩) tokenForR1).routeSystemEnvelope
        sampleProst sampleCancel = .ok (s', .awaitingCancel 1) ∧
      ∃ msgs requestId c, cancelSeat.received sampleProst tokenForR1 = some msgs ∧
        systemPost (T := ℕ) sampleProst sampleCancel =
          .ok (.cancelManager (.cancel requestId)) ∧
        (run (SystemNode.step sampleProst) (.withNodeId ⟨"n1"⟩)
          (tokenForR1 ++ .route sampleCancel ::
            [.work .cancelManager, .work .cancelManager])).control = some c ∧
        cancelOutcome c 1 =
          if 1 < c.cancelManager.answers.length then
            some (owedOutcome requestId (activeToken msgs requestId))
          else none := by
  have hsendable := sampleOps_sendable (.cancelRequest ⟨⟨"n1"⟩, 1⟩ "r1") (by simp [sampleOps])
  have haccepted : accepted sampleProst sampleCancel =
      some (SystemOp.cancelRequest (T := ℕ) ⟨⟨"n1"⟩, 1⟩ "r1").post :=
    SystemOp.accepted_wire sampleProst_lawful hsendable rfl
  have hroute := route_of_accepted
    (s := run (SystemNode.step sampleProst) (.withNodeId ⟨"n1"⟩) tokenForR1) rfl haccepted
  exact ⟨_, hroute, cancel_outcome_exact sampleProst ⟨"n1"⟩ tokenForR1 _ sampleCancel hroute
    (by intro poolSize h; simp at h)⟩

/-! ### The copies agree -/

/-- The notifications of an answer. -/
def WatchManagerReply.notified : WatchManagerReply → Option (Finset WatchNotification)
  | .notifications set => some set
  | _ => Option.none

/-- The response of an answer, with the token that it cancelled. -/
def CancelManagerReply.responded : CancelManagerReply T → Option (CancelResponse × Option T)
  | .response given cancelled => some (given, cancelled)
  | _ => Option.none

/-- The runtime's own managers are those of the sequential execution of the messages. -/
structure Sequential (ops : List (SystemOp T)) (m : PlainManagers T) : Prop where
  watchManager : m.watchManager =
    after WatchManager.handle .new (ops.filterMap fun op => watchSeat.pick op.post)
  cancelManager : m.cancelManager =
    after CancelManager.handle .new (ops.filterMap fun op => cancelSeat.pick op.post)
  directory : m.cluster.directory =
    after NodeDirectory.handle .new (ops.filterMap fun op => directorySeat.pick op.post)
  notified : m.notified =
    (transcript WatchManager.handle .new (ops.filterMap fun op => watchSeat.pick op.post)).filterMap
      fun answer => answer.2.notified
  responses : m.responses =
    (transcript CancelManager.handle .new
      (ops.filterMap fun op => cancelSeat.pick op.post)).filterMap fun answer => answer.2.responded

theorem sequential_run (ops : List (SystemOp T)) :
    Sequential ops (run PlainManagers.step .new ops) := by
  induction ops using List.reverseRecOn with
  | nil => exact ⟨rfl, rfl, rfl, rfl, rfl⟩
  | append_singleton ops op ih =>
    rw [run_append]
    show Sequential (ops ++ [op]) ((run PlainManagers.step .new ops).step op)
    generalize run PlainManagers.step .new ops = m at ih
    obtain ⟨hwatch, hcancel, hdirectory, hnotified, hresponses⟩ := ih
    constructor
    · rw [List.filterMap_append, after_append, ← hwatch]
      cases op <;> rfl
    · rw [List.filterMap_append, after_append, ← hcancel]
      cases op <;> rfl
    · rw [List.filterMap_append, after_append, ← hdirectory]
      cases op with
      | connectPeer peerId address => exact Cluster.directory_connectPeer m.cluster peerId address
      | disconnectPeer peerId => exact Cluster.directory_disconnectPeer m.cluster peerId
      | _ => rfl
    · rw [List.filterMap_append, transcript_append, List.filterMap_append, ← hwatch, ← hnotified]
      cases op with
      | notifyTerminated terminated => rfl
      | _ => exact (List.append_nil m.notified).symm
    · rw [List.filterMap_append, transcript_append, List.filterMap_append, ← hcancel, ← hresponses]
      cases op with
      | cancelRequest target requestId => rfl
      | _ => exact (List.append_nil m.responses).symm

/-- The actors of the control plane have handled all their messages. -/
def ControlPlane.Drained (c : ControlPlane T) : Prop :=
  c.watchManager.mailbox = [] ∧ c.cancelManager.mailbox = [] ∧ c.nodeDirectory.mailbox = []

/-- **The two copies of the managers agree.**  Apply a list of operations to the runtime's
own managers, and send the same operations to the native actors, as envelopes or messages,
with any work in between: once the mailboxes are empty, the actors hold the same watches,
tokens and peers, and have given the same notifications and responses. -/
theorem dual_paths_agree (prost : Prost) (hprost : prost.Lawful) (nodeId : NodeId)
    (poolSize : Option ℕ) (carrier : SystemOp T → WireEnvelope) (ops : List (SystemOp T))
    (hops : ∀ op ∈ ops, op.Sendable prost) (events : List (SystemNode.Event A T))
    (hevents : (events.filter fun e => !e.quiet) = ops.map fun op => op.event prost (carrier op)) :
    ∃ c, (run (SystemNode.step prost) (.withNodeId nodeId)
        (.spawn (.startSystemActors poolSize) :: events)).control = some c ∧
      (c.Drained →
        let plain := run PlainManagers.step .new ops
        c.watchManager.state = plain.watchManager ∧
        c.cancelManager.state = plain.cancelManager ∧
        c.nodeDirectory.state = plain.cluster.directory ∧
        (c.watchManager.answers.filterMap fun answer => answer.2.notified) = plain.notified ∧
        (c.cancelManager.answers.filterMap fun answer => answer.2.responded) =
          plain.responses) := by
  have hwatch := watchSeat.serves prost nodeId (.spawn (.startSystemActors poolSize) :: events)
  have hcancel := cancelSeat.serves prost nodeId (.spawn (.startSystemActors poolSize) :: events)
  have hdirectory :=
    directorySeat.serves prost nodeId (.spawn (.startSystemActors poolSize) :: events)
  rw [Seat.received_ops _ hprost poolSize carrier hops hevents] at hwatch hcancel hdirectory
  cases hcontrol : (run (SystemNode.step prost) (.withNodeId nodeId)
      (.spawn (.startSystemActors poolSize) :: events)).control with
  | none => rw [hcontrol] at hwatch; cases hwatch
  | some c =>
  rw [hcontrol] at hwatch hcancel hdirectory
  cases hwatch with
  | some hwatch =>
  cases hcancel with
  | some hcancel =>
  cases hdirectory with
  | some hdirectory =>
  refine ⟨c, rfl, fun hdrained => ?_⟩
  obtain ⟨hwatchers, hnotified⟩ := hwatch.drained hdrained.1
  obtain ⟨htokens, hresponses⟩ := hcancel.drained hdrained.2.1
  have hpeers := (hdirectory.drained hdrained.2.2).1
  have hplain := sequential_run ops
  refine ⟨hwatchers.trans hplain.watchManager.symm, htokens.trans hplain.cancelManager.symm,
    hpeers.trans hplain.directory.symm, ?_, ?_⟩
  · rw [hplain.notified]
    exact congrArg _ hnotified
  · rw [hplain.responses]
    exact congrArg _ hresponses

/-- The sample operations, with the work in an order of its own. -/
noncomputable def sampleEvents : List (SystemNode.Event ℕ ℕ) :=
  match sampleOps.map fun op => op.event sampleProst sampleAsk with
  | [watch, register, terminated, cancel] =>
    [watch, register, terminated, .work .watchManager, cancel, .work .cancelManager,
      .work .cancelManager, .work .watchManager]
  | _ => []

/-- The sample operations at both copies: the watcher is notified and the token cancelled. -/
theorem dual_paths_agree_samples :
    sampleProst.Lawful ∧ (∀ op ∈ sampleOps, op.Sendable sampleProst) ∧
      (sampleEvents.filter fun e => !e.quiet) =
        (sampleOps.map fun op => op.event sampleProst sampleAsk) ∧
      ∃ c, (run (SystemNode.step sampleProst) (.withNodeId ⟨"n1"⟩)
          (.spawn (.startSystemActors none) :: sampleEvents)).control = some c ∧
        (c.Drained →
          let plain := run PlainManagers.step .new sampleOps
          c.watchManager.state = plain.watchManager ∧
          c.cancelManager.state = plain.cancelManager ∧
          c.nodeDirectory.state = plain.cluster.directory ∧
          (c.watchManager.answers.filterMap fun answer => answer.2.notified) = plain.notified ∧
          (c.cancelManager.answers.filterMap fun answer => answer.2.responded) =
            plain.responses) :=
  ⟨sampleProst_lawful, sampleOps_sendable, rfl,
    dual_paths_agree sampleProst sampleProst_lawful ⟨"n1"⟩ none (fun _ => sampleAsk) sampleOps
      sampleOps_sendable sampleEvents rfl⟩

end Dactor
