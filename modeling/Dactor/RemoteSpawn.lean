/-
Dactor/RemoteSpawn.lean

The two remote-spawn paths of the ractor adapter (`dactor-ractor/runtime.rs`,
`dactor-ractor/system_actors.rs`, `type_registry.rs`).

`handle_spawn_request` asks the `SpawnManager` in the runtime; a SPAWN envelope
goes to one of the native `SpawnManagerActor`s, each with a registry of its own
and a mailbox.  `register_factory` writes the first registry and posts to every
native actor there is.  The native actors are started with empty registries:
what was registered before is not forwarded (`spawn_paths_differ`), so the two
paths agree on a request exactly when its type was registered after the last
start, or cannot be spawned at all (`spawn_paths_agree_iff`).
-/
import Dactor.Runs
import Dactor.Proto

namespace Dactor

open Runs

variable {A : Type}

/-- A factory: it deserializes the arguments and constructs the actor. -/
abbrev FactoryFn (A : Type) := Bytes → Except SerializationError A

/-! ### Registries and managers -/

/-- The factories of a `TypeRegistry`, by type name. -/
structure TypeRegistry (A : Type) where
  factories : Finmap fun _ : String => FactoryFn A

namespace TypeRegistry

def new : TypeRegistry A := ⟨∅⟩

def registerFactory (r : TypeRegistry A) (typeName : String) (factory : FactoryFn A) :
    TypeRegistry A :=
  ⟨r.factories.insert typeName factory⟩

def createActor (r : TypeRegistry A) (typeName : String) (argsBytes : Bytes) :
    Except SerializationError A :=
  match r.factories.lookup typeName with
  | none => .error ⟨"no actor factory registered for '" ++ typeName ++ "'"⟩
  | some factory => factory argsBytes

end TypeRegistry

def SerializationError.display (e : SerializationError) : String :=
  "serialization error: " ++ e.message

structure SpawnManager (A : Type) where
  typeRegistry : TypeRegistry A
  spawned : List ActorId

namespace SpawnManager

def new (registry : TypeRegistry A) : SpawnManager A := ⟨registry, []⟩

def createActor (m : SpawnManager A) (request : SpawnRequest) : Except SerializationError A :=
  m.typeRegistry.createActor request.typeName request.argsBytes

def recordSpawn (m : SpawnManager A) (id : ActorId) : SpawnManager A :=
  { m with spawned := m.spawned ++ [id] }

def registerFactory (m : SpawnManager A) (typeName : String) (factory : FactoryFn A) :
    SpawnManager A :=
  { m with typeRegistry := m.typeRegistry.registerFactory typeName factory }

/-- Create the actor and give it the next local id of the node.  The runtime and the
native actor have this code each. -/
def serve (m : SpawnManager A) (nodeId : NodeId) (nextLocal : UInt64) (request : SpawnRequest) :
    Except SpawnResponse (ActorId × A) × SpawnManager A × UInt64 :=
  match m.createActor request with
  | .ok actor =>
    (.ok (⟨nodeId, nextLocal⟩, actor), m.recordSpawn ⟨nodeId, nextLocal⟩, nextLocal + 1)
  | .error e => (.error (.failure request.requestId e.display), m, nextLocal)

end SpawnManager

/-! ### The native actors -/

inductive SpawnManagerMsg (A : Type)
  | handleRequest (request : SpawnRequest)
  | registerFactory (typeName : String) (factory : FactoryFn A)
  | getSpawnedActors

/-- A `SpawnManagerActor`: its state, and the messages it has not processed yet. -/
structure SpawnManagerActor (A : Type) where
  manager : SpawnManager A
  mailbox : List (SpawnManagerMsg A)

namespace SpawnManagerActor

/-- `handle`, with the counter of local ids that all share. -/
def handle (a : SpawnManagerActor A) (nodeId : NodeId) (nextLocal : UInt64) :
    SpawnManagerMsg A → SpawnManagerActor A × UInt64
  | .handleRequest request =>
    ({ a with manager := (a.manager.serve nodeId nextLocal request).2.1 },
      (a.manager.serve nodeId nextLocal request).2.2)
  | .registerFactory typeName factory =>
    ({ a with manager := a.manager.registerFactory typeName factory }, nextLocal)
  | .getSpawnedActors => (a, nextLocal)

/-- Handle the oldest message. -/
def process (a : SpawnManagerActor A) (nodeId : NodeId) (nextLocal : UInt64) :
    SpawnManagerActor A × UInt64 :=
  match a.mailbox with
  | [] => (a, nextLocal)
  | msg :: rest => { a with mailbox := rest }.handle nodeId nextLocal msg

def cast (a : SpawnManagerActor A) (msg : SpawnManagerMsg A) : SpawnManagerActor A :=
  { a with mailbox := a.mailbox ++ [msg] }

/-- Handle the messages of the mailbox, oldest first, and then `request`: the answer that
the sender of `request` awaits. -/
def answer (a : SpawnManagerActor A) (nodeId : NodeId) (nextLocal : UInt64)
    (request : SpawnRequest) : Except SpawnResponse (ActorId × A) :=
  let last := a.mailbox.foldl (fun s msg => s.1.handle nodeId s.2 msg) (a, nextLocal)
  (last.1.manager.serve nodeId last.2 request).1

end SpawnManagerActor

/-- A `SystemActorHandle`: one actor is a pool of one, whose counter does not matter. -/
structure SystemActorHandle (A : Type) where
  workers : List (SpawnManagerActor A)
  counter : UInt64
  nonempty : workers ≠ []

/-! ### The runtime -/

/-- The parts of a `RactorRuntime` that spawn requests use. -/
structure SpawnRuntime (A : Type) where
  nodeId : NodeId
  nextLocal : UInt64
  spawnManager : SpawnManager A
  systemActors : Option (SystemActorHandle A)

inductive RoutingOutcome
  | spawnCompleted (requestId : String) (actorId : ActorId)
  | spawnFailed (requestId : String) (error : String)
deriving DecidableEq

structure RoutingError where
  message : String
deriving DecidableEq

namespace SpawnRuntime

def withNodeId (nodeId : NodeId) : SpawnRuntime A where
  nodeId
  nextLocal := 1
  spawnManager := .new .new
  systemActors := none

/-- A freshly started `SpawnManagerActor`: its registry is a new one. -/
def freshActor : SpawnManagerActor A := ⟨.new .new, []⟩

/-- `start_system_actors_with_config`; `start_system_actors` leaves the size out. -/
def startSystemActors (s : SpawnRuntime A) (poolSize : Option ℕ) : SpawnRuntime A :=
  { s with
    systemActors := some
      { workers := List.replicate (max (poolSize.getD 1) 1) freshActor
        counter := 0
        nonempty := by simp } }

def registerFactory (s : SpawnRuntime A) (typeName : String) (factory : FactoryFn A) :
    SpawnRuntime A :=
  { s with
    spawnManager := s.spawnManager.registerFactory typeName factory
    systemActors := s.systemActors.map fun h =>
      { workers := h.workers.map fun a => a.cast (.registerFactory typeName factory)
        counter := h.counter
        nonempty := by simp [h.nonempty] } }

def handleSpawnRequest (s : SpawnRuntime A) (request : SpawnRequest) :
    Except SpawnResponse (ActorId × A) × SpawnRuntime A :=
  let r := s.spawnManager.serve s.nodeId s.nextLocal request
  (r.1, { s with spawnManager := r.2.1, nextLocal := r.2.2 })

/-- The index that the round robin of the handle chooses. -/
def servingIndex (h : SystemActorHandle A) : ℕ := h.counter.toNat % h.workers.length

/-- The SPAWN arm of `route_system_envelope`, for the body of the envelope: the outcome once
the actor that serves it has come to the request. -/
def routeSpawn (prost : Prost) (s : SpawnRuntime A) (body : Bytes) :
    Except RoutingError RoutingOutcome :=
  match s.systemActors with
  | none => .error ⟨"system actors not started"⟩
  | some h =>
    match decodeSpawnRequest prost body with
    | .error e => .error ⟨"decode SpawnRequest: " ++ e.display⟩
    | .ok request =>
      match h.workers[servingIndex h]? with
      | none => .error ⟨"index out of bounds"⟩ -- a panic; the index is in range
      | some a =>
        match a.answer s.nodeId s.nextLocal request with
        | .ok created => .ok (.spawnCompleted request.requestId created.1)
        | .error (.failure requestId error) => .ok (.spawnFailed requestId error)
        | .error (.success _ _) => -- `unreachable!`
          .error ⟨"SpawnResult::Err always wraps SpawnResponse::Failure"⟩

/-- The posting of a request by `route_system_envelope`. -/
def postRequest (s : SpawnRuntime A) (request : SpawnRequest) : SpawnRuntime A :=
  { s with
    systemActors := s.systemActors.map fun h =>
      { workers := h.workers.modify (servingIndex h) fun a => a.cast (.handleRequest request)
        counter := h.counter + 1
        nonempty := by simp [h.nonempty] } }

/-- Native actor `i` processes one message. -/
def process (s : SpawnRuntime A) (i : ℕ) : SpawnRuntime A :=
  match s.systemActors with
  | none => s
  | some h =>
    match h.workers[i]? with
    | none => s
    | some a =>
      { s with
        nextLocal := (a.process s.nodeId s.nextLocal).2
        systemActors := some
          { workers := h.workers.set i (a.process s.nodeId s.nextLocal).1
            counter := h.counter
            nonempty := by simp [h.nonempty] } }

/-! ### Runs -/

inductive Call (A : Type)
  | registerFactory (typeName : String) (factory : FactoryFn A)
  | startSystemActors (poolSize : Option ℕ)
  | handleSpawnRequest (request : SpawnRequest)
  | postRequest (request : SpawnRequest)
  | process (i : ℕ)

def step (s : SpawnRuntime A) : Call A → SpawnRuntime A
  | .registerFactory typeName factory => s.registerFactory typeName factory
  | .startSystemActors poolSize => s.startSystemActors poolSize
  | .handleSpawnRequest request => (s.handleSpawnRequest request).2
  | .postRequest request => s.postRequest request
  | .process i => s.process i

/-- The native actors have processed their mailboxes. -/
def Drained (s : SpawnRuntime A) : Prop :=
  ∀ h ∈ s.systemActors, ∀ a ∈ h.workers, a.mailbox = []

/-- The factory that was registered last for a type. -/
def registered (calls : List (Call A)) (typeName : String) : Option (FactoryFn A) :=
  calls.foldl (fun last call =>
    match call with
    | .registerFactory name factory => if name = typeName then some factory else last
    | _ => last) none

/-- The calls after the last start, if there was one. -/
def sinceStart (calls : List (Call A)) : Option (List (Call A)) :=
  calls.foldl (fun since call =>
    match call with
    | .startSystemActors _ => some []
    | call => since.map (· ++ [call])) none

/-- The type of the request was registered after the last start, or the request cannot be
spawned at all: no factory for its type, or one that refuses the arguments. -/
def KnownSinceStart (calls : List (Call A)) (request : SpawnRequest) : Prop :=
  ∀ factory actor, registered calls request.typeName = some factory →
    factory request.argsBytes = .ok actor →
    ∃ since, sinceStart calls = some since ∧ (registered since request.typeName).isSome

/-! ### Histories, one call at a time -/

theorem registered_append (past : List (Call A)) (call : Call A) (typeName : String) :
    registered (past ++ [call]) typeName =
      match call with
      | .registerFactory name factory =>
        if name = typeName then some factory else registered past typeName
      | _ => registered past typeName := by
  simp only [registered, List.foldl_append, List.foldl_cons, List.foldl_nil]

theorem sinceStart_append (past : List (Call A)) (call : Call A) :
    sinceStart (past ++ [call]) =
      match call with
      | .startSystemActors _ => some []
      | call => (sinceStart past).map (· ++ [call]) := by
  simp only [sinceStart, List.foldl_append, List.foldl_cons, List.foldl_nil]

/-- A registration since the last start is the last one of all. -/
theorem registered_of_sinceStart {calls since : List (Call A)} {typeName : String}
    {factory : FactoryFn A} (hsince : sinceStart calls = some since)
    (h : registered since typeName = some factory) :
    registered calls typeName = some factory := by
  induction calls using List.reverseRecOn generalizing since with
  | nil => cases hsince
  | append_singleton past call ih =>
    rw [sinceStart_append] at hsince
    rw [registered_append]
    cases call with
    | startSystemActors poolSize =>
      cases hsince
      cases h
    | registerFactory name f =>
      obtain ⟨old, hold, rfl⟩ := Option.map_eq_some_iff.mp hsince
      rw [registered_append] at h
      by_cases hname : name = typeName
      · simpa only [if_pos hname] using h
      · simp only [if_neg hname] at h ⊢
        exact ih hold h
    | handleSpawnRequest request =>
      obtain ⟨old, hold, rfl⟩ := Option.map_eq_some_iff.mp hsince
      rw [registered_append] at h
      exact ih hold h
    | postRequest request =>
      obtain ⟨old, hold, rfl⟩ := Option.map_eq_some_iff.mp hsince
      rw [registered_append] at h
      exact ih hold h
    | process i =>
      obtain ⟨old, hold, rfl⟩ := Option.map_eq_some_iff.mp hsince
      rw [registered_append] at h
      exact ih hold h

end SpawnRuntime

/-! ### What a native actor will know -/

theorem SpawnManager.serve_registry (m : SpawnManager A) (nodeId : NodeId) (nextLocal : UInt64)
    (request : SpawnRequest) :
    (m.serve nodeId nextLocal request).2.1.typeRegistry = m.typeRegistry := by
  unfold serve
  split <;> rfl

/-- A request succeeds exactly when there is a factory for its type and the factory takes
the arguments. -/
theorem SpawnManager.serve_isOk (m : SpawnManager A) (nodeId : NodeId) (nextLocal : UInt64)
    (request : SpawnRequest) :
    (∃ created, (m.serve nodeId nextLocal request).1 = .ok created) ↔
      ∃ factory actor, m.typeRegistry.factories.lookup request.typeName = some factory ∧
        factory request.argsBytes = .ok actor := by
  unfold serve createActor TypeRegistry.createActor
  cases hlook : m.typeRegistry.factories.lookup request.typeName with
  | none => simp
  | some factory =>
    cases hmake : factory request.argsBytes with
    | error e => simp [hmake]
    | ok actor => simp [hmake]

namespace SpawnManagerActor

/-- The factory for a type once the mailbox is processed. -/
def eventual (a : SpawnManagerActor A) (typeName : String) : Option (FactoryFn A) :=
  a.mailbox.foldl (fun last msg =>
    match msg with
    | .registerFactory name factory => if name = typeName then some factory else last
    | _ => last) (a.manager.typeRegistry.factories.lookup typeName)

theorem eventual_of_empty {a : SpawnManagerActor A} (h : a.mailbox = []) (typeName : String) :
    a.eventual typeName = a.manager.typeRegistry.factories.lookup typeName := by
  rw [eventual, h]
  rfl

theorem eventual_cast (a : SpawnManagerActor A) (msg : SpawnManagerMsg A) (typeName : String) :
    (a.cast msg).eventual typeName =
      match msg with
      | .registerFactory name factory =>
        if name = typeName then some factory else a.eventual typeName
      | _ => a.eventual typeName := by
  simp only [eventual, cast, List.foldl_append, List.foldl_cons, List.foldl_nil]

/-- Processing a message does not change what the actor will know. -/
theorem eventual_process (a : SpawnManagerActor A) (nodeId : NodeId) (nextLocal : UInt64)
    (typeName : String) :
    (a.process nodeId nextLocal).1.eventual typeName = a.eventual typeName := by
  unfold process
  split
  · rfl
  · rename_i msg rest hbox
    cases msg with
    | handleRequest request =>
      simp only [handle, eventual, hbox, List.foldl_cons, SpawnManager.serve_registry]
    | registerFactory name factory =>
      simp only [handle, eventual, hbox, List.foldl_cons, SpawnManager.registerFactory,
        TypeRegistry.registerFactory]
      by_cases hname : name = typeName
      · subst hname
        rw [Finmap.lookup_insert, if_pos rfl]
      · rw [Finmap.lookup_insert_of_ne _ (Ne.symm hname), if_neg hname]
    | getSpawnedActors => simp only [handle, eventual, hbox, List.foldl_cons]

/-- The answer of an actor with an empty mailbox. -/
theorem answer_isOk {a : SpawnManagerActor A} (h : a.mailbox = []) (nodeId : NodeId)
    (nextLocal : UInt64) (request : SpawnRequest) :
    (∃ created, a.answer nodeId nextLocal request = .ok created) ↔
      ∃ factory actor, a.eventual request.typeName = some factory ∧
        factory request.argsBytes = .ok actor := by
  rw [eventual_of_empty h, ← SpawnManager.serve_isOk a.manager nodeId nextLocal, answer, h]
  rfl

end SpawnManagerActor

namespace SpawnRuntime

/-- What the runtime has learned from the calls so far: its own registry has the last
factory of every type, each native actor will have the last one since the start. -/
structure Learned (past : List (Call A)) (s : SpawnRuntime A) : Prop where
  manager : ∀ typeName, s.spawnManager.typeRegistry.factories.lookup typeName =
    registered past typeName
  natives : ∀ h ∈ s.systemActors, ∃ since, sinceStart past = some since ∧
    ∀ a ∈ h.workers, ∀ typeName, a.eventual typeName = registered since typeName
  dormant : s.systemActors = none → sinceStart past = none

/-- A call that changes neither history nor registries keeps what was learned, when each
native actor afterwards will know what one of them would have known before. -/
theorem Learned.of_neutral {past : List (Call A)} {s s' : SpawnRuntime A} (h : Learned past s)
    {call : Call A} (hreg : ∀ calls typeName,
      registered (calls ++ [call]) typeName = registered calls typeName)
    (hstart : sinceStart (past ++ [call]) = (sinceStart past).map (· ++ [call]))
    (hmanager : s'.spawnManager.typeRegistry = s.spawnManager.typeRegistry)
    (hdormant : s'.systemActors = none → s.systemActors = none)
    (hnatives : ∀ h' ∈ s'.systemActors, ∃ h ∈ s.systemActors, ∀ a' ∈ h'.workers,
      ∃ a ∈ h.workers, a'.eventual = a.eventual) :
    Learned (past ++ [call]) s' where
  manager typeName := by rw [hmanager, h.manager, hreg]
  natives h' hh' := by
    obtain ⟨handle, hhandle, hworkers⟩ := hnatives h' hh'
    obtain ⟨since, hsince, hknown⟩ := h.natives handle hhandle
    refine ⟨since ++ [call], by rw [hstart, hsince]; rfl, fun a' ha' typeName => ?_⟩
    obtain ⟨a, ha, heq⟩ := hworkers a' ha'
    rw [heq, hknown a ha, hreg]
  dormant hnone := by rw [hstart, h.dormant (hdormant hnone)]; rfl

theorem Learned.registerFactory {past : List (Call A)} {s : SpawnRuntime A} (h : Learned past s)
    (typeName : String) (factory : FactoryFn A) :
    Learned (past ++ [.registerFactory typeName factory])
      (s.registerFactory typeName factory) where
  manager name := by
    rw [registered_append]
    show (s.spawnManager.typeRegistry.factories.insert typeName factory).lookup name = _
    by_cases hname : typeName = name
    · subst hname
      rw [Finmap.lookup_insert]
      exact (if_pos rfl).symm
    · rw [Finmap.lookup_insert_of_ne _ (Ne.symm hname), h.manager]
      exact (if_neg hname).symm
  natives h' hh' := by
    obtain ⟨handle, hhandle, rfl⟩ := Option.map_eq_some_iff.mp hh'
    obtain ⟨since, hsince, hknown⟩ := h.natives handle hhandle
    refine ⟨since ++ [.registerFactory typeName factory], ?_, fun a' ha' name => ?_⟩
    · rw [sinceStart_append, hsince]
      rfl
    · obtain ⟨a, ha, rfl⟩ := List.mem_map.mp ha'
      rw [SpawnManagerActor.eventual_cast, registered_append, hknown a ha]
  dormant hnone := by
    rw [sinceStart_append, h.dormant (Option.map_eq_none_iff.mp hnone)]
    rfl

theorem Learned.startSystemActors {past : List (Call A)} {s : SpawnRuntime A}
    (h : Learned past s) (poolSize : Option ℕ) :
    Learned (past ++ [.startSystemActors poolSize]) (s.startSystemActors poolSize) where
  manager typeName := by
    rw [registered_append]
    exact h.manager typeName
  natives h' hh' := by
    cases hh'
    refine ⟨[], by rw [sinceStart_append], fun a ha typeName => ?_⟩
    rw [List.eq_of_mem_replicate ha]
    exact Finmap.lookup_empty typeName
  dormant hnone := by cases hnone

theorem Learned.step {past : List (Call A)} {s : SpawnRuntime A} (h : Learned past s)
    (call : Call A) : Learned (past ++ [call]) (s.step call) := by
  cases call with
  | registerFactory typeName factory => exact h.registerFactory typeName factory
  | startSystemActors poolSize => exact h.startSystemActors poolSize
  | handleSpawnRequest request =>
    exact h.of_neutral (fun calls name => registered_append calls _ name)
      (sinceStart_append past _) (SpawnManager.serve_registry _ _ _ _) (fun hnone => hnone)
      (fun h' hh' => ⟨h', hh', fun a ha => ⟨a, ha, rfl⟩⟩)
  | postRequest request =>
    refine h.of_neutral (fun calls name => registered_append calls _ name)
      (sinceStart_append past _) rfl Option.map_eq_none_iff.mp (fun h' hh' => ?_)
    obtain ⟨handle, hhandle, rfl⟩ := Option.map_eq_some_iff.mp hh'
    refine ⟨handle, hhandle, fun a' ha' => ?_⟩
    obtain ⟨i, hi⟩ := List.mem_iff_getElem?.mp ha'
    rw [List.getElem?_modify] at hi
    obtain ⟨a, ha, rfl⟩ := Option.map_eq_some_iff.mp hi
    refine ⟨a, List.mem_of_getElem? ha, ?_⟩
    split
    · funext name
      exact SpawnManagerActor.eventual_cast a _ name
    · rfl
  | process i =>
    have hneutral : ∀ s' : SpawnRuntime A,
        s'.spawnManager.typeRegistry = s.spawnManager.typeRegistry →
        (s'.systemActors = none → s.systemActors = none) →
        (∀ h' ∈ s'.systemActors, ∃ h ∈ s.systemActors, ∀ a' ∈ h'.workers,
          ∃ a ∈ h.workers, a'.eventual = a.eventual) → Learned (past ++ [.process i]) s' :=
      fun s' => h.of_neutral (fun calls name => registered_append calls _ name)
        (sinceStart_append past _)
    show Learned _ (s.process i)
    -- a worker that takes a message from its queue will know the same types in the end
    unfold SpawnRuntime.process
    split
    · exact hneutral s rfl (fun hnone => hnone) fun h' hh' => ⟨h', hh', fun a ha => ⟨a, ha, rfl⟩⟩
    · rename_i handle hhandle
      split
      · exact hneutral s rfl (fun hnone => hnone) fun h' hh' =>
          ⟨h', hh', fun a ha => ⟨a, ha, rfl⟩⟩
      · rename_i a ha
        refine hneutral _ rfl (fun hnone => by cases hnone) fun h' hh' => ?_
        cases hh'
        refine ⟨handle, hhandle, fun a' ha' => ?_⟩
        rcases List.mem_or_eq_of_mem_set ha' with hold | rfl
        · exact ⟨a', hold, rfl⟩
        · refine ⟨a, List.mem_of_getElem? ha, ?_⟩
          funext name
          exact SpawnManagerActor.eventual_process a _ _ name

theorem learned_run (nodeId : NodeId) (calls : List (Call A)) :
    Learned calls (run step (withNodeId nodeId) calls) := by
  induction calls using List.reverseRecOn with
  | nil =>
    refine ⟨fun typeName => Finmap.lookup_empty typeName, ?_, fun _ => rfl⟩
    intro h hh
    cases hh
  | append_singleton past call ih =>
    rw [run_append]
    exact ih.step call

/-! ### The two paths -/

/-- The SPAWN envelope completes. -/
def RouteCompletes (prost : Prost) (s : SpawnRuntime A) (body : Bytes) : Prop :=
  ∃ requestId actorId, routeSpawn prost s body = .ok (.spawnCompleted requestId actorId)

/-- The request is served by the runtime itself. -/
def HandleSucceeds (s : SpawnRuntime A) (request : SpawnRequest) : Prop :=
  ∃ created, (s.handleSpawnRequest request).1 = .ok created

/-- An envelope completes exactly when the actor that serves it can serve the request. -/
theorem routeCompletes_iff {prost : Prost} {s : SpawnRuntime A} (hdrained : s.Drained)
    {body : Bytes} {request : SpawnRequest} (hbody : decodeSpawnRequest prost body = .ok request) :
    RouteCompletes prost s body ↔
      ∃ h ∈ s.systemActors, ∃ a ∈ h.workers, h.workers[servingIndex h]? = some a ∧
        ∃ factory actor, a.eventual request.typeName = some factory ∧
          factory request.argsBytes = .ok actor := by
  unfold RouteCompletes routeSpawn
  cases hactors : s.systemActors with
  | none => simp
  | some h =>
    have hlen : 0 < h.workers.length := List.length_pos_iff.mpr h.nonempty
    have hlt : servingIndex h < h.workers.length := Nat.mod_lt _ hlen
    have hget := List.getElem?_eq_getElem hlt
    have hmem : h.workers[servingIndex h] ∈ h.workers := List.getElem_mem hlt
    have hanswer := SpawnManagerActor.answer_isOk (hdrained h hactors _ hmem) s.nodeId
      s.nextLocal request
    simp only [hbody, hget]
    constructor
    · intro hok
      refine ⟨h, rfl, _, hmem, hget, hanswer.mp ?_⟩
      cases hres : (h.workers[servingIndex h]).answer s.nodeId s.nextLocal request with
      | ok created => exact ⟨created, rfl⟩
      | error resp =>
        rw [hres] at hok
        obtain ⟨id, actorId, hok⟩ := hok
        cases resp <;> cases hok
    · rintro ⟨h', hh', a, -, ha, hfac⟩
      cases hh'
      cases hget.symm.trans ha
      obtain ⟨created, hcreated⟩ := hanswer.mpr hfac
      exact ⟨request.requestId, created.1, by rw [hcreated]⟩

/-- **The two remote-spawn paths agree on a request exactly when its type was registered
after the last start, or the request cannot be spawned.**  For every order of
registrations, starts with any pool size and requests, once the native actors have
processed their mailboxes, and whichever of them serves the envelope. -/
theorem spawn_paths_agree_iff (prost : Prost) (nodeId : NodeId) (calls : List (Call A))
    (hdrained : (run step (withNodeId nodeId) calls).Drained) (body : Bytes)
    (request : SpawnRequest) (hbody : decodeSpawnRequest prost body = .ok request) :
    (RouteCompletes prost (run step (withNodeId nodeId) calls) body ↔
        HandleSucceeds (run step (withNodeId nodeId) calls) request) ↔
      KnownSinceStart calls request := by
  have hlearned := learned_run nodeId calls
  generalize run step (withNodeId nodeId) calls = s at hdrained hlearned ⊢
  have hhandle : HandleSucceeds s request ↔ ∃ factory actor,
      registered calls request.typeName = some factory ∧
        factory request.argsBytes = .ok actor := by
    rw [← hlearned.manager]
    exact SpawnManager.serve_isOk s.spawnManager s.nodeId s.nextLocal request
  have hroute : RouteCompletes prost s body ↔ ∃ since, sinceStart calls = some since ∧
      ∃ factory actor, registered since request.typeName = some factory ∧
        factory request.argsBytes = .ok actor := by
    rw [routeCompletes_iff hdrained hbody]
    constructor
    · rintro ⟨h, hh, a, ha, -, hfac⟩
      obtain ⟨since, hsince, hknown⟩ := hlearned.natives h hh
      rw [hknown a ha] at hfac
      exact ⟨since, hsince, hfac⟩
    · rintro ⟨since, hsince, hfac⟩
      cases hactors : s.systemActors with
      | none =>
        rw [hlearned.dormant hactors] at hsince
        cases hsince
      | some h =>
        obtain ⟨since', hsince', hknown⟩ := hlearned.natives h hactors
        cases hsince.symm.trans hsince'
        have hlt : servingIndex h < h.workers.length :=
          Nat.mod_lt _ (List.length_pos_iff.mpr h.nonempty)
        have hmem := List.getElem_mem hlt
        refine ⟨h, rfl, _, hmem, List.getElem?_eq_getElem hlt, ?_⟩
        rwa [hknown _ hmem]
  rw [hroute, hhandle]
  constructor
  · intro hagree factory actor hreg hmake
    obtain ⟨since, hsince, g, b, hg, -⟩ := hagree.mpr ⟨factory, actor, hreg, hmake⟩
    exact ⟨since, hsince, by rw [hg]; rfl⟩
  · intro hknown
    constructor
    · rintro ⟨since, hsince, factory, actor, hreg, hmake⟩
      exact ⟨factory, actor, registered_of_sinceStart hsince hreg, hmake⟩
    · rintro ⟨factory, actor, hreg, hmake⟩
      obtain ⟨since, hsince, hsome⟩ := hknown factory actor hreg hmake
      obtain ⟨g, hg⟩ := Option.isSome_iff_exists.mp hsome
      -- the registration since the start is the last one, so it is the same factory
      cases hreg.symm.trans (registered_of_sinceStart hsince hg)
      exact ⟨since, hsince, factory, actor, hg, hmake⟩

/-! ### Two orders of the same calls -/

/-- A factory that takes any arguments. -/
def lengthFactory : FactoryFn ℕ := fun args => .ok args.length

/-- Start two native actors, register the type, let both process the registration. -/
def startFirst : List (Call ℕ) :=
  [.startSystemActors (some 2), .registerFactory "T" lengthFactory, .process 0, .process 1]

theorem startFirst_drained : (run step (withNodeId ⟨"n1"⟩) startFirst).Drained := by
  intro h hh a ha
  cases hh
  change a ∈ [_, _] at ha
  rcases List.mem_pair.mp ha with rfl | rfl <;> rfl

/-- A type that is registered after the start is known to both paths. -/
theorem spawn_paths_agree_startFirst :
    (run step (withNodeId ⟨"n1"⟩) startFirst).Drained ∧
      decodeSpawnRequest sampleProst sampleSpawnRequestBytes = .ok sampleSpawnRequest ∧
      (RouteCompletes sampleProst (run step (withNodeId ⟨"n1"⟩) startFirst)
          sampleSpawnRequestBytes ↔
        HandleSucceeds (run step (withNodeId ⟨"n1"⟩) startFirst) sampleSpawnRequest) := by
  refine ⟨startFirst_drained, decode_sampleSpawnRequest, ?_⟩
  rw [spawn_paths_agree_iff sampleProst ⟨"n1"⟩ startFirst startFirst_drained _ _
    decode_sampleSpawnRequest]
  intro factory actor _ _
  exact ⟨[.registerFactory "T" lengthFactory, .process 0, .process 1], rfl, rfl⟩

/-- The type is registered, then the native actors are started. -/
def registerFirst : List (Call ℕ) :=
  [.registerFactory "T" lengthFactory, .startSystemActors none]

/-- Registered before the start: the runtime serves the request, the native actor has no
factory for its type. -/
theorem spawn_paths_differ :
    (run step (withNodeId ⟨"n1"⟩) registerFirst).Drained ∧
      decodeSpawnRequest sampleProst sampleSpawnRequestBytes = .ok sampleSpawnRequest ∧
      ¬ (RouteCompletes sampleProst (run step (withNodeId ⟨"n1"⟩) registerFirst)
            sampleSpawnRequestBytes ↔
          HandleSucceeds (run step (withNodeId ⟨"n1"⟩) registerFirst) sampleSpawnRequest) := by
  have hdrained : (run step (withNodeId ⟨"n1"⟩) registerFirst).Drained := by
    intro h hh a ha
    cases hh
    rw [List.eq_of_mem_replicate ha]
    rfl
  refine ⟨hdrained, decode_sampleSpawnRequest, fun hagree => ?_⟩
  have hhandle : HandleSucceeds (run step (withNodeId ⟨"n1"⟩) registerFirst)
      sampleSpawnRequest := ⟨(⟨⟨"n1"⟩, 1⟩, 1), rfl⟩
  have hroute := hagree.mpr hhandle
  rw [routeCompletes_iff hdrained decode_sampleSpawnRequest] at hroute
  obtain ⟨h, hh, a, ha, -, factory, actor, hfac, -⟩ := hroute
  cases hh
  rw [List.eq_of_mem_replicate ha] at hfac
  cases hfac

end SpawnRuntime

end Dactor
