/-
Dactor/RemoteTell.lean

The order in which remote tells reach the transport.

`RemoteActorRef::tell` runs the interceptors, serializes the message and
spawns a task that sleeps for the requested delay and then calls
`Transport::send`.  Each call has a task of its own, so the order of the
hand-overs is the scheduler's.  A local `tell` puts the message into the
mailbox before it returns.

Which calls accept their message is read off their results: they return
without an error, and no interceptor has dropped the message.

Main result: `remote_tell_order`; `remote_tell_order_fails` is a schedule
that turns two tells around.
-/
import Dactor.Runs
import Dactor.Handover
import Dactor.Outbound

namespace Dactor

open Runs Handover Channels

variable {σ M T : Type}

/-! ### `RemoteActorRef::tell` -/

def WireHeaders.new : WireHeaders := ⟨∅⟩

/-- Insertion replaces an entry of the same name. -/
def WireHeaders.insert (h : WireHeaders) (name : String) (bytes : Bytes) : WireHeaders :=
  ⟨h.entries.insert name bytes⟩

/-- `to_wire`: headers without a wire form stay behind. -/
def Headers.toWire (h : Headers) : WireHeaders :=
  h.map.foldl (fun wire entry =>
    match entry.2.toBytes with
    | some bytes => wire.insert entry.2.headerName bytes
    | none => wire) WireHeaders.new

def ActorId.display (id : ActorId) : String :=
  "Actor(" ++ id.node.id ++ "/" ++ toString id.local ++ ")"

/-- The task a `tell` spawns: sleep, then `transport.send`. -/
structure TellTask where
  delay : Option Nat
  targetNode : NodeId
  envelope : WireEnvelope
  deriving DecidableEq

/-- A call of `tell`: the message, its type, and the runtime headers made
for it. -/
structure TellCall (M : Type) where
  messageType : String
  typeId : TypeId
  msg : M
  runtimeHeaders : RuntimeHeaders

/-- `tell`: its result, the task it spawns, and the interceptors' state. -/
def RemoteActorRef.tell (r : RemoteActorRef σ M) (c : TellCall M) (s : σ) :
    Except ActorSendError Unit × Option TellTask × σ :=
  let (result, headers, s) :=
    r.runOutboundPipeline c.messageType .tell Headers.new c.msg c.runtimeHeaders s
  match remoteTellGate result with
  | .returned res => (res, none, s)
  | .passed delay =>
    match r.tellSerializers c.typeId with
    | none =>
      (.error ⟨"message type '" ++ c.messageType ++ "' not registered for remote send to " ++
        r.id.display⟩, none, s)
    | some serializer =>
      match serializer c.msg with
      | .error message => (.error ⟨"serialization failed: " ++ message⟩, none, s)
      | .ok (typeName, body) =>
        (.ok (), some
          { delay
            targetNode := r.id.node
            envelope :=
              { target := r.id
                targetName := r.name
                messageType := typeName
                sendMode := .tell
                headers := headers.toWire
                body
                requestId := none
                version := none } }, s)

/-- The call returns without an error, and not because an interceptor dropped
the message. -/
def RemoteActorRef.accepts (r : RemoteActorRef σ M) (c : TellCall M) (s : σ) : Bool :=
  (r.tell c s).1.isOk && (r.tellGate c.messageType c.msg c.runtimeHeaders s).passes

/-- The envelope for the message of a call. -/
structure RemoteActorRef.Wraps (r : RemoteActorRef σ M) (c : TellCall M) (e : WireEnvelope) :
    Prop where
  target : e.target = r.id ∧ e.targetName = r.name
  mode : e.sendMode = .tell ∧ e.requestId = none ∧ e.version = none
  body : ∃ serializer ∈ r.tellSerializers c.typeId,
    serializer c.msg = .ok (e.messageType, e.body)

/-- A call that accepts its message spawns a task for it, and no other call
spawns one. -/
theorem RemoteActorRef.tell_cases (r : RemoteActorRef σ M) (c : TellCall M) (s : σ) :
    (r.tell c s).2.1 = none ∧ r.accepts c s = false ∨
      ∃ task, (r.tell c s).2.1 = some task ∧ r.accepts c s = true ∧
        task.targetNode = r.id.node ∧ r.Wraps c task.envelope := by
  rw [RemoteActorRef.accepts, RemoteActorRef.tellGate, RemoteActorRef.tell]
  dsimp only
  rcases remoteTellGate _ with res | delay
  · exact .inl ⟨rfl, Bool.and_false _⟩
  · rcases hserializer : r.tellSerializers c.typeId with - | serializer
    · exact .inl ⟨rfl, rfl⟩
    · dsimp only
      rcases hbody : serializer c.msg with message | ⟨typeName, body⟩
      · exact .inl ⟨rfl, rfl⟩
      · exact .inr ⟨_, rfl, rfl, rfl, ⟨rfl, rfl⟩, ⟨rfl, rfl, rfl⟩, serializer, hserializer, hbody⟩

/-! ### One task calling, and the scheduler -/

/-- A spawned task, ready when its sleep is over. -/
structure SpawnedTell where
  readyAt : Nat
  targetNode : NodeId
  envelope : WireEnvelope
  deriving DecidableEq

/-- The caller's side: interceptor state, the clock, and the spawned tasks
with those that have called the transport. -/
structure TellSession (σ : Type) where
  istate : σ
  clock : Nat
  tasks : Backlog SpawnedTell

def TellSession.start (s : σ) : TellSession σ := ⟨s, 0, .empty⟩

inductive TellOp (M : Type)
  | tell (c : TellCall M)
  | wait (d : Nat)
  | run (i : Nat)

/-- `run i` lets the `i`-th waiting task call the transport, if its sleep is
over. -/
def TellSession.step (r : RemoteActorRef σ M) (s : TellSession σ) : TellOp M → TellSession σ
  | .tell c =>
    match r.tell c s.istate with
    | (_, none, istate) => { s with istate }
    | (_, some task, istate) =>
      { s with
        istate
        tasks := s.tasks.issue
          ⟨s.clock + task.delay.getD 0, task.targetNode, task.envelope⟩ }
  | .wait d => { s with clock := s.clock + d }
  | .run i =>
    match s.tasks.waiting[i]? with
    | none => s
    | some task => if task.readyAt ≤ s.clock then { s with tasks := s.tasks.hand i } else s

/-- The call whose message an operation accepts. -/
def TellSession.accepted (r : RemoteActorRef σ M) (s : TellSession σ) :
    TellOp M → List (TellCall M)
  | .tell c => if r.accepts c s.istate then [c] else []
  | .wait _ | .run _ => []

/-- A task for a call. -/
def RemoteActorRef.Carries (r : RemoteActorRef σ M) (c : TellCall M) (task : SpawnedTell) : Prop :=
  task.targetNode = r.id.node ∧ r.Wraps c task.envelope

/-- The tasks are those of the calls that accepted their message, in order. -/
theorem TellSession.issued_step (r : RemoteActorRef σ M) (past : List (TellCall M))
    (s : TellSession σ) (op : TellOp M) (h : List.Forall₂ r.Carries past s.tasks.issued) :
    List.Forall₂ r.Carries (past ++ s.accepted r op) (s.step r op).tasks.issued := by
  cases op with
  | tell c =>
      rw [TellSession.accepted, TellSession.step]
      rcases htell : r.tell c s.istate with ⟨res, task, istate⟩
      rcases r.tell_cases c s.istate with ⟨hnone, hrefused⟩ | ⟨task', hsome, haccepts, hcarries⟩
      · rw [htell] at hnone
        obtain rfl : task = none := hnone
        rw [hrefused, if_neg Bool.false_ne_true, List.append_nil]
        exact h
      · rw [htell] at hsome
        obtain rfl : task = some task' := hsome
        rw [haccepts, if_pos rfl]
        exact List.rel_append h (.cons hcarries .nil)
  | wait d =>
      rw [TellSession.accepted, List.append_nil]
      exact h
  | run i =>
      rw [TellSession.accepted, List.append_nil, TellSession.step]
      split
      · exact h
      · split
        · rwa [Backlog.hand_issued]
        · exact h

/-- The scheduler runs the oldest task. -/
def TellSession.RunsOldest (_ : TellSession σ) : TellOp M → Prop
  | .run i => i = 0
  | _ => True

/-- A property of the backlog that issuing and handing over keep is kept by
every step. -/
theorem TellSession.tasks_step {P : Backlog SpawnedTell → Prop} (r : RemoteActorRef σ M)
    {s : TellSession σ} {op : TellOp M} (h : P s.tasks) (hissue : ∀ x, P (s.tasks.issue x))
    (hhand : ∀ i, op = .run i → P (s.tasks.hand i)) : P (s.step r op).tasks := by
  cases op with
  | tell c =>
      simp only [TellSession.step]
      split
      · exact h
      · exact hissue _
  | wait d => exact h
  | run i =>
      simp only [TellSession.step]
      split
      · exact h
      · split
        · exact hhand i rfl
        · exact h

theorem TellSession.conserved_step (r : RemoteActorRef σ M) (s : TellSession σ) (op : TellOp M)
    (h : s.tasks.Conserved) : (s.step r op).tasks.Conserved :=
  TellSession.tasks_step r h h.issue fun i _ => h.hand i

/-- The oldest task has no other before it. -/
theorem oldest_zero (l : Backlog SpawnedTell) : l.Oldest (fun _ => ()) 0 := by
  intro x _ y hy
  exact absurd hy List.not_mem_nil

theorem TellSession.inOrder_step (r : RemoteActorRef σ M) (s : TellSession σ) (op : TellOp M)
    (hop : s.RunsOldest op) (h : s.tasks.InOrder fun _ => ()) :
    (s.step r op).tasks.InOrder fun _ => () := by
  refine TellSession.tasks_step r h h.issue ?_
  rintro i rfl
  have hzero : i = 0 := hop
  rw [hzero]
  exact h.hand (oldest_zero s.tasks)

/-! ### The local counterpart -/

/-- `TestActorRef::tell`: what passes the interceptors goes to the mailbox at
once. -/
def OutboundPipeline.tell (p : OutboundPipeline σ M) (c : TellCall M)
    (s : σ × Mailbox (Option M)) : Except ActorSendError Unit × σ × Mailbox (Option M) :=
  let istate := (p.runOnSend .tell c.messageType c.msg c.runtimeHeaders s.1).2.2
  match p.tellGate c.messageType c.msg c.runtimeHeaders s.1 with
  | .returned res => (res, istate, s.2)
  | .passed _ => ((s.2.send (some c.msg)).1, istate, (s.2.send (some c.msg)).2)

/-- The mailbox is full and drops what comes. -/
def OutboundPipeline.discards (mb : Mailbox (Option M)) : Bool :=
  match mb.config with
  | .bounded _ .dropNewest => !decide mb.channel.HasRoom
  | _ => false

/-- The call returns without an error, and not because an interceptor or the
mailbox dropped the message. -/
def OutboundPipeline.accepts (p : OutboundPipeline σ M) (c : TellCall M)
    (s : σ × Mailbox (Option M)) : Bool :=
  (p.tell c s).1.isOk && (p.tellGate c.messageType c.msg c.runtimeHeaders s.1).passes &&
    !discards s.2

/-- The message of a call that accepts it. -/
def OutboundPipeline.accepted (p : OutboundPipeline σ M) (s : σ × Mailbox (Option M))
    (c : TellCall M) : List M :=
  if p.accepts c s then [c.msg] else []

/-- A send that answers `Ok`, to a mailbox that drops nothing, is one that the
mailbox takes. -/
theorem OutboundPipeline.send_isOk (mb : Mailbox (Option M)) (msg : Option M) :
    ((mb.send msg).1.isOk && !discards mb) = decide mb.Admits := by
  obtain ⟨config, channel, hcapacity⟩ := mb
  show ((config.sender.send msg channel).1.isOk && _) = decide channel.Admits
  by_cases hadmits : channel.Admits
  · have hsent := Channel.trySend_of_admits hadmits msg
    rw [decide_eq_true hadmits]
    rcases config with - | ⟨capacity, - | - | -⟩ <;>
      simp only [MailboxConfig.sender, MailboxSender.send, hsent, discards, decide_eq_true hadmits.2,
        Except.isOk, Except.toBool, Bool.not_false, Bool.not_true, Bool.and_self]
  · rw [decide_eq_false hadmits]
    rcases Channel.not_admits_iff.mp hadmits with hclosed | ⟨hopen, hfull⟩
    · have hsent := Channel.trySend_of_closed hclosed msg
      rcases config with - | ⟨capacity, - | - | -⟩ <;>
        simp only [MailboxConfig.sender, MailboxSender.send, hsent, Except.isOk, Except.toBool,
          Bool.false_and]
    · have hsent := Channel.trySend_of_full hopen hfull msg
      rcases config with - | ⟨capacity, - | - | -⟩
      · exact absurd (Channel.hasRoom_of_unbounded hcapacity) hfull
      all_goals
        simp only [MailboxConfig.sender, MailboxSender.send, hsent, discards,
          decide_eq_false hfull, Except.isOk, Except.toBool, Bool.not_false, Bool.not_true,
          Bool.false_and, Bool.and_false]

theorem OutboundPipeline.accepts_eq (p : OutboundPipeline σ M) (c : TellCall M)
    (s : σ × Mailbox (Option M)) :
    p.accepts c s =
      ((p.tellGate c.messageType c.msg c.runtimeHeaders s.1).passes && decide s.2.Admits) := by
  rw [OutboundPipeline.accepts, OutboundPipeline.tell]
  rcases p.tellGate c.messageType c.msg c.runtimeHeaders s.1 with res | delay
  · simp only [Gate.passes, Bool.and_false, Bool.false_and]
  · simp only [Gate.passes, Bool.and_true, Bool.true_and, send_isOk]

/-- A local tell whose message is accepted enters the mailbox behind the others,
and no other does. -/
theorem OutboundPipeline.tell_queue (p : OutboundPipeline σ M) (c : TellCall M)
    (s : σ × Mailbox (Option M)) :
    (p.tell c s).2.2.channel.queue = s.2.channel.queue ++ (p.accepted s c).map some := by
  rw [OutboundPipeline.accepted, p.accepts_eq, OutboundPipeline.tell]
  rcases p.tellGate c.messageType c.msg c.runtimeHeaders s.1 with res | delay
  · exact (List.append_nil _).symm
  · show (s.2.send (some c.msg)).2.channel.queue = _
    rw [Mailbox.send_queue]
    by_cases hadmits : s.2.Admits
    · simp only [Gate.passes, hadmits, if_true, decide_true, Bool.and_self, List.map_cons,
        List.map_nil]
    · simp only [Gate.passes, hadmits, if_false, decide_false, Bool.and_false,
        Bool.false_eq_true, List.map_nil, List.append_nil]

/-- **What the order of remote tells is.**  On every schedule, the tasks that
have called the transport and those that still wait are, up to the order, one
for each tell that accepted its message, with its envelope; they call it in call
order when the scheduler always runs the oldest one.  Local tells put exactly
the messages they accept into the mailbox, in call order. -/
theorem remote_tell_order (r : RemoteActorRef σ M) (p : OutboundPipeline σ M) (istate : σ) :
    (∀ ops : List (TellOp M),
      let tasks := (run (TellSession.step r) (.start istate) ops).tasks
      ∃ spawned, List.Forall₂ r.Carries
          (outputs (TellSession.step r) (TellSession.accepted r) (.start istate) ops) spawned ∧
        (tasks.handed ++ tasks.waiting).Perm spawned ∧
        (Admissible (TellSession.step r) TellSession.RunsOldest (.start istate) ops →
          tasks.handed ++ tasks.waiting = spawned)) ∧
    ∀ (calls : List (TellCall M)) (mb : Mailbox (Option M)),
      (run (fun s c => (p.tell c s).2) (istate, mb) calls).2.channel.queue =
        mb.channel.queue ++
          (outputs (fun s c => (p.tell c s).2) p.accepted (istate, mb) calls).map some := by
  refine ⟨fun ops => ⟨(run (TellSession.step r) (.start istate) ops).tasks.issued, ?_, ?_,
    fun hops => ?_⟩, fun calls mb => ?_⟩
  · exact outputs_induction (TellSession.issued_step r) List.Forall₂.nil ops
  · have hstart : (TellSession.start istate).tasks.Conserved := Backlog.Conserved.empty
    exact run_induction (TellSession.conserved_step r) ops hstart
  · have horder := always_of_admissible (TellSession.inOrder_step r) Backlog.InOrder.empty hops
    exact horder.last.append_eq
  · have hqueue : ∀ (past : List M) (s : σ × Mailbox (Option M)) (c : TellCall M),
        s.2.channel.queue = mb.channel.queue ++ past.map some →
          (p.tell c s).2.2.channel.queue =
            mb.channel.queue ++ (past ++ p.accepted s c).map some := by
      intro past s c h
      rw [p.tell_queue, h, List.map_append, List.append_assoc]
    exact outputs_induction hqueue (List.append_nil _).symm calls

/-- A reference without interceptors whose messages are their own bodies. -/
def plainRemoteRef : RemoteActorRef Unit Bytes where
  id := ⟨⟨"node-2"⟩, 1⟩
  name := "worker"
  tellSerializers _ := some fun body => .ok ("Blob", body)
  outboundInterceptors := []

theorem plainRemoteRef_body {c : TellCall Bytes} {e : WireEnvelope}
    (h : plainRemoteRef.Wraps c e) : e.body = c.msg := by
  obtain ⟨serializer, hserializer, hbody⟩ := h.body
  cases hserializer
  exact (congrArg Prod.snd (Except.ok.inj hbody)).symm

/-- Two tells; the task of the second one runs first. -/
def turnedAround : List (TellOp Bytes) :=
  [.tell ⟨"Blob", "Blob", [1], ⟨0, 0⟩⟩, .tell ⟨"Blob", "Blob", [2], ⟨1, 0⟩⟩, .run 1, .run 0]

theorem remote_tell_order_fails :
    let calls := outputs (TellSession.step plainRemoteRef) (TellSession.accepted plainRemoteRef)
      (.start ()) turnedAround
    let tasks := (run (TellSession.step plainRemoteRef) (.start ()) turnedAround).tasks
    calls.map TellCall.msg = [[1], [2]] ∧ tasks.handed.map (·.envelope.body) = [[2], [1]] ∧
      ¬ List.Forall₂ plainRemoteRef.Carries calls tasks.handed := by
  refine ⟨by decide, by decide, fun hall => ?_⟩
  have hbody := plainRemoteRef_body (List.forall₂_cons.mp hall).1.2
  exact absurd hbody (by decide)

/-- The same tells, run in order. -/
def oldestFirst : List (TellOp Bytes) :=
  [.tell ⟨"Blob", "Blob", [1], ⟨0, 0⟩⟩, .tell ⟨"Blob", "Blob", [2], ⟨1, 0⟩⟩, .run 0, .run 0]

theorem remote_tell_order_oldestFirst :
    let calls := outputs (TellSession.step plainRemoteRef) (TellSession.accepted plainRemoteRef)
      (.start ()) oldestFirst
    let tasks := (run (TellSession.step plainRemoteRef) (.start ()) oldestFirst).tasks
    calls.map TellCall.msg = [[1], [2]] ∧
      Admissible (TellSession.step plainRemoteRef) TellSession.RunsOldest (.start ()) oldestFirst ∧
        List.Forall₂ plainRemoteRef.Carries calls tasks.handed := by
  intro calls tasks
  have hops : Admissible (TellSession.step plainRemoteRef) TellSession.RunsOldest (.start ())
      oldestFirst := ⟨trivial, trivial, rfl, rfl, trivial⟩
  obtain ⟨hall, -⟩ := remote_tell_order plainRemoteRef ⟨[], false, ⟨⟨"node-2"⟩, 1⟩, "worker"⟩ ()
  obtain ⟨spawned, hcarries, -, horder⟩ := hall oldestFirst
  have hhanded : tasks.handed = spawned := by
    rw [← horder hops]
    decide
  refine ⟨by decide, hops, ?_⟩
  rw [hhanded]
  exact hcarries

end Dactor
