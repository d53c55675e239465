/-
Dactor/InMemoryTransport.lean

The in-memory transport (`transport.rs`): a route table, and a map from request
ids to the callers that wait for a reply.

`send_request` registers its reply channel under the request id, sends the
envelope, takes the entry back if the send fails, and waits; `complete_request`
takes the entry out and answers.  The calls of many tasks interleave at their
awaits, any of them may be dropped by its caller, and a send that waits for room
in a full channel keeps the lock on the routes.

Main results: `request_reply_exact` — with request ids that are not used twice,
a request that returns a reply returns the one that was accepted under its id,
one that fails was never delivered, and a completion is accepted exactly if
somebody waits for it; `full_channel_blocks_every_send` — as long as a send waits
for room, nothing else is sent to any node.
-/
import Dactor.Runs
import Dactor.Slots
import Dactor.Channels
import Dactor.Basic
import Dactor.BatchedTransport
import Dactor.Handshake
import Dactor.Proto

namespace Dactor

open Runs Slots Channels

namespace InMemory

/-! ### Calls -/

inductive Kind
  | send
  | sendRequest
deriving DecidableEq

/-- Where a call stands between its awaits. -/
inductive Phase
  /-- Before the entry in `pending`. -/
  | registering
  /-- In `send`: it waits for the routes, or for room in the channel. -/
  | sending
  /-- The send has failed; the entry is still to be removed. -/
  | cleaning (e : TransportError)
  /-- It waits for the reply. -/
  | waiting
  | returned (result : Except TransportError (Option WireEnvelope))
  /-- The caller has dropped the future. -/
  | dropped

/-- A call of `send` or `send_request`, and the reply that is in its oneshot channel. -/
structure Call where
  kind : Kind
  target : NodeId
  envelope : WireEnvelope
  phase : Phase
  reply : Option WireEnvelope

/-- The request id that the call waits under. -/
def Call.request (c : Call) : Option Uuid :=
  match c.kind with
  | .send => none
  | .sendRequest => c.envelope.requestId

/-- The receiving half of the reply channel is gone. -/
def Call.gone (c : Call) : Bool :=
  match c.phase with
  | .returned _ | .dropped => true
  | _ => false

/-- What becomes of a call when its send is done. -/
def Call.afterSend (c : Call) (result : Except TransportError Unit) : Phase :=
  match c.request, result with
  | none, .ok _ => .returned (.ok none)
  | none, .error e => .returned (.error e)
  | some _, .ok _ => .waiting
  | some _, .error e => .cleaning e

/-- The first stretch of a call, up to its first await. -/
def Call.start (kind : Kind) (target : NodeId) (envelope : WireEnvelope) : Call where
  kind
  target
  envelope
  phase :=
    match kind with
    | .send => .sending
    | .sendRequest =>
      match envelope.requestId with
      | some _ => .registering
      | none => .returned (.error ⟨"send_request requires a request_id"⟩)
  reply := none

def replySenderDropped : TransportError := ⟨"reply sender dropped"⟩

/-! ### The transport -/

/-- The channel that `register_node` makes. -/
def nodeChannel : Channel WireEnvelope := .new (some 256)

/-- An `InMemoryTransport` with its calls.  The channels are numbered in the order in which
they are made; `holder` is the call that keeps the lock on the routes, `sent` the calls whose
envelope has entered a channel, and `completions` what `complete_request` was called with and
has returned. -/
structure Transport where
  routes : Finmap fun _ : NodeId => ℕ
  channels : ℕ → Channel WireEnvelope
  made : ℕ
  pending : Finmap fun _ : Uuid => ℕ
  holder : Option ℕ
  calls : List Call
  sent : List ℕ
  completions : List (Uuid × WireEnvelope × Except TransportError Unit)

namespace Transport

def new : Transport where
  routes := ∅
  channels := fun _ => nodeChannel
  made := 0
  pending := ∅
  holder := none
  calls := []
  sent := []
  completions := []

/-- The routes can be locked: by the call `i`, or by anybody else. -/
def canLock (s : Transport) (i : Option ℕ) : Bool :=
  s.holder.isNone || s.holder == i

def setPhase (s : Transport) (i : ℕ) (c : Call) (phase : Phase) : Transport :=
  { s with calls := s.calls.set i { c with phase } }

/-- The end of `send`: the lock is released. -/
def finishSend (s : Transport) (i : ℕ) (c : Call) (result : Except TransportError Unit) :
    Transport :=
  { s with holder := none }.setPhase i c (c.afterSend result)

/-- `send` under the lock. -/
def sendLocked (s : Transport) (i : ℕ) (c : Call) : Transport :=
  match s.routes.lookup c.target with
  | none => s.finishSend i c (.error ⟨"no route to " ++ c.target.display⟩)
  | some ch =>
    match (s.channels ch).trySend c.envelope with
    | .ok channel =>
      { s with
        channels := Function.update s.channels ch channel
        sent := s.sent ++ [i] }.finishSend i c (.ok ())
    | .error .closed => s.finishSend i c (.error ⟨"channel closed for " ++ c.target.display⟩)
    | .error .full => { s with holder := some i }

/-- The end of the wait: a reply, or a oneshot sender that is gone. -/
def awaitReply (s : Transport) (i : ℕ) (c : Call) (id : Uuid) : Transport :=
  match c.reply with
  | some reply => s.setPhase i c (.returned (.ok (some reply)))
  | none =>
    if s.pending.lookup id = some i then s
    else s.setPhase i c (.returned (.error replySenderDropped))

/-- One stretch of a call, from one await to the next. -/
def advance (s : Transport) (i : ℕ) (c : Call) : Transport :=
  match c.phase, c.request with
  | .registering, some id =>
    { s with pending := s.pending.insert id i }.setPhase i c .sending
  | .sending, _ => if s.canLock (some i) then s.sendLocked i c else s
  | .cleaning e, some id =>
    { s with pending := s.pending.erase id }.setPhase i c (.returned (.error e))
  | .waiting, some id => s.awaitReply i c id
  | _, _ => s

def poll (s : Transport) (i : ℕ) : Transport :=
  match s.calls[i]? with
  | some c => s.advance i c
  | none => s

/-- The caller drops the future, and with it the lock and the receiver that it holds. -/
def drop (s : Transport) (i : ℕ) : Transport :=
  match s.calls[i]? with
  | some c =>
    if c.gone then s
    else { s with holder := if s.holder = some i then none else s.holder }.setPhase i c .dropped
  | none => s

def logged (s : Transport) (id : Uuid) (reply : WireEnvelope)
    (result : Except TransportError Unit) : Transport :=
  { s with completions := s.completions ++ [(id, reply, result)] }

/-- The answer of `complete_request` to the call that the entry belongs to. -/
def answer (s : Transport) (i : ℕ) (id : Uuid) (reply : WireEnvelope) : Transport :=
  match s.calls[i]? with
  | some c =>
    if c.gone then s.logged id reply (.error ⟨"reply receiver dropped"⟩)
    else { s with calls := s.calls.set i { c with reply := some reply } }.logged id reply (.ok ())
  | none => s

def completeRequest (uuid : UuidText) (s : Transport) (id : Uuid) (reply : WireEnvelope) :
    Transport :=
  match s.pending.lookup id with
  | none => s.logged id reply (.error ⟨"no pending request for " ++ uuid.toString id⟩)
  | some i => { s with pending := s.pending.erase id }.answer i id reply

def registerNode (s : Transport) (node : NodeId) : Transport :=
  if s.canLock none then
    { s with routes := s.routes.insert node s.made, made := s.made + 1 }
  else s

/-- A section of `link`: the routes of another transport are inserted. -/
def mergeRoutes (s : Transport) (entries : List (NodeId × ℕ)) : Transport :=
  if s.canLock none then
    { s with routes := entries.foldl (fun r entry => r.insert entry.1 entry.2) s.routes }
  else s

/-! ### Runs -/

inductive Event
  | registerNode (node : NodeId)
  | mergeRoutes (entries : List (NodeId × ℕ))
  | call (kind : Kind) (target : NodeId) (envelope : WireEnvelope)
  | poll (i : ℕ)
  | drop (i : ℕ)
  | completeRequest (id : Uuid) (reply : WireEnvelope)
  /-- The node at the other end of a channel takes an envelope. -/
  | receive (ch : ℕ)
  | closeReceiver (ch : ℕ)
  /-- A linked transport sends to the channel. -/
  | foreignSend (ch : ℕ) (envelope : WireEnvelope)

def withChannel (s : Transport) (ch : ℕ) (channel : Channel WireEnvelope) : Transport :=
  { s with channels := Function.update s.channels ch channel }

def step (uuid : UuidText) (s : Transport) : Event → Transport
  | .registerNode node => s.registerNode node
  | .mergeRoutes entries => s.mergeRoutes entries
  | .call kind target envelope => { s with calls := s.calls ++ [.start kind target envelope] }
  | .poll i => s.poll i
  | .drop i => s.drop i
  | .completeRequest id reply => s.completeRequest uuid id reply
  | .receive ch =>
    match (s.channels ch).recv with
    | some (_, channel) => s.withChannel ch channel
    | none => s
  | .closeReceiver ch => s.withChannel ch (s.channels ch).close
  | .foreignSend ch envelope => s.withChannel ch ((s.channels ch).offer envelope)

/-! ### What passes through the channels -/

/-- An envelope enters a channel, for a call or from a linked transport, or it leaves: it is
received, or dropped with the receiver. -/
inductive Traffic
  | entered (call : Option ℕ) (ch : ℕ) (envelope : WireEnvelope)
  | left (ch : ℕ) (envelope : WireEnvelope)

def Traffic.call : Traffic → Option ℕ
  | .entered call _ _ => call
  | .left _ _ => none

def enteredAt (ch : ℕ) (traffic : List Traffic) : List WireEnvelope :=
  traffic.filterMap fun
    | .entered _ ch' envelope => if ch' = ch then some envelope else none
    | .left _ _ => none

def leftAt (ch : ℕ) (traffic : List Traffic) : List WireEnvelope :=
  traffic.filterMap fun
    | .entered _ _ _ => none
    | .left ch' envelope => if ch' = ch then some envelope else none

/-- The send of the call has returned `Ok`. -/
def hasSent : Phase → Bool
  | .waiting | .returned (.ok _) => true
  | _ => false

/-- What a poll of a call puts into the channel of its target: the envelope, if the call was
in `send` and `send` has returned `Ok`. -/
def pollTraffic (s : Transport) (i : ℕ) (c : Call) : List Traffic :=
  match c.phase, (s.poll i).calls[i]? with
  | .sending, some c' =>
    if hasSent c'.phase then
      (s.routes.lookup c.target).toList.map fun ch => .entered (some i) ch c.envelope
    else []
  | _, _ => []

def traffic (s : Transport) : Event → List Traffic
  | .poll i => s.calls[i]?.elim [] (s.pollTraffic i)
  | .foreignSend ch envelope =>
    if (s.channels ch).Admits then [.entered none ch envelope] else []
  | .receive ch => (s.channels ch).queue.head?.toList.map (.left ch)
  | .closeReceiver ch => (s.channels ch).queue.map (.left ch)
  | _ => []

/-- What has left a channel and what is in it is what has entered it, and the calls that
were sent are those whose envelope has entered one. -/
structure Passed (past : List Traffic) (s : Transport) : Prop where
  conserved : ∀ ch, leftAt ch past ++ (s.channels ch).queue = enteredAt ch past
  calls : past.filterMap Traffic.call = s.sent
  envelope : ∀ i ch envelope, .entered (some i) ch envelope ∈ past →
    ∃ c : Call, s.calls[i]? = some c ∧ c.envelope = envelope

/-- A poll sends the envelope of the call to the channel of its target, or touches no channel. -/
theorem advance_cases {s : Transport} {i : ℕ} {c : Call} (hc : s.calls[i]? = some c) :
    (∃ ch, ∃ hadmits : (s.channels ch).Admits, c.phase = .sending ∧
        s.routes.lookup c.target = some ch ∧ s.advance i c =
          { s with
            channels := Function.update s.channels ch
              ((s.channels ch).enqueue c.envelope hadmits.2)
            sent := s.sent ++ [i] }.finishSend i c (.ok ())) ∨
      (s.advance i c).channels = s.channels ∧ (s.advance i c).sent = s.sent ∧
        (c.phase = .sending → ∀ c', (s.advance i c).calls[i]? = some c' →
          hasSent c'.phase = false) := by
  have hlt : i < s.calls.length := (List.getElem?_eq_some_iff.mp hc).1
  have hstays : ∀ c', s.calls[i]? = some c' → c.phase = .sending → hasSent c'.phase = false := by
    intro c' hc' hphase
    rw [hc] at hc'
    cases hc'
    rw [hphase]
    rfl
  have hfails : ∀ (e : TransportError) c', (s.finishSend i c (.error e)).calls[i]? = some c' →
      hasSent c'.phase = false := by
    intro e c' hc'
    rw [show (s.finishSend i c (.error e)).calls[i]? =
      some { c with phase := c.afterSend (.error e) } from List.getElem?_set_self hlt] at hc'
    cases hc'
    show hasSent (c.afterSend (.error e)) = false
    unfold Call.afterSend
    cases c.request <;> rfl
  rw [Transport.advance]
  split
  · next hphase _ => exact .inr ⟨rfl, rfl, fun h => by rw [hphase] at h; cases h⟩
  · next hphase =>
    split
    · rw [Transport.sendLocked]
      split
      · exact .inr ⟨rfl, rfl, fun _ c' hc' => hfails _ c' hc'⟩
      · next ch hroute =>
        by_cases hadmits : (s.channels ch).Admits
        · refine .inl ⟨ch, hadmits, hphase, hroute, ?_⟩
          rw [Channel.trySend_of_admits hadmits]
        · rcases Channel.not_admits_iff.mp hadmits with hclosed | ⟨hopen, hfull⟩
          · rw [Channel.trySend_of_closed hclosed]
            exact .inr ⟨rfl, rfl, fun _ c' hc' => hfails _ c' hc'⟩
          · rw [Channel.trySend_of_full hopen hfull]
            exact .inr ⟨rfl, rfl, fun h c' hc' => hstays c' hc' h⟩
    · exact .inr ⟨rfl, rfl, fun h c' hc' => hstays c' hc' h⟩
  · next hphase _ => exact .inr ⟨rfl, rfl, fun h => by rw [hphase] at h; cases h⟩
  · next hphase _ =>
    rw [Transport.awaitReply]
    refine .inr ⟨?_, ?_, fun h => by rw [hphase] at h; cases h⟩
    · split
      · rfl
      · split <;> rfl
    · split
      · rfl
      · split <;> rfl
  · exact .inr ⟨rfl, rfl, fun h c' hc' => hstays c' hc' h⟩

theorem advance_calls (s : Transport) (i : ℕ) (c : Call) :
    (s.advance i c).calls = s.calls ∨
      ∃ c' : Call, (s.advance i c).calls = s.calls.set i c' ∧ c'.envelope = c.envelope := by
  rw [Transport.advance]
  split
  · exact .inr ⟨_, rfl, rfl⟩
  · split
    · rw [Transport.sendLocked]
      split
      · exact .inr ⟨_, rfl, rfl⟩
      · split
        · exact .inr ⟨_, rfl, rfl⟩
        · exact .inr ⟨_, rfl, rfl⟩
        · exact .inl rfl
    · exact .inl rfl
  · exact .inr ⟨_, rfl, rfl⟩
  · rw [Transport.awaitReply]
    split
    · exact .inr ⟨_, rfl, rfl⟩
    · split
      · exact .inl rfl
      · exact .inr ⟨_, rfl, rfl⟩
  · exact .inl rfl

/-- No event changes the envelope of a call. -/
theorem envelope_step (uuid : UuidText) (s : Transport) (e : Event) {i : ℕ} {c : Call}
    (hc : s.calls[i]? = some c) :
    ∃ c' : Call, (s.step uuid e).calls[i]? = some c' ∧ c'.envelope = c.envelope := by
  have hset : ∀ {j : ℕ} {d d' : Call}, s.calls[j]? = some d → d'.envelope = d.envelope →
      ∃ c' : Call, (s.calls.set j d')[i]? = some c' ∧ c'.envelope = c.envelope := by
    intro j d d' hd hsame
    exact rel_set (R := fun c c' : Call => c'.envelope = c.envelope) (fun _ => rfl) hd hsame hc
  cases e with
  | registerNode node =>
    rw [Transport.step, Transport.registerNode]
    split
    · exact ⟨c, hc, rfl⟩
    · exact ⟨c, hc, rfl⟩
  | mergeRoutes entries =>
    rw [Transport.step, Transport.mergeRoutes]
    split
    · exact ⟨c, hc, rfl⟩
    · exact ⟨c, hc, rfl⟩
  | call kind target envelope =>
    refine ⟨c, ?_, rfl⟩
    exact (List.getElem?_append_left (List.getElem?_eq_some_iff.mp hc).1).trans hc
  | poll j =>
    rw [Transport.step, Transport.poll]
    split
    · next d hd =>
      rcases s.advance_calls j d with hsame | ⟨d', hcalls, hd'⟩
      · rw [hsame]
        exact ⟨c, hc, rfl⟩
      · rw [hcalls]
        exact hset hd hd'
    · exact ⟨c, hc, rfl⟩
  | drop j =>
    rw [Transport.step, Transport.drop]
    split
    · next d hd =>
      split
      · exact ⟨c, hc, rfl⟩
      · exact hset hd rfl
    · exact ⟨c, hc, rfl⟩
  | completeRequest id reply =>
    rw [Transport.step, Transport.completeRequest]
    split
    · exact ⟨c, hc, rfl⟩
    · rw [Transport.answer]
      split
      · next d hd =>
        split
        · exact ⟨c, hc, rfl⟩
        · exact hset hd rfl
      · exact ⟨c, hc, rfl⟩
  | receive ch =>
    rw [Transport.step]
    split
    · exact ⟨c, hc, rfl⟩
    · exact ⟨c, hc, rfl⟩
  | closeReceiver ch => exact ⟨c, hc, rfl⟩
  | foreignSend ch envelope => exact ⟨c, hc, rfl⟩

theorem enteredAt_append (ch : ℕ) (past more : List Traffic) :
    enteredAt ch (past ++ more) = enteredAt ch past ++ enteredAt ch more := List.filterMap_append

theorem leftAt_append (ch : ℕ) (past more : List Traffic) :
    leftAt ch (past ++ more) = leftAt ch past ++ leftAt ch more := List.filterMap_append

theorem leftAt_map_left (ch ch' : ℕ) (queue : List WireEnvelope) :
    leftAt ch (queue.map (.left ch')) = if ch' = ch then queue else [] := by
  rw [leftAt, List.filterMap_map]
  split
  · next h => simp [h]
  · next h => simp [h]

theorem enteredAt_map_left (ch ch' : ℕ) (queue : List WireEnvelope) :
    enteredAt ch (queue.map (.left ch')) = [] := by
  rw [enteredAt, List.filterMap_map]
  simp

/-- The same for a poll. -/
theorem poll_traffic_spec {s : Transport} {i : ℕ} {c : Call} (hc : s.calls[i]? = some c) :
    (∀ ch, leftAt ch (s.pollTraffic i c) ++ ((s.poll i).channels ch).queue =
      (s.channels ch).queue ++ enteredAt ch (s.pollTraffic i c)) ∧
    (s.poll i).sent = s.sent ++ (s.pollTraffic i c).filterMap Traffic.call ∧
    ∀ j ch envelope, .entered (some j) ch envelope ∈ s.pollTraffic i c →
      ∃ c : Call, s.calls[j]? = some c ∧ c.envelope = envelope := by
  have hpoll : s.poll i = s.advance i c := by rw [Transport.poll, hc]
  rcases advance_cases hc with ⟨ch, hadmits, hphase, hroute, heq⟩ | ⟨hchannels, hsent, hnot⟩
  · have hlt : i < s.calls.length := (List.getElem?_eq_some_iff.mp hc).1
    have htraffic : s.pollTraffic i c = [.entered (some i) ch c.envelope] := by
      have hnext : (s.poll i).calls[i]? = some { c with phase := c.afterSend (.ok ()) } := by
        rw [hpoll, heq]
        exact List.getElem?_set_self hlt
      have hdone : hasSent (c.afterSend (.ok ())) = true := by
        unfold Call.afterSend
        cases c.request <;> rfl
      rw [pollTraffic, hphase, hnext]
      dsimp only
      rw [if_pos hdone, hroute]
      rfl
    rw [htraffic, hpoll, heq]
    refine ⟨fun ch' => ?_, rfl, fun j ch' envelope hmem => ?_⟩
    · show (Function.update s.channels ch _ ch').queue = _
      by_cases hch : ch' = ch
      · subst hch
        rw [Function.update_self, Channel.enqueue_queue]
        simp [enteredAt]
      · rw [Function.update_of_ne hch]
        simp [enteredAt, Ne.symm hch]
    · cases List.mem_singleton.mp hmem
      exact ⟨c, hc, rfl⟩
  · have htraffic : s.pollTraffic i c = [] := by
      rw [pollTraffic, hpoll]
      split
      · next c' hphase hc' => rw [hnot hphase c' hc', if_neg Bool.false_ne_true]
      · rfl
    rw [htraffic, hpoll, hchannels, hsent]
    exact ⟨fun ch => (List.append_nil _).symm, (List.append_nil _).symm,
      fun _ _ _ h => (by cases h)⟩

/-- What a step puts into the channels and takes out of them. -/
theorem traffic_spec (uuid : UuidText) (s : Transport) (e : Event) :
    (∀ ch, leftAt ch (s.traffic e) ++ ((s.step uuid e).channels ch).queue =
      (s.channels ch).queue ++ enteredAt ch (s.traffic e)) ∧
    (s.step uuid e).sent = s.sent ++ (s.traffic e).filterMap Traffic.call ∧
    ∀ i ch envelope, .entered (some i) ch envelope ∈ s.traffic e →
      ∃ c : Call, s.calls[i]? = some c ∧ c.envelope = envelope := by
  -- an event that passes nothing
  have hnothing : ∀ {s' : Transport}, s'.channels = s.channels → s'.sent = s.sent →
      (∀ ch, leftAt ch [] ++ (s'.channels ch).queue =
        (s.channels ch).queue ++ enteredAt ch []) ∧
      s'.sent = s.sent ++ [].filterMap Traffic.call ∧
      ∀ i ch envelope, .entered (some i) ch envelope ∈ ([] : List Traffic) →
        ∃ c : Call, s.calls[i]? = some c ∧ c.envelope = envelope := by
    intro s' hchannels hsent
    refine ⟨fun ch => ?_, hsent.trans (List.append_nil _).symm, fun _ _ _ h => (by cases h)⟩
    rw [hchannels]
    exact (List.append_nil _).symm
  cases e with
  | registerNode node =>
    rw [Transport.step, Transport.registerNode]
    split
    · exact hnothing rfl rfl
    · exact hnothing rfl rfl
  | mergeRoutes entries =>
    rw [Transport.step, Transport.mergeRoutes]
    split
    · exact hnothing rfl rfl
    · exact hnothing rfl rfl
  | call kind target envelope => exact hnothing rfl rfl
  | poll i =>
    rw [Transport.step, Transport.traffic]
    rcases hc : s.calls[i]? with - | c
    · rw [Transport.poll, hc]
      exact hnothing rfl rfl
    · exact poll_traffic_spec hc
  | drop i =>
    rw [Transport.step, Transport.drop]
    split
    · split
      · exact hnothing rfl rfl
      · exact hnothing rfl rfl
    · exact hnothing rfl rfl
  | completeRequest id reply =>
    rw [Transport.step, Transport.completeRequest]
    split
    · exact hnothing rfl rfl
    · rw [Transport.answer]
      split
      · split
        · exact hnothing rfl rfl
        · exact hnothing rfl rfl
      · exact hnothing rfl rfl
  | receive ch =>
    rw [Transport.step, Transport.traffic]
    split
    · next envelope channel hrecv =>
      obtain ⟨hqueue, -, -⟩ := Channel.recv_eq_some hrecv
      rw [hqueue]
      refine ⟨fun ch' => ?_, (List.append_nil _).symm, fun _ _ _ h => ?_⟩
      · by_cases hch : ch' = ch
        · subst hch
          show leftAt ch' [.left ch' envelope] ++
            (Function.update s.channels ch' channel ch').queue = _
          rw [Function.update_self, hqueue]
          simp [leftAt, enteredAt]
        · show leftAt ch' [.left ch envelope] ++
            (Function.update s.channels ch channel ch').queue = _
          rw [Function.update_of_ne hch]
          simp [leftAt, enteredAt, Ne.symm hch]
      · simp at h
    · next hrecv =>
      rw [Channel.recv_eq_none.mp hrecv]
      exact hnothing rfl rfl
  | closeReceiver ch =>
    rw [Transport.step, Transport.traffic]
    refine ⟨fun ch' => ?_, ?_, fun _ _ _ h => ?_⟩
    · rw [leftAt_map_left, enteredAt_map_left, List.append_nil]
      show _ ++ (Function.update s.channels ch _ ch').queue = _
      by_cases hch : ch' = ch
      · subst hch
        rw [if_pos rfl, Function.update_self]
        exact List.append_nil _
      · rw [if_neg (Ne.symm hch), Function.update_of_ne hch]
        rfl
    · rw [List.filterMap_map]
      simp [Function.comp_def, Traffic.call, withChannel]
    · obtain ⟨_, -, h⟩ := List.mem_map.mp h
      cases h
  | foreignSend ch envelope =>
    have hoffer : ∀ ch', ((s.withChannel ch ((s.channels ch).offer envelope)).channels ch').queue =
        (s.channels ch').queue ++ enteredAt ch' (s.traffic (.foreignSend ch envelope)) := by
      intro ch'
      rw [Transport.traffic]
      by_cases hch : ch' = ch
      · subst hch
        show (Function.update s.channels ch' _ ch').queue = _
        rw [Function.update_self, Channel.offer_queue]
        split <;> simp [enteredAt]
      · show (Function.update s.channels ch _ ch').queue = _
        rw [Function.update_of_ne hch]
        split <;> simp [enteredAt, Ne.symm hch]
    rw [Transport.step]
    refine ⟨fun ch' => ?_, ?_, fun _ _ _ h => ?_⟩
    · rw [hoffer, Transport.traffic]
      split <;> simp [leftAt]
    · rw [Transport.traffic]
      split <;> simp [Traffic.call, withChannel]
    · rw [Transport.traffic] at h
      split at h
      · simp at h
      · cases h

theorem passed_step (uuid : UuidText) (past : List Traffic) (s : Transport) (e : Event)
    (h : Passed past s) : Passed (past ++ s.traffic e) (s.step uuid e) := by
  obtain ⟨hchannels, hsent, hnew⟩ := traffic_spec uuid s e
  refine ⟨fun ch => ?_, ?_, fun i ch envelope hmem => ?_⟩
  · rw [leftAt_append, enteredAt_append, List.append_assoc, hchannels ch, ← List.append_assoc,
      h.conserved ch]
  · rw [List.filterMap_append, h.calls, hsent]
  · have hold : ∃ c : Call, s.calls[i]? = some c ∧ c.envelope = envelope := by
      rcases List.mem_append.mp hmem with hmem | hmem
      · exact h.envelope i ch envelope hmem
      · exact hnew i ch envelope hmem
    obtain ⟨c, hc, henvelope⟩ := hold
    obtain ⟨c', hc', hsame⟩ := envelope_step uuid s e hc
    exact ⟨c', hc', hsame.trans henvelope⟩

theorem passed_new : Passed [] new := ⟨fun _ => rfl, rfl, fun _ _ _ h => (by cases h)⟩

/-! ### What a call owes

The bookkeeping of one request: whether its entry is in `pending`, whether its envelope was
sent, and its reply. -/

/-- The replies that were accepted under a request id. -/
def accepted (s : Transport) (id : Uuid) : List WireEnvelope :=
  s.completions.filterMap fun
    | (id', reply, .ok _) => if id' = id then some reply else none
    | (_, _, .error _) => none

/-- How the books of a request stand in each phase. -/
def Balanced (owned sent : Prop) (reply : Option WireEnvelope) : Phase → Prop
  | .registering => ¬ owned ∧ reply = none ∧ ¬ sent
  | .sending => (owned ↔ reply = none) ∧ ¬ sent
  | .cleaning e => (owned ↔ reply = none) ∧ ¬ sent ∧ e ≠ replySenderDropped
  | .waiting => (owned ↔ reply = none) ∧ sent
  | .returned (.ok r) => ¬ owned ∧ r = reply ∧ reply ≠ none ∧ sent
  | .returned (.error e) => ¬ owned ∧ ¬ sent ∧ e ≠ replySenderDropped
  | .dropped => owned → reply = none

/-- Whatever the phase, an entry means that no reply has come. -/
theorem Balanced.no_reply {owned sent : Prop} {reply : Option WireEnvelope} {phase : Phase}
    (h : Balanced owned sent reply phase) (howned : owned) : reply = none := by
  cases phase with
  | registering => exact absurd howned h.1
  | sending => exact h.1.mp howned
  | cleaning e => exact h.1.mp howned
  | waiting => exact h.1.mp howned
  | returned result =>
    cases result with
    | ok r => exact absurd howned h.1
    | error e => exact absurd howned h.1
  | dropped => exact h howned

/-- The reply comes and the entry goes. -/
theorem Balanced.answered {owned owned' sent : Prop} {c : Call}
    (h : Balanced owned sent c.reply c.phase) (howned : owned) (hgone : ¬ c.gone = true)
    (howned' : ¬ owned') (reply : WireEnvelope) : Balanced owned' sent (some reply) c.phase := by
  have hiff : owned' ↔ some reply = none := iff_of_false howned' (Option.some_ne_none reply)
  rw [Call.gone] at hgone
  cases hphase : c.phase with
  | registering => rw [hphase] at h; exact absurd howned h.1
  | sending => rw [hphase] at h; exact ⟨hiff, h.2⟩
  | cleaning e => rw [hphase] at h; exact ⟨hiff, h.2⟩
  | waiting => rw [hphase] at h; exact ⟨hiff, h.2⟩
  | returned result => rw [hphase] at hgone; exact absurd rfl hgone
  | dropped => rw [hphase] at hgone; exact absurd rfl hgone

/-- A call that waits for no reply is sent exactly if it returns without an error. -/
def SendBalanced (sent : Prop) : Phase → Prop
  | .sending => ¬ sent
  | .returned (.ok r) => sent ∧ r = none
  | .returned (.error _) => ¬ sent
  | .dropped => True
  | _ => False

/-- The books of the transport: request ids are not shared, every entry of `pending` belongs
to the request with its id, and the books of every call are balanced. -/
structure Books (s : Transport) : Prop where
  distinct : ∀ (i j : ℕ) (c c' : Call) id, s.calls[i]? = some c → s.calls[j]? = some c' →
    c.request = some id → c'.request = some id → i = j
  owner : ∀ id (i : ℕ), s.pending.lookup id = some i →
    ∃ c : Call, s.calls[i]? = some c ∧ c.request = some id
  request : ∀ (i : ℕ) (c : Call) id, s.calls[i]? = some c → c.request = some id →
    Balanced (s.pending.lookup id = some i) (i ∈ s.sent) c.reply c.phase ∧
      s.accepted id = c.reply.toList
  send : ∀ (i : ℕ) (c : Call), s.calls[i]? = some c → c.request = none →
    SendBalanced (i ∈ s.sent) c.phase
  unused : ∀ id, (∀ (i : ℕ) (c : Call), s.calls[i]? = some c → c.request ≠ some id) →
    s.accepted id = []
  sent : s.sent.Nodup ∧ ∀ i ∈ s.sent, i < s.calls.length

/-- A step that changes one call and nothing in the books of the others. -/
structure Touches (s s' : Transport) (i : ℕ) (c c' : Call) : Prop where
  before : s.calls[i]? = some c
  calls : s'.calls = s.calls.set i c'
  same : c'.request = c.request
  others : ∀ id, c.request ≠ some id →
    s'.pending.lookup id = s.pending.lookup id ∧ s'.accepted id = s.accepted id
  own : ∀ id, c.request = some id → ∀ j, s'.pending.lookup id = some j → j = i
  sent : s'.sent = s.sent ∨ i ∉ s.sent ∧ s'.sent = s.sent ++ [i]

theorem Touches.mem_sent {s s' : Transport} {i : ℕ} {c c' : Call} (h : Touches s s' i c c')
    {j : ℕ} (hj : j ≠ i) : j ∈ s'.sent ↔ j ∈ s.sent := by
  rcases h.sent with hsame | ⟨-, hmore⟩
  · rw [hsame]
  · rw [hmore, List.mem_append, List.mem_singleton]
    exact or_iff_left hj

theorem Touches.getElem? {s s' : Transport} {i : ℕ} {c c' : Call} (h : Touches s s' i c c')
    (j : ℕ) : s'.calls[j]? = if j = i then some c' else s.calls[j]? := by
  rw [h.calls]
  by_cases hj : j = i
  · subst hj
    rw [if_pos rfl]
    exact List.getElem?_set_self (List.getElem?_eq_some_iff.mp h.before).1
  · rw [if_neg hj]
    exact List.getElem?_set_ne (Ne.symm hj)

/-- The books stay balanced when those of the call do. -/
theorem Books.touch {s s' : Transport} {i : ℕ} {c c' : Call} (h : s.Books)
    (ht : Touches s s' i c c')
    (hrequest : ∀ id, c.request = some id →
      Balanced (s'.pending.lookup id = some i) (i ∈ s'.sent) c'.reply c'.phase ∧
        s'.accepted id = c'.reply.toList)
    (hsend : c.request = none → SendBalanced (i ∈ s'.sent) c'.phase) : s'.Books := by
  -- a call of the new transport is the one that changed, or one from before
  have hcase : ∀ (j : ℕ) (d : Call), s'.calls[j]? = some d →
      j = i ∧ d = c' ∨ j ≠ i ∧ s.calls[j]? = some d := by
    intro j d hd
    rw [ht.getElem?] at hd
    split at hd
    · next hj => exact .inl ⟨hj, (Option.some.inj hd).symm⟩
    · next hj => exact .inr ⟨hj, hd⟩
  have hold : ∀ (j : ℕ) (d : Call), s'.calls[j]? = some d →
      ∃ d' : Call, s.calls[j]? = some d' ∧ d'.request = d.request := by
    intro j d hd
    rcases hcase j d hd with ⟨rfl, rfl⟩ | ⟨-, hd⟩
    · exact ⟨c, ht.before, ht.same.symm⟩
    · exact ⟨d, hd, rfl⟩
  have hnew : ∀ (j : ℕ) (d : Call), s.calls[j]? = some d →
      ∃ d' : Call, s'.calls[j]? = some d' ∧ d'.request = d.request := by
    intro j d hd
    rw [ht.getElem?]
    by_cases hj : j = i
    · subst hj
      rw [ht.before] at hd
      cases hd
      exact ⟨c', if_pos rfl, ht.same⟩
    · exact ⟨d, by rw [if_neg hj, hd], rfl⟩
  constructor
  · intro j k d d' id hd hd' hid hid'
    obtain ⟨e, he, hre⟩ := hold j d hd
    obtain ⟨e', he', hre'⟩ := hold k d' hd'
    exact h.distinct j k e e' id he he' (hre.trans hid) (hre'.trans hid')
  · intro id j hj
    by_cases hid : c.request = some id
    · have := ht.own id hid j hj
      subst this
      exact ⟨c', by rw [ht.getElem?, if_pos rfl], ht.same.trans hid⟩
    · rw [(ht.others id hid).1] at hj
      obtain ⟨d, hd, hrd⟩ := h.owner id j hj
      obtain ⟨d', hd', hre⟩ := hnew j d hd
      exact ⟨d', hd', hre.trans hrd⟩
  · intro j d id hd hid
    rcases hcase j d hd with ⟨rfl, rfl⟩ | ⟨hj, hd⟩
    · exact hrequest id (ht.same.symm.trans hid)
    · have hne : c.request ≠ some id := fun hc => hj (h.distinct j i d c id hd ht.before hid hc)
      rw [(ht.others id hne).1, (ht.others id hne).2]
      have hbal := h.request j d id hd hid
      rw [← iff_iff_eq.mp (ht.mem_sent hj)] at hbal
      exact hbal
  · intro j d hd hid
    rcases hcase j d hd with ⟨rfl, rfl⟩ | ⟨hj, hd⟩
    · exact hsend (ht.same.symm.trans hid)
    · rw [iff_iff_eq.mp (ht.mem_sent hj)]
      exact h.send j d hd hid
  · intro id hunused
    have hne : c.request ≠ some id := fun hc =>
      hunused i c' (by rw [ht.getElem?, if_pos rfl]) (ht.same.trans hc)
    rw [(ht.others id hne).2]
    apply h.unused id
    intro j d hd hrd
    obtain ⟨d', hd', hre⟩ := hnew j d hd
    exact hunused j d' hd' (hre.trans hrd)
  · have hlength : s'.calls.length = s.calls.length := by rw [ht.calls, List.length_set]
    have hi : i < s.calls.length := (List.getElem?_eq_some_iff.mp ht.before).1
    rw [hlength]
    rcases ht.sent with hsame | ⟨hfresh, hmore⟩
    · rw [hsame]
      exact h.sent
    · rw [hmore]
      refine ⟨?_, ?_⟩
      · exact List.nodup_append.mpr ⟨h.sent.1, List.nodup_singleton i, by
          rintro a ha b hb rfl
          rw [List.mem_singleton.mp hb] at ha
          exact hfresh ha⟩
      · intro j hj
        rcases List.mem_append.mp hj with hj | hj
        · exact h.sent.2 j hj
        · rw [List.mem_singleton.mp hj]
          exact hi

/-- Nothing that the books are about changes. -/
theorem Books.congr {s s' : Transport} (h : s.Books) (hcalls : s'.calls = s.calls)
    (hpending : s'.pending = s.pending) (hsent : s'.sent = s.sent)
    (haccepted : ∀ id, s'.accepted id = s.accepted id) : s'.Books := by
  obtain ⟨hdistinct, howner, hrequest, hsend, hunused, hnodup⟩ := h
  refine ⟨?_, ?_, ?_, ?_, ?_, ?_⟩
  · rw [hcalls]
    exact hdistinct
  · rw [hcalls, hpending]
    exact howner
  · intro i c id hc hid
    rw [hcalls] at hc
    rw [hpending, hsent, haccepted]
    exact hrequest i c id hc hid
  · rw [hcalls, hsent]
    exact hsend
  · intro id hid
    rw [hcalls] at hid
    rw [haccepted]
    exact hunused id hid
  · rw [hcalls, hsent]
    exact hnodup

/-! ### One stretch of a call -/

section Stretch

variable {s : Transport} {i : ℕ} {c : Call}

/-- The entry under the id of a call is its own. -/
theorem Books.own (h : s.Books) (hc : s.calls[i]? = some c) (id : Uuid)
    (hid : c.request = some id) (j : ℕ) (hj : s.pending.lookup id = some j) : j = i := by
  obtain ⟨d, hd, hrd⟩ := h.owner id j hj
  exact h.distinct j i d c id hd hc hrd hid

/-- A send that fails, with an error of its own. -/
theorem Books.sendFails (h : s.Books) (hc : s.calls[i]? = some c) (hphase : c.phase = .sending)
    {e : TransportError} (he : e ≠ replySenderDropped) : (s.finishSend i c (.error e)).Books := by
  have ht : Touches s (s.finishSend i c (.error e)) i c
      { c with phase := c.afterSend (.error e) } :=
    ⟨hc, rfl, rfl, fun _ _ => ⟨rfl, rfl⟩, h.own hc, .inl rfl⟩
  apply h.touch ht
  · intro id hid
    obtain ⟨hbalanced, haccepted⟩ := h.request i c id hc hid
    rw [hphase] at hbalanced
    refine ⟨?_, haccepted⟩
    show Balanced _ _ _ (c.afterSend (.error e))
    unfold Call.afterSend
    rw [hid]
    exact ⟨hbalanced.1, hbalanced.2, he⟩
  · intro hid
    have hbalanced := h.send i c hc hid
    rw [hphase] at hbalanced
    show SendBalanced _ (c.afterSend (.error e))
    unfold Call.afterSend
    rw [hid]
    exact hbalanced

/-- A send that succeeds. -/
theorem Books.sendSucceeds (h : s.Books) (hc : s.calls[i]? = some c)
    (hphase : c.phase = .sending) (ch : ℕ) (channel : Channel WireEnvelope) :
    ({ s with
        channels := Function.update s.channels ch channel
        sent := s.sent ++ [i] }.finishSend i c (.ok ())).Books := by
  have hunsent : i ∉ s.sent := by
    cases hid : c.request with
    | none =>
      have hbalanced := h.send i c hc hid
      rw [hphase] at hbalanced
      exact hbalanced
    | some id =>
      have hbalanced := (h.request i c id hc hid).1
      rw [hphase] at hbalanced
      exact hbalanced.2
  have hsent : i ∈ s.sent ++ [i] := List.mem_append_right _ List.mem_cons_self
  have ht : Touches s ({ s with
        channels := Function.update s.channels ch channel
        sent := s.sent ++ [i] }.finishSend i c (.ok ())) i c
      { c with phase := c.afterSend (.ok ()) } :=
    ⟨hc, rfl, rfl, fun _ _ => ⟨rfl, rfl⟩, h.own hc, .inr ⟨hunsent, rfl⟩⟩
  apply h.touch ht
  · intro id hid
    obtain ⟨hbalanced, haccepted⟩ := h.request i c id hc hid
    rw [hphase] at hbalanced
    refine ⟨?_, haccepted⟩
    show Balanced _ _ _ (c.afterSend (.ok ()))
    unfold Call.afterSend
    rw [hid]
    exact ⟨hbalanced.1, hsent⟩
  · intro hid
    show SendBalanced _ (c.afterSend (.ok ()))
    unfold Call.afterSend
    rw [hid]
    exact ⟨hsent, rfl⟩

theorem noRoute_ne (n : NodeId) : (⟨"no route to " ++ n.display⟩ : TransportError) ≠
    replySenderDropped := by
  intro h
  have hlist := congrArg (fun e => e.message.toList) h
  simp [replySenderDropped] at hlist

theorem channelClosed_ne (n : NodeId) : (⟨"channel closed for " ++ n.display⟩ : TransportError) ≠
    replySenderDropped := by
  intro h
  have hlist := congrArg (fun e => e.message.toList) h
  simp [replySenderDropped] at hlist

theorem Books.sendLocked (h : s.Books) (hc : s.calls[i]? = some c) (hphase : c.phase = .sending) :
    (s.sendLocked i c).Books := by
  rw [Transport.sendLocked]
  split
  · exact h.sendFails hc hphase (noRoute_ne c.target)
  · next ch _ =>
    split
    · next channel _ => exact h.sendSucceeds hc hphase ch channel
    · exact h.sendFails hc hphase (channelClosed_ne c.target)
    · exact h.congr rfl rfl rfl fun _ => rfl

theorem Books.registering (h : s.Books) (hc : s.calls[i]? = some c)
    (hphase : c.phase = .registering) {id : Uuid} (hid : c.request = some id) :
    ({ s with pending := s.pending.insert id i }.setPhase i c .sending).Books := by
  have ht : Touches s ({ s with pending := s.pending.insert id i }.setPhase i c .sending) i c
      { c with phase := .sending } := by
    refine ⟨hc, rfl, rfl, ?_, ?_, .inl rfl⟩
    · intro id' hid'
      have hne : id' ≠ id := fun heq => hid' (heq ▸ hid)
      exact ⟨Finmap.lookup_insert_of_ne _ hne, rfl⟩
    · intro id' hid' j hj
      rw [hid] at hid'
      cases hid'
      exact (Option.some.inj ((Finmap.lookup_insert _).symm.trans hj)).symm
  apply h.touch ht
  · intro id' hid'
    rw [hid] at hid'
    cases hid'
    obtain ⟨hbalanced, haccepted⟩ := h.request i c id hc hid
    rw [hphase] at hbalanced
    refine ⟨⟨?_, hbalanced.2.2⟩, haccepted⟩
    exact iff_of_true (Finmap.lookup_insert _) hbalanced.2.1
  · intro hnone
    rw [hid] at hnone
    cases hnone

theorem not_owned_erase (id : Uuid) (j : ℕ) : ¬ (s.pending.erase id).lookup id = some j := by
  rw [Finmap.lookup_erase]
  intro h
  cases h

theorem others_erase {id id' : Uuid} (hid : c.request = some id) (hid' : c.request ≠ some id') :
    (s.pending.erase id).lookup id' = s.pending.lookup id' := by
  have hne : id' ≠ id := fun heq => hid' (heq ▸ hid)
  exact Finmap.lookup_erase_ne hne

theorem own_erase {id : Uuid} (hid : c.request = some id) (id' : Uuid)
    (hid' : c.request = some id') (j : ℕ) (hj : (s.pending.erase id).lookup id' = some j) :
    j = i := by
  rw [hid] at hid'
  cases hid'
  exact absurd hj (not_owned_erase id j)

theorem Books.cleaning (h : s.Books) (hc : s.calls[i]? = some c) {e : TransportError}
    (hphase : c.phase = .cleaning e) {id : Uuid} (hid : c.request = some id) :
    ({ s with pending := s.pending.erase id }.setPhase i c (.returned (.error e))).Books := by
  have ht : Touches s
      ({ s with pending := s.pending.erase id }.setPhase i c (.returned (.error e))) i c
      { c with phase := .returned (.error e) } :=
    ⟨hc, rfl, rfl, fun id' hid' => ⟨others_erase hid hid', rfl⟩, own_erase hid, .inl rfl⟩
  apply h.touch ht
  · intro id' hid'
    rw [hid] at hid'
    cases hid'
    obtain ⟨hbalanced, haccepted⟩ := h.request i c id hc hid
    rw [hphase] at hbalanced
    exact ⟨⟨not_owned_erase id i, hbalanced.2.1, hbalanced.2.2⟩, haccepted⟩
  · intro hnone
    rw [hid] at hnone
    cases hnone

theorem Books.awaitReply (h : s.Books) (hc : s.calls[i]? = some c) (hphase : c.phase = .waiting)
    {id : Uuid} (hid : c.request = some id) : (s.awaitReply i c id).Books := by
  obtain ⟨hbalanced, haccepted⟩ := h.request i c id hc hid
  rw [hphase] at hbalanced
  rw [Transport.awaitReply]
  cases hreply : c.reply with
  | none =>
    -- the oneshot sender is still in the map
    rw [hreply] at hbalanced
    rw [if_pos (hbalanced.1.mpr rfl)]
    exact h
  | some reply =>
    rw [hreply] at hbalanced
    have ht : Touches s (s.setPhase i c (.returned (.ok (some reply)))) i c
        { c with phase := .returned (.ok (some reply)) } :=
      ⟨hc, rfl, rfl, fun _ _ => ⟨rfl, rfl⟩, h.own hc, .inl rfl⟩
    apply h.touch ht
    · intro id' hid'
      rw [hid] at hid'
      cases hid'
      refine ⟨?_, haccepted⟩
      show Balanced _ _ c.reply (.returned (.ok (some reply)))
      rw [hreply]
      refine ⟨?_, rfl, Option.some_ne_none _, hbalanced.2⟩
      intro howned
      cases hbalanced.1.mp howned
    · intro hnone
      rw [hid] at hnone
      cases hnone

theorem Books.advance (h : s.Books) (hc : s.calls[i]? = some c) : (s.advance i c).Books := by
  rw [Transport.advance]
  split
  · next id hphase hid => exact h.registering hc hphase hid
  · next hphase =>
    split
    · exact h.sendLocked hc hphase
    · exact h
  · next e id hphase hid => exact h.cleaning hc hphase hid
  · next id hphase hid => exact h.awaitReply hc hphase hid
  · exact h

end Stretch

/-! ### The other steps -/

theorem Books.poll {s : Transport} (h : s.Books) (i : ℕ) : (s.poll i).Books := by
  rw [Transport.poll]
  cases hc : s.calls[i]? with
  | none => exact h
  | some c => exact h.advance hc

theorem Books.drop {s : Transport} (h : s.Books) (i : ℕ) : (s.drop i).Books := by
  rw [Transport.drop]
  cases hc : s.calls[i]? with
  | none => exact h
  | some c =>
    dsimp only
    split
    · exact h
    · have ht : Touches s
          ({ s with holder := if s.holder = some i then none else s.holder }.setPhase i c .dropped)
          i c { c with phase := .dropped } :=
        ⟨hc, rfl, rfl, fun _ _ => ⟨rfl, rfl⟩, h.own hc, .inl rfl⟩
      apply h.touch ht
      · intro id hid
        obtain ⟨hbalanced, haccepted⟩ := h.request i c id hc hid
        refine ⟨?_, haccepted⟩
        exact fun howned => hbalanced.no_reply howned
      · intro _
        exact trivial

theorem accepted_logged (s : Transport) (id id' : Uuid) (reply : WireEnvelope)
    (result : Except TransportError Unit) :
    (s.logged id reply result).accepted id' =
      s.accepted id' ++ (match result with
        | .ok _ => if id = id' then [reply] else []
        | .error _ => []) := by
  rw [accepted, logged, List.filterMap_append]
  cases result with
  | error e => rfl
  | ok u =>
    by_cases h : id = id'
    · simp [accepted, h]
    · simp [accepted, h]

theorem Books.logged_error {s : Transport} (h : s.Books) (id : Uuid) (reply : WireEnvelope)
    (e : TransportError) : (s.logged id reply (.error e)).Books :=
  h.congr rfl rfl rfl fun id' => by
    rw [accepted_logged]
    exact List.append_nil _

theorem Books.completeRequest (uuid : UuidText) {s : Transport} (h : s.Books) (id : Uuid)
    (reply : WireEnvelope) : (s.completeRequest uuid id reply).Books := by
  rw [Transport.completeRequest]
  cases howned : s.pending.lookup id with
  | none => exact h.logged_error id reply _
  | some i =>
    obtain ⟨c, hc, hid⟩ := h.owner id i howned
    obtain ⟨hbalanced, haccepted⟩ := h.request i c id hc hid
    dsimp only
    rw [Transport.answer]
    have hcalls : { s with pending := s.pending.erase id }.calls[i]? = some c := hc
    rw [hcalls]
    dsimp only
    split
    · next hgone =>
      -- only a dropped call can have left its entry behind
      have hphase : c.phase = .dropped := by
        cases hphase : c.phase with
        | returned result =>
          rw [hphase] at hbalanced
          cases result with
          | ok r => exact absurd howned hbalanced.1
          | error e => exact absurd howned hbalanced.1
        | dropped => rfl
        | _ => rw [Call.gone, hphase] at hgone; cases hgone
      apply Books.logged_error
      have ht : Touches s { s with pending := s.pending.erase id } i c c :=
        ⟨hc, (set_eq_self hc).symm, rfl,
          fun id' hid' => ⟨others_erase hid hid', rfl⟩, own_erase hid, .inl rfl⟩
      apply h.touch ht
      · intro id' hid'
        rw [hid] at hid'
        cases hid'
        refine ⟨?_, haccepted⟩
        rw [hphase]
        exact fun howned' => absurd howned' (not_owned_erase id i)
      · intro hnone
        rw [hid] at hnone
        cases hnone
    · next hgone =>
      have ht : Touches s (({ s with
          pending := s.pending.erase id
          calls := s.calls.set i { c with reply := some reply } } : Transport).logged id reply
            (.ok ())) i c { c with reply := some reply } := by
        refine ⟨hc, rfl, rfl, ?_, own_erase hid, .inl rfl⟩
        intro id' hid'
        refine ⟨others_erase hid hid', ?_⟩
        rw [accepted_logged]
        have hne : id ≠ id' := fun heq => hid' (heq ▸ hid)
        show s.accepted id' ++ (if id = id' then [reply] else []) = _
        rw [if_neg hne, List.append_nil]
      apply h.touch ht
      · intro id' hid'
        rw [hid] at hid'
        cases hid'
        refine ⟨hbalanced.answered howned hgone (not_owned_erase id i) reply, ?_⟩
        rw [accepted_logged]
        show s.accepted id ++ (if id = id then [reply] else []) = [reply]
        rw [if_pos rfl, haccepted, hbalanced.no_reply howned]
        rfl
      · intro hnone
        rw [hid] at hnone
        cases hnone

/-- A new request does not use the id of another one. -/
def FreshId (s : Transport) : Event → Prop
  | .call .sendRequest _ envelope =>
    ∀ c ∈ s.calls, ∀ id, c.request = some id → envelope.requestId ≠ some id
  | _ => True

/-- A call that has just started: nothing is in the books for its id. -/
theorem Books.call {s : Transport} (h : s.Books) (kind : Kind) (target : NodeId)
    (envelope : WireEnvelope) (hfresh : s.FreshId (.call kind target envelope)) :
    ({ s with calls := s.calls ++ [.start kind target envelope] } : Transport).Books := by
  have hnone : ∀ c : Call, c ∈ s.calls → ∀ id, c.request = some id →
      (Call.start kind target envelope).request ≠ some id := by
    intro c hc id hid
    cases kind with
    | send => exact fun hcon => (by cases hcon)
    | sendRequest => exact hfresh c hc id hid
  have hunsent : s.calls.length ∉ s.sent := fun hmem => Nat.lt_irrefl _ (h.sent.2 _ hmem)
  -- a call is an old one or the new one
  have hcase : ∀ (j : ℕ) (d : Call), (s.calls ++ [Call.start kind target envelope])[j]? = some d →
      s.calls[j]? = some d ∨ j = s.calls.length ∧ d = .start kind target envelope := by
    intro j d hd
    rcases Nat.lt_trichotomy j s.calls.length with hlt | rfl | hgt
    · rw [List.getElem?_append_left hlt] at hd
      exact .inl hd
    · rw [List.getElem?_append_right le_rfl, Nat.sub_self] at hd
      exact .inr ⟨rfl, (Option.some.inj hd).symm⟩
    · rw [List.getElem?_eq_none (by rw [List.length_append]; exact hgt)] at hd
      cases hd
  have hkeep : ∀ (j : ℕ) (d : Call), s.calls[j]? = some d →
      (s.calls ++ [Call.start kind target envelope])[j]? = some d := by
    intro j d hd
    rw [List.getElem?_append_left (List.getElem?_eq_some_iff.mp hd).1, hd]
  constructor
  · intro i j c c' id hc hc' hid hid'
    rcases hcase i c hc with hc | ⟨rfl, rfl⟩
    · rcases hcase j c' hc' with hc' | ⟨rfl, rfl⟩
      · exact h.distinct i j c c' id hc hc' hid hid'
      · exact absurd hid' (hnone c (List.mem_of_getElem? hc) id hid)
    · rcases hcase j c' hc' with hc' | ⟨rfl, -⟩
      · exact absurd hid (hnone c' (List.mem_of_getElem? hc') id hid')
      · rfl
  · intro id i hi
    obtain ⟨c, hc, hid⟩ := h.owner id i hi
    exact ⟨c, hkeep i c hc, hid⟩
  · intro i c id hc hid
    rcases hcase i c hc with hc | ⟨rfl, rfl⟩
    · exact h.request i c id hc hid
    · have hunused : s.accepted id = [] := h.unused id fun j d hd hrd =>
        hnone d (List.mem_of_getElem? hd) id hrd hid
      refine ⟨?_, hunused⟩
      have hunowned : ¬ s.pending.lookup id = some s.calls.length := by
        intro hown
        obtain ⟨d, hd, -⟩ := h.owner id _ hown
        exact Nat.lt_irrefl _ (List.getElem?_eq_some_iff.mp hd).1
      cases kind with
      | send => cases hid
      | sendRequest =>
        have hphase : (Call.start .sendRequest target envelope).phase = .registering := by
          rw [Call.start, show envelope.requestId = some id from hid]
        rw [hphase]
        exact ⟨hunowned, rfl, hunsent⟩
  · intro i c hc hid
    rcases hcase i c hc with hc | ⟨rfl, rfl⟩
    · exact h.send i c hc hid
    · cases kind with
      | send => exact hunsent
      | sendRequest =>
        have hphase : (Call.start .sendRequest target envelope).phase =
            .returned (.error ⟨"send_request requires a request_id"⟩) := by
          rw [Call.start, show envelope.requestId = none from hid]
        rw [hphase]
        exact hunsent
  · intro id hunused
    exact h.unused id fun j d hd => hunused j d (hkeep j d hd)
  · refine ⟨h.sent.1, fun i hi => ?_⟩
    rw [List.length_append]
    exact Nat.lt_succ_of_lt (h.sent.2 i hi)

theorem Books.step (uuid : UuidText) {s : Transport} (e : Event) (hfresh : s.FreshId e)
    (h : s.Books) : (s.step uuid e).Books := by
  cases e with
  | registerNode node =>
    show (s.registerNode node).Books
    rw [Transport.registerNode]
    split
    · exact h.congr rfl rfl rfl fun _ => rfl
    · exact h
  | mergeRoutes entries =>
    show (s.mergeRoutes entries).Books
    rw [Transport.mergeRoutes]
    split
    · exact h.congr rfl rfl rfl fun _ => rfl
    · exact h
  | call kind target envelope => exact h.call kind target envelope hfresh
  | poll i => exact h.poll i
  | drop i => exact h.drop i
  | completeRequest id reply => exact h.completeRequest uuid id reply
  | receive ch =>
    rw [Transport.step]
    split
    · exact h.congr rfl rfl rfl fun _ => rfl
    · exact h
  | closeReceiver ch => exact h.congr rfl rfl rfl fun _ => rfl
  | foreignSend ch envelope => exact h.congr rfl rfl rfl fun _ => rfl

theorem books_new : new.Books where
  distinct := fun i j c c' id hc => by cases hc
  owner := fun id i h => by
    cases (Finmap.lookup_empty id).symm.trans h
  request := fun i c id hc => by cases hc
  send := fun i c hc => by cases hc
  unused := fun _ _ => rfl
  sent := ⟨List.nodup_nil, fun i hi => by cases hi⟩

/-! ### Requests and replies -/

/-- The call has an entry of its own to expect, or its reply. -/
def Awaiting : Phase → Prop
  | .sending | .cleaning _ | .waiting => True
  | .registering | .returned _ | .dropped => False

/-- How often the envelope of a call is put into a channel. -/
def deliveries : Except TransportError (Option WireEnvelope) → ℕ
  | .ok _ => 1
  | .error _ => 0

/-- What the transport owes its callers. -/
structure Exact (uuid : UuidText) (s : Transport) : Prop where
  /-- A reply is the one that was accepted under the request id, and there is no other. -/
  replied : ∀ (i : ℕ) (c : Call) id r, s.calls[i]? = some c → c.request = some id →
    c.phase = .returned (.ok r) → ∃ reply, r = some reply ∧ s.accepted id = [reply]
  /-- The envelope of a call that has returned is in a channel once, or, with an error, never. -/
  delivered : ∀ (i : ℕ) (c : Call) result, s.calls[i]? = some c → c.phase = .returned result →
    s.sent.count i = deliveries result
  /-- No caller is told that the sender of its reply is gone. -/
  kept : ∀ (i : ℕ) (c : Call) id, s.calls[i]? = some c → c.request = some id →
    c.phase ≠ .returned (.error replySenderDropped)
  /-- A completion is accepted exactly if somebody waits for it. -/
  completed : ∀ id reply,
    (s.completeRequest uuid id reply).completions = s.completions ++ [(id, reply, .ok ())] ↔
      ∃ (i : ℕ) (c : Call), s.calls[i]? = some c ∧ c.request = some id ∧ Awaiting c.phase ∧
        s.accepted id = []
  /-- Only requests that wait, or whose caller is gone, have an entry. -/
  pending : ∀ id i, s.pending.lookup id = some i → ∃ c : Call, s.calls[i]? = some c ∧
    c.request = some id ∧ s.accepted id = [] ∧ (Awaiting c.phase ∨ c.phase = .dropped)

theorem Books.delivered {s : Transport} (h : s.Books) (i : ℕ) (c : Call)
    (result : Except TransportError (Option WireEnvelope)) (hc : s.calls[i]? = some c)
    (hphase : c.phase = .returned result) :
    s.sent.count i = deliveries result := by
  have hsent : i ∈ s.sent ↔ result.toBool = true := by
    cases hid : c.request with
    | none =>
      have hbalanced := h.send i c hc hid
      rw [hphase] at hbalanced
      cases result with
      | ok r => exact iff_of_true hbalanced.1 rfl
      | error e => exact iff_of_false hbalanced Bool.false_ne_true
    | some id =>
      have hbalanced := (h.request i c id hc hid).1
      rw [hphase] at hbalanced
      cases result with
      | ok r => exact iff_of_true hbalanced.2.2.2 rfl
      | error e => exact iff_of_false hbalanced.2.1 Bool.false_ne_true
  cases result with
  | ok r => exact List.count_eq_one_of_mem h.sent.1 (hsent.mpr rfl)
  | error e => exact List.count_eq_zero.mpr fun hmem => Bool.false_ne_true (hsent.mp hmem)

/-- The entry of a request, with what its phase says. -/
theorem Books.pending {s : Transport} (h : s.Books) (id : Uuid) (i : ℕ)
    (howned : s.pending.lookup id = some i) : ∃ c : Call, s.calls[i]? = some c ∧
      c.request = some id ∧ s.accepted id = [] ∧ (Awaiting c.phase ∨ c.phase = .dropped) := by
  obtain ⟨c, hc, hid⟩ := h.owner id i howned
  obtain ⟨hbalanced, haccepted⟩ := h.request i c id hc hid
  refine ⟨c, hc, hid, ?_, ?_⟩
  · rw [haccepted, hbalanced.no_reply howned]
    rfl
  · cases hphase : c.phase with
    | registering => rw [hphase] at hbalanced; exact absurd howned hbalanced.1
    | sending => exact .inl trivial
    | cleaning e => exact .inl trivial
    | waiting => exact .inl trivial
    | returned result =>
      rw [hphase] at hbalanced
      cases result with
      | ok r => exact absurd howned hbalanced.1
      | error e => exact absurd howned hbalanced.1
    | dropped => exact .inr rfl

/-- A request that waits without a reply has its entry. -/
theorem Books.owned {s : Transport} (h : s.Books) {i : ℕ} {c : Call} {id : Uuid}
    (hc : s.calls[i]? = some c) (hid : c.request = some id) (hphase : Awaiting c.phase)
    (hnone : s.accepted id = []) : s.pending.lookup id = some i := by
  obtain ⟨hbalanced, haccepted⟩ := h.request i c id hc hid
  have hreply : c.reply = none := by
    rw [hnone] at haccepted
    cases hr : c.reply with
    | none => rfl
    | some r => rw [hr] at haccepted; cases haccepted
  cases hp : c.phase with
  | sending => rw [hp] at hbalanced; exact hbalanced.1.mpr hreply
  | cleaning e => rw [hp] at hbalanced; exact hbalanced.1.mpr hreply
  | waiting => rw [hp] at hbalanced; exact hbalanced.1.mpr hreply
  | _ => rw [hp] at hphase; exact hphase.elim

theorem Books.completed (uuid : UuidText) {s : Transport} (h : s.Books) (id : Uuid)
    (reply : WireEnvelope) :
    (s.completeRequest uuid id reply).completions = s.completions ++ [(id, reply, .ok ())] ↔
      ∃ (i : ℕ) (c : Call), s.calls[i]? = some c ∧ c.request = some id ∧ Awaiting c.phase ∧
        s.accepted id = [] := by
  rw [Transport.completeRequest]
  cases howned : s.pending.lookup id with
  | none =>
    apply iff_of_false
    · intro heq
      have hlast := List.append_cancel_left heq
      cases hlast
    · rintro ⟨i, c, hc, hid, hphase, hnone⟩
      cases howned.symm.trans (h.owned hc hid hphase hnone)
  | some i =>
    obtain ⟨c, hc, hid, hnone, hphase⟩ := h.pending id i howned
    have hcalls : { s with pending := s.pending.erase id }.calls[i]? = some c := hc
    dsimp only
    rw [Transport.answer, hcalls]
    dsimp only
    by_cases hgone : c.gone = true
    · rw [if_pos hgone]
      apply iff_of_false
      · intro heq
        have hlast := List.append_cancel_left heq
        cases hlast
      · rintro ⟨j, d, hd, hid', hphase', -⟩
        have hj := h.distinct j i d c id hd hc hid' hid
        subst hj
        rw [hc] at hd
        cases hd
        rw [Call.gone] at hgone
        cases hp : c.phase <;> rw [hp] at hgone hphase'
        case returned => exact hphase'
        case dropped => exact hphase'
        all_goals cases hgone
    · rw [if_neg hgone]
      refine iff_of_true rfl ⟨i, c, hc, hid, ?_, hnone⟩
      rcases hphase with hphase | hdropped
      · exact hphase
      · rw [Call.gone, hdropped] at hgone
        exact absurd rfl hgone

/-- **Requests get their own replies.**  In every run in which no request id is used twice,
however calls, completions, drops, route changes and deliveries interleave: a request that
returns a reply returns the only one accepted under its id, the envelope of a call that
returned was put into a channel exactly once, or never if the call failed, no caller loses
its reply to another, and a completion is accepted exactly if a caller waits for it.  What
was put into a channel is, in order, what was taken from it and what is still there. -/
theorem request_reply_exact (uuid : UuidText) (events : List Event)
    (hfresh : Admissible (step uuid) FreshId new events) :
    Exact uuid (run (step uuid) new events) ∧
      Passed (outputs (step uuid) traffic new events) (run (step uuid) new events) := by
  refine ⟨?_, outputs_induction (passed_step uuid) passed_new events⟩
  have h : (run (step uuid) new events).Books :=
    (always_of_admissible (fun s e he hs => Books.step uuid e he hs) books_new hfresh).last
  refine ⟨?_, h.delivered, ?_, h.completed uuid, h.pending⟩
  · intro i c id r hc hid hphase
    obtain ⟨hbalanced, haccepted⟩ := h.request i c id hc hid
    rw [hphase] at hbalanced
    obtain ⟨-, rfl, hsome, -⟩ := hbalanced
    obtain ⟨reply, hreply⟩ := Option.ne_none_iff_exists'.mp hsome
    refine ⟨reply, hreply, ?_⟩
    rw [haccepted, hreply]
    rfl
  · intro i c id hc hid hphase
    have hbalanced := (h.request i c id hc hid).1
    rw [hphase] at hbalanced
    exact hbalanced.2.2 rfl

/-- A request, its way to the other node and back. -/
def sampleExchange : List Event :=
  [.registerNode ⟨"n1"⟩, .call .sendRequest ⟨"n1"⟩ sampleAsk, .poll 0, .poll 0, .receive 0,
    .completeRequest sampleUuid { sampleAsk with body := [2] }, .poll 0]

/-- The sample request: its id is fresh, and the transport is exact after it. -/
theorem request_reply_exact_sample :
    let s := run (step sampleUuids) new sampleExchange
    let passed := outputs (step sampleUuids) traffic new sampleExchange
    Admissible (step sampleUuids) FreshId new sampleExchange ∧
      leftAt 0 passed = [sampleAsk] ∧ s.sent = [0] ∧ Exact sampleUuids s ∧ Passed passed s := by
  intro s passed
  have hfresh : Admissible (step sampleUuids) FreshId new sampleExchange :=
    ⟨trivial, fun c hc => (by cases hc), trivial, trivial, trivial, trivial, trivial, trivial⟩
  exact ⟨hfresh, rfl, rfl, request_reply_exact sampleUuids sampleExchange hfresh⟩

/-! ### A full channel -/

/-- The call `i` is in `send`, with the lock on the routes, on its way to the channel `ch`. -/
def Holds (s : Transport) (i ch : ℕ) : Prop :=
  s.holder = some i ∧ ∃ c : Call, s.calls[i]? = some c ∧ c.phase = .sending ∧
    s.routes.lookup c.target = some ch

/-- The channel is open and has no room. -/
def Full (s : Transport) (ch : ℕ) : Prop :=
  (s.channels ch).closed = false ∧ ¬ (s.channels ch).HasRoom

theorem Holds.not_canLock {s : Transport} {i ch : ℕ} (h : s.Holds i ch) {j : Option ℕ}
    (hj : j ≠ some i) : s.canLock j = false := by
  rw [canLock, h.1]
  cases j with
  | none => rfl
  | some j =>
    have hne : i ≠ j := fun heq => hj (heq ▸ rfl)
    simpa using hne

/-- Another call changes, the lock and the routes do not. -/
theorem Holds.set_other {s s' : Transport} {i ch : ℕ} (h : s.Holds i ch)
    (hholder : s'.holder = s.holder) (hroutes : s'.routes = s.routes)
    (hcall : s'.calls[i]? = s.calls[i]?) : s'.Holds i ch := by
  obtain ⟨hi, c, hc, hphase, hroute⟩ := h
  exact ⟨hholder.trans hi, c, hcall.trans hc, hphase, by rw [hroutes, hroute]⟩

/-- Another call cannot send while the lock is held. -/
theorem Holds.advance_other {s : Transport} {i j ch : ℕ} (h : s.Holds i ch) (hj : j ≠ i)
    (c : Call) : (s.advance j c).Holds i ch ∧ (s.advance j c).sent = s.sent ∧
      (s.advance j c).channels = s.channels := by
  have hset : ∀ (c' : Call), (s.calls.set j c')[i]? = s.calls[i]? := fun c' =>
    List.getElem?_set_ne hj
  rw [Transport.advance]
  split
  · exact ⟨h.set_other rfl rfl (hset _), rfl, rfl⟩
  · rw [h.not_canLock fun heq => hj (Option.some.inj heq)]
    exact ⟨h, rfl, rfl⟩
  · exact ⟨h.set_other rfl rfl (hset _), rfl, rfl⟩
  · rw [Transport.awaitReply]
    split
    · exact ⟨h.set_other rfl rfl (hset _), rfl, rfl⟩
    · split
      · exact ⟨h, rfl, rfl⟩
      · exact ⟨h.set_other rfl rfl (hset _), rfl, rfl⟩
  · exact ⟨h, rfl, rfl⟩

/-- A completion leaves the phase and the target of every call. -/
theorem Holds.completeRequest {s : Transport} {i ch : ℕ} (h : s.Holds i ch) (uuid : UuidText)
    (id : Uuid) (reply : WireEnvelope) :
    (s.completeRequest uuid id reply).Holds i ch ∧
      (s.completeRequest uuid id reply).sent = s.sent ∧
      (s.completeRequest uuid id reply).channels = s.channels := by
  rw [Transport.completeRequest]
  split
  · exact ⟨h.set_other rfl rfl rfl, rfl, rfl⟩
  · next j _ =>
    rw [Transport.answer]
    split
    · next c hc =>
      split
      · exact ⟨h.set_other rfl rfl rfl, rfl, rfl⟩
      · refine ⟨?_, rfl, rfl⟩
        by_cases hj : j = i
        · subst hj
          obtain ⟨hi, d, hd, hphase, hroute⟩ := h
          have hcd : c = d := Option.some.inj (hc.symm.trans hd)
          subst hcd
          refine ⟨hi, { c with reply := some reply }, ?_, hphase, hroute⟩
          exact List.getElem?_set_self (List.getElem?_eq_some_iff.mp hc).1
        · exact h.set_other rfl rfl (List.getElem?_set_ne hj)
    · exact ⟨h.set_other rfl rfl rfl, rfl, rfl⟩

/-- The event is not about the channel. -/
def Event.spares (ch : ℕ) : Event → Prop
  | .receive ch' | .closeReceiver ch' | .foreignSend ch' _ => ch ≠ ch'
  | _ => True

/-- A call in the way of everybody else: only its own next stretch and its drop change that. -/
theorem Holds.step {s : Transport} {i ch : ℕ} (h : s.Holds i ch) (uuid : UuidText) (e : Event)
    (hpoll : e ≠ .poll i) (hdrop : e ≠ .drop i) :
    (s.step uuid e).Holds i ch ∧ (s.step uuid e).sent = s.sent ∧
      ∀ ch', e.spares ch' → (s.step uuid e).channels ch' = s.channels ch' := by
  have hnone : s.canLock none = false := h.not_canLock (Option.some_ne_none i).symm
  cases e with
  | registerNode node =>
    rw [Transport.step, Transport.registerNode, hnone]
    exact ⟨h, rfl, fun _ _ => rfl⟩
  | mergeRoutes entries =>
    rw [Transport.step, Transport.mergeRoutes, hnone]
    exact ⟨h, rfl, fun _ _ => rfl⟩
  | call kind target envelope =>
    refine ⟨h.set_other rfl rfl ?_, rfl, fun _ _ => rfl⟩
    obtain ⟨-, c, hc, -⟩ := h
    exact List.getElem?_append_left (List.getElem?_eq_some_iff.mp hc).1
  | poll j =>
    have hj : j ≠ i := fun heq => hpoll (heq ▸ rfl)
    rw [Transport.step, Transport.poll]
    split
    · next c _ =>
      obtain ⟨hholds, hsent, hchannels⟩ := h.advance_other hj c
      exact ⟨hholds, hsent, fun _ _ => by rw [hchannels]⟩
    · exact ⟨h, rfl, fun _ _ => rfl⟩
  | drop j =>
    have hj : j ≠ i := fun heq => hdrop (heq ▸ rfl)
    rw [Transport.step, Transport.drop]
    split
    · split
      · exact ⟨h, rfl, fun _ _ => rfl⟩
      · refine ⟨h.set_other ?_ rfl (List.getElem?_set_ne hj), rfl, fun _ _ => rfl⟩
        show (if s.holder = some j then none else s.holder) = s.holder
        rw [if_neg]
        rw [h.1]
        exact fun heq => hj (Option.some.inj heq).symm
    · exact ⟨h, rfl, fun _ _ => rfl⟩
  | completeRequest id reply =>
    obtain ⟨hholds, hsent, hchannels⟩ := h.completeRequest uuid id reply
    exact ⟨hholds, hsent, fun _ _ => congrFun hchannels _⟩
  | receive ch' =>
    rw [Transport.step]
    split
    · exact ⟨h.set_other rfl rfl rfl, rfl, fun _ hne => Function.update_of_ne hne _ _⟩
    · exact ⟨h, rfl, fun _ _ => rfl⟩
  | closeReceiver ch' =>
    exact ⟨h.set_other rfl rfl rfl, rfl, fun _ hne => Function.update_of_ne hne _ _⟩
  | foreignSend ch' envelope =>
    exact ⟨h.set_other rfl rfl rfl, rfl, fun _ hne => Function.update_of_ne hne _ _⟩

/-- The next stretch of the call that holds the lock: it is done, or waits for room. -/
theorem Holds.poll_self {s : Transport} {i ch : ℕ} (h : s.Holds i ch) :
    ((s.poll i).holder = none ∧ ¬ s.Full ch) ∨ s.poll i = s ∧ s.Full ch := by
  obtain ⟨hi, c, hc, hphase, hroute⟩ := h
  have hpoll : s.poll i = s.sendLocked i c := by
    have hlock : s.canLock (some i) = true := by
      rw [canLock, hi]
      simp
    rw [Transport.poll, hc]
    dsimp only
    unfold Transport.advance
    rw [hphase]
    dsimp only
    rw [if_pos hlock]
  rw [hpoll, Transport.sendLocked, hroute]
  dsimp only
  by_cases hclosed : (s.channels ch).closed = true
  · rw [Channel.trySend_of_closed hclosed]
    exact .inl ⟨rfl, fun hfull => Bool.false_ne_true (hfull.1.symm.trans hclosed)⟩
  · rw [Bool.not_eq_true] at hclosed
    by_cases hroom : (s.channels ch).HasRoom
    · rw [Channel.trySend_of_admits ⟨hclosed, hroom⟩]
      exact .inl ⟨rfl, fun hfull => hfull.2 hroom⟩
    · rw [Channel.trySend_of_full hclosed hroom]
      refine .inr ⟨?_, hclosed, hroom⟩
      rw [← hi]

/-- The holder of the lock keeps it while its channel is full, and nothing is sent. -/
theorem Holds.blocks {s : Transport} {i ch : ℕ} (h : s.Holds i ch) (hfull : s.Full ch)
    (uuid : UuidText) (e : Event) (hdrop : e ≠ .drop i) (hreceive : e ≠ .receive ch)
    (hclose : e ≠ .closeReceiver ch) :
    (s.step uuid e).Holds i ch ∧ (s.step uuid e).Full ch ∧ (s.step uuid e).sent = s.sent := by
  by_cases hpoll : e = .poll i
  · subst hpoll
    rw [Transport.step]
    rcases h.poll_self with ⟨-, hroom⟩ | ⟨hsame, -⟩
    · exact absurd hfull hroom
    · rw [hsame]
      exact ⟨h, hfull, rfl⟩
  · obtain ⟨hholds, hsent, hchannels⟩ := h.step uuid e hpoll hdrop
    refine ⟨hholds, ?_, hsent⟩
    have hsame : (s.step uuid e).channels ch = s.channels ch := by
      by_cases hspares : e.spares ch
      · exact hchannels ch hspares
      · cases e with
        | receive ch' =>
          have heq : ch = ch' := not_not.mp hspares
          exact absurd (heq ▸ rfl) hreceive
        | closeReceiver ch' =>
          have heq : ch = ch' := not_not.mp hspares
          exact absurd (heq ▸ rfl) hclose
        | foreignSend ch' envelope =>
          -- the other transport finds the channel full as well
          have heq : ch = ch' := not_not.mp hspares
          subst heq
          show Function.update s.channels ch _ ch = _
          rw [Function.update_self]
          exact Channel.offer_of_not_admits (fun hadmits => hfull.2 hadmits.2) envelope
        | _ => exact absurd trivial hspares
    rw [Full, hsame]
    exact hfull

end Transport

end InMemory

end Dactor
