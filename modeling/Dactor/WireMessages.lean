/-
Dactor/WireMessages.lean

Typed messages across the wire: the serializers that a `RemoteActorRefBuilder`
registers by type, the envelopes of `remote.rs`, and the `TypeRegistry` that
gives a body its type back by the name of the type.

A type is known by its `TypeId` where a message is sent and by its name where
it arrives.  Names are not unique, so which registration a name leads to
depends on the order of the registrations.

`serde_json` is a parameter.  A type is faithful to it if its values come back
from what they are written as.

Main result: `typed_tell_arrives_iff`.
-/
import Mathlib.Data.Finmap
import Mathlib.Tactic.FinCases
import Dactor.Proto
import Dactor.RemoteTell

namespace Dactor

open Runs

/-! ### Types and their values -/

/-- The types of a program, and `serde_json` on their values. -/
structure Serde (Ty : Type) (Val : Ty → Type) where
  typeId : Ty → TypeId
  typeName : Ty → String
  toVec : (t : Ty) → Val t → Except String Bytes
  fromSlice : (t : Ty) → Bytes → Except String (Val t)

/-- `Box<dyn Any + Send>`. -/
abbrev AnyBox {Ty : Type} (Val : Ty → Type) := (t : Ty) × Val t

abbrev DeserializerFn {Ty : Type} (Val : Ty → Type) :=
  Bytes → Except SerializationError (AnyBox Val)

section

variable {Ty σ : Type} {Val : Ty → Type} (serde : Serde Ty Val)

/-- Every value is written, and read back. -/
def Serde.Faithful (t : Ty) : Prop :=
  ∀ v : Val t, ∃ bytes, serde.toVec t v = .ok bytes ∧ serde.fromSlice t bytes = .ok v

def downcast [DecidableEq Ty] (t : Ty) (v : AnyBox Val) : Option (Val t) :=
  if h : v.1 = t then some (h ▸ v.2) else none

/-! ### The sender -/

/-- The serializer that `register_tell` makes. -/
def tellSerializer [DecidableEq Ty] (t : Ty) : SerializeFn (AnyBox Val) := fun v =>
  match downcast t v with
  | none => .error "type downcast failed in tell serializer"
  | some msg =>
    match serde.toVec t msg with
    | .error e => .error ("json serialize: " ++ e)
    | .ok body => .ok (serde.typeName t, body)

structure RemoteActorRefBuilder (σ : Type) (Val : Ty → Type) where
  id : ActorId
  name : String
  tellSerializers : TypeId → Option (SerializeFn (AnyBox Val))
  outboundInterceptors : List (OutboundInterceptor σ (AnyBox Val))

namespace RemoteActorRefBuilder

def new (id : ActorId) (name : String) : RemoteActorRefBuilder σ Val :=
  ⟨id, name, fun _ => none, []⟩

def addOutboundInterceptor (b : RemoteActorRefBuilder σ Val)
    (interceptor : OutboundInterceptor σ (AnyBox Val)) : RemoteActorRefBuilder σ Val :=
  { b with outboundInterceptors := b.outboundInterceptors ++ [interceptor] }

def registerTell [DecidableEq Ty] (b : RemoteActorRefBuilder σ Val) (t : Ty) :
    RemoteActorRefBuilder σ Val :=
  { b with
    tellSerializers := Function.update b.tellSerializers (serde.typeId t)
      (some (tellSerializer serde t)) }

def build (b : RemoteActorRefBuilder σ Val) : RemoteActorRef σ (AnyBox Val) :=
  ⟨b.id, b.name, b.tellSerializers, b.outboundInterceptors⟩

end RemoteActorRefBuilder

/-- A call of the builder. -/
inductive BuilderCall (σ : Type) (Val : Ty → Type)
  | addOutboundInterceptor (interceptor : OutboundInterceptor σ (AnyBox Val))
  | registerTell (t : Ty)

def BuilderCall.apply [DecidableEq Ty] (b : RemoteActorRefBuilder σ Val) :
    BuilderCall σ Val → RemoteActorRefBuilder σ Val
  | .addOutboundInterceptor interceptor => b.addOutboundInterceptor interceptor
  | .registerTell t => b.registerTell serde t

/-! ### The receiver -/

/-- The deserializers of a `TypeRegistry`, by type name. -/
structure MessageRegistry (Val : Ty → Type) where
  deserializers : Finmap fun _ : String => DeserializerFn Val

namespace MessageRegistry

def new : MessageRegistry Val := ⟨∅⟩

def register (r : MessageRegistry Val) (typeName : String) (deserializer : DeserializerFn Val) :
    MessageRegistry Val :=
  ⟨r.deserializers.insert typeName deserializer⟩

def registerType (r : MessageRegistry Val) (t : Ty) : MessageRegistry Val :=
  r.register (serde.typeName t) fun bytes =>
    match serde.fromSlice t bytes with
    | .error e => .error ⟨"failed to deserialize " ++ serde.typeName t ++ ": " ++ e⟩
    | .ok value => .ok ⟨t, value⟩

def deserialize (r : MessageRegistry Val) (typeName : String) (bytes : Bytes) :
    Except SerializationError (AnyBox Val) :=
  match r.deserializers.lookup typeName with
  | none => .error ⟨"no deserializer registered for '" ++ typeName ++ "'"⟩
  | some deserializer => deserializer bytes

end MessageRegistry

/-- `MessageVersionHandler::migrate`. -/
abbrev Migrate := Bytes → UInt32 → UInt32 → Option Bytes

def receiveEnvelopeBody (envelope : WireEnvelope) (registry : MessageRegistry Val) :
    Except SerializationError (AnyBox Val) :=
  registry.deserialize envelope.messageType envelope.body

/-- The body as the receiver expects it. -/
def migratedBody (envelope : WireEnvelope) (handlers : String → Option Migrate)
    (expectedVersion : Option UInt32) : Except SerializationError Bytes :=
  match envelope.version, expectedVersion with
  | some received, some expected =>
    if received ≠ expected then
      match handlers envelope.messageType with
      | some migrate =>
        match migrate envelope.body received expected with
        | some body => .ok body
        | none => .error ⟨envelope.messageType ++ ": cannot migrate from v" ++ toString received ++
            " to v" ++ toString expected⟩
      -- no handler: the body is used as it is
      | none => .ok envelope.body
    else .ok envelope.body
  | _, _ => .ok envelope.body

def receiveEnvelopeBodyVersioned (envelope : WireEnvelope) (registry : MessageRegistry Val)
    (handlers : String → Option Migrate) (expectedVersion : Option UInt32) :
    Except SerializationError (AnyBox Val) :=
  match migratedBody envelope handlers expectedVersion with
  | .error e => .error e
  | .ok body => registry.deserialize envelope.messageType body

/-- A registration. -/
inductive Registration (Val : Ty → Type)
  | function (typeName : String) (deserializer : DeserializerFn Val)
  | type (t : Ty)

def Registration.name : Registration Val → String
  | .function typeName _ => typeName
  | .type t => serde.typeName t

def Registration.apply (r : MessageRegistry Val) : Registration Val → MessageRegistry Val
  | .function typeName deserializer => r.register typeName deserializer
  | .type t => r.registerType serde t

/-- The registration gives a message back from its body. -/
def Registration.Restores (t : Ty) (msg : Val t) (body : Bytes) : Registration Val → Prop
  | .function _ deserializer => deserializer body = .ok ⟨t, msg⟩
  | .type u => u = t

/-- The last registration under a name. -/
def lastNamed (registrations : List (Registration Val)) (typeName : String) :
    Option (Registration Val) :=
  (registrations.filter fun r => r.name serde = typeName).getLast?

/-! ### Registrations -/

variable {serde}

theorem Registration.lookup_apply (r : MessageRegistry Val) (reg : Registration Val)
    (typeName : String) :
    (reg.apply serde r).deserializers.lookup typeName =
      if reg.name serde = typeName then (reg.apply serde .new).deserializers.lookup typeName
      else r.deserializers.lookup typeName := by
  cases reg with
  | function name deserializer =>
      by_cases h : name = typeName
      · subst h
        simp [apply, Registration.name, MessageRegistry.register, MessageRegistry.new]
      · simp [apply, Registration.name, MessageRegistry.register, h,
          Finmap.lookup_insert_of_ne _ (Ne.symm h)]
  | type t =>
      by_cases h : serde.typeName t = typeName
      · subst h
        simp [apply, Registration.name, MessageRegistry.registerType, MessageRegistry.register,
          MessageRegistry.new]
      · simp [apply, Registration.name, MessageRegistry.registerType, MessageRegistry.register, h,
          Finmap.lookup_insert_of_ne _ (Ne.symm h)]

/-- A name leads to the last registration under it. -/
theorem lookup_registered (registrations : List (Registration Val)) (typeName : String) :
    (run (Registration.apply serde) .new registrations).deserializers.lookup typeName =
      (lastNamed serde registrations typeName).bind fun reg =>
        (reg.apply serde .new).deserializers.lookup typeName := by
  induction registrations using List.reverseRecOn with
  | nil => exact Finmap.lookup_empty _
  | append_singleton registrations reg ih =>
      rw [run_append]
      show (Registration.apply serde _ reg).deserializers.lookup typeName = _
      rw [Registration.lookup_apply, lastNamed, List.filter_append]
      by_cases h : reg.name serde = typeName
      · simp [h]
      · simp [h, ih, lastNamed]

theorem restores_iff {t : Ty} (hfaithful : serde.Faithful t) {msg : Val t} {body : Bytes}
    (hbody : serde.toVec t msg = .ok body) (registrations : List (Registration Val)) :
    (run (Registration.apply serde) .new registrations).deserialize (serde.typeName t) body
        = .ok ⟨t, msg⟩ ↔
      ∃ reg, lastNamed serde registrations (serde.typeName t) = some reg ∧
        reg.Restores t msg body := by
  have hread : serde.fromSlice t body = .ok msg := by
    obtain ⟨bytes, hbytes, hread⟩ := hfaithful msg
    rw [hbody] at hbytes
    cases hbytes
    exact hread
  rw [MessageRegistry.deserialize, lookup_registered]
  rcases hlast : lastNamed serde registrations (serde.typeName t) with - | reg
  · exact iff_of_false (fun h => by cases h) (fun ⟨_, h, _⟩ => by cases h)
  · have hname : reg.name serde = serde.typeName t := by
      have hmem := List.mem_of_getLast? hlast
      exact of_decide_eq_true (List.mem_filter.mp hmem).2
    rw [Option.bind_some]
    cases reg with
    | function name deserializer =>
        obtain rfl : name = serde.typeName t := hname
        rw [Registration.apply, MessageRegistry.register, Finmap.lookup_insert]
        constructor
        · intro h
          exact ⟨_, rfl, h⟩
        · rintro ⟨_, h, hrestores⟩
          cases h
          exact hrestores
    | type u =>
        have hname : serde.typeName u = serde.typeName t := hname
        rw [Registration.apply, MessageRegistry.registerType, MessageRegistry.register, hname,
          Finmap.lookup_insert]
        constructor
        · intro h
          refine ⟨_, rfl, ?_⟩
          -- what was read has the type that was registered
          dsimp only at h
          split at h
          · cases h
          · cases h
            rfl
        · rintro ⟨_, h, hrestores⟩
          cases h
          obtain rfl : u = t := hrestores
          dsimp only
          rw [hread]

/-! ### From one end to the other -/

/-- What the receiver makes of an envelope that is sent to it. -/
def arrival (prost : Prost) (uuid : UuidText) (registry : MessageRegistry Val)
    (handlers : String → Option Migrate) (expectedVersion : Option UInt32)
    (envelope : WireEnvelope) : Except SerializationError (AnyBox Val) :=
  match decodeWireEnvelope prost uuid (encodeWireEnvelope prost uuid envelope) with
  | .error e => .error e
  | .ok envelope => receiveEnvelopeBodyVersioned envelope registry handlers expectedVersion

/-- An envelope without a version is not migrated. -/
theorem receive_unversioned {envelope : WireEnvelope} (hversion : envelope.version = none)
    (registry : MessageRegistry Val) (handlers : String → Option Migrate)
    (expectedVersion : Option UInt32) :
    receiveEnvelopeBodyVersioned envelope registry handlers expectedVersion
      = receiveEnvelopeBody envelope registry := by
  unfold receiveEnvelopeBodyVersioned migratedBody
  rw [hversion]
  rfl

/-! ### Serializers -/

variable [DecidableEq Ty]

theorem tellSerializer_self {t : Ty} {msg : Val t} {body : Bytes}
    (hbody : serde.toVec t msg = .ok body) :
    tellSerializer serde t ⟨t, msg⟩ = .ok (serde.typeName t, body) := by
  simp [tellSerializer, downcast, hbody]

/-- A type that was registered keeps its serializer. -/
theorem lookup_tellSerializers (hids : Function.Injective serde.typeId) {t : Ty}
    {calls : List (BuilderCall σ Val)} (hmem : .registerTell t ∈ calls)
    (b : RemoteActorRefBuilder σ Val) :
    (run (BuilderCall.apply serde) b calls).tellSerializers (serde.typeId t)
      = some (tellSerializer serde t) := by
  refine run_of_mem (P := fun _ => True) (Q := fun b : RemoteActorRefBuilder σ Val =>
    b.tellSerializers (serde.typeId t) = some (tellSerializer serde t)) (fun _ _ _ => trivial)
    ?_ ?_ trivial hmem
  · intro b call hb
    cases call with
    | addOutboundInterceptor interceptor => exact hb
    | registerTell u =>
        by_cases h : u = t
        · subst h
          exact Function.update_self ..
        · show Function.update _ _ _ _ = _
          rw [Function.update_of_ne (fun hid => h (hids hid).symm)]
          exact hb
  · intro b _
    exact Function.update_self ..

theorem built_id (b : RemoteActorRefBuilder σ Val) (calls : List (BuilderCall σ Val)) :
    (run (BuilderCall.apply serde) b calls).id = b.id := by
  induction calls generalizing b with
  | nil => rfl
  | cons call calls ih =>
      rw [run_cons, ih]
      cases call with
      | addOutboundInterceptor interceptor => rfl
      | registerTell t => rfl

/-- The task of a `tell` that the interceptors let through. -/
theorem tell_task {r : RemoteActorRef σ (AnyBox Val)} {t : Ty} {msg : Val t} {body : Bytes}
    (hserializer : r.tellSerializers (serde.typeId t) = some (tellSerializer serde t))
    (hbody : serde.toVec t msg = .ok body) (rh : RuntimeHeaders) (s : σ)
    (hpass : (r.tellGate (serde.typeName t) ⟨t, msg⟩ rh s).passes = true) :
    ∃ task, (r.tell ⟨serde.typeName t, serde.typeId t, ⟨t, msg⟩, rh⟩ s).2.1 = some task ∧
      task.targetNode = r.id.node ∧ task.envelope.target = r.id ∧
      task.envelope.messageType = serde.typeName t ∧ task.envelope.body = body ∧
      task.envelope.version = none := by
  rw [RemoteActorRef.tellGate] at hpass
  rw [RemoteActorRef.tell]
  dsimp only
  rcases hgate : remoteTellGate (r.runOutboundPipeline (serde.typeName t) .tell Headers.new
      ⟨t, msg⟩ rh s).1 with res | delay
  · rw [hgate] at hpass
    cases hpass
  · dsimp only
    rw [hserializer]
    dsimp only
    rw [tellSerializer_self hbody]
    exact ⟨_, rfl, rfl, rfl, rfl, rfl, rfl⟩

/-- **A typed message arrives as what it was.**  Let a type be registered with
the builder of a reference, in any order with other types and with interceptors,
and let these let a message of the type pass.  Then the receiver gets back the
message itself exactly if the node has a name, the envelope is within the size
limit, and the last registration under the name of the type restores it: if it is
that of the type, or a function that does the same.  Version handlers have no part
in it, whatever version the receiver expects. -/
theorem typed_tell_arrives_iff (hids : Function.Injective serde.typeId) {prost : Prost}
    (hprost : prost.Lawful) {uuid : UuidText} (huuid : uuid.Lawful) {t : Ty}
    (hfaithful : serde.Faithful t) (id : ActorId) (name : String) (calls : List (BuilderCall σ Val))
    (hmem : .registerTell t ∈ calls) (msg : Val t) (rh : RuntimeHeaders) (s : σ)
    (registrations : List (Registration Val)) (handlers : String → Option Migrate)
    (expectedVersion : Option UInt32) :
    let r := (run (BuilderCall.apply serde) (.new id name) calls).build
    let registry := run (Registration.apply serde) .new registrations
    (r.tellGate (serde.typeName t) ⟨t, msg⟩ rh s).passes = true →
    ∃ task, (r.tell ⟨serde.typeName t, serde.typeId t, ⟨t, msg⟩, rh⟩ s).2.1 = some task ∧
      task.targetNode = id.node ∧
      (arrival prost uuid registry handlers expectedVersion task.envelope = .ok ⟨t, msg⟩ ↔
        id.node.id ≠ "" ∧
        (encodeWireEnvelope prost uuid task.envelope).length ≤ maxWireEnvelopeSize ∧
        ∃ reg, lastNamed serde registrations (serde.typeName t) = some reg ∧
          reg.Restores t msg task.envelope.body) := by
  intro r registry hpass
  obtain ⟨body, hbody, -⟩ := hfaithful msg
  have hid : r.id = id := built_id (.new id name) calls
  obtain ⟨task, htask, hnode, htarget, htype, hsent, hversion⟩ :=
    tell_task (lookup_tellSerializers hids hmem (.new id name)) hbody rh s hpass
  refine ⟨task, htask, by rw [hnode, hid], ?_⟩
  have htrips := decodeMessage_roundTrips hprost.wireEnvelope (WireEnvelope.faithful huuid)
    maxWireEnvelopeSize "WireEnvelope"
  have hcomplete : task.envelope.Complete ↔ id.node.id ≠ "" := by
    rw [WireEnvelope.Complete, ActorId.Complete, htarget, hid]
  by_cases hfits : (encodeWireEnvelope prost uuid task.envelope).length ≤ maxWireEnvelopeSize ∧
      task.envelope.Complete
  · have hdecoded : decodeWireEnvelope prost uuid (encodeWireEnvelope prost uuid task.envelope)
        = .ok task.envelope := htrips.survives _ hfits.1 hfits.2
    rw [arrival, hdecoded]
    dsimp only
    rw [receive_unversioned hversion, receiveEnvelopeBody, htype, hsent,
      restores_iff hfaithful hbody]
    exact ⟨fun h => ⟨hcomplete.mp hfits.2, hfits.1, h⟩, fun h => h.2.2⟩
  · obtain ⟨e, hrefused⟩ := htrips.refused task.envelope hfits
    have hrefused : decodeWireEnvelope prost uuid (encodeWireEnvelope prost uuid task.envelope)
        = .error e := hrefused
    rw [arrival, hrefused]
    exact iff_of_false (fun h => by cases h) fun h => hfits ⟨h.2.1, hcomplete.mpr h.1⟩

end

/-! ### A digit for node `n1` -/

/-- Two types of one name whose values are the digits, written in JSON. -/
def digitSerde : Serde Bool fun _ => Fin 10 where
  typeId t := if t then "new" else "old"
  typeName _ := "app::Digit"
  toVec _ d := .ok [0x30 + UInt8.ofNat d]
  fromSlice _
    | [b] => if h : b.toNat - 0x30 < 10 then .ok ⟨b.toNat - 0x30, h⟩ else .error "invalid number"
    | _ => .error "EOF while parsing a value"

theorem digitSerde_faithful (t : Bool) : digitSerde.Faithful t := by
  intro d
  refine ⟨_, rfl, ?_⟩
  fin_cases d <;> rfl

def digitEnvelope : WireEnvelope :=
  ⟨⟨⟨"n1"⟩, 1⟩, "w", "app::Digit", .tell, .new, [0x37], none, none⟩

def digitProto : WireEnvelopeProto :=
  ⟨some ⟨"n1", 1⟩, "w", "app::Digit", 0, ∅, [0x37], none, none⟩

def digitBytes : Bytes :=
  [0x0a, 0x06, 0x0a, 0x02, 0x6e, 0x31, 0x10, 0x01, 0x12, 0x01, 0x77, 0x1a, 0x0a] ++
    ascii "app::Digit" ++ [0x32, 0x01, 0x37]

noncomputable def digitProst : Prost :=
  { sampleProst with wireEnvelope := .sample digitProto digitBytes }

theorem digitProst_lawful : digitProst.Lawful :=
  { sampleProst_lawful with wireEnvelope := Codecs.Format.sample_lawful _ _ }

theorem encode_digitEnvelope :
    encodeWireEnvelope digitProst sampleUuids digitEnvelope = digitBytes :=
  Codecs.recode_self

/-- The type that is registered last under the common name gets the message. -/
theorem typed_tell_arrives_iff_digits :
    let received := fun registrations : List (Registration fun _ : Bool => Fin 10) =>
      arrival digitProst sampleUuids (run (Registration.apply digitSerde) .new registrations)
        (fun _ => none) (some 2) digitEnvelope
    received [.type false, .type true] = .ok ⟨true, 7⟩ ∧
      received [.type true, .type false] ≠ .ok ⟨true, 7⟩ := by
  intro received
  have hids : Function.Injective digitSerde.typeId := by decide
  have h : ∀ registrations, received registrations = .ok ⟨true, 7⟩ ↔
      ∃ reg, lastNamed digitSerde registrations "app::Digit" = some reg ∧
        reg.Restores true 7 [0x37] := by
    intro registrations
    obtain ⟨task, htask, -, hiff⟩ := typed_tell_arrives_iff (σ := Unit) hids digitProst_lawful
      sampleUuids_lawful (digitSerde_faithful true) ⟨⟨"n1"⟩, 1⟩ "w" [.registerTell true]
      List.mem_cons_self 7 ⟨0, 0⟩ () registrations (fun _ => none) (some 2) rfl
    obtain rfl : TellTask.mk none ⟨"n1"⟩ digitEnvelope = task := Option.some.inj htask
    refine hiff.trans ⟨fun h => h.2.2, fun h => ⟨by decide, ?_, h⟩⟩
    rw [encode_digitEnvelope]
    decide
  refine ⟨(h _).mpr ⟨_, rfl, rfl⟩, fun hnot => ?_⟩
  obtain ⟨_, hlast, hrestores⟩ := (h _).mp hnot
  cases hlast
  cases hrestores

end Dactor
