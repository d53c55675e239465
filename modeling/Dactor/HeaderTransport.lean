/-
Dactor/HeaderTransport.lean

Typed headers on their way to another node and back.

`Headers` is keyed by the type of the value, `WireHeaders` by the name the
type travels under.  `to_wire` and `to_headers` convert one into the other,
entry by entry, in whatever order the hash maps are visited; the first leaves
out headers that stay on their node, the second those for which nothing is
registered.

A header type is an index of a family of types, and a `Box<dyn HeaderValue>`
a value with its index, so that a value cannot be stored under another type.

Main result: `headers_survive`.
-/
import Dactor.Proto
import Dactor.RemoteTell
import Dactor.Rekeying

namespace Dactor

open Rekeying

/-! ### Typed headers -/

/-- The trait `HeaderValue`, for the types `Value t`. -/
structure HeaderTrait (Value : TypeId → Type) where
  headerName : {t : TypeId} → Value t → String
  toBytes : {t : TypeId} → Value t → Option Bytes

variable {Value : TypeId → Type} (tr : HeaderTrait Value)

/-- `Box<dyn HeaderValue>`; its `type_id` is the first component. -/
abbrev BoxedHeader (Value : TypeId → Type) := Sigma Value

/-- `HashMap<TypeId, Box<dyn HeaderValue>>`, with each value under its own
type. -/
structure TypedHeaders (Value : TypeId → Type) where
  map : Finmap Value

namespace TypedHeaders

def new : TypedHeaders Value := ⟨∅⟩

def insert (h : TypedHeaders Value) {t : TypeId} (value : Value t) : TypedHeaders Value :=
  ⟨h.map.insert t value⟩

def insertBoxed (h : TypedHeaders Value) (value : BoxedHeader Value) : TypedHeaders Value :=
  ⟨h.map.insert value.1 value.2⟩

def get (h : TypedHeaders Value) (t : TypeId) : Option (Value t) := h.map.lookup t

/-- `to_wire`, visiting the map in the order `it`. -/
def toWire (h : TypedHeaders Value) (it : Iteration h.map) : WireHeaders :=
  it.order.foldl (fun wire value =>
    match tr.toBytes value.2 with
    | some bytes => wire.insert (tr.headerName value.2) bytes
    | none => wire) WireHeaders.new

end TypedHeaders

/-- Deserializers by header name. -/
structure HeaderRegistry (Value : TypeId → Type) where
  deserializers : Finmap fun _ : String => Bytes → Option (BoxedHeader Value)

namespace HeaderRegistry

def new : HeaderRegistry Value := ⟨∅⟩

def register (r : HeaderRegistry Value) (name : String)
    (deserializer : Bytes → Option (BoxedHeader Value)) : HeaderRegistry Value :=
  ⟨r.deserializers.insert name deserializer⟩

def deserialize (r : HeaderRegistry Value) (name : String) (bytes : Bytes) :
    Option (BoxedHeader Value) := do
  let deser ← r.deserializers.lookup name
  deser bytes

end HeaderRegistry

/-- `to_headers`, visiting the map in the order `it`. -/
def WireHeaders.toHeaders (w : WireHeaders) (registry : HeaderRegistry Value)
    (it : Iteration w.entries) : TypedHeaders Value :=
  it.order.foldl (fun headers entry =>
    match registry.deserialize entry.1 entry.2 with
    | some value => headers.insertBoxed value
    | none => headers) TypedHeaders.new

/-! ### The contract -/

/-- No two headers of the collection travel under one name. -/
def TypedHeaders.DistinctNames (h : TypedHeaders Value) : Prop :=
  ∀ t v t' v', h.get t = some v → h.get t' = some v' → tr.headerName v = tr.headerName v' → t = t'

/-- The deserializer registered under the name of a header of the collection
undoes its `to_bytes`. -/
def HeaderRegistry.Undoes (registry : HeaderRegistry Value) (h : TypedHeaders Value) : Prop :=
  ∀ t v bytes deser, h.get t = some v → tr.toBytes v = some bytes →
    registry.deserializers.lookup (tr.headerName v) = some deser → deser bytes = some ⟨t, v⟩

/-- The header has a wire form, and a deserializer is registered for it. -/
def HeaderRegistry.transports (registry : HeaderRegistry Value) {t : TypeId} (v : Value t) : Bool :=
  (tr.toBytes v).isSome && (registry.deserializers.lookup (tr.headerName v)).isSome

/-! ### The two loops -/

/-- The entry a header becomes. -/
def wireEntry (value : BoxedHeader Value) : Option (Sigma fun _ : String => Bytes) :=
  (tr.toBytes value.2).map fun bytes => ⟨tr.headerName value.2, bytes⟩

theorem toWire_entries (h : TypedHeaders Value) (it : Iteration h.map) :
    (h.toWire tr it).entries = rebuild (wireEntry tr) it.order := by
  rw [TypedHeaders.toWire, rebuild]
  symm
  apply List.foldl_hom WireHeaders.entries
  intro wire value
  rw [wireEntry]
  cases tr.toBytes value.2 with
  | none => rfl
  | some bytes => rfl

theorem toHeaders_map (w : WireHeaders) (registry : HeaderRegistry Value)
    (it : Iteration w.entries) :
    (w.toHeaders registry it).map =
      rebuild (fun entry => registry.deserialize entry.1 entry.2) it.order := by
  rw [WireHeaders.toHeaders, rebuild]
  symm
  apply List.foldl_hom TypedHeaders.map
  intro headers entry
  cases registry.deserialize entry.1 entry.2 with
  | none => rfl
  | some value => rfl

variable {tr} {h : TypedHeaders Value} {registry : HeaderRegistry Value}

theorem wireEntry_eq_some_iff {t : TypeId} {v : Value t} {name : String} {bytes : Bytes} :
    wireEntry tr ⟨t, v⟩ = some ⟨name, bytes⟩ ↔
      tr.headerName v = name ∧ tr.toBytes v = some bytes := by
  rw [wireEntry, Option.map_eq_some_iff]
  constructor
  · rintro ⟨b, hb, heq⟩
    cases heq
    exact ⟨rfl, hb⟩
  · rintro ⟨rfl, hb⟩
    exact ⟨bytes, hb, rfl⟩

/-- What is on the wire. -/
theorem lookup_toWire (hnames : h.DistinctNames tr) (it : Iteration h.map) {name : String}
    {bytes : Bytes} :
    (h.toWire tr it).entries.lookup name = some bytes ↔
      ∃ t v, h.get t = some v ∧ tr.headerName v = name ∧ tr.toBytes v = some bytes := by
  rw [toWire_entries, lookup_rebuild]
  · constructor
    · rintro ⟨⟨t, v⟩, hmem, hv⟩
      obtain ⟨hname, hbytes⟩ := wireEntry_eq_some_iff.mp hv
      exact ⟨t, v, it.mem_order.mp hmem, hname, hbytes⟩
    · rintro ⟨t, v, hget, hname, hbytes⟩
      exact ⟨⟨t, v⟩, it.mem_order.mpr hget, wireEntry_eq_some_iff.mpr ⟨hname, hbytes⟩⟩
  · rintro ⟨t, v⟩ hv ⟨t', v'⟩ hv' name bytes bytes' hb hb'
    obtain ⟨hname, hbytes⟩ := wireEntry_eq_some_iff.mp hb
    obtain ⟨hname', hbytes'⟩ := wireEntry_eq_some_iff.mp hb'
    have hget : h.get t = some v := it.mem_order.mp hv
    have hget' : h.get t' = some v' := it.mem_order.mp hv'
    -- one name, hence one header
    obtain rfl := hnames t v t' v' hget hget' (hname.trans hname'.symm)
    rw [hget] at hget'
    cases hget'
    exact Option.some.inj (hbytes.symm.trans hbytes')

/-- A header on the wire is deserialized to itself, if anything is registered
under its name. -/
theorem HeaderRegistry.Undoes.deserialize_eq_some_iff (hundo : registry.Undoes tr h) {t : TypeId}
    {v : Value t} {bytes : Bytes} (hget : h.get t = some v) (hbytes : tr.toBytes v = some bytes)
    {value : BoxedHeader Value} :
    registry.deserialize (tr.headerName v) bytes = some value ↔
      registry.transports tr v = true ∧ (⟨t, v⟩ : BoxedHeader Value) = value := by
  have htransports : registry.transports tr v =
      (registry.deserializers.lookup (tr.headerName v)).isSome := by
    rw [HeaderRegistry.transports, hbytes]
    rfl
  rw [htransports, HeaderRegistry.deserialize]
  cases hlookup : registry.deserializers.lookup (tr.headerName v) with
  | none =>
      refine iff_of_false (fun hnone => ?_) (fun hnone => ?_)
      · cases hnone
      · cases hnone.1
  | some deser =>
      show deser bytes = some value ↔ _
      rw [hundo t v bytes deser hget hbytes hlookup, Option.some.injEq]
      exact ⟨fun heq => ⟨rfl, heq⟩, fun heq => heq.2⟩

/-- What comes back from the wire. -/
theorem get_toHeaders_toWire (hnames : h.DistinctNames tr) (hundo : registry.Undoes tr h)
    (it : Iteration h.map) (it' : Iteration (h.toWire tr it).entries) (t : TypeId) :
    ((h.toWire tr it).toHeaders registry it').get t =
      (h.get t).filter fun v => registry.transports tr v := by
  -- an entry that is deserialized at all is a header of the collection
  have hentry : ∀ {name bytes value}, (⟨name, bytes⟩ : Sigma fun _ : String => Bytes) ∈ it'.order →
      registry.deserialize name bytes = some value →
        h.get value.1 = some value.2 ∧ registry.transports tr value.2 = true := by
    intro name bytes value hmem hvalue
    obtain ⟨t, v, hget, rfl, hbytes⟩ := (lookup_toWire hnames it).mp (it'.mem_order.mp hmem)
    obtain ⟨htransports, rfl⟩ := (hundo.deserialize_eq_some_iff hget hbytes).mp hvalue
    exact ⟨hget, htransports⟩
  apply Option.ext
  intro v
  rw [Option.filter_eq_some_iff, TypedHeaders.get, toHeaders_map, lookup_rebuild]
  · constructor
    · rintro ⟨⟨name, bytes⟩, hmem, hv⟩
      exact hentry hmem hv
    · rintro ⟨hget, htransports⟩
      obtain ⟨bytes, hbytes⟩ := Option.isSome_iff_exists.mp (Bool.and_eq_true_iff.mp htransports).1
      refine ⟨⟨tr.headerName v, bytes⟩, it'.mem_order.mpr ?_, ?_⟩
      · exact (lookup_toWire hnames it).mpr ⟨t, v, hget, rfl, hbytes⟩
      · exact (hundo.deserialize_eq_some_iff hget hbytes).mpr ⟨htransports, rfl⟩
  · rintro ⟨name, bytes⟩ hmem ⟨name', bytes'⟩ hmem' t v v' hv hv'
    have hget := (hentry hmem hv).1
    have hget' := (hentry hmem' hv').1
    exact Option.some.inj (hget.symm.trans hget')

/-! ### Main result -/

/-- **Headers survive the wire.**  If the headers of a collection have
distinct names, and what is registered under a name undoes the header's
`to_bytes`, then an envelope that carries them, once decoded, gives back
exactly the headers with a wire form and a registered deserializer, each under
its type and with its value, whatever the order in which the maps are visited.
The envelope is decoded if it is within the size limit and its target has a
node. -/
theorem headers_survive (prost : Prost) (uuid : UuidText) (hprost : prost.Lawful)
    (huuid : uuid.Lawful) (tr : HeaderTrait Value) (h : TypedHeaders Value)
    (registry : HeaderRegistry Value) (hnames : h.DistinctNames tr)
    (hundo : registry.Undoes tr h) (it : Iteration h.map) (env : WireEnvelope) :
    let sent := { env with headers := h.toWire tr it }
    let received := decodeWireEnvelope prost uuid (encodeWireEnvelope prost uuid sent)
    (∀ e, received = .ok e → ∀ (it' : Iteration e.headers.entries) (t : TypeId),
      (e.headers.toHeaders registry it').get t =
        (h.get t).filter fun v => registry.transports tr v) ∧
      ((encodeWireEnvelope prost uuid sent).length ≤ maxWireEnvelopeSize → sent.Complete →
        ∃ e, received = .ok e) := by
  intro sent received
  have hcodec : Codecs.RoundTrips (encodeWireEnvelope prost uuid) (decodeWireEnvelope prost uuid)
      maxWireEnvelopeSize WireEnvelope.Complete :=
    decodeMessage_roundTrips hprost.wireEnvelope (WireEnvelope.faithful huuid) _ _
  refine ⟨fun e he => ?_, fun hsize hcomplete => ⟨sent, hcodec.survives sent hsize hcomplete⟩⟩
  -- only the envelope that was sent is ever received
  have hsent : e = sent := by
    by_cases hfits : (encodeWireEnvelope prost uuid sent).length ≤ maxWireEnvelopeSize ∧
        sent.Complete
    · rw [show received = .ok sent from hcodec.survives sent hfits.1 hfits.2] at he
      exact (Except.ok.inj he).symm
    · obtain ⟨error, herror⟩ := hcodec.refused sent hfits
      rw [show received = .error error from herror] at he
      cases he
  subst hsent
  intro it' t
  exact get_toHeaders_toWire hnames hundo it it' t

/-! ### A trace id, a stamp and a local header -/

section Sample

def sampleName (t : TypeId) : String :=
  if t = "TraceId" then "trace-id" else if t = "Stamp" then "x-stamp" else "local-only"

/-- Three header types, all of them wrappers of bytes. -/
def sampleTrait : HeaderTrait fun _ => Bytes where
  headerName {t} _ := sampleName t
  toBytes {t} value := if t = "LocalOnlyHeader" then none else some value

def sampleHeaders : TypedHeaders fun _ => Bytes :=
  (((TypedHeaders.new.insert (t := "LocalOnlyHeader") []).insert (t := "Stamp")
    (ascii "stamped"))).insert (t := "TraceId") (ascii "abc-123")

def sampleRegistry : HeaderRegistry fun _ => Bytes :=
  HeaderRegistry.new.register "trace-id" fun bytes => some ⟨"TraceId", bytes⟩

def sampleOrder : Iteration sampleHeaders.map :=
  ⟨[⟨"TraceId", ascii "abc-123"⟩, ⟨"Stamp", ascii "stamped"⟩, ⟨"LocalOnlyHeader", []⟩], rfl⟩

theorem sampleHeaders_get {t : TypeId} {v : Bytes} (h : sampleHeaders.get t = some v) :
    t = "TraceId" ∨ t = "Stamp" ∨ t = "LocalOnlyHeader" := by
  have hmem : (⟨t, v⟩ : Sigma fun _ : TypeId => Bytes) ∈ sampleOrder.order :=
    sampleOrder.mem_order.mpr h
  rcases List.mem_cons.mp hmem with heq | hmem
  · cases heq
    exact .inl rfl
  · rcases List.mem_cons.mp hmem with heq | hmem
    · cases heq
      exact .inr (.inl rfl)
    · cases List.mem_singleton.mp hmem
      exact .inr (.inr rfl)

theorem sampleHeaders_distinctNames : sampleHeaders.DistinctNames sampleTrait := by
  intro t v t' v' h h' hname
  change sampleName t = sampleName t' at hname
  rcases sampleHeaders_get h with rfl | rfl | rfl <;>
    rcases sampleHeaders_get h' with rfl | rfl | rfl <;>
      first
        | rfl
        | exact absurd hname (by decide)

theorem sampleRegistry_undoes : sampleRegistry.Undoes sampleTrait sampleHeaders := by
  intro t v bytes deser h hbytes hlookup
  change sampleRegistry.deserializers.lookup (sampleName t) = some deser at hlookup
  rcases sampleHeaders_get h with rfl | rfl | rfl
  · -- the one that is registered
    cases hbytes
    cases hlookup
    rfl
  · cases hlookup
  · cases hbytes

/-- The ask of the protobuf samples, with these headers. -/
def sampleSent : WireEnvelope :=
  { sampleAsk with headers := sampleHeaders.toWire sampleTrait sampleOrder }

def sampleSentProto : WireEnvelopeProto :=
  { sampleAskProto with headers := sampleSent.headers.entries }

/-- Two map entries in field 5, then the body and the request id. -/
def sampleSentBytes : Bytes :=
  [0x0a, 0x06, 0x0a, 0x02, 0x6e, 0x31, 0x10, 0x01, 0x12, 0x04] ++ ascii "test" ++
    [0x1a, 0x09] ++ ascii "test::Msg" ++ [0x20, 0x01] ++
    [0x2a, 0x13, 0x0a, 0x08] ++ ascii "trace-id" ++ [0x12, 0x07] ++ ascii "abc-123" ++
    [0x2a, 0x12, 0x0a, 0x07] ++ ascii "x-stamp" ++ [0x12, 0x07] ++ ascii "stamped" ++
    [0x32, 0x01, 0x01, 0x3a, 0x24] ++ ascii sampleUuidText

noncomputable def sampleHeaderProst : Prost :=
  { sampleProst with wireEnvelope := .sample sampleSentProto sampleSentBytes }

theorem sampleHeaderProst_lawful : sampleHeaderProst.Lawful :=
  { sampleProst_lawful with wireEnvelope := Codecs.Format.sample_lawful _ _ }

theorem encode_sampleSent : encodeWireEnvelope sampleHeaderProst sampleUuids sampleSent =
    sampleSentBytes := by
  have hproto : sampleSent.toProto sampleUuids = sampleSentProto := by
    show WireEnvelopeProto.mk _ _ _ _ _ _ (some (sampleUuids.toString sampleUuid)) _ = _
    rw [sampleUuids_toString]
    rfl
  show sampleHeaderProst.wireEnvelope.encode (sampleSent.toProto sampleUuids) = _
  rw [hproto]
  exact Codecs.recode_self

/-- The trace id comes back; the stamp, which is not registered, and the local
header do not. -/
theorem headers_survive_sample :
    sampleHeaders.DistinctNames sampleTrait ∧ sampleRegistry.Undoes sampleTrait sampleHeaders ∧
      encodeWireEnvelope sampleHeaderProst sampleUuids sampleSent = sampleSentBytes ∧
      ∃ e, decodeWireEnvelope sampleHeaderProst sampleUuids sampleSentBytes = .ok e ∧
        ∀ it : Iteration e.headers.entries,
          (e.headers.toHeaders sampleRegistry it).get "TraceId" = some (ascii "abc-123") ∧
          (e.headers.toHeaders sampleRegistry it).get "Stamp" = none ∧
          (e.headers.toHeaders sampleRegistry it).get "LocalOnlyHeader" = none := by
  have hsize : (encodeWireEnvelope sampleHeaderProst sampleUuids sampleSent).length ≤
      maxWireEnvelopeSize := by
    rw [encode_sampleSent]
    decide
  obtain ⟨hback, harrives⟩ := headers_survive sampleHeaderProst sampleUuids
    sampleHeaderProst_lawful sampleUuids_lawful sampleTrait sampleHeaders sampleRegistry
    sampleHeaders_distinctNames sampleRegistry_undoes sampleOrder sampleAsk
  obtain ⟨e, he⟩ := harrives hsize (show "n1" ≠ "" by decide)
  refine ⟨sampleHeaders_distinctNames, sampleRegistry_undoes, encode_sampleSent, e, ?_, ?_⟩
  · rw [← encode_sampleSent]
    exact he
  · intro it
    have hget := hback e he it
    exact ⟨hget "TraceId", hget "Stamp", hget "LocalOnlyHeader"⟩

end Sample

end Dactor
