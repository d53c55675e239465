/-
Dactor/Codecs.lean

Encoders and decoders in two layers: a byte format (`Format`) for the messages
of a schema, and a conversion between a domain type and the messages, which is
total in one direction and checked in the other.

`decode` composes the layers, with a size check in front.  The laws of the two
layers give the contract of the composition (`RoundTrips.of_faithful`): a value
survives exactly when its encoding is within the limit and the conversion accepts
it, and what was once accepted is stable.

The module names nothing of the program that is verified with it.
-/
import Mathlib.Data.Countable.Basic
import Mathlib.Data.Finmap
import Mathlib.Data.Fintype.EquivFin
import Mathlib.Logic.Equiv.List

namespace Codecs

variable {ε α β π : Type}

/-- Peel one step off a successful computation. -/
theorem bind_eq_ok {x : Except ε α} {f : α → Except ε β} {b : β} :
    x >>= f = Except.ok b ↔ ∃ a, x = Except.ok a ∧ f a = Except.ok b := by
  cases x with
  | error e =>
    constructor
    · intro h
      cases h
    · rintro ⟨a, h, -⟩
      cases h
  | ok a =>
    constructor
    · intro h
      exact ⟨a, rfl, h⟩
    · rintro ⟨a', h, hf⟩
      cases h
      exact hf

/-- A byte format for the messages of a schema. -/
structure Format (π : Type) where
  encode : π → List UInt8
  decode : List UInt8 → Except String π

/-- The format decodes what it encodes. -/
def Format.Lawful (f : Format π) : Prop := ∀ p, f.decode (f.encode p) = .ok p

/-- What a conversion owes: `get` takes back what `put` made of a complete value,
refuses what `put` made of any other, and yields complete values only. -/
structure Faithful (put : α → π) (get : π → Except ε α) (Complete : α → Prop) : Prop where
  takes : ∀ x, Complete x → get (put x) = .ok x
  refuses : ∀ x, ¬ Complete x → ∃ e, get (put x) = .error e
  sound : ∀ p x, get p = .ok x → Complete x

/-- The first two laws are one equivalence. -/
theorem Faithful.of_iff {put : α → π} {get : π → Except ε α} {Complete : α → Prop}
    (hiff : ∀ x y, get (put x) = .ok y ↔ Complete x ∧ x = y)
    (hsound : ∀ p x, get p = .ok x → Complete x) : Faithful put get Complete where
  takes x hx := (hiff x x).mpr ⟨hx, rfl⟩
  refuses x hx := by
    cases h : get (put x) with
    | error e => exact ⟨e, rfl⟩
    | ok y => exact absurd ((hiff x y).mp h).1 hx
  sound := hsound

/-- A decoder in three stages: a check of the bytes, the format, the conversion. -/
def decode (check : List UInt8 → Except ε Unit) (f : Format π) (malformed : String → ε)
    (get : π → Except ε α) (bytes : List UInt8) : Except ε α := do
  check bytes
  let p ← (f.decode bytes).mapError malformed
  get p

/-- The contract of an encoder and a decoder with a size limit. -/
structure RoundTrips (encode : α → List UInt8) (decode : List UInt8 → Except ε α) (limit : ℕ)
    (Complete : α → Prop) : Prop where
  survives : ∀ x, (encode x).length ≤ limit → Complete x → decode (encode x) = .ok x
  refused : ∀ x, ¬ ((encode x).length ≤ limit ∧ Complete x) → ∃ e, decode (encode x) = .error e
  stable : ∀ bytes x, decode bytes = .ok x → (encode x).length ≤ limit →
    decode (encode x) = .ok x

section Composition

variable {check : List UInt8 → Except ε Unit} {f : Format π} {malformed : String → ε}
  {put : α → π} {get : π → Except ε α} {limit : ℕ} {Complete : α → Prop}

/-- Past the check, the decoder reads back the message that was encoded. -/
theorem decode_encode (hf : f.Lawful) {p : π} (hp : check (f.encode p) = .ok ()) :
    decode check f malformed get (f.encode p) = get p := by
  unfold decode
  rw [hp, hf p]
  rfl

theorem decode_of_check_error {bytes : List UInt8} {e : ε} (h : check bytes = .error e) :
    decode check f malformed get bytes = .error e := by
  unfold decode
  rw [h]
  rfl

/-- What the decoder yields, the conversion yields. -/
theorem exists_get_of_decode {bytes : List UInt8} {x : α}
    (h : decode check f malformed get bytes = .ok x) : ∃ p, get p = .ok x := by
  obtain ⟨_, -, h⟩ := bind_eq_ok.mp h
  obtain ⟨p, -, h⟩ := bind_eq_ok.mp h
  exact ⟨p, h⟩

/-- **The laws of the layers give the contract of the composition.** -/
theorem RoundTrips.of_faithful (hf : f.Lawful)
    (hcheck : ∀ bytes, check bytes = .ok () ↔ bytes.length ≤ limit)
    (h : Faithful put get Complete) :
    RoundTrips (fun x => f.encode (put x)) (decode check f malformed get) limit Complete where
  survives x hsize hx := by
    rw [decode_encode hf ((hcheck _).mpr hsize)]
    exact h.takes x hx
  refused x hx := by
    -- a message that fits is incomplete; a larger one does not get past the check
    by_cases hsize : (f.encode (put x)).length ≤ limit
    · obtain ⟨e, he⟩ := h.refuses x fun hc => hx ⟨hsize, hc⟩
      exact ⟨e, by rw [decode_encode hf ((hcheck _).mpr hsize), he]⟩
    · cases hbytes : check (f.encode (put x)) with
      | error e => exact ⟨e, decode_of_check_error hbytes⟩
      | ok u => exact absurd ((hcheck _).mp hbytes) hsize
  stable bytes x hdec hsize := by
    obtain ⟨p, hp⟩ := exists_get_of_decode hdec
    rw [decode_encode hf ((hcheck _).mpr hsize)]
    exact h.takes x (h.sound p x hp)

end Composition

/-! ### Formats of countable message types

A lawful format exists for every countable type, with any bytes one likes for one
message. -/

section Countable

instance string_countable : Countable String :=
  Function.Injective.countable (f := fun s : String => s.toList.map Char.toNat) fun _ _ h =>
    String.toList_injective ((List.map_injective_iff.mpr fun _ _ => Char.toNat_inj.mp) h)

instance uint8_countable : Countable UInt8 :=
  Function.Injective.countable (f := UInt8.toNat) fun _ _ => UInt8.toNat_inj.mp

instance uint32_countable : Countable UInt32 :=
  Function.Injective.countable (f := UInt32.toNat) fun _ _ => UInt32.toNat_inj.mp

instance uint64_countable : Countable UInt64 :=
  Function.Injective.countable (f := UInt64.toNat) fun _ _ => UInt64.toNat_inj.mp

instance int32_countable : Countable Int32 :=
  Function.Injective.countable (f := Int32.toInt) fun _ _ => Int32.toInt_inj.mp

instance bitVec_countable (w : ℕ) : Countable (BitVec w) :=
  Function.Injective.countable (f := BitVec.toNat) fun _ _ => BitVec.eq_of_toNat_eq

instance finmap_countable {κ ν : Type} [Countable κ] [Countable ν] :
    Countable (Finmap fun _ : κ => ν) := by
  have hentries : Countable (Multiset (Σ _ : κ, ν)) :=
    inferInstanceAs (Countable (Quotient (List.isSetoid (Σ _ : κ, ν))))
  exact Function.Injective.countable (f := Finmap.entries) fun _ _ => Finmap.ext

variable [Countable α] [Infinite β]

/-- Some injective code. -/
noncomputable def someCode : α → β :=
  Infinite.natEmbedding β ∘ (exists_injective_nat α).choose

theorem someCode_injective : Function.Injective (someCode : α → β) :=
  (Infinite.natEmbedding β).injective.comp (exists_injective_nat α).choose_spec

variable {f : α → β} {x₀ : α} {b₀ : β}

open Classical in
/-- The code `f`, changed so that `x₀` has the code `b₀`. -/
noncomputable def recode (f : α → β) (x₀ : α) (b₀ : β) (x : α) : β :=
  Equiv.swap (f x₀) b₀ (f x)

omit [Countable α] [Infinite β] in
theorem recode_injective (hf : Function.Injective f) : Function.Injective (recode f x₀ b₀) :=
  (Equiv.injective _).comp hf

omit [Countable α] [Infinite β] in
theorem recode_self : recode f x₀ b₀ x₀ = b₀ := by
  classical
  exact Equiv.swap_apply_left _ _

omit [Countable α] [Infinite β] in
theorem recode_of_ne (hf : Function.Injective f) {x : α} (hx : x ≠ x₀) (hb : f x ≠ b₀) :
    recode f x₀ b₀ x = f x := by
  classical
  exact Equiv.swap_apply_of_ne_of_ne (fun h => hx (hf h)) hb

/-- The partial inverse of a code, with an error text for everything else. -/
noncomputable def undo (f : α → β) (malformed : String) (b : β) : Except String α :=
  match Function.partialInv f b with
  | some x => .ok x
  | none => .error malformed

omit [Countable α] [Infinite β] in
theorem undo_apply (hf : Function.Injective f) (malformed : String) (x : α) :
    undo f malformed (f x) = .ok x := by
  unfold undo
  rw [Function.partialInv_left hf]

/-- The format of a code. -/
noncomputable def Format.ofCode (f : α → List UInt8) : Format α where
  encode := f
  decode := undo f "failed to decode Protobuf message"

omit [Countable α] in
theorem Format.ofCode_lawful {f : α → List UInt8} (hf : Function.Injective f) :
    (Format.ofCode f).Lawful :=
  undo_apply hf _

/-- A format with the given bytes for the message `p₀`. -/
noncomputable def Format.sample (p₀ : α) (bytes₀ : List UInt8) : Format α :=
  .ofCode (recode someCode p₀ bytes₀)

theorem Format.sample_lawful (p₀ : α) (bytes₀ : List UInt8) : (Format.sample p₀ bytes₀).Lawful :=
  Format.ofCode_lawful (recode_injective someCode_injective)

/-- A format with the given bytes for two messages. -/
noncomputable def Format.sample₂ (p₀ : α) (bytes₀ : List UInt8) (p₁ : α) (bytes₁ : List UInt8) :
    Format α :=
  .ofCode (recode (recode someCode p₀ bytes₀) p₁ bytes₁)

theorem Format.sample₂_lawful (p₀ : α) (bytes₀ : List UInt8) (p₁ : α) (bytes₁ : List UInt8) :
    (Format.sample₂ p₀ bytes₀ p₁ bytes₁).Lawful :=
  Format.ofCode_lawful (recode_injective (recode_injective someCode_injective))

theorem Format.sample₂_encode_left {p₀ p₁ : α} {bytes₀ bytes₁ : List UInt8} (hp : p₀ ≠ p₁)
    (hbytes : bytes₀ ≠ bytes₁) : (Format.sample₂ p₀ bytes₀ p₁ bytes₁).encode p₀ = bytes₀ := by
  have hself : recode someCode p₀ bytes₀ p₀ = bytes₀ := recode_self
  have hne : recode someCode p₀ bytes₀ p₀ ≠ bytes₁ := by rwa [hself]
  exact (recode_of_ne (recode_injective someCode_injective) hp hne).trans hself

theorem Format.sample₂_encode_right (p₀ p₁ : α) (bytes₀ bytes₁ : List UInt8) :
    (Format.sample₂ p₀ bytes₀ p₁ bytes₁).encode p₁ = bytes₁ :=
  recode_self

end Countable

end Codecs
