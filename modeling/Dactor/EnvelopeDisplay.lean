/-
Dactor/EnvelopeDisplay.lean

Printing an actor reference that came over the wire.

`Display for ActorRefEnvelope` cuts the name and the type, which the sender
chose, after 128 bytes.  A string slice of Rust panics unless its end is a
character boundary, so a longer string is printed only if byte 128 happens to
be one.

Main result: `display_completes_iff`.
-/
import Dactor.RemoteTell

namespace Dactor

/-! ### Slices -/

/-- The characters of the first `n` bytes; `none` when there are not so many,
or the last of them ends inside a character. -/
def takeBytes : List Char → ℕ → Option (List Char)
  | _, 0 => some []
  | [], _ + 1 => none
  | c :: cs, n + 1 =>
    if c.utf8Size ≤ n + 1 then (takeBytes cs (n + 1 - c.utf8Size)).map (c :: ·) else none

/-- `&s[..n]`; `none` stands for the panic. -/
def sliceTo (s : String) (n : ℕ) : Option String := (takeBytes s.toList n).map String.ofList

/-- Byte `n` of the string is a character boundary. -/
def CharBoundary (s : String) (n : ℕ) : Prop :=
  ∃ before after : String, s = before ++ after ∧ before.utf8ByteSize = n

/-! ### The envelope -/

structure ActorRefEnvelope where
  actorId : ActorId
  actorName : String
  actorType : String
  deriving DecidableEq, Repr

namespace ActorRefEnvelope

/-- What is printed of a field. -/
def shown (field : String) : Option String :=
  if field.utf8ByteSize > 128 then sliceTo field 128 else some field

def format (e : ActorRefEnvelope) (name atype : String) : String :=
  "ActorRef(" ++ e.actorId.display ++ ", name=" ++ name ++ ", type=" ++ atype ++ ")"

/-- `Display::fmt`; `none` stands for a panic. -/
def display (e : ActorRefEnvelope) : Option String := do
  let name ← shown e.actorName
  let atype ← shown e.actorType
  return e.format name atype

/-! ### The contract -/

/-- The whole field if it has at most 128 bytes, and otherwise a prefix that
has. -/
structure Abbreviates (field printed : String) : Prop where
  short : field.utf8ByteSize ≤ 128 → printed = field
  long : 128 < field.utf8ByteSize → printed.utf8ByteSize ≤ 128 ∧ ∃ rest, field = printed ++ rest

/-- The envelope is printed, both fields as they should be. -/
def Displays (e : ActorRefEnvelope) : Prop :=
  ∃ name atype, e.display = some (e.format name atype) ∧
    Abbreviates e.actorName name ∧ Abbreviates e.actorType atype

/-- The field is short, or can be cut at byte 128. -/
def Cuttable (field : String) : Prop := field.utf8ByteSize ≤ 128 ∨ CharBoundary field 128

end ActorRefEnvelope

/-! ### Where a string can be cut -/

theorem utf8ByteSize_ofList_cons (c : Char) (cs : List Char) :
    (String.ofList (c :: cs)).utf8ByteSize = c.utf8Size + (String.ofList cs).utf8ByteSize := by
  rw [String.ofList_cons, String.utf8ByteSize_append, String.utf8ByteSize_singleton]

theorem utf8ByteSize_ofList_eq_zero {cs : List Char} :
    (String.ofList cs).utf8ByteSize = 0 ↔ cs = [] := by
  rw [String.utf8ByteSize_eq_zero_iff, ← String.ofList_nil, String.ofList_inj]

theorem takeBytes_zero (cs : List Char) : takeBytes cs 0 = some [] := by
  cases cs with
  | nil => rfl
  | cons c cs => rfl

/-- The slice of characters is the prefix of that size, if there is one. -/
theorem takeBytes_eq_some_iff {cs pre : List Char} {n : ℕ} :
    takeBytes cs n = some pre ↔ pre <+: cs ∧ (String.ofList pre).utf8ByteSize = n := by
  induction cs generalizing pre n with
  | nil =>
      rw [List.prefix_nil]
      cases n with
      | zero =>
          rw [takeBytes_zero, utf8ByteSize_ofList_eq_zero, and_self, Option.some.injEq, eq_comm]
      | succ n =>
          refine iff_of_false (fun h => by cases h) ?_
          rintro ⟨rfl, h⟩
          cases h
  | cons c cs ih =>
      cases n with
      | zero =>
          rw [takeBytes_zero, utf8ByteSize_ofList_eq_zero, Option.some.injEq, eq_comm]
          exact ⟨fun h => ⟨h ▸ List.nil_prefix, h⟩, fun h => h.2⟩
      | succ n =>
          constructor
          · intro h
            rw [takeBytes] at h
            split at h
            · next hfits =>
                obtain ⟨rest, hrest, rfl⟩ := Option.map_eq_some_iff.mp h
                obtain ⟨hpre, hsize⟩ := ih.mp hrest
                refine ⟨List.cons_prefix_cons.mpr ⟨rfl, hpre⟩, ?_⟩
                rw [utf8ByteSize_ofList_cons, hsize]
                omega
            · cases h
          · rintro ⟨hpre, hsize⟩
            cases pre with
            | nil => cases hsize
            | cons d rest =>
                obtain ⟨rfl, hrest⟩ := List.cons_prefix_cons.mp hpre
                rw [utf8ByteSize_ofList_cons] at hsize
                have htake : takeBytes cs (n + 1 - d.utf8Size) = some rest :=
                  ih.mpr ⟨hrest, by omega⟩
                rw [takeBytes, if_pos (by omega), htake]
                rfl

/-- A slice succeeds at a character boundary, with what is before it. -/
theorem sliceTo_eq_some_iff {s t : String} {n : ℕ} :
    sliceTo s n = some t ↔ (∃ rest, s = t ++ rest) ∧ t.utf8ByteSize = n := by
  have hleading : t.toList <+: s.toList ↔ ∃ rest, s = t ++ rest := by
    constructor
    · rintro ⟨rest, h⟩
      refine ⟨String.ofList rest, String.toList_injective ?_⟩
      rw [String.toList_append, String.toList_ofList, h]
    · rintro ⟨rest, rfl⟩
      rw [String.toList_append]
      exact List.prefix_append _ _
  rw [← hleading, sliceTo, Option.map_eq_some_iff]
  constructor
  · rintro ⟨pre, hpre, rfl⟩
    rw [String.toList_ofList]
    exact takeBytes_eq_some_iff.mp hpre
  · rintro ⟨hpre, hsize⟩
    refine ⟨t.toList, takeBytes_eq_some_iff.mpr ⟨hpre, ?_⟩, String.ofList_toList⟩
    rw [String.ofList_toList]
    exact hsize

theorem exists_sliceTo_iff {s : String} {n : ℕ} :
    (∃ t, sliceTo s n = some t) ↔ CharBoundary s n := by
  constructor
  · rintro ⟨t, h⟩
    obtain ⟨⟨rest, hrest⟩, hsize⟩ := sliceTo_eq_some_iff.mp h
    exact ⟨t, rest, hrest, hsize⟩
  · rintro ⟨t, rest, hrest, hsize⟩
    exact ⟨t, sliceTo_eq_some_iff.mpr ⟨⟨rest, hrest⟩, hsize⟩⟩

/-! ### What is printed -/

namespace ActorRefEnvelope

/-- What is printed of a field is what should be. -/
theorem abbreviates_of_shown {field printed : String} (h : shown field = some printed) :
    Abbreviates field printed := by
  unfold shown at h
  split at h
  · next hlong =>
      obtain ⟨hleading, hsize⟩ := sliceTo_eq_some_iff.mp h
      exact ⟨fun hshort => absurd hshort (Nat.not_le_of_lt hlong), fun _ => ⟨hsize.le, hleading⟩⟩
  · next hshort =>
      cases h
      exact ⟨fun _ => rfl, fun hlong => absurd hlong hshort⟩

theorem exists_shown_iff {field : String} : (∃ printed, shown field = some printed) ↔
    Cuttable field := by
  unfold shown Cuttable
  split
  · next hlong =>
      rw [exists_sliceTo_iff]
      exact ⟨.inr, fun h => h.resolve_left (Nat.not_le_of_lt hlong)⟩
  · next hshort => exact iff_of_true ⟨field, rfl⟩ (.inl (Nat.le_of_not_lt hshort))

/-- The envelope is printed when both fields are. -/
theorem display_eq_some_iff {e : ActorRefEnvelope} {text : String} :
    e.display = some text ↔ ∃ name atype, shown e.actorName = some name ∧
      shown e.actorType = some atype ∧ e.format name atype = text := by
  simp [display, Option.bind_eq_some_iff]

end ActorRefEnvelope

open ActorRefEnvelope

/-- **A received reference is printed exactly if both its fields can be cut.**
The name and the type must each have at most 128 bytes, or a character
boundary at byte 128; otherwise the formatting panics. -/
theorem display_completes_iff (e : ActorRefEnvelope) :
    (e.Displays ↔ Cuttable e.actorName ∧ Cuttable e.actorType) ∧
      (e.display = none ↔ ¬ (Cuttable e.actorName ∧ Cuttable e.actorType)) := by
  have hsome : (∃ text, e.display = some text) ↔
      Cuttable e.actorName ∧ Cuttable e.actorType := by
    rw [← exists_shown_iff, ← exists_shown_iff]
    constructor
    · rintro ⟨text, h⟩
      obtain ⟨name, atype, hname, hatype, -⟩ := display_eq_some_iff.mp h
      exact ⟨⟨name, hname⟩, ⟨atype, hatype⟩⟩
    · rintro ⟨⟨name, hname⟩, ⟨atype, hatype⟩⟩
      exact ⟨e.format name atype, display_eq_some_iff.mpr ⟨name, atype, hname, hatype, rfl⟩⟩
  refine ⟨?_, ?_⟩
  · rw [← hsome]
    constructor
    · rintro ⟨name, atype, h, -⟩
      exact ⟨e.format name atype, h⟩
    · rintro ⟨text, h⟩
      obtain ⟨name, atype, hname, hatype, rfl⟩ := display_eq_some_iff.mp h
      exact ⟨name, atype, h, abbreviates_of_shown hname, abbreviates_of_shown hatype⟩
  · rw [← hsome, ← Option.ne_none_iff_exists', not_not]

/-- A name of 127 letters and one of two bytes. -/
def accentedName : ActorRefEnvelope where
  actorId := ⟨⟨"node-1"⟩, 1⟩
  actorName := String.ofList (List.replicate 127 'a' ++ ['é'])
  actorType := "app::Worker"

/-- Byte 128 lies inside the last letter. -/
theorem display_accented_panics :
    accentedName.display = none ∧ ¬ accentedName.Displays := by
  have hlong : accentedName.actorName.utf8ByteSize > 128 := by decide +kernel
  have hslice : sliceTo accentedName.actorName 128 = none := by
    rw [sliceTo, show accentedName.actorName.toList = _ from String.toList_ofList]
    decide +kernel
  have hnone : accentedName.display = none := by
    rw [display, shown, if_pos hlong, hslice]
    rfl
  refine ⟨hnone, ?_⟩
  rintro ⟨name, atype, h, -⟩
  rw [hnone] at h
  cases h

end Dactor
