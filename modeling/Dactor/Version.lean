/-
Dactor/Version.lean

The wire protocol version (`version.rs`): `MAJOR.MINOR.PATCH`, its parser, its
text and its order.

The parser splits at dots, refuses empty segments, leading zeros and a leading
`+`, and leaves the rest to the standard parser of `u32`, which accepts a sign
and any number of leading zeros and refuses an overflow.  What is left is the
canonical grammar (`IsVersionText`), on which parsing and printing are inverse.
-/
import Dactor.Codecs
import Dactor.Numerals
import Mathlib.Data.Prod.Lex

namespace Dactor

open Numerals

/-- The largest `u32`. -/
def u32Max : ℕ := 4294967295

/-- `str::parse::<u32>`: a lone sign is refused, a leading `+` is skipped, and the
digits are accumulated with checked arithmetic.  The kind of error is not kept: the
only caller maps every error to one text. -/
def u32FromStr (seg : List Char) : Option UInt32 :=
  match seg with
  | [] => none
  | ['+'] => none
  | ['-'] => none
  | '+' :: ds => (readDigits u32Max 0 ds).map UInt32.ofNat
  | ds => (readDigits u32Max 0 ds).map UInt32.ofNat

structure ParseWireVersionError where
  input : String
  reason : String
deriving DecidableEq, Repr

structure WireVersion where
  major : UInt32
  minor : UInt32
  patch : UInt32
deriving DecidableEq, Repr

namespace WireVersion

/-- The closure `parse_segment` of `from_str`; `s` is the whole input, which the
errors quote. -/
def parseSegment (s : String) (seg : List Char) : Except ParseWireVersionError UInt32 :=
  if seg.isEmpty then
    .error ⟨s, "empty version segment"⟩
  else if (String.ofList seg).utf8ByteSize > 1 ∧ seg.head? = some '0' then
    .error ⟨s, "leading zeros are not allowed"⟩
  else if seg.head? = some '+' then
    .error ⟨s, "leading '+' sign is not allowed"⟩
  else
    match u32FromStr seg with
    | some n => .ok n
    | none => .error ⟨s, "version segment is not a valid u32 integer"⟩

/-- `FromStr::from_str`. -/
def fromStr (s : String) : Except ParseWireVersionError WireVersion :=
  match s.toList.splitOn '.' with
  | [a, b, c] => do
    let major ← parseSegment s a
    let minor ← parseSegment s b
    let patch ← parseSegment s c
    return ⟨major, minor, patch⟩
  | _ => .error ⟨s, "expected exactly 3 dot-separated segments (MAJOR.MINOR.PATCH)"⟩

def parse (s : String) : Except ParseWireVersionError WireVersion := fromStr s

/-- `Display::fmt`. -/
def display (v : WireVersion) : String :=
  toString v.major.toNat ++ "." ++ toString v.minor.toNat ++ "." ++ toString v.patch.toNat

def isCompatible (v w : WireVersion) : Bool := v.major == w.major

/-- `Ord::cmp`. -/
def cmp (v w : WireVersion) : Ordering :=
  ((compare v.major w.major).then (compare v.minor w.minor)).then (compare v.patch w.patch)

/-- `PartialOrd::partial_cmp`. -/
def partialCmp (v w : WireVersion) : Option Ordering := some (cmp v w)

/-! ### The grammar

What a version text is, without reference to the parser. -/

/-- A canonical numeral whose value fits in a `u32`. -/
def IsSegment (seg : List Char) : Prop := IsNumeral seg ∧ value seg ≤ 4294967295

/-- Three segments joined by single dots. -/
def IsVersionText (s : String) : Prop :=
  ∃ a b c : List Char, IsSegment a ∧ IsSegment b ∧ IsSegment c ∧
    s.toList = a ++ '.' :: (b ++ '.' :: c)

/-! ### One segment -/

/-- The standard parser on a text without a sign. -/
theorem u32FromStr_digits {c : Char} (hplus : c ≠ '+') (cs : List Char) :
    u32FromStr (c :: cs) = (readDigits u32Max 0 (c :: cs)).map UInt32.ofNat := by
  by_cases hminus : c = '-'
  · subst hminus
    cases cs with
    | nil => rfl
    | cons d ds => rfl
  · cases cs with
    | nil => simp [u32FromStr, hplus, hminus]
    | cons d ds => simp [u32FromStr, hplus]

theorem u32FromStr_eq_some {c : Char} (hplus : c ≠ '+') {cs : List Char} {n : UInt32} :
    u32FromStr (c :: cs) = some n ↔
      IsDigits (c :: cs) ∧ value (c :: cs) = n.toNat := by
  have hmax : n.toNat ≤ u32Max := Nat.le_of_lt_succ n.toNat_lt
  rw [u32FromStr_digits hplus, Option.map_eq_some_iff]
  constructor
  · rintro ⟨k, hk, rfl⟩
    obtain ⟨hdig, hval, hle⟩ := (readDigits_eq_some (Nat.zero_le _)).mp hk
    refine ⟨hdig, hval.trans ?_⟩
    rw [UInt32.toNat_ofNat_of_lt' (Nat.lt_succ_of_le hle)]
  · rintro ⟨hdig, hval⟩
    exact ⟨n.toNat, (readDigits_eq_some (Nat.zero_le _)).mpr ⟨hdig, hval, hmax⟩,
      UInt32.ofNat_toNat⟩

/-- The byte length of a segment exceeds one as soon as something follows its first
character. -/
theorem one_lt_utf8ByteSize {d : Char} {ds : List Char} (hd : d = '0') :
    (String.ofList (d :: ds)).utf8ByteSize > 1 ↔ ds ≠ [] := by
  subst hd
  cases ds with
  | nil => exact iff_of_false (by decide) (fun h => h rfl)
  | cons e es =>
    refine iff_of_true ?_ (List.cons_ne_nil e es)
    have hpos := Char.utf8Size_pos e
    have hzero := Char.utf8Size_pos '0'
    simp only [String.ofList_cons, String.utf8ByteSize_append, String.utf8ByteSize_singleton]
    omega

/-- **A segment is accepted exactly when it is a canonical `u32` numeral**, and then
with its value. -/
theorem parseSegment_eq_ok {s : String} {seg : List Char} {n : UInt32} :
    parseSegment s seg = .ok n ↔ IsNumeral seg ∧ value seg = n.toNat := by
  cases seg with
  | nil => simp [parseSegment, IsNumeral]
  | cons d ds =>
    by_cases hd0 : d = '0'
    · -- a leading zero: only the numeral `0` itself passes
      cases ds with
      | nil =>
        subst hd0
        have hone : ¬ (String.ofList ['0']).utf8ByteSize > 1 := by decide
        have hread : u32FromStr ['0'] = some 0 := rfl
        have hval : value ['0'] = 0 := rfl
        simp only [parseSegment, List.isEmpty_cons, List.head?_cons, hone, hread, hval]
        constructor
        · intro h
          cases h
          exact ⟨Or.inl rfl, rfl⟩
        · rintro ⟨-, h⟩
          have : n = 0 := UInt32.toNat_inj.mp h.symm
          subst this
          rfl
      | cons e es =>
        have hlong : (String.ofList (d :: e :: es)).utf8ByteSize > 1 :=
          (one_lt_utf8ByteSize hd0).mpr (List.cons_ne_nil e es)
        constructor
        · intro h
          rw [parseSegment, if_neg (by simp), if_pos ⟨hlong, by rw [hd0]; rfl⟩] at h
          cases h
        · rintro ⟨h | ⟨d', ds', h, -, hz, -⟩, -⟩
          · cases h
          · cases h
            exact absurd hd0 hz
    · by_cases hplus : d = '+'
      · -- `u32::from_str` itself would take the sign
        constructor
        · intro h
          simp [parseSegment, hplus] at h
        · rintro ⟨hnum, -⟩
          have hdig := hnum.isDigits d List.mem_cons_self
          subst hplus
          exact absurd hdig (by decide)
      · have hcode : parseSegment s (d :: ds) = .ok n ↔ u32FromStr (d :: ds) = some n := by
          simp only [parseSegment, List.isEmpty_cons, List.head?_cons, Option.some.injEq, hd0,
            hplus, and_false, if_false, Bool.false_eq_true]
          cases u32FromStr (d :: ds) <;> simp
        rw [hcode, u32FromStr_eq_some hplus]
        refine and_congr_left fun _ => ?_
        constructor
        · intro hdig
          exact Or.inr ⟨d, ds, rfl, hdig d List.mem_cons_self, hd0,
            fun c hc => hdig c (List.mem_cons_of_mem d hc)⟩
        · exact IsNumeral.isDigits

/-! ### The whole text -/

theorem dot_notMem {cs : List Char} (h : IsNumeral cs) : '.' ∉ cs := by
  intro hmem
  exact absurd (h.isDigits '.' hmem) (by decide)

theorem splitOn_dots {a b c : List Char} (ha : '.' ∉ a) (hb : '.' ∉ b) (hc : '.' ∉ c) :
    (a ++ '.' :: (b ++ '.' :: c)).splitOn '.' = [a, b, c] := by
  have hall : ∀ l ∈ [a, b, c], '.' ∉ l := by
    intro l hl
    simp only [List.mem_cons, List.not_mem_nil, or_false] at hl
    rcases hl with rfl | rfl | rfl <;> assumption
  have hsplit := List.splitOn_intercalate '.' hall (List.cons_ne_nil a _)
  have hjoin : ['.'].intercalate [a, b, c] = a ++ '.' :: (b ++ '.' :: c) := by
    simp [List.intercalate, List.intersperse]
  rwa [hjoin] at hsplit

theorem eq_of_splitOn {cs a b c : List Char} (h : cs.splitOn '.' = [a, b, c]) :
    cs = a ++ '.' :: (b ++ '.' :: c) := by
  have hjoin : ['.'].intercalate (cs.splitOn '.') = cs := List.intercalate_splitOn '.'
  rw [h] at hjoin
  rw [← hjoin]
  simp [List.intercalate, List.intersperse]

/-- What an accepted text is, with its value. -/
theorem fromStr_eq_ok {s : String} {v : WireVersion} :
    fromStr s = .ok v ↔ ∃ a b c : List Char, s.toList = a ++ '.' :: (b ++ '.' :: c) ∧
      (IsNumeral a ∧ value a = v.major.toNat) ∧ (IsNumeral b ∧ value b = v.minor.toNat) ∧
      (IsNumeral c ∧ value c = v.patch.toNat) := by
  constructor
  · intro h
    unfold fromStr at h
    split at h
    · rename_i a b c hparts
      obtain ⟨major, ha, h⟩ := Codecs.bind_eq_ok.mp h
      obtain ⟨minor, hb, h⟩ := Codecs.bind_eq_ok.mp h
      obtain ⟨patch, hc, h⟩ := Codecs.bind_eq_ok.mp h
      cases h
      exact ⟨a, b, c, eq_of_splitOn hparts, parseSegment_eq_ok.mp ha, parseSegment_eq_ok.mp hb,
        parseSegment_eq_ok.mp hc⟩
    · cases h
  · rintro ⟨a, b, c, htext, ha, hb, hc⟩
    have hparts := splitOn_dots (dot_notMem ha.1) (dot_notMem hb.1) (dot_notMem hc.1)
    rw [← htext] at hparts
    rw [fromStr, hparts]
    show (do
      let major ← parseSegment s a
      let minor ← parseSegment s b
      let patch ← parseSegment s c
      return (⟨major, minor, patch⟩ : WireVersion)) = Except.ok v
    rw [parseSegment_eq_ok.mpr ha, parseSegment_eq_ok.mpr hb, parseSegment_eq_ok.mpr hc]
    rfl

theorem toList_display (v : WireVersion) :
    (display v).toList = Nat.toDigits 10 v.major.toNat ++
      '.' :: (Nat.toDigits 10 v.minor.toNat ++ '.' :: Nat.toDigits 10 v.patch.toNat) := by
  have hdot : ".".toList = ['.'] := rfl
  simp only [display, String.toList_append, Nat.toString_eq_repr, Nat.toList_repr, hdot,
    List.append_assoc, List.cons_append, List.nil_append]

/-- Parsing undoes printing. -/
theorem parse_of_display (v : WireVersion) : parse (display v) = .ok v :=
  fromStr_eq_ok.mpr ⟨_, _, _, toList_display v,
    ⟨isNumeral_toDigits _, value_toDigits _⟩, ⟨isNumeral_toDigits _, value_toDigits _⟩,
    ⟨isNumeral_toDigits _, value_toDigits _⟩⟩

/-- Printing undoes parsing. -/
theorem display_of_parse {s : String} {v : WireVersion} (h : parse s = .ok v) :
    display v = s := by
  obtain ⟨a, b, c, htext, ⟨ha, hva⟩, ⟨hb, hvb⟩, ⟨hc, hvc⟩⟩ := fromStr_eq_ok.mp h
  apply String.toList_injective
  rw [toList_display, htext, ← hva, ← hvb, ← hvc, toDigits_value ha, toDigits_value hb,
    toDigits_value hc]

theorem parse_isOk_iff (s : String) : (∃ v, parse s = .ok v) ↔ IsVersionText s := by
  constructor
  · rintro ⟨v, h⟩
    obtain ⟨a, b, c, htext, ⟨ha, hva⟩, ⟨hb, hvb⟩, ⟨hc, hvc⟩⟩ := fromStr_eq_ok.mp h
    exact ⟨a, b, c, ⟨ha, hva ▸ Nat.le_of_lt_succ v.major.toNat_lt⟩,
      ⟨hb, hvb ▸ Nat.le_of_lt_succ v.minor.toNat_lt⟩,
      ⟨hc, hvc ▸ Nat.le_of_lt_succ v.patch.toNat_lt⟩, htext⟩
  · rintro ⟨a, b, c, ⟨ha, hva⟩, ⟨hb, hvb⟩, ⟨hc, hvc⟩, htext⟩
    have hofNat : ∀ {n : ℕ}, n ≤ 4294967295 → n = (UInt32.ofNat n).toNat := fun hn =>
      (UInt32.toNat_ofNat_of_lt' (Nat.lt_succ_of_le hn)).symm
    exact ⟨⟨.ofNat (value a), .ofNat (value b), .ofNat (value c)⟩,
      fromStr_eq_ok.mpr ⟨a, b, c, htext, ⟨ha, hofNat hva⟩, ⟨hb, hofNat hvb⟩, ⟨hc, hofNat hvc⟩⟩⟩

/-! ### The order -/

/-- The components in order of significance, in the lexicographic order. -/
def key (v : WireVersion) : ℕ ×ₗ ℕ ×ₗ ℕ :=
  toLex (v.major.toNat, toLex (v.minor.toNat, v.patch.toNat))

theorem key_lt_key {v w : WireVersion} :
    key v < key w ↔ v.major < w.major ∨ v.major = w.major ∧
      (v.minor < w.minor ∨ v.minor = w.minor ∧ v.patch < w.patch) := by
  simp only [key, Prod.Lex.toLex_lt_toLex, UInt32.lt_iff_toNat_lt, UInt32.toNat_inj]

theorem cmp_eq_lt {v w : WireVersion} : cmp v w = .lt ↔ key v < key w := by
  rw [key_lt_key]
  simp only [cmp, Ordering.then_eq_lt, Ordering.then_eq_eq, Std.compare_eq_lt,
    Std.compare_eq_iff_eq]
  tauto

theorem cmp_eq_gt {v w : WireVersion} : cmp v w = .gt ↔ key w < key v := by
  rw [key_lt_key]
  simp only [cmp, Ordering.then_eq_gt, Ordering.then_eq_eq, Std.compare_eq_gt,
    Std.compare_eq_iff_eq, eq_comm (a := w.major), eq_comm (a := w.minor)]
  tauto

theorem cmp_eq_eq {v w : WireVersion} : cmp v w = .eq ↔ v = w := by
  obtain ⟨a, b, c⟩ := v
  obtain ⟨a', b', c'⟩ := w
  simp only [cmp, Ordering.then_eq_eq, Std.compare_eq_iff_eq, mk.injEq, and_assoc]

/-- **The version parser accepts exactly the canonical grammar**, parsing and printing
undo each other, and versions are totally ordered by their components. -/
theorem parse_canonical :
    (∀ s : String, (∃ v, parse s = .ok v) ↔ IsVersionText s) ∧
      (∀ (s : String) (v : WireVersion), parse s = .ok v → display v = s) ∧
      (∀ v : WireVersion, parse (display v) = .ok v) ∧
      ∀ v w : WireVersion, (cmp v w = .lt ↔ key v < key w) ∧ (cmp v w = .eq ↔ v = w) ∧
        (cmp v w = .gt ↔ key w < key v) ∧ partialCmp v w = some (cmp v w) ∧
        (key v < key w ∨ v = w ∨ key w < key v) := by
  refine ⟨parse_isOk_iff, fun s v => display_of_parse, parse_of_display, fun v w => ?_⟩
  refine ⟨cmp_eq_lt, cmp_eq_eq, cmp_eq_gt, rfl, ?_⟩
  cases h : cmp v w with
  | lt => exact Or.inl (cmp_eq_lt.mp h)
  | eq => exact Or.inr (Or.inl (cmp_eq_eq.mp h))
  | gt => exact Or.inr (Or.inr (cmp_eq_gt.mp h))

/-- The frozen wire version of the source is accepted and printed back. -/
theorem parse_canonical_frozen :
    parse "0.2.0" = .ok ⟨0, 2, 0⟩ ∧ display ⟨0, 2, 0⟩ = "0.2.0" := by
  have h : parse "0.2.0" = .ok ⟨0, 2, 0⟩ := by rfl
  exact ⟨h, parse_canonical.2.1 "0.2.0" ⟨0, 2, 0⟩ h⟩

end WireVersion

end Dactor
