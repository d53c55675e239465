/-
Dactor/Basic.lean

The vocabulary shared by every part of the framework: identities of nodes
and actors, send modes, headers, interceptor dispositions, errors, and the
wire envelope.

An `Instant` or a `Duration` of the source is a `Nat` here, in nanoseconds,
instants from an arbitrary origin.  `Instant::duration_since` saturates at
zero, which is subtraction on `Nat`.
-/
import Mathlib.Algebra.Order.Ring.Nat
import Mathlib.Data.Finmap
import Mathlib.Data.List.Basic

namespace Dactor

abbrev Bytes := List UInt8

/-- `now.duration_since(earlier)`: zero when `earlier` lies ahead. -/
def durationSince (now earlier : Nat) : Nat := now - earlier

abbrev Uuid := BitVec 128

/-! ### Checked arithmetic

`+` and `*` on `u64` in a build with overflow checks; `none` stands for the
panic. -/

def addChecked (a b : UInt64) : Option UInt64 :=
  if a.toNat + b.toNat < 2 ^ 64 then some (a + b) else none

def mulChecked (a b : UInt64) : Option UInt64 :=
  if a.toNat * b.toNat < 2 ^ 64 then some (a * b) else none

theorem addChecked_eq_none {a b : UInt64} :
    addChecked a b = none ↔ 2 ^ 64 ≤ a.toNat + b.toNat := by
  simp [addChecked]

theorem mulChecked_eq_none {a b : UInt64} :
    mulChecked a b = none ↔ 2 ^ 64 ≤ a.toNat * b.toNat := by
  simp [mulChecked]

theorem addChecked_eq_some {a b c : UInt64} :
    addChecked a b = some c ↔ a.toNat + b.toNat = c.toNat := by
  rw [addChecked]
  split
  · next h =>
    rw [Option.some.injEq, ← UInt64.toNat_inj, UInt64.toNat_add, Nat.mod_eq_of_lt h]
  · next h =>
    have hc := c.toNat_lt
    exact iff_of_false (fun hnone => by cases hnone) (by omega)

theorem mulChecked_eq_some {a b c : UInt64} :
    mulChecked a b = some c ↔ a.toNat * b.toNat = c.toNat := by
  rw [mulChecked]
  split
  · next h =>
    rw [Option.some.injEq, ← UInt64.toNat_inj, UInt64.toNat_mul, Nat.mod_eq_of_lt h]
  · next h =>
    have hc := c.toNat_lt
    exact iff_of_false (fun hnone => by cases hnone) (by omega)

/-! ### Durations

A `Duration` is a number of nanoseconds up to `Duration::MAX`; `+` and `+=`
panic beyond it in every build. -/

/-- `Duration::MAX`: `u64::MAX` seconds and 999 999 999 nanoseconds. -/
def durationMax : Nat := 2 ^ 64 * 10 ^ 9 - 1

def addDuration (a b : Nat) : Option Nat := if a + b ≤ durationMax then some (a + b) else none

/-- The last `Instant`: `i64::MAX` seconds and 999 999 999 nanoseconds. -/
def instantMax : Nat := 2 ^ 63 * 10 ^ 9 - 1

/-- `Instant + Duration`; `none` stands for the panic past the last instant. -/
def addInstant (now d : Nat) : Option Nat :=
  if d ≤ instantMax - now then some (now + d) else none

/-! ### Allocations -/

/-- `isize::MAX`: no allocation has more bytes. -/
def isizeMax : Nat := 2 ^ 63 - 1

/-- `Vec::with_capacity` for elements of `itemSize` bytes; `none` stands for
its panic. -/
def withCapacity {T : Type} (itemSize capacity : Nat) : Option (List T) :=
  if itemSize * capacity ≤ isizeMax then some [] else none

/-! ### Identities -/

structure NodeId where
  id : String
  deriving DecidableEq, Repr

structure ActorId where
  node : NodeId
  «local» : UInt64
  deriving DecidableEq, Repr

/-! ### Send modes -/

/-- How a message was sent to the actor. -/
inductive SendMode
  | tell | ask | expand | reduce | transform
  deriving DecidableEq, Repr

/-! ### Headers -/

/-- A header value: the name it travels under and its wire form, `none` for
a header that stays on its node. -/
structure HeaderValue where
  headerName : String
  toBytes : Option Bytes
  deriving DecidableEq, Repr

/-- Headers are keyed by the type of the value. -/
abbrev TypeId := String

structure Headers where
  map : List (TypeId × HeaderValue)
  deriving DecidableEq, Repr

def Headers.new : Headers := ⟨[]⟩

/-- Read-only headers the runtime generates for each message. -/
structure RuntimeHeaders where
  messageId : Uuid
  timestamp : Nat
  deriving DecidableEq, Repr

/-- Wire-format headers: string key to serialized bytes.  The order of the source's
`HashMap` is not observable, so it is a finite map here. -/
structure WireHeaders where
  entries : Finmap fun _ : String => Bytes
  deriving DecidableEq

def WireHeaders.get (h : WireHeaders) (name : String) : Option Bytes :=
  h.entries.lookup name

/-! ### Priorities -/

structure Priority where
  value : UInt8
  deriving DecidableEq, Repr

def Priority.normal : Priority := ⟨128⟩

/-! ### Wire envelopes -/

structure WireEnvelope where
  target : ActorId
  targetName : String
  messageType : String
  sendMode : SendMode
  headers : WireHeaders
  body : Bytes
  requestId : Option Uuid
  version : Option UInt32
  deriving DecidableEq

/-! ### Dispositions and errors -/

/-- The decision an interceptor returns for a message. -/
inductive Disposition
  | continued
  | delay (d : Nat)
  | drop
  | reject (reason : String)
  | retry (after : Nat)
  deriving DecidableEq, Repr

/-- `Drop`, `Reject` and `Retry` keep the message from the handler. -/
def Disposition.vetoes : Disposition → Bool
  | .continued | .delay _ => false
  | .drop | .reject _ | .retry _ => true

inductive ErrorCode
  | internal | invalidArgument | notFound | unavailable | timeout
  | permissionDenied | failedPrecondition | resourceExhausted
  | unimplemented | unknown | cancelled
  deriving DecidableEq, Repr

/-- One link of an error's causal chain. -/
structure ErrorFrame where
  code : ErrorCode
  message : String
  details : Option String
  deriving DecidableEq, Repr

/-- An actor error with its causes, nearest first (the source links them
through `cause: Option<Box<ActorError>>`). -/
structure ActorError extends ErrorFrame where
  cause : List ErrorFrame
  deriving DecidableEq, Repr

def ActorError.new (code : ErrorCode) (message : String) : ActorError :=
  { code, message, details := none, cause := [] }

def ActorError.internal (message : String) : ActorError :=
  .new .internal message

/-- What the actor asks for after a handler panic. -/
inductive ErrorAction
  | resume | restart | stop | escalate
  deriving DecidableEq, Repr

/-- `Stop` and `Escalate` end the actor; `Restart` is treated as `Resume`. -/
def ErrorAction.stops : ErrorAction → Bool
  | .resume | .restart => false
  | .stop | .escalate => true

inductive RuntimeError
  | send (msg : String)
  | actorNotFound (msg : String)
  | timeout
  | rejected (interceptor reason : String)
  | retryAfter (interceptor : String) (retryAfter : Nat)
  | actor (e : ActorError)
  | cancelled
  | notSupported (capability message : String)
  | spawnFailed (msg : String)
  deriving DecidableEq, Repr

end Dactor
