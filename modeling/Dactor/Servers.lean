/-
Dactor/Servers.lean

Single-threaded servers with a mailbox.

A server is started in a fixed state, takes messages in the order in which they
are posted, handles one at a time and answers each.  Posts and the handling of
messages interleave arbitrarily, and the server may be started anew.

Main result: `serves_run` — whatever the interleaving, the answers given so far
are the ones of the sequential execution of the messages posted since the last
start, and the mailbox holds the rest of them.  `Serves.answer` reads the answer
to one message off its place in that order, and `obs_after` gives an observation
of the state that the last message about it decides.

The module names nothing of the program that is verified with it.
-/
import Dactor.Runs

namespace Servers

open Runs

variable {σ μ ρ β : Type*}

/-- A server: its state, the messages that it has not handled yet, and those that it has
handled with the answers, oldest first. -/
structure Server (σ μ ρ : Type*) where
  state : σ
  mailbox : List μ
  answers : List (μ × ρ)

namespace Server

def new (s₀ : σ) : Server σ μ ρ := ⟨s₀, [], []⟩

def post (srv : Server σ μ ρ) (m : μ) : Server σ μ ρ :=
  { srv with mailbox := srv.mailbox ++ [m] }

/-- Handle the oldest message, if there is one. -/
def work (handle : σ → μ → σ × ρ) (srv : Server σ μ ρ) : Server σ μ ρ :=
  match srv.mailbox with
  | [] => srv
  | m :: rest =>
    ⟨(handle srv.state m).1, rest, srv.answers ++ [(m, (handle srv.state m).2)]⟩

end Server

inductive Event (μ : Type*)
  | start
  | post (m : μ)
  | work

/-- One event of a server that may not have been started yet; a post before that is lost. -/
def step (handle : σ → μ → σ × ρ) (s₀ : σ) (srv : Option (Server σ μ ρ)) :
    Event μ → Option (Server σ μ ρ)
  | .start => some (.new s₀)
  | .post m => srv.map (·.post m)
  | .work => srv.map (·.work handle)

/-- One event, for somebody who only notes the posts. -/
def note (msgs : Option (List μ)) : Event μ → Option (List μ)
  | .start => some []
  | .post m => msgs.map (· ++ [m])
  | .work => msgs

/-- The messages posted since the last start, if there was one. -/
def inbox (events : List (Event μ)) : Option (List μ) := run note none events

/-- The message of a post. -/
def Event.posted : Event μ → Option μ
  | .post m => some m
  | _ => none

theorem run_note_of_no_start {events : List (Event μ)} (h : ∀ e ∈ events, e ≠ .start)
    (msgs : List μ) :
    run note (some msgs) events = some (msgs ++ events.filterMap Event.posted) := by
  induction events generalizing msgs with
  | nil => exact congrArg some (List.append_nil msgs).symm
  | cons e events ih =>
      have ih := ih fun e he => h e (List.mem_cons_of_mem _ he)
      cases e with
      | start => exact absurd rfl (h _ List.mem_cons_self)
      | post m =>
          show run note (some (msgs ++ [m])) events = _
          rw [ih, List.append_assoc]
          rfl
      | work => exact ih msgs

/-! ### The sequential execution -/

/-- The state after the messages, one after the other. -/
def after (handle : σ → μ → σ × ρ) (s : σ) (msgs : List μ) : σ :=
  run (fun s m => (handle s m).1) s msgs

/-- The messages with their answers, one after the other. -/
def transcript (handle : σ → μ → σ × ρ) : σ → List μ → List (μ × ρ)
  | _, [] => []
  | s, m :: msgs => (m, (handle s m).2) :: transcript handle (handle s m).1 msgs

section Sequential

variable {handle : σ → μ → σ × ρ}

theorem after_append (s : σ) (msgs more : List μ) :
    after handle s (msgs ++ more) = after handle (after handle s msgs) more :=
  run_append _ s msgs more

theorem transcript_append (s : σ) (msgs more : List μ) :
    transcript handle s (msgs ++ more) =
      transcript handle s msgs ++ transcript handle (after handle s msgs) more := by
  induction msgs generalizing s with
  | nil => rfl
  | cons m msgs ih =>
      show _ :: transcript handle (handle s m).1 (msgs ++ more) = _
      rw [ih]
      rfl

theorem transcript_getElem? (s : σ) (msgs : List μ) (i : ℕ) :
    (transcript handle s msgs)[i]? =
      msgs[i]?.map fun m => (m, (handle (after handle s (msgs.take i)) m).2) := by
  induction msgs generalizing s i with
  | nil => rfl
  | cons m msgs ih =>
      cases i with
      | zero => rfl
      | succ i => exact ih (handle s m).1 i

theorem map_fst_transcript (s : σ) (msgs : List μ) :
    (transcript handle s msgs).map Prod.fst = msgs := by
  induction msgs generalizing s with
  | nil => rfl
  | cons m msgs ih => exact congrArg (m :: ·) (ih _)

/-- An observation of the state that a message sets or leaves alone is what the last
message that sets it has made of it. -/
theorem obs_after (handle : σ → μ → σ × ρ) (obs : σ → β) {about : μ → Option β}
    (h : ∀ s m, obs (handle s m).1 = (about m).getD (obs s)) (s : σ) (msgs : List μ) :
    obs (after handle s msgs) = ((msgs.filterMap about).getLast?).getD (obs s) := by
  induction msgs using List.reverseRecOn with
  | nil => rfl
  | append_singleton msgs m ih =>
      rw [after_append]
      show obs (handle (after handle s msgs) m).1 = _
      rw [h, List.filterMap_append]
      cases hm : about m with
      | none => simpa [hm] using ih
      | some b => simp [hm]

end Sequential

/-! ### Every interleaving is sequential -/

/-- What a server owes that was started in `s₀` and was posted `msgs` since: it has handled
the first of them, in order, and has the others before it. -/
def Serves (handle : σ → μ → σ × ρ) (s₀ : σ) (msgs : List μ) (srv : Server σ μ ρ) : Prop :=
  ∃ done, msgs = done ++ srv.mailbox ∧ srv.state = after handle s₀ done ∧
    srv.answers = transcript handle s₀ done

section Interleaved

variable {handle : σ → μ → σ × ρ} {s₀ : σ} {msgs : List μ} {srv : Server σ μ ρ}

theorem serves_new : Serves handle s₀ [] (.new s₀) := ⟨[], rfl, rfl, rfl⟩

theorem Serves.post (h : Serves handle s₀ msgs srv) (m : μ) :
    Serves handle s₀ (msgs ++ [m]) (srv.post m) := by
  obtain ⟨done, hmsgs, hstate, hanswers⟩ := h
  refine ⟨done, ?_, hstate, hanswers⟩
  rw [hmsgs, List.append_assoc]
  rfl

theorem Serves.work (h : Serves handle s₀ msgs srv) :
    Serves handle s₀ msgs (srv.work handle) := by
  obtain ⟨done, hmsgs, hstate, hanswers⟩ := h
  obtain ⟨state, mailbox, answers⟩ := srv
  cases mailbox with
  | nil => exact ⟨done, hmsgs, hstate, hanswers⟩
  | cons m rest =>
      -- the message moves from the head of the mailbox to the end of what is done
      refine ⟨done ++ [m], ?_, ?_, ?_⟩
      · show msgs = done ++ [m] ++ rest
        rw [hmsgs, List.append_assoc]
        rfl
      · show (handle state m).1 = _
        rw [after_append, ← hstate]
        rfl
      · show answers ++ [(m, (handle state m).2)] = _
        rw [transcript_append, ← hstate, ← hanswers]
        rfl

theorem serves_step {noted : Option (List μ)} {now : Option (Server σ μ ρ)}
    (h : Option.Rel (Serves handle s₀) noted now) (event : Event μ) :
    Option.Rel (Serves handle s₀) (note noted event) (step handle s₀ now event) := by
  cases event with
  | start => exact .some serves_new
  | post m =>
      cases h with
      | none => exact .none
      | some h => exact .some (h.post m)
  | work =>
      cases h with
      | none => exact .none
      | some h => exact .some h.work

/-- **Every interleaving of posts and work is sequential.**  A server is there once it was
started, and serves what was posted to it since. -/
theorem serves_run (handle : σ → μ → σ × ρ) (s₀ : σ) (events : List (Event μ)) :
    Option.Rel (Serves handle s₀) (inbox events) (run (step handle s₀) none events) :=
  run_sim (Option.Rel (Serves handle s₀)) (fun _ _ event h => serves_step h event) events .none

/-- The answer to message number `i` is the one of the sequential execution. -/
theorem Serves.answer (h : Serves handle s₀ msgs srv) {i : ℕ} {m : μ} {r : ρ}
    (hanswer : srv.answers[i]? = some (m, r)) :
    msgs[i]? = some m ∧ r = (handle (after handle s₀ (msgs.take i)) m).2 := by
  obtain ⟨done, rfl, -, hanswers⟩ := h
  rw [hanswers, transcript_getElem?, Option.map_eq_some_iff] at hanswer
  obtain ⟨m', hm, heq⟩ := hanswer
  obtain ⟨rfl, rfl⟩ := Prod.mk.inj heq
  have hi : i < done.length := (List.getElem?_eq_some_iff.mp hm).1
  refine ⟨by rw [List.getElem?_append_left hi, hm], ?_⟩
  rw [List.take_append_of_le_length (Nat.le_of_lt hi)]

/-- What was posted is answered or in the mailbox, in order. -/
theorem Serves.answered (h : Serves handle s₀ msgs srv) :
    srv.answers.map Prod.fst ++ srv.mailbox = msgs := by
  obtain ⟨done, rfl, -, hanswers⟩ := h
  rw [hanswers, map_fst_transcript]

/-- Once the mailbox is empty, everything that was posted is done. -/
theorem Serves.drained (h : Serves handle s₀ msgs srv) (hempty : srv.mailbox = []) :
    srv.state = after handle s₀ msgs ∧ srv.answers = transcript handle s₀ msgs := by
  obtain ⟨done, rfl, hstate, hanswers⟩ := h
  rw [hempty, List.append_nil]
  exact ⟨hstate, hanswers⟩

/-- A consequence of serving, wherever there is a server. -/
theorem rel_of_serves {P : List μ → Server σ μ ρ → Prop}
    (h : ∀ msgs srv, Serves handle s₀ msgs srv → P msgs srv) {noted : Option (List μ)}
    {now : Option (Server σ μ ρ)} (hrel : Option.Rel (Serves handle s₀) noted now) :
    Option.Rel P noted now := by
  cases hrel with
  | none => exact .none
  | some hserves => exact .some (h _ _ hserves)

end Interleaved

end Servers
