import Mathlib.Data.List.Perm.Subperm
import PlatformSdk.Machine.Simulation
import PlatformSdk.Wire.Format

/-!
# Sending datagrams

`net::udp::boost::Sender` resolves its host anew for each message, and sends the message
from a socket of its own once this is done.  Nothing keeps one message behind another: the
module shows what a run does with each of them all the same.
-/

namespace Airmap.Net.Udp.Boost

open Machine Wire

/-- A call of `Sender::send`: its message, and how many calls were made before. -/
abbrev Send := Bytes × ℕ

/-- `Sender`: the sends that wait for the resolver, those whose socket has the message, and
those that are over, with the result that their callback was called with, if it was. -/
structure Sender where
  made : ℕ := 0
  resolving : List Send := []
  sending : List Send := []
  ended : List (Send × Option (Except String Unit)) := []

namespace Sender

/-- `Sender::send`. -/
def send (message : Bytes) (s : Sender) : Sender :=
  { s with made := s.made + 1, resolving := s.resolving ++ [(message, s.made)] }

/-- What the handler of `async_resolve` meets: an error, no socket for the `Session`, or a
session that starts to send. -/
inductive Resolution where
  | failed (message : String)
  | noSocket
  | started
  deriving DecidableEq

/-- The handler of `async_resolve`. -/
def handleResolve (resolution : Resolution) (call : Send) (s : Sender) : Sender :=
  match resolution with
  | .failed message =>
      { s with ended := s.ended ++
          [(call, some (.error ("failed to resolve host: " ++ message)))] }
  -- the constructor of the session throws
  | .noSocket => { s with ended := s.ended ++ [(call, none)] }
  | .started => { s with sending := s.sending ++ [call] }

/-- `Session::handle_write`, what it calls back with. -/
def handleWrite (ec : Option String) (transferred : ℕ) (message : Bytes) :
    Except String Unit :=
  match ec with
  | some what => .error ("failed to send udp packet: " ++ what)
  | none =>
      if transferred ≠ message.length then .error "failed to send udp packet" else .ok ()

/-- The `i`-th of the lookups or of the writes that are outstanding completes. -/
inductive Event where
  | resolved (i : ℕ) (resolution : Resolution)
  | written (i : ℕ) (ec : Option String) (transferred : ℕ)
  deriving DecidableEq

def step (s : Sender) : Event → Option Sender
  | .resolved i resolution =>
      match s.resolving[i]? with
      | none => none
      | some call =>
          some ({ s with resolving := s.resolving.eraseIdx i }.handleResolve resolution call)
  | .written i ec transferred =>
      match s.sending[i]? with
      | none => none
      | some call =>
          some { s with
            sending := s.sending.eraseIdx i
            ended := s.ended ++ [(call, some (handleWrite ec transferred call.1))] }

/-- The sends of a sender, wherever they are. -/
def sends (s : Sender) : List Send :=
  s.resolving ++ s.sending ++ s.ended.map Prod.fst

/-- The sends that were called back with success. -/
def delivered (s : Sender) : List Send :=
  (s.ended.filter fun call => call.2 matches some (.ok ())).map Prod.fst

/-! ## What one step does -/

variable {s s' : Sender}

theorem perm_of_getElem? {α : Type*} {xs : List α} {i : ℕ} {x : α} (h : xs[i]? = some x) :
    xs.Perm (x :: xs.eraseIdx i) := by
  obtain ⟨hlt, rfl⟩ := List.getElem?_eq_some_iff.mp h
  exact (List.getElem_cons_eraseIdx_perm hlt).symm

/-- How often a send is found in a sender. -/
theorem count_sends (call : Send) (s : Sender) :
    s.sends.count call =
      s.resolving.count call + s.sending.count call + (s.ended.map Prod.fst).count call := by
  rw [sends, List.count_append, List.count_append]

theorem sends_send (message : Bytes) (s : Sender) :
    (s.send message).sends.Perm (s.sends ++ [(message, s.made)]) := by
  rw [List.perm_iff_count]
  intro call
  rw [List.count_append, count_sends, count_sends]
  simp only [send, List.count_append]
  omega

/-- A completion moves a send on, and loses or doubles none. -/
theorem sends_step {event : Event} (hstep : s.step event = some s') :
    s'.made = s.made ∧ s'.sends.Perm s.sends := by
  rcases event with ⟨i, resolution⟩ | ⟨i, ec, transferred⟩
  · simp only [step] at hstep
    split at hstep
    · cases hstep
    · next call hcall =>
        cases hstep
        have hperm := perm_of_getElem? hcall
        refine ⟨by cases resolution <;> rfl, ?_⟩
        rw [List.perm_iff_count]
        intro call'
        have hcount := hperm.count_eq call'
        rw [List.count_cons] at hcount
        rw [count_sends, count_sends]
        cases resolution <;>
          simp only [handleResolve, List.count_append, List.map_append, List.map_cons,
            List.map_nil, List.count_singleton] <;>
          omega
  · simp only [step] at hstep
    split at hstep
    · cases hstep
    · next call hcall =>
        cases hstep
        have hperm := perm_of_getElem? hcall
        refine ⟨rfl, ?_⟩
        rw [List.perm_iff_count]
        intro call'
        have hcount := hperm.count_eq call'
        rw [List.count_cons] at hcount
        rw [count_sends, count_sends]
        simp only [List.count_append, List.map_append, List.map_cons, List.map_nil,
          List.count_singleton]
        omega

/-- What was delivered is among the sends. -/
theorem subperm_delivered (s : Sender) : s.delivered.Subperm s.sends := by
  have hended : s.delivered.Sublist (s.ended.map Prod.fst) := List.filter_sublist.map Prod.fst
  exact (hended.trans (List.sublist_append_right _ _)).subperm

end Sender
end Airmap.Net.Udp.Boost
