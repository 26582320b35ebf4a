import PlatformSdk.Machine.Attempt

/-!
# Evaluations that leave a trace

An evaluation that throws has done something before.  Here the events of an
evaluation are kept however it ends, and an event may itself throw, depending on
all that happened up to it.
-/

namespace Machine

/-- An evaluation that adds its events to a trace. -/
structure Tracing (ε α : Type) where
  run : List ε → Attempt α × List ε

namespace Tracing

variable {ε α β : Type}

protected def bind (x : Tracing ε α) (f : α → Tracing ε β) : Tracing ε β where
  run trace :=
    match x.run trace with
    | (.returns a, trace) => (f a).run trace
    | (.throws what, trace) => (.throws what, trace)
    | (.undefined, trace) => (.undefined, trace)

instance : Monad (Tracing ε) where
  pure a := ⟨fun trace => (.returns a, trace)⟩
  bind := Tracing.bind

/-- An evaluation without events. -/
def lift (x : Attempt α) : Tracing ε α := ⟨fun trace => (x, trace)⟩

/-- An event, and what it throws at the end of the trace that it makes. -/
def emit (throws : List ε → Option String) (event : ε) : Tracing ε Unit where
  run trace :=
    match throws (trace ++ [event]) with
    | some what => (.throws what, trace ++ [event])
    | none => (.returns (), trace ++ [event])

/-- Evaluate, and give the exceptions to a handler that may add events of its own. -/
def catching (x : Tracing ε α) (handler : String → Tracing ε α) : Tracing ε α where
  run trace :=
    match x.run trace with
    | (.throws what, trace) => (handler what).run trace
    | ended => ended

section

variable {trace : List ε}

@[simp] theorem run_pure (a : α) :
    (pure a : Tracing ε α).run trace = (.returns a, trace) := rfl

/-- A sequence goes on where its first part has a value. -/
theorem run_bind_of_returns {x : Tracing ε α} {f : α → Tracing ε β} {a : α}
    {trace' : List ε} (h : x.run trace = (.returns a, trace')) :
    (x >>= f).run trace = (f a).run trace' := by
  change (Tracing.bind x f).run trace = (f a).run trace'
  simp only [Tracing.bind, h]

@[simp] theorem lift_returns_bind (a : α) (f : α → Tracing ε β) :
    (lift (.returns a) >>= f) = f a := rfl

@[simp] theorem lift_throws_bind (what : String) (f : α → Tracing ε β) :
    (lift (.throws what) >>= f) = lift (.throws what) := rfl

@[simp] theorem lift_throws_catching (what : String) (handler : String → Tracing ε α) :
    (lift (.throws what)).catching handler = handler what := rfl

/-- The trace of an event does not depend on how it ends. -/
@[simp] theorem trace_emit (throws : List ε → Option String) (event : ε) :
    ((emit throws event).run trace).2 = trace ++ [event] := by
  simp only [emit]
  cases throws (trace ++ [event]) <;> rfl

/-- An event that throws nothing. -/
@[simp] theorem run_emit_none (event : ε) :
    (emit (fun _ => none) event).run trace = (.returns (), trace ++ [event]) := rfl

/-- A handled event is followed by the events of the handler where it throws. -/
theorem run_emit_catching (throws : List ε → Option String) (event : ε)
    (handler : String → Tracing ε Unit) :
    ((emit throws event).catching handler).run trace =
      match throws (trace ++ [event]) with
      | some what => (handler what).run (trace ++ [event])
      | none => (.returns (), trace ++ [event]) := by
  simp only [catching, emit]
  cases throws (trace ++ [event]) <;> rfl

end

end Tracing
end Machine
