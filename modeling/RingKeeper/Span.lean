import RingKeeper.Width

/-!
# Time spans

A span is a number of nanoseconds. Spans that are read or doubled have to stay below 2^64 seconds,
the limit of the clock that they are used with.
-/

namespace RingKeeper

structure Span where
  nanos : Nat
deriving DecidableEq, Repr

namespace Span

def nanosPerSecond : Nat := 1000000000

def nanosPerMilli : Nat := 1000000

/-- The number of nanoseconds at which a span no longer fits its clock: 2^64 seconds. -/
def limit : Nat := Width.bits64 * nanosPerSecond

def zero : Span := ⟨0⟩

def ofMillis (ms : Nat) : Span := ⟨ms * nanosPerMilli⟩

def ofSeconds (s : Nat) : Span := ⟨s * nanosPerSecond⟩

def seconds (d : Span) : Nat := d.nanos / nanosPerSecond

/-- The nanoseconds beyond the full seconds. -/
def subsecond (d : Span) : Nat := d.nanos % nanosPerSecond

def millis (d : Span) : Nat := d.nanos / nanosPerMilli

def add (d e : Span) : Span := ⟨d.nanos + e.nanos⟩

instance : Add Span := ⟨add⟩

/-- What is left of a span; nothing, if the other one is longer. -/
def sub (d e : Span) : Span := ⟨d.nanos - e.nanos⟩

instance : Sub Span := ⟨sub⟩

instance : Max Span := ⟨fun d e => ⟨max d.nanos e.nanos⟩⟩

/-- Whether the clock can represent the span. -/
def Fits (d : Span) : Prop := d.nanos < limit

instance (d : Span) : Decidable d.Fits := inferInstanceAs (Decidable (d.nanos < limit))

@[simp] theorem nanos_add (d e : Span) : (d + e).nanos = d.nanos + e.nanos := rfl

theorem seconds_lt_of_fits {d : Span} (h : d.Fits) : d.seconds < Width.bits64 := by
  simp only [Fits, limit, nanosPerSecond, seconds, Width.bits64] at *
  omega

end Span

/-- What comes of something that is only waited for so long: nothing, or its result after a time. -/
inductive Timed (α : Type) where
  | overdue
  | finished (after : Span) (result : α)
deriving DecidableEq, Repr

namespace Timed

variable {α β : Type}

def map (f : α → β) : Timed α → Timed β
  | overdue => overdue
  | finished after result => finished after (f result)

end Timed

end RingKeeper
