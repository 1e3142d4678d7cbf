/-!
# Output that can fail

A sink takes bytes until it is full.  A write that does not fit leaves what fits behind and fails,
as a device does that runs out of space.

* `Sink.write`, `Sink.flush` — the two operations, each with the fault that it may meet.
* `Sink.unlimited`, `Sink.ofCapacity` — empty sinks to begin with.
-/

set_option autoImplicit false

namespace TaggedWords

/-- Where bytes go, together with what has become of them. -/
structure Sink where
  /-- The bytes taken so far, oldest first. -/
  held : List UInt8
  /-- How many bytes are taken in all; without a bound if `none`. -/
  capacity : Option Nat
  /-- Whether every flush fails. -/
  flushFails : Bool
  /-- How many flushes were attempted. -/
  flushes : Nat
deriving DecidableEq, Repr

namespace Sink

/-- Why an operation on a sink failed. -/
inductive Fault where
  | full
  | notFlushed
deriving DecidableEq, Repr

/-- The wording of a fault. -/
def Fault.message : Fault → String
  | full => "device full"
  | notFlushed => "cannot flush"

/-- An empty sink that takes everything. -/
def unlimited : Sink :=
  { held := [], capacity := none, flushFails := false, flushes := 0 }

/-- An empty sink that takes at most `capacity` bytes. -/
def ofCapacity (capacity : Option Nat) : Sink :=
  { unlimited with capacity }

/-- The part of the bytes that there is room for. -/
def fitting (sink : Sink) (bytes : List UInt8) : List UInt8 :=
  match sink.capacity with
  | none => bytes
  | some n => bytes.take (n - sink.held.length)

/-- Takes what there is room for, and fails unless that is everything. -/
def write (sink : Sink) (bytes : List UInt8) : Except Fault Unit × Sink :=
  let taken := sink.fitting bytes
  (if taken.length = bytes.length then .ok () else .error .full,
    { sink with held := sink.held ++ taken })

@[simp] theorem held_write (sink : Sink) (bytes : List UInt8) :
    (sink.write bytes).2.held = sink.held ++ sink.fitting bytes := rfl

@[simp] theorem fitting_unlimited (bytes : List UInt8) : unlimited.fitting bytes = bytes := rfl

/-- What fits is a beginning of what was to be written. -/
theorem fitting_isPrefix (sink : Sink) (bytes : List UInt8) : sink.fitting bytes <+: bytes := by
  rw [fitting]
  split
  · exact List.prefix_rfl
  · exact List.take_prefix ..

/-- A write succeeds exactly when everything fits. -/
theorem write_eq_ok_iff {sink : Sink} {bytes : List UInt8} :
    (sink.write bytes).1 = .ok () ↔ sink.fitting bytes = bytes := by
  rw [write]
  constructor
  · intro h
    split at h
    · rename_i hlength
      exact (sink.fitting_isPrefix bytes).eq_of_length hlength
    · simp at h
  · intro h
    rw [if_pos (by rw [h])]

/-- Attempts a flush.  The attempt counts even when it fails. -/
def flush (sink : Sink) : Except Fault Unit × Sink :=
  (if sink.flushFails then .error .notFlushed else .ok (),
    { sink with flushes := sink.flushes + 1 })

end Sink
end TaggedWords
