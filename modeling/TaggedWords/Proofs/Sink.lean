import TaggedWords.Sink

/-!
# What a sink holds

A sink that takes only so many bytes cuts off whatever is written to it, write after write.  All
that it ever holds is the beginning of everything that was sent to it, and this file says so once:
`Sink.Holds sink sent` relates a sink to all that was sent to it, whether it fitted or not.

* `Sink.kept`, `Sink.Fits` — what a sink of some capacity keeps, and when that is everything.
* `Holds.write` — a write keeps the relation.
* `Holds.write_eq_ok_iff` — a write succeeds if everything that was sent fits.
* `kept_eq_of_not_fits` — once something did not fit, nothing more is kept.
-/

set_option autoImplicit false

namespace TaggedWords
namespace Sink

/-! ## Capacities -/

/-- What is kept of some bytes by a sink of this capacity. -/
def kept (capacity : Option Nat) (bytes : List UInt8) : List UInt8 :=
  match capacity with
  | none => bytes
  | some n => bytes.take n

/-- Whether a sink of this capacity has room for so many bytes. -/
def Fits (capacity : Option Nat) (size : Nat) : Prop :=
  ∀ n ∈ capacity, size ≤ n

instance (capacity : Option Nat) (size : Nat) : Decidable (Fits capacity size) :=
  match capacity with
  | none => .isTrue (by simp [Fits])
  | some n => decidable_of_iff (size ≤ n) (by simp [Fits])

theorem fits_none (size : Nat) : Fits none size := by
  simp [Fits]

@[simp] theorem fits_some {n size : Nat} : Fits (some n) size ↔ size ≤ n := by
  simp [Fits]

/-- What has room leaves room for less. -/
theorem Fits.mono {capacity : Option Nat} {small large : Nat} (h : Fits capacity large)
    (hle : small ≤ large) : Fits capacity small :=
  fun n hn => Nat.le_trans hle (h n hn)

/-- Bytes that fit are kept. -/
theorem kept_eq_self {capacity : Option Nat} {bytes : List UInt8}
    (h : Fits capacity bytes.length) : kept capacity bytes = bytes := by
  cases capacity with
  | none => rfl
  | some n => exact List.take_of_length_le (fits_some.1 h)

/-- Once the bytes do not fit, nothing more is kept. -/
theorem kept_eq_of_not_fits {capacity : Option Nat} {bytes more : List UInt8}
    (h : ¬ Fits capacity bytes.length) : kept capacity (bytes ++ more) = kept capacity bytes := by
  cases capacity with
  | none => exact absurd (fits_none _) h
  | some n =>
    rw [fits_some] at h
    exact List.take_append_of_le_length (by omega)

/-! ## Sinks -/

/-- The sink holds what it could keep of all the bytes that were sent to it. -/
def Holds (sink : Sink) (sent : List UInt8) : Prop :=
  sink.held = kept sink.capacity sent

theorem holds_ofCapacity (capacity : Option Nat) : (ofCapacity capacity).Holds [] := by
  cases capacity <;> simp [Holds, kept, ofCapacity, unlimited]

namespace Holds

variable {sink : Sink} {sent : List UInt8}

theorem length_held (h : sink.Holds sent) {n : Nat} (hcapacity : sink.capacity = some n) :
    sink.held.length = min n sent.length := by
  rw [h, hcapacity, kept, List.length_take]

/-- **What a sink holds stays the beginning of everything that was sent.** -/
theorem write (h : sink.Holds sent) (bytes : List UInt8) :
    (sink.write bytes).2.Holds (sent ++ bytes) := by
  show (sink.write bytes).2.held = kept sink.capacity (sent ++ bytes)
  rw [held_write, h, fitting]
  cases hcapacity : sink.capacity with
  | none => rfl
  | some n =>
    have hlength := h.length_held hcapacity
    have hroom : n - min n sent.length = n - sent.length := by omega
    simp only [kept, hlength, hroom, List.take_append]

/-- **A write succeeds exactly when everything that was sent has room.** -/
theorem write_eq_ok_iff (h : sink.Holds sent) {bytes : List UInt8} (hbytes : bytes ≠ []) :
    (sink.write bytes).1 = .ok () ↔ Fits sink.capacity (sent ++ bytes).length := by
  rw [Sink.write_eq_ok_iff, fitting]
  cases hcapacity : sink.capacity with
  | none => simp [fits_none]
  | some n =>
    have hlength := h.length_held hcapacity
    have hpos : 0 < bytes.length := List.length_pos_iff.2 hbytes
    rw [fits_some, List.length_append]
    constructor
    · intro hfitting
      have htaken := congrArg List.length hfitting
      rw [List.length_take, hlength] at htaken
      omega
    · intro hroom
      exact List.take_of_length_le (by omega)

end Holds

/-- A write that does not succeed fails because the sink is full. -/
theorem write_eq_full {sink : Sink} {bytes : List UInt8} (h : (sink.write bytes).1 ≠ .ok ()) :
    (sink.write bytes).1 = .error .full := by
  rw [write] at h ⊢
  split at h
  · exact absurd rfl h
  · rename_i hlength
    rw [if_neg hlength]

end Sink
end TaggedWords
