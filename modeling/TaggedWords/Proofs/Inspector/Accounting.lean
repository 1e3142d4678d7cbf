import TaggedWords.Proofs.Inspector.Console
import TaggedWords.Proofs.Sink

/-!
# Two streams that may fill up

The answers to the inputs of the command line go to two streams, in one order, and each stream
takes only so many bytes.  An answer that is a failure is written like any other one.  A stream
that fails is the end of it: the answer that did not fit is cut off, and no later answer is written
to either stream.

* `Stream`, `Console.target`, `Console.put` — the two streams, and what an answer puts on them.
* `Console.Room` — whether both streams have room for some answers.
* `Console.Sent` — the invariant: either stream holds what it could keep of the answers so far.
  `Sent.report` is the step and `Sent.reportAll` the whole loop.
* `runInputs_accounting` — what a run leaves on the streams.
-/

set_option autoImplicit false

namespace TaggedWords
namespace Inspector

/-- One of the two streams. -/
inductive Stream where
  | out
  | err
deriving DecidableEq, Repr

namespace Console

/-! ## What goes where -/

/-- The sink behind a stream. -/
def sink (console : Console) : Stream → Sink
  | .out => console.out
  | .err => console.err

/-- Two empty streams of the given capacities. -/
def ofCapacities (capacity : Stream → Option Nat) : Console where
  out := Sink.ofCapacity (capacity .out)
  err := Sink.ofCapacity (capacity .err)

/-- The stream that an answer goes to. -/
def target : Except Failure String → Stream
  | .ok _ => .out
  | .error _ => .err

/-- What an answer puts on a stream. -/
def put : Stream → Except Failure String → List UInt8
  | .out => toOut
  | .err => toErr

/-- What answers put on a stream, one after the other. -/
def puts (stream : Stream) (answers : List (Except Failure String)) : List UInt8 :=
  answers.flatMap (put stream)

/-- Whether both streams have room for all that the answers put on them. -/
def Room (capacity : Stream → Option Nat) (answers : List (Except Failure String)) : Prop :=
  ∀ stream, Sink.Fits (capacity stream) (puts stream answers).length

/-- **Every answer goes to exactly one stream.** -/
theorem put_ne_nil_iff {stream : Stream} {answer : Except Failure String} :
    put stream answer ≠ [] ↔ stream = target answer := by
  have hreport : ∀ failure, Text.utf8 (Report.render failure) ≠ [] := by
    intro failure
    simp [Report.render, Text.utf8]
  cases answer with
  | ok text => cases stream <;> simp [put, target, toOut, toErr, Text.utf8]
  | error failure => cases stream <;> simp [put, target, toOut, toErr, hreport]

theorem puts_append (stream : Stream) (first rest : List (Except Failure String)) :
    puts stream (first ++ rest) = puts stream first ++ puts stream rest :=
  List.flatMap_append

theorem puts_concat (stream : Stream) (answers : List (Except Failure String))
    (answer : Except Failure String) :
    puts stream (answers ++ [answer]) = puts stream answers ++ put stream answer := by
  rw [puts_append, puts, puts, List.flatMap_singleton]

/-- An answer changes nothing about the stream that it does not go to. -/
theorem puts_concat_of_ne {stream : Stream} {answer : Except Failure String}
    (h : stream ≠ target answer) (answers : List (Except Failure String)) :
    puts stream (answers ++ [answer]) = puts stream answers := by
  rw [puts_concat, Decidable.of_not_not (mt put_ne_nil_iff.1 h), List.append_nil]

/-- What has room leaves room for its beginnings. -/
theorem Room.of_append {capacity : Stream → Option Nat} {first rest : List (Except Failure String)}
    (h : Room capacity (first ++ rest)) : Room capacity first := by
  intro stream
  refine (h stream).mono ?_
  rw [puts_append, List.length_append]
  omega

/-! ## One answer -/

/-- An answer is one write to its stream. -/
theorem report_target (console : Console) (answer : Except Failure String) :
    (console.report answer).1 =
        ((console.sink (target answer)).write (put (target answer) answer)).1 ∧
      (console.report answer).2.sink (target answer) =
        ((console.sink (target answer)).write (put (target answer) answer)).2 := by
  cases answer <;> exact ⟨rfl, rfl⟩

theorem report_of_ne {stream : Stream} {answer : Except Failure String}
    (h : stream ≠ target answer) (console : Console) :
    (console.report answer).2.sink stream = console.sink stream := by
  cases answer with
  | ok text =>
    cases stream with
    | out => exact absurd rfl h
    | err => rfl
  | error failure =>
    cases stream with
    | out => rfl
    | err => exact absurd rfl h

/-- Streams fail for want of room only. -/
theorem report_eq_full {console : Console} {answer : Except Failure String}
    (h : (console.report answer).1 ≠ .ok ()) : (console.report answer).1 = .error .full := by
  rw [(report_target console answer).1] at h ⊢
  exact Sink.write_eq_full h

/-- Either stream has its capacity and holds what it could keep of the answers. -/
def Sent (console : Console) (capacity : Stream → Option Nat)
    (answers : List (Except Failure String)) : Prop :=
  ∀ stream, (console.sink stream).capacity = capacity stream ∧
    (console.sink stream).Holds (puts stream answers)

theorem sent_ofCapacities (capacity : Stream → Option Nat) :
    (ofCapacities capacity).Sent capacity [] := by
  intro stream
  cases stream <;> exact ⟨rfl, Sink.holds_ofCapacity _⟩

namespace Sent

variable {console : Console} {capacity : Stream → Option Nat}
  {answers : List (Except Failure String)}

/-- **One more answer keeps the invariant**, whether it fits or not. -/
theorem report (h : console.Sent capacity answers) (answer : Except Failure String) :
    (console.report answer).2.Sent capacity (answers ++ [answer]) := by
  intro stream
  obtain ⟨hcapacity, hholds⟩ := h stream
  by_cases hstream : stream = target answer
  · subst hstream
    rw [(report_target console answer).2, puts_concat]
    exact ⟨hcapacity, hholds.write _⟩
  · rw [report_of_ne hstream, puts_concat_of_ne hstream]
    exact ⟨hcapacity, hholds⟩

/-- The answer is written exactly when its stream has room for it. -/
theorem report_eq_ok_iff (h : console.Sent capacity answers) {answer : Except Failure String} :
    (console.report answer).1 = .ok () ↔
      Sink.Fits (capacity (target answer)) (puts (target answer) (answers ++ [answer])).length := by
  obtain ⟨hcapacity, hholds⟩ := h (target answer)
  rw [(report_target console answer).1, hholds.write_eq_ok_iff (put_ne_nil_iff.2 rfl), hcapacity,
    puts_concat]

/-- A stream with room for some answers holds all of them. -/
theorem held_eq (h : console.Sent capacity answers) {stream : Stream}
    (hfits : Sink.Fits (capacity stream) (puts stream answers).length) :
    (console.sink stream).held = puts stream answers := by
  obtain ⟨hcapacity, hholds⟩ := h stream
  rw [hholds, hcapacity, Sink.kept_eq_self hfits]

/-- A stream without that room is filled up to its capacity. -/
theorem held_eq_take (h : console.Sent capacity answers) {stream : Stream}
    (hfits : ¬ Sink.Fits (capacity stream) (puts stream answers).length) :
    ∃ n, capacity stream = some n ∧ n < (puts stream answers).length ∧
      (console.sink stream).held = (puts stream answers).take n := by
  obtain ⟨hcapacity, hholds⟩ := h stream
  cases hn : capacity stream with
  | none =>
    rw [hn] at hfits
    exact absurd (Sink.fits_none _) hfits
  | some n =>
    rw [hn, Sink.fits_some] at hfits
    refine ⟨n, rfl, by omega, ?_⟩
    rw [hholds, hcapacity, hn, Sink.kept]

end Sent

/-- If there was room so far, it is the stream of an answer that decides about the answer. -/
theorem Room.concat_iff {capacity : Stream → Option Nat} {answers : List (Except Failure String)}
    (hroom : Room capacity answers) {answer : Except Failure String} :
    Room capacity (answers ++ [answer]) ↔
      Sink.Fits (capacity (target answer)) (puts (target answer) (answers ++ [answer])).length := by
  constructor
  · intro h
    exact h (target answer)
  · intro h stream
    by_cases hstream : stream = target answer
    · subst hstream
      exact h
    · rw [puts_concat_of_ne hstream]
      exact hroom stream

/-! ## All answers -/

section Loop

variable {console : Console} {answer : Except Failure String}

theorem reportAll_cons_of_ok (h : (console.report answer).1 = .ok ())
    (rest : List (Except Failure String)) :
    console.reportAll (answer :: rest) = (console.report answer).2.reportAll rest := by
  rw [reportAll]
  split
  · rename_i hreport
    rw [hreport]
  · rename_i hreport
    rw [hreport] at h
    cases h

theorem reportAll_cons_of_error {fault : Sink.Fault}
    (h : (console.report answer).1 = .error fault) (rest : List (Except Failure String)) :
    console.reportAll (answer :: rest) = (.error fault, (console.report answer).2) := by
  rw [reportAll]
  split
  · rename_i hreport
    rw [hreport] at h
    cases h
  · rename_i hreport
    rw [hreport] at h
    obtain rfl := Except.error.inj h
    rw [hreport]

end Loop

/-- **Answers are written up to the first one that does not fit**, by induction on the answers that
are left.  `answers` are those that were written before. -/
theorem Sent.reportAll {console : Console} {capacity : Stream → Option Nat}
    {answers : List (Except Failure String)} (h : console.Sent capacity answers)
    (hroom : Room capacity answers) (rest : List (Except Failure String)) :
    (Room capacity (answers ++ rest) ∧ (console.reportAll rest).1 = .ok () ∧
        (console.reportAll rest).2.Sent capacity (answers ++ rest)) ∨
      ∃ before answer after, rest = before ++ answer :: after ∧
        Room capacity (answers ++ before) ∧ ¬ Room capacity (answers ++ before ++ [answer]) ∧
        (console.reportAll rest).1 = .error .full ∧
        (console.reportAll rest).2.Sent capacity (answers ++ before ++ [answer]) := by
  induction rest generalizing console answers with
  | nil =>
    left
    rw [List.append_nil]
    exact ⟨hroom, rfl, h⟩
  | cons answer rest ih =>
    have hiff : (console.report answer).1 = .ok () ↔ Room capacity (answers ++ [answer]) :=
      h.report_eq_ok_iff.trans hroom.concat_iff.symm
    by_cases hfits : Room capacity (answers ++ [answer])
    · have hsplit : answers ++ answer :: rest = answers ++ [answer] ++ rest := by simp
      rw [reportAll_cons_of_ok (hiff.2 hfits), hsplit]
      rcases ih (h.report answer) hfits with hall | ⟨before, last, after, rfl, hlast⟩
      · exact .inl hall
      · right
        refine ⟨answer :: before, last, after, rfl, ?_⟩
        have hbefore : answers ++ answer :: before = answers ++ [answer] ++ before := by simp
        rwa [hbefore]
    · right
      rw [reportAll_cons_of_error (report_eq_full (mt hiff.1 hfits))]
      refine ⟨[], answer, rest, rfl, ?_⟩
      rw [List.append_nil]
      exact ⟨hroom, hfits, rfl, h.report answer⟩

end Console

/-! ## The inputs of the command line -/

open Console in
/-- **The account of a run.**  The inputs are the literal, if there is one, and then the words; an
input that is answered puts the answer on one stream, and one that is not puts a report on the
other.  The run succeeds exactly when both streams have room for everything, whichever inputs were
answered, and then the streams hold everything in order.  Otherwise there is a first input that
does not fit.  Its stream is filled to the last byte with the beginning of all that was put on it up
to then, the other stream holds what the inputs before put on it, and nothing comes of the inputs
after it. -/
theorem runInputs_accounting (options : Options) (capacity : Stream → Option Nat) :
    let inputs := options.encode.toList.map options.encodeText ++
      options.words.map options.decodeText
    let run := options.runInputs (ofCapacities capacity)
    (∀ input ∈ inputs, ∀ stream, put stream input ≠ [] ↔ stream = target input) ∧
    (run.1 = .ok () ↔ ∀ stream, Sink.Fits (capacity stream) (puts stream inputs).length) ∧
    ((∀ stream, Sink.Fits (capacity stream) (puts stream inputs).length) ∧ run.1 = .ok () ∧
        (∀ stream, (run.2.sink stream).held = puts stream inputs) ∨
      ∃ before input after, inputs = before ++ input :: after ∧
        (∀ stream, Sink.Fits (capacity stream) (puts stream before).length) ∧
        run.1 = .error .full ∧
        (∃ n, capacity (target input) = some n ∧
          n < (puts (target input) (before ++ [input])).length ∧
          (run.2.sink (target input)).held =
            (puts (target input) (before ++ [input])).take n) ∧
        ∀ stream, stream ≠ target input → (run.2.sink stream).held = puts stream before) := by
  intro inputs run
  have hempty : Room capacity [] := fun stream n _ => Nat.zero_le n
  have hrun : run = (ofCapacities capacity).reportAll inputs := rfl
  have hloop := (sent_ofCapacities capacity).reportAll hempty inputs
  rw [← hrun, List.nil_append] at hloop
  refine ⟨fun input _ stream => put_ne_nil_iff, ?_⟩
  rcases hloop with ⟨hroom, hok, hsent⟩ |
    ⟨before, input, after, hinputs, hroom, hfull, herror, hsent⟩
  · exact ⟨iff_of_true hok hroom,
      .inl ⟨hroom, hok, fun stream => hsent.held_eq (hroom stream)⟩⟩
  · rw [List.nil_append] at hroom hfull hsent
    have hnotAll : ¬ Room capacity inputs := by
      rw [hinputs, List.append_cons]
      exact mt Room.of_append hfull
    have hnotOk : run.1 ≠ .ok () := by
      intro hok
      rw [hok] at herror
      cases herror
    refine ⟨iff_of_false hnotOk hnotAll, .inr ⟨before, input, after, hinputs, hroom, herror,
      hsent.held_eq_take (mt hroom.concat_iff.2 hfull), fun stream hstream => ?_⟩⟩
    have hputs := puts_concat_of_ne hstream before
    rw [← hputs]
    exact hsent.held_eq (by rw [hputs]; exact hroom stream)

/-- A stream may be full in the middle of a character.  The word after it is not answered. -/
example :
    let run := ({ words := ["0xe907", "4"] } : Options).runInputs
      { out := Sink.ofCapacity (some 3), err := Sink.unlimited }
    run.1 = .error .full ∧ run.2.out.held = Text.utf8 "#\\" ++ [0xC3] ∧ run.2.err.held = [] :=
  ⟨rfl, rfl, rfl⟩

end Inspector
end TaggedWords
