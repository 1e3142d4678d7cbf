import TaggedWords.Inspector.Console

/-!
# What answers leave on the streams

Each answer goes to one of the two streams whole, and none touches the other.  On streams without
a bound nothing is lost, so that each stream ends up with all its texts in order.

* `Console.toOut`, `Console.toErr` — what an answer puts on either stream.
* `Console.reportAll_unbounded` — what a list of answers leaves behind.
-/

set_option autoImplicit false

namespace TaggedWords
namespace Inspector
namespace Console

/-- What an answer puts on standard output. -/
def toOut : Except Failure String → List UInt8
  | .ok text => Text.utf8 (text ++ "\n")
  | .error _ => []

/-- What an answer puts on standard error. -/
def toErr : Except Failure String → List UInt8
  | .ok _ => []
  | .error failure => Text.utf8 (Report.render failure)

theorem write_unbounded {sink : Sink} (h : sink.capacity = none) (bytes : List UInt8) :
    sink.write bytes = (.ok (), { sink with held := sink.held ++ bytes }) := by
  have hfitting : sink.fitting bytes = bytes := by rw [Sink.fitting, h]
  rw [Sink.write, hfitting, if_pos rfl]

/-- The streams after some answers, if they have no bound. -/
def sent (console : Console) (answers : List (Except Failure String)) : Console where
  out := { console.out with held := console.out.held ++ answers.flatMap toOut }
  err := { console.err with held := console.err.held ++ answers.flatMap toErr }

theorem sent_sent (console : Console) (first rest : List (Except Failure String)) :
    (console.sent first).sent rest = console.sent (first ++ rest) := by
  simp [sent]

theorem report_unbounded {console : Console} (hout : console.out.capacity = none)
    (herr : console.err.capacity = none) (answer : Except Failure String) :
    console.report answer = (.ok (), console.sent [answer]) := by
  cases answer with
  | ok text => simp [report, write_unbounded hout, sent, toOut, toErr]
  | error failure => simp [report, write_unbounded herr, sent, toOut, toErr]

/-- **Without a bound every answer is written**, by induction on the answers. -/
theorem reportAll_unbounded {console : Console} (hout : console.out.capacity = none)
    (herr : console.err.capacity = none) (answers : List (Except Failure String)) :
    console.reportAll answers = (.ok (), console.sent answers) := by
  induction answers generalizing console with
  | nil => simp [reportAll, sent]
  | cons answer answers ih =>
    have hrest := @ih (console.sent [answer]) hout herr
    rw [sent_sent, List.singleton_append] at hrest
    rw [reportAll, report_unbounded hout herr, ← hrest]

end Console
end Inspector
end TaggedWords
