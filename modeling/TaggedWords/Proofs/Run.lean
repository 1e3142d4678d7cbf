import TaggedWords.Proofs.Sink
import TaggedWords.Run

/-!
# Runs that share a sink

Several programs run one after the other and print into the same sink, which may fill up.  What
the sink holds and what each run reports depend on the words of the runs so far and on nothing
else: `Run.printed` is all that the runs would print, and the sink holds the beginning of it.

* `finish_sink`, `finish_result` — one run: what it sends to the sink and what it reports.
* `Run.sinkAfter` — the sink after some runs; `getElem?_each` finds each run of a sequence there.
* `Run.holds_sinkAfter` — what one run keeps is kept by any number of them.
* `each_accounting` — the account of a whole sequence of runs.
-/

set_option autoImplicit false

namespace TaggedWords

/-! ## One run -/

theorem Value.line_ne_nil (v : Value) : v.line ≠ [] := by
  simp [line, Text.utf8]

/-- What a run that returns this word prints if there is room. -/
def Word.printed (w : Word) : List UInt8 :=
  match w.classify with
  | .ok v => v.line
  | .error _ => []

theorem Word.printed_of_ok {w : Word} {v : Value} (h : w.classify = .ok v) :
    w.printed = v.line := by
  rw [printed, h]

theorem Word.printed_of_error {w : Word} {e : DecodeError} (h : w.classify = .error e) :
    w.printed = [] := by
  rw [printed, h]

namespace Run

/-- What a run that returns the word `w` reports if the sink has been sent `size` bytes at its
end. -/
def report (capacity : Option Nat) (size : Nat) (w : Word) : Except Failure Value :=
  match w.classify with
  | .error e => .error (.decode e)
  | .ok v => if Sink.Fits capacity size then .ok v else .error (.undelivered .full)

theorem report_of_error {capacity : Option Nat} {size : Nat} {w : Word} {e : DecodeError}
    (h : w.classify = .error e) : report capacity size w = .error (.decode e) := by
  rw [report, h]

theorem report_of_ok {capacity : Option Nat} {size : Nat} {w : Word} {v : Value}
    (h : w.classify = .ok v) :
    report capacity size w =
      if Sink.Fits capacity size then .ok v else .error (.undelivered .full) := by
  rw [report, h]

theorem report_eq_decode_iff {capacity : Option Nat} {size : Nat} {w : Word} {e : DecodeError} :
    report capacity size w = .error (.decode e) ↔ w.classify = .error e := by
  cases hw : w.classify with
  | error e' => simp [report_of_error hw]
  | ok v =>
    rw [report_of_ok hw]
    split <;> simp

theorem report_eq_ok_iff {capacity : Option Nat} {size : Nat} {w : Word} {v : Value} :
    report capacity size w = .ok v ↔ w.classify = .ok v ∧ Sink.Fits capacity size := by
  cases hw : w.classify with
  | error e => simp [report_of_error hw]
  | ok v' =>
    rw [report_of_ok hw]
    split
    · rename_i hfits
      simp [hfits]
    · rename_i hfits
      simp [hfits]

theorem report_eq_undelivered_iff {capacity : Option Nat} {size : Nat} {w : Word}
    {fault : Sink.Fault} :
    report capacity size w = .error (.undelivered fault) ↔
      fault = .full ∧ (∃ v, w.classify = .ok v) ∧ ¬ Sink.Fits capacity size := by
  cases hw : w.classify with
  | error e => simp [report_of_error hw]
  | ok v =>
    rw [report_of_ok hw]
    split
    · rename_i hfits
      simp [hfits]
    · rename_i hfits
      simp [hfits, eq_comm]

section OneRun

variable {sink : Sink} {w : Word}

/-- A run whose word does not decode leaves the sink alone. -/
theorem finish_of_error {e : DecodeError} (h : w.classify = .error e) :
    (finish w sink).result = .error (.decode e) ∧ (finish w sink).sink = sink := by
  simp [finish, deliver, h]

theorem print_of_written {v : Value} (hwritten : (sink.write v.line).1 = .ok ()) :
    print v sink = (sink.write v.line).2.flush := by
  rw [print]
  split
  · rename_i hwrite
    rw [hwrite]
  · rename_i hwrite
    rw [hwrite] at hwritten
    cases hwritten

theorem print_of_not_written {v : Value} (hwritten : (sink.write v.line).1 ≠ .ok ()) :
    print v sink = (.error .full, (sink.write v.line).2) := by
  have hfull := Sink.write_eq_full hwritten
  rw [print]
  split
  · rename_i hwrite
    rw [hwrite] at hwritten
    exact absurd rfl hwritten
  · rename_i hwrite
    rw [hwrite] at hfull
    rw [hwrite, Except.error.inj hfull]

/-- A line that is written is flushed, and then it depends on the flush what is reported. -/
theorem finish_of_written {v : Value} (h : w.classify = .ok v)
    (hwritten : (sink.write v.line).1 = .ok ()) :
    (finish w sink).result =
        (if sink.flushFails then .error (.undelivered .notFlushed) else .ok v) ∧
      (finish w sink).sink = { (sink.write v.line).2 with flushes := sink.flushes + 1 } := by
  have hfails : (sink.write v.line).2.flushFails = sink.flushFails := rfl
  have hflushes : (sink.write v.line).2.flushes = sink.flushes := rfl
  cases hflush : sink.flushFails <;>
    simp [finish, deliver, h, print_of_written hwritten, Sink.flush, hfails, hflushes, hflush]

/-- A line that does not fit is cut off, and the sink is not flushed. -/
theorem finish_of_not_written {v : Value} (h : w.classify = .ok v)
    (hwritten : (sink.write v.line).1 ≠ .ok ()) :
    (finish w sink).result = .error (.undelivered .full) ∧
      (finish w sink).sink = (sink.write v.line).2 := by
  simp [finish, deliver, h, print_of_not_written hwritten]

/-- **A run sends its line to the sink**, and changes nothing else that later runs depend on. -/
theorem finish_sink {sent : List UInt8} (h : sink.Holds sent) (w : Word) :
    (finish w sink).sink.Holds (sent ++ w.printed) ∧
      (finish w sink).sink.capacity = sink.capacity ∧
      (finish w sink).sink.flushFails = sink.flushFails := by
  cases hv : w.classify with
  | error e =>
    rw [(finish_of_error hv).2, Word.printed_of_error hv, List.append_nil]
    exact ⟨h, rfl, rfl⟩
  | ok v =>
    rw [Word.printed_of_ok hv]
    by_cases hwritten : (sink.write v.line).1 = .ok ()
    · rw [(finish_of_written hv hwritten).2]
      exact ⟨h.write v.line, rfl, rfl⟩
    · rw [(finish_of_not_written hv hwritten).2]
      exact ⟨h.write v.line, rfl, rfl⟩

/-- **A run reports success exactly when everything sent so far has room.** -/
theorem finish_result {sent : List UInt8} (h : sink.Holds sent) (hflush : sink.flushFails = false)
    (w : Word) :
    (finish w sink).result = report sink.capacity (sent ++ w.printed).length w := by
  cases hv : w.classify with
  | error e => rw [(finish_of_error hv).1, report_of_error hv]
  | ok v =>
    have hiff := h.write_eq_ok_iff v.line_ne_nil
    rw [Word.printed_of_ok hv, report_of_ok hv]
    by_cases hwritten : (sink.write v.line).1 = .ok ()
    · rw [(finish_of_written hv hwritten).1, hflush, if_pos (hiff.1 hwritten),
        if_neg Bool.false_ne_true]
    · rw [(finish_of_not_written hv hwritten).1, if_neg (mt hiff.2 hwritten)]

end OneRun

/-! ## Any number of runs -/

/-- What runs that return these words print if there is room. -/
def printed (words : List Word) : List UInt8 :=
  words.flatMap Word.printed

/-- The sink after runs that return these words. -/
def sinkAfter (sink : Sink) (words : List Word) : Sink :=
  words.foldl (fun sink w => (finish w sink).sink) sink

/-- Each run of a sequence finds the sink as the runs before it left it. -/
theorem getElem?_each (sink : Sink) (words : List Word) (i : Nat) :
    (each sink words)[i]? = words[i]?.map fun w => finish w (sinkAfter sink (words.take i)) := by
  induction words generalizing sink i with
  | nil => rfl
  | cons w words ih =>
    cases i with
    | zero => rfl
    | succ i =>
      rw [each, List.getElem?_cons_succ, ih, List.getElem?_cons_succ, List.take_succ_cons]
      rfl

theorem length_each (sink : Sink) (words : List Word) :
    (each sink words).length = words.length := by
  induction words generalizing sink with
  | nil => rfl
  | cons w words ih => rw [each, List.length_cons, List.length_cons, ih]

/-- **The sink holds the beginning of what all runs print**, by induction on the runs. -/
theorem holds_sinkAfter {sink : Sink} {sent : List UInt8} (h : sink.Holds sent)
    (words : List Word) :
    (sinkAfter sink words).Holds (sent ++ printed words) ∧
      (sinkAfter sink words).capacity = sink.capacity ∧
      (sinkAfter sink words).flushFails = sink.flushFails := by
  induction words generalizing sink sent with
  | nil => exact ⟨by simpa [printed, sinkAfter] using h, rfl, rfl⟩
  | cons w words ih =>
    obtain ⟨hholds, hcapacity, hflush⟩ := finish_sink h w
    obtain ⟨hholds', hcapacity', hflush'⟩ := ih hholds
    refine ⟨?_, hcapacity'.trans hcapacity, hflush'.trans hflush⟩
    rw [List.append_assoc] at hholds'
    exact hholds'

/-- The run number `i` of a sequence on a sink of the given capacity. -/
theorem exists_each (capacity : Option Nat) {words : List Word} {i : Nat} {w : Word}
    (hw : words[i]? = some w) :
    ∃ outcome, (each (Sink.ofCapacity capacity) words)[i]? = some outcome ∧
      outcome.sink.held = Sink.kept capacity (printed (words.take (i + 1))) ∧
      outcome.result = report capacity (printed (words.take (i + 1))).length w := by
  obtain ⟨hholds, hcapacity, hflush⟩ :=
    holds_sinkAfter (Sink.holds_ofCapacity capacity) (words.take i)
  have hprinted : printed (words.take (i + 1)) = printed (words.take i) ++ w.printed := by
    rw [List.take_add_one, hw, printed, List.flatMap_append]
    simp [printed]
  rw [List.nil_append] at hholds
  obtain ⟨hholds', hcapacity', -⟩ := finish_sink hholds w
  have hresult := finish_result hholds hflush w
  have hroom : (Sink.ofCapacity capacity).capacity = capacity := rfl
  refine ⟨_, by rw [getElem?_each, hw, Option.map_some], ?_, ?_⟩
  · rw [hprinted, hholds', hcapacity', hcapacity, hroom]
  · rw [hprinted, hresult, hcapacity, hroom]

/-- Once the lines of the first runs do not fit, no later run adds to what is kept of them. -/
theorem kept_printed_take {capacity : Option Nat} {words : List Word} {i j : Nat} (hij : i ≤ j)
    (h : ¬ Sink.Fits capacity (printed (words.take i)).length) :
    Sink.kept capacity (printed (words.take j)) = Sink.kept capacity (printed (words.take i)) ∧
      ¬ Sink.Fits capacity (printed (words.take j)).length := by
  obtain ⟨more, hmore⟩ := List.take_prefix_take_left (l := words) hij
  have hprinted : printed (words.take j) = printed (words.take i) ++ printed more := by
    rw [← hmore, printed, List.flatMap_append]
    rfl
  rw [hprinted]
  refine ⟨Sink.kept_eq_of_not_fits h, fun hfits => h (hfits.mono ?_)⟩
  rw [List.length_append]
  omega

/-- **The account of runs that share a sink.**  After each run the sink holds the beginning of the
lines of all words so far that hold a value, as much of them as its capacity allows.  A run
reports a decoding failure exactly when its word holds no value; it succeeds exactly when its
word holds one and the lines up to its own all fit; and otherwise it reports that the sink is
full.  From then on every word that holds a value is reported so, and the sink does not change. -/
theorem each_accounting (capacity : Option Nat) (words : List Word) :
    (each (Sink.ofCapacity capacity) words).length = words.length ∧
    ∀ i w, words[i]? = some w →
      ∃ outcome, (each (Sink.ofCapacity capacity) words)[i]? = some outcome ∧
        outcome.sink.held = Sink.kept capacity (printed (words.take (i + 1))) ∧
        (∀ e, outcome.result = .error (.decode e) ↔ w.classify = .error e) ∧
        (∀ v, outcome.result = .ok v ↔
          w.classify = .ok v ∧ Sink.Fits capacity (printed (words.take (i + 1))).length) ∧
        (∀ fault, outcome.result = .error (.undelivered fault) ↔
          fault = .full ∧ (∃ v, w.classify = .ok v) ∧
            ¬ Sink.Fits capacity (printed (words.take (i + 1))).length) ∧
        (∀ fault, outcome.result = .error (.undelivered fault) →
          ∀ j w' later, i ≤ j → words[j]? = some w' →
            (each (Sink.ofCapacity capacity) words)[j]? = some later →
            later.sink.held = outcome.sink.held ∧
              ∀ v, w'.classify = .ok v → later.result = .error (.undelivered .full)) := by
  refine ⟨length_each _ words, fun i w hw => ?_⟩
  obtain ⟨outcome, houtcome, hheld, hresult⟩ := exists_each capacity hw
  refine ⟨outcome, houtcome, hheld, fun e => ?_, fun v => ?_, fun fault => ?_,
    fun fault hfault j w' later hij hw' hlater => ?_⟩
  · rw [hresult, report_eq_decode_iff]
  · rw [hresult, report_eq_ok_iff]
  · rw [hresult, report_eq_undelivered_iff]
  · obtain ⟨outcome', houtcome', hheld', hresult'⟩ := exists_each capacity hw'
    obtain rfl : outcome' = later := Option.some.inj (houtcome'.symm.trans hlater)
    rw [hresult, report_eq_undelivered_iff] at hfault
    obtain ⟨hkept, hnot⟩ := kept_printed_take (Nat.succ_le_succ hij) hfault.2.2
    refine ⟨by rw [hheld', hheld, hkept], fun v hv => ?_⟩
    rw [hresult', report_of_ok hv, if_neg hnot]

/-- A line that is torn after two of its four bytes, a word that holds no value, and a word whose
line no longer counts. -/
theorem each_accounting_torn_line :
    let words : List Word := [4, 0x4107, 0x1001, 15]
    let outcomes := each (Sink.ofCapacity (some 4)) words
    words[1]? = some 0x4107 ∧ words[2]? = some 0x1001 ∧ words[3]? = some 15 ∧
      (∃ torn last, outcomes[1]? = some torn ∧ outcomes[3]? = some last ∧
        torn.sink.held = Text.utf8 "1\n#\\" ∧ torn.result = .error (.undelivered .full) ∧
        last.sink.held = torn.sink.held ∧ last.result = .error (.undelivered .full)) ∧
      ∃ reserved, outcomes[2]? = some reserved ∧
        reserved.result = .error (.decode (.reservedTag 0x1001 .pair)) := by
  intro words outcomes
  obtain ⟨-, haccount⟩ := each_accounting (some 4) words
  obtain ⟨torn, htorn, hheld, -, -, hfull, hlater⟩ := haccount 1 0x4107 rfl
  obtain ⟨reserved, hreserved, -, hdecode, -⟩ := haccount 2 0x1001 rfl
  obtain ⟨last, hlast, -⟩ := haccount 3 15 rfl
  have hnot : torn.result = .error (.undelivered .full) :=
    (hfull .full).2 ⟨rfl, ⟨.char 0x41, rfl⟩, by decide⟩
  obtain ⟨hsame, hreport⟩ := hlater .full hnot 3 15 last (by decide) rfl hlast
  exact ⟨rfl, rfl, rfl,
    ⟨torn, last, htorn, hlast, hheld, hnot, hsame, hreport (.boolean false) rfl⟩,
    reserved, hreserved, (hdecode _).2 rfl⟩

end Run
end TaggedWords
