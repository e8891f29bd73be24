/-
The report on a stream, part by part. What is written about a line depends on that line alone and is written before the
next line is read. So a stream that is cut behind a line feed gives the report on the first part and then the report on
the second; a stream that breaks off leaves the report on the lines in front of the break, and nothing of the broken
line. In JSON every line of the report is one record, and a reader of JSON finds the decision in it.

- `ofInput_append` / `ofBytes_append`: a report in two parts.
- `ofBytes_of_breaksOff`: the report on a stream that breaks off.
- `report_in_parts`: the same field by field.
- `record_tells_decision`: what a reader of JSON finds in a line of the report.
-/
import CrawlFilter.Proofs.JsonGrammar
import CrawlFilter.Proofs.ReportLines

namespace CrawlFilter.Report

variable {e : Engine} {o : ReportOptions}

/-! ## Parts -/

/-- a report and what is reported after it; the second part says how it ended -/
def andThen (r s : Report) : Report :=
  ⟨r.output ++ s.output, r.accepted + s.accepted, r.rejected + s.rejected, s.failure⟩

theorem nothing_andThen (r : Report) : nothing.andThen r = r := by
  simp [andThen, nothing]

theorem cons_andThen (o : ReportOptions) (x : Entry) (r s : Report) :
    (cons o x r).andThen s = cons o x (r.andThen s) := by
  simp [andThen, cons, Nat.add_right_comm]

/-- **A report in two parts:** lines that can be read are reported before whatever comes after them. -/
theorem ofInput_append (e : Engine) (o : ReportOptions) (urls : List Text) (rest : Input) :
    ofInput e o (urls.map .ok ++ rest) = (ofInput e o (urls.map .ok)).andThen (ofInput e o rest) := by
  induction urls with
  | nil => exact (nothing_andThen _).symm
  | cons url urls ih => rw [List.map_cons, List.cons_append, ofInput, ih, ofInput, cons_andThen]

/-- **A stream that is cut behind a line feed** is reported part by part. -/
theorem ofBytes_append (e : Engine) (o : ReportOptions) {a : Bytes} (ha : Lines.Ended 10 a) (hv : Utf8.Valid a)
    (b : Bytes) : ofBytes e o (a ++ b) = (ofBytes e o a).andThen (ofBytes e o b) := by
  obtain ⟨t, rfl⟩ := hv
  rw [ofBytes, Input.ofBytes_append ha, Input.ofBytes_encode, Input.ofText, ofInput_append, ofBytes, ofBytes,
    Input.ofBytes_encode, Input.ofText]

theorem ofBytes_encode (e : Engine) (o : ReportOptions) (t : Text) :
    ofBytes e o (Utf8.encode t) =
      ⟨t.lines.flatMap fun url => line o (entry e url) ++ ['\n'], t.lines.countP fun url => (e.evaluate url).accepted,
        t.lines.countP fun url => !(e.evaluate url).accepted, none⟩ := by
  rw [ofBytes, Input.ofBytes_encode, Input.ofText, ofInput_eq]

/-- **A stream that breaks off** leaves the report on the text in front of the break. -/
theorem ofBytes_of_breaksOff {b : Bytes} {before : Text} {torn after : Bytes} (h : BreaksOff b before torn after) :
    ofBytes e o b = { ofBytes e o (Utf8.encode before) with failure := some .notUtf8 } := by
  rw [ofBytes, h.ofBytes_eq, Input.ofText, ofInput_append, ofBytes, Input.ofBytes_encode, Input.ofText]
  simp [andThen, ofInput, nothing]

/-- **What filtering writes for a stream in two parts, and for one that breaks off.** If the first part is UTF-8 and
ends behind a line feed, or is empty, the output is that of the two parts in turn, the counts add up, and the whole
fails exactly as the second part does. A stream that is not UTF-8 has a first line that is not; filtering fails there,
after it wrote the whole report on the lines in front of it, which succeeds by itself, and nothing else. -/
theorem report_in_parts (e : Engine) (o : ReportOptions) :
    (∀ a b : Bytes, Lines.Ended 10 a → Utf8.Valid a →
      let whole := ofBytes e o (a ++ b)
      let first := ofBytes e o a
      let second := ofBytes e o b
      whole.output = first.output ++ second.output ∧ whole.failure = second.failure ∧
        whole.accepted = first.accepted + second.accepted ∧ whole.rejected = first.rejected + second.rejected) ∧
    ∀ b : Bytes, ¬ Utf8.Valid b →
      (∃ before torn after, BreaksOff b before torn after) ∧
      ∀ before torn after, BreaksOff b before torn after →
        (ofBytes e o b).failure = some .notUtf8 ∧
        (ofBytes e o b).output = (ofBytes e o (Utf8.encode before)).output ∧
        (ofBytes e o (Utf8.encode before)).failure = none ∧
        (ofBytes e o b).output = before.lines.flatMap fun url => line o (entry e url) ++ ['\n'] := by
  constructor
  · intro a b ha hv
    rw [ofBytes_append e o ha hv]
    exact ⟨rfl, rfl, rfl, rfl⟩
  · intro b hb
    refine ⟨exists_breaksOff hb, fun before torn after h => ?_⟩
    rw [ofBytes_of_breaksOff h, ofBytes_encode]
    exact ⟨rfl, rfl, rfl, rfl⟩

/-- an empty line at the cut, and a second part that breaks off on its second line -/
theorem report_in_parts_torn :
    ∃ e : Engine, RuleFile.parse .basic "+x\n".toList = .ok e.rules ∧
      let b : Bytes := [0x79, 0x0A, 0xFF, 0x0A, 0x78]
      let whole := ofBytes e ⟨.text, false⟩ ([0x78, 0x0D, 0x0A, 0x0A] ++ b)
      BreaksOff b "y\n".toList [0xFF, 0x0A] [0x78] ∧
      whole.output = "+x\n-\n-y\n".toList ∧ whole.failure = some .notUtf8 ∧ whole.accepted = 1 := by
  have htorn : ¬ Utf8.Valid [0xFF, 0x0A] := Utf8.decode?_eq_none_iff.1 (by decide)
  have hvalid : ¬ Utf8.Valid [0x79, 0x0A, 0xFF, 0x0A, 0x78] := Utf8.decode?_eq_none_iff.1 (by decide)
  have hb : BreaksOff [0x79, 0x0A, 0xFF, 0x0A, 0x78] "y\n".toList [0xFF, 0x0A] [0x78] :=
    ⟨rfl, .inr rfl, by decide, .inr rfl, htorn⟩
  have hcut := fun e : Engine => (report_in_parts e ⟨.text, false⟩).1 [0x78, 0x0D, 0x0A, 0x0A]
    [0x79, 0x0A, 0xFF, 0x0A, 0x78] (.inr rfl) ⟨"x\r\n\n".toList, rfl⟩
  have hbreak := fun e : Engine => ((report_in_parts e ⟨.text, false⟩).2 _ hvalid).2 _ _ _ hb
  refine ⟨⟨_, .ofSuffixes none⟩, rfl, hb, ?_, ?_, ?_⟩
  · rw [(hcut _).1, (hbreak _).2.2.2]
    rfl
  · rw [(hcut _).2.1, (hbreak _).1]
  · rw [(hcut _).2.2.1]
    rfl

/-! ## Records -/

/-- a JSON value says what was decided about a URL, and the rule that decided if one did -/
def Tells (e : Engine) (url : Text) (v : Text.Json.Value) : Prop :=
  ∃ rule, v = .object [("url".toList, .string url), ("accepted".toList, .bool (e.evaluate url).accepted),
      ("rule".toList, rule)] ∧
    ((e.evaluate url).rule = none → rule = .null) ∧
    ∀ i, (e.evaluate url).rule = some i → ∃ r, e.rules[i]? = some r ∧
      rule = .object [("index".toList, .number i), ("sign".toList, .bool r.action.sign),
        ("pattern".toList, .string r.pattern.source), ("scope".toList, r.scope.elim .null .string)]

theorem tells_of_records {url : Text} {j : Text.Json} (h : Records e url j) : Tells e url j.value := by
  obtain ⟨rule, rfl, hnone, hsome⟩ := h
  refine ⟨rule.value, rfl, fun h => ?_, fun i h => ?_⟩
  · rw [hnone h]
    rfl
  · obtain ⟨r, hr, rfl⟩ := hsome i h
    obtain ⟨hi, hget⟩ := List.getElem?_eq_some_iff.1 hr
    have hsign : (e.evaluate url).accepted = r.action.sign := hget ▸ Engine.accepted_of_rule hi h
    refine ⟨r, hr, ?_⟩
    rw [hsign]
    cases r.scope <;> rfl

/-- **A line of JSON tells the decision.** Whatever the rules and the URL are made of, what is written about the URL is
the same wherever it stands in the stream: a line without control characters, and a line feed. Read as JSON, the line
says one thing, which is the decision about the URL. -/
theorem record_tells_decision (e : Engine) (explain : Bool) (url : Text) :
    ∃ l v, (∀ (before : List Text) (rest : Input),
        (ofInput e ⟨.json, explain⟩ (before.map .ok ++ .ok url :: rest)).output =
          (ofInput e ⟨.json, explain⟩ (before.map .ok)).output ++
            (l ++ '\n' :: (ofInput e ⟨.json, explain⟩ rest).output)) ∧
      (∀ c ∈ l, 0x20 ≤ c.toNat) ∧ Tells e url v ∧ ∀ w, Text.Json.Reads l w ↔ w = v := by
  refine ⟨(record (entry e url)).render, (record (entry e url)).value, fun before rest => ?_, fun c hc => ?_, ?_,
    fun w => ?_⟩
  · rw [ofInput_append]
    rfl
  · exact Text.Json.ge_of_mem_render hc
  · exact tells_of_records (records_record e url)
  · exact Text.Json.reads_render_iff

end CrawlFilter.Report
