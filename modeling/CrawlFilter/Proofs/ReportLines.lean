/-
What filtering a stream writes: one line for each line of the input, in order, which says what was decided about it. A
line holds nothing but the URL, the rule that decided and punctuation of its own; the URL is a line of the input, the
rule was read from lines as well, and JSON escapes whatever is a control. So no line feed comes into a line, and the
lines that come out are as many as those that went in.

- `ofInput_eq`: the report on lines that can all be read.
- `ge_of_mem_render`: JSON has no control characters.
- `oneLine_of_parse` / `oneLine_of_parseBytes`: rules that were read from a file can be written on one line.
- `notMem_line`: so a line of the report has no line feed.
- `one_line_each`: what is written for a stream in UTF-8, and what is counted.
-/
import CrawlFilter.Proofs.ByteStreams
import CrawlFilter.Proofs.FirstMatch
import CrawlFilter.Report

namespace CrawlFilter

/-! ## JSON without controls -/

namespace Text.Json

theorem ge_of_all {t : Text} (ht : (t.all fun c => 0x20 ≤ c.toNat) = true) {c : Char} (h : c ∈ t) : 0x20 ≤ c.toNat :=
  of_decide_eq_true (List.all_eq_true.1 ht c h)

theorem ge_of_mem_toDigits {n : ℕ} {c : Char} (h : c ∈ Nat.toDigits 10 n) : 0x20 ≤ c.toNat := by
  have hd := Nat.isDigit_of_mem_toDigits (by decide) (by decide) h
  rw [Char.isDigit, Bool.and_eq_true, decide_eq_true_eq] at hd
  have h0 : '0'.toNat ≤ c.toNat := hd.1
  exact le_trans (by decide) h0

theorem ge_of_mem_hexDigits {n : ℕ} (hn : n < 0x20) {c : Char} (h : c ∈ hexDigits n) : 0x20 ≤ c.toNat := by
  have hall : ∀ m < 0x20, ((hexDigits m).all fun d => 0x20 ≤ d.toNat) = true := by decide
  exact ge_of_all (hall n hn) h

/-- an escape is made of characters that are no controls -/
theorem ge_of_mem_escapeChar {c d : Char} (h : d ∈ escapeChar c) : 0x20 ≤ d.toNat := by
  unfold escapeChar at h
  split at h
  case h_8 =>
    split_ifs at h with hc
    · simp only [escapeCode, List.mem_append, List.mem_replicate] at h
      rcases h with (h | h) | h
      · exact ge_of_all (by decide) h
      · rw [h.2]
        decide
      · exact ge_of_mem_hexDigits hc h
    · rw [List.mem_singleton.1 h]
      omega
  all_goals exact ge_of_all (by decide) h

theorem ge_of_mem_escape {t : Text} {c : Char} (h : c ∈ escape t) : 0x20 ≤ c.toNat := by
  simp only [escape, List.cons_append, List.mem_cons, List.mem_append, List.mem_flatMap] at h
  rcases h with rfl | ⟨x, -, hx⟩ | rfl | h
  · decide
  · exact ge_of_mem_escapeChar hx
  · decide
  · cases h

mutual

/-- **JSON has no control characters,** whatever the strings in it hold. -/
theorem ge_of_mem_render {c : Char} : ∀ {j : Json}, c ∈ j.render → 0x20 ≤ c.toNat
  | .null, h => ge_of_all (t := render .null) (by decide) h
  | .bool true, h => ge_of_all (t := render (.bool true)) (by decide) h
  | .bool false, h => ge_of_all (t := render (.bool false)) (by decide) h
  | .number n, h => ge_of_mem_toDigits h
  | .string t, h => ge_of_mem_escape h
  | .object ms, h => by
    simp only [render, List.cons_append, List.mem_cons, List.mem_append] at h
    rcases h with rfl | h | rfl | h
    · decide
    · exact ge_of_mem_renderMembers h
    · decide
    · cases h

theorem ge_of_mem_renderMembers {c : Char} : ∀ {ms : List (Text × Json)}, c ∈ renderMembers ms → 0x20 ≤ c.toNat
  | [], h => by cases h
  | [(k, v)], h => by
    simp only [renderMembers, List.mem_append, List.mem_cons] at h
    rcases h with h | rfl | h
    · exact ge_of_mem_escape h
    · decide
    · exact ge_of_mem_render h
  | (k, v) :: m :: ms, h => by
    simp only [renderMembers, List.mem_append, List.mem_cons] at h
    rcases h with (h | rfl | h) | rfl | h
    · exact ge_of_mem_escape h
    · decide
    · exact ge_of_mem_render h
    · decide
    · exact ge_of_mem_renderMembers h

end

end Text.Json

/-! ## Rules from a file -/

namespace RuleFile

theorem oneLine_of_parse {f : Flavor} {t : Text} {rs : List Rule} (h : parse f t = .ok rs) :
    ∀ r ∈ rs, OneLine r.written := by
  intro r hr
  exact oneLine_of_parseWritten (parse_eq_ok_iff.1 h).1 r.written (List.mem_map_of_mem hr)

theorem oneLine_of_parseBytes {f : Flavor} {b : Bytes} {rs : List Rule} (h : parseBytes f b = .ok rs) :
    ∀ r ∈ rs, OneLine r.written := by
  by_cases hv : Utf8.Valid b
  · obtain ⟨t, rfl⟩ := hv
    rw [parseBytes, Input.ofBytes_encode] at h
    exact oneLine_of_parse h
  · exact absurd h (read_ne_ok_of_not_valid _ hv rs)

end RuleFile

namespace Report

open RuleFile (OneLine)

variable {e : Engine} {o : ReportOptions} {url : Text}

/-! ## One line -/

theorem getElem?_of_rule {i : ℕ} (h : (e.evaluate url).rule = some i) : ∃ r ∈ e.rules, e.rules[i]? = some r := by
  rw [Engine.evaluate_rule, List.findIdx?_eq_some_iff_getElem] at h
  obtain ⟨hi, -⟩ := h
  exact ⟨e.rules[i], List.getElem_mem hi, List.getElem?_eq_getElem hi⟩

/-- an entry names the rule that decided, as it was written -/
theorem rule_entry : (entry e url).rule =
    (e.evaluate url).rule.bind fun i => (e.rules[i]?).map fun r => (i, r.written) := rfl

theorem oneLine_of_entry (hr : ∀ r ∈ e.rules, OneLine r.written) {i : ℕ} {w : WrittenRule}
    (h : (entry e url).rule = some (i, w)) : OneLine w := by
  rw [rule_entry] at h
  obtain ⟨j, -, hj⟩ := Option.bind_eq_some_iff.1 h
  obtain ⟨r, hm, hw⟩ := Option.map_eq_some_iff.1 hj
  cases hw
  exact hr r (List.mem_of_getElem? hm)

theorem notMem_ofNat (n : ℕ) : '\n' ∉ Text.ofNat n := by
  intro h
  rw [Text.ofNat] at h
  have hge := Text.Json.ge_of_mem_toDigits h
  revert hge
  decide

theorem notMem_remark {x : Option (ℕ × WrittenRule)} (h : ∀ i w, x = some (i, w) → OneLine w) :
    '\n' ∉ remark x := by
  cases x with
  | none => decide
  | some p =>
    obtain ⟨i, w⟩ := p
    obtain ⟨hp, hs⟩ := h i w rfl
    have hsigil : '\n' ≠ w.action.sigil := by cases w.action <;> decide
    have hnum := notMem_ofNat i
    have hrule : '\n' ∉ w.action.sigil :: w.pattern := List.not_mem_cons_of_ne_of_not_mem hsigil hp
    unfold remark
    simp only [List.mem_append, not_or]
    refine ⟨⟨⟨⟨?_, hnum⟩, ?_⟩, hrule⟩, ?_⟩
    · decide
    · decide
    · split
      · decide
      · rename_i s hw
        simp only [List.mem_append, not_or]
        exact ⟨⟨by decide, hs s hw⟩, by decide⟩

/-- **A line of the report has no line feed,** if the URL and the rules have none. -/
theorem notMem_line (hr : ∀ r ∈ e.rules, OneLine r.written) (hu : '\n' ∉ url) :
    '\n' ∉ line o (entry e url) := by
  unfold line
  cases o.format with
  | json =>
    intro h
    exact absurd (Text.Json.ge_of_mem_render h) (by decide)
  | text =>
    have hsigil : '\n' ≠ (Action.ofSign (entry e url).accepted).sigil := by
      cases (entry e url).accepted <;> decide
    have hremark : '\n' ∉ remark (entry e url).rule := notMem_remark fun i w h => oneLine_of_entry hr h
    have hurl : '\n' ∉ (entry e url).url := hu
    unfold textLine
    cases o.explain <;> simp [hsigil, hurl, hremark]

/-- what a line of text consists of -/
theorem line_text (h : o.format = .text) :
    line o (entry e url) =
      (if (e.evaluate url).accepted then '+' else '-') :: url ++
        if o.explain then remark (entry e url).rule else [] := by
  have hsigil : (Action.ofSign (e.evaluate url).accepted).sigil = if (e.evaluate url).accepted then '+' else '-' := by
    cases (e.evaluate url).accepted <;> rfl
  rw [line, h, ← hsigil]
  rfl

/-- a record of the decision about a URL: what was decided, and the rule that decided if one did -/
def Records (e : Engine) (url : Text) (j : Text.Json) : Prop :=
  ∃ rule, j = .object [("url".toList, .string url), ("accepted".toList, .bool (e.evaluate url).accepted),
      ("rule".toList, rule)] ∧
    ((e.evaluate url).rule = none → rule = .null) ∧
    ∀ i, (e.evaluate url).rule = some i → ∃ r, e.rules[i]? = some r ∧
      rule = .object [("index".toList, .number i), ("sign".toList, .bool (e.evaluate url).accepted),
        ("pattern".toList, .string r.pattern.source), ("scope".toList, r.scope.elim .null .string)]

theorem records_record (e : Engine) (url : Text) : Records e url (record (entry e url)) := by
  refine ⟨_, rfl, fun h => ?_, fun i h => ?_⟩
  · rw [rule_entry, h]
    rfl
  · obtain ⟨r, -, hr⟩ := getElem?_of_rule h
    obtain ⟨hi, hget⟩ := List.getElem?_eq_some_iff.1 hr
    have hsign : (e.evaluate url).accepted = r.action.sign := by
      rw [← hget]
      exact Engine.accepted_of_rule hi h
    refine ⟨r, hr, ?_⟩
    rw [rule_entry, h, Option.bind_some, hr, hsign]
    cases hscope : r.scope <;> simp [ruleRecord, Rule.written, hscope]

/-! ## Whole streams -/

/-- **The report on lines that can all be read:** their lines one by one, and their number either way. -/
theorem ofInput_eq (e : Engine) (o : ReportOptions) (urls : List Text) :
    ofInput e o (urls.map .ok) =
      ⟨urls.flatMap fun url => line o (entry e url) ++ ['\n'], urls.countP fun url => (e.evaluate url).accepted,
        urls.countP fun url => !(e.evaluate url).accepted, none⟩ := by
  induction urls with
  | nil => rfl
  | cons url urls ih =>
    rw [List.map_cons, ofInput, ih, cons, List.countP_cons, List.countP_cons]
    have haccepted : (entry e url).accepted = (e.evaluate url).accepted := rfl
    rw [haccepted]
    cases (e.evaluate url).accepted <;> simp

/-- **One line of output for each line of input.** Whatever the options, what is written for a text is a line for each
of its lines, in order and ended by the only line feed in it. What the line says depends on the URL alone: as text it is
the sign of the decision and the URL, with a remark if one is asked for, and as JSON it records the decision and the
rule that made it. Each line counts as accepted or as rejected, and the counts do not depend on the options. -/
theorem one_line_each {f : Flavor} {e : Engine}
    (he : (∃ t, RuleFile.parse f t = .ok e.rules) ∨ ∃ b, RuleFile.parseBytes f b = .ok e.rules)
    (o : ReportOptions) (t : Text) :
    let report := ofBytes e o (Utf8.encode t)
    report.output = t.lines.flatMap (fun url => line o (entry e url) ++ ['\n']) ∧
    (∀ url ∈ t.lines, '\n' ∉ line o (entry e url) ∧
      (o.format = .text → line o (entry e url) = (if (e.evaluate url).accepted then '+' else '-') :: url ++
        if o.explain then remark (entry e url).rule else []) ∧
      (o.format = .json → ∃ j, line o (entry e url) = j.render ∧ Records e url j)) ∧
    report.accepted + report.rejected = t.lines.length ∧
    report.accepted = t.lines.countP (fun url => (e.evaluate url).accepted) ∧
    report.failure = none ∧
    ∀ o', (ofBytes e o' (Utf8.encode t)).accepted = report.accepted ∧
      (ofBytes e o' (Utf8.encode t)).rejected = report.rejected := by
  have heq : ∀ o, ofBytes e o (Utf8.encode t) = ofInput e o (t.lines.map .ok) := fun o => by
    rw [ofBytes, Input.ofBytes_encode, Input.ofText]
  have hrules : ∀ r ∈ e.rules, OneLine r.written := by
    rcases he with ⟨t, ht⟩ | ⟨b, hb⟩
    · exact RuleFile.oneLine_of_parse ht
    · exact RuleFile.oneLine_of_parseBytes hb
  rw [heq, ofInput_eq]
  refine ⟨rfl, fun url hu => ⟨?_, line_text, fun h => ?_⟩, ?_, rfl, rfl, fun o' => ?_⟩
  · exact notMem_line hrules (Text.notMem_of_mem_lines hu)
  · exact ⟨record (entry e url), by rw [line, h], records_record e url⟩
  · rw [List.length_eq_countP_add_countP (fun url => (e.evaluate url).accepted)]
    simp
  · rw [heq, ofInput_eq]
    exact ⟨rfl, rfl⟩

/-- an empty line between a line that a carriage return ends and one that nothing ends -/
theorem one_line_each_blank :
    ∃ e : Engine, RuleFile.parse .basic ">a.com\n+x\r\n<\n-y\n".toList = .ok e.rules ∧
      let report := ofBytes e ⟨.json, true⟩ (Utf8.encode "http://a.com/x\r\n\ny".toList)
      report.accepted + report.rejected = 3 ∧ report.failure = none ∧
        ∀ url ∈ ["http://a.com/x".toList, [], "y".toList], '\n' ∉ line ⟨.json, true⟩ (entry e url) := by
  obtain ⟨rs, hrs⟩ : ∃ rs, RuleFile.parse .basic ">a.com\n+x\r\n<\n-y\n".toList = .ok rs := ⟨_, rfl⟩
  have hlines : Text.lines "http://a.com/x\r\n\ny".toList = ["http://a.com/x".toList, [], "y".toList] := by decide
  obtain ⟨-, hline, hcount, -, hend, -⟩ := one_line_each (e := ⟨rs, .ofSuffixes none⟩) (.inl ⟨_, hrs⟩) ⟨.json, true⟩
    "http://a.com/x\r\n\ny".toList
  rw [hlines] at hline hcount
  exact ⟨_, hrs, hcount, hend, fun url hu => (hline url hu).1⟩

end Report

end CrawlFilter
