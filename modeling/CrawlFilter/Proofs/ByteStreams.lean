/-
Rule files that come as bytes. A byte stream is cut into lines before it is decoded, and each line is decoded on its
own. If the stream is the UTF-8 form of a text, this gives the lines of the text, so reading the stream is reading the
text. If it is not, some line of it is not UTF-8; the lines before the first such line are those of a text, and the
stream is read as that text up to the line where it breaks off.

- `ofBytes_encode`: the bytes of a text have the lines of the text.
- `exists_breaksOff`: a stream that is not UTF-8 breaks off at some line.
- `BreaksOff.ofBytes_eq`: its lines are then those of the text before, the error, and whatever follows.
- `read_stream_as_text`: so for whole files and the engines built from them, whatever becomes of a rule line.
-/
import CrawlFilter.Engine
import CrawlFilter.Proofs.Reading
import CrawlFilter.Proofs.Utf8

namespace CrawlFilter

open Lines (Ended)

/-! ## Lines of a text and lines of its bytes -/

namespace Utf8

variable {x : Char} {a : UInt8}

theorem ended_encode_iff (hx : String.utf8EncodeChar x = [a]) {t : Text} : Ended a (encode t) ↔ Ended x t := by
  rw [Ended, Ended, encode_eq_nil_iff, getLast?_encode_iff hx]

theorem cut_encode (hx : String.utf8EncodeChar x = [a]) (t : Text) :
    Lines.cut a (encode t) = (Lines.cut x t).map fun l => (encode l.1, l.2) := by
  induction t using Lines.line_induction x with
  | nil => rfl
  | last l hne hl =>
    rw [Lines.cut_of_notMem hl hne, Lines.cut_of_notMem (mt (mem_encode_iff hx).1 hl) (mt encode_eq_nil_iff.1 hne)]
    rfl
  | line l t hl ih =>
    have e : encode (l ++ x :: t) = encode l ++ a :: encode t := by simp [hx]
    rw [e, Lines.cut_line_append (mt (mem_encode_iff hx).1 hl), ih, Lines.cut_line_append hl]
    rfl

theorem content_encode (hx : String.utf8EncodeChar x = [a]) (l : Text) (ended : Bool) :
    Lines.content a (encode l, ended) = encode (Lines.content x (l, ended)) := by
  cases ended with
  | true => exact withoutLast_encode hx l
  | false => rfl

end Utf8

namespace Input

/-- **The bytes of a text have the lines of the text.** -/
theorem ofBytes_encode (t : Text) : ofBytes (Utf8.encode t) = ofText t := by
  rw [ofBytes, ofText, Text.lines, Utf8.cut_encode (x := '\n') (a := 10) rfl, List.map_map, List.map_map]
  refine List.map_congr_left fun l _ => ?_
  simp only [Function.comp_apply, Utf8.content_encode (x := '\r') (a := 13) rfl, Utf8.decode?_encode]

theorem ofBytes_append {a : Bytes} (h : Ended 10 a) (b : Bytes) : ofBytes (a ++ b) = ofBytes a ++ ofBytes b := by
  rw [ofBytes, Lines.cut_append h, List.map_append, ofBytes, ofBytes]

end Input

/-! ## Streams that are not UTF-8 -/

/-- a byte stream whose first line that is not UTF-8 is `line`: the text `before` has the lines in front of it, and the
bytes `after` follow it -/
structure BreaksOff (b : Bytes) (before : Text) (line after : Bytes) : Prop where
  split : b = Utf8.encode before ++ line ++ after
  lines_before : Ended '\n' before
  one_line : 10 ∉ line.dropLast
  line_end : after = [] ∨ line.getLast? = some 10
  not_valid : ¬ Utf8.Valid line

theorem exists_breaksOff {b : Bytes} (h : ¬ Utf8.Valid b) : ∃ before line after, BreaksOff b before line after := by
  induction b using Lines.line_induction (10 : UInt8) with
  | nil => exact absurd ⟨[], rfl⟩ h
  | last l hne hl => exact ⟨[], l, [], by simp, .inl rfl, fun hm => hl (List.dropLast_subset l hm), .inl rfl, h⟩
  | line l t hl ih =>
    have e : l ++ 10 :: t = (l ++ [10]) ++ t := by simp
    by_cases hv : Utf8.Valid (l ++ [10])
    · -- the first line is UTF-8 with its terminator, so what follows it is not
      obtain ⟨before, line, after, ht⟩ := ih fun ht => h (e ▸ hv.append ht)
      obtain ⟨s, hs⟩ := hv
      have hend : Ended '\n' s := (Utf8.ended_encode_iff rfl).1 (hs ▸ Lines.ended_concat 10 l)
      refine ⟨s ++ before, line, after, ?_, hend.append ht.lines_before, ht.one_line, ht.line_end, ht.not_valid⟩
      rw [e, hs, ht.split, Utf8.encode_append, List.append_assoc, List.append_assoc, List.append_assoc]
    · exact ⟨[], l ++ [10], t, e, .inl rfl, by rwa [List.dropLast_concat], .inr List.getLast?_concat, hv⟩

/-- a line that is not UTF-8 is not read, whether or not a line feed ends it -/
theorem ofBytes_of_not_valid {line : Bytes} (hl : 10 ∉ line.dropLast) (hv : ¬ Utf8.Valid line) :
    Input.ofBytes line = [.error .notUtf8] := by
  rcases List.eq_nil_or_concat line with rfl | ⟨l, x, rfl⟩
  · exact absurd ⟨[], rfl⟩ hv
  · rw [List.concat_eq_append] at hl hv ⊢
    rw [List.dropLast_concat] at hl
    by_cases hx : x = 10
    · subst hx
      -- a carriage return that is dropped is UTF-8 by itself, and so is the line feed
      have hc : Utf8.decode? (Lines.content 13 (l, true)) = none := by
        refine Utf8.decode?_eq_none_iff.2 fun hc => hv (.append ?_ (Utf8.valid_singleton (x := '\n') rfl))
        rcases withoutLast_eq_or 13 l with h | h
        · exact h ▸ hc
        · exact h ▸ hc.append (Utf8.valid_singleton (x := '\r') rfl)
      simp only [Input.ofBytes, Lines.cut_line hl, List.map_cons, List.map_nil, hc]
    · have hm : 10 ∉ l ++ [x] := by simp [hl, Ne.symm hx]
      have hc : Utf8.decode? (Lines.content 13 (l ++ [x], false)) = none := Utf8.decode?_eq_none_iff.2 hv
      simp only [Input.ofBytes, Lines.cut_of_notMem hm (by simp), List.map_cons, List.map_nil, hc]

/-- **Where a stream breaks off,** its lines are those of the text before, an error, and the lines that follow. -/
theorem BreaksOff.ofBytes_eq {b : Bytes} {before : Text} {line after : Bytes} (h : BreaksOff b before line after) :
    Input.ofBytes b = Input.ofText before ++ .error .notUtf8 :: Input.ofBytes after := by
  have hbefore : Ended 10 (Utf8.encode before) := (Utf8.ended_encode_iff rfl).2 h.lines_before
  have hline : Input.ofBytes (line ++ after) = Input.ofBytes line ++ Input.ofBytes after := by
    rcases h.line_end with rfl | hend
    · rw [List.append_nil]
      exact (List.append_nil _).symm
    · exact Input.ofBytes_append (.inr hend) after
  rw [h.split, List.append_assoc, Input.ofBytes_append hbefore, hline, Input.ofBytes_encode,
    ofBytes_of_not_valid h.one_line h.not_valid]
  rfl

/-! ## Rule files -/

namespace RuleFile

variable {α : Type}

/-- a reading that meets an error ends with it, unless it has failed before -/
theorem rulesFrom_append_error (build : RuleBuilder α) (n : ℕ) (scope : Option Text) (i j : Input) (e : ReadError) :
    rulesFrom build n scope (i ++ .error e :: j) =
      (rulesFrom build n scope i).bind fun _ => .error (.unreadable e) := by
  rw [rulesFrom_append]
  cases rulesFrom build n scope i <;> rfl

theorem read_of_breaksOff (build : RuleBuilder α) {b : Bytes} {before : Text} {line after : Bytes}
    (h : BreaksOff b before line after) :
    read build (.ofBytes b) = (read build (.ofText before)).bind fun _ => .error (.unreadable .notUtf8) := by
  rw [read_eq, read_eq, h.ofBytes_eq, rulesFrom_append_error]

/-- bytes that are not UTF-8 give no rules -/
theorem read_ne_ok_of_not_valid (build : RuleBuilder α) {b : Bytes} (h : ¬ Utf8.Valid b) (rs : List α) :
    read build (.ofBytes b) ≠ .ok rs := by
  obtain ⟨before, line, after, hb⟩ := exists_breaksOff h
  intro hrs
  rw [read_of_breaksOff build hb] at hrs
  obtain ⟨_, -, hend⟩ := except_bind_eq_ok.1 hrs
  cases hend

/-- **A byte stream is read as the text it encodes.** However rules are built, the bytes of a text give the rules of the
text or its error, and the same engine. Bytes that are not UTF-8 never give rules: some line is the first that is not
UTF-8, and the error is that of the text before this line, or that the bytes are not UTF-8 if that text has none. -/
theorem read_stream_as_text (build : RuleBuilder Rule) (b : Bytes) :
    (∀ t, b = Utf8.encode t →
      read build (.ofBytes b) = read build (.ofText t) ∧
        Engine.ofInput build (.ofBytes b) = Engine.ofInput build (.ofText t)) ∧
    ((∀ t, b ≠ Utf8.encode t) →
      (∀ rs, read build (.ofBytes b) ≠ .ok rs) ∧
      (∃ before line after, BreaksOff b before line after) ∧
      ∀ before line after, BreaksOff b before line after →
        (∀ d, read build (.ofText before) = .error d → read build (.ofBytes b) = .error d) ∧
        ∀ rs, read build (.ofText before) = .ok rs → read build (.ofBytes b) = .error (.unreadable .notUtf8)) := by
  constructor
  · rintro t rfl
    rw [Input.ofBytes_encode]
    exact ⟨rfl, rfl⟩
  · intro h
    obtain ⟨before, line, after, hb⟩ := exists_breaksOff fun ⟨t, ht⟩ => h t ht
    refine ⟨fun rs hrs => ?_, ⟨before, line, after, hb⟩, fun before line after hb => ⟨fun d hd => ?_, fun rs hrs => ?_⟩⟩
    · rw [read_of_breaksOff build hb] at hrs
      obtain ⟨_, -, hend⟩ := except_bind_eq_ok.1 hrs
      cases hend
    · rw [read_of_breaksOff build hb, hd]
      rfl
    · rw [read_of_breaksOff build hb, hrs]
      rfl

/-- a character of two bytes and a carriage return at the very end; a stream that breaks off on its second line; and one
that breaks off below a line that is refused -/
theorem read_stream_as_text_latin1 :
    let build := Rule.compile .basic
    read build (.ofBytes [0x2B, 0xC3, 0xA9, 0x0D, 0x0A, 0x2D, 0x0D]) = read build (.ofText "+é\r\n-\r".toList) ∧
      read build (.ofBytes [0x2B, 0x61, 0x0A, 0x2B, 0xE9, 0x0D, 0x0A, 0x2A]) = .error (.unreadable .notUtf8) ∧
      read build (.ofBytes [0x2A, 0x0A, 0xE9]) = .error (.invalidFirst 1 "*".toList '*') := by
  intro build
  have invalid : ∀ {b : Bytes}, Utf8.decode? b = none → ∀ t, b ≠ Utf8.encode t := fun h t ht =>
    Utf8.decode?_eq_none_iff.1 h ⟨t, ht⟩
  refine ⟨((read_stream_as_text build _).1 "+é\r\n-\r".toList (by decide)).1, ?_, ?_⟩
  · have hb : BreaksOff [0x2B, 0x61, 0x0A, 0x2B, 0xE9, 0x0D, 0x0A, 0x2A] "+a\n".toList [0x2B, 0xE9, 0x0D, 0x0A] [0x2A] :=
      ⟨rfl, .inr rfl, by decide, .inr rfl, Utf8.decode?_eq_none_iff.1 (by decide)⟩
    exact (((read_stream_as_text build _).2 (invalid (by decide))).2.2 _ _ _ hb).2 _ rfl
  · have hb : BreaksOff [0x2A, 0x0A, 0xE9] "*\n".toList [0xE9] [] :=
      ⟨rfl, .inr rfl, by decide, .inl rfl, Utf8.decode?_eq_none_iff.1 (by decide)⟩
    exact (((read_stream_as_text build _).2 (invalid (by decide))).2.2 _ _ _ hb).1 _ rfl

end RuleFile

end CrawlFilter
