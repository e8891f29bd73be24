/-
Two ways to the rules of a source: reading its lines as they come, and reading its whole text first and compiling that.
The one meets bytes that are not UTF-8 only when it comes to their line, and may have stopped at a bad rule before; the
other refuses them at once. All the same they accept the same sources and give the same rules, so the commands that go
the one way and the command that goes the other end alike.

- `load_of_text`: a source whose text can be had loads as its text compiles, rules and messages included.
- `not_load_of_text_error`: a source whose text cannot be had does not load, for whatever reason.
- `status_run`: a command that filters nothing succeeds exactly if its source loads.
- `load_agrees_with_compile`: all of it together.
-/
import CrawlFilter.Command.Outcome
import CrawlFilter.Proofs.ByteStreams

namespace CrawlFilter

namespace RuleSource

variable {files : Files} {f : Flavor} {s : RuleSource}

/-- the text of a file can be had exactly if its bytes are UTF-8 -/
theorem text_file_eq_ok_iff {p t : Text} :
    (file p).text files = .ok t ↔ files p = .file (Utf8.encode t) := by
  unfold text
  rw [except_mapError_eq_ok]
  cases hp : files p with
  | closed e => simp [FileEntry.text]
  | directory => simp [FileEntry.text]
  | file b =>
    simp only [FileEntry.text, FileEntry.file.injEq]
    cases hd : Utf8.decode? b with
    | none =>
      have hv := Utf8.decode?_eq_none_iff.1 hd
      simp only [reduceCtorEq, false_iff]
      exact fun hb => hv ⟨t, hb⟩
    | some t' =>
      rw [← Utf8.decode?_eq_some_iff, hd]
      simp

/-! ## One source, two ways -/

variable [Wording]

theorem load_eq_readRules (files : Files) (f : Flavor) (s : RuleSource) :
    s.load files f = (s.readRules files f).value := by
  unfold load loadLogged
  simp only [Logged.value_bind]
  cases (s.readRules files f).value <;> rfl

theorem load_builtin (files : Files) (f : Flavor) : builtin.load files f = builtin.compile f builtinRules := by
  rw [load_eq_readRules]
  rfl

theorem load_of_lines {p : Text} {i : Input} (h : (files p).lines = .ok i) :
    (file p).load files f = (RuleFile.read (Rule.compile f) i).mapError (file p).ruleFailure := by
  rw [load_eq_readRules]
  unfold readRules
  simp only [h]
  rfl

theorem load_of_lines_error {p : Text} {e : ReadError} (h : (files p).lines = .error e) :
    (file p).load files f = .error (readFailure p e) := by
  rw [load_eq_readRules]
  unfold readRules
  simp only [h]
  rfl

/-- **A source whose text can be had** loads as its text compiles: the same rules, or the same message. -/
theorem load_of_text {t : Text} (h : s.text files = .ok t) : s.load files f = s.compile f t := by
  cases s with
  | builtin =>
    obtain rfl : builtinRules = t := Except.ok.inj h
    exact load_builtin files f
  | file p =>
    have hp := text_file_eq_ok_iff.1 h
    rw [load_of_lines (i := .ofBytes (Utf8.encode t)) (by rw [hp]; rfl), Input.ofBytes_encode]
    rfl

/-- **A source whose text cannot be had** does not load. -/
theorem not_load_of_text_error {m : Text} (h : s.text files = .error m) (rs : List Rule) :
    s.load files f ≠ .ok rs := by
  cases s with
  | builtin => cases h
  | file p =>
    cases hp : files p with
    | closed e =>
      rw [load_of_lines_error (e := e) (by rw [hp]; rfl)]
      simp
    | directory =>
      rw [load_of_lines (i := [.error .directory]) (by rw [hp]; rfl)]
      exact nofun
    | file b =>
      have hv : ¬ Utf8.Valid b := by
        rintro ⟨t, rfl⟩
        rw [text_file_eq_ok_iff.2 hp] at h
        cases h
      rw [load_of_lines (i := .ofBytes b) (by rw [hp]; rfl), Ne, except_mapError_eq_ok]
      exact RuleFile.read_ne_ok_of_not_valid _ hv rs

/-- a source that loads does so with the rules that its text compiles to -/
theorem load_eq_ok_iff {rs : List Rule} :
    s.load files f = .ok rs ↔ ∃ t, s.text files = .ok t ∧ s.compile f t = .ok rs := by
  cases ht : s.text files with
  | error m =>
    simp only [reduceCtorEq, false_and, exists_false, iff_false]
    exact not_load_of_text_error ht rs
  | ok t => simp [load_of_text ht]

end RuleSource

/-! ## Commands -/

namespace Command

section

variable [Wording] (files : Files) (s : RuleSource) (f : Flavor)

theorem isOk_check : (check files s f).isOk = (s.load files f).isOk := by
  unfold check
  cases ht : s.text files with
  | error m =>
    cases hl : s.load files f with
    | error m' => rfl
    | ok rs => exact absurd hl (RuleSource.not_load_of_text_error ht rs)
  | ok t =>
    rw [RuleSource.load_of_text ht]
    cases hc : s.compile f t <;> simp [bind, Except.bind, hc] <;> rfl

theorem isOk_fmt : (fmt files s f).isOk = (s.load files f).isOk := by
  unfold fmt
  cases s.load files f <;> rfl

theorem isOk_loadEngine : (loadEngine files s f none).isOk = (s.load files f).isOk := by
  unfold loadEngine
  cases s.load files f <;> rfl

/-- **A command that filters nothing** succeeds exactly if its source loads. -/
theorem status_run (verb : Verb) (path : Option Text) (o : ReportOptions) :
    (Request.run files [] ⟨verb, path, f, none, o⟩).status =
      if ((RuleSource.ofPath? path).load files f).isOk then 0 else 1 := by
  unfold Request.run
  cases verb with
  | check =>
    dsimp only
    rw [← isOk_check]
    cases check files (RuleSource.ofPath? path) f <;> rfl
  | fmt =>
    dsimp only
    rw [← isOk_fmt]
    cases fmt files (RuleSource.ofPath? path) f <;> rfl
  | filter =>
    dsimp only
    rw [← isOk_loadEngine]
    cases loadEngine files (RuleSource.ofPath? path) f none <;> rfl

end

/-- **Loading a source and compiling its text agree,** however refusals are worded. The one succeeds exactly if the text can be had and the other
succeeds, and then the rules say the same. For the built-in rules and for a file in UTF-8 the text can be had, and if
one of the two fails then both do, with one message. So each command ends with the same status, if it is given nothing
to filter. -/
theorem load_agrees_with_compile [Wording] (files : Files) (path : Option Text) (f : Flavor) :
    let source := RuleSource.ofPath? path
    ((∃ rs, source.load files f = .ok rs) ↔ ∃ t rs, source.text files = .ok t ∧ source.compile f t = .ok rs) ∧
    (∀ rs t rs', source.load files f = .ok rs → source.text files = .ok t → source.compile f t = .ok rs' →
      rs.map Rule.written = rs'.map Rule.written) ∧
    ((path = none ∨ ∃ p b, path = some p ∧ files p = .file b ∧ Utf8.Valid b) →
      ∃ t, source.text files = .ok t ∧
        ∀ m, source.load files f = .error m ↔ source.compile f t = .error m) ∧
    ∀ verb o, (Request.run files [] ⟨verb, path, f, none, o⟩).status = if (source.load files f).isOk then 0 else 1 := by
  intro source
  refine ⟨?_, ?_, ?_, fun verb o => status_run files f verb path o⟩
  · simp only [RuleSource.load_eq_ok_iff]
    exact exists_comm
  · intro rs t rs' hl ht hc
    rw [RuleSource.load_of_text ht, hc] at hl
    rw [Except.ok.inj hl]
  · intro h
    obtain ⟨t, ht⟩ : ∃ t, source.text files = .ok t := by
      rcases h with rfl | ⟨p, b, rfl, hp, t, rfl⟩
      · exact ⟨_, rfl⟩
      · exact ⟨t, RuleSource.text_file_eq_ok_iff.2 hp⟩
    exact ⟨t, ht, fun m => by rw [RuleSource.load_of_text ht]⟩

/-- a file that ends in a carriage return, and one with a line that begins like no line and another below it that is not
UTF-8 -/
theorem load_agrees_with_compile_torn :
    let good : Files := fun _ => .file (Utf8.encode "+é\r\n-b\r".toList)
    let bad : Files := fun _ => .file [0x2A, 0x0A, 0xE9]
    let source := RuleSource.file "rules".toList
    (∃ t rs rs', source.text good = .ok t ∧ source.load good .anchored = .ok rs ∧
      source.compile .anchored t = .ok rs' ∧ rs.map Rule.written = rs'.map Rule.written ∧
      ∀ m, source.load good .anchored = .error m ↔ source.compile .anchored t = .error m) ∧
    ∀ verb o, (Request.run bad [] ⟨verb, some "rules".toList, .basic, none, o⟩).status = 1 := by
  intro good bad source
  obtain ⟨hiff, hsame, hmsg, -⟩ := load_agrees_with_compile good (some "rules".toList) .anchored
  have hvalid : Utf8.Valid (Utf8.encode "+é\r\n-b\r".toList) := ⟨_, rfl⟩
  obtain ⟨t, ht, herr⟩ := hmsg (.inr ⟨_, _, rfl, rfl, hvalid⟩)
  obtain rfl : "+é\r\n-b\r".toList = t := Except.ok.inj ((RuleSource.text_file_eq_ok_iff.2 rfl).symm.trans ht)
  obtain ⟨rs', hrs'⟩ : ∃ rs, source.compile .anchored "+é\r\n-b\r".toList = .ok rs := ⟨_, rfl⟩
  obtain ⟨rs, hrs⟩ := hiff.2 ⟨_, rs', ht, hrs'⟩
  refine ⟨⟨_, rs, rs', ht, hrs, hrs', hsame rs _ rs' hrs ht hrs', herr⟩, fun verb o => ?_⟩
  have hbad : (source.load bad .basic).isOk = false := by decide
  rw [(load_agrees_with_compile bad (some "rules".toList) .basic).2.2.2 verb o]
  exact if_neg (by rw [← Bool.not_eq_true] at hbad; exact hbad)

end Command

end CrawlFilter
