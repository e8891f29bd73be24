/-
JSON as a language: which texts say which value. A text may say a value in many ways, with white space between its
parts, escapes for characters that need none, zeros at the end of a fraction; but it says one value at most. The compact
form of a record is one of the texts that say the record, so whoever reads it as JSON finds the record and nothing else.

- `Says`: the grammar, one rule for each form of a value; `Reads` allows white space around it.
- `settles_char`, `settles_string`, `settles_unsigned`, `settles_number`: where a string or a number ends, and what it
  says, whatever comes after it.
- `Listed.unique` / `Member.settles`: the same for items with commas between them, from what holds of each item.
- `settles_value` / `Reads.unique`: so for values. A text says one value at most.
- `says_render` / `reads_render_iff`: what the compact form of a record says.
-/
import Mathlib.Tactic
import CrawlFilter.Proofs.Scans
import CrawlFilter.Text.Json

namespace CrawlFilter.Text.Json

/-- what a JSON text says -/
inductive Value where
  | null
  | bool (b : Bool)
  | number (q : ℚ)
  | string (t : Text)
  | array (items : List Value)
  | object (members : List (Text × Value))

/-- what holds of a value if it holds of the values in it holds of every value -/
theorem Value.induction {motive : Value → Prop} (null : motive .null) (bool : ∀ b, motive (.bool b))
    (number : ∀ q, motive (.number q)) (string : ∀ t, motive (.string t))
    (array : ∀ items, (∀ v ∈ items, motive v) → motive (.array items))
    (object : ∀ members, (∀ m ∈ members, motive m.2) → motive (.object members)) (v : Value) : motive v :=
  match v with
  | .null => null
  | .bool b => bool b
  | .number q => number q
  | .string t => string t
  | .array items => array items fun v _ => Value.induction null bool number string array object v
  | .object members => object members fun m _ => Value.induction null bool number string array object m.2
termination_by sizeOf v
decreasing_by
  · have := List.sizeOf_lt_of_mem ‹v ∈ items›
    simp only [Value.array.sizeOf_spec]
    omega
  · have := List.sizeOf_lt_of_mem ‹m ∈ members›
    obtain ⟨k, w⟩ := m
    simp only [Prod.mk.sizeOf_spec] at this
    simp only [Value.object.sizeOf_spec]
    omega

/-! ## Grammar -/

section Grammar

variable {α : Type}

/-- the letters that may follow a backslash, and what they stand for -/
def letters : List (Char × Char) :=
  [('"', '"'), ('\\', '\\'), ('/', '/'), ('b', '\x08'), ('f', '\x0c'), ('n', '\n'), ('r', '\r'), ('t', '\t')]

/-- four hexadecimal digits for a code unit -/
structure CodeUnit (ds : Text) (n : ℕ) : Prop where
  length_eq : ds.length = 4
  digits : ∀ d ∈ ds, (CharSet.hexDigit? d).isSome
  value_eq : CharSet.hexValue ds = n

/-- what may follow a backslash for a character; beyond the code units it takes two of them, a high and a low
surrogate -/
inductive Escape : Text → Char → Prop where
  | letter {l c : Char} (h : (l, c) ∈ letters) : Escape [l] c
  | code {ds : Text} {c : Char} (h : CodeUnit ds c.toNat) : Escape ('u' :: ds) c
  | pair {hi lo : Text} {m n : ℕ} {c : Char} (hm : CodeUnit hi m) (hn : CodeUnit lo n)
      (high : 0xD800 ≤ m ∧ m < 0xDC00) (low : 0xDC00 ≤ n ∧ n < 0xE000)
      (h : c.toNat = 0x10000 + (m - 0xD800) * 0x400 + (n - 0xDC00)) :
      Escape ('u' :: (hi ++ '\\' :: 'u' :: lo)) c

/-- the ways to write a character in a string -/
inductive SaysChar : Text → Char → Prop where
  | plain (c : Char) (hc : 0x20 ≤ c.toNat) (hq : c ≠ '"') (hb : c ≠ '\\') : SaysChar [c] c
  | escaped {e : Text} {c : Char} (h : Escape e c) : SaysChar ('\\' :: e) c

/-- characters one after another -/
inductive SaysChars : Text → Text → Prop where
  | nil : SaysChars [] []
  | cons {f t s : Text} {c : Char} (hc : SaysChar f c) (h : SaysChars t s) : SaysChars (f ++ t) (c :: s)

inductive SaysString : Text → Text → Prop where
  | quoted {t s : Text} (h : SaysChars t s) : SaysString ('"' :: (t ++ ['"'])) s

/-- digits, at least one -/
structure Digits (t : Text) : Prop where
  ne_nil : t ≠ []
  digits : ∀ c ∈ t, c.isDigit = true

/-- a whole number, without zeros in front -/
inductive Whole : Text → Prop where
  | zero : Whole ['0']
  | digits {t : Text} (h : Digits t) (hz : t.head? ≠ some '0') : Whole t

/-- what may follow the whole number, with its digits -/
inductive Fraction : Text → Text → Prop where
  | none : Fraction [] []
  | some {ds : Text} (h : Digits ds) : Fraction ('.' :: ds) ds

def value10 (ds : Text) : ℕ := Nat.ofDigitChars 10 ds 0

/-- the letter in front of an exponent -/
def IsExponentLetter (e : Char) : Prop := e = 'e' ∨ e = 'E'

/-- the sign of an exponent, and the factor that it stands for -/
inductive Sign : Text → ℤ → Prop where
  | none : Sign [] 1
  | plus : Sign ['+'] 1
  | minus : Sign ['-'] (-1)

inductive Exponent : Text → ℤ → Prop where
  | none : Exponent [] 0
  | some {e : Char} {s ds : Text} {i : ℤ} (he : IsExponentLetter e) (hs : Sign s i) (h : Digits ds) :
      Exponent (e :: (s ++ ds)) (i * value10 ds)

/-- a number without its sign -/
inductive SaysUnsigned : Text → ℚ → Prop where
  | parts {w f x ds : Text} {n : ℤ} (hw : Whole w) (hf : Fraction f ds) (hx : Exponent x n) :
      SaysUnsigned (w ++ (f ++ x)) (value10 (w ++ ds) * 10 ^ (n - ds.length))

inductive SaysNumber : Text → ℚ → Prop where
  | plus {t : Text} {q : ℚ} (h : SaysUnsigned t q) : SaysNumber t q
  | minus {t : Text} {q : ℚ} (h : SaysUnsigned t q) : SaysNumber ('-' :: t) (-q)

/-- the characters that may stand between the parts of a value without a meaning -/
def isSpace (c : Char) : Bool := c = ' ' || c = '\t' || c = '\n' || c = '\r'

/-- a text with white space around it -/
inductive Padded (P : Text → α → Prop) : Text → α → Prop where
  | mk {w t v : Text} {a : α} (hw : ∀ c ∈ w, isSpace c = true) (h : P t a) (hv : ∀ c ∈ v, isSpace c = true) :
      Padded P (w ++ (t ++ v)) a

/-- items with commas between them -/
inductive Listed (P : Text → α → Prop) : Text → List α → Prop where
  | none {w : Text} (hw : ∀ c ∈ w, isSpace c = true) : Listed P w []
  | one {t : Text} {a : α} (h : Padded P t a) : Listed P t [a]
  | more {t s : Text} {a b : α} {as : List α} (h : Padded P t a) (hs : Listed P s (b :: as)) :
      Listed P (t ++ ',' :: s) (a :: b :: as)

/-- a name and what is said under it -/
inductive Member (P : Text → α → Prop) : Text → Text × α → Prop where
  | mk {k w v t name : Text} {a : α} (hk : SaysString k name) (hw : ∀ c ∈ w, isSpace c = true)
      (hv : ∀ c ∈ v, isSpace c = true) (h : P t a) : Member P (k ++ (w ++ ':' :: (v ++ t))) (name, a)

/-- the texts that say a value -/
inductive Says : Text → Value → Prop where
  | null : Says "null".toList .null
  | true : Says "true".toList (.bool true)
  | false : Says "false".toList (.bool false)
  | number {t : Text} {q : ℚ} (h : SaysNumber t q) : Says t (.number q)
  | string {t s : Text} (h : SaysString t s) : Says t (.string s)
  | array {t : Text} {items : List Value} (h : Listed Says t items) : Says ('[' :: (t ++ [']'])) (.array items)
  | object {t : Text} {members : List (Text × Value)} (h : Listed (Member Says) t members) :
      Says ('\x7b' :: (t ++ ['\x7d'])) (.object members)

/-- what a whole text says, read as JSON -/
def Reads (t : Text) (v : Value) : Prop := Padded Says t v

end Grammar

/-! ## One reading -/

/-- what says `a` ends where it ends, and says nothing else, whatever may follow it -/
def Settles {α : Type} (follow : Text → Prop) (P : Text → α → Prop) (a : α) : Prop :=
  ∀ ⦃s t : Text⦄ ⦃b : α⦄ ⦃r q : Text⦄, P s a → P t b → follow r → follow q → s ++ r = t ++ q → s = t ∧ a = b

/-- a text does not go on with characters of a kind -/
def Beyond (p : Char → Bool) (t : Text) : Prop := ∀ c ∈ t.head?, p c = false

theorem beyond_cons {p : Char → Bool} {c : Char} (h : p c = false) (t : Text) : Beyond p (c :: t) := by
  rintro x ⟨⟩
  exact h

theorem Beyond.mono {p q : Char → Bool} {t : Text} (h : Beyond q t) (hpq : ∀ c, q c = false → p c = false) :
    Beyond p t := fun c hc => hpq c (h c hc)

/-- a run of characters of a kind ends where they end -/
theorem run_unique {p : Char → Bool} {s t r q : Text} (hs : ∀ c ∈ s, p c = true) (ht : ∀ c ∈ t, p c = true)
    (hr : Beyond p r) (hq : Beyond p q) (h : s ++ r = t ++ q) : s = t ∧ r = q := by
  obtain ⟨h1, h2⟩ := scan_iff.2 ⟨rfl, hs, hr⟩
  obtain ⟨h3, h4⟩ := scan_iff.2 ⟨h, ht, hq⟩
  exact ⟨h1.symm.trans h3, h2.symm.trans h4⟩

/-! ### Strings -/

theorem letters_unique {l c d : Char} (hc : (l, c) ∈ letters) (hd : (l, d) ∈ letters) : c = d := by
  have hall : ∀ x ∈ letters, ∀ y ∈ letters, x.1 = y.1 → x.2 = y.2 := by decide
  exact hall _ hc _ hd rfl

theorem ne_u_of_mem_letters {l c : Char} (h : (l, c) ∈ letters) : l ≠ 'u' := by
  have hall : ∀ x ∈ letters, x.1 ≠ 'u' := by decide
  exact hall _ h

theorem CodeUnit.unique {ds es r q : Text} {m n : ℕ} (hd : CodeUnit ds m) (he : CodeUnit es n)
    (h : ds ++ r = es ++ q) : ds = es ∧ m = n ∧ r = q := by
  obtain ⟨rfl, hrq⟩ := List.append_inj h (hd.length_eq.trans he.length_eq.symm)
  exact ⟨rfl, hd.value_eq.symm.trans he.value_eq, hrq⟩

/-- a character is no surrogate -/
theorem not_surrogate (c : Char) : c.toNat < 0xD800 ∨ 0xE000 ≤ c.toNat := by
  rcases c.valid with h | h
  · exact .inl h
  · exact .inr (Nat.succ_le_of_lt h.1)

theorem settles_escape (c : Char) : Settles (fun _ => True) Escape c := by
  intro s t d r q hs ht _ _ h
  cases hs with
  | letter hl =>
    cases ht with
    | letter hm =>
      obtain ⟨rfl, -⟩ := List.cons.inj h
      exact ⟨rfl, letters_unique hl hm⟩
    | code => exact absurd (List.cons.inj h).1 (ne_u_of_mem_letters hl)
    | pair => exact absurd (List.cons.inj h).1 (ne_u_of_mem_letters hl)
  | code hc =>
    cases ht with
    | letter hm => exact absurd (List.cons.inj h).1.symm (ne_u_of_mem_letters hm)
    | code hd =>
      obtain ⟨rfl, hcd, -⟩ := hc.unique hd (List.cons.inj h).2
      exact ⟨rfl, Char.toNat_inj.1 hcd⟩
    | pair hm hn high low =>
      rw [List.cons_append, List.cons_append, List.append_assoc] at h
      obtain ⟨-, rfl, -⟩ := hc.unique hm (List.cons.inj h).2
      have := not_surrogate c
      omega
  | pair hm hn high low hc =>
    cases ht with
    | letter hl => exact absurd (List.cons.inj h).1.symm (ne_u_of_mem_letters hl)
    | code hd =>
      rw [List.cons_append, List.cons_append, List.append_assoc] at h
      obtain ⟨-, rfl, -⟩ := hm.unique hd (List.cons.inj h).2
      have := not_surrogate d
      omega
    | pair hm' hn' _ _ hd =>
      rw [List.cons_append, List.cons_append, List.append_assoc, List.append_assoc] at h
      obtain ⟨rfl, rfl, h⟩ := hm.unique hm' (List.cons.inj h).2
      obtain ⟨rfl, rfl, -⟩ := hn.unique hn' (List.cons.inj (List.cons.inj h).2).2
      exact ⟨rfl, Char.toNat_inj.1 (hc.trans hd.symm)⟩

theorem settles_char (c : Char) : Settles (fun _ => True) SaysChar c := by
  intro s t d r q hs ht _ _ h
  cases hs with
  | plain _ _ _ hb =>
    cases ht with
    | plain =>
      obtain ⟨rfl, -⟩ := List.cons.inj h
      exact ⟨rfl, rfl⟩
    | escaped => exact absurd (List.cons.inj h).1 hb
  | escaped he =>
    cases ht with
    | plain _ _ _ hb => exact absurd (List.cons.inj h).1.symm hb
    | escaped he' =>
      obtain ⟨rfl, rfl⟩ := settles_escape c he he' trivial trivial (List.cons.inj h).2
      exact ⟨rfl, rfl⟩

/-- no character of a string begins with a quote -/
theorem SaysChar.ne_quote {f t r : Text} {c : Char} (h : SaysChar f c) : f ++ t ≠ '"' :: r := by
  cases h with
  | plain _ _ hq => exact fun e => hq (List.cons.inj e).1
  | escaped => exact fun e => absurd (List.cons.inj e).1 (by decide)

theorem SaysChars.unique {s t a b r q : Text} (hs : SaysChars s a) (ht : SaysChars t b)
    (h : s ++ '"' :: r = t ++ '"' :: q) : s = t ∧ a = b := by
  induction hs generalizing t b with
  | nil =>
    cases ht with
    | nil => exact ⟨rfl, rfl⟩
    | cons hc =>
      rw [List.append_assoc] at h
      exact absurd h.symm hc.ne_quote
  | cons hc _ ih =>
    cases ht with
    | nil =>
      rw [List.append_assoc] at h
      exact absurd h hc.ne_quote
    | cons hd ht =>
      rw [List.append_assoc, List.append_assoc] at h
      obtain ⟨rfl, rfl⟩ := settles_char _ hc hd trivial trivial h
      obtain ⟨rfl, rfl⟩ := ih ht (List.append_cancel_left h)
      exact ⟨rfl, rfl⟩

theorem settles_string (a : Text) : Settles (fun _ => True) SaysString a := by
  rintro _ _ b r q ⟨hs⟩ ⟨ht⟩ _ _ h
  simp only [List.cons_append, List.append_assoc, List.cons.injEq, true_and, List.nil_append] at h
  obtain ⟨rfl, rfl⟩ := hs.unique ht h
  exact ⟨rfl, rfl⟩

/-! ### Numbers -/

/-- a number may go on with this character, up to its exponent -/
def inDecimal (c : Char) : Bool := c.isDigit || c = '.'

/-- a number may go on with this character -/
def goesOn (c : Char) : Bool := inDecimal c || c = 'e' || c = 'E'

theorem isDigit_eq_false {c : Char} (h : inDecimal c = false) : c.isDigit = false := (Bool.or_eq_false_iff.1 h).1

theorem inDecimal_eq_false {c : Char} (h : goesOn c = false) : inDecimal c = false :=
  (Bool.or_eq_false_iff.1 (Bool.or_eq_false_iff.1 h).1).1

theorem IsExponentLetter.goesOn {e : Char} (h : IsExponentLetter e) : goesOn e = true := by
  rcases h with rfl | rfl <;> rfl

theorem Whole.digit {w : Text} (h : Whole w) : Digits w := by
  cases h with
  | zero => exact ⟨by simp, by simp⟩
  | digits h => exact h

/-- digits end where the next character is none -/
theorem Digits.unique {ds es r q : Text} (hd : Digits ds) (he : Digits es) (hr : Beyond Char.isDigit r)
    (hq : Beyond Char.isDigit q) (h : ds ++ r = es ++ q) : ds = es ∧ r = q :=
  run_unique hd.digits he.digits hr hq h

/-- whatever is so of no digit is not so of what begins with digits -/
theorem Digits.beyond {p : Char → Bool} {ds r : Text} (h : Digits ds) (hp : ∀ c, c.isDigit = true → p c = false) :
    Beyond p (ds ++ r) := by
  obtain ⟨d, ds', rfl⟩ := List.exists_cons_of_ne_nil h.ne_nil
  exact beyond_cons (hp d (h.digits d List.mem_cons_self)) _

theorem Exponent.beyond {x r : Text} {n : ℤ} (h : Exponent x n) (hr : Beyond goesOn r) : Beyond inDecimal (x ++ r) := by
  cases h with
  | none => exact hr.mono fun _ => inDecimal_eq_false
  | some hl => rcases hl with rfl | rfl <;> exact beyond_cons (by decide) _

theorem Fraction.beyond {f ds r : Text} (h : Fraction f ds) (hr : Beyond Char.isDigit r) :
    Beyond Char.isDigit (f ++ r) := by
  cases h with
  | none => exact hr
  | some => exact beyond_cons (by decide) _

theorem Fraction.unique {f g ds es r q : Text} (hf : Fraction f ds) (hg : Fraction g es) (hr : Beyond inDecimal r)
    (hq : Beyond inDecimal q) (h : f ++ r = g ++ q) : f = g ∧ ds = es ∧ r = q := by
  cases hf with
  | none =>
    cases hg with
    | none => exact ⟨rfl, rfl, h⟩
    | some =>
      rw [List.nil_append] at h
      exact absurd (hr '.' (by rw [h]; rfl)) (by decide)
  | some hd =>
    cases hg with
    | none =>
      rw [List.nil_append] at h
      exact absurd (hq '.' (by rw [← h]; rfl)) (by decide)
    | some he =>
      obtain ⟨rfl, hrq⟩ := hd.unique he (hr.mono fun _ => isDigit_eq_false) (hq.mono fun _ => isDigit_eq_false)
        (List.cons.inj h).2
      exact ⟨rfl, rfl, hrq⟩

theorem Sign.unique {s t ds es r q : Text} {i j : ℤ} (hs : Sign s i) (ht : Sign t j) (hd : Digits ds)
    (he : Digits es) (h : s ++ (ds ++ r) = t ++ (es ++ q)) : s = t ∧ i = j ∧ ds ++ r = es ++ q := by
  have hsign : ∀ {s : Text} {i : ℤ}, Sign s i → ∀ c ∈ s, (c = '+' || c = '-') = true := by
    rintro _ _ (_ | _ | _) <;> simp
  have hdigit : ∀ c : Char, c.isDigit = true → (c = '+' || c = '-') = false := by
    intro c hc
    refine Bool.eq_false_iff.2 fun hn => ?_
    rw [Bool.or_eq_true, decide_eq_true_eq, decide_eq_true_eq] at hn
    rcases hn with rfl | rfl <;> exact absurd hc (by decide)
  obtain ⟨rfl, hrest⟩ := run_unique (p := fun c => c = '+' || c = '-') (hsign hs) (hsign ht) (hd.beyond hdigit)
    (he.beyond hdigit) h
  refine ⟨rfl, ?_, hrest⟩
  cases hs <;> cases ht <;> rfl

theorem Exponent.unique {x y r q : Text} {m n : ℤ} (hx : Exponent x m) (hy : Exponent y n) (hr : Beyond goesOn r)
    (hq : Beyond goesOn q) (h : x ++ r = y ++ q) : x = y ∧ m = n := by
  have hdigit : ∀ c, goesOn c = false → c.isDigit = false := fun _ hc => isDigit_eq_false (inDecimal_eq_false hc)
  cases hx with
  | none =>
    cases hy with
    | none => exact ⟨rfl, rfl⟩
    | some hl =>
      rw [List.nil_append] at h
      subst h
      exact absurd (hr _ rfl) (by simp [hl.goesOn])
  | some hl hs hd =>
    cases hy with
    | none =>
      rw [List.nil_append] at h
      subst h
      exact absurd (hq _ rfl) (by simp [hl.goesOn])
    | some hl' ht he =>
      rw [List.cons_append, List.cons_append, List.append_assoc, List.append_assoc] at h
      obtain ⟨rfl, hrest⟩ := List.cons.inj h
      obtain ⟨rfl, rfl, hdigits⟩ := hs.unique ht hd he hrest
      obtain ⟨rfl, -⟩ := hd.unique he (hr.mono hdigit) (hq.mono hdigit) hdigits
      exact ⟨rfl, rfl⟩

theorem settles_unsigned (a : ℚ) : Settles (Beyond goesOn) SaysUnsigned a := by
  -- part by part: each ends where the first character of the next one, or of what follows, cannot belong to it
  rintro _ _ _ r q ⟨hw, hf, hx⟩ ⟨hw', hf', hx'⟩ hr hq h
  have hr' := hx.beyond hr
  have hq' := hx'.beyond hq
  simp only [List.append_assoc] at h
  obtain ⟨rfl, hrest⟩ := hw.digit.unique hw'.digit (hf.beyond (hr'.mono fun _ => isDigit_eq_false))
    (hf'.beyond (hq'.mono fun _ => isDigit_eq_false)) h
  obtain ⟨rfl, rfl, hend⟩ := hf.unique hf' hr' hq' hrest
  obtain ⟨rfl, rfl⟩ := hx.unique hx' hr hq hend
  exact ⟨rfl, rfl⟩

theorem SaysUnsigned.digit {t : Text} {q : ℚ} (h : SaysUnsigned t q) : ∃ d s, t = d :: s ∧ d.isDigit = true := by
  obtain ⟨hw, -, -⟩ := h
  obtain ⟨d, ds, rfl⟩ := List.exists_cons_of_ne_nil hw.digit.ne_nil
  exact ⟨d, _, rfl, hw.digit.digits d List.mem_cons_self⟩

theorem settles_number (a : ℚ) : Settles (Beyond goesOn) SaysNumber a := by
  have hminus : ∀ {t r q : Text} {b : ℚ}, SaysUnsigned t b → t ++ r ≠ '-' :: q := by
    intro t r q b ht h
    obtain ⟨d, s, rfl, hd⟩ := ht.digit
    rw [(List.cons.inj h).1] at hd
    exact absurd hd (by decide)
  rintro _ _ _ r q (hs | hs) (ht | ht) hr hq h
  · exact settles_unsigned _ hs ht hr hq h
  · exact absurd h (hminus hs)
  · exact absurd h.symm (hminus ht)
  · obtain ⟨rfl, rfl⟩ := settles_unsigned _ hs ht hr hq (List.cons.inj h).2
    exact ⟨rfl, rfl⟩

/-! ### Lists -/

section Lists

variable {α : Type} {P : Text → α → Prop}

/-- an item of a list does not begin with this character -/
def endsItem (c : Char) : Bool := c = ',' || c = ']' || c = '\x7d'

/-- what is said by `P` begins with a character that cannot stand between two items -/
def Opens (P : Text → α → Prop) : Prop :=
  ∀ ⦃t : Text⦄ ⦃a : α⦄, P t a → ∃ c s, t = c :: s ∧ isSpace c = false ∧ endsItem c = false

theorem Opens.beyond (hP : Opens P) {t : Text} {a : α} (h : P t a) (r : Text) : Beyond isSpace (t ++ r) := by
  obtain ⟨c, s, rfl, hc, -⟩ := hP h
  exact beyond_cons hc _

/-- no number goes on with white space -/
theorem beyond_spaces {w r : Text} (hw : ∀ c ∈ w, isSpace c = true) (hr : Beyond goesOn r) : Beyond goesOn (w ++ r) := by
  cases w with
  | nil => exact hr
  | cons c w =>
    have hc := hw c List.mem_cons_self
    simp only [isSpace, Bool.or_eq_true, decide_eq_true_eq] at hc
    rcases hc with ((rfl | rfl) | rfl) | rfl <;> exact beyond_cons (by decide) _

theorem Padded.settles (hopen : Opens P) {a : α} (hP : Settles (Beyond goesOn) P a) :
    Settles (Beyond fun c => goesOn c || isSpace c) (Padded P) a := by
  rintro _ _ b r q ⟨hw, hs, hv⟩ ⟨hw', ht, hv'⟩ hr hq h
  have hnumber : ∀ c, (goesOn c || isSpace c) = false → goesOn c = false := fun c hc => (Bool.or_eq_false_iff.1 hc).1
  have hspace : ∀ c, (goesOn c || isSpace c) = false → isSpace c = false := fun c hc => (Bool.or_eq_false_iff.1 hc).2
  simp only [List.append_assoc] at h
  obtain ⟨rfl, hrest⟩ := run_unique hw hw' (hopen.beyond hs _) (hopen.beyond ht _) h
  obtain ⟨rfl, rfl⟩ := hP hs ht (beyond_spaces hv (hr.mono hnumber)) (beyond_spaces hv' (hq.mono hnumber)) hrest
  obtain ⟨rfl, -⟩ := run_unique hv hv' (hr.mono hspace) (hq.mono hspace) (List.append_cancel_left hrest)
  exact ⟨rfl, rfl⟩

theorem isSpace_of_endsItem {c : Char} (h : endsItem c = true) : isSpace c = false := by
  simp only [endsItem, Bool.or_eq_true, decide_eq_true_eq] at h
  rcases h with (rfl | rfl) | rfl <;> decide

/-- behind an item that ends, no number goes on and no space follows -/
theorem beyond_of_endsItem {c : Char} (h : endsItem c = true) (r : Text) :
    Beyond (fun c => goesOn c || isSpace c) (c :: r) := by
  simp only [endsItem, Bool.or_eq_true, decide_eq_true_eq] at h
  rcases h with (rfl | rfl) | rfl <;> exact beyond_cons (by decide) _

/-- where an item stands, the list does not end -/
theorem Padded.ne_end (hopen : Opens P) {a : α} {t w r q : Text} {x : Char} (h : Padded P t a)
    (hw : ∀ c ∈ w, isSpace c = true) (hx : endsItem x = true) : t ++ q ≠ w ++ x :: r := by
  intro e
  obtain ⟨hw', ht, -⟩ := h
  simp only [List.append_assoc] at e
  obtain ⟨rfl, hrest⟩ := run_unique hw' hw (hopen.beyond ht _) (beyond_cons (isSpace_of_endsItem hx) r) e
  obtain ⟨c, s, rfl, -, hc⟩ := hopen ht
  rw [(List.cons.inj hrest).1, hx] at hc
  exact absurd hc (by decide)

/-- **A list ends at its bracket,** and has one reading if its items do. -/
theorem Listed.unique (hopen : Opens P) {s t r q : Text} {as bs : List α} {x : Char} (hx : x = ']' ∨ x = '\x7d')
    (hP : ∀ a ∈ as, Settles (Beyond goesOn) P a) (hs : Listed P s as) (ht : Listed P t bs)
    (h : s ++ x :: r = t ++ x :: q) : s = t ∧ as = bs := by
  have hend : endsItem x = true := by rcases hx with rfl | rfl <;> rfl
  have hcomma : x ≠ ',' := by rcases hx with rfl | rfl <;> decide
  induction hs generalizing t bs with
  | none hw =>
    cases ht with
    | none hv =>
      have hspace := isSpace_of_endsItem hend
      obtain ⟨rfl, -⟩ := run_unique hw hv (beyond_cons hspace r) (beyond_cons hspace q) h
      exact ⟨rfl, rfl⟩
    | one hb => exact absurd h.symm (hb.ne_end hopen hw hend)
    | more hb =>
      rw [List.append_assoc] at h
      exact absurd h.symm (hb.ne_end hopen hw hend)
  | one ha =>
    have hsettles := Padded.settles hopen (hP _ List.mem_cons_self)
    cases ht with
    | none hv => exact absurd h (ha.ne_end hopen hv hend)
    | one hb =>
      obtain ⟨rfl, rfl⟩ := hsettles ha hb (beyond_of_endsItem hend r) (beyond_of_endsItem hend q) h
      exact ⟨rfl, rfl⟩
    | more hb =>
      rw [List.append_assoc] at h
      obtain ⟨rfl, -⟩ := hsettles ha hb (beyond_of_endsItem hend r) (beyond_of_endsItem rfl _) h
      exact absurd (List.cons.inj (List.append_cancel_left h)).1 hcomma
  | more ha _ ih =>
    have hsettles := Padded.settles hopen (hP _ List.mem_cons_self)
    rw [List.append_assoc] at h
    cases ht with
    | none hv => exact absurd h (ha.ne_end hopen hv hend)
    | one hb =>
      obtain ⟨rfl, -⟩ := hsettles ha hb (beyond_of_endsItem rfl _) (beyond_of_endsItem hend q) h
      exact absurd (List.cons.inj (List.append_cancel_left h)).1.symm hcomma
    | more hb hbs =>
      rw [List.append_assoc] at h
      obtain ⟨rfl, rfl⟩ := hsettles ha hb (beyond_of_endsItem rfl _) (beyond_of_endsItem rfl _) h
      obtain ⟨rfl, hlist⟩ := ih (fun a ha => hP a (List.mem_cons_of_mem _ ha)) hbs
        (List.cons.inj (List.append_cancel_left h)).2
      exact ⟨rfl, congrArg _ hlist⟩

theorem Member.settles (hopen : Opens P) {m : Text × α} (hP : Settles (Beyond goesOn) P m.2) :
    Settles (Beyond goesOn) (Member P) m := by
  rintro _ _ _ r q ⟨hk, hw, hv, hs⟩ ⟨hk', hw', hv', ht⟩ hr hq h
  have hcolon : ∀ t, Beyond isSpace (':' :: t) := beyond_cons (by decide)
  simp only [List.append_assoc, List.cons_append] at h
  obtain ⟨rfl, rfl⟩ := settles_string _ hk hk' trivial trivial h
  obtain ⟨rfl, hrest⟩ := run_unique hw hw' (hcolon _) (hcolon _) (List.append_cancel_left h)
  obtain ⟨rfl, hvalue⟩ := run_unique hv hv' (hopen.beyond hs r) (hopen.beyond ht q) (List.cons.inj hrest).2
  obtain ⟨rfl, rfl⟩ := hP hs ht hr hq hvalue
  exact ⟨rfl, rfl⟩

end Lists

/-! ### Values -/

/-- the character that begins the texts of a value, with a zero for every digit and for the sign of a number -/
def Value.mark : Value → Char
  | .null => 'n'
  | .bool true => 't'
  | .bool false => 'f'
  | .number _ => '0'
  | .string _ => '"'
  | .array _ => '['
  | .object _ => '\x7b'

/-- what a first character says about the value -/
def mark (c : Char) : Char := if c.isDigit || c = '-' then '0' else c

theorem Says.mark {t : Text} {v : Value} (h : Says t v) : ∃ c s, t = c :: s ∧ mark c = v.mark := by
  cases h with
  | number h =>
    cases h with
    | plus h =>
      obtain ⟨d, s, rfl, hd⟩ := h.digit
      exact ⟨d, s, rfl, by simp [Json.mark, hd, Value.mark]⟩
    | minus => exact ⟨'-', _, rfl, rfl⟩
  | string h =>
    obtain ⟨h⟩ := h
    exact ⟨'"', _, rfl, rfl⟩
  | _ => exact ⟨_, _, rfl, rfl⟩

theorem opens_value : Opens Says := by
  intro t v h
  obtain ⟨c, s, rfl, hc⟩ := h.mark
  have hmark : ∀ x ∈ [' ', '\t', '\n', '\r', ',', ']', '\x7d'], mark x = x := by simp [mark]
  have hvalue : v.mark ∉ [' ', '\t', '\n', '\r', ',', ']', '\x7d'] := by
    cases v with
    | bool b => cases b <;> decide
    | _ => simp [Value.mark]
  have hne : c ∉ [' ', '\t', '\n', '\r', ',', ']', '\x7d'] := fun hm => hvalue (by rwa [← hc, hmark c hm])
  simp only [List.mem_cons, List.not_mem_nil, or_false, not_or] at hne
  obtain ⟨h1, h2, h3, h4, h5, h6, h7⟩ := hne
  exact ⟨c, s, rfl, by simp [isSpace, h1, h2, h3, h4], by simp [endsItem, h5, h6, h7]⟩

theorem opens_member {α : Type} (P : Text → α → Prop) : Opens (Member P) := by
  rintro _ _ ⟨⟨hk⟩, -, -, -⟩
  exact ⟨'"', _, rfl, rfl, rfl⟩

theorem Says.mark_eq {s t r q : Text} {v w : Value} (hs : Says s v) (ht : Says t w) (h : s ++ r = t ++ q) :
    v.mark = w.mark := by
  obtain ⟨c, s, rfl, hc⟩ := hs.mark
  obtain ⟨d, t, rfl, hd⟩ := ht.mark
  rw [← hc, ← hd, (List.cons.inj h).1]

/-- **A value ends where it ends,** and its text says no other value. -/
theorem settles_value (v : Value) : Settles (Beyond goesOn) Says v := by
  -- the first character tells the form of the value; the values in it are settled by induction
  induction v using Value.induction with
  | null =>
    intro s t w r q hs ht _ _ h
    have hmark := hs.mark_eq ht h
    cases hs
    cases ht with
    | null => exact ⟨rfl, rfl⟩
    | _ => simp [Value.mark] at hmark
  | bool b =>
    intro s t w r q hs ht _ _ h
    have hmark := hs.mark_eq ht h
    cases hs <;> cases ht <;> first | exact ⟨rfl, rfl⟩ | simp [Value.mark] at hmark
  | number q =>
    intro s t w r q hs ht hr hq h
    have hmark := hs.mark_eq ht h
    cases hs with | number hs =>
    cases ht with
    | number ht =>
      obtain ⟨rfl, rfl⟩ := settles_number _ hs ht hr hq h
      exact ⟨rfl, rfl⟩
    | _ => simp [Value.mark] at hmark
  | string t =>
    intro s t w r q hs ht _ _ h
    have hmark := hs.mark_eq ht h
    cases hs with | string hs =>
    cases ht with
    | string ht =>
      obtain ⟨rfl, rfl⟩ := settles_string _ hs ht trivial trivial h
      exact ⟨rfl, rfl⟩
    | _ => simp [Value.mark] at hmark
  | array items ih =>
    intro s t w r q hs ht _ _ h
    have hmark := hs.mark_eq ht h
    cases hs with | array hs =>
    cases ht with
    | array ht =>
      rw [List.cons_append, List.cons_append, List.append_assoc, List.append_assoc] at h
      obtain ⟨rfl, rfl⟩ := hs.unique opens_value (.inl rfl) ih ht (List.cons.inj h).2
      exact ⟨rfl, rfl⟩
    | _ => simp [Value.mark] at hmark
  | object members ih =>
    intro s t w r q hs ht _ _ h
    have hmark := hs.mark_eq ht h
    cases hs with | object hs =>
    cases ht with
    | object ht =>
      have hmember : ∀ m ∈ members, Settles (Beyond goesOn) (Member Says) m := fun m hm =>
        Member.settles opens_value (ih m hm)
      rw [List.cons_append, List.cons_append, List.append_assoc, List.append_assoc] at h
      obtain ⟨rfl, rfl⟩ := hs.unique (opens_member Says) (.inr rfl) hmember ht (List.cons.inj h).2
      exact ⟨rfl, rfl⟩
    | _ => simp [Value.mark] at hmark

/-- **A JSON text says one value.** -/
theorem Reads.unique {t : Text} {v w : Value} (hv : Reads t v) (hw : Reads t w) : v = w :=
  (Padded.settles opens_value (settles_value v) hv hw (r := []) (q := []) (by rintro _ ⟨⟩) (by rintro _ ⟨⟩) rfl).2

/-! ## The compact form -/

mutual

/-- what a record says -/
def value : Json → Value
  | .null => .null
  | .bool b => .bool b
  | .number n => .number n
  | .string t => .string t
  | .object ms => .object (memberValues ms)

def memberValues : List (Text × Json) → List (Text × Value)
  | [] => []
  | (k, v) :: ms => (k, v.value) :: memberValues ms

end

theorem codeUnit_control {n : ℕ} (hn : n < 0x20) :
    CodeUnit (List.replicate (4 - (hexDigits n).length) '0' ++ hexDigits n) n := by
  have hall : ∀ m < 0x20, (List.replicate (4 - (hexDigits m).length) '0' ++ hexDigits m).length = 4 ∧
      ((List.replicate (4 - (hexDigits m).length) '0' ++ hexDigits m).all fun d => (CharSet.hexDigit? d).isSome) ∧
      CharSet.hexValue (List.replicate (4 - (hexDigits m).length) '0' ++ hexDigits m) = m := by
    decide
  obtain ⟨h1, h2, h3⟩ := hall n hn
  exact ⟨h1, List.all_eq_true.1 h2, h3⟩

theorem saysChar_escapeChar (c : Char) : SaysChar (escapeChar c) c := by
  unfold escapeChar
  split
  case h_8 hq hb _ _ _ _ _ =>
    split_ifs with hc
    · exact .escaped (.code (codeUnit_control hc))
    · exact .plain _ (Nat.le_of_not_lt hc) hq hb
  all_goals exact .escaped (.letter (by decide))

theorem saysString_escape (t : Text) : SaysString (escape t) t := by
  refine .quoted ?_
  induction t with
  | nil => exact .nil
  | cons c t ih => exact .cons (saysChar_escapeChar c) ih

/-- the digits of a number that is not zero do not begin with one -/
theorem head?_toDigits_ne {n : ℕ} (hn : n ≠ 0) : (Nat.toDigits 10 n).head? ≠ some '0' := by
  induction n using Nat.strong_induction_on with
  | _ n ih =>
    rw [Nat.toDigits_eq_if (by decide)]
    split_ifs with hlt
    · interval_cases n <;> first | exact absurd rfl hn | decide
    · have hdiv : n / 10 ≠ 0 := by omega
      rw [List.head?_append_of_ne_nil _ Nat.toDigits_ne_nil]
      exact ih (n / 10) (by omega) hdiv

theorem whole_ofNat (n : ℕ) : Whole (ofNat n) := by
  rcases Nat.eq_zero_or_pos n with rfl | hn
  · exact .zero
  · have hd : Digits (ofNat n) := ⟨Nat.toDigits_ne_nil, fun c hc => Nat.isDigit_of_mem_toDigits (by decide) (by decide) hc⟩
    exact .digits hd (head?_toDigits_ne hn.ne')

theorem saysNumber_ofNat (n : ℕ) : SaysNumber (ofNat n) n := by
  have h := SaysUnsigned.parts (whole_ofNat n) .none .none
  have hvalue : value10 (ofNat n) = n := Nat.ofDigitChars_toDigits (by decide) (by decide)
  simp only [List.append_nil, hvalue, List.length_nil, Nat.cast_zero, sub_zero, zpow_zero, mul_one] at h
  exact .plus h

theorem padded {α : Type} {P : Text → α → Prop} {t : Text} {a : α} (h : P t a) : Padded P t a := by
  simpa using Padded.mk (w := []) (v := []) (by simp) h (by simp)

mutual

/-- **The compact form of a record says the record.** -/
theorem says_render : ∀ j : Json, Says j.render j.value
  | .null => .null
  | .bool true => .true
  | .bool false => .false
  | .number n => .number (saysNumber_ofNat n)
  | .string t => .string (saysString_escape t)
  | .object ms => .object (listed_renderMembers ms)

theorem listed_renderMembers : ∀ ms : List (Text × Json), Listed (Member Says) (renderMembers ms) (memberValues ms)
  | [] => .none (by simp [renderMembers])
  | [(k, v)] => .one (padded (.mk (w := []) (v := []) (saysString_escape k) (by simp) (by simp) (says_render v)))
  | (k, v) :: m :: ms => by
    have hm : Padded (Member Says) (escape k ++ ':' :: v.render) (k, v.value) :=
      padded (.mk (w := []) (v := []) (saysString_escape k) (by simp) (by simp) (says_render v))
    simpa [renderMembers, memberValues] using Listed.more hm (listed_renderMembers (m :: ms))

end

/-- whoever reads the compact form of a record finds the record -/
theorem reads_render_iff {j : Json} {v : Value} : Reads j.render v ↔ v = j.value :=
  ⟨fun h => h.unique (padded (says_render j)), fun h => h ▸ padded (says_render j)⟩

end CrawlFilter.Text.Json
