/-
Edits of a list of rules, and what they do to decisions. A rule answers for the rules behind it: where it decides about
a URL its action is the answer, and elsewhere the answer is theirs. So a list of rules is a chain of answers with a
rejection at its end, and an edit is judged by the answers of the rules that it touches.

- `evaluate_accepted_eq`: a decision is the answer of the whole chain.
- `answer_comm` / `answer_behind` / `answers_false`: rules with one action in either order; a rule behind one that
  decides wherever it does; rules that reject at the end of a list.
- `answers_mono`: a chain keeps the order of the answers behind it, so a rule that accepts can only turn a rejection
  into an acceptance, and a rule that rejects the other way.
- `answers_of_neutral` / `answers_of_chain`: one edit of a kind that is neutral, and any number of them.
- `decide_under_edits`: decisions under neutral edits and under insertions.
-/
import CrawlFilter.Proofs.FirstMatch
import CrawlFilter.Proofs.Outcomes

namespace CrawlFilter.Engine

/-! ## Decisions as chains of answers -/

/-- what a rule answers about a URL, given the answer of the rules behind it -/
def answer (resolver : Resolver) (url : Text) (r : Rule) (behind : Bool) : Bool :=
  if decidesBy resolver url r then r.action.sign else behind

/-- what rules answer one behind the other, given the answer behind the last of them -/
def answers (resolver : Resolver) (url : Text) (rules : List Rule) (behind : Bool) : Bool :=
  rules.foldr (answer resolver url) behind

variable {resolver : Resolver} {url : Text}

theorem answer_of_decidesBy {r : Rule} (h : decidesBy resolver url r = true) (behind : Bool) :
    answer resolver url r behind = r.action.sign := by
  rw [answer, if_pos h]

theorem answer_of_not_decidesBy {r : Rule} (h : ¬ decidesBy resolver url r = true) (behind : Bool) :
    answer resolver url r behind = behind := by
  rw [answer, if_neg h]

@[simp] theorem answers_cons (r : Rule) (rules : List Rule) (behind : Bool) :
    answers resolver url (r :: rules) behind = answer resolver url r (answers resolver url rules behind) := rfl

@[simp] theorem answers_append (ra rb : List Rule) (behind : Bool) :
    answers resolver url (ra ++ rb) behind = answers resolver url ra (answers resolver url rb behind) :=
  List.foldr_append

/-- **A decision** is what the rules answer with a rejection behind them. -/
theorem evaluate_accepted_eq (rules : List Rule) :
    ((Engine.mk rules resolver).evaluate url).accepted = answers resolver url rules false := by
  rw [evaluate_accepted]
  induction rules with
  | nil => rfl
  | cons r rules ih =>
    rw [answers_cons, ← ih]
    by_cases h : decidesBy resolver url r = true
    · simp [answer_of_decidesBy h, List.find?_cons_of_pos h]
    · simp [answer_of_not_decidesBy h, List.find?_cons_of_neg h]

/-! ## Neutral edits -/

theorem answer_comm {r s : Rule} (h : r.action = s.action) (behind : Bool) :
    answer resolver url r (answer resolver url s behind) = answer resolver url s (answer resolver url r behind) := by
  unfold answer
  rw [h]
  split_ifs <;> rfl

/-- a rule is never asked behind one that decides wherever it does -/
theorem answer_behind {first r : Rule} (h : decidesBy resolver url r = true → decidesBy resolver url first = true)
    (rb : List Rule) (behind : Bool) :
    answer resolver url first (answers resolver url rb (answer resolver url r behind)) =
      answer resolver url first (answers resolver url rb behind) := by
  by_cases hf : decidesBy resolver url first = true
  · rw [answer_of_decidesBy hf, answer_of_decidesBy hf]
  · have hr : ¬ decidesBy resolver url r = true := mt h hf
    rw [answer_of_not_decidesBy hr]

theorem answers_false {rules : List Rule} (h : ∀ r ∈ rules, r.action = .reject) :
    answers resolver url rules false = false := by
  induction rules with
  | nil => rfl
  | cons r rules ih =>
    have hr := h r List.mem_cons_self
    have hrules := ih fun s hs => h s (List.mem_cons_of_mem r hs)
    rw [answers_cons, hrules, answer, hr]
    split_ifs <;> rfl

/-- of two rules that were compiled from one text, the one that is for all hosts or for the same decides wherever the
other does -/
theorem decidesBy_of_compile {f : Flavor} {t : Text} {a a' : Action} {scope scope' : Option Text} {first r : Rule}
    (hfirst : Rule.compile f a t scope = .ok first) (hr : Rule.compile f a' t scope' = .ok r)
    (hscope : scope = scope' ∨ scope = none) (h : decidesBy resolver url r = true) :
    decidesBy resolver url first = true := by
  obtain ⟨p, hp, rfl⟩ := except_map_eq_ok.1 hfirst
  obtain ⟨q, hq, rfl⟩ := except_map_eq_ok.1 hr
  have hpq : q = p := Except.ok.inj (hq.symm.trans hp)
  subst hpq
  rw [decidesBy_iff] at h ⊢
  rcases hscope with rfl | rfl
  · exact h
  · exact ⟨Or.inl rfl, h.2⟩

/-- an edit of a list of rules that no decision notices -/
inductive Neutral : List Rule → List Rule → Prop where
  /-- neighbours with the same action change places -/
  | swap (ra rc : List Rule) {r s : Rule} (h : r.action = s.action) :
      Neutral (ra ++ r :: s :: rc) (ra ++ s :: r :: rc)
  /-- a rule is deleted that was compiled from the text of a rule before it, which has the same scope or none -/
  | repeated (ra rb rc : List Rule) (f : Flavor) (t : Text) {a a' : Action} {scope scope' : Option Text}
      {first r : Rule} (hfirst : Rule.compile f a t scope = .ok first) (hr : Rule.compile f a' t scope' = .ok r)
      (hscope : scope = scope' ∨ scope = none) :
      Neutral (ra ++ first :: (rb ++ r :: rc)) (ra ++ first :: (rb ++ rc))
  /-- of the rules behind the last one that accepts, some are deleted -/
  | trailing (ra : List Rule) {rb kept : List Rule} (hrb : ∀ r ∈ rb, r.action = .reject) (hkept : kept.Sublist rb) :
      Neutral (ra ++ rb) (ra ++ kept)

theorem answers_of_neutral {rules rules' : List Rule} (h : Neutral rules rules') :
    answers resolver url rules' false = answers resolver url rules false := by
  cases h with
  | swap ra rc h => simp only [answers_append, answers_cons, answer_comm h]
  | repeated ra rb rc f t hfirst hr hscope =>
    simp only [answers_append, answers_cons]
    rw [answer_behind (decidesBy_of_compile hfirst hr hscope)]
  | @trailing ra rb kept hrb hkept =>
    have hk : answers resolver url kept false = false := answers_false fun r hr => hrb r (hkept.subset hr)
    rw [answers_append, answers_append, hk, answers_false hrb]

theorem answers_of_chain {rules rules' : List Rule} (h : Relation.ReflTransGen Neutral rules rules') :
    answers resolver url rules' false = answers resolver url rules false := by
  induction h with
  | refl => rfl
  | tail _ hlast ih => rw [answers_of_neutral hlast, ih]

/-! ## Insertions -/

theorem answer_mono (r : Rule) {x y : Bool} (h : x ≤ y) : answer resolver url r x ≤ answer resolver url r y := by
  unfold answer
  split_ifs
  · exact le_rfl
  · exact h

theorem answers_mono (rules : List Rule) {x y : Bool} (h : x ≤ y) :
    answers resolver url rules x ≤ answers resolver url rules y := by
  induction rules with
  | nil => exact h
  | cons r rules ih => exact answer_mono r ih

theorem le_answer {r : Rule} (h : r.action = .accept) (behind : Bool) : behind ≤ answer resolver url r behind := by
  rw [answer, h]
  split_ifs
  · exact Bool.le_true behind
  · exact le_rfl

theorem answer_le {r : Rule} (h : r.action = .reject) (behind : Bool) : answer resolver url r behind ≤ behind := by
  rw [answer, h]
  split_ifs
  · exact Bool.false_le behind
  · exact le_rfl

theorem le_answers_insert (ra rc : List Rule) {r : Rule} (h : r.action = .accept) (behind : Bool) :
    answers resolver url (ra ++ rc) behind ≤ answers resolver url (ra ++ r :: rc) behind := by
  rw [answers_append, answers_append, answers_cons]
  exact answers_mono ra (le_answer h _)

theorem answers_insert_le (ra rc : List Rule) {r : Rule} (h : r.action = .reject) (behind : Bool) :
    answers resolver url (ra ++ r :: rc) behind ≤ answers resolver url (ra ++ rc) behind := by
  rw [answers_append, answers_append, answers_cons]
  exact answers_mono ra (answer_le h _)

/-- **Decisions under edits.** No decision changes when two neighbours with one action change places, when a rule goes
whose pattern stands in a rule before it that has the same scope or none, or when rules go that reject at the end of the
list, nor when any number of such edits are made one after the other. A rule that accepts may be inserted anywhere
without a URL being rejected for it, and a rule that rejects without a URL being accepted. -/
theorem decide_under_edits (resolver : Resolver) (url : Text) (parent : Option Text) :
    let accepts (rules : List Rule) : Bool := (Engine.mk rules resolver).decide url parent
    (∀ rules rules', Relation.ReflTransGen Neutral rules rules' → accepts rules' = accepts rules) ∧
    (∀ ra rc r, r.action = .accept → accepts (ra ++ rc) = true → accepts (ra ++ r :: rc) = true) ∧
    (∀ ra rc r, r.action = .reject → accepts (ra ++ rc) = false → accepts (ra ++ r :: rc) = false) := by
  intro accepts
  have hanswers : ∀ rules, accepts rules = answers resolver url rules false := fun rules => evaluate_accepted_eq rules
  simp only [hanswers]
  refine ⟨fun rules rules' h => answers_of_chain h, ?_, ?_⟩
  · intro ra rc r hr h
    exact Bool.le_iff_imp.1 (le_answers_insert ra rc hr false) h
  · intro ra rc r hr h
    apply Bool.eq_false_of_le_false
    calc answers resolver url (ra ++ r :: rc) false
        ≤ answers resolver url (ra ++ rc) false := answers_insert_le ra rc hr false
      _ = false := h

/-- Behind a rule for all hosts, the same pattern for one host and a rejection at the end of the list may go. Without
the first rule the URL is rejected; another rejection does not change that, and the first rule does not lose its URL to
a rule that accepts. -/
theorem decide_under_edits_shop :
    let accepts (rules : List Rule) : Bool :=
      (Engine.mk rules (.fixed (some "shop.example.com".toList) (some "example.com".toList))).decide
        "http://shop.example.com/a".toList none
    ∃ first r last : Rule,
      Rule.compile .basic .accept "/a".toList none = .ok first ∧
      Rule.compile .basic .reject "/a".toList (some "shop.example.com".toList) = .ok r ∧
      Rule.compile .basic .reject "shop".toList (some "example.com".toList) = .ok last ∧
      accepts [first] = accepts [first, r, last] ∧
      (accepts [first, r, last] = true ∧ accepts [first, first, r, last] = true) ∧
      (accepts [r, last] = false ∧ accepts [r, last, last] = false) := by
  intro accepts
  refine ⟨_, _, _, rfl, rfl, rfl, ?_⟩
  obtain ⟨hneutral, haccept, hreject⟩ := decide_under_edits
    (.fixed (some "shop.example.com".toList) (some "example.com".toList)) "http://shop.example.com/a".toList none
  refine ⟨hneutral _ _ ?_, ⟨by decide, haccept [_] [_, _] _ rfl (by decide)⟩, by decide, hreject [_] [_] _ rfl (by decide)⟩
  have hlast : ∀ r s t : Rule, t.action = .reject → Neutral [r, s, t] [r, s] := fun r s t ht =>
    .trailing [r, s] (List.forall_mem_singleton.2 ht) (List.nil_sublist [t])
  exact (Relation.ReflTransGen.single (hlast _ _ _ rfl)).tail
    (.repeated [] [] [] .basic "/a".toList rfl rfl (.inr rfl))

end CrawlFilter.Engine
