/-
Which rule decides about a URL: the first in the list that is in scope and describes it, as `List.find?` and
`List.findIdx?` find it. The events on the way to a decision have no part in it.

- `evaluate_rule` / `evaluate_accepted`: the index of the deciding rule, and its decision.
- `evaluate_first_match`: the same rule by rule, without a search: the deciding rule matches and none before it does.
- `sameRule_evaluate` / `accepted_evaluate_middle`: a stretch of rules none of which decides about a URL may be
  exchanged for another such stretch; the same rule decides, and the same way.
- `accepted_evaluate_filter`: rules that do not decide about a URL may be left out.
-/
import Mathlib.Tactic
import CrawlFilter.Engine

namespace CrawlFilter.Engine

/-- whether a rule decides about a URL with this host and this domain, if it gets its turn -/
def decides (url : Text) (host domain : Option Text) (r : Rule) : Bool :=
  r.inScope host domain && r.describes url

theorem value_tryFrom_cons (url : Text) (host domain : Option Text) (n : ℕ) (r : Rule) (rs : List Rule) :
    (tryFrom url host domain n (r :: rs)).value =
      if decides url host domain r then ⟨r.action.sign, some n⟩ else (tryFrom url host domain (n + 1) rs).value := by
  unfold decides
  rw [tryFrom]
  cases r.inScope host domain <;> cases r.describes url <;> rfl

theorem rule_tryFrom (url : Text) (host domain : Option Text) (n : ℕ) (rs : List Rule) :
    (tryFrom url host domain n rs).value.rule = (rs.findIdx? (decides url host domain)).map (· + n) := by
  induction rs generalizing n with
  | nil => rfl
  | cons r rs ih =>
    rw [value_tryFrom_cons, List.findIdx?_cons]
    split_ifs
    · simp
    · rw [ih, Option.map_map]
      congr 1
      funext i
      simp only [Function.comp_apply]
      omega

theorem accepted_tryFrom (url : Text) (host domain : Option Text) (n : ℕ) (rs : List Rule) :
    (tryFrom url host domain n rs).value.accepted =
      (rs.find? (decides url host domain)).elim false (·.action.sign) := by
  induction rs generalizing n with
  | nil => rfl
  | cons r rs ih =>
    rw [value_tryFrom_cons, List.find?_cons]
    cases decides url host domain r
    · exact ih (n + 1)
    · rfl

/-- whether a rule decides about a URL for an engine that asks this resolver -/
def decidesBy (resolver : Resolver) (url : Text) (r : Rule) : Bool :=
  decides url (resolver.host url) (resolver.domain url).toOption r

theorem evaluate_eq (e : Engine) (url : Text) :
    e.evaluate url = (tryFrom url (e.resolver.host url) (e.resolver.domain url).toOption 0 e.rules).value := by
  unfold evaluate consult locate
  cases e.resolver.domain url <;> rfl

/-- **The deciding rule** is the first that is in scope and describes the URL. -/
theorem evaluate_rule (e : Engine) (url : Text) :
    (e.evaluate url).rule = e.rules.findIdx? (decidesBy e.resolver url) := by
  rw [evaluate_eq, rule_tryFrom]
  simp only [Nat.add_zero, Option.map_id']
  rfl

theorem rule_lt_length {e : Engine} {url : Text} {i : ℕ} (h : (e.evaluate url).rule = some i) : i < e.rules.length := by
  rw [evaluate_rule] at h
  obtain ⟨hi, -⟩ := List.findIdx?_eq_some_iff_getElem.1 h
  exact hi

theorem evaluate_accepted (e : Engine) (url : Text) :
    (e.evaluate url).accepted = (e.rules.find? (decidesBy e.resolver url)).elim false (·.action.sign) := by
  rw [evaluate_eq, accepted_tryFrom]
  rfl

/-! ## First match -/

/-- a rule is for a URL with this host and this domain, and its pattern describes the URL -/
def Matches (host domain : Option Text) (url : Text) (r : Rule) : Prop :=
  (r.scope = none ∨ ∃ s, r.scope = some s ∧ (host = some s ∨ domain = some s)) ∧ r.describes url = true

theorem decidesBy_iff {resolver : Resolver} {url : Text} {r : Rule} :
    decidesBy resolver url r = true ↔ Matches (resolver.host url) (resolver.domain url).toOption url r := by
  rw [decidesBy, decides, Bool.and_eq_true, Rule.inScope_iff, Matches]

theorem decidesBy_eq_false_iff {resolver : Resolver} {url : Text} {r : Rule} :
    decidesBy resolver url r = false ↔ ¬ Matches (resolver.host url) (resolver.domain url).toOption url r := by
  rw [← decidesBy_iff, Bool.not_eq_true]

/-- the decision is that of the rule with the index that it names -/
theorem accepted_of_rule {e : Engine} {url : Text} {i : ℕ} (hi : i < e.rules.length)
    (h : (e.evaluate url).rule = some i) : (e.evaluate url).accepted = e.rules[i].action.sign := by
  rw [evaluate_rule, List.findIdx?_eq_some_iff_getElem] at h
  obtain ⟨_, hm, hbefore⟩ := h
  have hfind : e.rules.find? (decidesBy e.resolver url) = some e.rules[i] :=
    List.find?_eq_some_iff_getElem.2 ⟨hm, i, hi, rfl, fun j hj => by simpa using hbefore j hj⟩
  rw [evaluate_accepted, hfind]
  rfl

theorem decidesBy_of_rule {e : Engine} {url : Text} {i : ℕ} (hi : i < e.rules.length)
    (h : (e.evaluate url).rule = some i) : decidesBy e.resolver url e.rules[i] = true := by
  rw [evaluate_rule, List.findIdx?_eq_some_iff_getElem] at h
  exact h.2.1

/-- without a deciding rule the URL is rejected -/
theorem accepted_of_rule_none {e : Engine} {url : Text} (h : (e.evaluate url).rule = none) :
    (e.evaluate url).accepted = false := by
  rw [evaluate_rule, List.findIdx?_eq_none_iff] at h
  have hfind : e.rules.find? (decidesBy e.resolver url) = none :=
    List.find?_eq_none.2 fun r hr => Bool.eq_false_iff.1 (h r hr)
  rw [evaluate_accepted, hfind]
  rfl

/-- **First match decides.** The deciding rule is the one that matches while none before it does, and its action is the
decision; no rule decides exactly if none matches, and then the URL is rejected. A domain that cannot be had counts as
absent, and the page on which a URL was found has no say. -/
theorem evaluate_first_match (rules : List Rule) (resolver : Resolver) (url : Text) :
    let decision := (Engine.mk rules resolver).evaluate url
    let Hit := Matches (resolver.host url) (resolver.domain url).toOption url
    (∀ i, decision.rule = some i ↔
      ∃ h : i < rules.length, Hit rules[i] ∧ ∀ j (_ : j < i), ¬ Hit rules[j]) ∧
    (∀ i (h : i < rules.length), decision.rule = some i → decision.accepted = rules[i].action.sign) ∧
    (decision.rule = none ↔ ∀ r ∈ rules, ¬ Hit r) ∧
    (decision.rule = none → decision.accepted = false) ∧
    ∀ parent, (Engine.mk rules resolver).decide url parent = decision.accepted := by
  intro decision Hit
  have hrule : decision.rule = rules.findIdx? (decidesBy resolver url) := evaluate_rule _ url
  refine ⟨fun i => ?_, fun i h => accepted_of_rule h, ?_, accepted_of_rule_none, fun _ => rfl⟩
  · rw [hrule, List.findIdx?_eq_some_iff_getElem]
    simp only [decidesBy_iff, Hit]
  · rw [hrule, List.findIdx?_eq_none_iff]
    exact forall₂_congr fun r _ => decidesBy_eq_false_iff

/-- with a host and no domain, the rule for the domain is passed over and the one for the host decides -/
theorem evaluate_first_match_host_only :
    let e : Engine := ⟨[⟨.accept, ⟨[], .empty⟩, some "example.com".toList⟩,
      ⟨.reject, ⟨[], .empty⟩, some "shop.example.com".toList⟩, ⟨.accept, ⟨[], .empty⟩, none⟩],
      .fixed (some "shop.example.com".toList) none⟩
    (e.evaluate "http://shop.example.com/".toList).rule = some 1 ∧
      (e.evaluate "http://shop.example.com/".toList).accepted = false := by
  intro e
  have hrule : (e.evaluate "http://shop.example.com/".toList).rule = some 1 := by decide
  exact ⟨hrule, (evaluate_first_match e.rules e.resolver _).2.1 1 (by decide) hrule⟩

/-! ## A stretch of rules that decides nothing -/

/-- the same rule decides in two lists that agree on their first `a` and their last `c` rules and differ between them,
where the one has `b₁` rules and the other `b₂` -/
inductive SameRule (a b₁ b₂ c : ℕ) : Option ℕ → Option ℕ → Prop where
  | byDefault : SameRule a b₁ b₂ c none none
  | before (i : ℕ) (h : i < a) : SameRule a b₁ b₂ c (some i) (some i)
  | after (j : ℕ) (h : j < c) : SameRule a b₁ b₂ c (some (a + b₁ + j)) (some (a + b₂ + j))

variable {resolver : Resolver} {url : Text} {ra rc m m₁ m₂ : List Rule}

theorem rule_evaluate_middle (h : ∀ r ∈ m, decidesBy resolver url r = false) :
    ((Engine.mk (ra ++ m ++ rc) resolver).evaluate url).rule =
      (ra.findIdx? (decidesBy resolver url)).or
        ((rc.findIdx? (decidesBy resolver url)).map (· + (ra.length + m.length))) := by
  have hm : m.findIdx? (decidesBy resolver url) = none := List.findIdx?_eq_none_iff.2 h
  rw [evaluate_rule, List.findIdx?_append, List.findIdx?_append, hm]
  simp

theorem accepted_evaluate_middle (h : ∀ r ∈ m, decidesBy resolver url r = false) :
    ((Engine.mk (ra ++ m ++ rc) resolver).evaluate url).accepted =
      ((ra.find? (decidesBy resolver url)).or (rc.find? (decidesBy resolver url))).elim false (·.action.sign) := by
  have hm : m.find? (decidesBy resolver url) = none :=
    List.find?_eq_none.2 fun r hr => by rw [h r hr]; decide
  rw [evaluate_accepted, List.find?_append, List.find?_append, hm, Option.or_none]

/-- rules that do not decide about a URL may be left out -/
theorem accepted_evaluate_filter {rules : List Rule} {p : Rule → Bool}
    (h : ∀ r ∈ rules, decidesBy resolver url r = true → p r = true) :
    ((Engine.mk (rules.filter p) resolver).evaluate url).accepted =
      ((Engine.mk rules resolver).evaluate url).accepted := by
  have hfind : (rules.filter p).find? (decidesBy resolver url) = rules.find? (decidesBy resolver url) := by
    rw [List.find?_filter]
    refine List.find?_congr fun r hr => ?_
    cases hd : decidesBy resolver url r with
    | false => simp
    | true => simp [h r hr hd]
  rw [evaluate_accepted, evaluate_accepted, hfind]

theorem sameRule_evaluate (h₁ : ∀ r ∈ m₁, decidesBy resolver url r = false)
    (h₂ : ∀ r ∈ m₂, decidesBy resolver url r = false) :
    SameRule ra.length m₁.length m₂.length rc.length
      ((Engine.mk (ra ++ m₁ ++ rc) resolver).evaluate url).rule
      ((Engine.mk (ra ++ m₂ ++ rc) resolver).evaluate url).rule := by
  rw [rule_evaluate_middle h₁, rule_evaluate_middle h₂]
  cases ha : ra.findIdx? (decidesBy resolver url) with
  | some i =>
    obtain ⟨hi, -⟩ := List.findIdx?_eq_some_iff_getElem.1 ha
    exact .before i hi
  | none =>
    cases hc : rc.findIdx? (decidesBy resolver url) with
    | some j =>
      obtain ⟨hj, -⟩ := List.findIdx?_eq_some_iff_getElem.1 hc
      simp only [Option.none_or, Option.map_some]
      rw [Nat.add_comm j, Nat.add_comm j]
      exact .after j hj
    | none => exact .byDefault

end CrawlFilter.Engine
