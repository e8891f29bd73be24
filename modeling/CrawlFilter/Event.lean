/-
What the filter reports about its work, as values. A computation that reports returns its result
together with the events, in order.
-/
import CrawlFilter.Resolver
import CrawlFilter.Rule
import CrawlFilter.Text.Quoted

namespace CrawlFilter

/-- how much detail an event is -/
inductive Level where
  | debug
  | trace
  deriving DecidableEq, Repr

inductive Event where
  /-- a rule line was read, its pattern not yet compiled -/
  | addingRule (pattern : Text) (scope : Option Text)
  /-- a rule file was read to its end -/
  | parsedRules (count : Nat)
  /-- the rules of a source were compiled -/
  | loadedRules (count : Nat) (source : Text) (flavor : Flavor)
  /-- a suffix list was read -/
  | loadedSuffixes (count : Nat) (path : Text)
  /-- an engine has its rules -/
  | engineReady (count : Nat)
  /-- a URL has no domain -/
  | noDomain (e : MalformedUrl)
  /-- host and domain of a URL -/
  | located (host domain : Option Text)
  /-- a rule is for other hosts -/
  | skipped (pattern : Text) (scope : Option Text)
  /-- a rule is compared with the URL -/
  | applied (pattern : Text) (host domain : Option Text)
  deriving DecidableEq, Repr

namespace Event

def level : Event → Level
  | .addingRule .. | .skipped .. | .applied .. => .trace
  | _ => .debug

def message : Event → Text
  | .addingRule p s => "Adding rule [".toList ++ p ++ "] for ".toList ++ Text.quoteOption s
  | .parsedRules n => "Parsed ".toList ++ Text.ofNat n ++ " rules".toList
  | .loadedRules n name f =>
    "Loaded ".toList ++ Text.ofNat n ++ " rules from ".toList ++ name ++ " (".toList ++ f.name ++ " flavor)".toList
  | .loadedSuffixes n path => "Loaded ".toList ++ Text.ofNat n ++ " suffix rules from ".toList ++ path
  | .engineReady n => "Filter engine initialized with ".toList ++ Text.ofNat n ++ " rules".toList
  | .noDomain e => e.message ++ "; scoping by host only".toList
  | .located h d =>
    "URL belongs to host ".toList ++ Text.quoteOption h ++ " and domain ".toList ++ Text.quoteOption d
  | .skipped p s => "Skipping rule [".toList ++ p ++ "] for host: ".toList ++ s.getD []
  | .applied p h d =>
    "Applying rule [".toList ++ p ++ "] for host: ".toList ++ Text.quoteOption h ++ " and domain ".toList ++
      Text.quoteOption d

end Event

/-- a result and the events on the way to it -/
structure Logged (α : Type) where
  value : α
  events : List Event

namespace Logged

instance : Monad Logged where
  pure a := ⟨a, []⟩
  map f x := ⟨f x.value, x.events⟩
  bind x f := ⟨(f x.value).value, x.events ++ (f x.value).events⟩

instance : LawfulMonad Logged := LawfulMonad.mk' Logged
  (fun _ => rfl) (fun _ _ => rfl)
  (fun x f g => by simp [bind, List.append_assoc])
  (fun _ _ => rfl) (fun _ _ => rfl) (fun _ _ => rfl)
  (fun f x => by simp [bind, pure, Functor.map])

/-- reports one event -/
def log (e : Event) : Logged Unit := ⟨(), [e]⟩

@[simp] theorem value_pure {α : Type} (a : α) : (pure a : Logged α).value = a := rfl

@[simp] theorem events_pure {α : Type} (a : α) : (pure a : Logged α).events = [] := rfl

@[simp] theorem value_map {α β : Type} (f : α → β) (x : Logged α) : (f <$> x).value = f x.value := rfl

@[simp] theorem events_map {α β : Type} (f : α → β) (x : Logged α) : (f <$> x).events = x.events := rfl

@[simp] theorem value_bind {α β : Type} (x : Logged α) (f : α → Logged β) :
    (x >>= f).value = (f x.value).value := rfl

@[simp] theorem events_bind {α β : Type} (x : Logged α) (f : α → Logged β) :
    (x >>= f).events = x.events ++ (f x.value).events := rfl

@[simp] theorem value_log (e : Event) : (log e).value = () := rfl

@[simp] theorem events_log (e : Event) : (log e).events = [e] := rfl

end Logged

end CrawlFilter
