/-
Requests by place. Whoever knows the place of a byte, of an item or of a stretch of text can ask for what is there, and
the request fails if there is no such thing: an item outside the list, a stretch that ends before it begins or beyond the
end, a cut of a text inside a character, a number taken from a smaller one. A failed request ends the whole computation.
-/
import CrawlFilter.Text

namespace CrawlFilter

/-- why a request fails -/
inductive Fault where
  /-- the list or the text ends before the place -/
  | outOfRange
  /-- a stretch ends before it begins -/
  | backwards
  /-- the place is inside a character -/
  | insideCharacter
  /-- the number is smaller than what is taken from it -/
  | belowZero
  deriving DecidableEq, Repr

/-- a computation that asks for things by their places -/
abbrev Access (α : Type) := Except Fault α

namespace Access

variable {α β : Type}

@[simp] theorem ok_bind (a : α) (f : α → Access β) : (Except.ok a >>= f) = f a := rfl

/-- the item at a place -/
def item (l : List α) (i : Nat) : Access α :=
  match l[i]? with
  | some a => .ok a
  | none => .error .outOfRange

/-- the items from place `a` up to place `b` -/
def items (l : List α) (a b : Nat) : Access (List α) :=
  if b < a then .error .backwards
  else if l.length < b then .error .outOfRange
  else .ok ((l.take b).drop a)

def minus (a b : Nat) : Access Nat :=
  if b ≤ a then .ok (a - b) else .error .belowZero

/-- a text in two parts, the first of which has `n` bytes -/
def cut : Text → Nat → Access (Text × Text)
  | t, 0 => .ok ([], t)
  | [], _ + 1 => .error .outOfRange
  | c :: cs, n + 1 =>
    if n + 1 < c.utf8Size then .error .insideCharacter
    else (cut cs (n + 1 - c.utf8Size)).map fun (s, u) => (c :: s, u)

/-- the text from a place on -/
def textFrom (t : Text) (a : Nat) : Access Text := do
  let (_, u) ← cut t a
  pure u

/-- the text from place `a` up to place `b` -/
def textBetween (t : Text) (a b : Nat) : Access Text := do
  if b < a then throw .backwards
  let (s, _) ← cut t b
  textFrom s a

end Access

end CrawlFilter
