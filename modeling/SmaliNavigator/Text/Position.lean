/-!
Positions and spans in a document. Lines and columns count from zero, and a column counts bytes.
-/

set_option autoImplicit false

namespace SmaliNavigator

/-- A place between two characters. Positions are ordered by line, then by column. -/
structure Position where
  line : Nat
  col : Nat
  deriving DecidableEq, Repr, Inhabited

namespace Position

def right (p : Position) (n : Nat) : Position :=
  ⟨p.line,p.col + n⟩

protected def Le (p q : Position) : Prop :=
  p.line < q.line ∨ p.line = q.line ∧ p.col ≤ q.col

protected def Lt (p q : Position) : Prop :=
  p.line < q.line ∨ p.line = q.line ∧ p.col < q.col

instance : LE Position := ⟨Position.Le⟩
instance : LT Position := ⟨Position.Lt⟩

instance (p q : Position) : Decidable (p ≤ q) :=
  inferInstanceAs (Decidable (p.line < q.line ∨ p.line = q.line ∧ p.col ≤ q.col))

instance (p q : Position) : Decidable (p < q) :=
  inferInstanceAs (Decidable (p.line < q.line ∨ p.line = q.line ∧ p.col < q.col))

theorem le_def (p q : Position) :
    p ≤ q ↔ p.line < q.line ∨ p.line = q.line ∧ p.col ≤ q.col := Iff.rfl

theorem lt_def (p q : Position) :
    p < q ↔ p.line < q.line ∨ p.line = q.line ∧ p.col < q.col := Iff.rfl

theorem le_refl (p : Position) : p ≤ p := .inr ⟨rfl,Nat.le_refl _⟩

theorem le_trans {p q r : Position} (h : p ≤ q) (h' : q ≤ r) : p ≤ r := by
  simp only [le_def] at *
  omega

theorem lt_of_lt_of_le {p q r : Position} (h : p < q) (h' : q ≤ r) : p < r := by
  simp only [lt_def, le_def] at *
  omega

end Position

structure Span where
  start : Position
  stop : Position
  deriving DecidableEq, Repr, Inhabited

namespace Span

def origin : Span := ⟨⟨0,0⟩,⟨0,0⟩⟩

def within (line start stop : Nat) : Span :=
  ⟨⟨line,start⟩,⟨line,stop⟩⟩

def point (p : Position) : Span := ⟨p,p⟩

/-- Whether a position is in the span or at one of its two ends. -/
def contains (s : Span) (p : Position) : Bool :=
  s.start ≤ p && p ≤ s.stop

/-- Whether the character that follows a position is in the span. -/
def covers (s : Span) (p : Position) : Bool :=
  s.start ≤ p && p < s.stop

def isSingleLine (s : Span) : Bool :=
  s.start.line == s.stop.line

def render (s : Span) : String :=
  s!"{s.start.line + 1}:{s.start.col + 1}-{s.stop.line + 1}:{s.stop.col + 1}"

def le (s t : Span) : Bool :=
  s.start < t.start || s.start == t.start && s.stop ≤ t.stop

end Span

structure Token where
  text : String
  span : Span
  deriving DecidableEq, Repr, Inhabited

end SmaliNavigator
