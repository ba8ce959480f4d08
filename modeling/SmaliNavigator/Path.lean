import SmaliNavigator.OrdMap
import SmaliNavigator.Text.Search
import SmaliNavigator.Text.Utf8

/-!
Paths of project files. A path is a list of bytes, which need not be a text. Two paths are the same
when their components are: doubled and closing slashes and single dots in the middle do not count, a
single dot at the start does. Paths are ordered component by component.

A path keeps the bytes that it was written as, and what is derived from a path keeps as many of them
as it can.
-/

set_option autoImplicit false

namespace SmaliNavigator

open Text

/-- The bytes of the name of a file or a directory. -/
abbrev EntryName : Type := List UInt8

inductive Component where
  | root
  | here
  | up
  | name (name : EntryName)
  deriving DecidableEq, Repr

namespace Component

/-- The root comes first, then a dot, two dots, and the names. -/
def rank : Component → Nat
  | root => 0
  | here => 1
  | up => 2
  | name _ => 3

def label : Component → EntryName
  | name s => s
  | _ => []

theorem ext_rank_label {a b : Component} (hr : a.rank = b.rank) (hl : a.label = b.label) :
    a = b := by
  cases a <;> cases b <;> simp_all [rank, label]

instance : Ord Component := ⟨compareLex (compareOn rank) (compareOn label)⟩

instance : Std.TransOrd Component :=
  inferInstanceAs (Std.TransCmp (compareLex (compareOn rank) (compareOn label)))

instance : Std.LawfulEqOrd Component where
  eq_of_compare := by
    intro a b h
    replace h : compareLex (compareOn rank) (compareOn label) a b = .eq := h
    simp only [compareLex, compareOn, Ordering.then_eq_eq, Std.LawfulEqOrd.compare_eq_iff_eq] at h
    exact ext_rank_label h.1 h.2

end Component

abbrev PathKey : Type := List Component

structure PathPart where
  component : Component
  start : Nat
  stop : Nat
  deriving DecidableEq, Repr

structure Path where
  bytes : List UInt8
  deriving DecidableEq, Repr, Inhabited

namespace Path

def ofString (s : String) : Path := ⟨encodeUtf8 s.toList⟩

def text (p : Path) : String := String.ofList (decodeUtf8 p.bytes)

def slash : UInt8 := '/'.toUInt8
def dot : UInt8 := '.'.toUInt8

/-- The component that a piece between slashes stands for; a dot counts only as the first piece. -/
def component? (isFirst : Bool) (piece : EntryName) : Option Component :=
  if piece = [] then none
  else if piece = [dot] then if isFirst then some .here else none
  else if piece = [dot, dot] then some .up
  else some (.name piece)

def partsFrom (place : Nat) : List EntryName → List PathPart
  | [] => []
  | piece :: pieces =>
    let stop := place + piece.length
    let part := (component? (place == 0) piece).map fun c => ⟨c,place,stop⟩
    part.toList ++ partsFrom (stop + 1) pieces

def pieces (p : Path) : List EntryName := splitWhere (· == slash) p.bytes

def parts (p : Path) : List PathPart :=
  let named := partsFrom 0 p.pieces
  if p.bytes.head? = some slash then ⟨.root,0,1⟩ :: named else named

def key (p : Path) : PathKey := p.parts.map (·.component)

def same (p q : Path) : Bool := p.key == q.key

theorem same_iff (p q : Path) : p.same q = true ↔ p.key = q.key := by
  simp [same]

def le (p q : Path) : Bool := (compare p.key q.key).isLE

def isAbsolute (p : Path) : Bool := p.bytes.head? = some slash

def fileName? (p : Path) : Option EntryName :=
  match p.key.getLast? with
  | some (.name s) => some s
  | _ => none

def between (p : Path) (start stop : Nat) : Path :=
  ⟨(p.bytes.take stop).drop start⟩

/-- The path without its last component; nothing is above the root or the empty path. -/
def parent? (p : Path) : Option Path :=
  match p.parts.reverse with
  | [] => none
  | last :: before =>
    if last.component = .root then none
    else some (p.between 0 ((before.head?.map (·.stop)).getD 0))

def pop (p : Path) : Path := p.parent?.getD p

/-- A path taken from another one; an absolute one replaces it. -/
def join (p q : Path) : Path :=
  if q.isAbsolute then q
  else if p.bytes.isEmpty ∨ p.bytes.getLast? = some slash then ⟨p.bytes ++ q.bytes⟩
  else ⟨p.bytes ++ slash :: q.bytes⟩

def endsWith (p q : Path) : Bool :=
  q.key.isSuffixOf p.key

def withFileName (p : Path) (name : Path) : Path :=
  (if p.fileName?.isSome then p.pop else p).join name

def relativeTo? (p dir : Path) : Option Path :=
  if dir.key.isPrefixOf p.key then
    let rest := p.parts.drop dir.key.length
    match rest.head?, rest.getLast? with
    | some first, some last => some (p.between first.start last.stop)
    | _, _ => some ⟨[]⟩
  else none

/-- Where a file goes when the path `old`, which it ends with, becomes `new`. A file that does not
end with `old` stays in its directory and takes the last component of `new`. -/
def relocated (p : Path) (old new : Path) : Path :=
  if p.endsWith old then
    (Nat.repeat pop old.key.length p).join new
  else
    p.withFileName ((new.fileName?.map Path.mk).getD new)

end Path

/-- A map from files. A file keeps the path that it first came with. -/
structure PathMap (α : Type) where
  table : OrdMap PathKey (Path × α)
  keyed : ∀ e ∈ table.entries, e.2.1.key = e.1
  deriving DecidableEq, Repr

namespace PathMap

variable {α β : Type}

def empty : PathMap α := ⟨∅,fun _ h => by cases h⟩

instance : EmptyCollection (PathMap α) := ⟨empty⟩
instance : Inhabited (PathMap α) := ⟨empty⟩

def toList (m : PathMap α) : List (Path × α) := m.table.values

def files (m : PathMap α) : List Path := m.toList.map (·.1)
def size (m : PathMap α) : Nat := m.table.size
def isEmpty (m : PathMap α) : Bool := m.table.isEmpty

def get? (m : PathMap α) (p : Path) : Option α :=
  (m.table.get? p.key).map (·.2)

def contains (m : PathMap α) (p : Path) : Bool := m.table.contains p.key

/-- The path that a file has in the map, which is the given one for a file that is not in it. -/
def spelling (m : PathMap α) (p : Path) : Path :=
  ((m.table.get? p.key).map (·.1)).getD p

theorem key_spelling (m : PathMap α) (p : Path) : (m.spelling p).key = p.key := by
  unfold spelling
  cases h : m.table.get? p.key with
  | none => rfl
  | some e =>
    have known := m.keyed _ ((m.table.get?_eq_some_iff _ _).mp h)
    exact known

def insert (m : PathMap α) (p : Path) (a : α) : PathMap α where
  table := m.table.insert p.key (m.spelling p,a)
  keyed := fun e he => by
    rcases OrdMap.mem_insertEntry he with rfl | he
    · exact m.key_spelling p
    · exact m.keyed e he

def erase (m : PathMap α) (p : Path) : PathMap α where
  table := m.table.erase p.key
  keyed := fun e he => m.keyed e (List.mem_filter.mp he).1

def mapValues (f : α → β) (m : PathMap α) : PathMap β where
  table := m.table.mapValues fun e => (e.1,f e.2)
  keyed := fun e he => by
    obtain ⟨d,hd,rfl⟩ := List.mem_map.mp he
    exact m.keyed d hd

@[simp] theorem get?_empty (p : Path) : (∅ : PathMap α).get? p = none := rfl

theorem get?_insert (m : PathMap α) (p : Path) (a : α) (q : Path) :
    (m.insert p a).get? q = if q.same p then some a else m.get? q := by
  unfold get? insert
  rw [OrdMap.get?_insert]
  by_cases h : q.key = p.key <;> simp [Path.same, h]

theorem get?_erase (m : PathMap α) (p q : Path) :
    (m.erase p).get? q = if q.same p then none else m.get? q := by
  unfold get? erase
  rw [OrdMap.get?_erase]
  by_cases h : q.key = p.key <;> simp [Path.same, h]

theorem get?_mapValues (f : α → β) (m : PathMap α) (p : Path) :
    (m.mapValues f).get? p = (m.get? p).map f := by
  unfold get? mapValues
  rw [OrdMap.get?_mapValues, Option.map_map, Option.map_map]
  rfl

theorem get?_eq_some_iff (m : PathMap α) (p : Path) (a : α) :
    m.get? p = some a ↔ ∃ q, q.same p = true ∧ (q,a) ∈ m.toList := by
  unfold get?
  rw [Option.map_eq_some_iff]
  constructor
  · rintro ⟨e,he,rfl⟩
    have hm := (m.table.get?_eq_some_iff _ _).mp he
    exact ⟨e.1,by simpa [Path.same] using m.keyed _ hm,List.mem_map.mpr ⟨_,hm,rfl⟩⟩
  · rintro ⟨q,hq,hm⟩
    obtain ⟨⟨k,_⟩,he,rfl⟩ := List.mem_map.mp hm
    obtain rfl : k = q.key := (m.keyed _ he).symm
    rw [(Path.same_iff q p).mp hq] at he
    exact ⟨(q,a),(m.table.get?_eq_some_iff _ _).mpr he,rfl⟩

end PathMap

abbrev PathSet : Type := PathMap Unit

namespace PathSet

def add (s : PathSet) (p : Path) : PathSet := PathMap.insert s p ()

def ofList (ps : List Path) : PathSet := ps.foldl add ∅

end PathSet

end SmaliNavigator
