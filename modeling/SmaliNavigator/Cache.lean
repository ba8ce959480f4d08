import SmaliNavigator.Class
import SmaliNavigator.Path

/-!
A bounded store of classes. It is measured in the bytes of the texts that the classes were read
from, and what was not used for longest goes first.
-/

set_option autoImplicit false

namespace SmaliNavigator

/-- Classes with their files, the most recently used first. -/
structure Cache where
  capacity : Nat
  bytes : Nat
  entries : List (Path × Class)
  deriving DecidableEq, Repr

namespace Cache

def new (capacity : Nat) : Cache := ⟨capacity,0,[]⟩

def size (c : Cache) : Nat := c.entries.length
def isEmpty (c : Cache) : Bool := c.entries.isEmpty

def find? (c : Cache) (file : Path) : Option (Path × Class) :=
  c.entries.find? (·.1.same file)

def others (c : Cache) (file : Path) : List (Path × Class) :=
  c.entries.filter (!·.1.same file)

def contains (c : Cache) (file : Path) : Bool := (c.find? file).isSome

def get (c : Cache) (file : Path) : Option Class × Cache :=
  match c.find? file with
  | none => (none,c)
  | some e => (some e.2,{ c with entries := e :: c.others file })

def remove (c : Cache) (file : Path) : Option Class × Cache :=
  match c.find? file with
  | none => (none,c)
  | some e => (some e.2,{ c with bytes := c.bytes - e.2.byteSize, entries := c.others file })

/-- Drops entries, given the least recently used first, until the rest fits. Gives the dropped
files, the entries that stay in the same order, and their bytes. -/
def evict (capacity : Nat) : (bytes : Nat) → List (Path × Class) →
    List Path × List (Path × Class) × Nat
  | _, [] => ([],[],0)
  | bytes, e :: es =>
    if bytes ≤ capacity then ([],e :: es,bytes)
    else
      let (gone,kept,left) := evict capacity (bytes - e.2.byteSize) es
      (e.1 :: gone,kept,left)

/-- Stores a class and gives the files whose classes had to go. A class that is larger than the
whole store is not kept, and what was kept for its file goes too. -/
def insert (c : Cache) (file : Path) (stored : Class) : List Path × Cache :=
  if c.capacity < stored.byteSize then ([file],(c.remove file).2)
  else
    let spelled := ((c.find? file).map (·.1)).getD file
    let without := (c.remove file).2
    let entries := (spelled,stored) :: without.entries
    let (gone,kept,left) := evict c.capacity (without.bytes + stored.byteSize) entries.reverse
    (gone,{ c with bytes := left, entries := kept.reverse })

def clear (c : Cache) : Cache := new c.capacity

end Cache

end SmaliNavigator
