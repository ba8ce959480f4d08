/-!
Tables that are written as lines of text: rows of numbers in base sixteen, with a blank between the
numbers and a semicolon behind each row.
-/

set_option autoImplicit false

namespace SmaliNavigator.Text

/-- The state of reading a table: the rows and the numbers that are done, the last ones first, and
the number under way. -/
structure TableReading where
  rows : List (List Nat)
  row : List Nat
  number : Nat

def TableReading.next (t : TableReading) (c : Char) : TableReading :=
  if c = ';' then ⟨(t.number :: t.row).reverse :: t.rows,[],0⟩
  else if c = ' ' then ⟨t.rows,t.number :: t.row,0⟩
  else
    let digit := if c ≤ '9' then c.toNat - '0'.toNat else c.toNat - 'A'.toNat + 10
    { t with number := 16 * t.number + digit }

def rowsOf (lines : List String) : List (List Nat) :=
  let read (t : TableReading) (line : String) : TableReading :=
    line.toList.foldl TableReading.next t
  (lines.foldl read ⟨[],[],0⟩).rows.reverse

/-- Whether a character is in one of the ranges that rows of two numbers give. -/
def inRows (rows : List (List Nat)) (c : Char) : Bool :=
  rows.any fun
    | [first, last] => first ≤ c.toNat && c.toNat ≤ last
    | _ => false

end SmaliNavigator.Text
