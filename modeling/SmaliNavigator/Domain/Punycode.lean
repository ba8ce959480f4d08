import SmaliNavigator.Text.CodePoints

/-!
Labels of domain names with ASCII characters alone. The ASCII characters of the label that is meant
come first. What follows the last dash are numbers in base 36 whose digits have bounds of their own:
a number says how far it is to the next character that is put in, counted in steps through all
places of the label and all code points.
-/

set_option autoImplicit false

namespace SmaliNavigator.Domain.Punycode

open Text

def digit? (c : Char) : Option Nat :=
  if 'a' ≤ c ∧ c ≤ 'z' then some (c.toNat - 'a'.toNat)
  else if 'A' ≤ c ∧ c ≤ 'Z' then some (c.toNat - 'A'.toNat)
  else if '0' ≤ c ∧ c ≤ '9' then some (c.toNat - '0'.toNat + 26)
  else none

/-- The bound of the digit at a place, which counts in steps of 36. -/
def threshold (place bias : Nat) : Nat :=
  max 1 (min 26 (place - bias))

def readNumber (bias : Nat) : (place weight value : Nat) → List Char → Option (Nat × List Char)
  | _, _, _, [] => none
  | place, weight, value, c :: cs =>
    match digit? c with
    | none => none
    | some d =>
      let t := threshold place bias
      let value := value + d * weight
      if d < t then some (value,cs)
      else readNumber bias (place + 36) (weight * (36 - t)) value cs

theorem length_readNumber_lt {bias : Nat} {cs : List Char} :
    ∀ {place weight value : Nat} {r : Nat × List Char},
      readNumber bias place weight value cs = some r → r.2.length < cs.length := by
  induction cs with
  | nil => intro _ _ _ _ h; simp [readNumber] at h
  | cons c cs ih =>
    intro place weight value r h
    unfold readNumber at h
    split at h
    · simp at h
    · simp only at h
      split at h
      · obtain rfl := Option.some.inj h
        simp
      · have := ih h
        simp only [List.length_cons]
        omega

def settle (distance place : Nat) : Nat :=
  if 455 < distance then settle (distance / 35) (place + 36)
  else place + 36 * distance / (distance + 38)
termination_by distance
decreasing_by exact Nat.div_lt_self (by omega) (by omega)

/-- The bias for the number behind one, where the label then has some characters. -/
def adapt (distance count : Nat) (isFirst : Bool) : Nat :=
  let distance := if isFirst then distance / 700 else distance / 2
  settle (distance + distance / count) 0

/-- Puts characters into a label; `code` and `place` are those of the last one. -/
def putIn (label : List Char) (code place bias : Nat) (isFirst : Bool) (cs : List Char) :
    Option (List Char) :=
  match cs with
  | [] => some label
  | c :: rest =>
    match h : readNumber bias 36 1 0 (c :: rest) with
    | none => none
    | some (distance,left) =>
      let count := label.length + 1
      let steps := place + distance
      let code := code + steps / count
      let place := steps % count
      match charOf? code with
      | none => none
      | some x =>
        have : left.length < rest.length + 1 := by simpa using length_readNumber_lt h
        putIn (label.take place ++ x :: label.drop place) code (place + 1)
          (adapt distance count isFirst) false left
termination_by cs.length

def decode? (cs : List Char) : Option (List Char) :=
  let tail := (cs.reverse.takeWhile (· ≠ '-')).reverse
  let head := (cs.take (cs.length - tail.length)).dropLast
  if head.any isBeyondAscii then none
  else if head.isEmpty then putIn [] 128 0 72 true cs
  else putIn head 128 0 72 true tail

end SmaliNavigator.Domain.Punycode
