/-!
The words that may stand in front of the name of a class, a field or a method, each with its bit in
the access flags.
-/

set_option autoImplicit false

namespace SmaliNavigator

inductive Modifier where
  | publicAccess | privateAccess | protectedAccess | static | final | synchronized | volatile
  | bridge | transient | varargs | native | interface | abstract | strictfp | synthetic
  | annotationType | enumeration | constructor | declaredSynchronized
  deriving DecidableEq, Repr

namespace Modifier

def all : List Modifier :=
  [publicAccess, privateAccess, protectedAccess, static, final, synchronized, volatile, bridge,
    transient, varargs, native, interface, abstract, strictfp, synthetic, annotationType,
    enumeration, constructor, declaredSynchronized]

def keyword : Modifier → String
  | publicAccess => "public"
  | privateAccess => "private"
  | protectedAccess => "protected"
  | static => "static"
  | final => "final"
  | synchronized => "synchronized"
  | volatile => "volatile"
  | bridge => "bridge"
  | transient => "transient"
  | varargs => "varargs"
  | native => "native"
  | interface => "interface"
  | abstract => "abstract"
  | strictfp => "strictfp"
  | synthetic => "synthetic"
  | annotationType => "annotation"
  | enumeration => "enum"
  | constructor => "constructor"
  | declaredSynchronized => "declared-synchronized"

/-- The bit of the modifier. Fields and methods share two of the bits for different words. -/
def flag : Modifier → Nat
  | publicAccess => 0x1
  | privateAccess => 0x2
  | protectedAccess => 0x4
  | static => 0x8
  | final => 0x10
  | synchronized => 0x20
  | volatile | bridge => 0x40
  | transient | varargs => 0x80
  | native => 0x100
  | interface => 0x200
  | abstract => 0x400
  | strictfp => 0x800
  | synthetic => 0x1000
  | annotationType => 0x2000
  | enumeration => 0x4000
  | constructor => 0x10000
  | declaredSynchronized => 0x20000

def ofKeyword? (word : String) : Option Modifier :=
  all.find? (·.keyword == word)

theorem ofKeyword?_keyword (m : Modifier) : ofKeyword? m.keyword = some m := by
  cases m <;> decide

def flags (ms : List Modifier) : Nat :=
  ms.foldl (fun acc m => acc ||| m.flag) 0

end Modifier

end SmaliNavigator
