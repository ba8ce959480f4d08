import SmaliNavigator.Member.Reader
import SmaliNavigator.Proofs.Cursor

/-!
The types that the readers of members take up, in the order of the text: that of a field, the
parameters of a method and its return type, and in front of these the owner of a reference. What is
known of types and kept from one to the next is so carried through each of the readers.
-/

set_option autoImplicit false

namespace SmaliNavigator

theorem Field.reaches_initial (c : Cursor) : c.Reaches (match c.expectOnLine? "=" with
    | none => ((none : Option Token),c)
    | some after =>
      let (value,last) := after.readRestOfLine
      (if value.text.isEmpty then none else some value,last)).2 := by
  split
  · exact .refl c
  · next after hafter =>
    exact (Cursor.Reaches.expectOnLine? hafter).trans (.readRestOfLine after)

/-- What is known of the types that were read and of the cursor behind them. It stays known when the
cursor is moved, and where one more type is read. -/
structure Gathers (known : List Descriptor → Cursor → Prop) : Prop where
  reaches : ∀ {ts c c'}, known ts c → c.Reaches c' → known ts c'
  type : ∀ {ts c c' t}, known ts c → Descriptor.reader.read c = (.ok t,c') → known (ts ++ [t]) c'

namespace Gathers

variable {known : List Descriptor → Cursor → Prop} {ts : List Descriptor}

theorem total (hk : Gathers known) {α : Type} {f : Cursor → α × Cursor}
    (h : ∀ c : Cursor, c.Reaches (f c).2) :
    Reader.Triple (known ts) (.total f) fun _ => known ts :=
  Reader.triple_total fun c hc => hk.reaches hc (h c)

theorem tokenUntil (hk : Gathers known) (separator : Char) :
    Reader.Triple (known ts) (.tokenUntil separator) fun _ => known ts :=
  fun _ _ _ hc hread => hk.reaches hc (Reader.reaches_of_tokenUntil hread)

theorem descriptor (hk : Gathers known) :
    Reader.Triple (known ts) Descriptor.reader fun t => known (ts ++ [t]) :=
  fun _ _ _ hc hread => hk.type hc hread

theorem readParametersUpTo (hk : Gathers known) {c c' : Cursor} {ps : List Descriptor} (fuel : Nat)
    (h : Descriptor.readParametersUpTo fuel c = (.ok ps,c')) (hc : known ts c) :
    known (ts ++ ps) c' := by
  induction fuel generalizing c ts ps with
  | zero => cases h
  | succ fuel ih =>
    have hspace := hk.reaches hc (.skipInlineSpace c)
    simp only [Descriptor.readParametersUpTo] at h
    split at h
    · cases h
    · split at h
      · cases h
        simpa using hk.reaches hspace (.advance _ 1)
      · split at h
        · cases h
        · split at h
          · cases h
          · next t after hread =>
            have hafter := hk.type hspace hread
            split at h
            · next ps last hreads =>
              cases h
              simpa using ih hreads hafter
            · cases h

theorem parameters (hk : Gathers known) :
    Reader.Triple (known ts) Descriptor.parametersReader fun ps => known (ts ++ ps) :=
  fun _ _ _ hc hread => hk.readParametersUpTo _ hread hc

/-! ### Members -/

theorem field (hk : Gathers known) :
    Reader.Triple (known ts) Field.reader fun f => known (ts ++ [f.type]) :=
  (Reader.triple_asks _).bind fun _ => (hk.total Modifier.reaches_readAll).bind fun _ =>
    (hk.tokenUntil ':').bind fun _ => hk.descriptor.bind fun _ =>
    (hk.total Field.reaches_initial).bind fun _ => Reader.triple_pure fun _ h => h

theorem method (hk : Gathers known) :
    Reader.Triple (known ts) Method.reader fun m => known (ts ++ m.parameters ++ [m.returnType]) :=
  (Reader.triple_asks _).bind fun _ => (hk.total Modifier.reaches_readAll).bind fun _ =>
    (hk.tokenUntil '(').bind fun _ => hk.parameters.bind fun _ => hk.descriptor.bind fun _ =>
    Reader.triple_pure fun _ h => h

theorem owner (hk : Gathers known) :
    Reader.Triple (known ts) ownerReader fun t => known (ts ++ [t]) := by
  refine hk.descriptor.bind fun owner => ?_
  split
  · exact Reader.triple_fail _ _
  · intro c a c' hc hread
    simp only [Reader.read_of] at hread
    split at hread
    · next hafter =>
      cases hread
      exact hk.reaches hc (.expect? hafter)
    · cases hread

theorem fieldReference (hk : Gathers known) :
    Reader.Triple (known ts) FieldReference.reader fun r =>
      known (ts ++ [r.owner] ++ [r.field.type]) :=
  (Reader.triple_asks _).bind fun _ => hk.owner.bind fun _ => (hk.tokenUntil ':').bind fun _ =>
    hk.descriptor.bind fun _ => (Reader.triple_asks _).bind fun _ =>
    Reader.triple_pure fun _ h => h

theorem methodReference (hk : Gathers known) :
    Reader.Triple (known ts) MethodReference.reader fun r =>
      known (ts ++ [r.owner] ++ r.method.parameters ++ [r.method.returnType]) :=
  (Reader.triple_asks _).bind fun _ => hk.owner.bind fun _ => (hk.tokenUntil '(').bind fun _ =>
    hk.parameters.bind fun _ => hk.descriptor.bind fun _ => (Reader.triple_asks _).bind fun _ =>
    Reader.triple_pure fun _ h => h

end Gathers

end SmaliNavigator
