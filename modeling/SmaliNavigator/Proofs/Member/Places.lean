import SmaliNavigator.Proofs.Class.Fuel
import SmaliNavigator.Proofs.Navigation.ExactEdits

/-!
Where the types of a signature are. What is taken up of a type is its written form, so that the span of
the type has that text and is in one line. The readers of members give such types only, whatever lines a
member goes over.
-/

set_option autoImplicit false

namespace SmaliNavigator

open Text

variable {d : Document} {c c' : Cursor}

namespace Descriptor

/-- A type has its written form at its span, in one line. -/
structure Stands (d : Document) (t : Descriptor) : Prop where
  shown : d.HasText t.raw.toList [] t.span
  inline : '\n' ∉ t.raw.toList

theorem stands_of_read {t : Descriptor} (hc : c.On d)
    (h : Descriptor.reader.read c = (.ok t,c')) : t.Stands d := by
  obtain ⟨hrest,hfeed,hafter,hspan⟩ := written_of_read h
  obtain ⟨before,hb⟩ := hc.reaches (.skipSpace c)
  have hplace := hb.spanTo_advance t.raw.toList.length
  rw [Cursor.take_length_rest hrest, ← hafter, ← hspan] at hplace
  exact ⟨⟨before,c'.rest,by rw [List.nil_append, ← hrest, hb.chars],hplace⟩,hfeed⟩

end Descriptor

/-- The cursor is in a document behind types that stand there. -/
structure Cursor.Behind (d : Document) (ts : List Descriptor) (c : Cursor) : Prop where
  on : c.On d
  stand : ∀ t ∈ ts, t.Stands d

theorem Cursor.gathers_behind (d : Document) : Gathers (Behind d) where
  reaches h hr := ⟨h.on.reaches hr,h.stand⟩
  type h hread := by
    refine ⟨h.on.reaches (Descriptor.reaches_of_read hread),List.forall_mem_append.mpr ⟨h.stand,?_⟩⟩
    exact List.forall_mem_singleton.mpr (Descriptor.stands_of_read h.on hread)

theorem Cursor.On.behind (h : c.On d) : c.Behind d [] := ⟨h,by simp⟩

/-! ### Signatures -/

theorem Field.stands_of_read {f : Field} (hc : c.On d) (h : Field.reader.read c = (.ok f,c')) :
    f.type.Stands d :=
  (@Gathers.field _ [] (Cursor.gathers_behind d) c f c' hc.behind h).stand _ (by simp)

theorem Method.stands_of_read {m : Method} (hc : c.On d) (h : Method.reader.read c = (.ok m,c')) :
    ∀ t ∈ m.parameters ++ [m.returnType], t.Stands d := by
  simpa using (@Gathers.method _ [] (Cursor.gathers_behind d) c m c' hc.behind h).stand

theorem FieldReference.stands_of_read {r : FieldReference} (hc : c.On d)
    (h : FieldReference.reader.read c = (.ok r,c')) : ∀ t ∈ [r.owner,r.field.type], t.Stands d := by
  simpa using (@Gathers.fieldReference _ [] (Cursor.gathers_behind d) c r c' hc.behind h).stand

theorem MethodReference.stands_of_read {r : MethodReference} (hc : c.On d)
    (h : MethodReference.reader.read c = (.ok r,c')) :
    ∀ t ∈ r.owner :: r.method.parameters ++ [r.method.returnType], t.Stands d := by
  simpa using (@Gathers.methodReference _ [] (Cursor.gathers_behind d) c r c' hc.behind h).stand

end SmaliNavigator
