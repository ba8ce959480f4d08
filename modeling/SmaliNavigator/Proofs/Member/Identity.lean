import SmaliNavigator.Class.Draft
import SmaliNavigator.Proofs.Descriptor

/-!
Which fields and which methods are the same. Of a member nothing counts but its signature, and that is
what its descriptor writes down.
-/

set_option autoImplicit false

namespace SmaliNavigator

namespace Field

/-- What counts of a field. -/
def signature (f : Field) : FieldSketch := ⟨[],f.name.text,f.type.shape,none⟩

theorem render_signature (f : Field) : f.signature.render = f.descriptor := by
  rw [descriptor, ← f.type.raw_shape]
  simp [signature, FieldSketch.render, Modifier.render]

variable {f g : Field}

theorem signature_congr (h : f.same g = true) : f.signature = g.signature := by
  obtain ⟨hname,htype⟩ := Bool.and_eq_true_iff.mp h
  rw [signature, eq_of_beq hname, Descriptor.shape_congr htype]
  rfl

theorem same_of_signature (hf : f.type.IsProper) (hg : g.type.IsProper)
    (h : f.signature = g.signature) : f.same g = true := by
  obtain ⟨-,hname,htype,-⟩ := FieldSketch.mk.inj h
  exact Bool.and_eq_true_iff.mpr ⟨beq_iff_eq.mpr hname,hf.same_of_shape hg htype⟩

end Field

namespace Method

/-- What counts of a method. -/
def signature (m : Method) : MethodSketch :=
  ⟨[],m.name.text,m.parameters.map Descriptor.shape,m.returnType.shape⟩

theorem render_signature (m : Method) : m.signature.render = m.descriptor := by
  have hraw : TypeShape.raw ∘ Descriptor.shape = Descriptor.raw := funext Descriptor.raw_shape
  rw [descriptor, ← m.returnType.raw_shape]
  simp [signature, MethodSketch.render, Modifier.render, hraw]

section Same

variable {m n : Method} (h : m.same n = true)
include h

theorem parts_of_same : m.name.text = n.name.text ∧ m.returnType.same n.returnType = true ∧
    m.parameters.isEqv n.parameters Descriptor.same = true := by
  simpa [same, and_assoc] using h

theorem same_congr (k : Method) : k.same m = k.same n := by
  obtain ⟨hname,hreturn,hparameters⟩ := parts_of_same h
  unfold same
  rw [hname, Descriptor.same_congr hreturn, Descriptor.isEqv_congr hparameters]

theorem signature_congr : m.signature = n.signature := by
  obtain ⟨hname,hreturn,hparameters⟩ := parts_of_same h
  rw [signature, hname, Descriptor.shape_congr hreturn, Descriptor.map_shape_congr hparameters]
  rfl

theorem key_congr (owner : String) : m.key owner = n.key owner := by
  rw [key, key, ← render_signature, ← render_signature, signature_congr h]

theorem isConstructor_congr : m.isConstructor = n.isConstructor := by
  unfold isConstructor
  rw [(parts_of_same h).1]

end Same

/-- Whether the types of a method are written as types are. -/
def IsProper (m : Method) : Prop :=
  (∀ t ∈ m.parameters, t.IsProper) ∧ m.returnType.IsProper

theorem IsProper.same_of_signature {m n : Method} (hm : m.IsProper) (hn : n.IsProper)
    (h : m.signature = n.signature) : m.same n = true := by
  obtain ⟨-,hname,hparameters,hreturn⟩ := MethodSketch.mk.inj h
  have hsame := hm.2.same_of_shape hn.2 hreturn
  have hsames := Descriptor.isEqv_of_map_shape hm.1 hn.1 hparameters
  simp only [same, beq_iff_eq.mpr hname, hsame, hsames, Bool.and_self]

end Method

end SmaliNavigator
