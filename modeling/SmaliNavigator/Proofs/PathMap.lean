import Mathlib.Data.List.Pairwise
import SmaliNavigator.Path

/-!
Maps and sets of files, told apart by what is looked up in them. A path may be written in several
ways; no look-up depends on which of them is used.
-/

set_option autoImplicit false

namespace SmaliNavigator

namespace Path

@[simp] theorem same_refl (p : Path) : p.same p = true := by simp [same]

theorem same_comm (p q : Path) : p.same q = q.same p := by simp [same, Bool.beq_comm]

theorem same_left {p q : Path} (h : p.same q = true) (r : Path) : p.same r = q.same r := by
  simp [same, (same_iff p q).mp h]

theorem same_right {p q : Path} (h : p.same q = true) (r : Path) : r.same p = r.same q := by
  simp [same, (same_iff p q).mp h]

end Path

namespace PathMap

variable {α β : Type}

theorem get?_same (m : PathMap α) {p q : Path} (h : p.same q = true) : m.get? p = m.get? q := by
  unfold get?
  rw [(Path.same_iff p q).mp h]

@[simp] theorem get?_insert_self (m : PathMap α) (p : Path) (a : α) :
    (m.insert p a).get? p = some a := by simp [get?_insert]

theorem erase_eq_self {m : PathMap α} {p : Path} (h : m.get? p = none) : m.erase p = m := by
  have ht : m.table.get? p.key = none := by simpa [get?] using h
  have hsame : m.table.erase p.key = m.table := by
    refine OrdMap.ext_get? fun k => ?_
    rw [OrdMap.get?_erase]
    split
    · next hk => rw [Std.LawfulEqOrd.eq_of_compare hk, ht]
    · rfl
  cases m
  simpa [erase] using hsame

theorem contains_eq_isSome (m : PathMap α) (p : Path) : m.contains p = (m.get? p).isSome := by
  simp [contains, OrdMap.contains, get?]

theorem get?_of_not_contains {m : PathMap α} {p : Path} (h : ¬ m.contains p = true) :
    m.get? p = none := by
  simpa [contains_eq_isSome] using h

@[simp] theorem contains_empty (p : Path) : (∅ : PathMap α).contains p = false := by
  simp [contains_eq_isSome]

theorem contains_insert (m : PathMap α) (p : Path) (a : α) (q : Path) :
    (m.insert p a).contains q = (q.same p || m.contains q) := by
  rw [contains_eq_isSome, contains_eq_isSome, get?_insert]
  cases h : q.same p <;> simp

theorem contains_erase (m : PathMap α) (p q : Path) :
    (m.erase p).contains q = (!q.same p && m.contains q) := by
  rw [contains_eq_isSome, contains_eq_isSome, get?_erase]
  cases h : q.same p <;> simp

theorem contains_of_mem_files {m : PathMap α} {p : Path} (h : p ∈ m.files) :
    m.contains p = true := by
  obtain ⟨⟨q,a⟩,hm,rfl⟩ := List.mem_map.mp h
  have hg : m.get? q = some a := (m.get?_eq_some_iff q a).mpr ⟨q,q.same_refl,hm⟩
  simp [contains_eq_isSome, hg]

theorem exists_mem_files {m : PathMap α} {p : Path} (h : m.contains p = true) :
    ∃ q ∈ m.files, q.same p = true := by
  rw [contains_eq_isSome, Option.isSome_iff_exists] at h
  obtain ⟨a,ha⟩ := h
  obtain ⟨q,hq,hm⟩ := (m.get?_eq_some_iff p a).mp ha
  exact ⟨q,List.mem_map.mpr ⟨_,hm,rfl⟩,hq⟩

theorem contains_eq_any (m : PathMap α) (p : Path) :
    m.contains p = m.files.any (·.same p) := by
  rw [Bool.eq_iff_iff, List.any_eq_true]
  constructor
  · exact exists_mem_files
  · rintro ⟨q,hq,hs⟩
    have hc := contains_of_mem_files hq
    rwa [contains_eq_isSome, m.get?_same hs, ← contains_eq_isSome] at hc

/-- Where all entries of a file are the same, it does not matter which of them comes last. -/
theorem get?_foldl_insert_of_agree {es : List (Path × α)} {file : Path} {a : α}
    (h : ∀ e ∈ es, e.1.same file = true → e.2 = a) (m : PathMap α) :
    (es.foldl (fun m e => m.insert e.1 e.2) m).get? file =
      if es.any (·.1.same file) then some a else m.get? file := by
  induction es generalizing m with
  | nil => rfl
  | cons e es ih =>
    rw [List.foldl_cons, ih (fun d hd => h d (by simp [hd])), get?_insert, Path.same_comm file,
      List.any_cons]
    cases hs : e.1.same file with
    | true => simp [h e (by simp) hs]
    | false => rw [Bool.false_or]; rfl

theorem isEmpty_iff (m : PathMap α) : m.isEmpty = true ↔ ∀ p, m.contains p = false := by
  have hf : m.isEmpty = true ↔ m.files = [] := by
    simp [isEmpty, OrdMap.isEmpty, files, toList, OrdMap.values]
  rw [hf]
  constructor
  · intro h p
    by_cases hc : m.contains p = true
    · obtain ⟨q,hq,_⟩ := exists_mem_files hc
      simp [h] at hq
    · simpa using hc
  · intro h
    refine List.eq_nil_iff_forall_not_mem.mpr fun q hq => ?_
    have hc := contains_of_mem_files hq
    simp [h q] at hc

/-! ### Other values at the same files -/

theorem ext_table {m n : PathMap α} (h : m.table = n.table) : m = n := by
  cases m
  cases n
  subst h
  rfl

theorem spelling_mapValues (m : PathMap α) (f : α → β) (p : Path) :
    (m.mapValues f).spelling p = m.spelling p := by
  unfold spelling mapValues
  rw [OrdMap.get?_mapValues, Option.map_map]
  rfl

theorem mapValues_insert (m : PathMap α) (f : α → β) (p : Path) (a : α) :
    (m.insert p a).mapValues f = (m.mapValues f).insert p (f a) := by
  refine ext_table (OrdMap.ext_get? fun k => ?_)
  have hspelling := m.spelling_mapValues f p
  unfold insert mapValues at hspelling ⊢
  rw [OrdMap.get?_mapValues, OrdMap.get?_insert, OrdMap.get?_insert, OrdMap.get?_mapValues]
  split
  · rw [Option.map_some, hspelling]
  · rfl

theorem insert_of_get? {m : PathMap α} {p : Path} {a : α} (h : m.get? p = some a) : m.insert p a = m := by
  unfold get? at h
  obtain ⟨⟨q,b⟩,he,rfl⟩ := Option.map_eq_some_iff.mp h
  refine ext_table (OrdMap.ext_get? fun k => ?_)
  unfold insert spelling
  rw [OrdMap.get?_insert]
  split
  · next hk =>
    obtain rfl : k = p.key := Std.LawfulEqOrd.eq_of_compare hk
    rw [he]
    rfl
  · rfl

theorem files_mapValues (m : PathMap α) (f : α → β) : (m.mapValues f).files = m.files := by
  simp [files, toList, mapValues, OrdMap.mapValues, OrdMap.values]

theorem pairwise_files (m : PathMap α) : m.files.Pairwise fun f g => f.same g = false := by
  have hfiles : m.files = m.table.entries.map (·.2.1) := by simp [files, toList, OrdMap.values]
  rw [hfiles, List.pairwise_map]
  refine m.table.sorted.imp_of_mem fun {d e} hd he hlt => ?_
  rw [← m.keyed d hd, ← m.keyed e he] at hlt
  cases hsame : d.2.1.same e.2.1 with
  | false => rfl
  | true =>
    have hself : compare e.2.1.key e.2.1.key = .eq := Std.ReflCmp.compare_self
    rw [(Path.same_iff _ _).mp hsame, hself] at hlt
    cases hlt

theorem eq_of_mem_files {m : PathMap α} {p q : Path} (hp : p ∈ m.files) (hq : q ∈ m.files)
    (h : p.same q = true) : p = q := by
  by_contra hne
  have : Std.Symm fun f g : Path => f.same g = false := ⟨fun f g hfg => (Path.same_comm g f).trans hfg⟩
  rw [m.pairwise_files.forall hp hq hne] at h
  cases h

theorem nodup_files (m : PathMap α) : m.files.Nodup :=
  m.pairwise_files.imp fun {f g} h heq => by simp [heq] at h

end PathMap

namespace PathSet

theorem contains_add (s : PathSet) (p q : Path) :
    PathMap.contains (s.add p) q = (q.same p || s.contains q) :=
  s.contains_insert p () q

theorem add_of_contains {s : PathSet} {p : Path} (h : PathMap.contains s p = true) :
    s.add p = s := by
  rw [PathMap.contains_eq_isSome, Option.isSome_iff_exists] at h
  obtain ⟨⟨⟩,hs⟩ := h
  exact PathMap.insert_of_get? hs

theorem mem_files_add {s : PathSet} {p q : Path} (h : ¬PathMap.contains s p = true) :
    q ∈ (s.add p).files ↔ q = p ∨ q ∈ s.files := by
  have hspelling : s.spelling p = p := by
    unfold PathMap.contains OrdMap.contains at h
    simp [PathMap.spelling, Option.not_isSome_iff_eq_none.mp h]
  have hfrom {q : Path} (hq : q ∈ (s.add p).files) : q = p ∨ q ∈ s.files := by
    obtain ⟨⟨r,a⟩,he,rfl⟩ := List.mem_map.mp hq
    obtain ⟨⟨k,e⟩,he,heq⟩ := List.mem_map.mp he
    rcases OrdMap.mem_insertEntry he with hnew | hold
    · obtain ⟨-,rfl⟩ := Prod.mk.inj hnew
      obtain ⟨rfl,-⟩ := Prod.mk.inj heq
      exact .inl hspelling
    · obtain rfl : e = (r,a) := heq
      exact .inr (List.mem_map.mpr ⟨(r,a),List.mem_map.mpr ⟨_,hold,rfl⟩,rfl⟩)
  have hknown {q : Path} (hq : q.same p = true ∨ PathMap.contains s q = true) :
      ∃ r ∈ (s.add p).files, r.same q = true :=
    PathMap.exists_mem_files (by rwa [contains_add, Bool.or_eq_true])
  refine ⟨hfrom,?_⟩
  rintro (rfl | hq)
  · obtain ⟨r,hr,hsame⟩ := hknown (.inl q.same_refl)
    obtain rfl | hold := hfrom hr
    · exact hr
    · have hcontains := PathMap.contains_of_mem_files hold
      rw [PathMap.contains_eq_isSome, PathMap.get?_same _ hsame] at hcontains
      exact absurd (PathMap.contains_eq_isSome s q ▸ hcontains) h
  · obtain ⟨r,hr,hsame⟩ := hknown (.inr (PathMap.contains_of_mem_files hq))
    obtain rfl | hold := hfrom hr
    · have hcontains := PathMap.contains_of_mem_files hq
      rw [PathMap.contains_eq_isSome, ← PathMap.get?_same _ hsame] at hcontains
      exact absurd (PathMap.contains_eq_isSome s r ▸ hcontains) h
    · rwa [← PathMap.eq_of_mem_files hold hq hsame]

end PathSet

end SmaliNavigator
