import AccessHarness.Documents.Access

/-!
# Documents tell requests apart

A request that grants or revokes is known from the document it carries.  Nothing is decoded
here: the documents of two values differ at some field as soon as the values do.
-/

namespace AccessHarness

open Json (optionalField)

theorem PrincipalKind.wireName_injective {k k' : PrincipalKind} (h : k.wireName = k'.wireName) :
    k = k' := by
  cases k <;> cases k' <;> first | rfl | exact absurd h (by decide)

theorem ProgramType.wireName_injective {t t' : ProgramType} (h : t.wireName = t'.wireName) :
    t = t' := by
  cases t <;> cases t' <;> first | rfl | exact absurd h (by decide)

theorem Action.display_injective {a a' : Action} (h : a.display = a'.display) : a = a' := by
  cases a <;> cases a' <;> first | rfl | exact absurd h (by decide)

theorem Principal.toJson_injective {p p' : Principal} (h : p.toJson = p'.toJson) : p = p' := by
  obtain ⟨name, kind⟩ := p
  obtain ⟨name', kind'⟩ := p'
  simp only [toJson, PrincipalKind.toJson, Json.obj.injEq, List.cons.injEq, Prod.mk.injEq,
    Json.str.injEq, true_and, and_true] at h
  rw [h.1, PrincipalKind.wireName_injective h.2]

theorem ActionSet.toJson_injective {s s' : ActionSet} (h : s.toJson = s'.toJson) : s = s' := by
  have texts : s.toList.map Action.toJson = s'.toList.map Action.toJson := Json.arr.inj h
  have same : s.toList = s'.toList := by
    refine (List.map_inj_right ?_).1 texts
    intro a a' equal
    exact Action.display_injective (Json.str.inj equal)
  refine ext_contains ?_
  intro a
  rw [Bool.eq_iff_iff, ← mem_toList, ← mem_toList, same]

/-- **Entities of different kinds differ in their tag**, entities of one kind in a field. -/
theorem EntityId.toJson_injective {e e' : EntityId} (h : e.toJson = e'.toJson) : e = e' := by
  cases e <;> cases e' <;>
    simp_all [toJson, ProgramType.toJson]
  exact ProgramType.wireName_injective h.2.2.1

theorem GrantRequest.toJson_injective {g g' : GrantRequest} (h : g.toJson = g'.toJson) :
    g = g' := by
  obtain ⟨e, p, actions⟩ := g
  obtain ⟨e', p', actions'⟩ := g'
  simp only [toJson, Json.obj.injEq, List.cons.injEq, Prod.mk.injEq, true_and, and_true] at h
  obtain ⟨entity, principal, set⟩ := h
  rw [EntityId.toJson_injective entity, Principal.toJson_injective principal,
    ActionSet.toJson_injective set]

theorem RevokeRequest.toJson_injective {v v' : RevokeRequest} (h : v.toJson = v'.toJson) :
    v = v' := by
  obtain ⟨e, p, actions⟩ := v
  obtain ⟨e', p', actions'⟩ := v'
  have entity : e.toJson = e'.toJson := by
    simp only [toJson, Json.obj.injEq, List.cons_append, List.nil_append, List.cons.injEq,
      Prod.mk.injEq, true_and] at h
    exact h.1
  cases EntityId.toJson_injective entity
  -- a field that is left out leaves one that is not to face a field of another name
  cases p <;> cases p' <;> cases actions <;> cases actions' <;>
    simp [toJson, optionalField] at h ⊢
  case none.none.some.some => exact ActionSet.toJson_injective h
  case some.some.none.none => exact Principal.toJson_injective h
  case some.some.some.some =>
    exact ⟨Principal.toJson_injective h.1, ActionSet.toJson_injective h.2⟩

end AccessHarness
