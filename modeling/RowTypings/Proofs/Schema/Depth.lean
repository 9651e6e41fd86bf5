import RowTypings.Proofs.Schema.WellFormed

/-!
Schemas depth by depth. The fields of a schema lie at depth 0, those of the schemas inside them at
depth 1, and so on. An inferred schema has at every depth what it has at the top: fields that are
described by their names, known kinds under every mark of a required field, and under every field
that holds a schema one that is not empty and not too deep.
-/

namespace RowTypings

/-- The fields that lie at that depth, in the order in which they are declared. -/
def Schema.fieldsAt : Nat → Schema → List (String × Property)
  | 0, s => s
  | depth + 1, s => s.flatMap fun f => f.2.kind.nested?.elim [] (Schema.fieldsAt depth)

namespace Schema

variable {maxDepth depth k : Nat} {s : Schema} {f : String × Property}

theorem mem_fieldsAt_succ :
    f ∈ s.fieldsAt (k + 1) ↔ ∃ g ∈ s, ∃ t, g.2.kind.nested? = some t ∧ f ∈ t.fieldsAt k := by
  rw [fieldsAt, List.mem_flatMap]
  refine exists_congr fun g => and_congr_right fun _ => ?_
  cases g.2.kind.nested? with
  | none => simp
  | some t => simp

/-- A field at some depth stands in a schema that is well formed for that depth. -/
theorem WellFormed.exists_of_mem_fieldsAt (h : Schema.WellFormed maxDepth depth s)
    (hf : f ∈ s.fieldsAt k) : ∃ t, Schema.WellFormed maxDepth (depth + k) t ∧ f ∈ t := by
  induction k generalizing depth s with
  | zero => exact ⟨s, h, hf⟩
  | succ k ih =>
      obtain ⟨g, hg, t, ht, hf⟩ := mem_fieldsAt_succ.mp hf
      obtain ⟨-, -, hinside⟩ := (h.kind hg).inside ht
      have hdepth : depth + (k + 1) = depth + 1 + k := by omega
      rw [hdepth]
      exact ih hinside hf

end Schema

namespace Inference

/-- Whatever rows a schema is inferred from, at every depth a field is described by its name, a
field of unknown kind is not required, and the schema inside a field has fields, no two of one name,
and lies no deeper than the limit. -/
theorem ofRows_at_every_depth (i : Inference) {rows : List Row}
    (hkeyed : ∀ row ∈ rows, (Value.object row).Keyed) :
    (i.ofRows rows).names.Nodup ∧
    ∀ depth, ∀ f ∈ (i.ofRows rows).fieldsAt depth,
      f.2.description = f.1 ∧
      (f.2.kind.isUnknown = true → f.2.required = false) ∧
      ∀ s, f.2.kind.nested? = some s →
        s ≠ [] ∧ s.names.Nodup ∧ depth + 1 ≤ i.settings.maxDepth := by
  have hwell : Schema.WellFormed i.settings.maxDepth 0 (i.ofRows rows) := ofRows_wellFormed hkeyed
  refine ⟨hwell.nodup, fun depth f hf => ?_⟩
  obtain ⟨t, ht, hf⟩ := hwell.exists_of_mem_fieldsAt hf
  rw [Nat.zero_add] at ht
  refine ⟨ht.description_eq hf, fun hunknown => ?_, fun s hs => ?_⟩
  · cases hrequired : f.2.required with
    | false => rfl
    | true =>
        have hknown := ht.isUnknown_eq_false hf hrequired
        rw [hunknown] at hknown
        cases hknown
  · obtain ⟨hdepth, hne, hinside⟩ := (ht.kind hf).inside hs
    exact ⟨hne, hinside.nodup, hdepth⟩

/-- A list that gives its field a kind late, and goes on with an object too deep to be looked
into. -/
theorem ofRows_at_every_depth_typed_late :
    let i : Inference :=
      { settings := { refineRequired := true, sampleSize := 0, maxDepth := 1 }
        encoding := .structured }
    let rows : List Row :=
      [[("late", .null)],
        [("late", .array [.object [("x", .bool true)]])],
        [("late", .array [.null, .object [("deep", .object [("y", .bool true)])]])]]
    (∀ row ∈ rows, (Value.object row).Keyed) ∧
      ((i.ofRows rows).fieldsAt 1).map (fun f => (f.1, f.2.kind.label)) =
        [("x", "boolean"), ("deep", "unknown")] ∧
      (∀ f ∈ (i.ofRows rows).fieldsAt 1, f.2.kind.isUnknown = true → f.2.required = false) ∧
      ∀ f ∈ (i.ofRows rows).fieldsAt 0, ∀ s, f.2.kind.nested? = some s →
        s ≠ [] ∧ s.names.Nodup ∧ 0 + 1 ≤ i.settings.maxDepth := by
  intro i rows
  have hkeyed : ∀ row ∈ rows, (Value.object row).Keyed := by
    simp [rows, Value.Keyed, Fields.names, -Prod.forall]
  obtain ⟨-, hfields⟩ := ofRows_at_every_depth i hkeyed
  exact ⟨hkeyed, rfl, fun f hf => (hfields 1 f hf).2.1, fun f hf => (hfields 0 f hf).2.2⟩

end Inference

end RowTypings
