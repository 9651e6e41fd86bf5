import RowTypings.Proofs.Schema.Repetition
import RowTypings.Proofs.TypeScript.KeyTable

/-!
What more rows leave alone. Sampling on only moves a schema up, and a key depends on nothing but the
names before it; so whatever keys the fields had, at the top or in any nested schema, they keep, in
the order they had.
-/

namespace RowTypings

/-- The schema reached from `s` through the fields of these names. -/
def Schema.inside? (s : Schema) : List String → Option Schema
  | [] => some s
  | name :: path => ((s.get? name).bind fun p => p.kind.nested?).bind fun t => t.inside? path

/-! ### Fields of a schema that refines to another -/

theorem Kind.RefinesTo.exists_nested {k l : Kind} (h : k.RefinesTo l) {s : Schema}
    (hs : k.nested? = some s) : ∃ t, l.nested? = some t ∧ Schema.RefinesTo s t := by
  cases h with
  | same => exact ⟨s, hs, .refl s⟩
  | typed known => cases hs
  | object hst =>
      cases hs
      exact ⟨_, rfl, hst⟩
  | objectArray hst =>
      cases hs
      exact ⟨_, rfl, hst⟩

namespace Schema.RefinesTo

variable {s t : Schema}

theorem names_prefix (h : Schema.RefinesTo s t) : s.names <+: t.names := by
  induction s generalizing t with
  | nil => exact List.nil_prefix
  | cons f s ih =>
      cases h with
      | cons description required kind rest => exact List.cons_prefix_cons.mpr ⟨rfl, ih rest⟩

/-- The first field of a name is still the first one of that name. -/
theorem exists_get (h : Schema.RefinesTo s t) {name : String} {p : Property}
    (hp : s.get? name = some p) :
    ∃ q, t.get? name = some q ∧ p.kind.RefinesTo q.kind := by
  induction s generalizing t with
  | nil => cases hp
  | cons f s ih =>
      cases h with
      | @cons other p' q' _ t description required kind rest =>
          unfold Schema.get? at hp ⊢
          rw [List.lookup_cons] at hp ⊢
          cases hname : name == other with
          | true =>
              rw [hname] at hp
              cases hp
              exact ⟨q', rfl, kind⟩
          | false =>
              rw [hname] at hp
              exact ih rest hp

theorem exists_inside (h : Schema.RefinesTo s t) {path : List String} {u : Schema}
    (hu : s.inside? path = some u) : ∃ w, t.inside? path = some w ∧ Schema.RefinesTo u w := by
  induction path generalizing s t with
  | nil =>
      cases hu
      exact ⟨t, rfl, h⟩
  | cons name path ih =>
      rw [Schema.inside?, Option.bind_assoc, Option.bind_eq_some_iff] at hu
      obtain ⟨p, hp, hu⟩ := hu
      obtain ⟨s', hs', hu⟩ := Option.bind_eq_some_iff.mp hu
      obtain ⟨q, hq, hkind⟩ := h.exists_get hp
      obtain ⟨t', ht', hst'⟩ := hkind.exists_nested hs'
      rw [Schema.inside?, hq, Option.bind_some, ht', Option.bind_some]
      exact ih hst' hu

end Schema.RefinesTo

namespace TypeScript

/-! ### Keys of names with others behind them -/

theorem PropertyKey.assign_prefix (used : List String) {names longer : List String}
    (h : names <+: longer) : assign used names <+: assign used longer := by
  induction names generalizing used longer with
  | nil => exact List.nil_prefix
  | cons name names ih =>
      cases longer with
      | nil => simp at h
      | cons name' longer =>
          obtain ⟨rfl, hrest⟩ := List.cons_prefix_cons.mp h
          exact List.cons_prefix_cons.mpr ⟨rfl, ih _ hrest⟩

theorem uniqueKeys_prefix {names longer : List String} (h : names <+: longer) :
    uniqueKeys names <+: uniqueKeys longer :=
  PropertyKey.assign_prefix [] h

end TypeScript

namespace Inference

variable {i : Inference}

/-- Where all rows are sampled, more rows are folded into what the others gave. -/
theorem ofRows_append (hall : ∀ rows : List Row, i.settings.sample rows = rows) {rows : List Row}
    (hne : rows ≠ []) (more : List Row) :
    i.ofRows (rows ++ more) = more.foldl (i.refineAt 0) (i.ofRows rows) := by
  induction more using List.reverseRecOn with
  | nil => simp
  | append_singleton more row ih =>
      rw [← List.append_assoc, ofRows_append_singleton hall (by simp [hne]), ih, List.foldl_concat]

/-- However many rows are sampled on, no field of the schema is dropped, moved, described anew, made
required or given another kind than it had, at any depth; nor is any property called anew. -/
theorem ofRows_append_keeps (i : Inference) (hrefine : i.settings.refineRequired = true)
    (hsize : i.settings.sampleSize = 0) {rows more : List Row} (hne : rows ≠ [])
    (hkeyed : ∀ row ∈ rows ++ more, (Value.object row).Keyed) :
    Schema.RefinesTo (i.ofRows rows) (i.ofRows (rows ++ more)) ∧
    ∀ path s, (i.ofRows rows).inside? path = some s →
      ∃ t, (i.ofRows (rows ++ more)).inside? path = some t ∧ Schema.RefinesTo s t ∧
        s.names <+: t.names ∧
        TypeScript.uniqueKeys s.names <+: TypeScript.uniqueKeys t.names := by
  obtain ⟨hrows, hmore⟩ := List.forall_mem_append.mp hkeyed
  have hgrows : Schema.RefinesTo (i.ofRows rows) (i.ofRows (rows ++ more)) := by
    rw [ofRows_append (fun rows => sample_eq_self hrefine hsize rows) hne]
    exact refinesTo_foldl_refineAt (ofRows_wellFormed hrows) hmore
  refine ⟨hgrows, fun path s hs => ?_⟩
  obtain ⟨t, ht, hst⟩ := hgrows.exists_inside hs
  exact ⟨t, ht, hst, hst.names_prefix, TypeScript.uniqueKeys_prefix hst.names_prefix⟩

theorem ofRows_append_keeps_nested_keys :
    let i : Inference :=
      { settings := { refineRequired := true, sampleSize := 0 }, encoding := .structured }
    let rows : List Row := [[("late", .null), ("home", .object [("zip code", .bool true)])]]
    let more : List Row := [[("home", .object [("zip_code", .null)]), ("late", .bool true)]]
    Schema.RefinesTo (i.ofRows rows) (i.ofRows (rows ++ more)) ∧
      ∃ t, (i.ofRows (rows ++ more)).inside? ["home"] = some t ∧
        TypeScript.uniqueKeys ["zip code"] <+: TypeScript.uniqueKeys t.names := by
  intro i rows more
  have hkeyed : ∀ row ∈ rows ++ more, (Value.object row).Keyed := by
    simp [rows, more, Value.Keyed, Fields.names, -Prod.forall]
  obtain ⟨hgrows, hinside⟩ := ofRows_append_keeps i rfl rfl (by simp [rows]) hkeyed
  obtain ⟨t, ht, -, -, hkeys⟩ := hinside ["home"] _ rfl
  exact ⟨hgrows, t, ht, hkeys⟩

end Inference

end RowTypings
