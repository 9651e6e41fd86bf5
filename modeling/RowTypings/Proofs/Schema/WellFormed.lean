import RowTypings.Proofs.Schema.Refinement

/-!
The shape of every inferred schema, whatever rows it was sampled from: names stand once, a field is
described by its name, only fields of known kind are required, nested schemas are not empty, and
none lies below the depth limit. A value gives a kind of that shape, and refinement keeps it.
-/

namespace RowTypings

/-- To prove something of every kind, prove it of kinds with a schema from the schema's fields. -/
@[elab_as_elim]
theorem Kind.induct {P : Kind → Prop} (unknown : ∀ shape, P (.unknown shape))
    (numeric : P .numeric) (boolean : P .boolean) (dateTime : P .dateTime) (text : P .text)
    (object : ∀ s : Schema, (∀ f ∈ s, P f.2.kind) → P (.object s))
    (objectArray : ∀ s : Schema, (∀ f ∈ s, P f.2.kind) → P (.objectArray s)) (kind : Kind) :
    P kind :=
  @Kind.rec P (fun s => ∀ f ∈ s, P f.2.kind) (fun f => P f.2.kind) (fun p => P p.kind)
    unknown numeric boolean dateTime text object objectArray (by simp)
    (fun _ _ hf hs => List.forall_mem_cons.mpr ⟨hf, hs⟩) (fun _ _ hp => hp)
    (fun _ _ _ hk => hk) kind

/-- To prove something of every kind, prove it from the fields of the schema within, if there is
one. -/
@[elab_as_elim]
theorem Kind.inductNested {P : Kind → Prop}
    (inner : ∀ kind, (∀ s, kind.nested? = some s → ∀ f ∈ s, P f.2.kind) → P kind) (kind : Kind) :
    P kind := by
  induction kind using Kind.induct with
  | object s ih => exact inner _ fun _ hs => Option.some.inj hs ▸ ih
  | objectArray s ih => exact inner _ fun _ hs => Option.some.inj hs ▸ ih
  | _ => exact inner _ fun _ hs => nomatch hs

mutual

/-- The kind of a field that stands at `depth`. -/
inductive Kind.WellFormed (maxDepth : Nat) : Nat → Kind → Prop
  | flat {depth : Nat} {kind : Kind} (h : kind.nested? = none) :
      Kind.WellFormed maxDepth depth kind
  | object {depth : Nat} {s : Schema} (hdepth : depth < maxDepth) (hne : s ≠ [])
      (hs : Schema.WellFormed maxDepth (depth + 1) s) :
      Kind.WellFormed maxDepth depth (.object s)
  | objectArray {depth : Nat} {s : Schema} (hdepth : depth < maxDepth) (hne : s ≠ [])
      (hs : Schema.WellFormed maxDepth (depth + 1) s) :
      Kind.WellFormed maxDepth depth (.objectArray s)

/-- A schema whose fields stand at `depth`. -/
inductive Schema.WellFormed (maxDepth : Nat) : Nat → Schema → Prop
  | intro {depth : Nat} {s : Schema} (names : s.names.Nodup)
      (descriptions : ∀ f ∈ s, f.2.description = f.1)
      (known : ∀ f ∈ s, f.2.required = true → f.2.kind.isUnknown = false)
      (kinds : ∀ f ∈ s, Kind.WellFormed maxDepth depth f.2.kind) :
      Schema.WellFormed maxDepth depth s

end

/-- What stands inside a kind with a schema. -/
theorem Kind.WellFormed.inside {maxDepth depth : Nat} {kind : Kind} {s : Schema}
    (h : Kind.WellFormed maxDepth depth kind) (hkind : kind.nested? = some s) :
    depth < maxDepth ∧ s ≠ [] ∧ Schema.WellFormed maxDepth (depth + 1) s := by
  cases h with
  | flat hflat =>
      rw [hflat] at hkind
      cases hkind
  | object hdepth hne hs =>
      cases hkind
      exact ⟨hdepth, hne, hs⟩
  | objectArray hdepth hne hs =>
      cases hkind
      exact ⟨hdepth, hne, hs⟩

namespace Schema.WellFormed

variable {maxDepth depth : Nat} {s : Schema}

theorem nodup (h : Schema.WellFormed maxDepth depth s) : s.names.Nodup := by
  cases h
  assumption

theorem description_eq (h : Schema.WellFormed maxDepth depth s) {f : String × Property}
    (hf : f ∈ s) : f.2.description = f.1 := by
  cases h with
  | intro _ descriptions _ _ => exact descriptions f hf

theorem isUnknown_eq_false (h : Schema.WellFormed maxDepth depth s) {f : String × Property}
    (hf : f ∈ s) (hrequired : f.2.required = true) : f.2.kind.isUnknown = false := by
  cases h with
  | intro _ _ known _ => exact known f hf hrequired

theorem kind (h : Schema.WellFormed maxDepth depth s) {f : String × Property} (hf : f ∈ s) :
    Kind.WellFormed maxDepth depth f.2.kind := by
  cases h with
  | intro _ _ _ kinds => exact kinds f hf

end Schema.WellFormed

namespace Inference

variable {i : Inference} {depth : Nat}

/-! ### First values -/

theorem propertiesOf_wellFormed {fields : List (String × Value)}
    (hnames : (Fields.names fields).Nodup)
    (hkinds : ∀ f ∈ fields, Kind.WellFormed i.settings.maxDepth depth (i.kindOf depth f.2)) :
    Schema.WellFormed i.settings.maxDepth depth (i.propertiesOf depth fields) := by
  have hmem : ∀ f ∈ i.propertiesOf depth fields, ∃ e ∈ fields,
      f = (e.1, Property.ofKind (i.kindOf depth e.2) e.1) := by
    intro f hf
    rw [propertiesOf_eq_map] at hf
    obtain ⟨e, he, rfl⟩ := List.mem_map.mp hf
    exact ⟨e, he, rfl⟩
  refine .intro (by rwa [names_propertiesOf]) ?_ ?_ ?_
  · intro f hf
    obtain ⟨e, -, rfl⟩ := hmem f hf
    rfl
  · intro f hf hrequired
    obtain ⟨e, -, rfl⟩ := hmem f hf
    simpa [Property.ofKind] using hrequired
  · intro f hf
    obtain ⟨e, he, rfl⟩ := hmem f hf
    exact hkinds e he

theorem kindOf_wellFormed {v : Value} (hv : v.Keyed) :
    Kind.WellFormed i.settings.maxDepth depth (i.kindOf depth v) := by
  induction v using Value.induct generalizing depth with
  | null => exact .flat rfl
  | bool b => exact .flat rfl
  | number n => exact .flat rfl
  | text s =>
      refine .flat ?_
      simp only [kindOf, kindOfText]
      split_ifs <;> rfl
  | object fields ih =>
      rcases kindOf_object_cases i depth fields with heq | ⟨hdepth, hfields, heq⟩
      · rw [heq]
        exact .flat rfl
      · rw [heq]
        refine .object hdepth (by simpa [propertiesOf_eq_map] using hfields) ?_
        exact propertiesOf_wellFormed hv.names_nodup fun f hf => ih f hf (hv.field hf)
  | array items ih =>
      rcases kindOf_array_cases i depth items with heq | ⟨fields, rest, rfl, hdepth, hfields, heq⟩
      · rw [heq]
        exact .flat rfl
      · rw [heq]
        have hfirst : Kind.WellFormed i.settings.maxDepth depth (i.kindOf depth (.object fields)) :=
          ih _ List.mem_cons_self (hv.item List.mem_cons_self)
        rw [kindOf_object hdepth hfields] at hfirst
        obtain ⟨-, hne, hs⟩ := hfirst.inside rfl
        exact .objectArray hdepth hne hs

theorem ofRow_wellFormed {row : Row} (hrow : (Value.object row).Keyed) :
    Schema.WellFormed i.settings.maxDepth 0 (i.ofRow row) :=
  propertiesOf_wellFormed hrow.names_nodup fun _ hf => kindOf_wellFormed (hrow.field hf)

/-! ### Later values -/

theorem typedLate_wellFormed {p : Property} {kind : Kind}
    (hp : Kind.WellFormed i.settings.maxDepth depth p.kind)
    (hkind : Kind.WellFormed i.settings.maxDepth depth kind) :
    Kind.WellFormed i.settings.maxDepth depth (typedLate p kind).kind := by
  unfold typedLate
  split
  · exact hp
  · exact hkind

/-- Folding an object in keeps the shape of a schema if each of its values keeps that of a field. -/
theorem refineAt_wellFormed_of {fields : Row} (hfields : (Value.object fields).Keyed)
    (hvalues : ∀ f ∈ fields, ∀ p : Property, Kind.WellFormed i.settings.maxDepth depth p.kind →
      Kind.WellFormed i.settings.maxDepth depth (i.refineProperty depth f.2 p).kind)
    {s : Schema} (hs : Schema.WellFormed i.settings.maxDepth depth s) :
    Schema.WellFormed i.settings.maxDepth depth (i.refineAt depth s fields) := by
  have hnames := hfields.names_nodup
  have hmem : ∀ {name q}, (name, q) ∈ i.refineAt depth s fields → _ :=
    (mem_refineAt hnames hs.nodup).mp
  refine .intro (nodup_names_refineAt hnames hs.nodup) ?_ ?_ ?_
  · rintro ⟨name, q⟩ hq
    rcases hmem hq with ⟨p, hp, rfl⟩ | ⟨v, -, -, rfl⟩
    · exact (refinedBy_description fields (name, p)).trans (hs.description_eq hp)
    · rfl
  · rintro ⟨name, q⟩ hq hrequired
    rcases hmem hq with ⟨p, hp, rfl⟩ | ⟨v, -, -, rfl⟩
    · exact refinedBy_isUnknown (hs.isUnknown_eq_false hp (refinedBy_required.mp hrequired).1)
    · cases hrequired
  · rintro ⟨name, q⟩ hq
    rcases hmem hq with ⟨p, hp, rfl⟩ | ⟨v, hv, -, rfl⟩
    · have hkind : Kind.WellFormed i.settings.maxDepth depth p.kind := hs.kind hp
      unfold refinedBy
      split
      · rename_i v hlookup
        exact hvalues _ (Fields.mem_of_lookup hlookup) p hkind
      · exact hkind
    · exact kindOf_wellFormed (hfields.field hv)

theorem refineAt_ne_nil {fields : Row} (hfields : (Value.object fields).Keyed) {s : Schema}
    (hs : Schema.WellFormed i.settings.maxDepth depth s) (hne : s ≠ []) :
    i.refineAt depth s fields ≠ [] := by
  rw [refineAt_eq hfields.names_nodup hs.nodup]
  simp [hne]

theorem refineProperty_wellFormed {v : Value} (hv : v.Keyed) {p : Property}
    (hp : Kind.WellFormed i.settings.maxDepth depth p.kind) :
    Kind.WellFormed i.settings.maxDepth depth (i.refineProperty depth v p).kind := by
  induction v using Value.inductInner generalizing depth p with | inner v ihObject ihArray => ?_
  rcases refineProperty_cases i depth v p with
    ⟨-, heq⟩ | ⟨-, -, heq⟩ | ⟨fields, s, rfl, hkind, heq⟩ | ⟨items, s, rfl, hkind, heq⟩ |
    ⟨-, -, heq⟩
  · rw [heq]
    exact hp
  · rw [heq]
    exact typedLate_wellFormed hp (kindOf_wellFormed hv)
  · rw [heq]
    obtain ⟨hdepth, hne, hs⟩ := hp.inside (congrArg Kind.nested? hkind)
    refine .object hdepth (refineAt_ne_nil hv hs hne) ?_
    exact refineAt_wellFormed_of hv (fun f hf p => ihObject fields rfl f hf (hv.field hf)) hs
  · rw [heq]
    obtain ⟨hdepth, hne, hs⟩ := hp.inside (congrArg Kind.nested? hkind)
    -- every object of the list finds a schema that is still well formed and not empty
    have hfold := List.foldlRecOn (objectsOf items) (i.refineAt (depth + 1))
      (motive := fun t => t ≠ [] ∧ Schema.WellFormed i.settings.maxDepth (depth + 1) t)
      ⟨hne, hs⟩ fun t ht fields hfields => by
        have hmem : .object fields ∈ items := mem_objectsOf.mp hfields
        have hitem : (Value.object fields).Keyed := hv.item hmem
        refine ⟨refineAt_ne_nil hitem ht.2 ht.1, ?_⟩
        exact refineAt_wellFormed_of hitem
          (fun f hf p => ihArray items rfl fields hmem f hf (hitem.field hf)) ht.2
    exact .objectArray hdepth hfold.1 hfold.2
  · rw [heq]
    exact hp

theorem refineAt_wellFormed {row : Row} (hrow : (Value.object row).Keyed) {s : Schema}
    (hs : Schema.WellFormed i.settings.maxDepth depth s) :
    Schema.WellFormed i.settings.maxDepth depth (i.refineAt depth s row) :=
  refineAt_wellFormed_of hrow (fun _ hf _ hp => refineProperty_wellFormed (hrow.field hf) hp) hs

theorem foldl_refineAt_wellFormed {s : Schema}
    (hs : Schema.WellFormed i.settings.maxDepth depth s) {objects : List Row}
    (hobjects : ∀ fields ∈ objects, (Value.object fields).Keyed) :
    Schema.WellFormed i.settings.maxDepth depth (objects.foldl (i.refineAt depth) s) :=
  List.foldlRecOn objects (i.refineAt depth) hs
    fun _ ht fields hfields => refineAt_wellFormed (hobjects fields hfields) ht

theorem sample_subset {α : Type} (settings : InferenceSettings) (rows : List α) :
    settings.sample rows ⊆ rows := by
  unfold InferenceSettings.sample
  split_ifs
  · exact List.take_subset _ _
  · exact List.Subset.refl _
  · exact List.take_subset _ _

/-- Every schema inferred from rows has the shape of one. -/
theorem ofRows_wellFormed {rows : List Row} (hrows : ∀ row ∈ rows, (Value.object row).Keyed) :
    Schema.WellFormed i.settings.maxDepth 0 (i.ofRows rows) := by
  have hsample : ∀ row ∈ i.settings.sample rows, (Value.object row).Keyed :=
    fun row hrow => hrows row (sample_subset _ _ hrow)
  unfold ofRows
  split
  · exact .intro List.nodup_nil (by simp) (by simp) (by simp)
  · rename_i first later heq
    rw [heq] at hsample
    obtain ⟨hfirst, hlater⟩ := List.forall_mem_cons.mp hsample
    exact foldl_refineAt_wellFormed (ofRow_wellFormed hfirst) hlater

end Inference

end RowTypings
