import RowTypings.Proofs.Schema.Extension

/-!
Values that leave alone what they made themselves. A list is first judged by its first item and only
later by all of them, and an empty object says nothing of a field without kind but takes every mark
away from one that has since got a schema. A value free of both is regular: folded in twice it does
what it does once, and whatever other values follow, it has nothing to add.
-/

namespace RowTypings.Inference

variable {i : Inference} {depth : Nat}

/-- Above the depth limit, no object that is the value of a field is empty, and a list with an
object among its items gets a schema from its first item which none of its objects changes. -/
def Regular (i : Inference) (depth : Nat) : Value → Prop
  | .object fields =>
    depth < i.settings.maxDepth →
      fields ≠ [] ∧ ∀ f ∈ fields, Regular i (depth + 1) f.2
  | .array items =>
    depth < i.settings.maxDepth → ∀ fields, (h : .object fields ∈ items) →
      (∃ s, i.kindOf depth (.array items) = .objectArray s ∧
        i.refineAt (depth + 1) s fields = s) ∧
      ∀ f ∈ fields, Regular i (depth + 1) f.2
  | _ => True
termination_by v => sizeOf v
decreasing_by
  · exact Value.sizeOf_lt_object ‹_›
  · exact Nat.lt_trans (Value.sizeOf_lt_object ‹_›) (Value.sizeOf_lt_array h)

theorem Regular.object_ne_nil {fields : Row} (h : Regular i depth (.object fields))
    (hdepth : depth < i.settings.maxDepth) : fields ≠ [] := by
  rw [Regular] at h
  exact (h hdepth).1

theorem Regular.field {fields : Row} (h : Regular i depth (.object fields))
    (hdepth : depth < i.settings.maxDepth) {f : String × Value} (hf : f ∈ fields) :
    Regular i (depth + 1) f.2 := by
  rw [Regular] at h
  exact (h hdepth).2 f hf

theorem Regular.kindOf_array {items : List Value} (h : Regular i depth (.array items))
    (hdepth : depth < i.settings.maxDepth) {fields : Row} (hfields : fields ∈ objectsOf items) :
    ∃ s, i.kindOf depth (.array items) = .objectArray s ∧
      i.refineAt (depth + 1) s fields = s := by
  rw [Regular] at h
  exact (h hdepth fields (mem_objectsOf.mp hfields)).1

theorem Regular.itemField {items : List Value} (h : Regular i depth (.array items))
    (hdepth : depth < i.settings.maxDepth) {fields : Row} (hfields : fields ∈ objectsOf items)
    {f : String × Value} (hf : f ∈ fields) : Regular i (depth + 1) f.2 := by
  rw [Regular] at h
  exact (h hdepth fields (mem_objectsOf.mp hfields)).2 f hf

/-! ### A row that changes nothing -/

/-- A field that a row does not have is treated like one that it has no value for. -/
theorem refinedBy_eq (fields : Row) (f : String × Property) :
    i.refinedBy depth fields f =
      i.refineProperty depth ((fields.lookup f.1).getD .null) f.2 := by
  unfold refinedBy
  cases fields.lookup f.1 with
  | none => rfl
  | some v => rfl

theorem refineAt_eq_self_iff {fields : Row} (hfields : (Fields.names fields).Nodup) {s : Schema}
    (hs : s.names.Nodup) :
    i.refineAt depth s fields = s ↔
      (∀ f ∈ s, i.refinedBy depth fields f = f.2) ∧
        ∀ name ∈ Fields.names fields, name ∈ s.names := by
  have hmap : (s.map fun f => (f.1, i.refinedBy depth fields f)) = s ↔
      ∀ f ∈ s, i.refinedBy depth fields f = f.2 := by
    have hid := List.map_inj_left (l := s) (f := fun f => (f.1, i.refinedBy depth fields f))
      (g := id)
    rw [List.map_id] at hid
    rw [hid]
    exact forall₂_congr fun f _ => by simp [Prod.ext_iff]
  have hadded : (fields.filter fun f => f.1 ∉ s.names) = [] ↔
      ∀ name ∈ Fields.names fields, name ∈ s.names := by
    simp [List.filter_eq_nil_iff, Fields.names]
  rw [refineAt_eq hfields hs, ← hmap, ← hadded]
  constructor
  · intro h
    have hlength := congrArg List.length h
    have hnil : (fields.filter fun f => f.1 ∉ s.names) = [] := by
      rw [← List.length_eq_zero_iff]
      simp only [List.length_append, List.length_map] at hlength
      omega
    rw [hnil, List.map_nil, List.append_nil] at h
    exact ⟨h, hnil⟩
  · rintro ⟨h, hnil⟩
    rw [h, hnil, List.map_nil, List.append_nil]

theorem refineProperty_eq_self_of_isAbsent {v : Value} (hv : isAbsent v = true) {p : Property} :
    i.refineProperty depth v p = p ↔ p.required = false := by
  rw [refineProperty_of_isAbsent hv]
  cases p
  simp [Property.optional, eq_comm]

theorem typedLate_eq_self_iff {p : Property} (hp : p.kind.isUnknown = true) {kind : Kind} :
    typedLate p kind = p ↔ kind.isUnknown = true := by
  unfold typedLate
  constructor
  · intro h
    split at h
    · assumption
    · rw [← h] at hp
      exact hp
  · intro h
    rw [if_pos h]

/-- A list of objects none of which changes the schema. -/
theorem foldl_eq_self {objects : List Row} {s : Schema}
    (h : ∀ fields ∈ objects, i.refineAt depth s fields = s) :
    objects.foldl (i.refineAt depth) s = s := by
  induction objects with
  | nil => rfl
  | cons fields rest ih =>
      obtain ⟨hfields, hrest⟩ := List.forall_mem_cons.mp h
      rw [List.foldl_cons, hfields, ih hrest]

/-! ### A value and the kind it gives -/

/-- Folding fields into the schema they give changes nothing if that holds of each of them. -/
theorem refineAt_propertiesOf_of {fields : Row} (hfields : (Fields.names fields).Nodup)
    (hvalues : ∀ f ∈ fields, ∀ p : Property, p.kind = i.kindOf depth f.2 →
      (isAbsent f.2 = true → p.required = false) → i.refineProperty depth f.2 p = p) :
    i.refineAt depth (i.propertiesOf depth fields) fields = i.propertiesOf depth fields := by
  have hnames : Schema.names (i.propertiesOf depth fields) = Fields.names fields :=
    names_propertiesOf fields
  refine (refineAt_eq_self_iff hfields (by rwa [hnames])).mpr ⟨?_, by simp [hnames]⟩
  rw [propertiesOf_eq_map]
  intro f hf
  obtain ⟨⟨name, v⟩, he, rfl⟩ := List.mem_map.mp hf
  rw [refinedBy_eq, Fields.lookup_of_mem hfields he]
  refine hvalues _ he _ rfl fun habsent => ?_
  simp [Property.ofKind, kindOf_isUnknown_of_isAbsent habsent]

/-- A regular value changes nothing about a field that has the kind it gives. -/
theorem refineProperty_kindOf {v : Value} (hv : v.Keyed) (hregular : Regular i depth v)
    {p : Property} (hkind : p.kind = i.kindOf depth v)
    (hrequired : isAbsent v = true → p.required = false) : i.refineProperty depth v p = p := by
  induction v using Value.inductInner generalizing depth p with | inner v ihObject _ => ?_
  rcases refineProperty_cases i depth v p with
    ⟨habsent, -⟩ | ⟨-, hunknown, heq⟩ | ⟨fields, s, rfl, hp, heq⟩ | ⟨items, s, rfl, hp, heq⟩ |
    ⟨-, -, heq⟩
  · exact (refineProperty_eq_self_of_isAbsent habsent).mpr (hrequired habsent)
  · rw [heq, typedLate_eq_self_iff hunknown, ← hkind]
    exact hunknown
  · rcases kindOf_object_cases i depth fields with hk | ⟨hdepth, -, hk⟩
    · rw [hkind, hk] at hp
      cases hp
    · have hs : s = i.propertiesOf (depth + 1) fields := by
        rw [hkind, hk] at hp
        exact (Kind.object.inj hp).symm
      have hkeep : i.refineAt (depth + 1) s fields = s := by
        rw [hs]
        exact refineAt_propertiesOf_of hv.names_nodup fun f hf p =>
          ihObject fields rfl f hf (hv.field hf) (hregular.field hdepth hf)
      rw [heq, hkeep, ← hp]
  · have hkeep : ∀ fields ∈ objectsOf items, i.refineAt (depth + 1) s fields = s := by
      intro fields hfields
      rcases kindOf_array_cases i depth items with hk | ⟨_, _, -, hdepth, -, -⟩
      · rw [hkind, hk] at hp
        cases hp
      · obtain ⟨t, ht, hkeep⟩ := hregular.kindOf_array hdepth hfields
        have hst : s = t := by
          rw [hkind, ht] at hp
          exact (Kind.objectArray.inj hp).symm
        rw [hst]
        exact hkeep
    rw [heq, foldl_eq_self hkeep, ← hp]
  · exact heq

/-! ### What was settled stays settled -/

/-- Where the schema of a field comes from after one more value: there was none before, or objects
were folded into the one there was. -/
theorem kind_refineProperty_nested {make : Schema → Kind}
    (hmake : make = .object ∨ make = .objectArray) {w : Value} (hw : w.Keyed) {p : Property}
    {t : Schema} (h : (i.refineProperty depth w p).kind = make t) :
    p.kind.isUnknown = true ∨ ∃ (s : Schema) (objects : List Row), p.kind = make s ∧
      (∀ fields ∈ objects, (Value.object fields).Keyed) ∧
      t = objects.foldl (i.refineAt (depth + 1)) s := by
  rcases refineProperty_cases i depth w p with
    ⟨-, heq⟩ | ⟨-, hunknown, -⟩ | ⟨fields, s, rfl, hp, heq⟩ | ⟨items, s, rfl, hp, heq⟩ |
    ⟨-, -, heq⟩
  · exact .inr ⟨t, [], by rwa [heq] at h, by simp, rfl⟩
  · exact .inl hunknown
  · rw [heq] at h
    rcases hmake with rfl | rfl
    · exact .inr ⟨s, [fields], hp, by simpa using hw, (Kind.object.inj h).symm⟩
    · cases h
  · rw [heq] at h
    rcases hmake with rfl | rfl
    · cases h
    · exact .inr ⟨s, objectsOf items, hp, fun fields hf => hw.item (mem_objectsOf.mp hf),
        (Kind.objectArray.inj h).symm⟩
  · exact .inr ⟨t, [], by rwa [heq] at h, by simp, rfl⟩

/-- Where the value changes nothing about a field, it changes nothing after another value either. -/
def Steady (i : Inference) (depth : Nat) (v : Value) : Prop :=
  ∀ w : Value, w.Keyed → ∀ p : Property, Kind.WellFormed i.settings.maxDepth depth p.kind →
    i.refineProperty depth v p = p →
    i.refineProperty depth v (i.refineProperty depth w p) = i.refineProperty depth w p

/-- An object that changes nothing about a schema changes nothing about it after another object
either, if the same holds of its values one by one. -/
theorem refineAt_keep_of {fields others : Row} (hfields : (Value.object fields).Keyed)
    (hothers : (Value.object others).Keyed) {s : Schema}
    (hs : Schema.WellFormed i.settings.maxDepth depth s)
    (hvalues : ∀ f ∈ fields, i.Steady depth f.2)
    (hkeep : i.refineAt depth s fields = s) :
    i.refineAt depth (i.refineAt depth s others) fields = i.refineAt depth s others := by
  have hnext := refineAt_wellFormed hothers hs
  obtain ⟨hfixed, hknown⟩ := (refineAt_eq_self_iff hfields.names_nodup hs.nodup).mp hkeep
  refine (refineAt_eq_self_iff hfields.names_nodup hnext.nodup).mpr ⟨?_, ?_⟩
  · rintro ⟨name, q⟩ hq
    rcases (mem_refineAt hothers.names_nodup hs.nodup).mp hq with
      ⟨p, hp, rfl⟩ | ⟨v, -, hnot, rfl⟩
    · have hbefore := hfixed (name, p) hp
      have hother : ((others.lookup name).getD .null).Keyed := by
        cases hlookup : others.lookup name with
        | none => simp [Value.Keyed]
        | some w => exact hothers.field (Fields.mem_of_lookup hlookup)
      rw [refinedBy_eq] at hbefore ⊢
      rw [refinedBy_eq]
      dsimp only at hbefore ⊢
      cases hlookup : fields.lookup name with
      | none =>
          rw [hlookup] at hbefore
          have hrequired := (refineProperty_eq_self_of_isAbsent rfl).mp hbefore
          refine (refineProperty_eq_self_of_isAbsent rfl).mpr ?_
          simp [refineProperty_required, hrequired]
      | some v =>
          rw [hlookup] at hbefore
          exact hvalues (name, v) (Fields.mem_of_lookup hlookup) _ hother p (hs.kind hp) hbefore
    -- a field that the other object added is one that this object does not have
    · have hnone : fields.lookup name = none := by
        refine Fields.lookup_eq_none_iff.mpr fun hmem => hnot (hknown name hmem)
      simp [refinedBy, hnone, addedBy, Property.optional]
  · intro name hname
    rw [names_refineAt hothers.names_nodup hs.nodup]
    exact List.mem_append_left _ (hknown name hname)

/-- The same after any number of other objects. -/
theorem foldl_refineAt_keep_of {fields : Row} {others : List Row}
    (hfields : (Value.object fields).Keyed) (hothers : ∀ r ∈ others, (Value.object r).Keyed)
    {s : Schema} (hs : Schema.WellFormed i.settings.maxDepth depth s)
    (hvalues : ∀ f ∈ fields, i.Steady depth f.2)
    (hkeep : i.refineAt depth s fields = s) :
    i.refineAt depth (others.foldl (i.refineAt depth) s) fields =
      others.foldl (i.refineAt depth) s := by
  induction others generalizing s with
  | nil => exact hkeep
  | cons other rest ih =>
      obtain ⟨hother, hrest⟩ := List.forall_mem_cons.mp hothers
      exact ih hrest (refineAt_wellFormed hother hs)
        (refineAt_keep_of hfields hother hs hvalues hkeep)

theorem isUnknown_kindOf_of_keep {v : Value} (hv : isAbsent v = false) {p : Property}
    (hp : p.kind.isUnknown = true) (hkeep : i.refineProperty depth v p = p) :
    (i.kindOf depth v).isUnknown = true := by
  rw [refineProperty_of_isUnknown hv hp] at hkeep
  exact (typedLate_eq_self_iff hp).mp hkeep

theorem steady_of_regular {v : Value} (hv : v.Keyed) (hregular : Regular i depth v) :
    i.Steady depth v := by
  induction v using Value.inductInner generalizing depth with | inner v ihObject ihArray => ?_
  intro w hw p hp hkeep
  have hnext := refineProperty_wellFormed hw hp
  rcases refineProperty_cases i depth v (i.refineProperty depth w p) with
    ⟨habsent, -⟩ | ⟨habsent, hunknown, heq⟩ | ⟨fields, t, rfl, ht, heq⟩ |
    ⟨items, t, rfl, ht, heq⟩ | ⟨-, -, heq⟩
  · have hrequired := (refineProperty_eq_self_of_isAbsent habsent).mp hkeep
    refine (refineProperty_eq_self_of_isAbsent habsent).mpr ?_
    simp [refineProperty_required, hrequired]
  · have hbefore : p.kind.isUnknown = true := by
      by_contra hknown
      rw [refineProperty_isUnknown (Bool.eq_false_iff.mpr hknown)] at hunknown
      cases hunknown
    rw [heq]
    exact (typedLate_eq_self_iff hunknown).mpr (isUnknown_kindOf_of_keep habsent hbefore hkeep)
  · obtain ⟨hdepth, -, -⟩ := hnext.inside (congrArg Kind.nested? ht)
    rcases kind_refineProperty_nested (.inl rfl) hw ht with
      hbefore | ⟨s, objects, hs, hobjects, rfl⟩
    -- the object would have told the kind, for it is not empty
    · have hkind := isUnknown_kindOf_of_keep rfl hbefore hkeep
      rw [kindOf_object hdepth (hregular.object_ne_nil hdepth)] at hkind
      cases hkind
    · obtain ⟨-, -, hwell⟩ := hp.inside (congrArg Kind.nested? hs)
      have hfixed : i.refineAt (depth + 1) s fields = s := by
        rw [refineProperty_object hs] at hkeep
        have hkind := congrArg Described.kind hkeep
        rw [hs] at hkind
        exact Kind.object.inj hkind
      have hafter := foldl_refineAt_keep_of hv hobjects hwell
        (fun f hf => ihObject fields rfl f hf (hv.field hf) (hregular.field hdepth hf)) hfixed
      rw [heq, hafter, ← ht]
  · obtain ⟨hdepth, -, -⟩ := hnext.inside (congrArg Kind.nested? ht)
    have hafter : ∀ fields ∈ objectsOf items, i.refineAt (depth + 1) t fields = t := by
      intro fields hfields
      rcases kind_refineProperty_nested (.inr rfl) hw ht with
        hbefore | ⟨s, objects, hs, hobjects, rfl⟩
      · have hkind := isUnknown_kindOf_of_keep rfl hbefore hkeep
        obtain ⟨s, hs, -⟩ := hregular.kindOf_array hdepth hfields
        rw [hs] at hkind
        cases hkind
      · obtain ⟨-, -, hwell⟩ := hp.inside (congrArg Kind.nested? hs)
        have hfold : (objectsOf items).foldl (i.refineAt (depth + 1)) s = s := by
          rw [refineProperty_objectArray hs] at hkeep
          have hkind := congrArg Described.kind hkeep
          rw [hs] at hkind
          exact Kind.objectArray.inj hkind
        have hitems : ∀ r ∈ objectsOf items, (Value.object r).Keyed :=
          fun r hr => hv.item (mem_objectsOf.mp hr)
        -- the list as a whole changes nothing, so none of its objects does
        have hfixed := refineAt_eq_self_of_foldl hwell hitems hfold fields hfields
        refine foldl_refineAt_keep_of (hitems fields hfields) hobjects hwell (fun f hf => ?_) hfixed
        exact ihArray items rfl fields (mem_objectsOf.mp hfields) f hf
          ((hitems fields hfields).field hf) (hregular.itemField hdepth hfields hf)
    rw [heq, foldl_eq_self hafter, ← ht]
  · exact heq

/-! ### The same value twice -/

theorem foldl_refineAt_keep {fields : Row} {others : List Row}
    (hfields : (Value.object fields).Keyed) (hregular : ∀ f ∈ fields, Regular i depth f.2)
    (hothers : ∀ r ∈ others, (Value.object r).Keyed) {s : Schema}
    (hs : Schema.WellFormed i.settings.maxDepth depth s)
    (hkeep : i.refineAt depth s fields = s) :
    i.refineAt depth (others.foldl (i.refineAt depth) s) fields =
      others.foldl (i.refineAt depth) s :=
  foldl_refineAt_keep_of hfields hothers hs
    (fun f hf => steady_of_regular (hfields.field hf) (hregular f hf)) hkeep

/-- An object folded in twice is an object folded in once, if the same holds of its values. -/
theorem refineAt_refineAt_of {fields : Row} (hfields : (Value.object fields).Keyed)
    (hregular : ∀ f ∈ fields, Regular i depth f.2) {s : Schema}
    (hs : Schema.WellFormed i.settings.maxDepth depth s)
    (hvalues : ∀ f ∈ fields, ∀ p : Property, Kind.WellFormed i.settings.maxDepth depth p.kind →
      i.refineProperty depth f.2 (i.refineProperty depth f.2 p) =
        i.refineProperty depth f.2 p) :
    i.refineAt depth (i.refineAt depth s fields) fields = i.refineAt depth s fields := by
  have hnames : (i.refineAt depth s fields).names =
      s.names ++ (Fields.names fields).filter fun name => name ∉ s.names :=
    names_refineAt hfields.names_nodup hs.nodup
  refine (refineAt_eq_self_iff hfields.names_nodup
    (nodup_names_refineAt hfields.names_nodup hs.nodup)).mpr ⟨?_, ?_⟩
  · rintro ⟨name, q⟩ hq
    rcases (mem_refineAt hfields.names_nodup hs.nodup).mp hq with
      ⟨p, hp, rfl⟩ | ⟨v, hv, -, rfl⟩
    · simp only [refinedBy_eq]
      cases hlookup : fields.lookup name with
      | none =>
          refine (refineProperty_eq_self_of_isAbsent rfl).mpr ?_
          simp [refineProperty_required, isAbsent]
      | some v => exact hvalues (name, v) (Fields.mem_of_lookup hlookup) p (hs.kind hp)
    -- a field that the object has just added meets the value it was made from
    · rw [refinedBy_eq, Fields.lookup_of_mem hfields.names_nodup hv]
      exact refineProperty_kindOf (hfields.field hv) (hregular _ hv) rfl fun _ => rfl
  · intro name hname
    rw [hnames, List.mem_append, List.mem_filter, decide_eq_true_eq]
    exact (em (name ∈ s.names)).imp_right fun hnot => ⟨hname, hnot⟩

/-- An object among those folded in changes nothing when it comes again. -/
theorem refineAt_foldl_of_mem {objects : List Row}
    (hobjects : ∀ r ∈ objects, (Value.object r).Keyed) {fields : Row} (hmem : fields ∈ objects)
    (hregular : ∀ f ∈ fields, Regular i depth f.2) {s : Schema}
    (hs : Schema.WellFormed i.settings.maxDepth depth s)
    (htwice : ∀ t : Schema, Schema.WellFormed i.settings.maxDepth depth t →
      i.refineAt depth (i.refineAt depth t fields) fields = i.refineAt depth t fields) :
    i.refineAt depth (objects.foldl (i.refineAt depth) s) fields =
      objects.foldl (i.refineAt depth) s := by
  have hfields := hobjects fields hmem
  obtain ⟨before, after, rfl⟩ := List.append_of_mem hmem
  rw [List.foldl_append, List.foldl_cons]
  have hbefore : Schema.WellFormed i.settings.maxDepth depth
      (before.foldl (i.refineAt depth) s) :=
    foldl_refineAt_wellFormed hs fun r hr => hobjects r (List.mem_append_left _ hr)
  exact foldl_refineAt_keep hfields hregular
    (fun r hr => hobjects r (List.mem_append_right _ (List.mem_cons_of_mem _ hr)))
    (refineAt_wellFormed hfields hbefore) (htwice _ hbefore)

theorem refineProperty_refineProperty {v : Value} (hv : v.Keyed)
    (hregular : Regular i depth v) {p : Property}
    (hp : Kind.WellFormed i.settings.maxDepth depth p.kind) :
    i.refineProperty depth v (i.refineProperty depth v p) = i.refineProperty depth v p := by
  induction v using Value.inductInner generalizing depth p with | inner v ihObject ihArray => ?_
  rcases refineProperty_cases i depth v p with
    ⟨habsent, heq⟩ | ⟨habsent, -, heq⟩ | ⟨fields, s, rfl, hs, heq⟩ |
    ⟨items, s, rfl, hs, heq⟩ | ⟨-, -, heq⟩
  · rw [heq]
    exact (refineProperty_eq_self_of_isAbsent habsent).mpr rfl
  · by_cases hkind : (i.kindOf depth v).isUnknown = true
    · rw [typedLate, if_pos hkind] at heq
      rw [heq, heq]
    · rw [heq, typedLate, if_neg hkind]
      refine refineProperty_kindOf hv hregular rfl fun h => ?_
      rw [h] at habsent
      cases habsent
  · obtain ⟨hdepth, -, hwell⟩ := hp.inside (congrArg Kind.nested? hs)
    have hfields : ∀ f ∈ fields, Regular i (depth + 1) f.2 := fun f => hregular.field hdepth
    rw [heq, refineProperty_object rfl]
    rw [refineAt_refineAt_of hv hfields hwell
      fun f hf q => ihObject fields rfl f hf (hv.field hf) (hfields f hf)]
  · obtain ⟨hdepth, -, hwell⟩ := hp.inside (congrArg Kind.nested? hs)
    have hitems : ∀ r ∈ objectsOf items, (Value.object r).Keyed :=
      fun r hr => hv.item (mem_objectsOf.mp hr)
    have hafter : ∀ fields ∈ objectsOf items,
        i.refineAt (depth + 1) ((objectsOf items).foldl (i.refineAt (depth + 1)) s) fields =
          (objectsOf items).foldl (i.refineAt (depth + 1)) s := by
      intro fields hfields
      have hvalues : ∀ f ∈ fields, Regular i (depth + 1) f.2 :=
        fun f => hregular.itemField hdepth hfields
      refine refineAt_foldl_of_mem hitems hfields hvalues hwell fun t ht => ?_
      exact refineAt_refineAt_of (hitems fields hfields) hvalues ht fun f hf q =>
        ihArray items rfl fields (mem_objectsOf.mp hfields) f hf
          ((hitems fields hfields).field hf) (hvalues f hf)
    rw [heq, refineProperty_objectArray rfl, foldl_eq_self hafter]
  · rw [heq, heq]

theorem refineAt_refineAt {fields : Row} (hfields : (Value.object fields).Keyed)
    (hregular : ∀ f ∈ fields, Regular i depth f.2) {s : Schema}
    (hs : Schema.WellFormed i.settings.maxDepth depth s) :
    i.refineAt depth (i.refineAt depth s fields) fields = i.refineAt depth s fields :=
  refineAt_refineAt_of hfields hregular hs
    fun f hf _ => refineProperty_refineProperty (hfields.field hf) (hregular f hf)

end RowTypings.Inference
