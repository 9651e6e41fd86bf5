import RowTypings.Schema.Inference
import RowTypings.Proofs.Json.Keyed

/-!
What one later object does to a schema. Refinement goes through the fields of the object; the
equation `refineAt_eq` says the same from the side of the schema: every field keeps its place and
becomes what the object's value of that name makes of it, and the object's other fields follow in
their own order. Everything about sampled rows is derived from it.
-/

namespace RowTypings.Inference

variable {i : Inference} {depth : Nat}

/-! ### Kinds of values -/

theorem propertiesOf_eq_map (fields : List (String × Value)) :
    i.propertiesOf depth fields =
      fields.map fun f => (f.1, Property.ofKind (i.kindOf depth f.2) f.1) := by
  induction fields with
  | nil => rfl
  | cons f rest ih => rw [propertiesOf, ih, List.map_cons]

@[simp] theorem names_propertiesOf (fields : List (String × Value)) :
    Schema.names (i.propertiesOf depth fields) = Fields.names fields := by
  simp [propertiesOf_eq_map, Schema.names, Fields.names]

theorem kindOf_object {fields : List (String × Value)} (hdepth : depth < i.settings.maxDepth)
    (hfields : fields ≠ []) :
    i.kindOf depth (.object fields) = .object (i.propertiesOf (depth + 1) fields) := by
  simp [kindOf, hfields, Nat.not_le.mpr hdepth]

theorem kindOf_array_object {fields : List (String × Value)} {rest : List Value}
    (hdepth : depth < i.settings.maxDepth) (hfields : fields ≠ []) :
    i.kindOf depth (.array (.object fields :: rest)) =
      .objectArray (i.propertiesOf (depth + 1) fields) := by
  simp [kindOf, kindOfItems, hfields, Nat.not_le.mpr hdepth]

/-- An object gives a schema unless it is empty or lies too deep. -/
theorem kindOf_object_cases (i : Inference) (depth : Nat) (fields : List (String × Value)) :
    i.kindOf depth (.object fields) = .unknown .object ∨
      depth < i.settings.maxDepth ∧ fields ≠ [] ∧
        i.kindOf depth (.object fields) = .object (i.propertiesOf (depth + 1) fields) := by
  by_cases hdepth : depth < i.settings.maxDepth
  · by_cases hfields : fields = []
    · subst hfields
      exact .inl rfl
    · exact .inr ⟨hdepth, hfields, kindOf_object hdepth hfields⟩
  · exact .inl (by simp [kindOf, Nat.not_lt.mp hdepth])

/-- A list gives a schema only by its first item, which then is an object that gives one. -/
theorem kindOf_array_cases (i : Inference) (depth : Nat) (items : List Value) :
    i.kindOf depth (.array items) = .unknown .array ∨
      ∃ fields rest, items = .object fields :: rest ∧ depth < i.settings.maxDepth ∧ fields ≠ [] ∧
        i.kindOf depth (.array items) = .objectArray (i.propertiesOf (depth + 1) fields) := by
  rcases items with _ | ⟨v, rest⟩
  · exact .inl rfl
  cases v with
  | object fields =>
      by_cases hdepth : depth < i.settings.maxDepth
      · by_cases hfields : fields = []
        · subst hfields
          exact .inl rfl
        · exact .inr ⟨fields, rest, rfl, hdepth, hfields, kindOf_array_object hdepth hfields⟩
      · exact .inl (by simp [kindOf, kindOfItems, Nat.not_lt.mp hdepth])
  | _ => exact .inl rfl

/-- A value that says nothing gives its field no kind. -/
theorem kindOf_isUnknown_of_isAbsent {v : Value} (h : isAbsent v = true) :
    (i.kindOf depth v).isUnknown = true := by
  cases v with
  | null => rfl
  | text s => simp only [kindOf, kindOfText, show Text.isBlankText s = true from h, if_true]; rfl
  | bool b => cases h
  | number n => cases h
  | array items => cases h
  | object fields => cases h

/-- A value that gives its field a kind is neither null nor blank. -/
theorem isAbsent_eq_false {v : Value} (h : (i.kindOf depth v).isUnknown = false) :
    isAbsent v = false := by
  cases hv : isAbsent v with
  | false => rfl
  | true =>
      rw [kindOf_isUnknown_of_isAbsent hv] at h
      cases h

theorem layout_isSome_iff (t : String) :
    (Time.layout? t).isSome = true ↔ (Time.instant? t).isSome = true := by
  simp [Time.layout?, Time.instant?]

/-- Text is told to be of a kind only by what reading it as that kind gives. -/
theorem kindOfText_cases (i : Inference) (t : String) :
    (Text.isBlankText t = true ∧ i.kindOfText t = .unknown .scalar) ∨
    (Text.isBlankText t = false ∧
      ((∃ n, Number.ofText? t = some n ∧ i.kindOfText t = .numeric) ∨
        (∃ b, booleanOfText? t = some b ∧ i.kindOfText t = .boolean) ∨
        (∃ instant, Time.instant? t = some instant ∧ i.kindOfText t = .dateTime) ∨
        i.kindOfText t = .text)) := by
  unfold kindOfText
  split_ifs with hblank hnumber hboolean hdate
  · exact .inl ⟨hblank, rfl⟩
  · obtain ⟨n, hn⟩ := Option.isSome_iff_exists.mp (Bool.and_eq_true_iff.mp hnumber).2
    exact .inr ⟨Bool.eq_false_iff.mpr hblank, .inl ⟨n, hn, rfl⟩⟩
  · obtain ⟨b, hb⟩ := Option.isSome_iff_exists.mp (Bool.and_eq_true_iff.mp hboolean).2
    exact .inr ⟨Bool.eq_false_iff.mpr hblank, .inr (.inl ⟨b, hb, rfl⟩)⟩
  · rw [Bool.and_eq_true, layout_isSome_iff] at hdate
    obtain ⟨instant, hinstant⟩ := Option.isSome_iff_exists.mp hdate.2
    exact .inr ⟨Bool.eq_false_iff.mpr hblank, .inr (.inr (.inl ⟨instant, hinstant, rfl⟩))⟩
  · exact .inr ⟨Bool.eq_false_iff.mpr hblank, .inr (.inr (.inr rfl))⟩

/-! ### The first row -/

theorem ofRows_singleton (i : Inference) (row : Row) : i.ofRows [row] = i.ofRow row := by
  have hsample : i.settings.sample [row] = [row] := by
    unfold InferenceSettings.sample
    split_ifs with hrefine hsize
    · rfl
    · rfl
    · exact List.take_of_length_le (Nat.one_le_iff_ne_zero.mpr (by simpa using hsize))
  simp [ofRows, hsample]

theorem mem_ofRow_iff {row : Row} {f : String × Property} :
    f ∈ i.ofRow row ↔ ∃ v, (f.1, v) ∈ row ∧ f.2 = .ofKind (i.kindOf 0 v) f.1 := by
  rw [ofRow, propertiesOf_eq_map, List.mem_map]
  constructor
  · rintro ⟨e, he, rfl⟩
    exact ⟨e.2, he, rfl⟩
  · rintro ⟨v, hv, hp⟩
    exact ⟨(f.1, v), hv, Prod.ext rfl hp.symm⟩

/-! ### One field -/

/-- The objects of a list, in order. -/
def objectsOf (items : List Value) : List Row :=
  items.filterMap fun
    | .object fields => some fields
    | _ => none

/-- Folds a later object found at `depth` into the schema it belongs to. -/
def refineAt (i : Inference) (depth : Nat) (s : Schema) (fields : Row) : Schema :=
  i.refineFields depth fields (withoutMissing fields s)

theorem mem_objectsOf {items : List Value} {fields : Row} :
    fields ∈ objectsOf items ↔ .object fields ∈ items := by
  simp only [objectsOf, List.mem_filterMap]
  constructor
  · rintro ⟨v, hv, heq⟩
    split at heq
    · cases heq
      exact hv
    · cases heq
  · intro h
    exact ⟨_, h, rfl⟩

theorem refineItems_eq_foldl (items : List Value) (s : Schema) :
    i.refineItems depth items s = (objectsOf items).foldl (i.refineAt depth) s := by
  induction items generalizing s with
  | nil => rfl
  | cons v rest ih =>
      cases v with
      | object fields => exact ih (i.refineAt depth s fields)
      | _ => exact ih s

theorem refineProperty_of_isAbsent {v : Value} (h : isAbsent v = true) (p : Property) :
    i.refineProperty depth v p = p.optional := by
  cases v with
  | null => rfl
  | text s => simp only [refineProperty, show Text.isBlankText s = true from h, if_true]
  | bool b => cases h
  | number n => cases h
  | array items => cases h
  | object fields => cases h

theorem refineProperty_of_isUnknown {v : Value} {p : Property} (hv : isAbsent v = false)
    (hp : p.kind.isUnknown = true) :
    i.refineProperty depth v p = typedLate p (i.kindOf depth v) := by
  cases hkind : p.kind with
  | unknown shape =>
      cases v with
      | null => cases hv
      | text s =>
          simp only [refineProperty, show Text.isBlankText s = false from hv, hp, if_true]
          rfl
      | bool b => simp only [refineProperty, hp, if_true]
      | number n => simp only [refineProperty, hp, if_true]
      | array items => simp only [refineProperty, hkind]
      | object fields => simp only [refineProperty, hkind]
  | _ => simp [hkind, Kind.isUnknown] at hp

theorem refineProperty_object {fields : List (String × Value)} {p : Property} {s : Schema}
    (hp : p.kind = .object s) :
    i.refineProperty depth (.object fields) p =
      { p with kind := .object (i.refineAt (depth + 1) s fields) } := by
  simp only [refineProperty, hp]
  rfl

theorem refineProperty_objectArray {items : List Value} {p : Property} {s : Schema}
    (hp : p.kind = .objectArray s) :
    i.refineProperty depth (.array items) p =
      { p with kind := .objectArray ((objectsOf items).foldl (i.refineAt (depth + 1)) s) } := by
  simp only [refineProperty, hp, refineItems_eq_foldl]

/-- All that a later value can do to a field: it is no value, it gives a kind to a field without
one, it refines the nested schema, or it changes nothing. -/
theorem refineProperty_cases (i : Inference) (depth : Nat) (v : Value) (p : Property) :
    (isAbsent v = true ∧ i.refineProperty depth v p = p.optional) ∨
    (isAbsent v = false ∧ p.kind.isUnknown = true ∧
      i.refineProperty depth v p = typedLate p (i.kindOf depth v)) ∨
    (∃ fields s, v = .object fields ∧ p.kind = .object s ∧
      i.refineProperty depth v p = { p with kind := .object (i.refineAt (depth + 1) s fields) }) ∨
    (∃ items s, v = .array items ∧ p.kind = .objectArray s ∧
      i.refineProperty depth v p =
        { p with kind := .objectArray ((objectsOf items).foldl (i.refineAt (depth + 1)) s) }) ∨
    (isAbsent v = false ∧ p.kind.isUnknown = false ∧ i.refineProperty depth v p = p) := by
  by_cases hv : isAbsent v = true
  · exact .inl ⟨hv, refineProperty_of_isAbsent hv p⟩
  rw [Bool.not_eq_true] at hv
  by_cases hp : p.kind.isUnknown = true
  · exact .inr (.inl ⟨hv, hp, refineProperty_of_isUnknown hv hp⟩)
  rw [Bool.not_eq_true] at hp
  refine .inr (.inr ?_)
  cases v with
  | null => cases hv
  | bool b => exact .inr (.inr ⟨hv, hp, by simp [refineProperty, hp]⟩)
  | number n => exact .inr (.inr ⟨hv, hp, by simp [refineProperty, hp]⟩)
  | text s =>
      have hs : Text.isBlankText s = false := hv
      exact .inr (.inr ⟨hv, hp, by simp [refineProperty, hp, hs]⟩)
  | object fields =>
      cases hkind : p.kind with
      | object s => exact .inl ⟨fields, s, rfl, rfl, refineProperty_object hkind⟩
      | unknown shape => simp [hkind, Kind.isUnknown] at hp
      | _ => exact .inr (.inr ⟨hv, rfl, by simp only [refineProperty, hkind]⟩)
  | array items =>
      cases hkind : p.kind with
      | objectArray s => exact .inr (.inl ⟨items, s, rfl, rfl, refineProperty_objectArray hkind⟩)
      | unknown shape => simp [hkind, Kind.isUnknown] at hp
      | _ => exact .inr (.inr ⟨hv, rfl, by simp only [refineProperty, hkind]⟩)

/-- A later value never raises the mark of a field; it takes it away exactly if it is no value. -/
theorem refineProperty_required (v : Value) (p : Property) :
    (i.refineProperty depth v p).required = (p.required && !isAbsent v) := by
  rcases refineProperty_cases i depth v p with
    ⟨hv, heq⟩ | ⟨hv, -, heq⟩ | ⟨fields, s, rfl, -, heq⟩ | ⟨items, s, rfl, -, heq⟩ | ⟨hv, -, heq⟩
  · simp [heq, hv, Property.optional]
  · rw [heq, typedLate]
    split <;> simp [hv]
  · simp [heq, isAbsent]
  · simp [heq, isAbsent]
  · simp [heq, hv]

theorem refineProperty_description (v : Value) (p : Property) :
    (i.refineProperty depth v p).description = p.description := by
  rcases refineProperty_cases i depth v p with
    ⟨-, heq⟩ | ⟨-, -, heq⟩ | ⟨_, _, -, -, heq⟩ | ⟨_, _, -, -, heq⟩ | ⟨-, -, heq⟩
  · rw [heq, Property.optional]
  · rw [heq, typedLate]
    split <;> rfl
  · rw [heq]
  · rw [heq]
  · rw [heq]

/-- A kind once known stays known. -/
theorem refineProperty_isUnknown {v : Value} {p : Property} (h : p.kind.isUnknown = false) :
    (i.refineProperty depth v p).kind.isUnknown = false := by
  rcases refineProperty_cases i depth v p with
    ⟨-, heq⟩ | ⟨-, hp, -⟩ | ⟨_, _, -, -, heq⟩ | ⟨_, _, -, -, heq⟩ | ⟨-, -, heq⟩
  · rw [heq]
    exact h
  · rw [h] at hp
    cases hp
  · rw [heq]
    rfl
  · rw [heq]
    rfl
  · rw [heq]
    exact h

/-! ### One object -/

/-- What an object makes of a field of the schema. -/
def refinedBy (i : Inference) (depth : Nat) (fields : Row) (f : String × Property) : Property :=
  match fields.lookup f.1 with
  | some v => i.refineProperty depth v f.2
  | none => f.2.optional

/-- The description of a field that a later object is the first to have. -/
def addedBy (i : Inference) (depth : Nat) (f : String × Value) : Property :=
  (Property.ofKind (i.kindOf depth f.2) f.1).optional

/-- An object leaves a field required exactly if it has a value for it. -/
theorem refinedBy_required {fields : Row} {f : String × Property} :
    (i.refinedBy depth fields f).required = true ↔
      f.2.required = true ∧ ∃ v, fields.lookup f.1 = some v ∧ isAbsent v = false := by
  unfold refinedBy
  cases hlookup : fields.lookup f.1 with
  | none => simp [Property.optional]
  | some v => simp [refineProperty_required]

theorem refinedBy_description (fields : Row) (f : String × Property) :
    (i.refinedBy depth fields f).description = f.2.description := by
  unfold refinedBy
  split
  · exact refineProperty_description _ _
  · rfl

theorem refinedBy_isUnknown {fields : Row} {f : String × Property}
    (h : f.2.kind.isUnknown = false) : (i.refinedBy depth fields f).kind.isUnknown = false := by
  unfold refinedBy
  split
  · exact refineProperty_isUnknown h
  · exact h

theorem names_map (s : Schema) (g : String × Property → Property) :
    Schema.names (s.map fun f => (f.1, g f)) = s.names := by
  simp only [Schema.names, List.map_map]
  rfl

theorem updateField_of_not_mem {name : String} (g : Property → Property) (added : Property)
    {s : Schema} (h : name ∉ s.names) : updateField name g added s = s ++ [(name, added)] := by
  induction s with
  | nil => rfl
  | cons f rest ih =>
      obtain ⟨n, p⟩ := f
      simp only [Schema.names, List.map_cons, List.mem_cons, not_or] at h
      have hne : (n == name) = false := beq_false_of_ne (Ne.symm h.1)
      simp only [updateField, hne, Bool.false_eq_true, if_false, ih h.2, List.cons_append]

theorem updateField_of_mem {name : String} (g : Property → Property) (added : Property)
    {s : Schema} (hs : s.names.Nodup) (h : name ∈ s.names) :
    updateField name g added s = s.map fun f => (f.1, if f.1 = name then g f.2 else f.2) := by
  induction s with
  | nil => cases h
  | cons f rest ih =>
      obtain ⟨n, p⟩ := f
      have hnot : n ∉ Fields.names rest := (List.nodup_cons.mp hs).1
      have hrest : (Schema.names rest).Nodup := (List.nodup_cons.mp hs).2
      by_cases hname : n = name
      · subst hname
        have hkeep : ∀ f ∈ rest, (f.1, if f.1 = n then g f.2 else f.2) = f := by
          intro f hf
          have hne : f.1 ≠ n := by
            rintro rfl
            exact hnot (Fields.mem_names_of_mem hf)
          rw [if_neg hne]
        simp only [updateField, beq_self_eq_true, if_true, List.map_cons]
        rw [List.map_congr_left hkeep, List.map_id']
      · have hmem : name ∈ Schema.names rest := by
          rcases List.mem_cons.mp h with heq | hmem
          · exact absurd heq.symm hname
          · exact hmem
        have hne : (n == name) = false := beq_false_of_ne hname
        simp only [updateField, hne, Bool.false_eq_true, if_false, List.map_cons, hname,
          ih hrest hmem]

/-- One pass over the fields of an object, seen from the schema. -/
theorem refineFields_eq {fields : List (String × Value)} (hfields : (Fields.names fields).Nodup)
    {s : Schema} (hs : s.names.Nodup) :
    i.refineFields depth fields s =
      (s.map fun f => (f.1, (fields.lookup f.1).elim f.2 fun v => i.refineProperty depth v f.2)) ++
        (fields.filter fun f => f.1 ∉ s.names).map fun f => (f.1, i.addedBy depth f) := by
  induction fields generalizing s with
  | nil => simp [refineFields]
  | cons f rest ih =>
      obtain ⟨name, v⟩ := f
      have hnot : name ∉ Fields.names rest := (List.nodup_cons.mp hfields).1
      have hrest : (Fields.names rest).Nodup := (List.nodup_cons.mp hfields).2
      have hnone : rest.lookup name = none := Fields.lookup_eq_none_iff.mpr hnot
      have hne : ∀ f ∈ rest, f.1 ≠ name := by
        rintro f hf rfl
        exact hnot (Fields.mem_names_of_mem hf)
      rw [refineFields]
      by_cases hname : name ∈ s.names
      -- the field is refined where it stands, and no later field of the object has its name
      · rw [updateField_of_mem _ _ hs hname, ih hrest (by rwa [names_map]), names_map,
          List.filter_cons_of_neg (by simpa using hname), List.map_map]
        congr 1
        refine List.map_congr_left fun f _ => ?_
        by_cases heq : f.1 = name
        · simp [heq, hnone]
        · simp [heq, List.lookup_cons, beq_false_of_ne heq]
      -- the field is added; later fields of the object are new exactly if they were before
      · have hnames : Schema.names (s ++ [(name, i.addedBy depth (name, v))]) =
            s.names ++ [name] := by
          simp [Schema.names]
        have hnodup : (s.names ++ [name]).Nodup := by
          rw [List.nodup_append]
          exact ⟨hs, List.nodup_singleton name, by grind⟩
        have hlater : rest.filter (fun f => f.1 ∉ s.names ++ [name]) =
            rest.filter fun f => f.1 ∉ s.names := by
          refine List.filter_congr fun f hf => ?_
          simp [hne f hf]
        change i.refineFields depth rest
          (updateField name (i.refineProperty depth v) (i.addedBy depth (name, v)) s) = _
        rw [updateField_of_not_mem _ _ hname, ih hrest (by rwa [hnames]), hnames, hlater,
          List.filter_cons_of_pos (by simpa using hname), List.map_append, List.map_cons,
          List.append_assoc]
        congr 1
        · refine List.map_congr_left fun f hf => ?_
          have heq : f.1 ≠ name := fun heq => hname (heq ▸ Fields.mem_names_of_mem hf)
          simp [List.lookup_cons, beq_false_of_ne heq]
        · simp [hnone]

/-- Folding an object into a schema, seen from the schema. -/
theorem refineAt_eq {fields : Row} (hfields : (Fields.names fields).Nodup) {s : Schema}
    (hs : s.names.Nodup) :
    i.refineAt depth s fields =
      (s.map fun f => (f.1, i.refinedBy depth fields f)) ++
        (fields.filter fun f => f.1 ∉ s.names).map fun f => (f.1, i.addedBy depth f) := by
  have hnames : (withoutMissing fields s).names = s.names :=
    names_map s fun f => if (fields.lookup f.1).isSome then f.2 else f.2.optional
  rw [refineAt, refineFields_eq hfields (by rwa [hnames]), hnames, withoutMissing, List.map_map]
  congr 1
  refine List.map_congr_left fun f _ => ?_
  cases hlookup : fields.lookup f.1 <;> simp [refinedBy, hlookup]

theorem names_refineAt {fields : Row} (hfields : (Fields.names fields).Nodup) {s : Schema}
    (hs : s.names.Nodup) :
    (i.refineAt depth s fields).names =
      s.names ++ (Fields.names fields).filter fun name => name ∉ s.names := by
  rw [refineAt_eq hfields hs]
  simp only [Schema.names, Fields.names, List.map_append, List.map_map, List.filter_map]
  rfl

theorem nodup_names_refineAt {fields : Row} (hfields : (Fields.names fields).Nodup) {s : Schema}
    (hs : s.names.Nodup) : (i.refineAt depth s fields).names.Nodup := by
  rw [names_refineAt hfields hs, List.nodup_append]
  refine ⟨hs, hfields.filter _, fun name hname other hother heq => ?_⟩
  subst heq
  simp [hname] at hother

/-- A field of the refined schema was there before, or comes from the object. -/
theorem mem_refineAt {fields : Row} (hfields : (Fields.names fields).Nodup) {s : Schema}
    (hs : s.names.Nodup) {name : String} {q : Property} :
    (name, q) ∈ i.refineAt depth s fields ↔
      (∃ p, (name, p) ∈ s ∧ i.refinedBy depth fields (name, p) = q) ∨
        ∃ v, (name, v) ∈ fields ∧ name ∉ s.names ∧ i.addedBy depth (name, v) = q := by
  simp only [refineAt_eq hfields hs, List.mem_append, List.mem_map, List.mem_filter,
    decide_eq_true_eq, Prod.mk.injEq]
  constructor
  · rintro (⟨⟨_, p⟩, hp, rfl, rfl⟩ | ⟨⟨_, v⟩, ⟨hv, hnot⟩, rfl, rfl⟩)
    · exact .inl ⟨p, hp, rfl⟩
    · exact .inr ⟨v, hv, hnot, rfl⟩
  · rintro (⟨p, hp, rfl⟩ | ⟨v, hv, hnot, rfl⟩)
    · exact .inl ⟨(name, p), hp, rfl, rfl⟩
    · exact .inr ⟨(name, v), ⟨hv, hnot⟩, rfl, rfl⟩

end RowTypings.Inference
