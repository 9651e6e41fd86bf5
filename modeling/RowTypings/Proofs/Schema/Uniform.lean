import RowTypings.Proofs.Schema.WellFormed

/-!
Values that conform to the kind they gave. An object always does; a list is judged by its first
item, so all its objects have to agree with that one. Agreement leaves the order of fields aside.
-/

namespace RowTypings

mutual

/-- The same kind, but for the order of fields. -/
inductive Kind.Alike : Kind → Kind → Prop
  | same (kind : Kind) : Kind.Alike kind kind
  | object {s t : Schema} (h : Schema.Alike s t) : Kind.Alike (.object s) (.object t)
  | objectArray {s t : Schema} (h : Schema.Alike s t) :
      Kind.Alike (.objectArray s) (.objectArray t)

/-- The same fields in any order, with the same marks and kinds. -/
inductive Schema.Alike : Schema → Schema → Prop
  | intro {s t : Schema} (names : s.names.Perm t.names)
      (marks : ∀ name p q, (name, p) ∈ s → (name, q) ∈ t → p.required = q.required)
      (kinds : ∀ name p q, (name, p) ∈ s → (name, q) ∈ t → Kind.Alike p.kind q.kind) :
      Schema.Alike s t

end

/-- The value is one that the kind describes: nested values have a value for every required field,
none for an undeclared one, and each of them is described by the kind of its field. -/
inductive Value.Conforms : Kind → Value → Prop
  | any (v : Value) : Value.Conforms (.unknown .scalar) v
  | anyArray (items : List Value) : Value.Conforms (.unknown .array) (.array items)
  | anyObject (fields : List (String × Value)) : Value.Conforms (.unknown .object) (.object fields)
  | number (n : Number) : Value.Conforms .numeric (.number n)
  | boolean (b : Bool) : Value.Conforms .boolean (.bool b)
  | dateTime {t : String} (h : (Time.instant? t).isSome = true) :
      Value.Conforms .dateTime (.text t)
  | text (t : String) : Value.Conforms .text (.text t)
  | object {s : Schema} {fields : List (String × Value)} (names : s.names.Nodup)
      (keys : (Fields.names fields).Nodup)
      (present : ∀ f ∈ s, f.2.required = true → ∃ v, (f.1, v) ∈ fields ∧ v.isNull = false)
      (declared : ∀ f ∈ fields, f.2.isNull = false → f.1 ∈ s.names)
      (values : ∀ f ∈ fields, f.2.isNull = false → ∀ p, (f.1, p) ∈ s →
        Value.Conforms p.kind f.2) :
      Value.Conforms (.object s) (.object fields)
  | objectArray {s : Schema} {items : List Value}
      (values : ∀ v ∈ items, Value.Conforms (.object s) v) :
      Value.Conforms (.objectArray s) (.array items)

theorem Schema.Alike.refl {s : Schema} (hs : s.names.Nodup) : Schema.Alike s s := by
  have hsame : ∀ name p q, (name, p) ∈ s → (name, q) ∈ s → p = q :=
    fun name p q hp hq => Fields.eq_of_mem hs hp hq rfl
  refine .intro (List.Perm.refl _) ?_ ?_
  · intro name p q hp hq
    rw [hsame name p q hp hq]
  · intro name p q hp hq
    rw [hsame name p q hp hq]
    exact .same q.kind

theorem Kind.Alike.exists_object {kind : Kind} {t : Schema} (ht : t.names.Nodup)
    (h : kind.Alike (.object t)) : ∃ s, kind = .object s ∧ Schema.Alike s t := by
  cases h with
  | same => exact ⟨t, rfl, .refl ht⟩
  | object hs => exact ⟨_, rfl, hs⟩

theorem Kind.Alike.exists_objectArray {kind : Kind} {t : Schema} (ht : t.names.Nodup)
    (h : kind.Alike (.objectArray t)) : ∃ s, kind = .objectArray s ∧ Schema.Alike s t := by
  cases h with
  | same => exact ⟨t, rfl, .refl ht⟩
  | objectArray hs => exact ⟨_, rfl, hs⟩

/-- Transitivity, given that of the kinds in the first schema. -/
theorem Schema.Alike.trans_of {s t u : Schema}
    (hkinds : ∀ f ∈ s, ∀ l m, f.2.kind.Alike l → l.Alike m → f.2.kind.Alike m)
    (h : Schema.Alike s t) (h' : Schema.Alike t u) : Schema.Alike s u := by
  obtain ⟨names, marks, kinds⟩ := h
  obtain ⟨names', marks', kinds'⟩ := h'
  have middle : ∀ {name p}, (name, p) ∈ s → ∃ q, (name, q) ∈ t := fun hp =>
    Fields.exists_mem_of_mem_names (names.subset (Fields.mem_names_of_mem hp))
  refine .intro (names.trans names') ?_ ?_
  · intro name p r hp hr
    obtain ⟨q, hq⟩ := middle hp
    exact (marks name p q hp hq).trans (marks' name q r hq hr)
  · intro name p r hp hr
    obtain ⟨q, hq⟩ := middle hp
    exact hkinds (name, p) hp q.kind r.kind (kinds name p q hp hq) (kinds' name q r hq hr)

theorem Kind.Alike.trans {k l m : Kind} (h : k.Alike l) (h' : l.Alike m) : k.Alike m := by
  induction k using Kind.induct generalizing l m with
  | object s ih =>
      cases h with
      | same => exact h'
      | object hs =>
          cases h' with
          | same => exact .object hs
          | object hs' => exact .object (hs.trans_of (fun f hf _ _ => ih f hf) hs')
  | objectArray s ih =>
      cases h with
      | same => exact h'
      | objectArray hs =>
          cases h' with
          | same => exact .objectArray hs
          | objectArray hs' => exact .objectArray (hs.trans_of (fun f hf _ _ => ih f hf) hs')
  | _ =>
      cases h
      exact h'

namespace Inference

variable {i : Inference} {depth : Nat}

/-- At every depth, all items of a list that starts with an object which has fields give a kind
alike that of the first. -/
def Uniform (i : Inference) (depth : Nat) : Value → Prop
  | .object fields => ∀ f ∈ fields, Uniform i (depth + 1) f.2
  | .array items =>
    ∀ fields rest, items = .object fields :: rest → fields ≠ [] → ∀ v, (h : v ∈ items) →
      (i.kindOf depth (.object fields)).Alike (i.kindOf depth v) ∧ Uniform i depth v
  | _ => True
termination_by v => sizeOf v
decreasing_by
  · exact Value.sizeOf_lt_object ‹_›
  · exact Value.sizeOf_lt_array h

/-- Fields that a schema alike the one they gave describes, if each of their values is described by
the kind of its field. -/
theorem conforms_object_of {fields : List (String × Value)} (hkeys : (Fields.names fields).Nodup)
    {s : Schema} (halike : Schema.Alike s (i.propertiesOf depth fields))
    (hvalues : ∀ f ∈ fields, ∀ kind : Kind, kind.Alike (i.kindOf depth f.2) →
      f.2.Conforms kind) : Value.Conforms (.object s) (.object fields) := by
  obtain ⟨names, marks, kinds⟩ := halike
  rw [names_propertiesOf] at names
  have hown : ∀ f ∈ fields,
      (f.1, Property.ofKind (i.kindOf depth f.2) f.1) ∈ i.propertiesOf depth fields := by
    intro f hf
    rw [propertiesOf_eq_map]
    exact List.mem_map_of_mem hf
  refine .object (names.nodup_iff.mpr hkeys) hkeys ?_ ?_ ?_
  · rintro ⟨name, p⟩ hp hrequired
    obtain ⟨v, hv⟩ := Fields.exists_mem_of_mem_names (names.subset (Fields.mem_names_of_mem hp))
    refine ⟨v, hv, ?_⟩
    have hknown : (i.kindOf depth v).isUnknown = false := by
      rw [marks name p _ hp (hown _ hv)] at hrequired
      simpa [Property.ofKind] using hrequired
    cases v with
    | null => cases hknown
    | _ => rfl
  · exact fun f hf _ => names.symm.subset (Fields.mem_names_of_mem hf)
  · exact fun f hf _ p hp => hvalues f hf p.kind (kinds f.1 p _ hp (hown f hf))

/-- A uniform value conforms to every kind alike the one it gives. -/
theorem conforms_of_alike (hencoding : i.encoding = .structured) {v : Value} (hv : v.Keyed)
    (huniform : i.Uniform depth v) {kind : Kind} (halike : kind.Alike (i.kindOf depth v)) :
    v.Conforms kind := by
  induction v using Value.induct generalizing depth kind with
  | null =>
      cases halike
      exact .any _
  | bool b =>
      cases halike
      exact .boolean b
  | number n =>
      cases halike
      exact .number n
  | text t =>
      have hplain : (i.encoding == .textual) = false := by
        rw [hencoding]
        rfl
      simp only [kindOf, kindOfText, hplain, Bool.false_and, Bool.false_eq_true, if_false] at halike
      split_ifs at halike with hblank hdate
      · cases halike
        exact .any _
      · cases halike
        rw [Bool.and_eq_true, layout_isSome_iff] at hdate
        exact .dateTime hdate.2
      · cases halike
        exact .text t
  | object fields ih =>
      rw [Uniform] at huniform
      rcases kindOf_object_cases i depth fields with hkind | ⟨-, -, hkind⟩
      · rw [hkind] at halike
        cases halike
        exact .anyObject fields
      · rw [hkind] at halike
        have hnames : (Schema.names (i.propertiesOf (depth + 1) fields)).Nodup := by
          rw [names_propertiesOf]
          exact hv.names_nodup
        obtain ⟨s, rfl, hs⟩ := halike.exists_object hnames
        exact conforms_object_of hv.names_nodup hs
          fun f hf _ => ih f hf (hv.field hf) (huniform f hf)
  | array items ih =>
      rw [Uniform] at huniform
      rcases kindOf_array_cases i depth items with hkind | ⟨fields, rest, rfl, hdepth, hne, hkind⟩
      · rw [hkind] at halike
        cases halike
        exact .anyArray items
      · rw [hkind] at halike
        have hnames : (Schema.names (i.propertiesOf (depth + 1) fields)).Nodup := by
          rw [names_propertiesOf]
          exact (hv.item List.mem_cons_self).names_nodup
        obtain ⟨s, rfl, hs⟩ := halike.exists_objectArray hnames
        refine .objectArray fun v hmem => ?_
        -- every item gives a kind alike that of the first, hence alike the schema
        obtain ⟨hsame, hinside⟩ := huniform fields rest rfl hne v hmem
        rw [kindOf_object hdepth hne] at hsame
        exact ih v hmem (hv.item hmem) hinside ((Kind.Alike.object hs).trans hsame)

end Inference

end RowTypings
