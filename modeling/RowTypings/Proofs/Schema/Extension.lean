import RowTypings.Proofs.Schema.WellFormed

/-!
How schemas grow. One schema refines to another if its fields stand first in the other, in their
order, each with the same description, required only if it was required before, and of the same kind
once that was known. This is an order on schemas, and whatever row is folded in moves a schema up in
it; so a run of rows that ends where it began has not moved at all.
-/

namespace RowTypings

mutual

/-- A kind that is known stays; one that is not may become any other. -/
inductive Kind.RefinesTo : Kind → Kind → Prop
  | same (kind : Kind) : Kind.RefinesTo kind kind
  | typed {shape : Shape} {kind : Kind} (known : kind.isUnknown = false) :
      Kind.RefinesTo (.unknown shape) kind
  | object {s t : Schema} (h : Schema.RefinesTo s t) : Kind.RefinesTo (.object s) (.object t)
  | objectArray {s t : Schema} (h : Schema.RefinesTo s t) :
      Kind.RefinesTo (.objectArray s) (.objectArray t)

inductive Schema.RefinesTo : Schema → Schema → Prop
  | nil (added : Schema) : Schema.RefinesTo [] added
  | cons {name : String} {p q : Property} {s t : Schema}
      (description : q.description = p.description)
      (required : q.required = true → p.required = true)
      (kind : Kind.RefinesTo p.kind q.kind) (rest : Schema.RefinesTo s t) :
      Schema.RefinesTo ((name, p) :: s) ((name, q) :: t)

end

theorem Kind.RefinesTo.isUnknown_eq_false {k l : Kind} (h : k.RefinesTo l)
    (hk : k.isUnknown = false) : l.isUnknown = false := by
  cases h with
  | same => exact hk
  | typed known => exact known
  | object h => rfl
  | objectArray h => rfl

namespace Schema.RefinesTo

theorem refl (s : Schema) : Schema.RefinesTo s s := by
  induction s with
  | nil => exact .nil []
  | cons f s ih => exact .cons rfl id (.same _) ih

/-- Transitivity, given that of the kinds in the first schema. -/
theorem trans_of {s t u : Schema}
    (hkinds : ∀ f ∈ s, ∀ l m, f.2.kind.RefinesTo l → l.RefinesTo m → f.2.kind.RefinesTo m)
    (h : Schema.RefinesTo s t) (h' : Schema.RefinesTo t u) : Schema.RefinesTo s u := by
  induction s generalizing t u with
  | nil => exact .nil u
  | cons f s ih =>
      obtain ⟨hf, hs⟩ := List.forall_mem_cons.mp hkinds
      cases h with
      | cons description required kind rest =>
          cases h' with
          | cons description' required' kind' rest' =>
              exact .cons (description'.trans description) (required ∘ required')
                (hf _ _ kind kind') (ih hs rest rest')

/-- Antisymmetry, given that of the kinds in the first schema. -/
theorem antisymm_of {s t : Schema}
    (hkinds : ∀ f ∈ s, ∀ l, f.2.kind.RefinesTo l → l.RefinesTo f.2.kind → f.2.kind = l)
    (h : Schema.RefinesTo s t) (h' : Schema.RefinesTo t s) : s = t := by
  induction s generalizing t with
  | nil =>
      cases h'
      rfl
  | cons f s ih =>
      obtain ⟨hf, hs⟩ := List.forall_mem_cons.mp hkinds
      cases h with
      | @cons name p q _ t description required kind rest =>
          cases h' with
          | cons description' required' kind' rest' =>
              have hrequired : p.required = q.required :=
                Bool.eq_iff_iff.mpr ⟨required', required⟩
              have hkind : p.kind = q.kind := hf _ kind kind'
              have hp : p = q := by
                cases p
                cases q
                simp_all
              rw [hp, ih hs rest rest']

end Schema.RefinesTo

theorem Kind.RefinesTo.trans {k l m : Kind} (h : k.RefinesTo l) (h' : l.RefinesTo m) :
    k.RefinesTo m := by
  induction k using Kind.induct generalizing l m with
  | object s ih =>
      cases h with
      | same => exact h'
      | object hs =>
          cases h' with
          | same => exact .object hs
          | object hs' => exact .object (Schema.RefinesTo.trans_of (fun f hf _ _ => ih f hf) hs hs')
  | objectArray s ih =>
      cases h with
      | same => exact h'
      | objectArray hs =>
          cases h' with
          | same => exact .objectArray hs
          | objectArray hs' =>
              exact .objectArray (Schema.RefinesTo.trans_of (fun f hf _ _ => ih f hf) hs hs')
  | unknown shape =>
      cases h with
      | same => exact h'
      | typed known => exact .typed (h'.isUnknown_eq_false known)
  | _ =>
      cases h
      exact h'

theorem Kind.RefinesTo.antisymm {k l : Kind} (h : k.RefinesTo l) (h' : l.RefinesTo k) : k = l := by
  induction k using Kind.induct generalizing l with
  | object s ih =>
      cases h with
      | same => rfl
      | object hs =>
          cases h' with
          | same => rfl
          | object hs' =>
              exact congrArg Kind.object
                (Schema.RefinesTo.antisymm_of (fun f hf _ => ih f hf) hs hs')
  | objectArray s ih =>
      cases h with
      | same => rfl
      | objectArray hs =>
          cases h' with
          | same => rfl
          | objectArray hs' =>
              exact congrArg Kind.objectArray
                (Schema.RefinesTo.antisymm_of (fun f hf _ => ih f hf) hs hs')
  | unknown shape =>
      cases h with
      | same => rfl
      | typed known => exact absurd (h'.isUnknown_eq_false known) (by simp [Kind.isUnknown])
  | _ =>
      cases h
      rfl

namespace Schema.RefinesTo

theorem trans {s t u : Schema} (h : Schema.RefinesTo s t) (h' : Schema.RefinesTo t u) :
    Schema.RefinesTo s u :=
  trans_of (fun _ _ _ _ => Kind.RefinesTo.trans) h h'

theorem antisymm {s t : Schema} (h : Schema.RefinesTo s t) (h' : Schema.RefinesTo t s) : s = t :=
  antisymm_of (fun _ _ _ => Kind.RefinesTo.antisymm) h h'

/-- A schema refines to what is made of its fields one by one, with any fields after them. -/
theorem map_append {s : Schema} {g : String × Property → Property}
    (hg : ∀ f ∈ s, (g f).description = f.2.description ∧
      ((g f).required = true → f.2.required = true) ∧ f.2.kind.RefinesTo (g f).kind)
    (added : Schema) : Schema.RefinesTo s ((s.map fun f => (f.1, g f)) ++ added) := by
  induction s with
  | nil => exact .nil added
  | cons f s ih =>
      obtain ⟨⟨description, required, kind⟩, hs⟩ := List.forall_mem_cons.mp hg
      exact .cons description required kind (ih hs)

end Schema.RefinesTo

namespace Inference

variable {i : Inference} {depth : Nat}

/-! ### Rows move schemas up -/

/-- An object moves a schema up if each of its values moves up the field of its name. -/
theorem refinesTo_refineAt_of {fields : Row} (hfields : (Fields.names fields).Nodup) {s : Schema}
    (hs : s.names.Nodup) (hvalues : ∀ f ∈ fields, ∀ p, (f.1, p) ∈ s →
      p.kind.RefinesTo (i.refineProperty depth f.2 p).kind) :
    Schema.RefinesTo s (i.refineAt depth s fields) := by
  rw [refineAt_eq hfields hs]
  refine .map_append (fun f hf => ⟨refinedBy_description fields f, ?_, ?_⟩) _
  · exact fun hrequired => (refinedBy_required.mp hrequired).1
  · unfold refinedBy
    split
    · rename_i v hlookup
      exact hvalues (f.1, v) (Fields.mem_of_lookup hlookup) f.2 hf
    · exact .same _

theorem kind_refinesTo_refineProperty {v : Value} (hv : v.Keyed) {p : Property}
    (hp : Kind.WellFormed i.settings.maxDepth depth p.kind) :
    p.kind.RefinesTo (i.refineProperty depth v p).kind := by
  induction v using Value.inductInner generalizing depth p with | inner v ihObject ihArray => ?_
  rcases refineProperty_cases i depth v p with
    ⟨-, heq⟩ | ⟨-, hunknown, heq⟩ | ⟨fields, s, rfl, hkind, heq⟩ | ⟨items, s, rfl, hkind, heq⟩ |
    ⟨-, -, heq⟩
  · rw [heq]
    exact .same _
  · rw [heq, typedLate]
    split
    · exact .same _
    · rename_i hknown
      cases hkind : p.kind with
      | unknown shape => exact .typed (Bool.eq_false_iff.mpr hknown)
      | _ => simp [hkind, Kind.isUnknown] at hunknown
  · obtain ⟨-, -, hs⟩ := hp.inside (congrArg Kind.nested? hkind)
    rw [heq, hkind]
    refine .object (refinesTo_refineAt_of hv.names_nodup hs.nodup fun f hf q hq => ?_)
    exact ihObject fields rfl f hf (hv.field hf) (hs.kind hq)
  · obtain ⟨-, -, hs⟩ := hp.inside (congrArg Kind.nested? hkind)
    rw [heq, hkind]
    refine .objectArray ?_
    refine (List.foldlRecOn (objectsOf items) (i.refineAt (depth + 1))
      (motive := fun t => Schema.RefinesTo s t ∧
        Schema.WellFormed i.settings.maxDepth (depth + 1) t) ⟨.refl s, hs⟩ ?_).1
    intro t ht fields hfields
    have hmem : .object fields ∈ items := mem_objectsOf.mp hfields
    have hitem : (Value.object fields).Keyed := hv.item hmem
    refine ⟨ht.1.trans ?_, refineAt_wellFormed hitem ht.2⟩
    refine refinesTo_refineAt_of hitem.names_nodup ht.2.nodup fun f hf q hq => ?_
    exact ihArray items rfl fields hmem f hf (hitem.field hf) (ht.2.kind hq)
  · rw [heq]
    exact .same _

theorem refinesTo_refineAt {fields : Row} (hfields : (Value.object fields).Keyed) {s : Schema}
    (hs : Schema.WellFormed i.settings.maxDepth depth s) :
    Schema.RefinesTo s (i.refineAt depth s fields) :=
  refinesTo_refineAt_of hfields.names_nodup hs.nodup
    fun _ hf _ hp => kind_refinesTo_refineProperty (hfields.field hf) (hs.kind hp)

theorem refinesTo_foldl_refineAt {s : Schema}
    (hs : Schema.WellFormed i.settings.maxDepth depth s) {objects : List Row}
    (hobjects : ∀ fields ∈ objects, (Value.object fields).Keyed) :
    Schema.RefinesTo s (objects.foldl (i.refineAt depth) s) := by
  induction objects generalizing s with
  | nil => exact .refl s
  | cons fields rest ih =>
      obtain ⟨hfields, hrest⟩ := List.forall_mem_cons.mp hobjects
      exact (refinesTo_refineAt hfields hs).trans (ih (refineAt_wellFormed hfields hs) hrest)

/-- Objects that leave a schema as it was, all taken together, leave it so one by one. -/
theorem refineAt_eq_self_of_foldl {s : Schema}
    (hs : Schema.WellFormed i.settings.maxDepth depth s) {objects : List Row}
    (hobjects : ∀ fields ∈ objects, (Value.object fields).Keyed)
    (hfold : objects.foldl (i.refineAt depth) s = s) :
    ∀ fields ∈ objects, i.refineAt depth s fields = s := by
  induction objects with
  | nil => simp
  | cons fields rest ih =>
      obtain ⟨hfields, hrest⟩ := List.forall_mem_cons.mp hobjects
      have hup := refinesTo_refineAt hfields hs
      have hdown : Schema.RefinesTo (i.refineAt depth s fields) s := by
        have hlater := refinesTo_foldl_refineAt (refineAt_wellFormed hfields hs) hrest
        rwa [← List.foldl_cons, hfold] at hlater
      have hfirst : i.refineAt depth s fields = s := hdown.antisymm hup
      rw [List.foldl_cons, hfirst] at hfold
      exact List.forall_mem_cons.mpr ⟨hfirst, ih hrest hfold⟩

end Inference

end RowTypings
