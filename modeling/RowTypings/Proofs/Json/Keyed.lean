import RowTypings.Json.Value
import RowTypings.Proofs.Fields

/-!
Induction on values, and values in which no object names a field twice. Every value that a reader
makes is of that kind, since a repeated name replaces the value of the first one.
-/

namespace RowTypings.Value

/-- To prove something of every value, prove it of lists and objects from their parts. -/
@[elab_as_elim]
theorem induct {P : Value → Prop} (null : P .null) (bool : ∀ b, P (.bool b))
    (number : ∀ n, P (.number n)) (text : ∀ s, P (.text s))
    (array : ∀ items, (∀ v ∈ items, P v) → P (.array items))
    (object : ∀ fields, (∀ f ∈ fields, P f.2) → P (.object fields)) (v : Value) : P v :=
  @Value.rec P (fun items => ∀ v ∈ items, P v) (fun fields => ∀ f ∈ fields, P f.2)
    (fun f => P f.2) null bool number text array object (by simp)
    (fun _ _ hv hitems => List.forall_mem_cons.mpr ⟨hv, hitems⟩) (by simp)
    (fun _ _ hf hfields => List.forall_mem_cons.mpr ⟨hf, hfields⟩) (fun _ _ hv => hv) v

theorem sizeOf_lt_object {fields : List (String × Value)} {f : String × Value} (h : f ∈ fields) :
    sizeOf f.2 < sizeOf (object fields) := by
  have hlt := Fields.sizeOf_snd_lt h
  simp only [object.sizeOf_spec]
  omega

theorem sizeOf_lt_array {items : List Value} {v : Value} (h : v ∈ items) :
    sizeOf v < sizeOf (array items) := by
  have hlt := List.sizeOf_lt_of_mem h
  simp only [array.sizeOf_spec]
  omega

/-- To prove something of every value, prove it from the fields of the value or, where it is a list,
from the fields of its objects. -/
@[elab_as_elim]
theorem inductInner {P : Value → Prop}
    (inner : ∀ v, (∀ fields, v = .object fields → ∀ f ∈ fields, P f.2) →
      (∀ items, v = .array items → ∀ fields, .object fields ∈ items → ∀ f ∈ fields, P f.2) →
      P v) (v : Value) : P v := by
  refine inner v (fun fields hv f hf => ?_) fun items hv fields hfields f hf => ?_
  · exact inductInner inner f.2
  · exact inductInner inner f.2
termination_by sizeOf v
decreasing_by
  · subst hv
    exact sizeOf_lt_object hf
  · subst hv
    exact Nat.lt_trans (sizeOf_lt_object hf) (sizeOf_lt_array hfields)

/-- No object within the value names a field twice. -/
def Keyed : Value → Prop
  | .array items => ∀ v ∈ items, v.Keyed
  | .object fields => (Fields.names fields).Nodup ∧ ∀ f ∈ fields, f.2.Keyed
  | _ => True
decreasing_by
  · exact sizeOf_lt_array ‹_›
  · exact sizeOf_lt_object ‹_›

theorem Keyed.names_nodup {fields : List (String × Value)} (h : (object fields).Keyed) :
    (Fields.names fields).Nodup := by
  rw [Keyed] at h
  exact h.1

theorem Keyed.field {fields : List (String × Value)} (h : (object fields).Keyed)
    {f : String × Value} (hf : f ∈ fields) : f.2.Keyed := by
  rw [Keyed] at h
  exact h.2 f hf

theorem Keyed.item {items : List Value} (h : (array items).Keyed) {v : Value} (hv : v ∈ items) :
    v.Keyed := by
  rw [Keyed] at h
  exact h v hv

end RowTypings.Value
