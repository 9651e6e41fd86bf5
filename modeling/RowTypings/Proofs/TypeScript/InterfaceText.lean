import RowTypings.Proofs.Schema.WellFormed
import RowTypings.Proofs.TypeScript.MemberText

/-!
What the text of an interface tells of the schema: the keys, the optional markers, the comments and
the types of all members, down to the nested schemas that are declared as blocks. No more can be
told, for schemas that agree in all that have the same text.
-/

namespace RowTypings

open TypeScript (headsOf)

/-- Kinds declared as a bare `object`: the schema was not known, lies too deep or has no fields. -/
inductive Kind.BareObject (maxDepth level : Nat) : Kind → Prop
  | unknown : Kind.BareObject maxDepth level (.unknown .object)
  | degraded {s : Schema} (h : maxDepth ≤ level ∨ s = []) :
      Kind.BareObject maxDepth level (.object s)

mutual

/-- Kinds of members at `level` that an interface does not tell apart. -/
inductive Kind.SameType (maxDepth : Nat) : Nat → Kind → Kind → Prop
  | same {level : Nat} (kind : Kind) : Kind.SameType maxDepth level kind kind
  | bare {level : Nat} {k l : Kind} (hk : k.BareObject maxDepth level)
      (hl : l.BareObject maxDepth level) : Kind.SameType maxDepth level k l
  | bareArray {level : Nat} {s t : Schema} (hs : maxDepth ≤ level ∨ s = [])
      (ht : maxDepth ≤ level ∨ t = []) :
      Kind.SameType maxDepth level (.objectArray s) (.objectArray t)
  | object {level : Nat} {s t : Schema} (h : Schema.SameMembers maxDepth (level + 1) s t) :
      Kind.SameType maxDepth level (.object s) (.object t)
  | objectArray {level : Nat} {s t : Schema} (h : Schema.SameMembers maxDepth (level + 1) s t) :
      Kind.SameType maxDepth level (.objectArray s) (.objectArray t)

/-- Schemas of as many fields, which have the same keys, markers and comments field by field, and
types that are not told apart. -/
inductive Schema.SameMembers (maxDepth : Nat) : Nat → Schema → Schema → Prop
  | intro {level : Nat} {s t : Schema} (heads : headsOf s = headsOf t)
      (types : ∀ (j : Nat) f g, s[j]? = some f → t[j]? = some g →
        Kind.SameType maxDepth level f.2.kind g.2.kind) :
      Schema.SameMembers maxDepth level s t

end

namespace TypeScript

/-! ### Declared types -/

@[simp] theorem length_headsOf (s : Schema) : (headsOf s).length = s.length := by
  simp [headsOf, Schema.names]

@[simp] theorem length_memberTypes (maxDepth level : Nat) (s : Schema) :
    (memberTypes maxDepth level s).length = s.length := by
  rw [memberTypes_eq_map, List.length_map]

end TypeScript

end RowTypings
