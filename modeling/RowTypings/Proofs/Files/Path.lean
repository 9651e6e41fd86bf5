import Mathlib.Data.List.Basic
import RowTypings.Files.FileTree

/-!
The names in the text of a path. Joining puts names after names, the parent of a path leaves some
out at the end, and single points are names that lead nowhere.
-/

namespace RowTypings.Path

open FileTree (names start ancestors)

/-- The names of a path that count: those that are not single points. -/
def steps (p : String) : List String := (names p).filter (· != ".")

/-! ### Slashes -/

theorem segments_append (p q : String) : segments (p ++ "/" ++ q) = segments p ++ segments q := by
  have hchars : (p ++ "/" ++ q).toList = p.toList ++ '/' :: q.toList := by simp
  unfold segments List.splitOn
  rw [hchars, ← List.map_append]
  exact congrArg _ (List.splitOnP_append_cons _ _ (beq_self_eq_true '/'))

theorem slash_not_mem_of_mem_splitOn {xs s : List Char} (h : s ∈ xs.splitOn '/') : '/' ∉ s := by
  induction xs generalizing s with
  | nil =>
      rw [List.splitOn_nil, List.mem_singleton] at h
      simp [h]
  | cons x xs ih =>
      unfold List.splitOn at h ih
      rw [List.splitOnP_cons_eq_if_modifyHead] at h
      split at h <;> rename_i hx
      · rcases List.mem_cons.mp h with rfl | h
        · simp
        · exact ih h
      · rcases hrest : xs.splitOnP (· == '/') with _ | ⟨first, rest⟩
        · rw [hrest] at h
          cases h
        · rw [hrest] at h ih
          rcases List.mem_cons.mp h with rfl | h
          · have hfirst := ih List.mem_cons_self
            have hne : '/' ≠ x := fun heq => hx (beq_iff_eq.mpr heq.symm)
            simp [hne, hfirst]
          · exact ih (List.mem_cons_of_mem _ h)

theorem slash_not_mem_of_mem_segments {p s : String} (h : s ∈ segments p) : '/' ∉ s.toList := by
  obtain ⟨s, hs, rfl⟩ := List.mem_map.mp h
  rw [String.toList_ofList]
  exact slash_not_mem_of_mem_splitOn hs

/-- Segments put together again are the segments of the path they make. -/
theorem segments_intercalate {segs : List String} (h : ∀ s ∈ segs, '/' ∉ s.toList)
    (hsome : segs ≠ []) : segments ("/".intercalate segs) = segs := by
  have hslash : "/".toList = ['/'] := rfl
  rw [segments, String.toList_intercalate, hslash, List.splitOn_intercalate _ ?_ (by simpa),
    List.map_map]
  · simp [Function.comp_def]
  · intro l hl
    obtain ⟨s, hs, rfl⟩ := List.mem_map.mp hl
    exact h s hs

theorem names_intercalate {segs : List String} (h : ∀ s ∈ segs, '/' ∉ s.toList) :
    names ("/".intercalate segs) = segs.filter (· != "") := by
  cases segs with
  | nil => rfl
  | cons s segs => rw [names, segments_intercalate h (List.cons_ne_nil _ _)]

/-! ### Names of one entry -/

/-- A path of one component, which leads to an entry of the directory it starts from. -/
structure IsSingle (name : String) : Prop where
  ne_empty : name ≠ ""
  no_slash : '/' ∉ name.toList
  ne_here : name ≠ "."
  ne_up : name ≠ ".."

section

variable {name : String} (h : IsSingle name)

include h

theorem IsSingle.segments_eq : segments name = [name] := by
  have hslash : ∀ s ∈ [name], '/' ∉ s.toList := by simpa using h.no_slash
  have hsegments := segments_intercalate hslash (List.cons_ne_nil name [])
  rwa [String.intercalate_singleton] at hsegments

theorem IsSingle.names_eq : names name = [name] := by
  rw [names, h.segments_eq]
  simp [h.ne_empty]

theorem IsSingle.isAbsolute_eq : isAbsolute name = false := by
  unfold isAbsolute
  split <;> rename_i hchars
  · rw [beq_eq_false_iff_ne]
    rintro rfl
    exact h.no_slash (hchars ▸ List.mem_cons_self)
  · rfl

theorem IsSingle.components_eq : components name = [.name name] := by
  have hvoid : isVoid name = false := by simp [isVoid, h.ne_empty, h.ne_here]
  unfold components
  rw [h.isAbsolute_eq, h.segments_eq, if_neg Bool.false_ne_true]
  split
  · rename_i hhere
    exact absurd (List.cons.inj hhere).1 h.ne_here
  · simp [hvoid, componentOf, h.ne_here, h.ne_up]

theorem IsSingle.steps_eq : steps name = [name] := by
  rw [steps, h.names_eq]
  simp [h.ne_here]

end

/-! ### Absolute paths -/

theorem isAbsolute_iff {p : String} : isAbsolute p = true ↔ ∃ q, p = "/" ++ q := by
  unfold isAbsolute
  constructor
  · split
    · rename_i c cs hp
      intro hslash
      refine ⟨String.ofList cs, String.toList_inj.mp ?_⟩
      rw [String.toList_append, String.toList_ofList, hp, eq_of_beq hslash]
      simp
    · intro hfalse
      cases hfalse
  · rintro ⟨q, rfl⟩
    simp

theorem segments_slash_append (q : String) : segments ("/" ++ q) = "" :: segments q :=
  segments_append "" q

theorem names_slash_append (q : String) : names ("/" ++ q) = names q := by
  rw [names, segments_slash_append]
  rfl

theorem isAbsolute_intercalate {segs : List String} (h : ∀ s ∈ segs, '/' ∉ s.toList)
    (hfirst : segs.head? ≠ some "") : isAbsolute ("/".intercalate segs) = false := by
  rw [Bool.eq_false_iff]
  intro habs
  obtain ⟨q, hq⟩ := isAbsolute_iff.mp habs
  cases segs with
  | nil => exact absurd (congrArg String.toList hq) (by simp)
  | cons s segs =>
      have hsegs := segments_intercalate h (List.cons_ne_nil _ _)
      rw [hq, segments_slash_append] at hsegs
      exact hfirst (by rw [← hsegs]; rfl)

theorem endsInSlash_iff {p : String} : endsInSlash p = true ↔ ∃ q, p = q ++ "/" := by
  unfold endsInSlash
  constructor
  · split
    · rename_i c cs hp
      intro hslash
      refine ⟨String.ofList cs.reverse, String.toList_inj.mp ?_⟩
      rw [String.toList_append, String.toList_ofList, ← List.reverse_inj, hp, eq_of_beq hslash]
      simp
    · intro hfalse
      cases hfalse
  · rintro ⟨q, rfl⟩
    simp

/-! ### Joining -/

section

variable (base : String) {rel : String} (h : isAbsolute rel = false)

include h

theorem names_join : names (join base rel) = names base ++ names rel := by
  unfold join
  rw [h, Bool.false_or]
  split <;> rename_i hbase
  · rw [eq_of_beq hbase]
    rfl
  · split <;> rename_i hslash
    · obtain ⟨q, rfl⟩ := endsInSlash_iff.mp hslash
      have hempty : segments (q ++ "/") = segments q ++ [""] := by
        have happend := segments_append q ""
        rwa [String.append_empty] at happend
      simp [names, segments_append, hempty]
    · simp [names, segments_append]

theorem isAbsolute_join : isAbsolute (join base rel) = isAbsolute base := by
  unfold join
  rw [h, Bool.false_or]
  split <;> rename_i hbase
  · rw [eq_of_beq hbase, h]
    rfl
  · obtain ⟨c, cs, hchars⟩ : ∃ c cs, base.toList = c :: cs := by
      cases hchars : base.toList with
      | nil => exact absurd (String.toList_inj.mp hchars) (by simpa using hbase)
      | cons c cs => exact ⟨c, cs, rfl⟩
    split <;> simp [isAbsolute, hchars]

theorem steps_join : steps (join base rel) = steps base ++ steps rel := by
  rw [steps, names_join base h, List.filter_append]
  rfl

theorem start_join (l : Location) : start l (join base rel) = start l base := by
  rw [start, isAbsolute_join base h, start]

end

/-! ### Parents -/

theorem dropVoidEnd_append (segs : List String) :
    ∃ tail, segs = dropVoidEnd segs ++ tail ∧ ∀ s ∈ tail, isVoid s = true := by
  refine ⟨(segs.reverse.takeWhile isVoid).reverse, ?_, fun s hs => ?_⟩
  · rw [dropVoidEnd, ← List.reverse_append, List.takeWhile_append_dropWhile, List.reverse_reverse]
  · exact List.all_eq_true.mp List.all_takeWhile s (List.mem_reverse.mp hs)

theorem significant_append (segs : List String) :
    ∃ tail, segs = significant segs ++ tail ∧ ∀ s ∈ tail, isVoid s = true := by
  unfold significant
  split
  · rename_i rest
    obtain ⟨tail, htail, hvoid⟩ := dropVoidEnd_append rest
    exact ⟨tail, congrArg (List.cons ".") htail, hvoid⟩
  · exact dropVoidEnd_append segs

theorem getLast_dropVoidEnd {segs : List String} (h : dropVoidEnd segs ≠ []) :
    (dropVoidEnd segs).getLast h ≠ "" := by
  unfold dropVoidEnd at h ⊢
  have hlast := List.head_dropWhile_not isVoid (List.reverse_ne_nil_iff.mp h)
  rw [List.getLast_reverse]
  intro hempty
  rw [hempty] at hlast
  cases hlast

theorem getLast_significant {segs : List String} (h : significant segs ≠ []) :
    (significant segs).getLast h ≠ "" := by
  unfold significant at h ⊢
  split
  · rename_i rest
    by_cases hrest : dropVoidEnd rest = []
    · simp [hrest]
    · rw [List.getLast_cons hrest]
      exact getLast_dropVoidEnd hrest
  · exact getLast_dropVoidEnd _

/-- Trimmed at its end, cut by one and trimmed again, a list loses its last segment and no other
that counts. -/
theorem exists_cut {trim : List String → List String}
    (htrim : ∀ segs, ∃ tail, segs = trim segs ++ tail ∧ ∀ s ∈ tail, isVoid s = true)
    {segs : List String} (hsome : trim segs ≠ []) :
    ∃ cut, segs = trim (trim segs).dropLast ++ cut ∧ (trim segs).getLast hsome ∈ cut ∧
      (cut.filter fun s => !isVoid s).length ≤ 1 := by
  obtain ⟨behind, hbehind, hbehindVoid⟩ := htrim segs
  obtain ⟨before, hbefore, hbeforeVoid⟩ := htrim (trim segs).dropLast
  have hlast := List.dropLast_concat_getLast hsome
  have hnone : ∀ tail : List String, (∀ s ∈ tail, isVoid s = true) →
      (tail.filter fun s => !isVoid s) = [] :=
    fun tail htail => List.filter_eq_nil_iff.mpr fun s hs => by simp [htail s hs]
  refine ⟨before ++ (trim segs).getLast hsome :: behind, ?_, by simp, ?_⟩
  · calc segs = trim segs ++ behind := hbehind
      _ = (trim segs).dropLast ++ [(trim segs).getLast hsome] ++ behind := by rw [hlast]
      _ = trim (trim segs).dropLast ++ (before ++ (trim segs).getLast hsome :: behind) := by
        conv_lhs => rw [hbefore]
        simp
  · rw [List.filter_append, hnone before hbeforeVoid, List.nil_append, List.filter_cons,
      hnone behind hbehindVoid]
    split <;> simp

theorem names_cut {trim : List String → List String}
    (htrim : ∀ segs, ∃ tail, segs = trim segs ++ tail ∧ ∀ s ∈ tail, isVoid s = true) {p : String}
    (hsome : trim (segments p) ≠ []) (hlast : (trim (segments p)).getLast hsome ≠ "") :
    ∃ cut, names p = names ("/".intercalate (trim (trim (segments p)).dropLast)) ++ cut ∧
      cut ≠ [] ∧ (cut.filter (· != ".")).length ≤ 1 := by
  obtain ⟨cut, hcut, hmem, hcount⟩ := exists_cut htrim hsome
  have hslash : ∀ s ∈ trim (trim (segments p)).dropLast, '/' ∉ s.toList := by
    intro s hs
    refine slash_not_mem_of_mem_segments (p := p) ?_
    rw [hcut]
    exact List.mem_append_left _ hs
  refine ⟨cut.filter (· != ""), ?_, ?_, ?_⟩
  · rw [names_intercalate hslash, ← List.filter_append, ← hcut]
    rfl
  · exact List.ne_nil_of_mem (List.mem_filter.mpr ⟨hmem, by simpa using hlast⟩)
  · have hvoid : (fun s : String => s != "." && s != "") = fun s => !isVoid s := by
      funext s
      simp [isVoid, bne, Bool.and_comm]
    rwa [List.filter_filter, hvoid]

theorem eq_empty_of_head?_segments {p : String} (h : isAbsolute p = false)
    (hfirst : (segments p).head? = some "") : p = "" := by
  unfold isAbsolute at h
  unfold segments List.splitOn at hfirst
  cases hp : p.toList with
  | nil => exact String.toList_inj.mp hp
  | cons c cs =>
      rw [hp] at h hfirst
      rw [List.splitOnP_cons_eq_if_modifyHead, if_neg (by simpa using h)] at hfirst
      cases hrest : cs.splitOnP (· == '/') with
      | nil => simp [hrest] at hfirst
      | cons first rest => simp [hrest] at hfirst

theorem names_ne_nil {p : String} (h : isAbsolute p = false) (hsome : p ≠ "") : names p ≠ [] := by
  intro hnil
  cases hfirst : (segments p).head? with
  | none =>
      rw [List.head?_eq_none_iff, segments, List.map_eq_nil_iff] at hfirst
      exact List.splitOn_ne_nil _ _ hfirst
  | some s =>
      have hvoid := List.filter_eq_nil_iff.mp hnil s (List.mem_of_head? hfirst)
      obtain rfl : s = "" := by simpa using hvoid
      exact hsome (eq_empty_of_head?_segments h hfirst)

/-- The parent of a path has its first names, fewer than all, and all but one that counts. -/
theorem names_of_parent? {p q : String} (h : parent? p = some q) :
    isAbsolute q = isAbsolute p ∧
      ∃ cut, names p = names q ++ cut ∧ cut ≠ [] ∧ (cut.filter (· != ".")).length ≤ 1 := by
  unfold parent? at h
  split at h <;> rename_i habs
  · obtain ⟨r, rfl⟩ := isAbsolute_iff.mp habs
    rw [segments_slash_append, List.drop_one, List.tail_cons] at h
    split at h
    · cases h
    · rename_i hsome
      obtain rfl := Option.some.inj h
      rw [habs, isAbsolute_iff.mpr ⟨_, rfl⟩, names_slash_append, names_slash_append]
      exact ⟨rfl, names_cut dropVoidEnd_append hsome (getLast_dropVoidEnd hsome)⟩
  · split at h
    · cases h
    · rename_i hsome
      obtain rfl := Option.some.inj h
      rw [Bool.not_eq_true] at habs
      refine ⟨?_, names_cut significant_append hsome (getLast_significant hsome)⟩
      obtain ⟨cut, hcut, -⟩ := exists_cut significant_append hsome
      rw [habs]
      refine isAbsolute_intercalate (fun s hs => ?_) fun hfirst => ?_
      · refine slash_not_mem_of_mem_segments (p := p) ?_
        rw [hcut]
        exact List.mem_append_left _ hs
      · -- a first segment without text stands in an empty path only, which has no parent
        have hempty : p = "" := by
          refine eq_empty_of_head?_segments habs ?_
          rw [hcut, List.head?_append, hfirst]
          rfl
        rw [hempty] at hsome
        exact hsome rfl

/-- Every ancestor of a path has its first names. -/
theorem names_of_mem_ancestors {n : Nat} {p q : String} (h : q ∈ ancestors n p) :
    isAbsolute q = isAbsolute p ∧ names q <+: names p := by
  induction n generalizing p with
  | zero => cases h
  | succ n ih =>
      unfold ancestors at h
      split at h
      · cases h
      · split at h <;> rename_i hparent
        · rename_i parent
          rcases List.mem_cons.mp h with rfl | h
          · exact ⟨rfl, List.prefix_rfl⟩
          · obtain ⟨habs, hnames⟩ := ih h
            obtain ⟨habs', cut, hcut, -⟩ := names_of_parent? hparent
            exact ⟨habs.trans habs', hnames.trans (hcut ▸ List.prefix_append ..)⟩
        · rw [List.mem_singleton.mp h]
          exact ⟨rfl, List.prefix_rfl⟩

end RowTypings.Path
