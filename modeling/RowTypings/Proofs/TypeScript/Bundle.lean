import Mathlib.Data.List.Induction
import Mathlib.Data.List.Nodup
import RowTypings.TypeScript.Bundle

/-!
Bundles as they grow. Of the declarations of one name the first stands, so every list of a module is
one that new things are added to at the end; and a bundle is its module names, in the order of their
first declaration, with a module for each.
-/

namespace RowTypings.TypeScript

/-! ### The first of a name stands -/

section AddNew

variable {α : Type} {key : α → String}

/-- The list with `d` at its end, unless it holds something of that key. -/
def addNew (key : α → String) (ds : List α) (d : α) : List α :=
  if key d ∈ ds.map key then ds else ds ++ [d]

theorem addNew_of_mem {ds : List α} {d : α} (h : key d ∈ ds.map key) : addNew key ds d = ds :=
  if_pos h

theorem addNew_of_not_mem {ds : List α} {d : α} (h : key d ∉ ds.map key) :
    addNew key ds d = ds ++ [d] :=
  if_neg h

theorem prefix_addNew (ds : List α) (d : α) : ds <+: addNew key ds d := by
  unfold addNew
  split
  · exact List.prefix_rfl
  · exact List.prefix_append ds [d]

theorem mem_addNew {ds : List α} {d e : α} (h : e ∈ addNew key ds d) :
    e ∈ ds ∨ e = d ∧ key d ∉ ds.map key := by
  unfold addNew at h
  split at h
  · exact .inl h
  · rename_i hnew
    rcases List.mem_append.mp h with h | h
    · exact .inl h
    · exact .inr ⟨List.mem_singleton.mp h, hnew⟩

theorem key_mem_addNew (key : α → String) (ds : List α) (d : α) :
    key d ∈ (addNew key ds d).map key := by
  unfold addNew
  split
  · assumption
  · simp

theorem addNew_ne_nil (ds : List α) (d : α) : addNew key ds d ≠ [] := by
  intro hnil
  have hmem := key_mem_addNew key ds d
  rw [hnil] at hmem
  cases hmem

theorem nodup_addNew {ds : List α} (h : (ds.map key).Nodup) (d : α) :
    ((addNew key ds d).map key).Nodup := by
  unfold addNew
  split
  · exact h
  · rename_i hnew
    rw [List.map_append, List.map_singleton]
    exact h.append (List.nodup_singleton _) (by simpa using hnew)

theorem nodup_addNew_id {names : List String} (h : names.Nodup) (name : String) :
    (addNew id names name).Nodup := by
  have hnodup : ((addNew id names name).map id).Nodup := nodup_addNew (by rwa [List.map_id]) name
  rwa [List.map_id] at hnodup

theorem mem_addNew_id {names : List String} {name other : String} :
    other ∈ addNew id names name ↔ other ∈ names ∨ other = name := by
  constructor
  · intro h
    rcases mem_addNew h with hold | ⟨rfl, -⟩
    · exact .inl hold
    · exact .inr rfl
  · rintro (hold | rfl)
    · exact (prefix_addNew ..).subset hold
    · simpa using key_mem_addNew id names other

theorem addNew_id_cons {first name : String} (h : name ≠ first) (names : List String) :
    addNew id (first :: names) name = first :: addNew id names name := by
  by_cases hmem : name ∈ names
  · rw [addNew_of_mem (by simp [hmem]), addNew_of_mem (by simpa using hmem)]
  · rw [addNew_of_not_mem (by simp [hmem, h]), addNew_of_not_mem (by simpa using hmem),
      List.cons_append]

/-- Of distinct keys nothing is dropped. -/
theorem foldl_addNew {ds es : List α} (h : ((ds ++ es).map key).Nodup) :
    es.foldl (addNew key) ds = ds ++ es := by
  induction es generalizing ds with
  | nil => exact (List.append_nil ds).symm
  | cons e es ih =>
      have hsplit : ds ++ e :: es = (ds ++ [e]) ++ es := by simp
      rw [hsplit] at h
      have hnew : key e ∉ ds.map key := by
        rw [List.map_append, List.nodup_append, List.map_append, List.nodup_append] at h
        intro hmem
        exact h.1.2.2 _ hmem (key e) (by simp) rfl
      rw [List.foldl_cons, addNew_of_not_mem hnew, ih h, hsplit]

theorem foldl_addNew_id (names : List String) : names.foldl (addNew id) [] = names.eraseDups := by
  induction names using List.reverseRecOn with
  | nil => rfl
  | append_singleton names name ih =>
      rw [List.foldl_concat, ih, List.eraseDups_append]
      by_cases hmem : name ∈ names
      · have hnone : [name].removeAll names = [] := by simp [List.removeAll, hmem]
        rw [addNew_of_mem (by simpa using hmem), hnone]
        simp
      · have hone : [name].removeAll names = [name] := by simp [List.removeAll, hmem]
        rw [addNew_of_not_mem (by simpa using hmem), hone]
        rfl

theorem map_foldl_addNew (ds es : List α) :
    (es.foldl (addNew key) ds).map key = (es.map key).foldl (addNew id) (ds.map key) := by
  induction es generalizing ds with
  | nil => rfl
  | cons e es ih =>
      have hstep : (addNew key ds e).map key = addNew id (ds.map key) (key e) := by
        by_cases hmem : key e ∈ ds.map key
        · rw [addNew_of_mem hmem, addNew_of_mem (by simpa using hmem)]
        · rw [addNew_of_not_mem hmem, addNew_of_not_mem (by simpa using hmem)]
          simp
      simp only [List.foldl_cons, List.map_cons, ih, hstep]

theorem nodup_eraseDups (names : List String) : names.eraseDups.Nodup := by
  rw [← foldl_addNew_id]
  induction names using List.reverseRecOn with
  | nil => exact List.nodup_nil
  | append_singleton names name ih =>
      rw [List.foldl_concat]
      exact nodup_addNew_id ih name

theorem filter_addNew_id (names : List String) (name : String) (p : String → Bool) :
    (addNew id names name).filter p =
      if p name then addNew id (names.filter p) name else names.filter p := by
  by_cases hmem : name ∈ names
  · rw [addNew_of_mem (by simpa using hmem)]
    split <;> rename_i hp
    · rw [addNew_of_mem (by simp [hmem, hp])]
    · rfl
  · rw [addNew_of_not_mem (by simpa using hmem), List.filter_append]
    split <;> rename_i hp
    · rw [addNew_of_not_mem (by simp [hmem]), List.filter_cons_of_pos hp, List.filter_nil]
    · rw [List.filter_cons_of_neg hp, List.filter_nil, List.append_nil]

theorem eraseDups_filter (names : List String) (p : String → Bool) :
    (names.filter p).eraseDups = names.eraseDups.filter p := by
  simp only [← foldl_addNew_id]
  induction names using List.reverseRecOn with
  | nil => rfl
  | append_singleton names name ih =>
      rw [List.filter_append, List.foldl_append, ih, List.foldl_concat, filter_addNew_id]
      cases hp : p name <;> simp [hp]

end AddNew

/-! ### Modules -/

namespace Module

variable (m : Module)

theorem hasInterface_iff {name : String} :
    m.hasInterface name = true ↔ name ∈ m.interfaces.map InterfaceDeclaration.name := by
  simp [hasInterface]

theorem hasConstant_iff {name : String} :
    m.hasConstant name = true ↔ name ∈ m.constants.map ConstantDeclaration.name := by
  simp [hasConstant]

theorem addOrigin_eq (origin : String) :
    m.addOrigin origin = { m with origins := addNew id m.origins origin } := by
  unfold addOrigin addNew
  simp only [List.map_id, id]
  split <;> rename_i h
  · rw [if_pos (List.contains_iff_mem.mp h)]
  · rw [if_neg fun hmem => h (List.contains_iff_mem.mpr hmem)]

theorem declareInterface_eq (d : InterfaceDeclaration) :
    m.declareInterface d =
      { m with interfaces := addNew InterfaceDeclaration.name m.interfaces d } := by
  unfold declareInterface addNew
  split <;> rename_i h
  · rw [if_pos (m.hasInterface_iff.mp h)]
  · rw [if_neg fun hmem => h (m.hasInterface_iff.mpr hmem)]

theorem declareConstant_eq (d : ConstantDeclaration) :
    m.declareConstant d =
      { m with constants := addNew ConstantDeclaration.name m.constants d } := by
  unfold declareConstant addNew
  split <;> rename_i h
  · rw [if_pos (m.hasConstant_iff.mp h)]
  · rw [if_neg fun hmem => h (m.hasConstant_iff.mpr hmem)]

/-- The second module holds everything of the first, in the same order, and maybe more behind it. -/
structure Extends (m m' : Module) : Prop where
  origins : m.origins <+: m'.origins
  interfaces : m.interfaces <+: m'.interfaces
  constants : m.constants <+: m'.constants

theorem Extends.refl : m.Extends m := ⟨List.prefix_rfl, List.prefix_rfl, List.prefix_rfl⟩

theorem Extends.trans {m m' m'' : Module} (h : m.Extends m') (h' : m'.Extends m'') :
    m.Extends m'' :=
  ⟨h.origins.trans h'.origins, h.interfaces.trans h'.interfaces, h.constants.trans h'.constants⟩

end Module

/-! ### Bundles -/

namespace Bundle

/-- The names of the modules, in the order of their first declaration. -/
def names (b : Bundle) : List String := b.modules.map Module.name

/-- The module of a name, empty if it is not declared. -/
def moduleOf (b : Bundle) (name : String) : Module := (b.module? name).getD { name }

variable (b : Bundle)

theorem module?_eq_none_iff {name : String} : b.module? name = none ↔ name ∉ b.names := by
  simp [module?, names]

theorem name_of_module? {name : String} {m : Module} (h : b.module? name = some m) :
    m.name = name := by
  simpa using List.find?_some h

@[simp] theorem name_moduleOf (name : String) : (b.moduleOf name).name = name := by
  unfold moduleOf
  cases h : b.module? name with
  | none => rfl
  | some m => exact b.name_of_module? h

theorem moduleOf_of_not_mem {name : String} (h : name ∉ b.names) : b.moduleOf name = { name } := by
  rw [moduleOf, b.module?_eq_none_iff.mpr h, Option.getD_none]

theorem module?_eq (name : String) :
    b.module? name = if name ∈ b.names then some (b.moduleOf name) else none := by
  split <;> rename_i hname
  · cases h : b.module? name with
    | none => exact absurd hname (b.module?_eq_none_iff.mp h)
    | some m => rw [moduleOf, h, Option.getD_some]
  · exact b.module?_eq_none_iff.mpr hname

theorem any_hasInterface (name interface : String) :
    (b.module? name).any (fun m => m.hasInterface interface) = true ↔
      interface ∈ (b.moduleOf name).interfaces.map InterfaceDeclaration.name := by
  unfold moduleOf
  cases b.module? name with
  | none => simp
  | some m => exact m.hasInterface_iff

theorem any_hasConstant (name constant : String) :
    (b.module? name).any (fun m => m.hasConstant constant) = true ↔
      constant ∈ (b.moduleOf name).constants.map ConstantDeclaration.name := by
  unfold moduleOf
  cases b.module? name with
  | none => simp
  | some m => exact m.hasConstant_iff

/-- Without repeated names, the module of a name is the one that has it. -/
theorem moduleOf_name_of_mem (h : b.names.Nodup) {m : Module} (hm : m ∈ b.modules) :
    b.moduleOf m.name = m := by
  have hsome : b.module? m.name ≠ none :=
    fun hnone => b.module?_eq_none_iff.mp hnone (List.mem_map_of_mem hm)
  obtain ⟨m', hm'⟩ := Option.ne_none_iff_exists'.mp hsome
  -- the search by name gives the module itself, as no other has its name
  have hsame : m' = m :=
    List.inj_on_of_nodup_map h (List.mem_of_find?_eq_some hm') hm (b.name_of_module? hm')
  rw [moduleOf, hm', hsame, Option.getD_some]

/-- Without repeated names, a bundle is its names with the module of each. -/
theorem modules_eq_map (h : b.names.Nodup) : b.modules = b.names.map b.moduleOf := by
  have hmodules : b.modules.map (fun m => b.moduleOf m.name) = b.modules.map id :=
    List.map_congr_left fun _ hm => b.moduleOf_name_of_mem h hm
  rw [names, List.map_map]
  exact (hmodules.trans (List.map_id _)).symm

theorem mem_modules_iff (h : b.names.Nodup) {m : Module} :
    m ∈ b.modules ↔ b.module? m.name = some m := by
  constructor
  · intro hm
    have hname : m.name ∈ b.names := List.mem_map_of_mem hm
    rw [module?_eq, if_pos hname, b.moduleOf_name_of_mem h hm]
  · exact List.mem_of_find?_eq_some

/-- The modules of one name are the module of that name. -/
theorem filter_modules_eq (h : b.names.Nodup) (name : String) :
    b.modules.filter (fun m => m.name == name) = (b.module? name).toList := by
  have hname : (fun m : Module => m.name == name) ∘ b.moduleOf = (· == name) := by
    funext n
    simp
  rw [b.modules_eq_map h, List.filter_map, hname, List.filter_beq, h.count, module?_eq]
  split <;> simp

/-- Bundles with the same module under each name differ in the order of their modules only. -/
theorem modules_perm {b b' : Bundle} (h : b.names.Nodup) (h' : b'.names.Nodup)
    (hsame : ∀ n, b.module? n = b'.module? n) : b.modules.Perm b'.modules := by
  rw [List.perm_ext_iff_of_nodup (List.Nodup.of_map _ h) (List.Nodup.of_map _ h')]
  intro m
  rw [b.mem_modules_iff h, b'.mem_modules_iff h', hsame]

/-! ### Changing one module -/

variable {name : String} {f g : Module → Module}

theorem update_congr (h : f (b.moduleOf name) = g (b.moduleOf name)) :
    b.update name f = b.update name g := by
  have hgo : ∀ ms : List Module,
      f ((ms.find? fun m => m.name == name).getD { name }) =
        g ((ms.find? fun m => m.name == name).getD { name }) →
      update.go name f ms = update.go name g ms := by
    intro ms hms
    induction ms with
    | nil => exact congrArg (fun m => [m]) hms
    | cons m ms ih =>
        rw [List.find?_cons] at hms
        unfold update.go
        split at hms <;> rename_i hm
        · rw [hm, if_pos rfl, if_pos rfl]
          exact congrArg (fun m => m :: ms) hms
        · rw [hm, if_neg Bool.false_ne_true, if_neg Bool.false_ne_true, ih hms]
  unfold update
  rw [hgo b.modules h]

/-- A declared module that is not changed leaves the bundle as it is. -/
theorem update_eq_self (hname : name ∈ b.names) (h : f (b.moduleOf name) = b.moduleOf name) :
    b.update name f = b := by
  have hgo : ∀ ms : List Module, name ∈ ms.map Module.name → update.go name id ms = ms := by
    intro ms hms
    induction ms with
    | nil => cases hms
    | cons m ms ih =>
        rcases List.mem_cons.mp hms with rfl | hms
        · simp [update.go]
        · rw [update.go, ih hms, id, ite_self]
  rw [b.update_congr (g := id) h]
  exact congrArg (fun ms => { b with modules := ms }) (hgo b.modules hname)

section

variable (hf : ∀ m, (f m).name = m.name)

include hf

theorem update_update : (b.update name f).update name g = b.update name (g ∘ f) := by
  have hgo : ∀ ms : List Module,
      update.go name g (update.go name f ms) = update.go name (g ∘ f) ms := by
    intro ms
    induction ms with
    | nil => simp [update.go, hf]
    | cons m ms ih =>
        by_cases hm : m.name = name
        · simp [update.go, hf, hm]
        · simp [update.go, hm, ih]
  exact congrArg (fun ms => { b with modules := ms }) (hgo b.modules)

theorem names_update : (b.update name f).names = addNew id b.names name := by
  have hgo : ∀ ms : List Module,
      (update.go name f ms).map Module.name = addNew id (ms.map Module.name) name := by
    intro ms
    induction ms with
    | nil => simp [update.go, addNew, hf]
    | cons m ms ih =>
        by_cases hm : m.name = name
        · simp [update.go, addNew, hf, hm]
        · rw [update.go, if_neg (by simpa using hm), List.map_cons, ih, List.map_cons,
            addNew_id_cons (Ne.symm hm)]
  exact hgo b.modules

theorem moduleOf_update (n : String) :
    (b.update name f).moduleOf n = if n = name then f (b.moduleOf n) else b.moduleOf n := by
  have hgo : ∀ ms : List Module,
      ((update.go name f ms).find? fun m => m.name == n).getD { name := n } =
        if n = name then f ((ms.find? fun m => m.name == n).getD { name := n })
        else (ms.find? fun m => m.name == n).getD { name := n } := by
    intro ms
    induction ms with
    | nil =>
        by_cases hn : n = name
        · subst hn
          simp [update.go, hf]
        · simp [update.go, hf, hn, Ne.symm hn]
    | cons m ms ih =>
        by_cases hm : m.name = name
        · by_cases hn : n = name
          · subst hn
            simp [update.go, hf, hm]
          · simp [update.go, hf, hm, hn, Ne.symm hn]
        · rw [update.go, if_neg (by simpa using hm), List.find?_cons, List.find?_cons]
          by_cases hmn : m.name = n
          · subst hmn
            simp [hm]
          · rw [beq_false_of_ne hmn]
            exact ih
  exact hgo b.modules

end

/-! ### Many changes -/

/-- Every module stays in its place and only gets longer. -/
structure Extends (b b' : Bundle) : Prop where
  names : b.names <+: b'.names
  modules : ∀ n, (b.moduleOf n).Extends (b'.moduleOf n)

theorem Extends.refl : b.Extends b := ⟨List.prefix_rfl, fun n => .refl (b.moduleOf n)⟩

theorem Extends.trans {b b' b'' : Bundle} (h : b.Extends b') (h' : b'.Extends b'') :
    b.Extends b'' :=
  ⟨h.names.trans h'.names, fun n => (h.modules n).trans (h'.modules n)⟩

theorem extends_update (hf : ∀ m, (f m).name = m.name) (h : ∀ m : Module, m.Extends (f m)) :
    b.Extends (b.update name f) := by
  constructor
  · rw [names_update _ hf]
    exact prefix_addNew ..
  · intro n
    rw [moduleOf_update _ hf]
    split
    · exact h _
    · exact .refl _

section

variable {α : Type} {n : α → String} {g : α → Module → Module} (hg : ∀ a m, (g a m).name = m.name)

include hg

/-- Changes one after the other reach each module by itself. -/
theorem names_foldl_update (as : List α) :
    (as.foldl (fun b a => b.update (n a) (g a)) b).names =
      (as.map n).foldl (addNew id) b.names := by
  induction as generalizing b with
  | nil => rfl
  | cons a as ih =>
      rw [List.foldl_cons, ih, names_update _ (hg a), List.map_cons, List.foldl_cons]

theorem moduleOf_foldl_update (as : List α) (name : String) :
    (as.foldl (fun b a => b.update (n a) (g a)) b).moduleOf name =
      (as.filter fun a => n a == name).foldl (fun m a => g a m) (b.moduleOf name) := by
  induction as generalizing b with
  | nil => rfl
  | cons a as ih =>
      rw [List.foldl_cons, ih, moduleOf_update _ (hg a)]
      by_cases hname : name = n a
      · rw [if_pos hname, List.filter_cons_of_pos (by simp [hname]), List.foldl_cons]
      · rw [if_neg hname, List.filter_cons_of_neg (by simpa using Ne.symm hname)]

omit hg in
theorem indent_foldl_update (as : List α) :
    (as.foldl (fun b a => b.update (n a) (g a)) b).indent = b.indent := by
  induction as generalizing b with
  | nil => rfl
  | cons a as ih => exact ih (b.update (n a) (g a))

/-- A bundle built from nothing: every name in its first place, with the changes of its module. -/
theorem modules_foldl_update (indent : String) (as : List α) :
    (as.foldl (fun b a => b.update (n a) (g a)) ({ indent } : Bundle)).modules =
      (as.map n).eraseDups.map fun name =>
        (as.filter fun a => n a == name).foldl (fun m a => g a m) { name } := by
  have hnames : (as.foldl (fun b a => b.update (n a) (g a)) ({ indent } : Bundle)).names =
      (as.map n).eraseDups := by
    rw [names_foldl_update _ hg, ← foldl_addNew_id]
    rfl
  rw [modules_eq_map _ (hnames ▸ nodup_eraseDups (as.map n)), hnames]
  exact List.map_congr_left fun name _ => moduleOf_foldl_update _ hg as name

/-- Without the changes of some modules, those modules are not there, and all others are the
same. -/
theorem modules_foldl_update_filter (indent : String) (as : List α) (keep : String → Bool) :
    ((as.filter fun a => keep (n a)).foldl (fun b a => b.update (n a) (g a))
        ({ indent } : Bundle)).modules =
      (as.foldl (fun b a => b.update (n a) (g a)) ({ indent } : Bundle)).modules.filter
        fun m => keep m.name := by
  have hname : ((fun m : Module => keep m.name) ∘ fun name =>
      (as.filter fun a => n a == name).foldl (fun m a => g a m) { name }) = keep := by
    funext name
    have hmodule := moduleOf_foldl_update (n := n) ({ indent } : Bundle) hg as name
    exact congrArg keep ((congrArg Module.name hmodule).symm.trans (name_moduleOf _ name))
  have hnames : (as.filter fun a => keep (n a)).map n = (as.map n).filter keep := by
    rw [List.filter_map]
    rfl
  rw [modules_foldl_update hg, modules_foldl_update hg, List.filter_map, hname, hnames,
    eraseDups_filter]
  refine List.map_congr_left fun name hkept => ?_
  have hown : (as.filter fun a => keep (n a)).filter (fun a => n a == name) =
      as.filter fun a => n a == name := by
    rw [List.filter_filter]
    refine List.filter_congr fun a _ => ?_
    by_cases ha : n a = name
    · rw [ha, (List.mem_filter.mp hkept).2, Bool.and_true]
    · rw [beq_false_of_ne ha, Bool.false_and]
  rw [hown]

end

end Bundle

end RowTypings.TypeScript
