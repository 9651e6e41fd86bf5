import RowTypings.Proofs.TypeScript.Bundle

/-!
Bundles by their history. A bundle is what a sequence of declarations leaves. Each of its lists holds
the first declaration of every name, in order, so that to declare something again changes nothing,
whatever comes with the name, and a history may be told without its repetitions.
-/

namespace RowTypings.TypeScript

/-- One operation on a bundle. It declares its module first, if that is new. -/
inductive Declaration where
  | module (name : String)
  | origin (module origin : String)
  | interface (module : String) (d : InterfaceDeclaration)
  | constant (module : String) (d : ConstantDeclaration)

namespace Declaration

/-- What is declared in a module, by name, or the module itself. -/
inductive Item where
  | module
  | origin (origin : String)
  | interface (name : String)
  | constant (name : String)
  deriving DecidableEq

def moduleName : Declaration → String
  | module n | origin n _ | interface n _ | constant n _ => n

def item : Declaration → Item
  | module _ => .module
  | origin _ o => .origin o
  | interface _ d => .interface d.name
  | constant _ d => .constant d.name

def origin? : Declaration → Option String
  | origin _ o => some o
  | _ => none

def interface? : Declaration → Option InterfaceDeclaration
  | interface _ d => some d
  | _ => none

def constant? : Declaration → Option ConstantDeclaration
  | constant _ d => some d
  | _ => none

/-- The same was declared before. Any declaration in a module declares the module. -/
def repeats (d : Declaration) (earlier : List Declaration) : Bool :=
  earlier.any fun e => e.moduleName == d.moduleName && (d.item == .module || e.item == d.item)

/-- Declarations that come behind `earlier`, without those that repeat one before them. -/
def newAfter (earlier : List Declaration) : List Declaration → List Declaration
  | [] => []
  | d :: rest =>
    if d.repeats earlier then newAfter (earlier ++ [d]) rest
    else d :: newAfter (earlier ++ [d]) rest

/-- The declarations that are the first of what they declare. -/
def firsts (ds : List Declaration) : List Declaration := newAfter [] ds

theorem newAfter_concat (earlier ds : List Declaration) (d : Declaration) :
    newAfter earlier (ds ++ [d]) =
      newAfter earlier ds ++ if d.repeats (earlier ++ ds) then [] else [d] := by
  induction ds generalizing earlier with
  | nil =>
      simp only [List.nil_append, List.append_nil, newAfter]
  | cons e ds ih =>
      simp only [List.cons_append, newAfter, ih, List.append_assoc, List.nil_append]
      split <;> rfl

theorem firsts_concat (ds : List Declaration) (d : Declaration) :
    firsts (ds ++ [d]) = firsts ds ++ if d.repeats ds then [] else [d] :=
  newAfter_concat [] ds d

/-- What a declaration does to its module. -/
def change : Declaration → Module → Module
  | module _, m => m
  | origin _ o, m => m.addOrigin o
  | interface _ d, m => m.declareInterface d
  | constant _ d, m => m.declareConstant d

theorem name_change (d : Declaration) (m : Module) : (d.change m).name = m.name := by
  cases d with
  | module n => rfl
  | origin n o => rw [change, m.addOrigin_eq]
  | interface n d => rw [change, m.declareInterface_eq]
  | constant n d => rw [change, m.declareConstant_eq]

theorem extends_change (d : Declaration) (m : Module) : m.Extends (d.change m) := by
  cases d with
  | module n => exact .refl m
  | origin n o =>
      rw [change, m.addOrigin_eq]
      exact ⟨prefix_addNew .., List.prefix_rfl, List.prefix_rfl⟩
  | interface n d =>
      rw [change, m.declareInterface_eq]
      exact ⟨List.prefix_rfl, prefix_addNew .., List.prefix_rfl⟩
  | constant n d =>
      rw [change, m.declareConstant_eq]
      exact ⟨List.prefix_rfl, List.prefix_rfl, prefix_addNew ..⟩

end Declaration

namespace Bundle

open Declaration (firsts)

def declare (b : Bundle) : Declaration → Bundle
  | .module n => b.declareModule n
  | .origin n o => b.addOrigin n o
  | .interface n d => b.declareInterface n d
  | .constant n d => b.declareConstant n d

/-- The bundle that a sequence of declarations leaves. -/
def ofHistory (indent : String) (ds : List Declaration) : Bundle := ds.foldl declare { indent }

variable (b : Bundle) (indent : String) (ds : List Declaration) (d : Declaration)

/-! ### One declaration -/

theorem declare_eq : b.declare d = b.update d.moduleName d.change := by
  cases d <;> rfl

theorem declare_extends : b.Extends (b.declare d) := by
  rw [declare_eq]
  exact b.extends_update d.name_change d.extends_change

/-- A declaration in one module leaves all others as they are. -/
theorem module?_declare_of_ne {n : String} (h : n ≠ d.moduleName) :
    (b.declare d).module? n = b.module? n := by
  have hnames : n ∈ addNew id b.names d.moduleName ↔ n ∈ b.names := by
    rw [mem_addNew_id, or_iff_left h]
  rw [declare_eq, module?_eq, module?_eq, names_update _ d.name_change,
    moduleOf_update _ d.name_change, if_neg h]
  simp only [hnames]

/-! ### Many declarations -/

theorem ofHistory_concat : ofHistory indent (ds ++ [d]) = (ofHistory indent ds).declare d :=
  List.foldl_concat ..

theorem ofHistory_eq :
    ofHistory indent ds =
      ds.foldl (fun b d => b.update d.moduleName d.change) ({ indent } : Bundle) := by
  rw [ofHistory]
  congr 1
  funext b d
  exact b.declare_eq d

theorem indent_ofHistory : (ofHistory indent ds).indent = indent := by
  rw [ofHistory_eq]
  exact indent_foldl_update _ ds

/-- Without the declarations in some modules, those modules are not there, and all others are the
same. -/
theorem modules_ofHistory_filter (keep : String → Bool) :
    (ofHistory indent (ds.filter fun d => keep d.moduleName)).modules =
      (ofHistory indent ds).modules.filter fun m => keep m.name := by
  rw [ofHistory_eq, ofHistory_eq]
  exact modules_foldl_update_filter Declaration.name_change indent ds keep

theorem names_ofHistory :
    (ofHistory indent ds).names = (ds.map Declaration.moduleName).eraseDups := by
  rw [ofHistory_eq, names_foldl_update _ Declaration.name_change, ← foldl_addNew_id]
  rfl

theorem nodup_names_ofHistory : (ofHistory indent ds).names.Nodup := by
  rw [names_ofHistory]
  exact nodup_eraseDups _

theorem ofHistory_extends (before after : List Declaration) :
    (ofHistory indent before).Extends (ofHistory indent (before ++ after)) := by
  induction after using List.reverseRecOn with
  | nil =>
      rw [List.append_nil]
      exact .refl _
  | append_singleton after d ih =>
      rw [← List.append_assoc, ofHistory_concat]
      exact ih.trans (declare_extends _ d)

end Bundle

/-! ### The lists of a module -/

/-- One of the lists that a module holds, with the declarations that add to it. -/
structure Part (α : Type) where
  list : Module → List α
  key : α → String
  added? : Declaration → Option α
  list_new (n : String) : list { name := n } = []
  list_change (d : Declaration) (m : Module) :
    list (d.change m) = (added? d).elim (list m) (addNew key (list m))
  item_ne_module {d : Declaration} {a : α} (h : added? d = some a) : d.item ≠ .module
  item_eq_iff {d : Declaration} {a : α} (h : added? d = some a) (e : Declaration) :
    e.item = d.item ↔ ∃ a', added? e = some a' ∧ key a' = key a

namespace Part

def origins : Part String where
  list := Module.origins
  key := id
  added? := Declaration.origin?
  list_new _ := rfl
  list_change d m := by
    cases d <;> simp [Declaration.change, Declaration.origin?, Module.addOrigin_eq,
      Module.declareInterface_eq, Module.declareConstant_eq]
  item_ne_module {d a} h := by
    cases d <;> simp_all [Declaration.origin?, Declaration.item]
  item_eq_iff {d a} h e := by
    cases d <;> cases e <;> simp_all [Declaration.origin?, Declaration.item]

def interfaces : Part InterfaceDeclaration where
  list := Module.interfaces
  key := InterfaceDeclaration.name
  added? := Declaration.interface?
  list_new _ := rfl
  list_change d m := by
    cases d <;> simp [Declaration.change, Declaration.interface?, Module.addOrigin_eq,
      Module.declareInterface_eq, Module.declareConstant_eq]
  item_ne_module {d a} h := by
    cases d <;> simp_all [Declaration.interface?, Declaration.item]
  item_eq_iff {d a} h e := by
    cases d <;> cases e <;> simp_all [Declaration.interface?, Declaration.item]

def constants : Part ConstantDeclaration where
  list := Module.constants
  key := ConstantDeclaration.name
  added? := Declaration.constant?
  list_new _ := rfl
  list_change d m := by
    cases d <;> simp [Declaration.change, Declaration.constant?, Module.addOrigin_eq,
      Module.declareInterface_eq, Module.declareConstant_eq]
  item_ne_module {d a} h := by
    cases d <;> simp_all [Declaration.constant?, Declaration.item]
  item_eq_iff {d a} h e := by
    cases d <;> cases e <;> simp_all [Declaration.constant?, Declaration.item]

variable {α : Type} (p : Part α) (indent : String) (ds : List Declaration) (n : String)

/-- The declarations of the module that add to the list do so one after the other. -/
theorem list_ofHistory :
    p.list ((Bundle.ofHistory indent ds).moduleOf n) =
      ((ds.filter fun d => d.moduleName == n).filterMap p.added?).foldl (addNew p.key) [] := by
  induction ds using List.reverseRecOn with
  | nil => exact p.list_new n
  | append_singleton ds d ih =>
      rw [Bundle.ofHistory_concat, Bundle.declare_eq, Bundle.moduleOf_update _ d.name_change,
        List.filter_append, List.filterMap_append, List.foldl_append, ← ih]
      by_cases hn : n = d.moduleName
      · rw [if_pos hn, list_change, List.filter_cons_of_pos (by simp [hn]), List.filter_nil]
        cases hadded : p.added? d <;> simp [hadded]
      · rw [if_neg hn, List.filter_cons_of_neg (by simpa using Ne.symm hn)]
        rfl

theorem keys_ofHistory :
    (p.list ((Bundle.ofHistory indent ds).moduleOf n)).map p.key =
      (((ds.filter fun d => d.moduleName == n).filterMap p.added?).map p.key).eraseDups := by
  rw [list_ofHistory, map_foldl_addNew, List.map_nil, foldl_addNew_id]

theorem nodup_keys : ((p.list ((Bundle.ofHistory indent ds).moduleOf n)).map p.key).Nodup := by
  rw [keys_ofHistory]
  exact nodup_eraseDups _

/-- A declaration repeats one before it exactly if its key is in the list already. -/
theorem repeats_iff {d : Declaration} {a : α} (h : p.added? d = some a) :
    d.repeats ds = true ↔
      p.key a ∈ (p.list ((Bundle.ofHistory indent ds).moduleOf d.moduleName)).map p.key := by
  rw [keys_ofHistory, List.mem_eraseDups]
  simp only [Declaration.repeats, List.any_eq_true, Bool.and_eq_true, beq_iff_eq, Bool.or_eq_true,
    p.item_ne_module h, false_or, p.item_eq_iff h, List.mem_map, List.mem_filterMap,
    List.mem_filter]
  constructor
  · rintro ⟨e, he, hmodule, a', ha', hkey⟩
    exact ⟨a', ⟨e, ⟨he, hmodule⟩, ha'⟩, hkey⟩
  · rintro ⟨a', ⟨e, ⟨he, hmodule⟩, ha'⟩, hkey⟩
    exact ⟨e, he, hmodule, a', ha', hkey⟩

/-- The list holds what was declared first under each key. -/
theorem list_eq_firsts :
    p.list ((Bundle.ofHistory indent ds).moduleOf n) =
      ((Declaration.firsts ds).filter fun d => d.moduleName == n).filterMap p.added? := by
  induction ds using List.reverseRecOn with
  | nil => exact p.list_new n
  | append_singleton ds d ih =>
      rw [Bundle.ofHistory_concat, Bundle.declare_eq, Bundle.moduleOf_update _ d.name_change,
        Declaration.firsts_concat, List.filter_append, List.filterMap_append, ← ih]
      by_cases hn : n = d.moduleName
      · rw [if_pos hn, list_change]
        cases hadded : p.added? d with
        | none =>
            split <;> simp [hn, hadded]
        | some a =>
            have hkey := p.repeats_iff indent ds hadded
            rw [← hn] at hkey
            simp only [Option.elim]
            split <;> rename_i hrepeats
            · rw [addNew_of_mem (hkey.mp hrepeats)]
              simp
            · rw [addNew_of_not_mem fun hmem => hrepeats (hkey.mpr hmem)]
              simp [hn, hadded]
      · rw [if_neg hn]
        split <;> simp [Ne.symm hn]

end Part

/-! ### Repetitions -/

namespace Bundle

open Declaration (firsts)

variable (indent : String) (ds : List Declaration)

theorem moduleName_mem_of_repeats {d : Declaration} (h : d.repeats ds = true) :
    d.moduleName ∈ (ofHistory indent ds).names := by
  obtain ⟨e, he, hsame⟩ := List.any_eq_true.mp h
  rw [Bool.and_eq_true, beq_iff_eq] at hsame
  rw [names_ofHistory, List.mem_eraseDups, ← hsame.1]
  exact List.mem_map_of_mem he

/-- To declare something again changes nothing, whatever comes with its name. -/
theorem declare_of_repeats {d : Declaration} (h : d.repeats ds = true) :
    (ofHistory indent ds).declare d = ofHistory indent ds := by
  rw [declare_eq]
  refine update_eq_self _ (moduleName_mem_of_repeats indent ds h) ?_
  cases d with
  | module n => rfl
  | origin n o =>
      have hmem := (Part.origins.repeats_iff indent ds rfl).mp h
      rw [Declaration.change, Module.addOrigin_eq]
      exact congrArg (fun origins => { (ofHistory indent ds).moduleOf n with origins })
        (addNew_of_mem hmem)
  | interface n d =>
      have hmem := (Part.interfaces.repeats_iff indent ds rfl).mp h
      rw [Declaration.change, Module.declareInterface_eq]
      exact congrArg (fun interfaces => { (ofHistory indent ds).moduleOf n with interfaces })
        (addNew_of_mem hmem)
  | constant n d =>
      have hmem := (Part.constants.repeats_iff indent ds rfl).mp h
      rw [Declaration.change, Module.declareConstant_eq]
      exact congrArg (fun constants => { (ofHistory indent ds).moduleOf n with constants })
        (addNew_of_mem hmem)

theorem ofHistory_firsts : ofHistory indent (firsts ds) = ofHistory indent ds := by
  induction ds using List.reverseRecOn with
  | nil => rfl
  | append_singleton ds d ih =>
      rw [Declaration.firsts_concat, ofHistory_concat]
      split <;> rename_i hrepeats
      · rw [List.append_nil, ih, declare_of_repeats indent ds hrepeats]
      · rw [ofHistory_concat, ih]

/-- A bundle only grows, and it is told by the first declarations of its history. No name stands
twice in one of its lists. What the declarations up to some point leave stands unchanged in front of
what comes later. Without those that repeat one before them, the declarations leave the same bundle,
and each list holds what is left of them in order. A declaration in one module leaves all others as
they are. -/
theorem ofHistory_keeps_first_declarations (indent : String) (ds : List Declaration) :
    let b := ofHistory indent ds
    (b.names.Nodup ∧ ∀ m ∈ b.modules, m.origins.Nodup ∧
      (m.interfaces.map InterfaceDeclaration.name).Nodup ∧
      (m.constants.map ConstantDeclaration.name).Nodup) ∧
    (∀ before after, ds = before ++ after →
      let earlier := ofHistory indent before
      earlier.names <+: b.names ∧ ∀ n,
        (earlier.moduleOf n).origins <+: (b.moduleOf n).origins ∧
        (earlier.moduleOf n).interfaces <+: (b.moduleOf n).interfaces ∧
        (earlier.moduleOf n).constants <+: (b.moduleOf n).constants) ∧
    ofHistory indent (firsts ds) = b ∧
    (b.names = (ds.map Declaration.moduleName).eraseDups ∧ ∀ n,
      let own := (firsts ds).filter fun d => d.moduleName == n
      (b.moduleOf n).origins = own.filterMap Declaration.origin? ∧
      (b.moduleOf n).interfaces = own.filterMap Declaration.interface? ∧
      (b.moduleOf n).constants = own.filterMap Declaration.constant?) ∧
    ∀ (other : Bundle) (d : Declaration) (n : String), n ≠ d.moduleName →
      (other.declare d).module? n = other.module? n := by
  intro b
  have hnames : b.names = (ds.map Declaration.moduleName).eraseDups := names_ofHistory indent ds
  have hnodup : b.names.Nodup := nodup_names_ofHistory indent ds
  refine ⟨⟨hnodup, fun m hm => ?_⟩, ?_, ofHistory_firsts indent ds, ⟨hnames, fun n => ?_⟩,
    fun other d n hn => other.module?_declare_of_ne d hn⟩
  · rw [← b.moduleOf_name_of_mem hnodup hm]
    have horigins := Part.origins.nodup_keys indent ds m.name
    rw [show Part.origins.key = id from rfl, List.map_id] at horigins
    exact ⟨horigins, Part.interfaces.nodup_keys indent ds m.name,
      Part.constants.nodup_keys indent ds m.name⟩
  · rintro before after rfl
    have hextends := ofHistory_extends indent before after
    exact ⟨hextends.names, fun n => ⟨(hextends.modules n).origins, (hextends.modules n).interfaces,
      (hextends.modules n).constants⟩⟩
  · exact ⟨Part.origins.list_eq_firsts indent ds n, Part.interfaces.list_eq_firsts indent ds n,
      Part.constants.list_eq_firsts indent ds n⟩

/-- An interface is declared again with other members, and then in another module. -/
theorem ofHistory_keeps_first_declarations_twice_named :
    let first : InterfaceDeclaration := ⟨"A", ["readonly x: number; // x"]⟩
    let second : InterfaceDeclaration := ⟨"A", ["readonly y: number; // y"]⟩
    let before : List Declaration := [.interface "m" first, .origin "m" "m.csv"]
    let after : List Declaration := [.module "m", .interface "m" second, .interface "n" second]
    let b := ofHistory "  " (before ++ after)
    firsts (before ++ after) = before ++ [.interface "n" second] ∧
      b = ofHistory "  " (before ++ [.interface "n" second]) ∧
      (b.moduleOf "m").interfaces = [first] ∧ (b.moduleOf "n").interfaces = [second] ∧
      ((ofHistory "  " before).moduleOf "m").interfaces <+: (b.moduleOf "m").interfaces ∧
      (b.declare (.interface "n" first)).module? "m" = b.module? "m" := by
  intro first second before after b
  have hfirsts : firsts (before ++ after) = before ++ [.interface "n" second] := rfl
  obtain ⟨-, hgrows, hsame, ⟨-, hlists⟩, hothers⟩ :=
    ofHistory_keeps_first_declarations "  " (before ++ after)
  rw [hfirsts] at hsame hlists
  exact ⟨hfirsts, hsame.symm, (hlists "m").2.1, (hlists "n").2.1,
    ((hgrows before after rfl).2 "m").2.1, hothers b (.interface "n" first) "m" (by decide)⟩

end Bundle

end RowTypings.TypeScript
