import RowTypings.Proofs.Basic
import RowTypings.Proofs.Run.Declarations

/-!
Source identities in comments. The header of a module names all its origins behind `//`, and so does
each member of the combined interface with its own. A reader of the text takes a comment to end at
the first line break, and an identity is written as it is; so a comment is read as it was meant if
and only if no identity in it has a line break.
-/

namespace RowTypings

namespace Text

/-- The text has no line break. -/
def Unbroken (s : String) : Prop := ∀ c ∈ s.toList, isLineBreak c = false

/-- What stands before the first line break: all that a comment can take of a text. -/
def firstLine (cs : List Char) : List Char := cs.takeWhile fun c => !isLineBreak c

/-- A text with a line behind it is the first line of the whole if it has no line break itself. -/
theorem firstLine_append_newline (s : String) (rest : List Char) :
    firstLine (s.toList ++ '\n' :: rest) = s.toList ↔ Unbroken s := by
  constructor
  · intro h c hc
    rw [← h] at hc
    simpa using List.mem_takeWhile_imp hc
  · intro h
    have hinside : ∀ c ∈ s.toList, (!isLineBreak c) = true := fun c hc => by rw [h c hc]; rfl
    rw [firstLine, List.takeWhile_append_of_pos hinside]
    exact List.append_nil _

theorem unbroken_append {s t : String} : Unbroken (s ++ t) ↔ Unbroken s ∧ Unbroken t := by
  unfold Unbroken
  rw [String.toList_append]
  exact List.forall_mem_append

theorem unbroken_intercalate {sep : String} (hsep : Unbroken sep) {texts : List String} :
    Unbroken (sep.intercalate texts) ↔ ∀ s ∈ texts, Unbroken s := by
  induction texts with
  | nil => simp [Unbroken]
  | cons s texts ih =>
      cases texts with
      | nil => simp
      | cons s' texts =>
          rw [String.intercalate_cons_cons, unbroken_append, unbroken_append, ih,
            List.forall_mem_cons]
          simp [hsep]

end Text

namespace TypeScript

/-- The comment that names the origins of a module. -/
def headerComment (origins : List String) : String :=
  "// Generated from " ++ ", ".intercalate origins ++ ". Do not edit."

theorem headerOf_of_ne_nil {origins : List String} (h : origins ≠ []) :
    headerOf origins = [headerComment origins] :=
  if_neg (by simpa using h)

/-- The header stays on its line exactly if every origin does. -/
theorem unbroken_headerComment {origins : List String} :
    Text.Unbroken (headerComment origins) ↔ ∀ origin ∈ origins, Text.Unbroken origin := by
  have hopening : Text.Unbroken "// Generated from " := by simp [Text.Unbroken, Text.isLineBreak]
  have hclosing : Text.Unbroken ". Do not edit." := by simp [Text.Unbroken, Text.isLineBreak]
  have hcomma : Text.Unbroken ", " := by simp [Text.Unbroken, Text.isLineBreak]
  have hparts (opening closing : String) :
      Text.Unbroken (opening ++ ", ".intercalate origins ++ closing) ↔
        Text.Unbroken opening ∧ (∀ origin ∈ origins, Text.Unbroken origin) ∧
          Text.Unbroken closing := by
    rw [Text.unbroken_append, Text.unbroken_append, Text.unbroken_intercalate hcomma, and_assoc]
  exact (hparts ..).trans ⟨fun h => h.2.1, fun h => ⟨hopening, h, hclosing⟩⟩

namespace Module

variable (indent : String) {m : Module}

/-- The text of a module starts with its header, on a line of its own. -/
theorem exists_write_eq (h : m.origins ≠ []) :
    ∃ rest, (m.write indent).toList = (headerComment m.origins).toList ++ '\n' :: rest := by
  rw [write, headerOf_of_ne_nil h, List.append_assoc, List.singleton_append]
  cases m.interfaces.map (·.write indent) ++ m.constants.map (·.write indent) with
  | nil => exact ⟨[], by simp⟩
  | cons block blocks =>
      rw [String.intercalate_cons_cons]
      exact ⟨'\n' :: ("\n\n".intercalate (block :: blocks) ++ "\n").toList, by simp⟩

/-- The header is all that a reader takes as the first comment if no origin has a line break. -/
theorem firstLine_write_iff (h : m.origins ≠ []) :
    Text.firstLine (m.write indent).toList = (headerComment m.origins).toList ↔
      ∀ origin ∈ m.origins, Text.Unbroken origin := by
  obtain ⟨rest, hrest⟩ := exists_write_eq indent h
  rw [hrest, Text.firstLine_append_newline, unbroken_headerComment]

/-- An interface has every member on a line of its own. -/
theorem infix_write_interface {d : InterfaceDeclaration} {member : String}
    (hmember : member ∈ d.members) :
    indent.toList ++ (member.toList ++ ['\n']) <:+: (d.write indent).toList := by
  have hne : ¬ d.members.isEmpty = true := by
    rw [List.isEmpty_iff]
    exact List.ne_nil_of_mem hmember
  let line (m : String) : List Char := indent.toList ++ (m.toList ++ ['\n'])
  have hlines : (String.join (d.members.map fun m => indent ++ m ++ "\n")).toList =
      (d.members.map line).flatten := by
    simp [line, String.toList_join, List.flatMap_map, List.flatten_eq_flatMap]
  have hline : line member <:+: (d.members.map line).flatten :=
    List.infix_of_mem_flatten (List.mem_map_of_mem hmember)
  rw [InterfaceDeclaration.write, if_neg hne, String.toList_append, String.toList_append, hlines]
  exact hline.trans ⟨_, _, rfl⟩

/-- The text of a module has every member of an interface on a line of its own. -/
theorem infix_write {d : InterfaceDeclaration} (hd : d ∈ m.interfaces) {member : String}
    (hmember : member ∈ d.members) :
    indent.toList ++ (member.toList ++ ['\n']) <:+: (m.write indent).toList := by
  refine (infix_write_interface indent hmember).trans ?_
  rw [write, String.toList_append, String.toList_intercalate]
  refine (infix_intercalate _ (List.mem_map_of_mem ?_)).trans (List.prefix_append ..).isInfix
  exact List.mem_append_left _ (List.mem_append_right _ (List.mem_map_of_mem hd))

end Module

end TypeScript

open TypeScript

namespace Session

/-! ### Origins of a module -/

/-- One of the calls transforms the source and declares it in that module. -/
def DeclaredIn (settings : Settings) (calls : List Call) (n : String) (source : Source) : Prop :=
  (start settings).moduleFor source.moduleName = n ∧
    ∃ t, .transform t source ∈ calls ∧ (start settings).rejects (.transform t source) = false

variable {settings : Settings} {n : String}

theorem declaredIn_concat {calls : List Call} {c : Call} {source : Source} :
    DeclaredIn settings (calls ++ [c]) n source ↔
      DeclaredIn settings calls n source ∨ DeclaredIn settings [c] n source := by
  unfold DeclaredIn
  simp only [List.mem_append, or_and_right, exists_or, and_or_left]

theorem not_declaredIn_of_rejects {c : Call} (h : (start settings).rejects c = true)
    (source : Source) : ¬ DeclaredIn settings [c] n source := by
  rintro ⟨-, t, hmem, haccepts⟩
  rw [List.mem_singleton.mp hmem, h] at haccepts
  cases haccepts

theorem declaredIn_singleton {t : FileTree} {source other : Source}
    (h : (start settings).rejects (.transform t source) = false) :
    DeclaredIn settings [.transform t source] n other ↔
      (start settings).moduleFor source.moduleName = n ∧ other = source := by
  constructor
  · rintro ⟨hn, t', hmem, -⟩
    obtain ⟨-, rfl⟩ := Call.transform.inj (List.mem_singleton.mp hmem)
    exact ⟨hn, rfl⟩
  · rintro ⟨hn, rfl⟩
    exact ⟨hn, t, List.mem_singleton_self _, h⟩

/-- A module names the sources that are declared in it, and no others. -/
theorem mem_origins_performAll {calls : List Call} {origin : String} :
    origin ∈ (((start settings).performAll calls).bundle.moduleOf n).origins ↔
      ∃ source, DeclaredIn settings calls n source ∧ source.identity = origin := by
  induction calls using List.reverseRecOn with
  | nil => simp [DeclaredIn, performAll, start, Bundle.moduleOf, Bundle.module?]
  | append_singleton calls c ih =>
      have hsettings := (start settings).performAll_settings calls
      simp only [declaredIn_concat, or_and_right, exists_or, ← ih]
      rw [performAll_concat]
      rcases ((start settings).performAll calls).perform_cases c with
        ⟨hfails, _, _, hstep⟩ | ⟨t, source, _, compiled, rfl, haccepts, -, hstep⟩
      · rw [rejects_congr hsettings] at hfails
        rw [hstep]
        simp only [not_declaredIn_of_rejects hfails, false_and, exists_false, or_false]
        rfl
      · rw [rejects_congr hsettings] at haccepts
        rw [hstep]
        change origin ∈ ((declare ..).1.bundle.moduleOf n).origins ↔ _
        rw [origins_declare, moduleFor_congr hsettings]
        simp only [declaredIn_singleton haccepts, and_assoc, exists_and_left, exists_eq_left]
        split
        · rename_i hn
          rw [mem_addNew_id, and_iff_right hn.symm, eq_comm (a := origin)]
        · rename_i hn
          exact (or_iff_left fun h => hn h.1.symm).symm

/-- Every module names an origin. -/
theorem origins_ne_nil (settings : Settings) (calls : List Call) :
    ∀ n ∈ ((start settings).performAll calls).bundle.names,
      (((start settings).performAll calls).bundle.moduleOf n).origins ≠ [] := by
  refine performAll_induction
    (P := fun s => ∀ n ∈ s.bundle.names, (s.bundle.moduleOf n).origins ≠ []) (start settings)
    (fun _ h => absurd h List.not_mem_nil) (fun _ _ h => h)
    (fun s source compiled h n hn => ?_) calls
  rw [names_declare] at hn
  rw [origins_declare]
  split
  · exact addNew_ne_nil _ _
  · rename_i hother
    rcases mem_addNew hn with hn | ⟨rfl, -⟩
    · exact h n hn
    · exact absurd rfl hother

/-- The modules that are emitted have the origins they had before the end, and in the combined
layout their last interface has a member for each entry. -/
theorem of_mem_finalBundle {calls : List Call} {m : Module}
    (hm : m ∈ ((start settings).performAll calls).finalBundle.modules) :
    let final := (start settings).performAll calls
    m.name ∈ final.bundle.names ∧ m.origins = (final.bundle.moduleOf m.name).origins ∧
      (settings.layout = .combined → m.name = settings.moduleName ∧ ∃ top,
        m.interfaces.getLast? = some ⟨top, final.combined.map (combinedMember settings)⟩) := by
  intro final
  have hsettings : final.settings = settings := (start settings).performAll_settings calls
  change m ∈ final.finalBundle.modules at hm
  cases hlayout : settings.layout with
  | separate =>
      have hbundle : final.finalBundle = final.bundle := by
        rw [finalBundle, hsettings, hlayout]
        rfl
      rw [hbundle] at hm
      rw [final.bundle.moduleOf_name_of_mem (nodup_names_performAll settings calls) hm]
      exact ⟨List.mem_map_of_mem hm, rfl, fun h => by cases h⟩
  | combined =>
      have hcombined := (congrArg Settings.layout hsettings).trans hlayout
      have hpending : final.Pending := pending_performAll hlayout calls
      by_cases hnone : final.combined = []
      · -- without an entry there is no module
        have hbundle : final.finalBundle = final.bundle := by
          rw [finalBundle, hnone, List.isEmpty_nil, Bool.not_true, Bool.and_false]
          rfl
        have hname : m.name ∈ final.bundle.names := List.mem_map_of_mem (hbundle ▸ hm)
        rw [hpending.names, hnone] at hname
        cases hname
      · obtain ⟨hone, hfinal⟩ := finalBundle_of_combined hcombined hpending hnone
        rw [hfinal, List.mem_singleton, hsettings] at hm
        rw [hsettings] at hone
        subst hm
        dsimp only
        rw [final.bundle.name_moduleOf, Bundle.names, hone]
        exact ⟨by simp, rfl, fun _ => ⟨rfl, _, List.getLast?_concat⟩⟩

/-- The source that an entry comes from is declared in the module of the combined layout. -/
theorem exists_declaredIn_of_mem_combined (hlayout : settings.layout = .combined)
    {calls : List Call} {e : CombinedEntry}
    (he : e ∈ ((start settings).performAll calls).combined) :
    ∃ source, DeclaredIn settings calls settings.moduleName source ∧
      e.origin = source.identity := by
  obtain ⟨before, t, source, compiled, hdeclares, rfl⟩ := exists_declares_of_mem_combined he
  obtain ⟨after, rfl⟩ := hdeclares.call
  have haccepts : (start settings).rejects (.transform t source) = false := by
    rw [rejects, (start settings).transform_of_ok (Prod.ext rfl hdeclares.compiles)]
  have hmodule : (start settings).moduleFor source.moduleName = settings.moduleName := by
    rw [moduleFor, show (start settings).settings.layout = .combined from hlayout]
    rfl
  exact ⟨source, ⟨hmodule, t, by simp, haccepts⟩, rfl⟩

/-- Comments that name sources. The text of every emitted module starts with the comment that names
all sources declared in it and no others, and in the combined layout the last interface has a member
for each entry, which stands on a line of its own and ends in a comment that is the identity of the
source of that entry. Identities are written as they are: such a comment is all that a reader takes
as a comment, and nothing of it is left to be read as code, if and only if no identity in it has a
line break. -/
theorem origin_comments_whole_iff (settings : Settings) (calls : List Call) :
    let final := (start settings).performAll calls
    ∀ m ∈ final.finalBundle.modules,
      let text := (m.write final.finalBundle.indent).toList
      (∃ rest, text = (headerComment m.origins).toList ++ '\n' :: rest) ∧
      (∀ origin, origin ∈ m.origins ↔
        ∃ source, DeclaredIn settings calls m.name source ∧ source.identity = origin) ∧
      (Text.firstLine text = (headerComment m.origins).toList ↔
        ∀ source, DeclaredIn settings calls m.name source → Text.Unbroken source.identity) ∧
      (settings.layout = .combined → ∃ top,
        m.interfaces.getLast? = some ⟨top, final.combined.map (combinedMember settings)⟩ ∧
        ∀ e ∈ final.combined, ∃ source, DeclaredIn settings calls m.name source ∧
          ∃ code front rest, combinedMember settings e = code ++ "; // " ++ source.identity ∧
            text = front ++ (code ++ "; // ").toList ++ (source.identity.toList ++ '\n' :: rest) ∧
            (Text.firstLine (source.identity.toList ++ '\n' :: rest) = source.identity.toList ↔
              Text.Unbroken source.identity)) := by
  intro final m hm text
  obtain ⟨hname, horigins, hcombined⟩ := of_mem_finalBundle hm
  have hne : m.origins ≠ [] := by
    rw [horigins]
    exact origins_ne_nil settings calls m.name hname
  have horigin (origin : String) : origin ∈ m.origins ↔
      ∃ source, DeclaredIn settings calls m.name source ∧ source.identity = origin := by
    rw [horigins]
    exact mem_origins_performAll
  refine ⟨Module.exists_write_eq _ hne, horigin, (Module.firstLine_write_iff _ hne).trans ?_,
    fun hlayout => ?_⟩
  · constructor
    · intro h source hsource
      exact h source.identity ((horigin _).mpr ⟨source, hsource, rfl⟩)
    · intro h origin hmem
      obtain ⟨source, hsource, rfl⟩ := (horigin origin).mp hmem
      exact h source hsource
  · obtain ⟨hmodule, top, hlast⟩ := hcombined hlayout
    refine ⟨top, hlast, fun e he => ?_⟩
    obtain ⟨source, hsource, hidentity⟩ := exists_declaredIn_of_mem_combined hlayout he
    rw [← hmodule] at hsource
    let code := (if settings.declarations.readonly then "readonly " else "") ++ e.key ++ ": " ++
      e.typeName
    have hmember : combinedMember settings e = code ++ "; // " ++ source.identity := by
      rw [← hidentity]
      rfl
    obtain ⟨front, rest, htext⟩ := Module.infix_write final.finalBundle.indent
      (List.mem_of_getLast? hlast) (List.mem_map_of_mem he)
    refine ⟨source, hsource, code, front ++ final.finalBundle.indent.toList, rest, hmember, ?_,
      Text.firstLine_append_newline ..⟩
    rw [hmember, String.toList_append] at htext
    change (m.write final.finalBundle.indent).toList = _
    rw [← htext]
    simp

/-- A source whose identity goes on like code behind a line break: the header is cut off there, and
so is the comment of the member, which leaves the rest of the identity inside the interface. -/
theorem origin_comments_whole_iff_but_broken_identity :
    let t : FileTree := { entries := [], workingDirectory := [] }
    let source : Source :=
      { input := .rows "a\nexport const b = 1" .structured [[("x", .bool true)]]
        interfaceName? := some "A"
        constantName? := some "a" }
    let settings : Settings :=
      { layout := .combined
        moduleName := "all"
        interfaceName? := some "All"
        constantName? := some "all" }
    let final := (start settings).performAll [.transform t source]
    ¬ Text.Unbroken source.identity ∧ ∃ m, final.finalBundle.modules = [m] ∧
      Text.firstLine (m.write final.finalBundle.indent).toList ≠
        (headerComment m.origins).toList ∧
      m.interfaces.getLast? = some ⟨"All", ["readonly a: A; // a\nexport const b = 1"]⟩ := by
  intro t source settings final
  have hbroken : ¬ Text.Unbroken source.identity := by
    intro h
    cases h '\n' (by decide)
  have hcompile : compileSource settings t source = ([], .ok
      { members := ["readonly x: boolean; // x"]
        value := .one "\x7b x: true \x7d"
        isList := false
        rows := 1
        stats := { rowsSampled := 1, fieldsDiscovered := 1 } }) := by cbv
  have hstep := (start settings).transform_of_ok hcompile
  have hsource : DeclaredIn settings [.transform t source] "all" source := by
    refine ⟨rfl, t, List.mem_singleton_self _, ?_⟩
    rw [rejects, hstep]
  have hmodules : final.finalBundle.modules = [
      { name := "all"
        origins := [source.identity]
        interfaces := [⟨"A", ["readonly x: boolean; // x"]⟩,
          ⟨"All", ["readonly a: A; // a\nexport const b = 1"]⟩]
        constants := [⟨"all", "All", .keyed [("a", .one "\x7b x: true \x7d")]⟩] }] := by
    change ((start settings).transform t source).session.finalBundle.modules = _
    rw [hstep]
    rfl
  refine ⟨hbroken, _, hmodules, fun hwhole => ?_, rfl⟩
  obtain ⟨-, -, hheader, -⟩ := origin_comments_whole_iff settings [.transform t source] _
    (hmodules ▸ List.mem_singleton_self _)
  exact hbroken (hheader.mp hwhole source hsource)

end Session

end RowTypings
