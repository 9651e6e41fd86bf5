import RowTypings.Proofs.Run.Declarations

/-!
What the counters of a report count. A report is written when its source is compiled, and counts
what was reported until then: misfits, omissions and gaps. Names that turn out to be taken when the
source is declared are reported after that, so they are delivered but not counted.
-/

namespace RowTypings

open TypeScript

/-- The row holds a value for the field that coercing rejects. -/
def Record.isMisfit (encoding : Encoding) (row : Row) (f : String × Property) : Bool :=
  (row.lookup f.1).any fun v => !(Cell.coerce encoding f.2.kind v).isOk

section

variable {origin : RowOrigin} {schema : Schema}

theorem Record.isSome_misfit? (row : Row) (index : Nat) (f : String × Property) :
    (misfit? origin row index f).isSome = isMisfit origin.encoding row f := by
  unfold misfit? isMisfit
  cases row.lookup f.1 with
  | none => rfl
  | some v => cases hc : Cell.coerce origin.encoding f.2.kind v <;> simp [hc, Except.isOk,
      Except.toBool]

theorem Record.length_misfits (row : Row) (index : Nat) :
    (misfits origin schema row index).length = schema.countP (isMisfit origin.encoding row) := by
  rw [misfits_eq, List.length_filterMap_eq_countP]
  exact List.countP_congr fun f _ => by rw [isSome_misfit?]

/-- The coercion failures among what is reported about a row are its misfits. -/
theorem countP_isCoercion_rowDiagnostics (index : Nat) (row : Row) :
    (rowDiagnostics origin schema index row).countP Diagnostic.isCoercion =
      schema.countP (Record.isMisfit origin.encoding row) := by
  have hmisfits : (Record.misfits origin schema row index).countP Diagnostic.isCoercion =
      (Record.misfits origin schema row index).length := by
    rw [List.countP_eq_length]
    intro d hd
    obtain ⟨_, _, _, rfl⟩ := exists_coercion_of_mem_misfits hd
    rfl
  have homissions : (recordOmissions schema (Record.ofRow origin.encoding schema row)).countP
      Diagnostic.isCoercion = 0 := by
    rw [List.countP_eq_zero]
    intro d hd
    obtain ⟨_, _, rfl⟩ := exists_contentOmitted_of_mem_recordOmissions hd
    exact Bool.false_ne_true
  rw [rowDiagnostics, List.countP_append, hmisfits, homissions, Record.length_misfits,
    Nat.add_zero]

theorem countP_isCoercion_rows (rows : List Row) :
    (rows.mapIdx (rowDiagnostics origin schema)).flatten.countP Diagnostic.isCoercion =
      (rows ×ˢ schema).countP fun e => Record.isMisfit origin.encoding e.1 e.2 := by
  induction rows using List.reverseRecOn with
  | nil => rfl
  | append_singleton rows row ih =>
      have hpairs : (rows ++ [row]) ×ˢ schema = rows ×ˢ schema ++ schema.map (Prod.mk row) := by
        simp [SProd.sprod, List.product]
      rw [List.mapIdx_concat, List.flatten_append, List.flatten_singleton, List.countP_append, ih,
        countP_isCoercion_rowDiagnostics, hpairs, List.countP_append, List.countP_map]
      rfl

end

/-- What is reported while rows are compiled: a coercion failure for each row and field that do not
fit, and nothing about names. -/
theorem compileRows_reported (settings : Settings) (origin : RowOrigin) (rows : List Row) :
    let i : Inference := { settings := settings.inference, encoding := origin.encoding }
    let reported := (compileRows settings origin (rows.map .ok)).1
    reported.countP Diagnostic.isCoercion =
        ((rows ×ˢ i.ofRows rows).countP fun e => Record.isMisfit origin.encoding e.1 e.2) ∧
      ∀ module name, .duplicateDeclaration module name ∉ reported := by
  intro i reported
  have hreported : reported = (rows.mapIdx (rowDiagnostics origin (i.ofRows rows))).flatten ++
      interfaceGaps settings.declarations (i.ofRows rows) :=
    congrArg Prod.fst (compileRows_map_ok settings origin rows)
  rw [hreported]
  constructor
  · have hgaps : (interfaceGaps settings.declarations (i.ofRows rows)).countP
        Diagnostic.isCoercion = 0 := by
      rw [List.countP_eq_zero]
      intro d hd
      obtain ⟨_, _, rfl⟩ := exists_gap_of_mem_interfaceGaps hd
      exact Bool.false_ne_true
    rw [List.countP_append, hgaps, Nat.add_zero, countP_isCoercion_rows]
  · intro module name hmem
    rcases List.mem_append.mp hmem with hrow | hgap
    · obtain ⟨ds, hds, hd⟩ := List.mem_flatten.mp hrow
      obtain ⟨index, hindex, rfl⟩ := List.mem_mapIdx.mp hds
      rcases List.mem_append.mp hd with hmisfit | homission
      · obtain ⟨_, _, _, heq⟩ := exists_coercion_of_mem_misfits hmisfit
        cases heq
      · obtain ⟨_, _, heq⟩ := exists_contentOmitted_of_mem_recordOmissions homission
        cases heq
    · obtain ⟨_, _, heq⟩ := exists_gap_of_mem_interfaceGaps hgap
      cases heq

namespace Session

variable (s : Session)

theorem duplicates_eq_nil_iff (module : String) (source : Source) :
    s.duplicates module source = [] ↔
      source.interfaceName ∉ s.interfaceNames module ∧
        source.constantName ∉ s.constantNames module := by
  unfold duplicates
  split_ifs <;> simp [*]

theorem countP_isCoercion_duplicates (module : String) (source : Source) :
    (s.duplicates module source).countP Diagnostic.isCoercion = 0 := by
  unfold duplicates
  split_ifs <;> rfl

/-- A source is transformed by compiling it: its report counts what was reported until then, and
names that are taken are reported behind that. -/
theorem transform_cases {t : FileTree} {source : Source} {report : SourceReport}
    (h : (s.transform t source).result = .ok report) :
    let module := s.moduleFor source.moduleName
    ∃ reported compiled, compileSource s.settings t source = (reported, .ok compiled) ∧
      report = successReport source module compiled reported ∧
      (s.transform t source).reported = reported ++ s.duplicates module source ∧
      (s.perform (.transform t source)).reports = s.reports ++ [report] := by
  intro module
  rcases hcompile : compileSource s.settings t source with ⟨reported, e | compiled⟩
  · rw [s.transform_of_error hcompile] at h
    cases h
  · have hstep := s.transform_of_ok hcompile
    rw [hstep] at h
    obtain rfl := Except.ok.inj h
    refine ⟨reported, compiled, rfl, rfl, ?_, ?_⟩
    · rw [hstep, declare_reported]
    · rw [perform, hstep, addReport, declare_reports]

/-- Later calls leave a report in its place. -/
theorem getElem?_reports_performAll {before after : List Call} {c : Call} {report : SourceReport}
    {settings : Settings} (h : (((start settings).performAll before).perform c).reports =
      ((start settings).performAll before).reports ++ [report]) :
    ((start settings).performAll (before ++ c :: after)).reports[before.length]? = some report := by
  obtain ⟨earlier, hearlier, hbefore⟩ := (start settings).performAll_reports before
  obtain ⟨later, hlater, -⟩ :=
    (((start settings).performAll before).perform c).performAll_reports after
  have hlength : before.length = ((start settings).performAll before).reports.length := by
    rw [hearlier]
    exact hbefore.length_eq
  have hall : ((start settings).performAll (before ++ c :: after)).reports =
      ((start settings).performAll before).reports ++ report :: later := by
    rw [performAll_append]
    change ((((start settings).performAll before).perform c).performAll after).reports = _
    rw [hlater, h, List.append_assoc]
    rfl
  rw [hall, hlength]
  simp

/-- The counters of a report. A call that transforms a source returns the report that stands in its
place at the end of the run. Its coercion failures are those that the call delivers, one for each
row and field where the row holds a value that the kind of the field rejects. Its diagnostics are
all that the call delivers but the names of the source that were taken: these come last and are not
counted, so that the count is complete exactly if both names were free. -/
theorem report_counts_compilation {settings : Settings} (before after : List Call) {t : FileTree}
    {source : Source} {report : SourceReport}
    (hresult : (((start settings).performAll before).transform t source).result = .ok report) :
    let s := (start settings).performAll before
    let step := s.transform t source
    let module := s.moduleFor source.moduleName
    let i : Inference := { settings := settings.inference, encoding := source.encoding }
    ((start settings).performAll (before ++ .transform t source :: after)).reports[before.length]? =
        some report ∧
      report.coercionFailures = step.reported.countP Diagnostic.isCoercion ∧
      (∃ rows : List Row, source.rows t = .ok (rows.map .ok) ∧
        report.coercionFailures = (rows ×ˢ i.ofRows rows).countP fun e =>
          (e.1.lookup e.2.1).any fun v => !(Cell.coerce source.encoding e.2.2.kind v).isOk) ∧
      (∃ counted, step.reported = counted ++ s.duplicates module source ∧
        report.diagnostics = counted.length ∧
        ∀ module name, .duplicateDeclaration module name ∉ counted) ∧
      (report.diagnostics = step.reported.length ↔
        source.interfaceName ∉ s.interfaceNames module ∧
          source.constantName ∉ s.constantNames module) := by
  intro s step module i
  have hsettings : s.settings = settings := (start settings).performAll_settings before
  obtain ⟨reported, compiled, hcompile, hreport, hdelivered, hreports⟩ :=
    s.transform_cases hresult
  change step.reported = reported ++ s.duplicates module source at hdelivered
  have haccepts : s.rejects (.transform t source) = false := by rw [rejects, hresult]
  obtain ⟨rows, hrows⟩ := (s.rejects_transform_eq_false_iff t source).mp haccepts
  obtain ⟨hcount, hnames⟩ := compileRows_reported settings
    { identity := source.identity, encoding := source.encoding } rows
  rw [compileSource, hrows, hsettings] at hcompile
  dsimp only at hcompile
  rw [hcompile] at hcount hnames
  have hfailures : report.coercionFailures = reported.countP Diagnostic.isCoercion := by
    rw [hreport]
    rfl
  have hdiagnostics : report.diagnostics = reported.length := by
    rw [hreport]
    rfl
  refine ⟨getElem?_reports_performAll hreports, ?_, ⟨rows, hrows, hfailures.trans hcount⟩,
    ⟨reported, hdelivered, hdiagnostics, hnames⟩, ?_⟩
  · rw [hfailures, hdelivered, List.countP_append, countP_isCoercion_duplicates, Nat.add_zero]
  · rw [← s.duplicates_eq_nil_iff, hdiagnostics, hdelivered, List.length_append, ←
      List.length_eq_zero_iff]
    omega

/-- Two sources with one interface name: the misfit of the second is counted, and the name that is
taken is delivered only. -/
theorem report_counts_compilation_but_taken_name :
    let t : FileTree := { entries := [], workingDirectory := [] }
    let named (identity : String) (rows : List Row) : Source :=
      { input := .rows identity .structured rows
        moduleName? := some "m"
        interfaceName? := some "A"
        constantName? := some identity }
    let first := named "a" [[("x", .bool true)]]
    let second := named "b" [[("x", .bool true)], [("x", .number (.integer 5))]]
    let s := (start {}).performAll [.transform t first]
    ∃ report, (s.transform t second).result = .ok report ∧ report.coercionFailures = 1 ∧
      report.diagnostics = 1 ∧ (s.transform t second).reported.map Diagnostic.message =
        ["b: row 1: field 'x' expected boolean, found 5",
          "duplicate declaration 'A' in module 'm' ignored"] ∧
      report.diagnostics ≠ (s.transform t second).reported.length ∧
      ((start {}).performAll [.transform t first, .transform t second]).reports[1]? =
        some report := by
  intro t named first second s
  have hcompile : compileSource s.settings t second =
      ([.coercion "b" 1 "x" "boolean" "5"], .ok
        { members := ["readonly x: boolean; // x"]
          value := .rows ["\x7b x: true \x7d", "\x7b\x7d"]
          isList := true
          rows := 2
          stats := { rowsSampled := 1, fieldsDiscovered := 1 } }) := by
    rw [performAll_settings]
    cbv
  have htaken : "A" ∈ s.interfaceNames "m" := by decide
  have hfree : "b" ∉ s.constantNames "m" := by decide
  have hduplicates : s.duplicates "m" second = [.duplicateDeclaration "m" "A"] := by
    change (if "A" ∈ s.interfaceNames "m" then _ else _) ++ _ = _
    rw [if_pos htaken]
    exact congrArg _ (if_neg hfree)
  have hstep := s.transform_of_ok hcompile
  have hresult := congrArg Step.result hstep
  have hreported := congrArg Step.reported hstep
  rw [declare_reported] at hreported
  obtain ⟨hreport, -, -, -, hcomplete⟩ :=
    report_counts_compilation [.transform t first] [] hresult
  refine ⟨_, hresult, rfl, rfl, ?_, fun hall => (hcomplete.mp hall).1 htaken, hreport⟩
  rw [hreported]
  change [_] ++ (s.duplicates "m" second).map Diagnostic.message = _
  rw [hduplicates]
  rfl

end Session

end RowTypings
