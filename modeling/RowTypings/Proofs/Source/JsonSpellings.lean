import RowTypings.Proofs.Json.ReadBack
import RowTypings.Source.Basic

/-!
The spellings of a JSON document. Its values stand in a list, on lines of their own or, where there
is one, alone, with or without a byte order mark and white space in front. All spellings give the
same items in the same order: a row for each object, and an error in the place of any other value.
-/

namespace RowTypings

/-! ### Lines of values -/

namespace Json

variable {limit steps : Nat} {v : Value}

/-- The values of a text are read one after the other where each shows its end or is followed by
something that ends it. -/
theorem readMany_step (done : List Value) (h : Reads (readValue limit nestingLimit) v)
    {rest : List Char} (hparts : Text.Ends NumberToken.isPart rest)
    (hend : endsBareValue rest = true) :
    readMany limit done (steps + 1) (chars v ++ rest) = readMany limit (v :: done) steps rest := by
  obtain ⟨c, cs, hfront, hspace, -⟩ := exists_front_chars v
  have hread := h rest hparts
  rw [hfront, List.cons_append] at hread
  rw [readMany, hfront, List.cons_append, skipSpace_cons hspace]
  dsimp only
  rw [hread]
  simp [bind, Except.bind, hend]

theorem readMany_newline (done : List Value) (cs : List Char) :
    readMany limit done steps ('\n' :: cs) = readMany limit done steps cs := by
  cases steps with
  | zero => rfl
  | succ steps => rfl

theorem readMany_lines {values : List Value}
    (h : ∀ v ∈ values, Reads (readValue limit nestingLimit) v) (hsteps : values.length < steps)
    (done : List Value) :
    readMany limit done steps (['\n'].intercalate (values.map chars)) =
      .ok (done.reverse ++ values) := by
  induction values generalizing steps done with
  | nil =>
      obtain ⟨steps, rfl⟩ := Nat.exists_eq_succ_of_ne_zero (Nat.ne_zero_of_lt hsteps)
      rw [List.append_nil]
      rfl
  | cons v values ih =>
      obtain ⟨steps, rfl⟩ := Nat.exists_eq_succ_of_ne_zero (Nat.ne_zero_of_lt hsteps)
      obtain ⟨hv, hvalues⟩ := List.forall_mem_cons.mp h
      have hlater := ih hvalues (Nat.lt_of_succ_lt_succ hsteps) (v :: done)
      rw [List.reverse_cons, List.append_assoc, List.singleton_append] at hlater
      cases values with
      | nil =>
          have hstep : readMany limit done (steps + 1) (chars v ++ []) =
              readMany limit (v :: done) steps [] := readMany_step done hv (Text.ends_nil _) rfl
          rw [List.append_nil] at hstep
          rw [List.map_singleton, List.intercalate_singleton, hstep]
          exact hlater
      | cons w values =>
          rw [List.map_cons, List.map_cons, List.intercalate_cons_cons, List.append_assoc,
            List.singleton_append, readMany_step done hv (Text.ends_cons rfl) rfl,
            readMany_newline]
          exact hlater

theorem toList_lines (values : List Value) :
    ("\n".intercalate (values.map compact)).toList = ['\n'].intercalate (values.map chars) := by
  have hparts : (values.map compact).map String.toList = values.map chars := List.map_map
  rw [String.toList_intercalate, hparts]
  rfl

/-- Values on lines of their own are read as those values. -/
theorem readStream_lines {values : List Value} (hkeyed : ∀ v ∈ values, v.Keyed)
    (hnumbers : ∀ v ∈ values, v.NumbersKept) (hnesting : ∀ v ∈ values, v.nesting ≤ nestingLimit) :
    readStream ("\n".intercalate (values.map compact)) = .ok values := by
  have hlength := String.length_toList (s := "\n".intercalate (values.map compact))
  rw [toList_lines] at hlength
  rw [readStream, toList_lines, ← hlength]
  refine readMany_lines (fun v hv => ?_) ?_ []
  · have hpart := (infix_intercalate ['\n'] (List.mem_map_of_mem (f := chars) hv)).length_le
    exact (settled (hkeyed v hv) (hnumbers v hv) (Nat.lt_succ_of_le hpart) _).reads
      (hnesting v hv)
  · have hne : ∀ cs ∈ values.map chars, cs ≠ [] := by
      intro cs hcs
      obtain ⟨v, -, rfl⟩ := List.mem_map.mp hcs
      obtain ⟨c, cs, hfront, -⟩ := exists_front_chars v
      rw [hfront]
      exact List.cons_ne_nil _ _
    have hcount := length_le_length_intercalate ['\n'] hne
    rw [List.length_map] at hcount
    exact Nat.lt_succ_of_le hcount

/-- The text of a value starts with neither white space nor a byte order mark, and it starts like a
list only if it is one. -/
theorem exists_front_of_value (v : Value) :
    ∃ c cs, chars v = c :: cs ∧ Text.isBlank c = false ∧ c ≠ '\uFEFF' ∧
      (c ≠ '[' ∨ ∃ items, v = .array items) := by
  cases v with
  | null => exact ⟨'n', _, rfl, by decide, by decide, .inl (by decide)⟩
  | bool b =>
      cases b with
      | false => exact ⟨'f', _, rfl, by decide, by decide, .inl (by decide)⟩
      | true => exact ⟨'t', _, rfl, by decide, by decide, .inl (by decide)⟩
  | number n =>
      obtain ⟨c, cs, hcs, hfirst⟩ := n.written_write.exists_front
      have hpart := n.written_write.isPart c (hcs ▸ List.mem_cons_self)
      refine ⟨c, cs, hcs, NumberToken.isBlank_of_isPart hpart, ?_, .inl ?_⟩
      · rintro rfl
        cases hpart
      · rintro rfl
        cases hpart
  | text s => exact ⟨'"', _, toList_quote s, by decide, by decide, .inl (by decide)⟩
  | array items => exact ⟨'[', _, chars_array items, by decide, by decide, .inr ⟨items, rfl⟩⟩
  | object fields =>
      exact ⟨'\x7b', _, chars_object fields, by decide, by decide, .inl (by decide)⟩

end Json

/-! ### Documents -/

open Json (compact)

/-- The spellings of a list of values as a document. What starts like a list is read as one, so the
others are only for values of which the first is not a list. -/
inductive JsonSpelling : List Value → String → Prop where
  | list (values : List Value) : JsonSpelling values (compact (.array values))
  | lines {values : List Value} (h : ∀ first ∈ values.head?, ∀ items, first ≠ .array items) :
      JsonSpelling values ("\n".intercalate (values.map compact))
  | alone {v : Value} (h : ∀ items, v ≠ .array items) : JsonSpelling [v] (compact v)

namespace JsonSpelling

variable {values : List Value} {body : String}

/-- One value alone is a document of one line. -/
theorem list_or_lines (h : JsonSpelling values body) :
    body = compact (.array values) ∨
      (∀ first ∈ values.head?, ∀ items, first ≠ .array items) ∧
        body = "\n".intercalate (values.map compact) := by
  cases h with
  | list => exact .inl rfl
  | lines h => exact .inr ⟨h, rfl⟩
  | alone h => exact .inr ⟨by simpa using h, by simp⟩

theorem ends_lines (hfirst : ∀ first ∈ values.head?, ∀ items, first ≠ .array items)
    {p : Char → Bool} (hp : ∀ c, Text.isBlank c = false → c ≠ '\uFEFF' → c ≠ '[' → p c = false) :
    Text.Ends p ("\n".intercalate (values.map compact)).toList := by
  rw [Json.toList_lines]
  cases values with
  | nil => exact Text.ends_nil p
  | cons v values =>
      obtain ⟨c, cs, hfront, hblank, hmark, hbracket⟩ := Json.exists_front_of_value v
      obtain ⟨more, htext⟩ := exists_intercalate_cons ['\n'] (Json.chars v) (values.map Json.chars)
      rw [List.map_cons, htext, hfront, List.cons_append]
      refine Text.ends_cons (hp c hblank hmark (hbracket.resolve_right ?_))
      rintro ⟨items, hitems⟩
      exact hfirst v rfl items hitems

/-- A document starts with neither white space nor a byte order mark. -/
theorem ends_body (h : JsonSpelling values body) :
    Text.Ends (fun c => Text.isBlank c || c == '\uFEFF') body.toList := by
  rcases h.list_or_lines with rfl | ⟨hfirst, rfl⟩
  · rw [← Json.chars, Json.chars_array]
    exact Text.ends_cons (by decide)
  · exact ends_lines hfirst fun c hblank hmark _ => by simp [hblank, hmark]

theorem documentValues_eq (h : JsonSpelling values body) (hkeyed : ∀ v ∈ values, v.Keyed)
    (hnumbers : ∀ v ∈ values, v.NumbersKept)
    (hnesting : (Value.array values).nesting ≤ Json.nestingLimit) (identity : String) :
    documentValues identity body = .ok values := by
  rcases h.list_or_lines with rfl | ⟨hfirst, rfl⟩
  · have hread : Json.read (compact (.array values)) = .ok (.array values) :=
      Json.read_compact (by rwa [Value.Keyed]) (by rwa [Value.NumbersKept]) hnesting
    have hbracket : (compact (.array values)).toList.head? = some '[' := by
      rw [← Json.chars, Json.chars_array]
      rfl
    rw [documentValues, hbracket, hread]
    rfl
  · have hends := ends_lines hfirst (p := (· == '[')) fun c _ _ hc => by simp [hc]
    have hbracket : (("\n".intercalate (values.map compact)).toList.head? == some '[') = false := by
      refine beq_false_of_ne fun hhead => ?_
      cases hends '[' hhead
    have hshallow : ∀ v ∈ values, v.nesting ≤ Json.nestingLimit :=
      Value.itemsNesting_le_iff.mp (Nat.le_of_succ_le hnesting)
    rw [documentValues, hbracket, Json.readStream_lines hkeyed hnumbers hshallow]
    rfl

end JsonSpelling

/-! ### Rows -/

namespace Origin

variable {t : FileTree} {text : String} {origin : Origin}

/-- The origin has the text, with the byte order mark it may start with. -/
def Holds (t : FileTree) (text : String) : Origin → Prop
  | inline _ given => given = text
  | file path => t.readText path = .ok text

theorem readText_of_holds (h : origin.Holds t text) :
    origin.readText t = .ok (withoutMark text) := by
  cases origin with
  | inline identity given =>
      obtain rfl : given = text := h
      rfl
  | file path =>
      rw [readText, show t.readText path = .ok text from h]

theorem withoutMark_mark (text : String) : withoutMark ("\uFEFF" ++ text) = text := by
  simp [withoutMark]

theorem withoutMark_of_ends (h : Text.Ends (· == '\uFEFF') text.toList) :
    withoutMark text = text := by
  unfold withoutMark
  split
  · rename_i heq
    rw [heq] at h
    cases h '\uFEFF' rfl
  · rfl

end Origin

/-- A byte order mark and white space in front of a document are skipped. -/
theorem body_of_prefixed {t : FileTree} {origin : Origin} {mark blank body : String}
    (hmark : mark = "" ∨ mark = "\uFEFF") (hblank : Text.isBlankText blank = true)
    (hbody : Text.Ends (fun c => Text.isBlank c || c == '\uFEFF') body.toList)
    (h : origin.Holds t (mark ++ blank ++ body)) :
    ∃ text, origin.readText t = .ok text ∧
      String.ofList (Text.trimLeft text.toList) = body := by
  have hnotBlank : Text.Ends Text.isBlank body.toList := fun c hc =>
    (Bool.or_eq_false_iff.mp (hbody c hc)).1
  have htrim : String.ofList (Text.trimLeft (blank ++ body).toList) = body := by
    rw [String.toList_append, Text.trimLeft,
      Text.dropWhile_append (List.all_eq_true.mp hblank) hnotBlank, String.ofList_toList]
  refine ⟨blank ++ body, ?_, htrim⟩
  rw [Origin.readText_of_holds h]
  rcases hmark with rfl | rfl
  · rw [String.empty_append, Origin.withoutMark_of_ends]
    intro c hc
    rw [String.toList_append] at hc
    cases hchars : blank.toList with
    | nil =>
        rw [hchars, List.nil_append] at hc
        exact (Bool.or_eq_false_iff.mp (hbody c hc)).2
    | cons d ds =>
        rw [hchars, List.cons_append, List.head?_cons, Option.mem_some_iff] at hc
        have hd : Text.isBlank d = true :=
          List.all_eq_true.mp hblank d (hchars ▸ List.mem_cons_self)
        exact Text.beq_eq_false (hc ▸ hd) (by decide)
  · rw [String.append_assoc, Origin.withoutMark_mark]

/-- A list of values gives the same items in each of its spellings, behind a byte order mark and
white space or not: a row for each object, with the fields in their order, and for each other value
an error that names its place. Of doubles it is asked that they are read back from their texts. -/
theorem same_items_of_spellings (identity : String) {values : List Value}
    (hkeyed : ∀ v ∈ values, v.Keyed) (hnumbers : ∀ v ∈ values, v.NumbersKept)
    (hnesting : (Value.array values).nesting ≤ Json.nestingLimit) :
    ∃ items : Rows, items.length = values.length ∧
      (∀ (i : Nat) (row : Row), values[i]? = some (.object row) → items[i]? = some (.ok row)) ∧
      (∀ (i : Nat) (v : Value), values[i]? = some v → v.isObject = false →
        items[i]? = some (.error (.badStructure identity (.notAnObject i v.typeName)))) ∧
      (∀ rows : List Row, values = rows.map .object → items = rows.map .ok) ∧
      ∀ (t : FileTree) (origin : Origin) (mark blank body : String), origin.identity = identity →
        mark = "" ∨ mark = "\uFEFF" → Text.isBlankText blank = true → JsonSpelling values body →
        origin.Holds t (mark ++ blank ++ body) → (RowInput.json origin).read t = .ok items := by
  refine ⟨values.mapIdx (valueRow identity), List.length_mapIdx, ?_, ?_, ?_, ?_⟩
  · intro i row hrow
    rw [List.getElem?_mapIdx, hrow]
    rfl
  · intro i v hv hobject
    rw [List.getElem?_mapIdx, hv]
    cases v with
    | object fields => cases hobject
    | _ => rfl
  · rintro rows rfl
    refine List.ext_getElem? fun i => ?_
    rw [List.getElem?_mapIdx, List.getElem?_map, List.getElem?_map, Option.map_map]
    rfl
  · rintro t origin mark blank body rfl hmark hblank hspells hholds
    obtain ⟨text, htext, hbody⟩ := body_of_prefixed hmark hblank hspells.ends_body hholds
    have hvalues := hspells.documentValues_eq hkeyed hnumbers hnesting origin.identity
    rw [RowInput.read, htext]
    change jsonRows origin.identity text = _
    rw [jsonRows, hbody, hvalues]
    rfl

theorem same_items_of_list_and_lines :
    ∃ items : Rows, items.length = 2 ∧
      items[0]? = some (.ok [("b", .number (.integer 1)), ("a", .array [.null])]) ∧
      items[1]? = some (.error (.badStructure "d.json" (.notAnObject 1 "number"))) ∧
      ∀ t : FileTree,
        (RowInput.json (.inline "d.json" "\x7b\"b\":1,\"a\":[null]\x7d\n1.5")).read t = .ok items ∧
        (RowInput.json (.inline "d.json" "\uFEFF [\x7b\"b\":1,\"a\":[null]\x7d,1.5]")).read t =
          .ok items := by
  let values : List Value := [.object [("b", .number (.integer 1)), ("a", .array [.null])],
    .number (.float ⟨false, 6755399441055744, -52⟩)]
  have hkeyed : ∀ v ∈ values, v.Keyed := by simp [values, Value.Keyed, Fields.names]
  have hdouble : compact (.number (.float ⟨false, 6755399441055744, -52⟩)) = "1.5" := by
    decide +kernel
  have hnumbers : ∀ v ∈ values, v.NumbersKept := by
    have hkept : Value.NumbersKept (.number (.float ⟨false, 6755399441055744, -52⟩)) := by
      rw [Value.NumbersKept, hdouble]
      change (Json.readValue 4 Json.nestingLimit ('1' :: ['.', '5'])).bind _ = _
      rw [Json.readValue_digit rfl]
      rfl
    refine List.forall_mem_cons.mpr ⟨?_, List.forall_mem_singleton.mpr hkept⟩
    simp [Value.NumbersKept, fitsWord]
  have hobject : compact (.object [("b", .number (.integer 1)), ("a", .array [.null])]) =
      "\x7b\"b\":1,\"a\":[null]\x7d" := by decide +kernel
  have hlines : JsonSpelling values "\x7b\"b\":1,\"a\":[null]\x7d\n1.5" := by
    have hspells : JsonSpelling values _ := JsonSpelling.lines (by simp [values])
    rwa [List.map_cons, List.map_singleton, hdouble, hobject] at hspells
  have hlist : JsonSpelling values "[\x7b\"b\":1,\"a\":[null]\x7d,1.5]" := by
    have hspells := JsonSpelling.list values
    rwa [compact, Json.compactItems_eq_map, List.map_cons, List.map_singleton, hdouble,
      hobject] at hspells
  obtain ⟨items, hlength, hrow, hother, -, hspelled⟩ := same_items_of_spellings "d.json" hkeyed
    hnumbers (show (Value.array values).nesting ≤ Json.nestingLimit by decide)
  refine ⟨items, hlength, hrow 0 _ rfl, hother 1 _ rfl rfl, fun t => ⟨?_, ?_⟩⟩
  · exact hspelled t _ "" "" _ rfl (.inl rfl) rfl hlines rfl
  · exact hspelled t _ "\uFEFF" " " _ rfl (.inr rfl) rfl hlist rfl

end RowTypings
