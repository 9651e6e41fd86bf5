import RowTypings.Proofs.TypeScript.QuotedText

/-!
Quoted texts among all string literals. The grammar of literals in double quotes has many spellings
of a text, and whatever a text looks like, the grammar takes the quoted text as one of them and in
one way only: as a literal that stands for the text and ends at its last quote.
-/

namespace RowTypings.TypeScript

/-! ### The grammar -/

/-- The text starts, behind a backslash, with the escape of the number `n`, and `rest` follows. -/
inductive NumberEscape : List Char → Nat → List Char → Prop
  | twoDigits {digits rest : List Char} {n : Nat} (hlength : digits.length = 2)
      (h : numberOfHex? digits = some n) : NumberEscape ('x' :: (digits ++ rest)) n rest
  | fourDigits {digits rest : List Char} {n : Nat} (hlength : digits.length = 4)
      (h : numberOfHex? digits = some n) : NumberEscape ('u' :: (digits ++ rest)) n rest
  | braced {digits rest : List Char} {n : Nat} (hne : digits ≠ [])
      (h : numberOfHex? digits = some n) :
      NumberEscape ('u' :: '{' :: (digits ++ '}' :: rest)) n rest

/-- The text starts, behind a backslash, with what stands for `chars`, and `rest` follows. The end
of a line stands for nothing there, and a number alone for no character when it is one half of a
surrogate pair. -/
inductive EscapeSequence : List Char → List Char → List Char → Prop
  | letter {e d : Char} {rest : List Char} (h : escaped? e = some d) :
      EscapeSequence (e :: rest) [d] rest
  | zero {rest : List Char} (h : Text.Ends Char.isDigit rest) :
      EscapeSequence ('0' :: rest) ['\x00'] rest
  | number {text rest : List Char} {n : Nat} (h : NumberEscape text n rest)
      (hvalid : n.isValidChar) : EscapeSequence text [Char.ofNat n] rest
  | pair {text behind rest : List Char} {m n : Nat} (hm : NumberEscape text m ('\\' :: behind))
      (hn : NumberEscape behind n rest) (hhigh : Json.isHighSurrogate m = true)
      (hlow : Json.isLowSurrogate n = true) :
      EscapeSequence text [Char.ofNat ((m - 0xD800) * 0x400 + (n - 0xDC00) + 0x10000)] rest
  | lineBreak {c : Char} {rest : List Char} (h : Text.isLineBreak c = true)
      (halone : c = '\r' → rest.head? ≠ some '\n') : EscapeSequence (c :: rest) [] rest
  | lineBreakPair {rest : List Char} : EscapeSequence ('\r' :: '\n' :: rest) [] rest

/-- The text starts, behind an opening quote, with the characters of a literal that stands for
`chars`, and `rest` follows its closing quote. -/
inductive StringCharacters : List Char → List Char → List Char → Prop
  | close (rest : List Char) : StringCharacters ('"' :: rest) [] rest
  | plain {c : Char} {text chars rest : List Char}
      (h : c ≠ '"' ∧ c ≠ '\\' ∧ c ≠ '\n' ∧ c ≠ '\r') (more : StringCharacters text chars rest) :
      StringCharacters (c :: text) (c :: chars) rest
  | escape {text chars behind others rest : List Char} (first : EscapeSequence text chars behind)
      (more : StringCharacters behind others rest) :
      StringCharacters ('\\' :: text) (chars ++ others) rest

/-- The text starts with a string literal in double quotes that stands for `s`, and `rest`
follows. -/
def StringLiteral (text : List Char) (s : String) (rest : List Char) : Prop :=
  ∃ behind, text = '"' :: behind ∧ StringCharacters behind s.toList rest

/-- Every quote in the text stands behind a backslash that no backslash takes. -/
inductive QuotesEscaped : List Char → Prop
  | nil : QuotesEscaped []
  | plain {c : Char} {cs : List Char} (h : c ≠ '"' ∧ c ≠ '\\') (more : QuotesEscaped cs) :
      QuotesEscaped (c :: cs)
  | pair (c : Char) {cs : List Char} (more : QuotesEscaped cs) : QuotesEscaped ('\\' :: c :: cs)

/-! ### Escapes -/

theorem escapeSequence_of_charOfHex? {mark : Char} {digits rest : List Char} {d : Char}
    (hmark : mark = 'x' ∧ digits.length = 2 ∨ mark = 'u' ∧ digits.length = 4)
    (h : charOfHex? digits = some d) : EscapeSequence (mark :: (digits ++ rest)) [d] rest := by
  obtain ⟨n, hn, hvalid, rfl⟩ := charOfHex?_eq_some_iff.mp h
  obtain ⟨rfl, hlength⟩ | ⟨rfl, hlength⟩ := hmark
  · exact .number (.twoDigits hlength hn) hvalid
  · exact .number (.fourDigits hlength hn) hvalid

theorem NumberEscape.head {text rest : List Char} {n : Nat} (h : NumberEscape text n rest) :
    text.head? = some 'x' ∨ text.head? = some 'u' := by
  cases h with
  | twoDigits => exact .inl rfl
  | fourDigits => exact .inr rfl
  | braced => exact .inr rfl

theorem escaped?_of_isLineBreak {c : Char} (h : Text.isLineBreak c = true) : escaped? c = none := by
  have hletter (d : Char) (hd : Text.isLineBreak d = false) : (c == d) = false := by
    rw [beq_eq_false_iff_ne]
    rintro rfl
    rw [h] at hd
    cases hd
  simp [escaped?, h, hletter 'n' rfl, hletter 'r' rfl, hletter 't' rfl, hletter 'b' rfl,
    hletter 'f' rfl, hletter 'v' rfl]

/-- A letter with a meaning is a whole escape. -/
theorem EscapeSequence.of_letter {e d : Char} {cs chars rest : List Char}
    (h : EscapeSequence (e :: cs) chars rest) (he : escaped? e = some d) :
    chars = [d] ∧ rest = cs := by
  have hmark {n : Nat} {behind : List Char} : ¬ NumberEscape (e :: cs) n behind := by
    intro hnumber
    obtain hx | hu := hnumber.head
    · obtain rfl : e = 'x' := Option.some.inj hx
      cases he
    · obtain rfl : e = 'u' := Option.some.inj hu
      cases he
  cases h with
  | letter hd =>
      rw [he] at hd
      exact ⟨by rw [Option.some.inj hd], rfl⟩
  | zero => cases he
  | number hnumber => exact absurd hnumber hmark
  | pair hnumber => exact absurd hnumber hmark
  | lineBreak hline =>
      rw [escaped?_of_isLineBreak hline] at he
      cases he
  | lineBreakPair => cases he

/-! ### Four digits -/

theorem NumberEscape.of_fourHexDigits {n m : Nat} {cs rest : List Char} (hn : n < 65536)
    (h : NumberEscape ('u' :: (Json.fourHexDigits n ++ cs)) m rest) : m = n ∧ rest = cs := by
  generalize htext : 'u' :: (Json.fourHexDigits n ++ cs) = text at h
  cases h with
  | twoDigits => exact absurd (List.cons.inj htext).1 (by decide)
  | fourDigits hlength hm =>
      obtain ⟨rfl, rfl⟩ := List.append_inj (List.cons.inj htext).2 (by rw [hlength]; rfl)
      rw [numberOfHex?_fourHexDigits hn] at hm
      exact ⟨(Option.some.inj hm).symm, rfl⟩
  | braced =>
      -- A brace is no digit.
      have hbrace : Json.hexDigit (n / 4096) = '{' := (List.cons.inj (List.cons.inj htext).2).1
      have hvalue := (hexDigit_facts (n / 4096)).1
      rw [hbrace] at hvalue
      cases hvalue

theorem EscapeSequence.of_fourHexDigits {c : Char} {cs chars rest : List Char}
    (hc : c.toNat < 65536)
    (h : EscapeSequence ('u' :: (Json.fourHexDigits c.toNat ++ cs)) chars rest) :
    chars = [c] ∧ rest = cs := by
  generalize htext : 'u' :: (Json.fourHexDigits c.toNat ++ cs) = text at h
  cases h with
  | letter he =>
      rw [← (List.cons.inj htext).1] at he
      cases he
  | zero => exact absurd (List.cons.inj htext).1 (by decide)
  | number hnumber =>
      rw [← htext] at hnumber
      obtain ⟨rfl, rfl⟩ := hnumber.of_fourHexDigits hc
      exact ⟨by rw [Char.ofNat_toNat], rfl⟩
  | pair hnumber _ hhigh =>
      -- No character has the number of one half of a pair.
      rw [← htext] at hnumber
      obtain ⟨rfl, -⟩ := hnumber.of_fourHexDigits hc
      have hvalid : c.toNat.isValidChar := c.valid
      simp only [Json.isHighSurrogate, Bool.and_eq_true, decide_eq_true_eq] at hhigh
      unfold Nat.isValidChar at hvalid
      omega
  | lineBreak hline =>
      rw [← (List.cons.inj htext).1] at hline
      cases hline
  | lineBreakPair => exact absurd (List.cons.inj htext).1 (by decide)

/-! ### Literals are read in one way -/

theorem StringCharacters.of_quote {cs value rest : List Char}
    (h : StringCharacters ('"' :: cs) value rest) : value = [] ∧ rest = cs := by
  cases h with
  | close => exact ⟨rfl, rfl⟩
  | plain hplain => exact absurd rfl hplain.1

theorem StringCharacters.of_plain {c : Char} {cs value rest : List Char}
    (hquote : c ≠ '"') (hbackslash : c ≠ '\\') (h : StringCharacters (c :: cs) value rest) :
    ∃ more, value = c :: more ∧ StringCharacters cs more rest := by
  cases h with
  | close => exact absurd rfl hquote
  | plain _ hmore => exact ⟨_, rfl, hmore⟩
  | escape => exact absurd rfl hbackslash

theorem StringCharacters.of_backslash {cs value rest : List Char}
    (h : StringCharacters ('\\' :: cs) value rest) :
    ∃ chars behind others, value = chars ++ others ∧ EscapeSequence cs chars behind ∧
      StringCharacters behind others rest := by
  cases h with
  | plain hplain => exact absurd rfl hplain.2.1
  | escape hfirst hmore => exact ⟨_, _, _, rfl, hfirst, hmore⟩

theorem StringCharacters.of_letter {e d : Char} {cs value rest : List Char}
    (he : escaped? e = some d) (h : StringCharacters ('\\' :: e :: cs) value rest) :
    ∃ more, value = d :: more ∧ StringCharacters cs more rest := by
  obtain ⟨chars, behind, others, rfl, hfirst, hmore⟩ := h.of_backslash
  obtain ⟨rfl, rfl⟩ := hfirst.of_letter he
  exact ⟨others, rfl, hmore⟩

/-- What one character is written as is taken for that character and nothing else. -/
theorem StringCharacters.of_escape {c : Char} {cs value rest : List Char}
    (h : StringCharacters (TypeScript.escape c ++ cs) value rest) :
    ∃ more, value = c :: more ∧ StringCharacters cs more rest := by
  unfold TypeScript.escape at h
  split_ifs at h with hquote hbackslash hnewline hreturn htab hnumber
  · obtain rfl := eq_of_beq hquote
    exact h.of_letter rfl
  · obtain rfl := eq_of_beq hbackslash
    exact h.of_letter rfl
  · obtain rfl := eq_of_beq hnewline
    exact h.of_letter rfl
  · obtain rfl := eq_of_beq hreturn
    exact h.of_letter rfl
  · obtain rfl := eq_of_beq htab
    exact h.of_letter rfl
  · obtain ⟨chars, behind, others, rfl, hfirst, hmore⟩ := h.of_backslash
    obtain ⟨rfl, rfl⟩ := hfirst.of_fourHexDigits (lt_of_escaped_by_number hnumber)
    exact ⟨others, rfl, hmore⟩
  · exact h.of_plain (by simpa using hquote) (by simpa using hbackslash)

theorem StringCharacters.of_flatMap_escape {cs following value rest : List Char}
    (h : StringCharacters (cs.flatMap TypeScript.escape ++ '"' :: following) value rest) :
    value = cs ∧ rest = following := by
  induction cs generalizing value with
  | nil => exact h.of_quote
  | cons c cs ih =>
      rw [List.flatMap_cons, List.append_assoc] at h
      obtain ⟨more, rfl, hmore⟩ := h.of_escape
      obtain ⟨rfl, rfl⟩ := ih hmore
      exact ⟨rfl, rfl⟩

/-! ### The reader -/

theorem stringCharacters_of_escape {text behind : List Char} {d : Char}
    {read : Option (List Char × List Char)} {r : List Char × List Char}
    (h : read.map (fun more => (d :: more.1, more.2)) = some r)
    (first : EscapeSequence text [d] behind)
    (more : ∀ {more}, read = some more → StringCharacters behind more.1 more.2) :
    StringCharacters ('\\' :: text) r.1 r.2 := by
  obtain ⟨after, hsome, rfl⟩ := Option.map_eq_some_iff.mp h
  exact .escape first (more hsome)

/-- The reader takes literals of the grammar only. -/
theorem stringCharacters_of_readText {cs : List Char} {r : List Char × List Char}
    (h : readText cs = some r) : StringCharacters cs r.1 r.2 := by
  fun_induction readText cs generalizing r with
  | case1 => cases h
  | case2 c cs hquote =>
      obtain rfl := eq_of_beq hquote
      cases h
      exact .close cs
  | case3 c _ hbackslash h₁ h₂ h₃ h₄ rest ih =>
      obtain rfl := eq_of_beq hbackslash
      obtain ⟨d, hd, hread⟩ := Option.bind_eq_some_iff.mp h
      exact stringCharacters_of_escape hread
        (escapeSequence_of_charOfHex? (.inr ⟨rfl, rfl⟩) hd) ih
  | case4 c _ hbackslash h₁ h₂ rest ih =>
      obtain rfl := eq_of_beq hbackslash
      obtain ⟨d, hd, hread⟩ := Option.bind_eq_some_iff.mp h
      exact stringCharacters_of_escape hread
        (escapeSequence_of_charOfHex? (.inl ⟨rfl, rfl⟩) hd) ih
  | case5 c _ hbackslash e rest _ _ ih =>
      obtain rfl := eq_of_beq hbackslash
      obtain ⟨d, hd, hread⟩ := Option.bind_eq_some_iff.mp h
      exact stringCharacters_of_escape hread (.letter hd) ih
  | case6 => cases h
  | case7 => cases h
  | case8 c cs hquote hbackslash hline ih =>
      obtain ⟨more, hmore, rfl⟩ := Option.map_eq_some_iff.mp h
      simp only [Text.isLineBreak, Bool.or_eq_true, not_or, beq_iff_eq] at hquote hbackslash hline
      exact .plain ⟨hquote, hbackslash, hline.1.1.1, hline.1.1.2⟩ (ih hmore)

theorem stringLiteral_of_readQuoted {cs rest : List Char} {s : String}
    (h : readQuoted cs = some (s, rest)) : StringLiteral cs s rest := by
  unfold readQuoted at h
  split at h
  · obtain ⟨r, hread, heq⟩ := Option.map_eq_some_iff.mp h
    cases heq
    exact ⟨_, rfl, by simpa using stringCharacters_of_readText hread⟩
  · cases h

theorem stringLiteral_quote_iff {s value : String} {following rest : List Char} :
    StringLiteral ((quote s).toList ++ following) value rest ↔ value = s ∧ rest = following := by
  constructor
  · rintro ⟨behind, htext, hbehind⟩
    rw [toList_quote, List.cons_append, List.append_assoc] at htext
    rw [← (List.cons.inj htext).2] at hbehind
    obtain ⟨hvalue, hrest⟩ := hbehind.of_flatMap_escape
    exact ⟨String.toList_injective hvalue, hrest⟩
  · rintro ⟨rfl, rfl⟩
    exact stringLiteral_of_readQuoted (readQuoted_quote_append value rest)

/-! ### Quotes within -/

theorem quotesEscaped_plain_append {text cs : List Char}
    (h : ∀ c ∈ text, c ≠ '"' ∧ c ≠ '\\') (more : QuotesEscaped cs) :
    QuotesEscaped (text ++ cs) := by
  induction text with
  | nil => exact more
  | cons c text ih =>
      rw [List.forall_mem_cons] at h
      exact .plain h.1 (ih h.2)

theorem quotesEscaped_escape_append (c : Char) {cs : List Char} (more : QuotesEscaped cs) :
    QuotesEscaped (escape c ++ cs) := by
  unfold escape
  split_ifs with hquote hbackslash
  · exact .pair _ more
  · exact .pair _ more
  · exact .pair _ more
  · exact .pair _ more
  · exact .pair _ more
  · have hdigit (n : Nat) : Json.hexDigit n ≠ '"' ∧ Json.hexDigit n ≠ '\\' := by
      have hvalue := (hexDigit_facts n).1
      constructor <;> · intro heq; rw [heq] at hvalue; cases hvalue
    refine .pair 'u' (quotesEscaped_plain_append ?_ more)
    simp [Json.fourHexDigits, hdigit]
  · exact .plain ⟨by simpa using hquote, by simpa using hbackslash⟩ more

theorem quotesEscaped_flatMap_escape (cs : List Char) : QuotesEscaped (cs.flatMap escape) := by
  induction cs with
  | nil => exact .nil
  | cons c cs ih => exact quotesEscaped_escape_append c ih

/-- A quoted text is a literal on one line whose quotes within are all escaped. Whatever follows it,
the grammar reads it in one way, as the text, up to its last quote. So the quoted text tells the
text, and no quoted text is a proper beginning of another. -/
theorem quoted_texts_read_back :
    (∀ (s value : String) (following rest : List Char),
        StringLiteral ((quote s).toList ++ following) value rest ↔
          value = s ∧ rest = following) ∧
      (∀ s, Text.OneLine (quote s).toList ∧
        ∃ inner, (quote s).toList = '"' :: (inner ++ ['"']) ∧ QuotesEscaped inner) ∧
      Function.Injective quote ∧
      ∀ s t, (quote s).toList <+: (quote t).toList → s = t := by
  have hbegins {s t : String} (h : (quote s).toList <+: (quote t).toList) : s = t := by
    obtain ⟨behind, htext⟩ := h
    have hreads : StringLiteral ((quote s).toList ++ behind) t [] := by
      rw [htext, ← List.append_nil (quote t).toList, stringLiteral_quote_iff]
      exact ⟨rfl, rfl⟩
    exact (stringLiteral_quote_iff.mp hreads).1.symm
  refine ⟨fun s value following rest => stringLiteral_quote_iff, fun s => ?_, ?_, ?_⟩
  · exact ⟨oneLine_quote s, _, toList_quote s, quotesEscaped_flatMap_escape s.toList⟩
  · intro s t heq
    exact hbegins (heq ▸ List.prefix_refl _)
  · intro s t h
    exact hbegins h

/-- A text that looks like escapes, with a quote in it and a quote behind it. -/
theorem quoted_texts_read_back_of_escapes :
    quote "\\\"\\u0041" = "\"\\\\\\\"\\\\u0041\"" ∧
      StringLiteral ((quote "\\\"\\u0041").toList ++ "n\"".toList) "\\\"\\u0041" "n\"".toList ∧
      ¬ StringLiteral ((quote "\\\"\\u0041").toList ++ "n\"".toList) "\\\"A" "n\"".toList ∧
      quote "\\" ≠ quote "\\\\" ∧
      ¬ (quote "\\").toList <+: (quote "\\\"\\u0041").toList := by
  obtain ⟨hread, -, hinjective, hbegins⟩ := quoted_texts_read_back
  refine ⟨by decide, (hread _ _ _ _).mpr ⟨rfl, rfl⟩, ?_, ?_, ?_⟩
  · intro h
    exact absurd ((hread _ _ _ _).mp h).1 (by decide)
  · exact hinjective.ne (by decide)
  · exact mt (hbegins _ _) (by decide)

end RowTypings.TypeScript
