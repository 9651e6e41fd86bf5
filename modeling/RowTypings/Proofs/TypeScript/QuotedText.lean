import RowTypings.Json.Reader
import RowTypings.Proofs.Text.Runs
import RowTypings.TypeScript.Quoted

/-!
Reading string literals. The reader stops at the first quote that no backslash takes, so a quoted
text is read back whole, whatever its characters are and whatever stands behind it.
-/

namespace RowTypings.TypeScript

/-! ### The reader -/

/-- What the letter behind a backslash stands for. A digit and the letters of longer escapes stand
for nothing, every other character for itself. -/
def escaped? (c : Char) : Option Char :=
  if c == 'n' then some '\n'
  else if c == 'r' then some '\r'
  else if c == 't' then some '\t'
  else if c == 'b' then some '\x08'
  else if c == 'f' then some '\x0c'
  else if c == 'v' then some '\x0b'
  else if c == 'u' || c == 'x' || c.isDigit || Text.isLineBreak c then none
  else some c

/-- The character with that number in hexadecimal digits, if there is one. -/
def charOfHex? (digits : List Char) : Option Char :=
  (digits.mapM Json.hexValue?).bind fun values =>
    let n := values.foldl (fun n d => n * 16 + d) 0
    if n.isValidChar then some (Char.ofNat n) else none

/-- The characters of a string literal behind its opening quote, and what stands behind its closing
quote. Escapes are those of one letter and those of two or four hexadecimal digits. -/
def readText : List Char → Option (List Char × List Char)
  | [] => none
  | c :: cs =>
    if c == '"' then some ([], cs)
    else if c == '\\' then
      match cs with
      | 'u' :: h₁ :: h₂ :: h₃ :: h₄ :: rest =>
        (charOfHex? [h₁, h₂, h₃, h₄]).bind fun d => (readText rest).map fun r => (d :: r.1, r.2)
      | 'x' :: h₁ :: h₂ :: rest =>
        (charOfHex? [h₁, h₂]).bind fun d => (readText rest).map fun r => (d :: r.1, r.2)
      | e :: rest => (escaped? e).bind fun d => (readText rest).map fun r => (d :: r.1, r.2)
      | [] => none
    else if Text.isLineBreak c then none
    else (readText cs).map fun r => (c :: r.1, r.2)

def readQuoted : List Char → Option (String × List Char)
  | '"' :: cs => (readText cs).map fun r => (String.ofList r.1, r.2)
  | _ => none

theorem readText_quote (rest : List Char) : readText ('"' :: rest) = some ([], rest) := by
  rw [readText.eq_def]
  rfl

theorem readText_cons_plain {c : Char} (hquote : ¬ (c == '"') = true)
    (hbackslash : ¬ (c == '\\') = true) (hline : Text.isLineBreak c = false) (rest : List Char) :
    readText (c :: rest) = (readText rest).map fun r => (c :: r.1, r.2) := by
  rw [readText.eq_def]
  simp only [hquote, hbackslash, hline, if_false, Bool.false_eq_true]

/-! ### Hexadecimal digits -/

/-- The number that is written in hexadecimal digits. -/
def numberOfHex? (digits : List Char) : Option Nat :=
  (digits.mapM Json.hexValue?).map fun values => values.foldl (fun n d => n * 16 + d) 0

theorem charOfHex?_eq_some_iff {digits : List Char} {d : Char} :
    charOfHex? digits = some d ↔
      ∃ n, numberOfHex? digits = some n ∧ n.isValidChar ∧ Char.ofNat n = d := by
  simp [charOfHex?, numberOfHex?, Option.bind_eq_some_iff]

theorem hexDigit_facts (n : Nat) : Json.hexValue? (Json.hexDigit n) = some (n % 16) ∧
    Text.isControl (Json.hexDigit n) = false ∧ Text.isLineBreak (Json.hexDigit n) = false := by
  have hall : ∀ d < 16, Json.hexValue? (Nat.digitChar d) = some d ∧
      Text.isControl (Nat.digitChar d) = false ∧ Text.isLineBreak (Nat.digitChar d) = false := by
    decide
  exact hall (n % 16) (Nat.mod_lt _ (by decide))

theorem numberOfHex?_fourHexDigits {n : Nat} (h : n < 65536) :
    numberOfHex? (Json.fourHexDigits n) = some n := by
  have hsum : ((n / 4096 % 16 * 16 + n / 256 % 16) * 16 + n / 16 % 16) * 16 + n % 16 = n := by
    omega
  simp [numberOfHex?, Json.fourHexDigits, (hexDigit_facts _).1, hsum]

theorem charOfHex?_fourHexDigits {c : Char} (h : c.toNat < 65536) :
    charOfHex? (Json.fourHexDigits c.toNat) = some c :=
  charOfHex?_eq_some_iff.mpr ⟨_, numberOfHex?_fourHexDigits h, c.valid, Char.ofNat_toNat c⟩

/-- The characters written by their number have one of four digits. -/
theorem lt_of_escaped_by_number {c : Char}
    (h : (c.toNat == 0x2028 || c.toNat == 0x2029 || Text.isControl c) = true) :
    c.toNat < 65536 := by
  simp only [Text.isControl, Bool.or_eq_true, Bool.and_eq_true, beq_iff_eq,
    decide_eq_true_eq] at h
  omega

/-! ### What is written is read -/

/-- What one character is written as is read as that character. -/
theorem readText_escape_append (c : Char) (rest : List Char) :
    readText (escape c ++ rest) = (readText rest).map fun r => (c :: r.1, r.2) := by
  unfold escape
  split_ifs with hquote hbackslash hnewline hreturn htab hnumber
  · obtain rfl := eq_of_beq hquote
    rfl
  · obtain rfl := eq_of_beq hbackslash
    rfl
  · obtain rfl := eq_of_beq hnewline
    rfl
  · obtain rfl := eq_of_beq hreturn
    rfl
  · obtain rfl := eq_of_beq htab
    rfl
  · have hread := charOfHex?_fourHexDigits (lt_of_escaped_by_number hnumber)
    unfold Json.fourHexDigits at hread ⊢
    simp [readText, hread]
  · have hline : Text.isLineBreak c = false := by
      simp only [Bool.or_eq_true, not_or] at hnumber
      simp [Text.isLineBreak, hnewline, hreturn, hnumber]
    exact readText_cons_plain hquote hbackslash hline rest

theorem readText_flatMap_escape (cs rest : List Char) :
    readText (cs.flatMap escape ++ '"' :: rest) = some (cs, rest) := by
  induction cs with
  | nil => exact readText_quote rest
  | cons c cs ih =>
      rw [List.flatMap_cons, List.append_assoc, readText_escape_append, ih, Option.map_some]

theorem toList_quote (s : String) :
    (quote s).toList = '"' :: (s.toList.flatMap escape ++ ['"']) := by
  rw [quote, String.toList_ofList]
  rfl

theorem readQuoted_quote_append (s : String) (rest : List Char) :
    readQuoted ((quote s).toList ++ rest) = some (s, rest) := by
  rw [toList_quote, List.cons_append, List.append_assoc, List.singleton_append, readQuoted,
    readText_flatMap_escape, Option.map_some, String.ofList_toList]

/-! ### What is written stays on its line -/

theorem oneLine_escape (c : Char) : Text.OneLine (escape c) := by
  unfold escape
  split_ifs with hquote hbackslash hnewline hreturn htab hnumber
  · decide
  · decide
  · decide
  · decide
  · decide
  · have hdigit (n : Nat) := (hexDigit_facts n).2
    have hletters : Text.OneLine ['\\', 'u'] := by decide
    simp_all [Json.fourHexDigits]
  · simp only [Bool.or_eq_true, not_or, Bool.not_eq_true] at hnumber
    simp [Text.isLineBreak, hnewline, hreturn, hnumber]

theorem oneLine_quote (s : String) : Text.OneLine (quote s).toList := by
  have hinner : Text.OneLine (s.toList.flatMap escape) := by
    intro c hc
    obtain ⟨d, -, hcd⟩ := List.mem_flatMap.mp hc
    exact oneLine_escape d c hcd
  have hmark : Text.OneLine ['"'] := by decide
  rw [toList_quote, ← List.singleton_append]
  simp only [Text.oneLine_append]
  exact ⟨hmark, hinner, hmark⟩

end RowTypings.TypeScript
