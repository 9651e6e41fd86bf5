import RowTypings.Proofs.TypeScript.SiblingKeys

/-!
Members as texts. A type ends at the semicolon behind it, a comment at the end of its line, and a
block at the line that starts with its brace; so where indentation is blank, keys can be read and
comments have no line breaks, the text of a member tells the whole member.
-/

namespace RowTypings.TypeScript

namespace MemberType

/-- The word that stands for a type without members. -/
def word? : MemberType → Option String
  | .unknown => some "unknown"
  | .unknownArray => some "unknown[]"
  | .number => some "number"
  | .boolean => some "boolean"
  | .date => some "Date"
  | .string => some "string"
  | .object => some "object"
  | .objectArray => some "object[]"
  | .block _ => none
  | .blockArray _ => none

/-- To prove something of every type, prove it of the words, and of blocks from the types of their
members. -/
@[elab_as_elim]
theorem induct {P : MemberType → Prop} (word : ∀ t w, t.word? = some w → P t)
    (block : ∀ members : List Member, (∀ m ∈ members, P m.2) → P (.block members))
    (blockArray : ∀ members : List Member, (∀ m ∈ members, P m.2) → P (.blockArray members))
    (t : MemberType) : P t :=
  @MemberType.rec P (fun members => ∀ m ∈ members, P m.2) (fun m => P m.2)
    (word .unknown _ rfl) (word .unknownArray _ rfl) (word .number _ rfl) (word .boolean _ rfl)
    (word .date _ rfl) (word .string _ rfl) (word .object _ rfl) (word .objectArray _ rfl)
    block blockArray (by simp) (fun _ _ hm hms => List.forall_mem_cons.mpr ⟨hm, hms⟩)
    (fun _ _ ht => ht) t

end MemberType

/-! ### Lines -/

/-- A member as it stands in the text of an interface or of a block. -/
structure MemberLine where
  key : PropertyKey
  isOptional : Bool
  type : String
  comment : String

/-- The key with its markers, the type behind a colon, and the comment to the end of the line. -/
def MemberLine.text (readonly : Bool) (line : MemberLine) : String :=
  (if readonly then "readonly " else "") ++ line.key.write ++
    (if line.isOptional then "?" else "") ++ ": " ++ line.type ++ "; // " ++ line.comment

/-- The text of a block of such lines; the brace that closes it stands at `level`. -/
def blockText (settings : DeclarationSettings) (level : Nat) (lines : List MemberLine) : String :=
  "\x7b\n" ++
    String.join (lines.map fun line =>
      indentation settings (level + 1) ++ line.text settings.readonly ++ "\n") ++
    indentation settings level ++ "\x7d"

def Member.line (settings : DeclarationSettings) (level : Nat) (m : Member) : MemberLine where
  key := m.1.key
  isOptional := m.1.isOptional
  type := m.2.write settings level
  comment := m.1.comment

theorem writeMembers_eq_map (settings : DeclarationSettings) (level : Nat) (members : List Member) :
    writeMembers settings level members =
      members.map fun m => m.1.write settings (m.2.write settings level) := by
  induction members with
  | nil => rfl
  | cons m members ih => rw [writeMembers, ih, List.map_cons]

/-- Members are written line by line. -/
theorem writeMembers_eq_lines (settings : DeclarationSettings) (level : Nat)
    (members : List Member) : writeMembers settings level members =
      (members.map (Member.line settings level)).map (MemberLine.text settings.readonly) := by
  rw [writeMembers_eq_map, List.map_map]
  rfl

theorem MemberType.write_block (settings : DeclarationSettings) (level : Nat)
    (members : List Member) : (MemberType.block members).write settings level =
      blockText settings level (members.map (Member.line settings (level + 1))) := by
  rw [write, writeBlock, writeMembers_eq_lines, List.map_map]
  rfl

theorem MemberType.write_blockArray (settings : DeclarationSettings) (level : Nat)
    (members : List Member) : (MemberType.blockArray members).write settings level =
      blockText settings level (members.map (Member.line settings (level + 1))) ++ "[]" := by
  rw [write, ← write_block, write]

/-! ### Members -/

/-- A key that can be read, and a comment that stays on its line. -/
structure MemberHead.Readable (head : MemberHead) : Prop where
  key : head.key.Valid
  comment : ∀ c ∈ head.comment.toList, Text.isLineBreak c = false

/-- Every member within the type has a readable head. -/
inductive MemberType.Readable : MemberType → Prop
  | word {t : MemberType} {w : String} (h : t.word? = some w) : Readable t
  | block {members : List Member} (heads : ∀ m ∈ members, m.1.Readable)
      (types : ∀ m ∈ members, Readable m.2) : Readable (.block members)
  | blockArray {members : List Member} (heads : ∀ m ∈ members, m.1.Readable)
      (types : ∀ m ∈ members, Readable m.2) : Readable (.blockArray members)

def Member.Readable (m : Member) : Prop := m.1.Readable ∧ m.2.Readable

variable (settings : DeclarationSettings)

def memberText (level : Nat) (m : Member) : List Char :=
  (m.1.write settings (m.2.write settings level)).toList

theorem memberText_eq (level : Nat) (m : Member) : memberText settings level m =
    (if settings.readonly then "readonly ".toList else []) ++ (m.1.key.write.toList ++
      ((if m.1.isOptional then ['?'] else []) ++ ':' :: ' ' ::
        ((m.2.write settings level).toList ++ ';' :: ' ' :: '/' :: '/' :: ' ' ::
          m.1.comment.toList))) := by
  rw [memberText, MemberHead.write]
  split <;> split <;> simp

variable {settings}

/-- Behind a key stands the marker or the colon. -/
theorem ends_marker (isOptional : Bool) (rest : List Char) :
    Text.Ends Naming.isIdentifierPart
      ((if isOptional then ['?'] else []) ++ ':' :: ' ' :: rest) := by
  cases isOptional with
  | true => exact Text.ends_cons (by decide)
  | false => exact Text.ends_cons (by decide)

variable (hindent : ∀ c ∈ settings.indent.toList, c = ' ' ∨ c = '\t')
include hindent

end RowTypings.TypeScript
