import RowTypings.Naming.Identifier
import RowTypings.TypeScript.Quoted

/-!
Property keys of emitted objects and interfaces. A field is called by its camel case where that is
an identifier, else by its own name in quotes. Siblings never share a key: a later one takes the
smallest number that makes its key new.
-/

namespace RowTypings.TypeScript

open Naming

structure PropertyKey where
  text : String
  quoted : Bool
  deriving DecidableEq

namespace PropertyKey

def write (k : PropertyKey) : String :=
  if k.quoted then quote k.text else k.text

def ofName (name : String) : PropertyKey :=
  let inflected := camelCase name.toList
  if isIdentifier inflected then ⟨String.ofList inflected, false⟩ else ⟨name, true⟩

def withNumber (k : PropertyKey) (n : Nat) : PropertyKey :=
  { k with text := k.text ++ toString n }

/-- The first of `k`, `k2`, `k3`, … whose text is not used. More numbers are tried than texts are
used, so one of them is free. -/
def fresh (used : List String) (k : PropertyKey) : PropertyKey :=
  if used.contains k.text then
    match (List.range' 2 used.length).find? fun n => !used.contains (k.withNumber n).text with
    | some n => k.withNumber n
    | none => k
  else k

/-- Keys for the names of siblings that come after those whose keys are `used`. -/
def assign (used : List String) : List String → List PropertyKey
  | [] => []
  | name :: names =>
    let k := fresh used (ofName name)
    k :: assign (k.text :: used) names

end PropertyKey

/-- The keys of siblings, in order. -/
def uniqueKeys (names : List String) : List PropertyKey :=
  PropertyKey.assign [] names

end RowTypings.TypeScript
