import SqlEngine.Text.Blank
import SqlEngine.Text.Case

/-!
Names of one or more parts with dots between them. Parts fold to lower case unless they are quoted,
and quotes keep dots from dividing. Names of relations, with
or without a schema, are read from such texts.
-/

namespace SqlEngine

namespace DottedName

/-- One part of a dotted name: as it is when quoted, else in lower case with single blanks. -/
def normalize (part : List Char) (quoted : Bool) : String :=
  if quoted then String.ofList part
  else Text.lower (String.ofList ([' '].intercalate (Text.words part)))

/-- A part in the making: its characters so far in reverse, and whether a quote has been seen. -/
structure OpenPart where
  reversed : List Char
  quoted : Bool

def OpenPart.close (p : OpenPart) : String := normalize p.reversed.reverse p.quoted

/-- The parts of a dotted name; dots between quotes do not divide. -/
def partsFrom (inside : Bool) (part : OpenPart) : List Char → List String
  | [] => [part.close]
  | c :: rest =>
    if c == '"' then partsFrom (!inside) { part with quoted := true } rest
    else if c == '.' && !inside then part.close :: partsFrom inside ⟨[], false⟩ rest
    else partsFrom inside { part with reversed := c :: part.reversed } rest

def parts (cs : List Char) : List String := partsFrom false ⟨[], false⟩ cs

/-- The last part, and the one before it if there is one. -/
def split (cs : List Char) : Option String × String :=
  match (parts cs).reverse with
  | base :: schema :: _ => (some schema, base)
  | [base] => (none, base)
  | [] => (none, "")

end DottedName

/-! ### Names of relations -/

structure QName where
  schema : Option String
  name : String
deriving DecidableEq, Repr, Inhabited

namespace QName

/-- A name as written in a text such as `schema.name` or `"Name"`. -/
def ofText (text : String) : QName :=
  let (schema, name) := DottedName.split text.toList
  ⟨schema, name⟩

def text (q : QName) : String :=
  match q.schema with
  | some schema => schema ++ "." ++ q.name
  | none => q.name

end QName

end SqlEngine
