import RuntimeContracts.Text.Quoted

/-!
# Descriptions of values

A description is a tree of words, records, tuples, lists and sets. It has two written forms: the
compact one on a single line, and the expanded one with a line per field or item, each line indented
by four blanks below its parent and each field or item followed by a comma.
-/

namespace RuntimeContracts

/-- An open record has fields that are not shown; two dots stand for them. -/
inductive Shape where
  | word (text : String)
  | record (name : String) (fields : List (String × Shape)) (isOpen : Bool)
  | tuple (name : String) (items : List Shape)
  | list (items : List Shape)
  | set (items : List Shape)

namespace Shape

def leftBrace : String := "\x7b"
def rightBrace : String := "\x7d"

mutual

def compact : Shape → String
  | .word text => text
  | .record name fields isOpen =>
    match compactFields fields ++ (if isOpen then [".."] else []) with
    | [] => name
    | parts => name ++ " " ++ leftBrace ++ " " ++ ", ".intercalate parts ++ " " ++ rightBrace
  | .tuple name items =>
    match compactItems items with
    | [] => name
    | parts => name ++ "(" ++ ", ".intercalate parts ++ ")"
  | .list items => "[" ++ ", ".intercalate (compactItems items) ++ "]"
  | .set items => leftBrace ++ ", ".intercalate (compactItems items) ++ rightBrace

def compactFields : List (String × Shape) → List String
  | [] => []
  | (label, shape) :: rest => (label ++ ": " ++ compact shape) :: compactFields rest

def compactItems : List Shape → List String
  | [] => []
  | shape :: rest => compact shape :: compactItems rest

end

def startWith (text : String) : List String → List String
  | [] => [text]
  | line :: rest => (text ++ line) :: rest

def endWith (text : String) : List String → List String
  | [] => [text]
  | [line] => [line ++ text]
  | line :: rest => line :: endWith text rest

def indent (lines : List String) : List String :=
  lines.map ("    " ++ ·)

/-- Encloses the indented lines, or joins the two ends where there are none. -/
def enclose (left right : String) : List String → List String
  | [] => [left ++ right]
  | lines => left :: indent lines ++ [right]

mutual

def lines : Shape → List String
  | .word text => text.splitOn "\n"
  | .record name fields isOpen =>
    match fields, isOpen with
    | [], false => [name]
    | [], true => [name ++ " " ++ leftBrace ++ " .. " ++ rightBrace]
    | fields, _ =>
      enclose (name ++ " " ++ leftBrace) rightBrace
        (fieldLines fields ++ (if isOpen then [".."] else []))
  | .tuple name items =>
    match items with
    | [] => [name]
    | items => enclose (name ++ "(") ")" (itemLines items)
  | .list items => enclose "[" "]" (itemLines items)
  | .set items => enclose leftBrace rightBrace (itemLines items)

def fieldLines : List (String × Shape) → List String
  | [] => []
  | (label, shape) :: rest =>
    endWith "," (startWith (label ++ ": ") (lines shape)) ++ fieldLines rest

def itemLines : List Shape → List String
  | [] => []
  | shape :: rest => endWith "," (lines shape) ++ itemLines rest

end

def expanded (shape : Shape) : String :=
  "\n".intercalate shape.lines

def render (pretty : Bool) (shape : Shape) : String :=
  if pretty then shape.expanded else shape.compact

def quoted (text : String) : Shape := .word (Text.quote text)

def number (n : Nat) : Shape := .word (toString n)

def flag (b : Bool) : Shape := .word (if b then "true" else "false")

def closedRecord (name : String) (fields : List (String × Shape)) : Shape :=
  .record name fields false

def openRecord (name : String) (fields : List (String × Shape)) : Shape :=
  .record name fields true

end Shape

class Describe (α : Type) where
  shape : α → Shape

/-- The compact description, as it appears inside messages. -/
def describe {α : Type} [Describe α] (a : α) : String :=
  (Describe.shape a).compact

instance : Describe String := ⟨Shape.quoted⟩

end RuntimeContracts
