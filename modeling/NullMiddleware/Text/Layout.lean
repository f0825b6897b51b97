import NullMiddleware.Text.Quoted

/-!
The text of a structured value, on one line or on many.

A value is laid out as a word, a named record, a named tuple or a list. Both renderings show the
same words in the same order; the long one puts every part on a line of its own, four spaces
deeper than the value it belongs to, with a comma after it.
-/

namespace NullMiddleware.Text

inductive Layout
  | word (text : String)
  | record (name : String) (fields : List (String × Layout))
  /-- A record that shows only some of its fields and says so. -/
  | excerpt (name : String) (fields : List (String × Layout))
  | tuple (name : String) (items : List Layout)
  | list (items : List Layout)

namespace Layout

def nat (n : Nat) : Layout := .word (toString n)
def word64 (n : UInt64) : Layout := .nat n.toNat
def flag (b : Bool) : Layout := .word (toString b)
def text (s : String) : Layout := .word (quote s)
def option (x : Option Layout) : Layout := x.elim (.word "None") fun l => .tuple "Some" [l]

mutual

/-- The value on one line. -/
def inline : Layout → String
  | .word s => s
  | .record name [] => name
  | .record name fields => name ++ " \x7b " ++ ", ".intercalate (inlineFields fields) ++ " \x7d"
  | .excerpt name fields =>
    name ++ " \x7b " ++ ", ".intercalate (inlineFields fields ++ [".."]) ++ " \x7d"
  | .tuple name items => name ++ "(" ++ ", ".intercalate (inlineItems items) ++ ")"
  | .list items => "[" ++ ", ".intercalate (inlineItems items) ++ "]"

def inlineFields : List (String × Layout) → List String
  | [] => []
  | (name, l) :: rest => (name ++ ": " ++ inline l) :: inlineFields rest

def inlineItems : List Layout → List String
  | [] => []
  | l :: rest => inline l :: inlineItems rest

end

def margin (depth : Nat) : String := "".pushn ' ' (4 * depth)

mutual

/-- The value on many lines, `depth` levels inside other values. -/
def block (depth : Nat) : Layout → String
  | .word s => s
  | .record name [] => name
  | .record name fields =>
    name ++ " \x7b\n" ++ blockFields (depth + 1) fields ++ margin depth ++ "\x7d"
  | .excerpt name fields =>
    name ++ " \x7b\n" ++ blockFields (depth + 1) fields ++ margin (depth + 1) ++ "..\n" ++
      margin depth ++ "\x7d"
  | .tuple name items => name ++ "(\n" ++ blockItems (depth + 1) items ++ margin depth ++ ")"
  | .list [] => "[]"
  | .list items => "[\n" ++ blockItems (depth + 1) items ++ margin depth ++ "]"

def blockFields (depth : Nat) : List (String × Layout) → String
  | [] => ""
  | (name, l) :: rest =>
    margin depth ++ name ++ ": " ++ block depth l ++ ",\n" ++ blockFields depth rest

def blockItems (depth : Nat) : List Layout → String
  | [] => ""
  | l :: rest => margin depth ++ block depth l ++ ",\n" ++ blockItems depth rest

end

/-- On many lines if `long`, else on one. -/
def render (long : Bool) (l : Layout) : String := if long then l.block 0 else l.inline

end Layout
end NullMiddleware.Text
