/-!
# Outlines

An outline is a name with named parts, each of them a text or an outline again.
It is written on one line, or with every part on a line of its own.
-/

namespace BufferBudget

/-- A text, or a name with named parts. -/
inductive Outline where
  | text (value : String)
  | record (name : String) (parts : List (String × Outline))

namespace Outline

mutual

/-- An outline on one line. -/
def onOneLine : Outline → String
  | .text value => value
  | .record name [] => name
  | .record name (part :: parts) =>
      name ++ " \x7b " ++ partOnOneLine part ++ restOnOneLine parts ++ " \x7d"

/-- One part of an outline on one line. -/
def partOnOneLine : String × Outline → String
  | (label, value) => label ++ ": " ++ onOneLine value

/-- The parts after the first on one line, each behind a comma. -/
def restOnOneLine : List (String × Outline) → String
  | [] => ""
  | part :: parts => ", " ++ partOnOneLine part ++ restOnOneLine parts

end

/-- The blanks at the start of a line at some depth. -/
def indentation (depth : Nat) : String :=
  String.ofList (List.replicate (4 * depth) ' ')

mutual

/-- An outline with every part on its own line, for a place at some depth. -/
def onLines (depth : Nat) : Outline → String
  | .text value => value
  | .record name [] => name
  | .record name (part :: parts) =>
      name ++ " \x7b\n" ++ partOnLines (depth + 1) part ++
        restOnLines (depth + 1) parts ++ indentation depth ++ "\x7d"

/-- One part of an outline on lines of its own. -/
def partOnLines (depth : Nat) : String × Outline → String
  | (label, value) =>
      indentation depth ++ label ++ ": " ++ onLines depth value ++ ",\n"

/-- The parts after the first, each on lines of its own. -/
def restOnLines (depth : Nat) : List (String × Outline) → String
  | [] => ""
  | part :: parts => partOnLines depth part ++ restOnLines depth parts

end

/-- The heap. -/
def heap : Outline :=
  .record "HeapBufferAllocator" [("_private", .text "()")]

/-- A node that owns some objects, on top of another. -/
def owner (below : Outline) (owned : Nat) : Outline :=
  .record "OwningBufferAllocator"
    [("delegate", below), ("owned", .text (toString owned))]

end Outline

end BufferBudget
