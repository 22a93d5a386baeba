/-!
# Layouts

Structured values are shown either on one line, with their parts between brackets and separated
by commas, or as a block of lines, with one indented part after the other and a comma behind
each. A `Block` is a list of lines.
-/

namespace OpenAddressing

namespace Text

/-- The parts between brackets, on one line. -/
def enclose (opening closing : String) (parts : List String) : String :=
  opening ++ String.intercalate ", " parts ++ closing

/-- A named record with its fields, on one line. -/
def record (name : String) (fields : List (String × Nat)) : String :=
  enclose (name ++ " \x7b ") " \x7d" (fields.map fun (field, n) => s!"{field}: {n}")

/-- A text of several lines. -/
abbrev Block := List String

namespace Block

/-- The lines with their line breaks. -/
def toString (block : Block) : String :=
  String.intercalate "\n" block

/-- The block moved to the right by four blanks. -/
def indent (block : Block) : Block :=
  block.map ("    " ++ ·)

/-- The block with a text appended to its last line. -/
def appendLast (block : Block) (text : String) : Block :=
  match block with
  | [] => [text]
  | [line] => [line ++ text]
  | line :: lines => line :: appendLast lines text

/-- The parts between brackets, each indented on lines of its own and followed by a comma. No
parts leave nothing between the brackets. -/
def enclose (opening closing : String) (parts : List Block) : Block :=
  if parts.isEmpty then
    [opening ++ closing]
  else
    opening :: (parts.flatMap fun part => (part.appendLast ",").indent) ++ [closing]

end Block

end Text

end OpenAddressing
