/-!
The debug form of things with parts. In a row the parts stand side by side; in
the spread-out form each part stands on lines of its own, indented once more
than the thing that holds it.
-/

namespace Polyad.Layout

/-- Put the parts side by side. -/
def commaSeparated : List (List Char) → List Char
  | [] => []
  | [part] => part
  | part :: rest => part ++ [',', ' '] ++ commaSeparated rest

theorem commaSeparated_cons (part : List Char) (rest : List (List Char)) :
    commaSeparated (part :: rest) = part ++ rest.flatMap fun part => [',', ' '] ++ part := by
  induction rest generalizing part with
  | nil => simp [commaSeparated]
  | cons next rest ih => simp [commaSeparated, ih]

/-- Indent a text by four spaces. `fresh` says whether the text starts a line;
    a line without a single character, not even its end, is not indented. -/
def indentFrom (fresh : Bool) : List Char → List Char
  | [] => []
  | c :: rest =>
    (if fresh then [' ', ' ', ' ', ' '] else []) ++ c :: indentFrom (c == '\n') rest

/-- A part on lines of its own. -/
def spreadPart (part : List Char) : List Char :=
  indentFrom true (part ++ [',', '\n'])

/-- A name and at least one part in parentheses. One part without a name in
    front keeps a comma behind it, which tells it from a mere parenthesis. -/
def tuple (alternate : Bool) (name : List Char) (parts : List (List Char)) : List Char :=
  if alternate then
    name ++ ['(', '\n'] ++ parts.flatMap spreadPart ++ [')']
  else
    name ++ ['('] ++ commaSeparated parts ++
      (if parts.length = 1 ∧ name = [] then [','] else []) ++ [')']

/-- A name and at least one labelled part in braces. -/
def record (alternate : Bool) (name : List Char) (parts : List (List Char × List Char)) :
    List Char :=
  let labelled := parts.map fun part => part.1 ++ [':', ' '] ++ part.2
  if alternate then
    name ++ [' ', '\x7b', '\n'] ++ labelled.flatMap spreadPart ++ ['\x7d']
  else
    name ++ [' ', '\x7b', ' '] ++ commaSeparated labelled ++ [' ', '\x7d']

end Polyad.Layout
