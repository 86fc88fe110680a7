import Polyad.Family.Template
/-!
The two texts of a tuple: the one for users, slot after slot between
parentheses, and the one for debugging, which is the shape of a tuple of the
language.
-/

namespace Polyad.Template

open Code

/-- A trait of rendering. -/
def formatPath (name : String) : Path :=
  .absolute ["core", "fmt", name]

/-- The method of a trait of rendering, whose formatter is `f`. -/
def formatMethod (body : Block) : Method where
  access := .trait
  name := "fmt"
  receiver := some .borrowed
  params := [(.name "f", .refMut (.path (formatPath "Formatter") [.openLifetime]))]
  result := .path (formatPath "Result") []
  body

/-- Write a fixed text. -/
def write (text : String) : Expr :=
  .method (.var "f") "write_str" [.text text]

/-- The statements that render the slots, with a separator between them. -/
def displaySlots (t : Template) : List Stmt :=
  t.fields.zipIdx.flatMap fun (field, k) =>
    (if k = 0 then [] else [Stmt.run (.unwrapped (write ", "))]) ++
      [.run (.unwrapped (.call (.known ["core", "fmt", "Display", "fmt"])
        [.ref (.slot field), .var "f"]))]

/-- The method that renders for users. -/
def displayMethod (t : Template) : Method :=
  formatMethod
    { stmts := .run (.unwrapped (write "(")) :: t.displaySlots
      result := write ")" }

/-- The text for users. -/
def displayItem (t : Template) : Item :=
  .implementation [] (Param.bounded t.params (.path (formatPath "Display") []))
    (.path (formatPath "Display") []) t.type [.method t.displayMethod]

/-- The method that renders for debugging. -/
def debugMethod (t : Template) : Method :=
  formatMethod (yield
    (if t.arity = 0 then write "()" else
      .method (t.fields.foldl (fun e field => .method e "field" [.ref (.slot field)])
        (.method (.var "f") "debug_tuple" [.text ""])) "finish" []))

/-- The text for debugging. -/
def debugItem (t : Template) : Item :=
  .implementation [] (Param.bounded t.params (.path (formatPath "Debug") []))
    (.path (formatPath "Debug") []) t.type [.method t.debugMethod]

end Polyad.Template
