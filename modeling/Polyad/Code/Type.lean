import Polyad.Code.Name
/-!
Paths and types in generated code.
-/

namespace Polyad.Code

/-- A path to something that has a name. -/
inductive Path where
  /-- From the root of all names. -/
  | absolute (segments : List String)
  /-- From where the path stands. -/
  | relative (first : String) (segments : List String)
  /-- From a place whose own path is known by its tokens. -/
  | below (home : List Token) (segments : List String)

/-- Every segment behind its separator. -/
def Path.steps (segments : List String) : List Token :=
  segments.flatMap fun segment => words ["::", segment]

def Path.tokens : Path → List Token
  | absolute segments => steps segments
  | relative first segments => .word first :: steps segments
  | below home segments => home ++ steps segments

/-- Which traits of functions a type can ask for. -/
inductive Callable where
  /-- May be called any number of times. -/
  | many
  /-- May be called once. -/
  | once
  deriving DecidableEq, Repr

def Callable.name : Callable → String
  | many => "Fn"
  | once => "FnOnce"

/-- A type, or the bound on one. -/
inductive Ty where
  /-- A parameter of the item or method around it. -/
  | param (name : String)
  /-- A path with arguments. -/
  | path (path : Path) (args : List Ty)
  /-- A tuple of the family. -/
  | tuple (args : List Ty)
  /-- A tuple of the language. -/
  | native (args : List Ty)
  | ref (target : Ty)
  | refMut (target : Ty)
  /-- A lifetime that is left open. -/
  | openLifetime
  /-- What can be called with some arguments. -/
  | callable (kind : Callable) (inputs : List Ty) (output : Ty)
  /-- Some type with a bound. -/
  | some (bound : Ty)
  /-- A boxed iterator over items. -/
  | iterator (item : Ty)

mutual

def Ty.tokens : Ty → List Token
  | .param name => [.word name]
  | .path p args => p.tokens ++ angled (Ty.tokensEach args)
  | .tuple args => tupleShape (Ty.tokensEach args)
  | .native args => parenthesized (terminated (Ty.tokensEach args))
  | .ref target => .word "&" :: target.tokens
  | .refMut target => .word "&" :: .word "mut" :: target.tokens
  | .openLifetime => [.word "'_"]
  | .callable kind inputs output =>
    .word kind.name :: parenthesized (separated (Ty.tokensEach inputs)) ++
      .word "->" :: output.tokens
  | .some bound => .word "impl" :: bound.tokens
  | .iterator item =>
    (Path.absolute ["std", "boxed", "Box"]).tokens ++ words ["<", "dyn"] ++
      (Path.absolute ["core", "iter", "Iterator"]).tokens ++ words ["<", "Item", "="] ++
      item.tokens ++ [.word ">>"]

def Ty.tokensEach : List Ty → List (List Token)
  | [] => []
  | type :: rest => type.tokens :: Ty.tokensEach rest

end

namespace Ty

/-- A type known by its path alone. -/
def known (segments : List String) : Ty :=
  path (.absolute segments) []

/-- The type that a method belongs to. -/
def self : Ty :=
  path (.relative "Self" []) []

/-- A type that belongs to the type around it. -/
def ofSelf (name : String) : Ty :=
  path (.relative "Self" [name]) []

def size : Ty :=
  path (.relative "usize" []) []

def ordering : Ty :=
  Ty.known ["core", "cmp", "Ordering"]

def option (inner : Ty) : Ty :=
  path (.absolute ["core", "option", "Option"]) [inner]

def result (value error : Ty) : Ty :=
  path (.absolute ["core", "result", "Result"]) [value, error]

end Ty

end Polyad.Code
