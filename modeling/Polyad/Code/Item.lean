import Polyad.Code.Expr
/-!
Items of generated code: the type of a tuple, the methods and traits that it
has, and the constant that names the largest arity.
-/

namespace Polyad.Code

/-- A note on an item or a method. -/
inductive Note where
  /-- Documentation as one text. -/
  | doc (text : String)
  /-- A line of documentation as it is written in a template. -/
  | docLine (line : String)
  | derive (traits : List String)
  | allow (lint : String)
  /-- Present only where a feature is on. -/
  | feature (name : String)
  deriving DecidableEq, Repr

def Note.tokens (note : Note) : List Token :=
  [.word "#", .group .square <|
    match note with
    | doc text => words ["doc", "="] ++ [textLiteral text]
    | docLine line =>
      words ["doc", "=", "r\"" ++ (if line = "" then "" else " " ++ line) ++ "\""]
    | derive traits =>
      .word "derive" :: parenthesized (separated (traits.map fun name => [.word name]))
    | allow lint => .word "allow" :: parenthesized [.word lint]
    | feature name =>
      .word "cfg" :: parenthesized (words ["feature", "="] ++ [textLiteral name])]

/-- How a method takes the tuple that it is called on. -/
inductive Receiver where
  | owned | borrowed
  deriving DecidableEq, Repr

def Receiver.tokens : Receiver → List Token
  | owned => [.word "self"]
  | borrowed => words ["&", "self"]

/-- What an argument is bound to. -/
inductive Pattern where
  | name (name : String)
  /-- The parts of a tuple of the language. -/
  | native (names : List String)
  /-- Nothing, for an argument that is not used. -/
  | ignored
  deriving DecidableEq, Repr

def Pattern.tokens : Pattern → List Token
  | name n => [.word n]
  | native names => parenthesized (terminated (names.map fun n => [.word n]))
  | ignored => [.word "_"]

/-- Who can call a method, and whether it can be called at compile time. -/
inductive Access where
  | constant | shared | trait
  deriving DecidableEq, Repr

def Access.tokens : Access → List Token
  | constant => words ["pub", "const"]
  | shared => [.word "pub"]
  | trait => []

/-- A method or a function that belongs to a type. -/
structure Method where
  notes : List Note := []
  access : Access := .shared
  name : String
  generics : List String := []
  receiver : Option Receiver := none
  params : List (Pattern × Ty) := []
  /-- Whether a comma follows the last parameter. -/
  trailing : Bool := false
  result : Ty
  bounds : List (String × Ty) := []
  body : Block

namespace Method

/-- The parameters with the receiver in front. -/
def inputs (m : Method) : List (List Token) :=
  (m.receiver.map Receiver.tokens).toList ++
    m.params.map fun param => param.1.tokens ++ .word ":" :: param.2.tokens

def tokens (m : Method) : List Token :=
  m.notes.flatMap Note.tokens ++ m.access.tokens ++ words ["fn", m.name] ++
    angled (m.generics.map fun name => [.word name]) ++
    parenthesized (if m.trailing then terminated m.inputs else separated m.inputs) ++
    .word "->" :: m.result.tokens ++
    (if m.bounds.isEmpty then [] else
      .word "where" ::
        terminated (m.bounds.map fun bound => words [bound.1, ":"] ++ bound.2.tokens)) ++
    m.body.tokens

end Method

/-- A parameter of an item and the bound on it, if there is one. -/
structure Param where
  name : String
  bound : Option Ty := none

def Param.tokens (param : Param) : List Token :=
  .word param.name ::
    match param.bound with
    | some bound => .word ":" :: bound.tokens
    | none => []

/-- Parameters without bounds. -/
def Param.free (names : List String) : List Param :=
  names.map fun name => { name }

/-- Parameters with the same bound on every one. -/
def Param.bounded (names : List String) (bound : Ty) : List Param :=
  names.map fun name => { name, bound := some bound }

/-- What the implementation of a trait holds. -/
inductive Member where
  /-- A number that belongs to the type. -/
  | number (name : String) (value : Nat)
  /-- A type that belongs to the type. -/
  | type (name : String) (type : Ty)
  | method (m : Method)

/-- The literal of a number of machine size. -/
def sizeLiteral (value : Nat) : String :=
  toString value ++ "usize"

def Member.tokens : Member → List Token
  | number name value =>
    words ["const", name, ":"] ++ Ty.size.tokens ++ words ["=", sizeLiteral value, ";"]
  | type name t => words ["type", name, "="] ++ t.tokens ++ [.word ";"]
  | method m => m.tokens

/-- An item at the top level of the generated code. -/
inductive Item where
  /-- The constant that names the largest arity. -/
  | maxArity (notes : List Note) (ceiling : Nat)
  /-- The type of tuples with a slot for each field. -/
  | definition (notes : List Note) (fields : List (String × String))
  /-- Methods of a type. -/
  | methods (params : List Param) (target : Ty) (methods : List Method)
  /-- A trait of a type. -/
  | implementation (notes : List Note) (params : List Param) (trait target : Ty)
      (members : List Member)

namespace Item

/-- The parameters of an item in angle brackets. -/
def params (ps : List Param) : List Token :=
  angled (ps.map Param.tokens)

def tokens : Item → List Token
  | maxArity notes ceiling =>
    notes.flatMap Note.tokens ++ words ["pub", "const", "MAX_ARITY", ":"] ++
      Ty.size.tokens ++ words ["=", sizeLiteral ceiling, ";"]
  | definition notes fields =>
    notes.flatMap Note.tokens ++ words ["pub", "struct", tupleName fields.length] ++
      params (Param.free (fields.map Prod.snd)) ++
      braced (terminated (fields.map fun field => words [field.1, ":", field.2]))
  | methods ps target ms =>
    .word "impl" :: params ps ++ target.tokens ++ braced (ms.flatMap Method.tokens)
  | implementation notes ps trait target members =>
    notes.flatMap Note.tokens ++ .word "impl" :: params ps ++ trait.tokens ++
      .word "for" :: target.tokens ++ braced (members.flatMap Member.tokens)

/-- The tokens of some items, cut where they end. A home that holds ends of
    items cuts an item into several parts. -/
def parts (items : List Item) : List (List Token) :=
  items.flatMap fun item => cut item.tokens

end Item

end Polyad.Code
