import Polyad.Code.Type
import Polyad.Text.Escape
/-!
Expressions and statements in generated code.
-/

namespace Polyad.Code

/-- The literal of a text. -/
def textLiteral (text : String) : Token :=
  .word (String.ofList (Escape.literal text.toList))

/-- An expression. -/
inductive Expr where
  | var (name : String)
  | path (path : Path)
  /-- A function that a type has because of a trait. -/
  | ofTrait (type : Ty) (trait : Path) (name : String)
  | text (text : String)
  | field (target : Expr) (name : String)
  | ref (target : Expr)
  | call (function : Expr) (args : List Expr)
  | method (target : Expr) (name : String) (args : List Expr)
  /-- A tuple of the family with a value for every slot. -/
  | tuple (values : List Expr)
  /-- A tuple of the family whose slots are the variables of the same names. -/
  | tupleOfVars (n : Nat)
  /-- A tuple of the language. -/
  | native (values : List Expr)
  /-- The value of a result, or else its error to whoever called. -/
  | unwrapped (target : Expr)
  /-- A function without arguments. -/
  | deferred (body : Expr)
  /-- A function of two tuples, `a` and `b`, that keeps what it captures. -/
  | comparing (body : Expr)
  /-- One of two expressions, by whether an optional value is there. -/
  | byPresence (target : Expr) (binder : String) (present absent : Expr)

mutual

def Expr.tokens : Expr → List Token
  | .var name => [.word name]
  | .path p => p.tokens
  | .ofTrait type trait name =>
    [.word "<"] ++ type.tokens ++ [.word "as"] ++ trait.tokens ++ words [">", "::", name]
  | .text t => [textLiteral t]
  | .field target name => target.tokens ++ words [".", name]
  | .ref target => .word "&" :: target.tokens
  | .call function args => function.tokens ++ parenthesized (separated (Expr.tokensEach args))
  | .method target name args =>
    target.tokens ++ words [".", name] ++ parenthesized (separated (Expr.tokensEach args))
  | .tuple values => literalShape (Expr.tokensEach values)
  | .tupleOfVars n =>
    .word (tupleName n) :: braced (separated ((series "t" n).map fun name => [.word name]))
  | .native values => parenthesized (terminated (Expr.tokensEach values))
  | .unwrapped target => target.tokens ++ [.word "?"]
  | .deferred body => .word "||" :: body.tokens
  | .comparing body =>
    words ["move", "|", "a", ":", "&", "Self", ",", "b", ":", "&", "Self", "|"] ++
      braced body.tokens
  | .byPresence target binder present absent =>
    .word "match" :: target.tokens ++
      braced ((Path.absolute ["core", "option", "Option", "Some"]).tokens ++
        parenthesized [.word binder] ++ .word "=>" :: present.tokens ++ [.word ","] ++
        (Path.absolute ["core", "option", "Option", "None"]).tokens ++
        .word "=>" :: absent.tokens ++ [.word ","])

def Expr.tokensEach : List Expr → List (List Token)
  | [] => []
  | e :: rest => e.tokens :: Expr.tokensEach rest

end

namespace Expr

/-- The tuple that a method was called on. -/
def self : Expr :=
  var "self"

/-- A slot of it. -/
def slot (name : String) : Expr :=
  field self name

/-- A function known by its absolute path. -/
def known (segments : List String) : Expr :=
  path (.absolute segments)

/-- A function that belongs to the type around. -/
def ofSelf (name : String) : Expr :=
  path (.relative "Self" [name])

def none : Expr :=
  Expr.known ["core", "option", "Option", "None"]

def some (value : Expr) : Expr :=
  call (Expr.known ["core", "option", "Option", "Some"]) [value]

def ok (value : Expr) : Expr :=
  call (Expr.known ["core", "result", "Result", "Ok"]) [value]

end Expr

/-- A statement. -/
inductive Stmt where
  | bind (name : String) (value : Expr)
  | run (e : Expr)

def Stmt.tokens : Stmt → List Token
  | bind name value => words ["let", name, "="] ++ value.tokens ++ [.word ";"]
  | run e => e.tokens ++ [.word ";"]

/-- Statements and the expression that they lead to. -/
structure Block where
  stmts : List Stmt := []
  result : Expr

def Block.tokens (block : Block) : List Token :=
  braced (block.stmts.flatMap Stmt.tokens ++ block.result.tokens)

end Polyad.Code
