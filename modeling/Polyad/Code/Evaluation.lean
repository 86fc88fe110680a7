import Polyad.Code.Item
import Polyad.Fault
import Polyad.Tuple.Curried
import Polyad.Tuple.Native
/-!
What generated code computes. Its expressions are evaluated over tuples whose slots hold
values of one type, and whatever is called may have effects. An expression that makes no
sense comes to nothing: it is stuck.
-/

namespace Polyad.Code

/-- What a function that is handed in gives: the value of a slot, or a whole tuple. -/
inductive Given (α : Type) where
  | slot (value : α)
  | tuple {n : Nat} (t : Tuple α n)

/-- The functions that generated code knows by a path from outside. -/
inductive Builtin where
  | some | ok | missing | compare | clone | box | shrink | display
  /-- Drawing `n` values in nested pairs. -/
  | draw (n : Nat)

/-- What an expression comes to. -/
inductive Datum (m : Type → Type) (α : Type) where
  | slot (value : α)
  | tuple {n : Nat} (t : Tuple α n)
  | native {n : Nat} (x : Nested α n)
  /-- An iterator. -/
  | items (each : List (Datum m α))
  | present (inner : Datum m α)
  | absent
  | ok (inner : Datum m α)
  | refused (reason : Fault)
  | fault (reason : Fault)
  | text (content : String)
  | ordering (answer : Ordering)
  /-- A comparison that is still to be made. -/
  | deferred (answer : m (Option Ordering))
  /-- An order on tuples of any arity. -/
  | order (cmp : (n : Nat) → Tuple α n → Tuple α n → m (Option Ordering))
  /-- A function of `n` slots. -/
  | function {n : Nat} (f : Curried α n (m (Given α)))
  | comparison (cmp : α → α → m Ordering)
  | builtin (f : Builtin)
  /-- A function that belongs to the type around. -/
  | own (name : String)
  /-- What random values are drawn from. -/
  | source
  | formatter
  /-- A tuple that is being rendered, with the fields that it has so far. -/
  | builder (name : String) (fields : List α)
  | unit
  | stuck

/-- What generated code relies on. -/
structure World (m : Type → Type) (α : Type) where
  /-- How a slot holds an optional value. -/
  wrap : Option α → α
  /-- The natural order of slots. -/
  compare : α → α → m Ordering
  draw : (n : Nat) → m (Nested α n)
  shrink : {n : Nat} → Nested α n → List (Nested α n)
  write : String → m Unit
  display : α → m Unit
  /-- Render a tuple with a name in front and some fields. -/
  finish : String → List α → m Unit
  /-- The functions and methods of the type around. -/
  own : String → List (Datum m α) → m (Datum m α)

/-- What the variables stand for, the innermost one first. -/
abbrev Env (m : Type → Type) (α : Type) : Type :=
  List (String × Datum m α)

section

variable {m : Type → Type} {α : Type}

def Given.datum : Given α → Datum m α
  | slot value => .slot value
  | tuple t => .tuple t

namespace Datum

/-- A function for one slot. -/
def ofFunction [Functor m] (f : α → m α) : Datum m α :=
  function (n := 1) fun value => (Given.slot <$> f value : m (Given α))

def ofOption : Option (Datum m α) → Datum m α
  | some inner => present inner
  | none => absent

def ofExcept : Except Fault (Datum m α) → Datum m α
  | .ok inner => ok inner
  | .error reason => refused reason

/-- The value that stands in a slot. -/
def slot? (w : World m α) : Datum m α → Option α
  | slot value => some value
  | present (slot value) => some (w.wrap (some value))
  | absent => some (w.wrap none)
  | _ => none

def slots? (w : World m α) : List (Datum m α) → Option (List α)
  | [] => some []
  | first :: rest => (first.slot? w).bind fun value => (slots? w rest).map (value :: ·)

/-- The tuple with some slots. -/
def ofSlots : Option (List α) → Datum m α
  | some values => tuple (.ofList values)
  | none => stuck

/-- The same slots in a tuple of the language. -/
def nativeOfSlots : Option (List α) → Datum m α
  | some values => native (Tuple.ofList values).toNested
  | none => stuck

def ordering? : Datum m α → Option Ordering
  | ordering answer => some answer
  | _ => none

def ofOrdering? : Option Ordering → Datum m α
  | some answer => ordering answer
  | none => stuck

/-- The slot with a name. -/
def field (name : String) : Datum m α → Datum m α
  | @tuple _ _ n t => (t.toList[(series "t" n).idxOf name]?).elim stuck slot
  | _ => stuck

variable [Monad m]

/-- What a function gives for some arguments. -/
def apply (w : World m α) : Datum m α → List (Datum m α) → m (Datum m α)
  | @function _ _ n f, args =>
    ((slots? w args).bind (Tuple.ofList? n)).elim (pure stuck) fun t => Given.datum <$> t.apply f
  | comparison cmp, [slot a, slot b] => ordering <$> cmp a b
  | own name, args => w.own name args
  | builtin .some, [value] => pure (present value)
  | builtin .ok, [value] => pure (ok value)
  | builtin .missing, [text operation, text argument] =>
    pure (fault (.missing operation argument))
  | builtin .compare, [slot a, slot b] => ordering <$> w.compare a b
  | builtin .clone, [value] => pure value
  | builtin .box, [value] => pure value
  | builtin .shrink, [native x] => pure (items ((w.shrink x).map native))
  | builtin .display, [slot value, formatter] => (fun _ => ok unit) <$> w.display value
  | builtin (.draw n), [source] => native <$> w.draw n
  | _, _ => pure stuck

/-- What a method gives for the value it is called on and some arguments. -/
def method (w : World m α) : Datum m α → String → List (Datum m α) → m (Datum m α)
  | present value, "ok_or", [fault _] => pure (ok value)
  | absent, "ok_or", [fault reason] => pure (refused reason)
  | ordering answer, "then_with", [deferred next] =>
    if answer = .eq then ofOrdering? <$> next else pure (ordering answer)
  | items each, "map", [own name] => items <$> each.mapM fun item => w.own name [item]
  | formatter, "write_str", [text content] => (fun _ => ok unit) <$> w.write content
  | formatter, "debug_tuple", [text name] => pure (builder name [])
  | builder name fields, "field", [slot value] => pure (builder name (fields ++ [value]))
  | builder name fields, "finish", [] => (fun _ => ok unit) <$> w.finish name fields
  | tuple t, name, args => w.own name (tuple t :: args)
  | _, _, _ => pure stuck

end Datum

/-- What a path stands for. -/
def Path.datum : Path → Datum m α
  | absolute ["core", "option", "Option", "None"] => .absent
  | absolute ["core", "option", "Option", "Some"] => .builtin .some
  | absolute ["core", "result", "Result", "Ok"] => .builtin .ok
  | absolute ["core", "cmp", "Ordering", "Equal"] => .ordering .eq
  | absolute ["core", "cmp", "Ord", "cmp"] => .builtin .compare
  | absolute ["core", "clone", "Clone", "clone"] => .builtin .clone
  | absolute ["core", "fmt", "Display", "fmt"] => .builtin .display
  | absolute ["std", "boxed", "Box", "new"] => .builtin .box
  | absolute ["quickcheck", "Arbitrary", "shrink"] => .builtin .shrink
  | below _ ["TupleError", "missing"] => .builtin .missing
  | relative "Self" [name] => .own name
  | _ => .stuck

namespace Env

def get (env : Env m α) (name : String) : Datum m α :=
  (env.lookup name).getD .stuck

/-- The blank name binds nothing. -/
def bind (env : Env m α) (name : String) (value : Datum m α) : Env m α :=
  if name = "_" then env else (name, value) :: env

end Env

variable [Monad m]

mutual

/-- What an expression comes to. -/
@[simp] def Expr.eval (w : World m α) (env : Env m α) : Expr → m (Datum m α)
  | .var name => pure (env.get name)
  | .path p => pure p.datum
  | .ofTrait (.native types) (.absolute ["quickcheck", "Arbitrary"]) "arbitrary" =>
    pure (.builtin (.draw types.length))
  | .ofTrait _ _ _ => pure .stuck
  | .text content => pure (.text content)
  | .field target name => Datum.field name <$> target.eval w env
  | .ref target => target.eval w env
  | .call function args => do
    let callee ← function.eval w env
    callee.apply w (← Expr.evalEach w env args)
  | .method target name args => do
    let value ← target.eval w env
    value.method w name (← Expr.evalEach w env args)
  | .tuple values => (fun each => .ofSlots (Datum.slots? w each)) <$> Expr.evalEach w env values
  | .tupleOfVars n => pure (.ofSlots (Datum.slots? w ((series "t" n).map env.get)))
  | .native values =>
    (fun each => .nativeOfSlots (Datum.slots? w each)) <$> Expr.evalEach w env values
  -- What leaves a function early stands in statements only.
  | .unwrapped _ => pure .stuck
  | .deferred body => pure (.deferred (Datum.ordering? <$> body.eval w env))
  | .comparing body =>
    pure (.order fun _ s t =>
      Datum.ordering? <$> body.eval w (("b", .tuple t) :: ("a", .tuple s) :: env))
  | .byPresence target binder present absent => do
    match ← target.eval w env with
    | .present inner => present.eval w (env.bind binder inner)
    | .absent => absent.eval w env
    | _ => pure .stuck

/-- What some expressions come to, one after the other. -/
@[simp] def Expr.evalEach (w : World m α) (env : Env m α) : List Expr → m (List (Datum m α))
  | [] => pure []
  | e :: rest => do
    let first ← e.eval w env
    return first :: (← Expr.evalEach w env rest)

end

/-- Go on with the value of a result, or leave with its error. -/
def Datum.unwrap (value : Datum m α) (next : Datum m α → m (Datum m α)) : m (Datum m α) :=
  match value with
  | .ok inner => next inner
  | .refused reason => pure (.refused reason)
  | _ => pure .stuck

/-- What an expression behind some statements comes to. -/
def Stmt.eval (w : World m α) (result : Expr) (env : Env m α) : List Stmt → m (Datum m α)
  | [] => result.eval w env
  | .bind name (.unwrapped e) :: rest => do
    (← e.eval w env).unwrap fun inner => Stmt.eval w result ((name, inner) :: env) rest
  | .bind name e :: rest => do
    Stmt.eval w result ((name, ← e.eval w env) :: env) rest
  | .run (.unwrapped e) :: rest => do
    (← e.eval w env).unwrap fun _ => Stmt.eval w result env rest
  | .run e :: rest => do
    let _ ← e.eval w env
    Stmt.eval w result env rest

/-- The variables that an argument brings. -/
def Pattern.values : Pattern → Datum m α → Env m α
  | name n, value => [(n, value)]
  | native names, @Datum.native _ _ _ x => names.zip (x.toList.map .slot)
  | _, _ => []

namespace Method

/-- What the arguments of a method are bound to, the value that it is called on first. -/
def patterns (method : Method) : List Pattern :=
  (method.receiver.map fun _ => Pattern.name "self").toList ++ method.params.map Prod.fst

/-- What a method gives for some arguments. -/
def run (method : Method) (w : World m α) (args : List (Datum m α)) : m (Datum m α) :=
  Stmt.eval w method.body.result (List.zipWith Pattern.values method.patterns args).flatten
    method.body.stmts

end Method

end

end Polyad.Code
