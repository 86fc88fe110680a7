import Mathlib.Data.List.Forall2
import Polyad.Proofs.Family.Arities
/-!
Types of the expressions in generated code, as far as they fill the slots of
tuple literals, and the places where such literals stand.
-/

namespace Polyad.Code

/-- What the names in a piece of code stand for: the types of its variables
    and the bounds on its type parameters. -/
structure Scope where
  vars : List (String × Ty)
  bounds : List (String × Ty)

namespace Scope

/-- The blank name binds nothing, any other one hides what it stood for. -/
def bind (s : Scope) (name : String) (type : Ty) : Scope :=
  if name = "_" then s else { s with vars := (name, type) :: s.vars }

/-- A name that now stands for something of a type that is not known. -/
def hide (s : Scope) (name : String) : Scope :=
  { s with vars := s.vars.filter fun var => var.1 ≠ name }

/-- The name of what is present in an optional variable. -/
def bindPresent (s : Scope) (target : Expr) (binder : String) : Scope :=
  match target with
  | .var name =>
    match s.vars.lookup name with
    | some (.path (.absolute ["core", "option", "Option"]) [inner]) => s.bind binder inner
    | _ => s.hide binder
  | _ => s.hide binder

end Scope

/-- The type of an expression. A slot of a tuple is reached through the tuple
    and through a reference to it alike. -/
inductive HasType (s : Scope) : Expr → Ty → Prop
  | var {name : String} {type : Ty} (hname : s.vars.lookup name = some type) :
    HasType s (.var name) type
  | field {target : Expr} {args : List Ty} {k : Nat} {type : Ty}
    (htarget : HasType s target (.tuple args)) (hslot : args[k]? = some type) :
    HasType s (.field target (numberedName "t" (k + 1))) type
  | fieldOfRef {target : Expr} {args : List Ty} {k : Nat} {type : Ty}
    (htarget : HasType s target (.ref (.tuple args))) (hslot : args[k]? = some type) :
    HasType s (.field target (numberedName "t" (k + 1))) type
  | ref {target : Expr} {type : Ty} (htarget : HasType s target type) :
    HasType s (.ref target) (.ref type)
  | call {name param : String} {kind : Callable} {inputs : List Ty} {output : Ty}
    {args : List Expr} (hname : s.vars.lookup name = some (.param param))
    (hbound : (param, .callable kind inputs output) ∈ s.bounds)
    (hargs : List.Forall₂ (HasType s) args inputs) :
    HasType s (.call (.var name) args) output
  | none {type : Ty} : HasType s .none (.option type)
  | some {value : Expr} {type : Ty} (hvalue : HasType s value type) :
    HasType s (.some value) (.option type)

/-- A literal of a tuple where it stands: in which method, what the names in it
    stand for, its values, and the type that the method declares. -/
structure Literal where
  method : String
  scope : Scope
  values : List Expr
  declared : Ty

mutual

/-- The literals in an expression, each with what the names in it stand for. -/
def Expr.literals (s : Scope) : Expr → List (Scope × List Expr)
  | .var _ | .path _ | .ofTrait .. | .text _ | .tupleOfVars _ => []
  | .field target _ | .ref target | .unwrapped target | .deferred target => target.literals s
  | .call function args => function.literals s ++ Expr.literalsEach s args
  | .method target _ args => target.literals s ++ Expr.literalsEach s args
  | .tuple values => (s, values) :: Expr.literalsEach s values
  | .native values => Expr.literalsEach s values
  | .comparing body => body.literals ((s.bind "a" (.ref .self)).bind "b" (.ref .self))
  | .byPresence target binder present absent =>
    target.literals s ++ present.literals (s.bindPresent target binder) ++ absent.literals s

def Expr.literalsEach (s : Scope) : List Expr → List (Scope × List Expr)
  | [] => []
  | e :: rest => e.literals s ++ Expr.literalsEach s rest

end

/-- The literals in statements and in the expression behind them. -/
def Stmt.literals (result : Expr) (s : Scope) : List Stmt → List (Scope × List Expr)
  | [] => result.literals s
  | .bind name value :: rest => value.literals s ++ Stmt.literals result (s.hide name) rest
  | .run e :: rest => e.literals s ++ Stmt.literals result s rest

/-- The variables that a parameter brings. -/
def Pattern.vars : Pattern → Ty → List (String × Ty)
  | .name var, type => [(var, type)]
  | .native names, .native types => names.zip types
  | _, _ => []

/-- The type of the receiver of a method. -/
def Receiver.type (target : Ty) : Receiver → Ty
  | owned => target
  | borrowed => .ref target

/-- What names stand for in the body of a method of a type. -/
def Method.scope (target : Ty) (m : Method) : Scope where
  vars := (m.receiver.map fun r => ("self", r.type target)).toList ++
    m.params.flatMap fun param => param.1.vars param.2
  bounds := m.bounds

namespace Item

/-- The methods in an item. -/
def methodList : Item → List Method
  | methods _ _ ms => ms
  | implementation _ _ _ _ members =>
    members.filterMap fun member =>
      match member with
      | .method m => some m
      | _ => none
  | _ => []

/-- The type that an item is about. -/
def target : Item → Ty
  | methods _ target _ | implementation _ _ _ target _ => target
  | definition _ fields => .tuple (fields.map fun field => .param field.2)
  | maxArity _ _ => .size

/-- The type with a name that belongs to the type of an item. -/
def memberType? (item : Item) (name : String) : Option Ty :=
  match item with
  | implementation _ _ _ _ members =>
    members.findSome? fun member =>
      match member with
      | .type other type => if other = name then some type else none
      | _ => none
  | _ => none

/-- What a declared type stands for, where it is written in terms of the type
    of the item. -/
@[simp] def resolve (item : Item) : Ty → Ty
  | .path (.relative "Self" []) [] => item.target
  | .path (.relative "Self" [name]) [] => (item.memberType? name).getD (.ofSelf name)
  | type => type

/-- The literals in a method of an item. -/
def literalsOf (item : Item) (m : Method) : List Literal :=
  (Stmt.literals m.body.result (m.scope item.target) m.body.stmts).map fun literal =>
    { method := m.name
      scope := literal.1
      values := literal.2
      declared := item.resolve m.result }

/-- The literals in all methods of an item, in the order in which they stand. -/
def literals (item : Item) : List Literal :=
  item.methodList.flatMap item.literalsOf

end Item

mutual

/-- An expression that mentions no tuples holds no literals. -/
theorem Expr.literals_of_arities (s : Scope) :
    (e : Expr) → e.arities = [] → e.literals s = []
  | .var _, _ | .path _, _ | .ofTrait .., _ | .text _, _ => rfl
  | .field target _, h => target.literals_of_arities s h
  | .ref target, h => target.literals_of_arities s h
  | .unwrapped target, h => target.literals_of_arities s h
  | .deferred target, h => target.literals_of_arities s h
  | .comparing body, h => body.literals_of_arities _ h
  | .call function args, h => by
    have hparts := List.append_eq_nil_iff.mp h
    rw [Expr.literals, function.literals_of_arities s hparts.1,
      Expr.literalsEach_of_arities s args hparts.2, List.append_nil]
  | .method target _ args, h => by
    have hparts := List.append_eq_nil_iff.mp h
    rw [Expr.literals, target.literals_of_arities s hparts.1,
      Expr.literalsEach_of_arities s args hparts.2, List.append_nil]
  | .tuple _, h | .tupleOfVars _, h => nomatch h
  | .native values, h => Expr.literalsEach_of_arities s values h
  | .byPresence target binder present absent, h => by
    have hparts := List.append_eq_nil_iff.mp h
    have hfirst := List.append_eq_nil_iff.mp hparts.1
    rw [Expr.literals, target.literals_of_arities s hfirst.1,
      present.literals_of_arities _ hfirst.2, absent.literals_of_arities s hparts.2]
    rfl

theorem Expr.literalsEach_of_arities (s : Scope) :
    (es : List Expr) → Expr.aritiesEach es = [] → Expr.literalsEach s es = []
  | [], _ => rfl
  | e :: rest, h => by
    have hparts := List.append_eq_nil_iff.mp h
    rw [Expr.literalsEach, e.literals_of_arities s hparts.1,
      Expr.literalsEach_of_arities s rest hparts.2, List.append_nil]

end

/-- A method that builds no tuple by a literal. -/
structure Method.LiteralFree (m : Method) : Prop where
  stmts : ∀ stmt ∈ m.body.stmts, ∀ s, stmt.value.literals s = []
  result : ∀ s, m.body.result.literals s = []

theorem Stmt.literals_eq_nil {result : Expr} {stmts : List Stmt}
    (hstmts : ∀ stmt ∈ stmts, ∀ s, stmt.value.literals s = [])
    (hresult : ∀ s, result.literals s = []) (s : Scope) : Stmt.literals result s stmts = [] := by
  induction stmts generalizing s with
  | nil => exact hresult s
  | cons stmt rest ih =>
    have hstmt := hstmts stmt List.mem_cons_self s
    have hrest := ih fun other hother => hstmts other (List.mem_cons_of_mem stmt hother)
    cases stmt with
    | bind name value =>
      have hvalue : value.literals s = [] := hstmt
      rw [Stmt.literals, hvalue, hrest, List.append_nil]
    | run e =>
      have he : e.literals s = [] := hstmt
      rw [Stmt.literals, he, hrest, List.append_nil]

/-- A method that mentions no tuples builds none. -/
theorem Method.literalFree_of_arities {m : Method} (hnone : m.arities = []) : m.LiteralFree where
  stmts := by
    simp only [Method.arities, List.append_eq_nil_iff] at hnone
    intro stmt hstmt s
    exact stmt.value.literals_of_arities s (List.flatMap_eq_nil_iff.mp hnone.1.2 stmt hstmt)
  result := by
    simp only [Method.arities, List.append_eq_nil_iff] at hnone
    intro s
    exact m.body.result.literals_of_arities s hnone.2

theorem Method.LiteralFree.literalsOf {m : Method} (hfree : m.LiteralFree) (item : Item) :
    item.literalsOf m = [] := by
  rw [Item.literalsOf, Stmt.literals_eq_nil hfree.stmts hfree.result, List.map_nil]

theorem Item.literalsOf_of_arities (item : Item) {m : Method} (hnone : m.arities = []) :
    item.literalsOf m = [] :=
  (Method.literalFree_of_arities hnone).literalsOf item

theorem Item.literals_eq_nil {item : Item} (hfree : ∀ m ∈ item.methodList, m.LiteralFree) :
    item.literals = [] := by
  rw [Item.literals, List.flatMap_eq_nil_iff]
  intro m hm
  exact (hfree m hm).literalsOf item

theorem Expr.literalsEach_eq_nil {s : Scope} {es : List Expr}
    (hes : ∀ e ∈ es, e.literals s = []) : Expr.literalsEach s es = [] := by
  induction es with
  | nil => rfl
  | cons e rest ih =>
    rw [Expr.literalsEach, hes e List.mem_cons_self, List.nil_append]
    exact ih fun other hother => hes other (List.mem_cons_of_mem e hother)

end Polyad.Code
