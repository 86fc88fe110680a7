import Polyad.Traced
import Polyad.Packed.Text
import Polyad.Tuple.Native
import Polyad.Tuple.Sampling
import Polyad.Tuple.Whole
import Polyad.Value.Digest
import Polyad.Value.Order
import Polyad.Value.Sampling
/-!
Runs of operations on one current tuple. A change replaces the tuple and a
look leaves it as it is. An operation that does not exist at the arity found,
or that is refused, leaves the tuple as it is too. What functions were called
with is recorded in the order of the calls.
-/

namespace Polyad

/-- One call of a function that was handed to an operation. -/
inductive Call where
  /-- With the value in the slot of this number. -/
  | slot (number : Nat) (argument : Value)
  /-- With every slot. -/
  | whole (arguments : List Value)
  /-- Of the comparison for the slot of this number, which answered. -/
  | compared (number : Nat) (answer : Ordering)

/-- A computation whose calls are recorded. -/
abbrev Watched (α : Type) : Type := Traced Call α

/-- Why an operation gave nothing. -/
inductive Refusal where
  /-- It does not exist for tuples of this arity. -/
  | absent
  /-- The tuple holds a value that has no form for users. -/
  | noDisplay
  | fault (fault : Fault)

/-- Operations that give a new tuple. Slots are numbered from one. -/
inductive Change where
  | set (number : Nat) (value : Value)
  | erase (number : Nat)
  | modify (number : Nat) (f : Value → Value)
  | tryModify (number : Nat) (f : Option (Value → Value))
  | mapEach (fs : List (Value → Value))
  | tryMapEach (fs : List (Option (Value → Value)))
  /-- The whole tuple through a function, at the arities where there is one. -/
  | rebuild (f : (n : Nat) → Option (Tuple Value n → Packed Value))
  | tryRebuild (f : Option ((n : Nat) → Option (Tuple Value n → Packed Value)))
  | pushFront (value : Value)
  | pushBack (value : Value)
  | append (value : Value)
  | join (other : Packed Value)
  | pad {m : Nat} (other : Option (Tuple Value m))
  | swap

namespace Change

/-- A function for one slot, recording its calls. -/
def watch (number : Nat) (f : Value → Value) (argument : Value) : Watched Value :=
  .record (.slot number argument) (f argument)

/-- Functions for the slots from the one numbered `first` on. -/
def watchEach {n : Nat} (first : Nat) : Tuple (Value → Value) n → Tuple (Value → Watched Value) n
  | .nil => .nil
  | .cons f fs => .cons (watch first f) (watchEach (first + 1) fs)

/-- The same, where any of the functions may be missing. -/
def watchEach? {n : Nat} (first : Nat) :
    Tuple (Option (Value → Value)) n → Tuple (Option (Value → Watched Value)) n
  | .nil => .nil
  | .cons f fs => .cons (f.map (watch first)) (watchEach? (first + 1) fs)

/-- A function of the whole tuple, recording its call. -/
def watchWhole {β : Type} {n : Nat} (f : Tuple Value n → β) : Curried Value n (Watched β) :=
  .ofTuple n fun slots => .record (.whole slots.toList) (f slots)

/-- The answer of an operation that may not exist. -/
def exists? {β : Type} : Option β → Except Refusal β
  | some result => .ok result
  | none => .error .absent

/-- The answer of an operation that may be refused. -/
def permitted {β : Type} : Except Fault β → Except Refusal β
  | .ok result => .ok result
  | .error fault => .error (.fault fault)

/-- What a change makes of a tuple. -/
def perform (t : Packed Value) : Change → Watched (Except Refusal (Packed Value))
  | set number value => return exists? (t.set? number value)
  | erase number => return exists? (t.erase? number)
  | modify number f =>
    match t.slot? number with
    | none => return .error .absent
    | some k => do
      let slots ← t.slots.modifyM k (watch number f)
      return .ok { t with slots }
  | tryModify number f =>
    match t.slot? number with
    | none => return .error .absent
    | some k => do
      let answer ← t.slots.tryModifyM k (f.map (watch number))
      return (permitted answer).map fun slots => { t with slots }
  | mapEach fs =>
    match Tuple.ofList? t.arity fs with
    | none => return .error .absent
    | some fs => do
      let slots ← Tuple.mapEachM (watchEach 1 fs) t.slots
      return .ok { t with slots }
  | tryMapEach fs =>
    match Tuple.ofList? t.arity fs with
    | none => return .error .absent
    | some fs => do
      let answer ← Tuple.tryMapEachM (watchEach? 1 fs) t.slots
      return (permitted answer).map fun slots => { t with slots }
  | rebuild f =>
    match f t.arity with
    | none => return .error .absent
    | some f => .ok <$> t.slots.apply (watchWhole f)
  | tryRebuild none => permitted <$> t.slots.tryApplyM "map" none
  | tryRebuild (some f) =>
    match f t.arity with
    | none => return .error .absent
    | some f => permitted <$> t.slots.tryApplyM "map" (some (watchWhole f))
  | pushFront value => return exists? (t.pushFront? value)
  | pushBack value => return exists? (t.pushBack? value)
  | append value => return permitted (t.append value)
  | join other => return exists? (t.join? other)
  | pad other => return exists? (t.pad? Value.ofOption other)
  | swap => return exists? t.swap?

end Change

/-- Operations that only look at the tuple. -/
inductive Look where
  | arity
  | get (number : Nat)
  | apply (f : List Value → Value)
  | tryApply (f : Option (List Value → Value))
  | entry
  | borrow
  | native
  | format (directive : Directive) (wrapped : Bool)
  | hash
  | equal (other : Packed Value)
  | relate (other : Packed Value)
  | comparator (other : Packed Value) (cmps : List (Value → Value → Ordering))
  | shrink (limit : Nat)

/-- What a look finds. -/
inductive Sight where
  | arity (n : Nat)
  | value (value : Value)
  | entry (key value : Value) (back : List Value)
  | borrowed (slots : List Value) (debug : List Char)
  | native (slots back : List Value) (same : Bool)
  | text (text : List Char)
  | writes (packed tuple : List Write)
  | equality (eq ne back : Bool)
  | relation (verdict : Tuple.Verdict) (total chained : Ordering) (max min : List Value)
  | ordering (answer : Ordering)
  | tuples (slots : List (List Value))

namespace Look

/-- A comparison for one slot, recording what it answers. -/
def watch (number : Nat) (cmp : Value → Value → Ordering) (a b : Value) : Watched Ordering :=
  .record (.compared number (cmp a b)) (cmp a b)

/-- Comparisons for the slots from the one numbered `first` on. -/
def watchEach {n : Nat} (first : Nat) :
    Tuple (Value → Value → Ordering) n → Tuple (Value → Value → Watched Ordering) n
  | .nil => .nil
  | .cons cmp cmps => .cons (watch first cmp) (watchEach (first + 1) cmps)

/-- What a look finds in a tuple. -/
def perform (t : Packed Value) : Look → Watched (Except Refusal Sight)
  | arity => return .ok (.arity t.arity)
  | get number => return (Change.exists? (t.get? number)).map .value
  | apply f => do
    let value ← t.slots.apply (Change.watchWhole fun slots => f slots.toList)
    return .ok (.value value)
  | tryApply f => do
    let answer ← t.slots.tryApplyM "apply"
      (f.map fun f => Change.watchWhole fun slots => f slots.toList)
    return (Change.permitted answer).map .value
  | entry =>
    return (Change.exists? t.pair?).map fun pair =>
      let entry := pair.toEntry
      .entry entry.1 entry.2 (Tuple.ofEntry entry).toList
  | borrow => return .ok (.borrowed t.toList (t.slots.debug {}))
  | native =>
    let nested := t.slots.toNested
    let back := Tuple.ofNested nested
    return .ok (.native nested.toList back.toList (back.beq Value.beq t.slots))
  | format directive wrapped =>
    return match t.format? directive wrapped with
      | some text => .ok (.text text)
      | none => .error .noDisplay
  | hash => return .ok (.writes t.writes t.slots.writes)
  | equal other =>
    let equal := t.beq Value.beq other
    return .ok (.equality equal (!equal) (other.beq Value.beq t))
  | relate other =>
    return (Change.exists? (other.toTuple? t.arity)).map fun u =>
      .relation (Tuple.verdict Value.beq Value.partialCompare t.slots u)
        (t.slots.compare Value.compare u) (t.slots.compareEach Value.compare u)
        (t.slots.max Value.compare u).toList (t.slots.min Value.compare u).toList
  | comparator other cmps =>
    match other.toTuple? t.arity, Tuple.ofList? t.arity cmps with
    | some u, some cmps => do
      let answer ← Tuple.comparatorM (watchEach 1 cmps) t.slots u
      return .ok (.ordering answer)
    | _, _ => return .error .absent
  | shrink limit =>
    return .ok (.tuples (((t.slots.shrink Value.smaller).take limit).map Tuple.toList))

end Look

/-- One operation. -/
inductive Step where
  | change (c : Change)
  | look (l : Look)

/-- What an operation gave: a new tuple, or a sight of the one there is. -/
inductive Outcome where
  | changed (t : Packed Value)
  | seen (sight : Sight)

/-- The answer to a step, with the calls that it made. -/
abbrev Reply : Type := Watched (Except Refusal Outcome)

namespace Step

/-- The answer to a step. -/
def perform (t : Packed Value) : Step → Reply
  | change c => (fun answer => answer.map .changed) <$> c.perform t
  | look l => (fun answer => answer.map .seen) <$> l.perform t

/-- The tuple after a step. -/
def next (t : Packed Value) (step : Step) : Packed Value :=
  match (step.perform t).value with
  | .ok (.changed next) => next
  | _ => t

/-- The answers to the steps of a run, and the tuple at its end. -/
def run (t : Packed Value) : List Step → List Reply × Packed Value
  | [] => ([], t)
  | step :: rest =>
    let (replies, final) := run (step.next t) rest
    (step.perform t :: replies, final)

end Step

end Polyad
