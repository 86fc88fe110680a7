import Polyad.Proofs.Family.Positions
/-!
Which type parameters some tokens mention. They are told from other words by their
spelling, one capital letter and perhaps a number.
-/

namespace Polyad

namespace Code

mutual

/-- The words of a token, those of a group included. -/
def Token.allWords : Token → List String
  | .word text | .joined text => [text]
  | .group _ inner => allWords inner

def allWords : List Token → List String
  | [] => []
  | token :: rest => token.allWords ++ allWords rest

end

/-- Type parameters are spelled with one capital letter and perhaps a number. -/
def isParam (word : String) : Bool :=
  match word.toList with
  | [] => false
  | c :: digits => c.isUpper && digits.all Char.isDigit

theorem isParam_numberedName {stem : String} (hstem : stem ≠ "") (number : Nat) :
    isParam (numberedName stem number) = isParam stem := by
  have hnumber : (toString number).toList.all Char.isDigit = true := by
    rw [List.all_eq_true]
    intro c hc
    exact isDigit_of_mem_toString hc
  have hname : (numberedName stem number).toList = stem.toList ++ (toString number).toList := by
    rw [numberedName, String.toList_append]
  rw [isParam, isParam, hname]
  cases hlist : stem.toList with
  | nil => exact absurd (String.toList_inj.mp hlist) hstem
  | cons c digits => simp only [List.cons_append, List.all_append, hnumber, Bool.and_true]

theorem isParam_of_mem_series {stem : String} (hstem : isParam stem = true) {count : Nat} :
    ∀ name ∈ series stem count, isParam name = true := by
  intro name hname
  obtain ⟨k, -, rfl⟩ := List.mem_map.mp hname
  rw [isParam_numberedName, hstem]
  rintro rfl
  cases hstem

theorem isParam_tupleName (n : Nat) : isParam (tupleName n) = false := by
  have hstem : isParam (numberedName "Tuple" n) = isParam "Tuple" :=
    isParam_numberedName (by decide) n
  rw [tupleName, ← numberedName, hstem]
  decide

theorem isUpper_of_isDigit {c : Char} (hdigit : c.isDigit = true) : c.isUpper = false := by
  change (decide ('0'.val ≤ c.val) && decide (c.val ≤ '9'.val)) = true at hdigit
  change decide ('A'.val ≤ c.val ∧ c.val ≤ 'Z'.val) = false
  have hlow : c.val ≤ '9'.val := of_decide_eq_true (Bool.and_eq_true_iff.mp hdigit).2
  refine decide_eq_false ?_
  rintro ⟨hletter, -⟩
  exact absurd (UInt32.le_trans hletter hlow) (by decide)

/-- A literal starts with a digit. -/
theorem isParam_sizeLiteral (value : Nat) : isParam (sizeLiteral value) = false := by
  obtain ⟨c, rest, hdigits⟩ := List.exists_cons_of_ne_nil (toList_toString_ne_nil value)
  have hmem : c ∈ (toString value).toList := hdigits ▸ List.mem_cons_self
  have hlist : (sizeLiteral value).toList = c :: (rest ++ "usize".toList) := by
    rw [sizeLiteral, String.toList_append, hdigits, List.cons_append]
  rw [isParam, hlist]
  simp only [isUpper_of_isDigit (isDigit_of_mem_toString hmem), Bool.false_and]

/-- Every type parameter that some tokens mention is in scope. -/
def Covers (scope : List String) (tokens : List Token) : Prop :=
  ∀ word ∈ allWords tokens, isParam word = true → word ∈ scope

section Covers

variable {scope : List String}

@[simp] theorem covers_nil : Covers scope [] := by
  simp [Covers, allWords]

@[simp] theorem covers_append {left right : List Token} :
    Covers scope (left ++ right) ↔ Covers scope left ∧ Covers scope right := by
  have hwords : allWords (left ++ right) = allWords left ++ allWords right := by
    induction left with
    | nil => rfl
    | cons token rest ih => simp [allWords, ih]
  simp [Covers, hwords, or_imp, forall_and]

theorem covers_cons {token : Token} {rest : List Token} :
    Covers scope (token :: rest) ↔ Covers scope [token] ∧ Covers scope rest := by
  rw [← List.singleton_append, covers_append]

@[simp] theorem covers_word {text : String} {rest : List Token} :
    Covers scope (.word text :: rest) ↔
      (isParam text = true → text ∈ scope) ∧ Covers scope rest := by
  rw [covers_cons]
  simp [Covers, allWords, Token.allWords]

@[simp] theorem covers_group {bracket : Bracket} {inner rest : List Token} :
    Covers scope (.group bracket inner :: rest) ↔ Covers scope inner ∧ Covers scope rest := by
  rw [covers_cons]
  simp [Covers, allWords, Token.allWords]

theorem covers_flatMap {α : Type} {l : List α} {f : α → List Token} :
    Covers scope (l.flatMap f) ↔ ∀ a ∈ l, Covers scope (f a) := by
  induction l with
  | nil => simp
  | cons a rest ih => simp [ih]

@[simp] theorem covers_words {texts : List String} :
    Covers scope (words texts) ↔ ∀ text ∈ texts, isParam text = true → text ∈ scope := by
  rw [words, List.map_eq_flatMap, covers_flatMap]
  simp

/-- What stands between the parts is no parameter. -/
@[simp] theorem covers_separated {parts : List (List Token)} :
    Covers scope (separated parts) ↔ ∀ part ∈ parts, Covers scope part := by
  have hcomma : isParam "," = false := by decide
  induction parts with
  | nil => simp [separated]
  | cons part rest ih =>
    cases rest with
    | nil => simp [separated]
    | cons next rest => simp [separated, hcomma, ih]

@[simp] theorem covers_terminated {parts : List (List Token)} :
    Covers scope (terminated parts) ↔ ∀ part ∈ parts, Covers scope part := by
  have hcomma : isParam "," = false := by decide
  rw [terminated, covers_flatMap]
  simp [hcomma]

@[simp] theorem covers_angled {parts : List (List Token)} :
    Covers scope (angled parts) ↔ ∀ part ∈ parts, Covers scope part := by
  have hopen : isParam "<" = false := by decide
  have hclose : isParam ">" = false := by decide
  cases parts with
  | nil => simp [angled]
  | cons part rest => simp [angled, hopen, hclose]

@[simp] theorem covers_parenthesized {inner : List Token} :
    Covers scope (parenthesized inner) ↔ Covers scope inner := by
  simp [parenthesized]

@[simp] theorem covers_braced {inner : List Token} :
    Covers scope (braced inner) ↔ Covers scope inner := by
  simp [braced]

theorem covers_allWords (tokens : List Token) : Covers (allWords tokens) tokens :=
  fun _ hword _ => hword

theorem Covers.mono {wider : List String} {tokens : List Token} (hcovers : Covers scope tokens)
    (hscope : scope ⊆ wider) : Covers wider tokens :=
  fun word hword hparam => hscope (hcovers word hword hparam)

@[simp] theorem covers_steps {segments : List String} :
    Covers scope (Path.steps segments) ↔
      ∀ segment ∈ segments, isParam segment = true → segment ∈ scope := by
  have hcolons : isParam "::" = false := by decide
  rw [Path.steps, covers_flatMap]
  simp [hcolons]

namespace Ty

variable {args : List Ty}

@[simp] theorem covers_param {name : String} :
    Covers scope (param name).tokens ↔ (isParam name = true → name ∈ scope) := by
  simp [tokens]

@[simp] theorem covers_path {p : Path} :
    Covers scope (path p args).tokens ↔
      Covers scope p.tokens ∧ ∀ arg ∈ args, Covers scope arg.tokens := by
  simp [tokens, tokensEach_eq_map]

@[simp] theorem covers_tuple :
    Covers scope (tuple args).tokens ↔ ∀ arg ∈ args, Covers scope arg.tokens := by
  simp [tokens, tokensEach_eq_map, tupleShape, isParam_tupleName]

@[simp] theorem covers_native :
    Covers scope (native args).tokens ↔ ∀ arg ∈ args, Covers scope arg.tokens := by
  simp [tokens, tokensEach_eq_map]

@[simp] theorem covers_ref {target : Ty} :
    Covers scope (ref target).tokens ↔ Covers scope target.tokens := by
  have hamp : isParam "&" = false := by decide
  simp [tokens, hamp]

@[simp] theorem covers_refMut {target : Ty} :
    Covers scope (refMut target).tokens ↔ Covers scope target.tokens := by
  have hamp : isParam "&" = false := by decide
  have hmut : isParam "mut" = false := by decide
  simp [tokens, hamp, hmut]

@[simp] theorem covers_callable {kind : Callable} {output : Ty} :
    Covers scope (callable kind args output).tokens ↔
      (∀ arg ∈ args, Covers scope arg.tokens) ∧ Covers scope output.tokens := by
  have hname : isParam kind.name = false := by cases kind <;> decide
  have harrow : isParam "->" = false := by decide
  simp [tokens, tokensEach_eq_map, hname, harrow]

@[simp] theorem covers_some {bound : Ty} :
    Covers scope (some bound).tokens ↔ Covers scope bound.tokens := by
  have himpl : isParam "impl" = false := by decide
  simp [tokens, himpl]

@[simp] theorem covers_option {inner : Ty} :
    Covers scope (option inner).tokens ↔ Covers scope inner.tokens := by
  simp +decide [option, Path.tokens]

@[simp] theorem covers_result {value error : Ty} :
    Covers scope (result value error).tokens ↔
      Covers scope value.tokens ∧ Covers scope error.tokens := by
  simp +decide [result, Path.tokens]

@[simp] theorem covers_iterator {item : Ty} :
    Covers scope (iterator item).tokens ↔ Covers scope item.tokens := by
  simp +decide [tokens, Path.tokens]

@[simp] theorem covers_openLifetime : Covers scope openLifetime.tokens := by
  simp +decide [tokens]

@[simp] theorem covers_size : Covers scope size.tokens := by
  simp +decide [size, Path.tokens]

@[simp] theorem covers_ordering : Covers scope ordering.tokens := by
  simp +decide [ordering, known, Path.tokens]

@[simp] theorem covers_self : Covers scope self.tokens := by
  simp +decide [self, Path.tokens]

@[simp] theorem covers_ofSelf {name : String} :
    Covers scope (ofSelf name).tokens ↔ (isParam name = true → name ∈ scope) := by
  simp +decide [ofSelf, Path.tokens]

end Ty

end Covers

end Code

end Polyad
