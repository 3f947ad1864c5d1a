import Mathlib.Algebra.Order.Ring.Rat
import Mathlib.Tactic.NormNum.Basic

/-!
# Billingexpr/Syntax — the trees of billing expressions

`pkg/billingexpr/compile.go` parses an expression into a tree of the expression language and walks
it: `ast.Find` looks for identifiers, wherever they stand, and `requestRulePatcher` replaces request
rules.  The nodes those walks tell apart have constructors of their own; every other construct of
the language is a `construct` with its children.
-/

namespace Billingexpr

/-- The 64-bit floats, as far as the charges use them. -/
class Float64 (F : Type) extends One F, Mul F, IntCast F where
  decEq : DecidableEq F

/-- Floats are compared. -/
scoped instance float64DecidableEq {F : Type} [Float64 F] : DecidableEq F := Float64.decEq

/-- What is relied on: no other integer is rounded to one. -/
structure Float64.Lawful (F : Type) [Float64 F] : Prop where
  cast_eq_one : ∀ n : ℤ, (n : F) = 1 → n = 1

/-- The binary operators. -/
inductive Operator where
  | mul
  | other (name : String)
  deriving DecidableEq

/-- A node of a parsed expression. -/
inductive Node (F : Type) where
  | nil
  | bool (value : Bool)
  | integer (value : ℤ)
  | float (value : F)
  | string (value : String)
  | identifier (value : String)
  | binary (operator : Operator) (left right : Node F)
  /-- `cond ? exp1 : exp2`, or with `ternary` false an `if`. -/
  | conditional (ternary : Bool) (cond exp1 exp2 : Node F)
  | member (node property : Node F)
  | call (callee : Node F) (arguments : List (Node F))
  /-- Unary operators, builtins, slices, chains, arrays, maps, predicates, declarations. -/
  | construct (kind : String) (children : List (Node F))

namespace Node

variable {F : Type}

mutual

/-- The identifiers `ast.Find` meets in a tree. -/
def identifiers : Node F → List String
  | nil | bool _ | integer _ | float _ | string _ => []
  | identifier value => [value]
  | binary _ left right => identifiers left ++ identifiers right
  | conditional _ cond exp1 exp2 => identifiers cond ++ (identifiers exp1 ++ identifiers exp2)
  | member node property => identifiers node ++ identifiers property
  | call callee arguments => identifiers callee ++ identifiersAll arguments
  | construct _ children => identifiersAll children

/-- …and in several. -/
def identifiersAll : List (Node F) → List String
  | [] => []
  | node :: nodes => identifiers node ++ identifiersAll nodes

end

/-- The functions that ask the request or the clock. -/
def requestProbes : List String := ["param", "header", "hour", "minute", "weekday", "month", "day"]

/-- The tree names a probe. -/
def usesRequestProbe (node : Node F) : Bool := node.identifiers.any requestProbes.contains

/-- The callback of a rule. -/
def requestRuleTraceFunction : String := "_trace"

/-- The callback of a rule between integers. -/
def requestRuleTraceIntFunction : String := "_trace_int"

/-- No name is reserved for the callbacks, or empty. -/
def Unreserved (names : List String) : Prop :=
  ∀ name ∈ names, name ≠ requestRuleTraceFunction ∧ name ≠ requestRuleTraceIntFunction ∧ name ≠ ""

instance (names : List String) : Decidable (Unreserved names) :=
  inferInstanceAs (Decidable (∀ name ∈ names, _))

variable [Float64 F]

/-- `requestRuleNumber`: the value of a numeric literal. -/
def requestRuleNumber : Node F → Option F
  | integer value => some value
  | float value => some value
  | _ => none

theorem identifiers_requestRuleNumber {node : Node F} {x : F} (h : requestRuleNumber node = some x) :
    node.identifiers = [] := by
  cases node with
  | integer n => rfl
  | float q => rfl
  | _ => cases h

/-- What `fixed` makes of an amount. -/
def v1Value (amount : F) : F := amount * (1000000 : ℤ)

/-! ## Request rules -/

/-- A conditional that is instrumented, and its multiplier. -/
def requestRule (ternary : Bool) (cond exp1 exp2 : Node F) : Option F :=
  if ternary && usesRequestProbe cond then
    match requestRuleNumber exp1, requestRuleNumber exp2 with
    | some multiplier, some fallback => if fallback = 1 then some multiplier else none
    | _, _ => none
  else none

/-- One where a conditional is a rule. -/
def ruleCount (ternary : Bool) (cond exp1 exp2 : Node F) : ℕ :=
  if (requestRule ternary cond exp1 exp2).isSome then 1 else 0

mutual

/-- How many rules a tree has. -/
def rules : Node F → ℕ
  | binary _ left right => rules left + rules right
  | conditional ternary cond exp1 exp2 =>
    rules cond + rules exp1 + rules exp2 + ruleCount ternary cond exp1 exp2
  | member node property => rules node + rules property
  | call callee arguments => rules callee + rulesAll arguments
  | construct _ children => rulesAll children
  | _ => 0

/-- How many rules several trees have. -/
def rulesAll : List (Node F) → ℕ
  | [] => 0
  | node :: nodes => rules node + rulesAll nodes

end

/-- What becomes of a conditional: from the conditional itself, its parts as they have been
rewritten, and the number of rules before it. -/
abbrev Visitor (F : Type) : Type :=
  Bool → (cond exp1 exp2 cond' exp1' exp2' : Node F) → ℕ → Node F

/-- Nothing becomes of it. -/
def keep : Visitor F := fun ternary _ _ _ cond exp1 exp2 _ => conditional ternary cond exp1 exp2

mutual

/-- A walk that leaves a node after its children, with the number of rules it has met before. -/
def walk (visit : Visitor F) : Node F → ℕ → Node F
  | binary op left right, n => binary op (walk visit left n) (walk visit right (n + rules left))
  | conditional ternary cond exp1 exp2, n =>
    visit ternary cond exp1 exp2 (walk visit cond n) (walk visit exp1 (n + rules cond))
      (walk visit exp2 (n + rules cond + rules exp1)) (n + rules cond + rules exp1 + rules exp2)
  | member node property, n => member (walk visit node n) (walk visit property (n + rules node))
  | call callee arguments, n =>
    call (walk visit callee n) (walkAll visit arguments (n + rules callee))
  | construct kind children, n => construct kind (walkAll visit children n)
  | nil, _ => nil
  | bool b, _ => bool b
  | integer i, _ => integer i
  | float x, _ => float x
  | string s, _ => string s
  | identifier name, _ => identifier name

/-- …of several trees, one after the other. -/
def walkAll (visit : Visitor F) : List (Node F) → ℕ → List (Node F)
  | [], _ => []
  | node :: nodes, n => walk visit node n :: walkAll visit nodes (n + rules node)

end

mutual

/-- A walk that changes nothing. -/
theorem walk_keep : ∀ (node : Node F) (n : ℕ), walk keep node n = node
  | .nil, _ | .bool _, _ | .integer _, _ | .float _, _ | .string _, _ | .identifier _, _ => by
    rw [walk]
  | .binary _ left right, _ => by rw [walk, walk_keep left, walk_keep right]
  | .conditional _ cond exp1 exp2, _ => by
    rw [walk, walk_keep cond, walk_keep exp1, walk_keep exp2, keep]
  | .member node property, _ => by rw [walk, walk_keep node, walk_keep property]
  | .call callee arguments, _ => by rw [walk, walk_keep callee, walkAll_keep arguments]
  | .construct _ children, _ => by rw [walk, walkAll_keep children]

theorem walkAll_keep : ∀ (nodes : List (Node F)) (n : ℕ), walkAll keep nodes n = nodes
  | [], _ => by rw [walkAll]
  | node :: nodes, _ => by rw [walkAll, walk_keep node, walkAll_keep nodes]

end

end Node

end Billingexpr
