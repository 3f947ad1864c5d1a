import NewApi.Machinery.Traced
import NewApi.Billingexpr.Syntax

/-!
# Billingexpr/Run — running an expression and what the run records

`runProgram` (`pkg/billingexpr/run.go`) runs a tree in an environment of token counts, request
probes and functions.  `tier`, `fixed` and the callbacks of request rules record that they were
called; nothing else does.  The expression language is a library: its operators, conversions and
other constructs are a `Language`, and its numbers are any `Float64`.

* `eval_related` — two runs of one shape are related when their names, calls and conditionals are.
-/

namespace Billingexpr

open Traced List Node Option

variable {F : Type}

/-! ## Token counts -/

/-- The token counts of a request, by the names an expression has for them. -/
structure TokenParams (F : Type) where
  p : F
  c : F
  len : F
  cr : F
  cc : F
  cc1h : F
  img : F
  imgCR : F
  imgO : F
  ai : F
  ao : F
  deriving DecidableEq

/-- The names of the token counts. -/
def tokenVars : List String :=
  ["p", "c", "len", "cr", "cc", "cc1h", "img", "img_cr", "img_o", "ai", "ao"]

/-- The token counts in the order of their names. -/
def TokenParams.values (t : TokenParams F) : List F :=
  [t.p, t.c, t.len, t.cr, t.cc, t.cc1h, t.img, t.imgCR, t.imgO, t.ai, t.ao]

/-- A token count by its name. -/
def TokenParams.lookup (t : TokenParams F) (name : String) : Option F :=
  (tokenVars.zip t.values).lookup name

/-! ## Values -/

/-- What a request, a literal or an operator gives. -/
inductive Data (F : Type) where
  | nil
  | bool (value : Bool)
  | int (value : ℤ)
  | float (value : F)
  | str (value : String)
  /-- An array, a map or any other object without functions. -/
  | object (id : ℕ)
  deriving DecidableEq

/-- The functions of the environment. -/
inductive Function where
  | tier | fixed | trace | traceInt
  /-- A probe or a helper, which records nothing. -/
  | plain (name : String)
  /-- No function of the program: it notes what becomes of a rule. -/
  | observe
  deriving DecidableEq

/-- What an expression evaluates to. -/
inductive Value (F : Type) where
  | data (value : Data F)
  | function (value : Function)
  /-- An array or a map with functions in it. -/
  | holder (id : ℕ) (functions : List Function)
  /-- `$env`, the environment as an object. -/
  | environment
  deriving DecidableEq

/-- What a run records. -/
inductive Event (F : Type) where
  | tier (name : String) (value : F)
  | fixed (amount : F)
  /-- A rule holds. -/
  | matched (rule : ℕ)
  /-- A rule between an integer and a float gives the integer. -/
  | changed
  deriving DecidableEq

/-- Every function the value gives access to is `ok`. -/
def Value.Inert (ok : Function → Prop) : Value F → Prop
  | data _ => True
  | function f => ok f
  | holder _ functions => ∀ f ∈ functions, ok f
  | environment => False

/-- Values declared in the expression. -/
abbrev Locals (F : Type) := List (String × Value F)

/-- …all of them harmless. -/
def InertLocals (ok : Function → Prop) (σ : Locals F) : Prop := ∀ b ∈ σ, b.2.Inert ok

/-! ## The language -/

/-- The expression language: what it does with values. -/
structure Language (F : Type) where
  /-- The left operand alone decides `&&`, `||` and `??`. -/
  settled : Operator → Value F → Option (Value F)
  operate : Operator → Value F → Value F → Option (Value F)
  fetch : Value F → Value F → Option (Value F)
  /-- An argument for a parameter of type `float64`. -/
  toFloat : Value F → Option F
  construct : String → Locals F → List (Locals F → Traced (Event F) (Value F)) →
    Traced (Event F) (Value F)

/-- **What the language promises.**  Values come from values, and a construct does nothing but run
its parts: what holds of them holds of it. -/
structure Language.Lawful (L : Language F) : Prop where
  settled_inert : ∀ ok op a v, a.Inert ok → L.settled op a = some v → v.Inert ok
  operate_inert : ∀ ok op a b v, a.Inert ok → b.Inert ok → L.operate op a b = some v → v.Inert ok
  fetch_inert : ∀ ok v k w, v.Inert ok → L.fetch v k = some w → w.Inert ok
  construct_respects : ∀ {ok R}, Respects (Value.Inert ok) R → ∀ kind σ {xs ys}, InertLocals ok σ →
    Forall₂ (fun x y => ∀ τ, InertLocals ok τ → R (x τ) (y τ)) xs ys →
      R (L.construct kind σ xs) (L.construct kind σ ys)
  toFloat_float : ∀ x, L.toFloat (.data (.float x)) = some x

/-! ## The environment -/

/-- `RequestInput`, with the probes already read: a probe or helper by its name and arguments. -/
structure RequestInput (F : Type) where
  probe : String → List (Value F) → Option (Data F) := fun _ _ => none
  imageCount : Option ℤ := none

/-- The environment of one run. -/
structure Env (F : Type) where
  params : TokenParams F
  imageCount : F
  /-- How many rules are traced. -/
  rules : ℕ
  request : RequestInput F

/-- The probes and the helpers. -/
def plainNames : List String :=
  ["param", "header", "u", "has", "hour", "minute", "weekday", "month", "day", "max", "min", "abs",
    "ceil", "floor"]

/-- The function of a name. -/
def functionOf (name : String) : Option Function :=
  if name = "tier" then some .tier
  else if name = "fixed" then some .fixed
  else if name = requestRuleTraceFunction then some .trace
  else if name = requestRuleTraceIntFunction then some .traceInt
  else if name = "" then some .observe
  else if name ∈ plainNames then some (.plain name)
  else none

/-- What an identifier stands for outside local declarations. -/
def Env.lookup (ρ : Env F) (name : String) : Option (Value F) :=
  if name = "$env" then some .environment
  else if name = "image_count" then some (.data (.float ρ.imageCount))
  else match ρ.params.lookup name with
    | some x => some (.data (.float x))
    | none => (functionOf name).map .function

/-- A key of an object, `$env` among them. -/
def Env.fetch (L : Language F) (ρ : Env F) : Value F → Value F → Option (Value F)
  | .environment, .data (.str name) => ρ.lookup name
  | v, k => L.fetch v k

variable {L : Language F} {ρ ρ' : Env F} {ok : Function → Prop}

/-- A local of harmless locals is harmless. -/
theorem locals_lookup_inert {σ : Locals F} (hσ : InertLocals ok σ) {name : String} {v : Value F}
    (h : σ.lookup name = some v) : v.Inert ok := by
  induction σ with
  | nil => cases h
  | cons b σ ih =>
    obtain ⟨hb, hrest⟩ := forall_mem_cons.1 hσ
    rw [lookup_cons] at h
    split at h
    · cases h
      exact hb
    · exact ih hrest h

/-- A key of a harmless value does not depend on the environment. -/
theorem fetch_eq {v k : Value F} (hv : v.Inert ok) : ρ'.fetch L v k = ρ.fetch L v k := by
  cases v with
  | environment => exact hv.elim
  | _ => rfl

/-- A conditional goes on with one of its branches. -/
def branch (c : Value F) (x y : Traced (Event F) (Value F)) : Traced (Event F) (Value F) :=
  match c with
  | .data (.bool true) => x
  | .data (.bool false) => y
  | _ => fail

/-- Branches that are related make related conditionals. -/
theorem respects_branch {R : Traced (Event F) (Value F) → Traced (Event F) (Value F) → Prop}
    (hR : Respects (Value.Inert ok) R) (c : Value F) {x y x' y' : Traced (Event F) (Value F)}
    (hx : R x x') (hy : R y y') : R (branch c x y) (branch c x' y') := by
  unfold branch
  split
  · exact hx
  · exact hy
  · exact hR.failure

/-- The trace callbacks: a rule that holds gives its multiplier, any other gives one. -/
def traceRule (rules : ℕ) (ruleIndex : ℤ) (matched : Bool) (multiplier one : Data F) :
    Traced (Event F) (Value F) :=
  if matched then
    done (.data multiplier) (if 0 ≤ ruleIndex ∧ ruleIndex < rules then [.matched ruleIndex.toNat]
      else [])
  else done (.data one) []

/-- A rule that is traced gives its multiplier or one. -/
theorem traceRule_eq {i : ℕ} (hi : i < ρ.rules) (b : Bool) (m one : Data F) :
    traceRule ρ.rules i b m one =
      branch (.data (.bool b)) (done (.data m) [.matched i]) (done (.data one) []) := by
  have hrange : (0 : ℤ) ≤ i ∧ (i : ℤ) < ρ.rules := ⟨by omega, by omega⟩
  rw [traceRule, if_pos hrange, Int.toNat_natCast]
  cases b <;> rfl

/-! ## Names -/

/-- The names mean the same in both environments, and nothing but `ok` functions. -/
def Named (ok : Function → Prop) (ρ ρ' : Env F) (names : List String) : Prop :=
  ∀ name ∈ names, ρ'.lookup name = ρ.lookup name ∧ ∀ v, ρ.lookup name = some v → v.Inert ok

/-- A name of the environment is harmless unless it is `$env` or a function that is not `ok`. -/
theorem lookup_inert {name : String} (henv : name ≠ "$env")
    (hok : ∀ f, functionOf name = some f → ok f) {v : Value F} (h : ρ.lookup name = some v) :
    v.Inert ok := by
  rw [Env.lookup, if_neg henv] at h
  split at h
  · cases h
    trivial
  · split at h
    · cases h
      trivial
    · obtain ⟨f, hf, rfl⟩ := map_eq_some_iff.1 h
      exact hok f hf

/-- Not a callback. -/
def Function.Recorded (f : Function) : Prop := f ≠ .trace ∧ f ≠ .traceInt ∧ f ≠ .observe

/-- Names that are not reserved are those of no callback. -/
theorem named_of_unreserved {names : List String} (hres : Unreserved names)
    (henv : "$env" ∉ names) : Named Function.Recorded ρ ρ names := by
  refine fun name hname => ⟨rfl, fun v => lookup_inert (fun heq => henv (heq ▸ hname)) ?_⟩
  obtain ⟨h₁, h₂, h₃⟩ := hres name hname
  intro f hf
  rw [functionOf, if_neg h₁, if_neg h₂, if_neg h₃] at hf
  split_ifs at hf <;> cases hf <;> exact ⟨nofun, nofun, nofun⟩

/-- No token count has another name. -/
theorem TokenParams.lookup_eq_none {t : TokenParams F} {name : String} (h : name ∉ tokenVars) :
    t.lookup name = none := by
  rw [TokenParams.lookup, lookup_eq_none_iff]
  intro b hb
  have hmem : b.1 ∈ tokenVars := (of_mem_zip (a := b.1) (b := b.2) hb).1
  exact bne_iff_ne.2 fun heq => h (heq ▸ hmem)

variable [Float64 F]

/-- Call a function of the environment. -/
def Env.apply (L : Language F) (ρ : Env F) : Function → List (Value F) → Traced (Event F) (Value F)
  | .tier, [.data (.str name), value] =>
    ofOption (L.toFloat value) >>= fun x => done (.data (.float x)) [.tier name x]
  | .fixed, [amount] =>
    ofOption (L.toFloat amount) >>= fun a => done (.data (.float (v1Value a))) [.fixed a]
  | .trace, [.data (.int ruleIndex), .data (.bool matched), multiplier] =>
    ofOption (L.toFloat multiplier) >>= fun m =>
      traceRule ρ.rules ruleIndex matched (.float m) (.float 1)
  | .traceInt, [.data (.int ruleIndex), .data (.bool matched), .data (.int multiplier)] =>
    traceRule ρ.rules ruleIndex matched (.int multiplier) (.int 1)
  | .observe, [.data (.int ruleIndex), .data (.bool matched), .data (.bool changed), value] =>
    done value ((if matched then [.matched ruleIndex.toNat] else []) ++
      if changed then [.changed] else [])
  | .plain name, arguments => ofOption ((ρ.request.probe name arguments).map .data)
  | _, _ => fail

/-- Call a value. -/
def Env.invoke (L : Language F) (ρ : Env F) : Value F → List (Value F) → Traced (Event F) (Value F)
  | .function f, arguments => ρ.apply L f arguments
  | _, _ => fail

/-! ## Evaluation -/

mutual

/-- Evaluation, in the order the program runs it. -/
def eval (L : Language F) (ρ : Env F) : Node F → Locals F → Traced (Event F) (Value F)
  | .nil, _ => pure (.data .nil)
  | .bool b, _ => pure (.data (.bool b))
  | .integer n, _ => pure (.data (.int n))
  | .float x, _ => pure (.data (.float x))
  | .string s, _ => pure (.data (.str s))
  | .identifier name, σ => ofOption (ρ.lookup name <|> σ.lookup name)
  | .binary op left right, σ => do
    let a ← eval L ρ left σ
    match L.settled op a with
    | some v => pure v
    | none =>
      let b ← eval L ρ right σ
      ofOption (L.operate op a b)
  | .conditional _ cond exp1 exp2, σ => do
    let c ← eval L ρ cond σ
    branch c (eval L ρ exp1 σ) (eval L ρ exp2 σ)
  | .member node property, σ => do
    let v ← eval L ρ node σ
    let k ← eval L ρ property σ
    ofOption (ρ.fetch L v k)
  | .call callee arguments, σ =>
    withAll ((evalAll L ρ arguments).map fun x => x σ) fun values => do
      let f ← eval L ρ callee σ
      ρ.invoke L f values
  | .construct kind children, σ => L.construct kind σ (evalAll L ρ children)

/-- The children of a construct, to be run with the locals it declares. -/
def evalAll (L : Language F) (ρ : Env F) :
    List (Node F) → List (Locals F → Traced (Event F) (Value F))
  | [] => []
  | node :: nodes => (fun σ => eval L ρ node σ) :: evalAll L ρ nodes

end

/-! ## Literals and functions -/

/-- The value of a literal. -/
def literal : Node F → Data F
  | integer n => .int n
  | float x => .float x
  | _ => .nil

/-- A literal is its value. -/
theorem eval_literal {node : Node F} {m : F} (h : requestRuleNumber node = some m) (σ : Locals F) :
    eval L ρ node σ = done (.data (literal node)) [] := by
  cases node with
  | integer n => rw [eval]; rfl
  | float x => rw [eval]; rfl
  | _ => cases h

/-- A function of the environment by its name. -/
theorem eval_functionOf {name : String} {f : Function} {σ : Locals F}
    (henv : name ∉ "$env" :: "image_count" :: tokenVars) (hf : functionOf name = some f) :
    eval L ρ (identifier name) σ = done (.function f) [] := by
  rw [mem_cons, mem_cons, not_or, not_or] at henv
  rw [eval, Env.lookup, if_neg henv.1, if_neg henv.2.1, TokenParams.lookup_eq_none henv.2.2, hf]
  rfl

/-! ## Two runs of one shape -/

omit [Float64 F] in
/-- A key of a harmless value is harmless. -/
theorem fetch_inert (hL : L.Lawful) {v k w : Value F} (hv : v.Inert ok)
    (h : ρ.fetch L v k = some w) : w.Inert ok := by
  cases v with
  | environment => exact hv.elim
  | _ => exact hL.fetch_inert ok _ _ _ hv h

/-- Two runs of one shape: `R` is kept by values, sequencing and calls, and holds of what has become
of a conditional as soon as it holds of its parts. -/
structure Alike (L : Language F) (ρ ρ' : Env F) (ok : Function → Prop)
    (R : Traced (Event F) (Value F) → Traced (Event F) (Value F) → Prop) (v w : Visitor F)
    (bound : ℕ) : Prop where
  lawful : L.Lawful
  respects : Respects (Value.Inert ok) R
  invoke : ∀ f values, f.Inert ok → (∀ a ∈ values, a.Inert ok) →
    R (ρ.invoke L f values) (ρ'.invoke L f values)
  visit : ∀ ternary cond exp1 exp2 n₀ n₁ n₂ i σ, i + ruleCount ternary cond exp1 exp2 ≤ bound →
    R (eval L ρ (walk v cond n₀) σ) (eval L ρ' (walk w cond n₀) σ) →
    R (eval L ρ (walk v exp1 n₁) σ) (eval L ρ' (walk w exp1 n₁) σ) →
    R (eval L ρ (walk v exp2 n₂) σ) (eval L ρ' (walk w exp2 n₂) σ) →
    R (eval L ρ (v ternary cond exp1 exp2 (walk v cond n₀) (walk v exp1 n₁) (walk v exp2 n₂) i) σ)
      (eval L ρ'
        (w ternary cond exp1 exp2 (walk w cond n₀) (walk w exp1 n₁) (walk w exp2 n₂) i) σ)

variable {R : Traced (Event F) (Value F) → Traced (Event F) (Value F) → Prop} {v w : Visitor F}
  {bound : ℕ}

mutual

/-- **Two runs of one shape are related.** -/
theorem eval_related (h : Alike L ρ ρ' ok R v w bound) : ∀ (node : Node F) (n : ℕ) (σ : Locals F), Named ok ρ ρ' node.identifiers →
    n + node.rules ≤ bound → InertLocals ok σ →
      R (eval L ρ (walk v node n) σ) (eval L ρ' (walk w node n) σ)
  | .nil, _, _, _, _, _ | .bool _, _, _, _, _, _ | .integer _, _, _, _, _, _
  | .float _, _, _, _, _, _ | .string _, _, _, _, _, _ => by
    simp only [walk, eval]
    exact h.respects.value _ trivial
  | .identifier name, n, σ, hnames, _, hσ => by
    obtain ⟨heq, hinert⟩ := hnames name (mem_singleton_self name)
    simp only [walk, eval]
    rw [heq]
    refine h.respects.ofOption fun v hv => ?_
    cases hρ : ρ.lookup name with
    | none => exact locals_lookup_inert hσ (by rwa [hρ] at hv)
    | some w =>
      rw [hρ] at hv
      cases hv
      exact hinert _ hρ
  | .binary op left right, n, σ, hnames, hn, hσ => by
    rw [identifiers, Named, forall_mem_append] at hnames
    rw [rules] at hn
    simp only [walk, eval]
    refine h.respects.sequence (eval_related h left n σ hnames.1 (by omega) hσ) fun a ha => ?_
    cases hs : L.settled op a with
    | some d => exact h.respects.value d (h.lawful.settled_inert ok op a d ha hs)
    | none =>
      refine h.respects.sequence (eval_related h right _ σ hnames.2 (by omega) hσ) fun b hb => ?_
      exact h.respects.ofOption fun d hd => h.lawful.operate_inert ok op a b d ha hb hd
  | .conditional ternary cond exp1 exp2, n, σ, hnames, hn, hσ => by
    rw [identifiers, Named, forall_mem_append, forall_mem_append] at hnames
    rw [rules] at hn
    rw [walk, walk]
    exact h.visit ternary cond exp1 exp2 _ _ _ _ σ (by omega)
      (eval_related h cond n σ hnames.1 (by omega) hσ)
      (eval_related h exp1 _ σ hnames.2.1 (by omega) hσ)
      (eval_related h exp2 _ σ hnames.2.2 (by omega) hσ)
  | .member node property, n, σ, hnames, hn, hσ => by
    rw [identifiers, Named, forall_mem_append] at hnames
    rw [rules] at hn
    simp only [walk, eval]
    refine h.respects.sequence (eval_related h node n σ hnames.1 (by omega) hσ) fun a ha => ?_
    refine h.respects.sequence (eval_related h property _ σ hnames.2 (by omega) hσ) fun k _ => ?_
    rw [fetch_eq ha]
    exact h.respects.ofOption fun d hd => fetch_inert h.lawful ha hd
  | .call callee arguments, n, σ, hnames, hn, hσ => by
    rw [identifiers, Named, forall_mem_append] at hnames
    rw [rules] at hn
    simp only [walk, eval]
    refine h.respects.withAll ?_ fun values hvalues => ?_
    · rw [forall₂_map_left_iff, forall₂_map_right_iff]
      exact (evalAll_related h arguments _ hnames.2 (by omega)).imp fun _ _ hx => hx σ hσ
    · refine h.respects.sequence (eval_related h callee n σ hnames.1 (by omega) hσ) fun f hf => ?_
      exact h.invoke f values hf hvalues
  | .construct kind children, n, σ, hnames, hn, hσ => by
    rw [rules] at hn
    rw [walk, walk, eval, eval]
    exact h.lawful.construct_respects h.respects kind σ hσ (evalAll_related h children n hnames hn)

theorem evalAll_related (h : Alike L ρ ρ' ok R v w bound) : ∀ (nodes : List (Node F)) (n : ℕ),
    Named ok ρ ρ' (identifiersAll nodes) → n + rulesAll nodes ≤ bound →
      Forall₂ (fun x y => ∀ τ, InertLocals ok τ → R (x τ) (y τ))
        (evalAll L ρ (walkAll v nodes n)) (evalAll L ρ' (walkAll w nodes n))
  | [], _, _, _ => .nil
  | node :: nodes, n, hnames, hn => by
    rw [identifiersAll, Named, forall_mem_append] at hnames
    rw [rulesAll] at hn
    rw [walkAll, walkAll, evalAll, evalAll]
    exact .cons (fun τ hτ => eval_related h node n τ hnames.1 (by omega) hτ)
      (evalAll_related h nodes _ hnames.2 (by omega))

end

/-- What a call gives is data, or one of its arguments. -/
theorem invoke_all {P : Value F → Prop} (hdata : ∀ d, P (.data d)) (f : Value F)
    {values : List (Value F)} (hvalues : ∀ a ∈ values, P a) : (ρ.invoke L f values).All P := by
  have htrace : ∀ rules i b (m one : Data F), (traceRule rules i b m one).All P := by
    intro rules i b m one
    cases b <;> exact all_done (hdata _) _
  have hany : ∀ {α : Type} (x : Traced (Event F) α), x.All fun _ => True := fun _ _ _ _ => trivial
  cases f with
  | function f =>
    rw [Env.invoke]
    unfold Env.apply
    split
    · exact (hany _).bind fun x _ => all_done (hdata _) _
    · exact (hany _).bind fun x _ => all_done (hdata _) _
    · exact (hany _).bind fun x _ => htrace _ _ _ _ _
    · exact htrace _ _ _ _ _
    · exact all_done (hvalues _ (by simp)) _
    · intro v t h
      obtain ⟨d, -, rfl⟩ := map_eq_some_iff.1 (ofOption_eq_done h).1
      exact hdata d
    · exact all_failed []
  | _ => exact all_failed []

/-! ## The language on numbers -/

/-- Exact numbers. -/
scoped instance ratFloat64 : Float64 ℚ where
  one := 1
  decEq := instDecidableEqRat

theorem rat_lawful : Float64.Lawful ℚ where
  cast_eq_one _ hn := Rat.intCast_inj.1 (hn.trans Rat.intCast_one.symm)

/-- The value of a number. -/
def Value.number : Value ℚ → Option ℚ
  | data (.int n) => some n
  | data (.float x) => some x
  | _ => none

/-- Products and comparisons of numbers, and remainders of integers. -/
def Operator.number : Operator → Value ℚ → Value ℚ → Option (Data ℚ)
  | .mul, .data (.int a), .data (.int b) => some (.int (a * b))
  | .mul, a, b => do return .float ((← a.number) * (← b.number))
  | .other "%", .data (.int a), .data (.int b) => if b = 0 then none else some (.int (a.tmod b))
  | .other ">=", a, b => do return .bool ((← b.number) ≤ (← a.number))
  | .other "==", a, b =>
    -- an integer equals the float of its value
    match a.number, b.number with
    | some x, some y => some (.bool (x = y))
    | _, _ => some (.bool (a = b))
  | _, _, _ => none

/-- The language without its other operators and constructs. -/
def numbers : Language ℚ where
  settled _ _ := none
  operate op a b := (op.number a b).map .data
  fetch _ _ := none
  toFloat := Value.number
  construct _ _ _ := fail

theorem numbers_lawful : numbers.Lawful where
  settled_inert ok op a v _ h := by cases h
  operate_inert ok op a b v _ _ h := by
    obtain ⟨d, -, rfl⟩ := map_eq_some_iff.1 h
    trivial
  fetch_inert ok v k w _ h := by cases h
  construct_respects hR _ _ _ _ _ _ := hR.failure
  toFloat_float _ := rfl

end Billingexpr
