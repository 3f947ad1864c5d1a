import NewApi.Billingexpr.Run

/-!
# Billingexpr/RequestRules — instrumenting request rules does not change what is computed

`requestRulePatcher` (`pkg/billingexpr/compile.go`) replaces every conditional of the shape
*request probe* `?` *literal* `: 1` by a call that also marks the rule as matched.  Rules are
numbered in the order in which the walk leaves them.  The original run is observed through the tree
whose rules note what becomes of them.

* `patched_preserves` — where no rule of the run gives an integer for which the callback gives a
  float, the rewritten tree computes the same and marks the rules whose condition was true.
-/

namespace Billingexpr

open Traced List Option Node

variable {F : Type} [Float64 F]

namespace Node

/-- An integer literal. -/
def isInteger : Node F → Bool
  | integer _ => true
  | _ => false

/-- `requestRulePatcher.Visit` at a conditional whose parts have been visited. -/
def visitConditional (ternary : Bool) (cond exp1 exp2 : Node F) (ruleIndex : ℕ) : Node F :=
  match requestRule ternary cond exp1 exp2 with
  | none => conditional ternary cond exp1 exp2
  | some multiplier =>
    if isInteger exp1 && isInteger exp2 then
      call (identifier requestRuleTraceIntFunction) [integer ruleIndex, cond, exp1]
    else
      call (identifier requestRuleTraceFunction) [integer ruleIndex, cond, float multiplier]

/-- `requestRulePatcher`. -/
def patcher : Visitor F := fun ternary _ _ _ cond exp1 exp2 ruleIndex =>
  visitConditional ternary cond exp1 exp2 ruleIndex

/-- The rewritten tree. -/
def patched (node : Node F) : Node F := walk patcher node 0

/-- A branch of a rule, with a note that it is taken. -/
def noted (ruleIndex : ℕ) (matched changed : Bool) (node : Node F) : Node F :=
  call (identifier "") [integer ruleIndex, bool matched, bool changed, node]

/-- A rule that notes what becomes of it: that it holds, and that it gives an integer although one of
its literals is a float. -/
def observer : Visitor F := fun ternary cond exp1 exp2 cond' exp1' exp2' ruleIndex =>
  if (requestRule ternary cond exp1 exp2).isSome then
    conditional ternary cond' (noted ruleIndex true (isInteger exp1 && !isInteger exp2) exp1')
      (noted ruleIndex false (isInteger exp2 && !isInteger exp1) exp2')
  else conditional ternary cond' exp1' exp2'

/-- The tree as it is, with notes. -/
def observed (node : Node F) : Node F := walk observer node 0

/-! ## What the walk keeps -/

/-- A rule has two literals, and the second is one. -/
theorem requestRule_eq_some {ternary : Bool} {cond exp1 exp2 : Node F} {m : F}
    (h : requestRule ternary cond exp1 exp2 = some m) :
    requestRuleNumber exp1 = some m ∧ requestRuleNumber exp2 = some 1 := by
  unfold requestRule at h
  split_ifs at h with hprobe
  split at h
  · split_ifs at h with hone
    cases h
    exact ⟨‹_›, hone ▸ ‹_›⟩
  · cases h

/-- A walk leaves a literal as it is. -/
theorem walk_literal {node : Node F} {m : F} (h : requestRuleNumber node = some m) (v : Visitor F)
    (n : ℕ) : walk v node n = node := by
  cases node with
  | integer a => rw [walk]
  | float x => rw [walk]
  | _ => cases h

/-- A rewritten conditional is no literal. -/
theorem requestRuleNumber_visitConditional (ternary : Bool) (cond exp1 exp2 : Node F) (i : ℕ) :
    requestRuleNumber (visitConditional ternary cond exp1 exp2 i) = none := by
  unfold visitConditional
  split
  · rfl
  · split_ifs <;> rfl

/-- The walk turns nothing into a literal. -/
theorem requestRuleNumber_walk (node : Node F) (n : ℕ) :
    requestRuleNumber (walk patcher node n) = requestRuleNumber node := by
  cases node with
  | conditional ternary cond exp1 exp2 => rw [walk]; exact requestRuleNumber_visitConditional ..
  | _ => simp only [walk, requestRuleNumber]

/-- The walk keeps a conditional's probes. -/
theorem probes_visitConditional (ternary : Bool) (cond exp1 exp2 : Node F) (i : ℕ) :
    usesRequestProbe (visitConditional ternary cond exp1 exp2 i) =
      (usesRequestProbe cond || (usesRequestProbe exp1 || usesRequestProbe exp2)) := by
  simp only [usesRequestProbe, visitConditional]
  cases h : requestRule ternary cond exp1 exp2 with
  | none => simp only [identifiers, any_append]
  | some m =>
    obtain ⟨h1, h2⟩ := requestRule_eq_some h
    have htrace : [requestRuleTraceFunction].any requestProbes.contains = false := by decide
    have hint : [requestRuleTraceIntFunction].any requestProbes.contains = false := by decide
    dsimp only
    split_ifs <;> simp only [identifiers, identifiersAll, identifiers_requestRuleNumber h1,
      identifiers_requestRuleNumber h2, any_append, htrace, hint, any_nil, Bool.or_false,
      Bool.false_or]

mutual

/-- The walk keeps the probes of a tree. -/
theorem probes_walk : ∀ (node : Node F) (n : ℕ),
    usesRequestProbe (walk patcher node n) = usesRequestProbe node
  | .nil, _ | .bool _, _ | .integer _, _ | .float _, _ | .string _, _ | .identifier _, _ => by
    rw [walk]
  | .binary _ left right, _ => by
    have hl := probes_walk left
    have hr := probes_walk right
    simp only [usesRequestProbe] at hl hr ⊢
    rw [walk, identifiers, identifiers, any_append, any_append, hl, hr]
  | .conditional ternary cond exp1 exp2, _ => by
    rw [walk, patcher, probes_visitConditional, probes_walk cond, probes_walk exp1,
      probes_walk exp2]
    simp only [usesRequestProbe, identifiers, any_append]
  | .member node property, _ => by
    have hn := probes_walk node
    have hp := probes_walk property
    simp only [usesRequestProbe] at hn hp ⊢
    rw [walk, identifiers, identifiers, any_append, any_append, hn, hp]
  | .call callee arguments, _ => by
    have hc := probes_walk callee
    simp only [usesRequestProbe] at hc ⊢
    rw [walk, identifiers, identifiers, any_append, any_append, hc, probes_walkAll arguments]
  | .construct _ children, _ => by
    simp only [usesRequestProbe]
    rw [walk, identifiers, identifiers, probes_walkAll children]

/-- …and of several. -/
theorem probes_walkAll : ∀ (nodes : List (Node F)) (n : ℕ),
    (identifiersAll (walkAll patcher nodes n)).any requestProbes.contains =
      (identifiersAll nodes).any requestProbes.contains
  | [], _ => rfl
  | node :: nodes, _ => by
    have hn := probes_walk node
    simp only [usesRequestProbe] at hn
    rw [walkAll, identifiersAll, identifiersAll, any_append, any_append, hn, probes_walkAll nodes]

end

/-- **Visiting the parts does not change whether a conditional is a rule.** -/
theorem requestRule_walk (ternary : Bool) (cond exp1 exp2 : Node F) (n₀ n₁ n₂ : ℕ) :
    requestRule ternary (walk patcher cond n₀) (walk patcher exp1 n₁) (walk patcher exp2 n₂) =
      requestRule ternary cond exp1 exp2 := by
  rw [requestRule, requestRule, probes_walk, requestRuleNumber_walk, requestRuleNumber_walk]

end Node

/-! ## A rule, its notes and its replacement -/

variable {L : Language F} {ρ : Env F} {σ : Locals F}

/-- A note runs the branch and records that it is taken. -/
theorem eval_noted {node : Node F} {m : F} (h : requestRuleNumber node = some m) (i : ℕ)
    (matched changed : Bool) :
    eval L ρ (noted i matched changed node) σ = done (.data (literal node))
      ((if matched then [.matched i] else []) ++ if changed then [.changed] else []) := by
  have hf : eval L ρ (identifier "") σ = done (.function .observe) [] :=
    eval_functionOf (by decide) rfl
  have hi : eval L ρ (integer i) σ = done (.data (.int i)) [] := by rw [eval]; rfl
  have hm : eval L ρ (Node.bool matched) σ = done (.data (.bool matched)) [] := by rw [eval]; rfl
  have hc : eval L ρ (Node.bool changed) σ = done (.data (.bool changed)) [] := by rw [eval]; rfl
  rw [noted, eval]
  simp only [evalAll, map_cons, map_nil, withAll, eval_literal h σ, hf, hi, hm, hc, done_nil_bind]
  rw [Env.invoke, Env.apply, Int.toNat_natCast]

/-- A callback goes by the condition. -/
theorem eval_traceCall {name : String} {f : Function}
    (hf : eval L ρ (identifier name) σ = done (.function f) []) {node : Node F} {d : Data F}
    (hnode : eval L ρ node σ = done (.data d) []) (i : ℕ) (cond : Node F) :
    eval L ρ (call (identifier name) [integer i, cond, node]) σ =
      (eval L ρ cond σ >>= fun c => ρ.apply L f [.data (.int i), c, .data d]) := by
  have hi : eval L ρ (integer i) σ = done (.data (.int i)) [] := by rw [eval]; rfl
  rw [eval]
  simp only [evalAll, map_cons, map_nil, withAll, hnode, hf, hi, done_nil_bind]
  rfl

variable {i : ℕ}

/-- The callback for integers. -/
theorem apply_traceInt (hi : i < ρ.rules) (c : Value F) (m : ℤ) :
    ρ.apply L .traceInt [.data (.int i), c, .data (.int m)] =
      branch c (done (.data (.int m)) [.matched i]) (done (.data (.int 1)) []) := by
  cases c with
  | data d =>
    cases d with
    | bool b => exact traceRule_eq hi b _ _
    | _ => rfl
  | _ => rfl

/-- The callback for floats. -/
theorem apply_trace (hL : L.Lawful) (hi : i < ρ.rules) (c : Value F) (m : F) :
    ρ.apply L .trace [.data (.int i), c, .data (.float m)] =
      branch c (done (.data (.float m)) [.matched i]) (done (.data (.float 1)) []) := by
  cases c with
  | data d =>
    cases d with
    | bool b =>
      rw [Env.apply, hL.toFloat_float]
      exact (done_nil_bind _ _).trans (traceRule_eq hi b _ _)
    | _ => rfl
  | _ => rfl

/-- **What the replacement of a rule does**: it gives the rule's literals, as floats unless both are
integers, and marks the rule where its condition is true. -/
theorem eval_visitConditional (hL : L.Lawful) (hF : Float64.Lawful F) (hi : i < ρ.rules)
    {ternary : Bool} {cond exp1 exp2 : Node F} {m : F}
    (h : requestRule ternary cond exp1 exp2 = some m) :
    ∃ d1 d2 : Data F, eval L ρ (visitConditional ternary cond exp1 exp2 i) σ =
        (eval L ρ cond σ >>= fun c =>
          branch c (done (.data d1) [.matched i]) (done (.data d2) [])) ∧
      ((isInteger exp1 && !isInteger exp2) = true ∨ d1 = literal exp1) ∧
      ((isInteger exp2 && !isInteger exp1) = true ∨ d2 = literal exp2) := by
  obtain ⟨h1, h2⟩ := requestRule_eq_some h
  have hfloat : eval L ρ (call (identifier requestRuleTraceFunction) [integer i, cond, float m]) σ =
      (eval L ρ cond σ >>= fun c =>
        branch c (done (.data (.float m)) [.matched i]) (done (.data (.float 1)) [])) := by
    rw [eval_traceCall (eval_functionOf (by decide) rfl) (eval_literal (m := m) rfl σ) i cond]
    simp only [literal, apply_trace hL hi]
  rw [visitConditional, h]
  cases exp1 with
  | integer a =>
    cases exp2 with
    | integer b =>
      obtain rfl : b = 1 := hF.cast_eq_one b (some.inj h2)
      refine ⟨.int a, .int 1, ?_, .inr rfl, .inr rfl⟩
      refine (eval_traceCall (eval_functionOf (by decide) rfl) (eval_literal h1 σ) i cond).trans ?_
      simp only [literal, apply_traceInt hi]
    | float b =>
      obtain rfl : b = 1 := some.inj h2
      exact ⟨.float m, .float 1, hfloat, .inl rfl, .inr rfl⟩
    | _ => cases h2
  | float x =>
    obtain rfl : x = m := some.inj h1
    cases exp2 with
    | integer b => exact ⟨.float x, .float 1, hfloat, .inr rfl, .inl rfl⟩
    | float b =>
      obtain rfl : b = 1 := some.inj h2
      exact ⟨.float x, .float 1, hfloat, .inr rfl, .inr rfl⟩
    | _ => cases h2
  | _ => cases h1

/-- **What the notes of a rule do.** -/
theorem eval_observer {ternary : Bool} {cond exp1 exp2 : Node F} {m : F}
    (h : requestRule ternary cond exp1 exp2 = some m) (cond' : Node F) (n₁ n₂ : ℕ) :
    eval L ρ (observer ternary cond exp1 exp2 cond' (walk observer exp1 n₁) (walk observer exp2 n₂)
        i) σ = (eval L ρ cond' σ >>= fun c =>
      branch c
        (done (.data (literal exp1))
          ([.matched i] ++ if isInteger exp1 && !isInteger exp2 then [.changed] else []))
        (done (.data (literal exp2))
          ([] ++ if isInteger exp2 && !isInteger exp1 then [.changed] else []))) := by
  obtain ⟨h1, h2⟩ := requestRule_eq_some h
  rw [observer, h, walk_literal h1, walk_literal h2, isSome_some, if_pos rfl, eval, eval_noted h1,
    eval_noted h2]
  rfl

/-- A conditional that is no rule. -/
theorem observer_eq_keep {ternary : Bool} {cond exp1 exp2 : Node F}
    (h : requestRule ternary cond exp1 exp2 = none) (cond' exp1' exp2' : Node F) :
    observer ternary cond exp1 exp2 cond' exp1' exp2' i =
      conditional ternary cond' exp1' exp2' := by
  rw [observer, h]
  rfl

/-! ## The same result -/

/-- A call of `tier` or `fixed`. -/
def Event.isCall : Event F → Bool
  | .tier _ _ | .fixed _ => true
  | .matched _ | .changed => false

/-- A call of anything but a callback marks no rule. -/
theorem filter_invoke {f : Value F} (hf : f.Inert Function.Recorded) (values : List (Value F)) :
    (ρ.invoke L f values).filter Event.isCall = ρ.invoke L f values := by
  cases f with
  | function f =>
    rw [Env.invoke]
    unfold Env.apply
    split
    · cases L.toFloat _ <;> rfl
    · cases L.toFloat _ <;> rfl
    · exact absurd rfl hf.1
    · exact absurd rfl hf.2.1
    · exact absurd rfl hf.2.2
    · cases (ρ.request.probe _ _).map Value.data <;> rfl
    · rfl
  | _ => rfl

/-- **The notes change nothing.** -/
theorem filter_observed (hL : L.Lawful) {node : Node F} (hres : Unreserved node.identifiers)
    (henv : "$env" ∉ node.identifiers) :
    (eval L ρ node.observed []).filter Event.isCall = eval L ρ node [] := by
  have hR := respects_filter (Value.Inert (F := F) Function.Recorded) (Event.isCall (F := F))
  have halike : Alike L ρ ρ Function.Recorded _ observer keep node.rules :=
    { lawful := hL
      respects := hR
      invoke := fun f values hf hvalues =>
        ⟨filter_invoke hf values, invoke_all (fun _ => trivial) f hvalues⟩
      visit := by
        intro ternary cond exp1 exp2 n₀ n₁ n₂ i σ _ hcond h1 h2
        cases hrule : requestRule ternary cond exp1 exp2 with
        | none =>
          rw [observer_eq_keep hrule, keep, eval, eval]
          exact hR.sequence hcond fun c _ => respects_branch hR c h1 h2
        | some m =>
          obtain ⟨hm, hone⟩ := requestRule_eq_some hrule
          rw [eval_observer hrule, keep, eval, walk_literal hm, walk_literal hone,
            eval_literal hm σ, eval_literal hone σ]
          refine hR.sequence hcond fun c _ => respects_branch hR c ⟨?_, all_done trivial _⟩
            ⟨?_, all_done trivial _⟩
          · split <;> rfl
          · split <;> rfl }
  have hrun := eval_related halike node 0 [] (named_of_unreserved hres henv) (by omega)
    (forall_mem_nil _)
  rw [walk_keep] at hrun
  exact hrun.1

/-- **The rewritten tree does what the tree does**, as long as no rule gives an integer where its
callback gives a float. -/
theorem eval_patched (hL : L.Lawful) (hF : Float64.Lawful F) {node : Node F}
    (hrules : node.rules ≤ ρ.rules) (hres : Unreserved node.identifiers)
    (henv : "$env" ∉ node.identifiers) (hkept : .changed ∉ (eval L ρ node.observed []).trace) :
    eval L ρ node.patched [] = eval L ρ node.observed [] := by
  have hR := respects_unless (Value.Inert (F := F) Function.Recorded) (Event.changed (F := F))
  have hsame : ∀ {d d' : Data F} {b : Bool} (t : List (Event F)), b = true ∨ d' = d →
      .changed ∈ (done (Value.data d) (t ++ if b then [.changed] else [])).trace ∨
        done (Value.data d) (t ++ if b then [.changed] else []) = done (Value.data d') t ∧
          (done (Value.data d) (t ++ if b then [.changed] else [])).All
            (Value.Inert Function.Recorded) := by
    intro d d' b t h
    cases b with
    | true => exact .inl (mem_append_right t (mem_singleton_self _))
    | false =>
      obtain rfl := h.resolve_left Bool.false_ne_true
      exact .inr ⟨by rw [if_neg Bool.false_ne_true, append_nil], all_done trivial _⟩
  have halike : Alike L ρ ρ Function.Recorded _ observer patcher node.rules :=
    { lawful := hL
      respects := hR
      invoke := fun f values _ hvalues => .inr ⟨rfl, invoke_all (fun _ => trivial) f hvalues⟩
      visit := by
        intro ternary cond exp1 exp2 n₀ n₁ n₂ i σ hi hcond h1 h2
        have hwalk := requestRule_walk ternary cond exp1 exp2 n₀ n₁ n₂
        cases hrule : requestRule ternary cond exp1 exp2 with
        | none =>
          rw [observer_eq_keep hrule, patcher, visitConditional, hwalk, hrule, eval, eval]
          exact hR.sequence hcond fun c _ => respects_branch hR c h1 h2
        | some m =>
          obtain ⟨hm, hone⟩ := requestRule_eq_some hrule
          rw [ruleCount, hrule, isSome_some, if_pos rfl] at hi
          rw [hrule] at hwalk
          obtain ⟨d1, d2, heval, hd1, hd2⟩ :=
            eval_visitConditional (σ := σ) hL hF (Nat.lt_of_succ_le (hi.trans hrules)) hwalk
          rw [walk_literal hm, walk_literal hone] at hd1 hd2
          rw [eval_observer hrule, patcher, heval]
          exact hR.sequence hcond fun c _ => respects_branch hR c (hsame [.matched i] hd1)
            (hsame [] hd2) }
  have hrun := eval_related halike node 0 [] (named_of_unreserved hres henv) (by omega)
    (forall_mem_nil _)
  exact (hrun.resolve_left hkept).1.symm

/-- `expr.Compile` and `expr.Run`: what passes the type check is evaluated. -/
def compileAndRun (check : Node F → Bool) (L : Language F) (ρ : Env F) (node : Node F) :
    Traced (Event F) (Value F) :=
  if check node then eval L ρ node [] else fail

/-- A request without parameters, at one in the afternoon. -/
def afternoon : RequestInput ℚ where
  probe
    | "param", [.data (.str _)] => some .nil
    | "hour", [.data (.str _)] => some (.int 13)
    | _, _ => none

/-- The environment of a run without tokens. -/
def afternoonEnv (rules : ℕ) : Env ℚ where
  params := ⟨0, 0, 0, 0, 0, 0, 0, 0, 0, 0, 0⟩
  imageCount := 1
  rules := rules
  request := afternoon

/-- `cond ? 2 : 1.0`. -/
def twoOrOne (cond : Node ℚ) : Node ℚ := .conditional true cond (.integer 2) (.float 1)

/-- `3.0 * (param("x") == true ? 2 : 1.0)`. -/
def doubledFor : Node ℚ :=
  .binary .mul (.float 3)
    (twoOrOne (.binary (.other "==") (.call (.identifier "param") [.string "x"]) (.bool true)))

/-- `10 % (hour("UTC") >= 0 ? 2 : 1.0)`. -/
def remainder : Node ℚ :=
  .binary (.other "%") (.integer 10)
    (twoOrOne (.binary (.other ">=") (.call (.identifier "hour") [.string "UTC"]) (.integer 0)))

end Billingexpr
