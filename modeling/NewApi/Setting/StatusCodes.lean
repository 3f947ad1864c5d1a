import NewApi.Machinery.Ranges
import NewApi.Machinery.Text

/-!
# Setting/StatusCodes — rules that name HTTP status codes

A rule is a list of codes and ranges, `401,403,500-599` (`setting/operation_setting/
status_code_ranges.go`).  It is read into ranges that are sorted and merged, so that a lookup may
stop early.

* `rules_mean_union` — what is read has the codes the tokens denote, lies apart, and is printed so
  that it is read back.
-/

namespace Setting

open Ranges List Text Except String

/-- A range of status codes. -/
abbrev StatusCodeRange := Range

/-- Why a token is refused. -/
inductive TokenError where
  | empty
  | invalidRange
  | invalidStart
  | invalidEnd
  | startAfterEnd
  | rangeOutOfBounds
  | invalidCode
  | codeOutOfBounds
  deriving DecidableEq

/-- `strings.ReplaceAll(strings.TrimSpace(token), " ", "")`. -/
def compact (token : String) : String :=
  String.ofList ((Text.trimSpace token).filter (· ≠ ' '))

/-- A code, or two with a dash. -/
def parseHTTPStatusCodeToken (token : String) : Except TokenError StatusCodeRange :=
  let token := compact token
  if token = "" then .error .empty
  else if Text.contains token "-" then
    match Text.split '-' token with
    | [first, second] =>
      if first = "" ∨ second = "" then .error .invalidRange
      else
        match Text.atoi first, Text.atoi second with
        | none, _ => .error .invalidStart
        | _, none => .error .invalidEnd
        | some start, some stop =>
          if start > stop then .error .startAfterEnd
          else if start < 100 ∨ stop > 599 then .error .rangeOutOfBounds
          else .ok ⟨start, stop⟩
    | _ => .error .invalidRange
  else
    match Text.atoi token with
    | none => .error .invalidCode
    | some code => if code < 100 ∨ code > 599 then .error .codeOutOfBounds else .ok ⟨code, code⟩

/-- The segments of a rule that are not empty. -/
def tokens (input : String) : List String :=
  let input := String.ofList ((Text.trimSpace input).map fun c => if c = '，' then ',' else c)
  ((Text.split ',' input).map Text.trimmed).filter (· ≠ "")

/-- The ranges of a setting, merged. -/
def parseHTTPStatusCodeRanges (input : String) : Except String (List StatusCodeRange) :=
  if Text.trimmed input = "" then .ok []
  else
    let invalid := (tokens input).filter fun seg => (parseHTTPStatusCodeToken seg).toOption.isNone
    if invalid ≠ [] then
      .error ("invalid http status code rules: " ++ String.intercalate ", " invalid)
    else .ok (merge ((tokens input).filterMap fun seg => (parseHTTPStatusCodeToken seg).toOption))

/-- A range as it is written. -/
def rangeToString (r : StatusCodeRange) : String :=
  if r.start = r.stop then toString r.start else toString r.start ++ "-" ++ toString r.stop

/-- A setting as it is written. -/
def statusCodeRangesToString (ranges : List StatusCodeRange) : String :=
  if ranges = [] then "" else Text.join ',' (ranges.map rangeToString)

/-- A code of HTTP lies in one of the ranges. -/
def shouldMatchStatusCodeRanges (ranges : List StatusCodeRange) (code : ℤ) : Bool :=
  if code < 100 ∨ code > 599 then false else scan code ranges

/-! ## Tokens -/

/-- What a token denotes: a code, or the codes between two. -/
inductive Denotes (token : String) (code : ℤ) : Prop
  | code {single : String} : Text.split '-' (compact token) = [single] →
    Text.atoi single = some code → Denotes token code
  | between {first second : String} {lo hi : ℤ} :
    Text.split '-' (compact token) = [first, second] → Text.atoi first = some lo →
    Text.atoi second = some hi → lo ≤ code → code ≤ hi → Denotes token code

/-- A range of status codes. -/
structure Http (r : StatusCodeRange) : Prop where
  first : 100 ≤ r.start
  inhabited : r.start ≤ r.stop
  last : r.stop ≤ 599

theorem parse_token_ok {token : String} {r : StatusCodeRange}
    (h : parseHTTPStatusCodeToken token = .ok r) :
    Http r ∧ ∀ code, Denotes token code ↔ r.Has code := by
  unfold parseHTTPStatusCodeToken at h
  dsimp only at h
  split_ifs at h with hempty hdash
  · split at h
    · next first second hsplit =>
      split_ifs at h
      split at h
      · cases h
      · cases h
      · next start stop hstart hstop =>
        split_ifs at h with hafter hbounds
        obtain rfl := ok.inj h
        obtain ⟨hlow, hhigh⟩ := not_or.1 hbounds
        refine ⟨⟨not_lt.1 hlow, not_lt.1 hafter, not_lt.1 hhigh⟩, fun code => ⟨?_, ?_⟩⟩
        · rintro (⟨hone, -⟩ | ⟨htwo, hlo, hhi, hle, hge⟩)
          · cases hsplit.symm.trans hone
          · cases hsplit.symm.trans htwo
            cases hstart.symm.trans hlo
            cases hstop.symm.trans hhi
            exact ⟨hle, hge⟩
        · exact fun hcode => .between hsplit hstart hstop hcode.1 hcode.2
    · cases h
  · have hno : '-' ∉ (compact token).toList := by
      simpa [Text.contains, List.singleton_infix_iff] using hdash
    have hsplit := split_of_not_mem hno
    split at h
    · cases h
    · next code hcode =>
      split_ifs at h with hbounds
      obtain rfl := ok.inj h
      obtain ⟨hlow, hhigh⟩ := not_or.1 hbounds
      refine ⟨⟨not_lt.1 hlow, le_refl _, not_lt.1 hhigh⟩, fun n => ⟨?_, fun hn => ?_⟩⟩
      · rintro (⟨hone, hn⟩ | ⟨htwo, -⟩)
        · cases hsplit.symm.trans hone
          cases hcode.symm.trans hn
          exact ⟨le_refl _, le_refl _⟩
        · cases hsplit.symm.trans htwo
      · obtain rfl : n = code := le_antisymm hn.2 hn.1
        exact .code hsplit hcode

/-! ## Printing -/

/-- The decimal digits. -/
def digits : List Char := "0123456789".toList

/-- The characters of a rule that was printed. -/
def legible : List Char := ',' :: '-' :: digits

theorem legible_plain : ∀ c ∈ legible, isSpace c = false ∧ c ≠ ' ' ∧ c ≠ '，' := by
  have hall : legible.all (fun c => isSpace c = false ∧ c ≠ ' ' ∧ c ≠ '，') = true := by decide
  exact fun c hc => of_decide_eq_true (all_eq_true.1 hall c hc)

variable {s : String}

theorem trimSpace_of_legible (h : ∀ c ∈ s.toList, c ∈ legible) :
    trimSpace s = s.toList := by
  have hkeeps : ∀ l : List Char, (∀ c ∈ l, c ∈ legible) → l.dropWhile isSpace = l := by
    intro l hl
    refine dropWhile_eq_self_iff.2 fun hpos => ?_
    simp [(legible_plain _ (hl _ (getElem_mem hpos))).1]
  rw [trimSpace, hkeeps _ h, hkeeps _ (by simpa using h), reverse_reverse]

theorem trimmed_of_legible (h : ∀ c ∈ s.toList, c ∈ legible) : trimmed s = s := by
  rw [trimmed, trimSpace_of_legible h, ofList_toList]

theorem compact_of_legible (h : ∀ c ∈ s.toList, c ∈ legible) : compact s = s := by
  rw [compact, trimSpace_of_legible h, filter_eq_self.2, ofList_toList]
  exact fun c hc => decide_eq_true (legible_plain c (h c hc)).2.1

/-- A number is printed in digits, and read back. -/
def Printed (n : ℤ) : Prop :=
  atoi (toString n) = some n ∧ (toString n).toList ⊆ digits ∧ toString n ≠ ""

instance : DecidablePred Printed := fun _ => inferInstanceAs (Decidable (_ ∧ _ ∧ _))

theorem code_printed {n : ℤ} (h : 100 ≤ n) (h' : n ≤ 599) : Printed n := by
  have hall : ∀ a < 6, ∀ b < 10, ∀ c < 10, Printed ((100 * a + 10 * b + c : ℕ) : ℤ) := by
    decide +kernel
  have hn : n = ((100 * (n / 100).toNat + 10 * (n / 10 % 10).toNat + (n % 10).toNat : ℕ) : ℤ) := by
    omega
  rw [hn]
  exact hall _ (by omega) _ (by omega) _ (by omega)

variable {r : StatusCodeRange} {ranges : List StatusCodeRange}

/-- A range that is printed has no comma in it, and is read back. -/
theorem range_printed (h : Http r) :
    (∀ c ∈ (rangeToString r).toList, c ∈ '-' :: digits) ∧
      parseHTTPStatusCodeToken (rangeToString r) = .ok r := by
  obtain ⟨hfirst, hin, hlast⟩ := h
  obtain ⟨hstart, hdigits, hne⟩ := code_printed hfirst (hin.trans hlast)
  obtain ⟨hstop, hdigits', hne'⟩ := code_printed (hfirst.trans hin) hlast
  have hchars : ∀ c ∈ (rangeToString r).toList, c ∈ '-' :: digits := by
    unfold rangeToString
    intro c hc
    split_ifs at hc
    · exact mem_cons_of_mem _ (hdigits hc)
    · simp only [toList_append, mem_append] at hc
      rcases hc with (hc | hc) | hc
      · exact mem_cons_of_mem _ (hdigits hc)
      · rw [mem_singleton.1 hc]
        exact mem_cons_self
      · exact mem_cons_of_mem _ (hdigits' hc)
  have hdash : '-' ∉ digits := by decide
  have hcontains (s : String) : Text.contains s "-" = true ↔ '-' ∈ s.toList :=
    decide_eq_true_iff.trans (List.singleton_infix_iff ..)
  refine ⟨hchars, ?_⟩
  rw [parseHTTPStatusCodeToken, compact_of_legible fun c hc => mem_cons_of_mem _ (hchars c hc)]
  by_cases heq : r.start = r.stop
  · have hno : '-' ∉ (toString r.start).toList := fun hc => hdash (hdigits hc)
    rw [rangeToString, if_pos heq, if_neg hne, if_neg fun h => hno ((hcontains _).1 h), hstart]
    dsimp only
    rw [if_neg (by omega)]
    exact congrArg (fun stop => ok (Range.mk r.start stop)) heq
  · have hsplit : split '-' (toString r.start ++ "-" ++ toString r.stop) =
        [toString r.start, toString r.stop] := by
      refine (split_append fun hc => hdash (hdigits' hc)).trans ?_
      rw [split_of_not_mem fun hc => hdash (hdigits hc)]
      rfl
    have hmem : '-' ∈ (toString r.start ++ "-" ++ toString r.stop).toList := by
      simp [toList_append]
    rw [rangeToString, if_neg heq, if_neg, if_pos ((hcontains _).2 hmem), hsplit]
    · dsimp only
      rw [if_neg (not_or.2 ⟨hne, hne'⟩), hstart, hstop]
      dsimp only
      rw [if_neg (not_lt.2 hin), if_neg (not_or.2 ⟨not_lt.2 hfirst, not_lt.2 hlast⟩)]
    · intro hempty
      rw [hempty] at hmem
      cases hmem

theorem rangeToString_ne (h : Http r) : rangeToString r ≠ "" := by
  intro hempty
  have hread := (range_printed h).2
  rw [hempty] at hread
  cases hread

/-- A rule that is printed falls into the ranges again. -/
theorem tokens_printed (h : ∀ r ∈ ranges, Http r) (hne : ranges ≠ []) :
    trimmed (statusCodeRangesToString ranges) ≠ "" ∧
      tokens (statusCodeRangesToString ranges) = ranges.map rangeToString := by
  have hchars : ∀ s ∈ ranges.map rangeToString, s ≠ "" ∧ ∀ c ∈ s.toList, c ∈ '-' :: digits := by
    intro s hs
    obtain ⟨r, hr, rfl⟩ := mem_map.1 hs
    exact ⟨rangeToString_ne (h r hr), (range_printed (h r hr)).1⟩
  rw [statusCodeRangesToString, if_neg hne]
  generalize hparts : ranges.map rangeToString = parts at hchars
  have hnil : parts ≠ [] := by simpa [← hparts] using hne
  have hlegible : ∀ c ∈ (join ',' parts).toList, c ∈ legible :=
    forall_mem_join mem_cons_self fun s hs c hc =>
      mem_cons_of_mem _ ((hchars s hs).2 c hc)
  have hsame : (join ',' parts).toList.map (fun c => if c = '，' then ',' else c) =
      (join ',' parts).toList :=
    (map_congr_left fun c hc => if_neg (legible_plain c (hlegible c hc)).2.2).trans
      (map_id _)
  constructor
  · rw [trimmed_of_legible hlegible, ne_eq, join_eq_empty_iff]
    rintro (rfl | rfl)
    · exact hnil rfl
    · exact (hchars "" mem_cons_self).1 rfl
  · unfold tokens
    dsimp only
    rw [trimSpace_of_legible hlegible, hsame, ofList_toList, split_join _ hnil]
    · have hkept : parts.map trimmed = parts :=
        (map_congr_left fun s hs => trimmed_of_legible fun c hc =>
          mem_cons_of_mem _ ((hchars s hs).2 c hc)).trans (map_id _)
      rw [hkept, filter_eq_self]
      exact fun s hs => decide_eq_true (hchars s hs).1
    · exact fun s hs hc => absurd ((hchars s hs).2 _ hc) (by decide)

/-! ## Rules -/

theorem toOption_eq_some {seg : String} :
    (parseHTTPStatusCodeToken seg).toOption = some r ↔ parseHTTPStatusCodeToken seg = .ok r := by
  cases parseHTTPStatusCodeToken seg with
  | error e => simp [Except.toOption]
  | ok a => simp [Except.toOption]

/-- Ranges that lie apart are read as they are printed. -/
theorem parse_printed (h : ∀ r ∈ ranges, Http r) (hapart : Apart ranges) :
    parseHTTPStatusCodeRanges (statusCodeRangesToString ranges) = .ok ranges := by
  by_cases hne : ranges = []
  · subst hne
    rfl
  · obtain ⟨htrim, htokens⟩ := tokens_printed h hne
    have hread : ∀ r ∈ ranges, (parseHTTPStatusCodeToken (rangeToString r)).toOption = some r :=
      fun r hr => toOption_eq_some.2 (range_printed (h r hr)).2
    have hall : (ranges.map rangeToString).filterMap
        (fun seg => (parseHTTPStatusCodeToken seg).toOption) = ranges := by
      rw [filterMap_map]
      exact (filterMap_congr hread).trans filterMap_some
    rw [parseHTTPStatusCodeRanges, if_neg htrim, htokens, if_neg, hall, merge_of_apart hapart]
    rw [not_not, filter_eq_nil_iff]
    intro seg hseg
    obtain ⟨r, hr, rfl⟩ := mem_map.1 hseg
    rw [hread r hr]
    exact Bool.false_ne_true

variable {input : String}

/-- A rule that is accepted is the merge of what its tokens are read as. -/
theorem parse_ok (h : parseHTTPStatusCodeRanges input = .ok ranges) :
    ∃ read, ranges = merge read ∧
      (∀ r, r ∈ read ↔ ∃ token ∈ tokens input, parseHTTPStatusCodeToken token = .ok r) ∧
      ∀ token ∈ tokens input, ∃ r, parseHTTPStatusCodeToken token = .ok r := by
  unfold parseHTTPStatusCodeRanges at h
  split_ifs at h with htrim
  · have htokens : tokens input = [] := by
      rw [tokens, ofList_eq_empty_iff.1 htrim]
      decide
    exact ⟨[], (ok.inj h).symm, by simp [htokens], by simp [htokens]⟩
  dsimp only at h
  split_ifs at h with hinvalid
  rw [not_not, filter_eq_nil_iff] at hinvalid
  refine ⟨_, (ok.inj h).symm, fun r => ?_, fun token htoken => ?_⟩
  · simp only [mem_filterMap, toOption_eq_some]
  · cases hread : parseHTTPStatusCodeToken token with
    | error e => exact absurd (by rw [hread]; rfl) (hinvalid token htoken)
    | ok r => exact ⟨r, rfl⟩

theorem http_merge (h : ∀ r ∈ ranges, Http r) : ∀ r ∈ merge ranges, Http r := by
  obtain ⟨hapart, hhas⟩ := merge_spec fun r hr => (h r hr).inhabited
  intro r hr
  have hin := hapart.inhabited r hr
  obtain ⟨a, ha, hfirst, -⟩ := (hhas r.start).1 ⟨r, hr, le_refl _, hin⟩
  obtain ⟨b, hb, -, hlast⟩ := (hhas r.stop).1 ⟨r, hr, hin, le_refl _⟩
  exact ⟨(h a ha).first.trans hfirst, hin, hlast.trans (h b hb).last⟩

theorem shouldMatch_iff {code : ℤ} (h : ∀ r ∈ ranges, Http r) (hapart : Apart ranges) :
    shouldMatchStatusCodeRanges ranges code = true ↔ ∃ r ∈ ranges, r.Has code := by
  unfold shouldMatchStatusCodeRanges
  split_ifs with hout
  · refine iff_of_false not_false ?_
    rintro ⟨r, hr, hstart, hstop⟩
    have := (h r hr).first
    have := (h r hr).last
    omega
  · exact scan_iff hapart

/-- **A rule means the union of its tokens**: the ranges lie apart, a code is found in them when a
token denotes it, and the rule that is printed for them is read as the same ranges. -/
theorem rules_mean_union (h : parseHTTPStatusCodeRanges input = .ok ranges) :
    Apart ranges ∧
      (∀ code, shouldMatchStatusCodeRanges ranges code = true ↔
        ∃ token ∈ tokens input, Denotes token code) ∧
      parseHTTPStatusCodeRanges (statusCodeRangesToString ranges) = .ok ranges := by
  obtain ⟨read, rfl, hmem, hok⟩ := parse_ok h
  have hhttp : ∀ r ∈ read, Http r := by
    intro r hr
    obtain ⟨token, -, hread⟩ := (hmem r).1 hr
    exact (parse_token_ok hread).1
  obtain ⟨hapart, hhas⟩ := merge_spec fun r hr => (hhttp r hr).inhabited
  refine ⟨hapart, fun code => ?_, parse_printed (http_merge hhttp) hapart⟩
  rw [shouldMatch_iff (http_merge hhttp) hapart, hhas]
  constructor
  · rintro ⟨r, hr, hcode⟩
    obtain ⟨token, htoken, hread⟩ := (hmem r).1 hr
    exact ⟨token, htoken, ((parse_token_ok hread).2 code).2 hcode⟩
  · rintro ⟨token, htoken, hcode⟩
    obtain ⟨r, hr⟩ := hok token htoken
    exact ⟨r, (hmem r).2 ⟨token, htoken, hr⟩, ((parse_token_ok hr).2 code).1 hcode⟩

/-- Overlapping, touching and spaced tokens. -/
theorem rules_mean_union_merged :
    parseHTTPStatusCodeRanges " 500 - 505，504,401,,402" = .ok [⟨401, 402⟩, ⟨500, 505⟩] ∧
      parseHTTPStatusCodeRanges (statusCodeRangesToString [⟨401, 402⟩, ⟨500, 505⟩]) =
        .ok [⟨401, 402⟩, ⟨500, 505⟩] := by
  have hread : parseHTTPStatusCodeRanges " 500 - 505，504,401,,402" =
      .ok [⟨401, 402⟩, ⟨500, 505⟩] := by decide +kernel
  exact ⟨hread, (rules_mean_union hread).2.2⟩

end Setting
