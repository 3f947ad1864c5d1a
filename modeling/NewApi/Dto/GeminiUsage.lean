import Mathlib.Algebra.Order.BigOperators.Group.List
import Mathlib.Algebra.Order.Group.Int
import NewApi.Dto.Usage
import NewApi.Machinery.GoInt
import NewApi.Machinery.Tally

/-!
# Dto/GeminiUsage — the usage of a Gemini stream

The chunks of a Gemini stream report the usage so far (`relaykit/dto/usage_merge.go`), and the
handler folds `mergeGeminiUsageMetadataNonZero` over them.  A counter that a later chunk reports
replaces the earlier one, candidates and thoughts as a pair; a modality that a later chunk reports
is *added* to what is there; the total is raised to the sum of the counters.  Sums are those of
64-bit integers.

* `DetailMerge.Indexed.step_tokens`, `modalityTotal_merge` — what one turn of the loop over the
  modalities adds, and the whole loop.
* `overlaid_mergeSnapshots`, `merged_counters` — the counters and modalities after any list of
  snapshots.
-/

namespace Dto

open GoInt List

variable (fold : Folding)

/-! ## `mergeGeminiTokenDetails` -/

/-- The name a modality is merged by. -/
def ModalityCount.key (d : ModalityCount) : String := normalizeGeminiModality fold d.modality

/-- `merged[index].TokenCount += n`. -/
def ModalityCount.add (n : ℤ) (d : ModalityCount) : ModalityCount :=
  { d with tokenCount := wrap (d.tokenCount + n) }

/-- The two variables of the loop: the list and where each modality stands in it. -/
structure DetailMerge where
  merged : List ModalityCount
  indexes : String → Option ℕ

/-- The first loop: of two entries of one modality the later is found. -/
def DetailMerge.start (current : List ModalityCount) : DetailMerge where
  merged := current
  indexes :=
    current.zipIdx.foldl (fun m p => Function.update m (p.1.key fold) (some p.2)) fun _ => none

/-- One turn of the second loop. -/
def DetailMerge.step (s : DetailMerge) (detail : ModalityCount) : DetailMerge :=
  if detail.tokenCount ≤ 0 then s
  else
    match s.indexes (detail.key fold) with
    | some index => { s with merged := s.merged.modify index (·.add detail.tokenCount) }
    | none =>
      { merged := s.merged ++ [detail]
        indexes := Function.update s.indexes (detail.key fold) (some s.merged.length) }

/-- The entries of `incoming` join those of `current`, by their modalities. -/
def mergeGeminiTokenDetails (current incoming : List ModalityCount) : List ModalityCount :=
  (incoming.foldl (DetailMerge.step fold) (.start fold current)).merged

/-- `MergeGeminiUsageMetadataNonZero`: a zero counter is one that is not reported. -/
def mergeGeminiUsageMetadataNonZero (current incoming : Option GeminiUsageMetadata) :
    Option GeminiUsageMetadata :=
  match current, incoming with
  | none, _ => incoming
  | some c, none => some c
  | some c, some i =>
    let promptTokenCount := overlay c.promptTokenCount i.promptTokenCount
    let toolUsePromptTokenCount := overlay c.toolUsePromptTokenCount i.toolUsePromptTokenCount
    let candidatesTokenCount := overlay c.candidatesTokenCount i.candidatesTokenCount
    let thoughtsTokenCount :=
      if 0 < i.candidatesTokenCount then i.thoughtsTokenCount
      else overlay c.thoughtsTokenCount i.thoughtsTokenCount
    some
      { promptTokenCount
        toolUsePromptTokenCount
        candidatesTokenCount
        thoughtsTokenCount
        totalTokenCount := max (overlay c.totalTokenCount i.totalTokenCount)
          (wrap (promptTokenCount + toolUsePromptTokenCount + candidatesTokenCount +
            thoughtsTokenCount))
        cachedContentTokenCount := overlay c.cachedContentTokenCount i.cachedContentTokenCount
        promptTokensDetails :=
          mergeGeminiTokenDetails fold c.promptTokensDetails i.promptTokensDetails
        toolUsePromptTokensDetails :=
          mergeGeminiTokenDetails fold c.toolUsePromptTokensDetails i.toolUsePromptTokensDetails
        candidatesTokensDetails :=
          mergeGeminiTokenDetails fold c.candidatesTokensDetails i.candidatesTokensDetails }

/-- The usage that a stream with these snapshots has accumulated. -/
def mergeSnapshots (snapshots : List GeminiUsageMetadata) : Option GeminiUsageMetadata :=
  snapshots.foldl (fun current s => mergeGeminiUsageMetadataNonZero fold current (some s)) none

/-! ## The loop over the modalities -/

variable {fold}

/-- The tokens of modality `m` in a list. -/
abbrev modalityTokens (fold : Folding) (m : String) (details : List ModalityCount) : ℤ :=
  modalityTotal (normalizeGeminiModality fold) m details

theorem modalityTokens_cons (m : String) (d : ModalityCount) (l : List ModalityCount) :
    modalityTokens fold m (d :: l) =
      (if d.key fold = m then d.tokenCount else 0) + modalityTokens fold m l := by
  rfl

/-- Every index that is found leads to an entry of its modality. -/
def DetailMerge.Indexed (fold : Folding) (s : DetailMerge) : Prop :=
  ∀ k i, s.indexes k = some i → ∃ d, s.merged[i]? = some d ∧ d.key fold = k

theorem DetailMerge.indexed_start (current : List ModalityCount) :
    (DetailMerge.start fold current).Indexed fold := by
  suffices h : ∀ l : List (ModalityCount × ℕ), (∀ p ∈ l, current[p.2]? = some p.1) →
      ∀ (k : String) (i : ℕ),
        l.foldl (fun (m : String → Option ℕ) p => Function.update m (p.1.key fold) (some p.2))
          (fun _ => none) k = some i → ∃ d, current[i]? = some d ∧ d.key fold = k by
    refine h _ fun p hp => ?_
    rw [List.getElem?_eq_some_iff]
    obtain ⟨_, hlt, heq⟩ := List.mem_zipIdx hp
    simp only [zero_add, Nat.sub_zero] at hlt heq
    exact ⟨hlt, heq.symm⟩
  intro l
  induction l using List.reverseRecOn with
  | nil => intro _ k i hi; cases hi
  | append_singleton l p ih =>
    intro hl k i hi
    rw [foldl_append, List.foldl_cons, foldl_nil, Function.update_apply] at hi
    split at hi
    · next hk =>
      cases hi
      exact ⟨p.1, hl p (by simp), hk.symm⟩
    · exact ih (fun q hq => hl q (by simp [hq])) k i hi

variable {s : DetailMerge}

theorem DetailMerge.Indexed.step (h : s.Indexed fold) (detail : ModalityCount) :
    (s.step fold detail).Indexed fold := by
  unfold DetailMerge.step
  split
  · exact h
  · split
    · next index hf =>
      intro k i hi
      obtain ⟨d, hd, hk⟩ := h k i hi
      simp only [getElem?_modify, hd]
      by_cases hix : index = i
      · exact ⟨d.add detail.tokenCount, by simp [hix], hk⟩
      · exact ⟨d, by simp [hix], hk⟩
    · intro k i hi
      simp only [Function.update_apply] at hi
      split at hi
      · next hk =>
        cases hi
        exact ⟨detail, by simp, hk.symm⟩
      · obtain ⟨d, hd, hk⟩ := h k i hi
        have hlt : i < s.merged.length := (List.getElem?_eq_some_iff.mp hd).1
        exact ⟨d, by rw [getElem?_append_left hlt, hd], hk⟩

theorem modalityTokens_modify {l : List ModalityCount} {i : ℕ} {d : ModalityCount}
    (h : l[i]? = some d) (m : String) (n : ℤ) :
    wrap (modalityTokens fold m (l.modify i (·.add n))) =
      wrap (modalityTokens fold m l + if d.key fold = m then n else 0) := by
  have hset : l.modify i (·.add n) = l.set i (d.add n) := by
    rw [List.modify_eq_set_getElem?, h]
    rfl
  rw [hset, modalityTokens, modalityTotal, Tally.sum_map_set _ h]
  change wrap (_ - (if d.key fold = m then d.tokenCount else 0) +
    (if d.key fold = m then wrap (d.tokenCount + n) else 0)) = _
  rw [modalityTokens, modalityTotal]
  split
  · rw [add_comm, wrap_wrap_add]
    congr 1
    omega
  · congr 1
    omega

/-- **One turn adds what the entry reports.** -/
theorem DetailMerge.Indexed.step_tokens (h : s.Indexed fold) {detail : ModalityCount}
    (hn : 0 ≤ detail.tokenCount) (m : String) :
    wrap (modalityTokens fold m (s.step fold detail).merged) =
      wrap (modalityTokens fold m s.merged +
        if detail.key fold = m then detail.tokenCount else 0) := by
  unfold DetailMerge.step
  split
  · next hz =>
    have hzero : detail.tokenCount = 0 := le_antisymm hz hn
    simp [hzero]
  · split
    · next index hf =>
      obtain ⟨d, hd, hk⟩ := h _ _ hf
      rw [modalityTokens_modify hd, hk]
    · rw [modalityTokens, modalityTotal_append]
      have hone := @modalityTokens_cons fold m detail []
      rw [modalityTokens] at hone
      rw [hone]
      simp [modalityTotal]

/-- **…and the merge adds what the incoming list reports.** -/
theorem modalityTotal_merge {current incoming : List ModalityCount}
    (hn : ∀ d ∈ incoming, 0 ≤ d.tokenCount) (m : String) :
    wrap (modalityTokens fold m (mergeGeminiTokenDetails fold current incoming)) =
      wrap (modalityTokens fold m current + modalityTokens fold m incoming) := by
  suffices h : ∀ s : DetailMerge, s.Indexed fold →
      wrap (modalityTokens fold m (incoming.foldl (DetailMerge.step fold) s).merged) =
        wrap (modalityTokens fold m s.merged + modalityTokens fold m incoming) from
    h _ (DetailMerge.indexed_start current)
  induction incoming with
  | nil => intro s _; simp [modalityTokens, modalityTotal]
  | cons d l ih =>
    intro s hs
    rw [List.foldl_cons, ih (fun x hx => hn x (by simp [hx])) _ (hs.step d),
      wrap_add_congr (hs.step_tokens (hn d (by simp)) m), modalityTokens_cons, add_assoc]

/-! ## What a list of snapshots amounts to -/

/-- The last positive count. -/
def lastReported (counts : List ℤ) : ℤ := (counts.filter (0 < ·)).getLast?.getD 0

/-- The thoughts of the last snapshot that reports candidates or thoughts. -/
def lastThoughts (snapshots : List GeminiUsageMetadata) : ℤ :=
  ((snapshots.filter fun s => 0 < s.candidatesTokenCount ∨
    0 < s.thoughtsTokenCount).getLast?).elim 0
    (·.thoughtsTokenCount)

/-- The sum a total is raised to. -/
def countersSum (snapshots : List GeminiUsageMetadata) : ℤ :=
  lastReported (snapshots.map (·.promptTokenCount)) +
    lastReported (snapshots.map (·.toolUsePromptTokenCount)) +
    lastReported (snapshots.map (·.candidatesTokenCount)) + lastThoughts snapshots

theorem lastReported_concat (l : List ℤ) (n : ℤ) :
    lastReported (l ++ [n]) = overlay (lastReported l) n := by
  unfold lastReported overlay
  by_cases h : 0 < n <;> simp [h]

theorem lastReported_singleton {n : ℤ} (h : 0 ≤ n) : lastReported [n] = n := by
  have := lastReported_concat [] n
  rw [List.nil_append] at this
  rw [this, overlay]
  split
  · rfl
  · change (0 : ℤ) = n
    omega

theorem lastThoughts_concat (l : List GeminiUsageMetadata) (s : GeminiUsageMetadata) :
    lastThoughts (l ++ [s]) =
      if 0 < s.candidatesTokenCount then s.thoughtsTokenCount
      else overlay (lastThoughts l) s.thoughtsTokenCount := by
  unfold lastThoughts overlay
  by_cases hc : 0 < s.candidatesTokenCount
  · simp [hc]
  · by_cases ht : 0 < s.thoughtsTokenCount <;> simp [hc, ht]

/-- A snapshot without negative counts. -/
structure GeminiUsageMetadata.Counted (s : GeminiUsageMetadata) : Prop where
  prompt : 0 ≤ s.promptTokenCount
  toolUse : 0 ≤ s.toolUsePromptTokenCount
  candidates : 0 ≤ s.candidatesTokenCount
  thoughts : 0 ≤ s.thoughtsTokenCount
  total : 0 ≤ s.totalTokenCount
  cached : 0 ≤ s.cachedContentTokenCount
  promptDetails : ∀ d ∈ s.promptTokensDetails, 0 ≤ d.tokenCount
  toolUseDetails : ∀ d ∈ s.toolUsePromptTokensDetails, 0 ≤ d.tokenCount
  candidatesDetails : ∀ d ∈ s.candidatesTokensDetails, 0 ≤ d.tokenCount

/-- What the snapshots amount to: the last positive counters, a total no less than the last that was
reported and, where it is more, the sum of the counters at some point; the modalities of all of
them. -/
structure Overlaid (fold : Folding) (snapshots : List GeminiUsageMetadata)
    (g : GeminiUsageMetadata) : Prop where
  prompt : g.promptTokenCount = lastReported (snapshots.map (·.promptTokenCount))
  toolUse : g.toolUsePromptTokenCount = lastReported (snapshots.map (·.toolUsePromptTokenCount))
  candidates : g.candidatesTokenCount = lastReported (snapshots.map (·.candidatesTokenCount))
  thoughts : g.thoughtsTokenCount = lastThoughts snapshots
  cached : g.cachedContentTokenCount = lastReported (snapshots.map (·.cachedContentTokenCount))
  total_le : lastReported (snapshots.map (·.totalTokenCount)) ≤ g.totalTokenCount
  total_eq : g.totalTokenCount = lastReported (snapshots.map (·.totalTokenCount)) ∨
    ∃ p, p <+: snapshots ∧ g.totalTokenCount = wrap (countersSum p)
  sum_le : 2 ≤ snapshots.length → wrap (countersSum snapshots) ≤ g.totalTokenCount
  promptDetails : ∀ m, wrap (modalityTokens fold m g.promptTokensDetails) =
    wrap (snapshots.map fun s => modalityTokens fold m s.promptTokensDetails).sum
  toolUseDetails : ∀ m, wrap (modalityTokens fold m g.toolUsePromptTokensDetails) =
    wrap (snapshots.map fun s => modalityTokens fold m s.toolUsePromptTokensDetails).sum
  candidatesDetails : ∀ m, wrap (modalityTokens fold m g.candidatesTokensDetails) =
    wrap (snapshots.map fun s => modalityTokens fold m s.candidatesTokensDetails).sum

theorem overlaid_singleton {s : GeminiUsageMetadata} (h : s.Counted) : Overlaid fold [s] s where
  prompt := (lastReported_singleton h.prompt).symm
  toolUse := (lastReported_singleton h.toolUse).symm
  candidates := (lastReported_singleton h.candidates).symm
  thoughts := by
    have hth := h.thoughts
    have := lastThoughts_concat [] s
    rw [List.nil_append] at this
    rw [this, overlay]
    split_ifs with _ _
    · rfl
    · rfl
    · change _ = (0 : ℤ)
      omega
  cached := (lastReported_singleton h.cached).symm
  total_le := (lastReported_singleton h.total).le
  total_eq := .inl (lastReported_singleton h.total).symm
  sum_le hlen := absurd hlen (by simp)
  promptDetails m := by simp
  toolUseDetails m := by simp
  candidatesDetails m := by simp

variable {snapshots : List GeminiUsageMetadata}

/-- **One more snapshot.** -/
theorem Overlaid.merge {g s : GeminiUsageMetadata} (h : Overlaid fold snapshots g)
    (hs : s.Counted) :
    ∃ g', mergeGeminiUsageMetadataNonZero fold (some g) (some s) = some g' ∧
      Overlaid fold (snapshots ++ [s]) g' := by
  have hsum : countersSum (snapshots ++ [s]) =
      overlay g.promptTokenCount s.promptTokenCount +
        overlay g.toolUsePromptTokenCount s.toolUsePromptTokenCount +
        overlay g.candidatesTokenCount s.candidatesTokenCount +
        (if 0 < s.candidatesTokenCount then s.thoughtsTokenCount
          else overlay g.thoughtsTokenCount s.thoughtsTokenCount) := by
    rw [countersSum, lastThoughts_concat, h.prompt, h.toolUse, h.candidates, h.thoughts]
    simp only [List.map_append, List.map_cons, List.map_nil, lastReported_concat]
  refine ⟨_, rfl, ?_⟩
  constructor
  case prompt => simp [lastReported_concat, h.prompt]
  case toolUse => simp [lastReported_concat, h.toolUse]
  case candidates => simp [lastReported_concat, h.candidates]
  case thoughts => simp [lastThoughts_concat, h.thoughts]
  case cached => simp [lastReported_concat, h.cached]
  case total_le =>
    simp only [List.map_append, List.map_cons, List.map_nil, lastReported_concat, overlay]
    have := h.total_le
    split <;> omega
  case total_eq =>
    simp only [← hsum, List.map_append, List.map_cons, List.map_nil, lastReported_concat]
    rcases le_total (overlay g.totalTokenCount s.totalTokenCount)
      (wrap (countersSum (snapshots ++ [s]))) with hle | hle
    · exact .inr ⟨_, List.prefix_refl _, max_eq_right hle⟩
    · rw [max_eq_left hle, overlay, overlay]
      split
      · exact .inl rfl
      · refine h.total_eq.imp id fun ⟨p, hp, heq⟩ => ?_
        exact ⟨p, hp.trans (prefix_append _ _), heq⟩
  case sum_le =>
    intro _
    rw [hsum]
    exact le_max_right _ _
  case promptDetails =>
    intro m
    rw [modalityTotal_merge hs.promptDetails, wrap_add_congr (h.promptDetails m)]
    simp
  case toolUseDetails =>
    intro m
    rw [modalityTotal_merge hs.toolUseDetails, wrap_add_congr (h.toolUseDetails m)]
    simp
  case candidatesDetails =>
    intro m
    rw [modalityTotal_merge hs.candidatesDetails, wrap_add_congr (h.candidatesDetails m)]
    simp

theorem overlaid_mergeSnapshots {first : GeminiUsageMetadata} {rest : List GeminiUsageMetadata}
    (hfirst : first.Counted) (hrest : ∀ s ∈ rest, s.Counted) :
    ∃ g, mergeSnapshots fold (first :: rest) = some g ∧ Overlaid fold (first :: rest) g := by
  induction rest using List.reverseRecOn with
  | nil => exact ⟨first, rfl, overlaid_singleton hfirst⟩
  | append_singleton rest s ih =>
    obtain ⟨g, hg, hover⟩ := ih fun x hx => hrest x (by simp [hx])
    obtain ⟨g', hg', hover'⟩ := hover.merge (hrest s (by simp))
    refine ⟨g', ?_, hover'⟩
    rw [← hg', ← hg, mergeSnapshots, mergeSnapshots, ← cons_append, foldl_append]
    rfl

/-- **A stream's usage** after any snapshots: the last counters, a total that covers them, and of
every modality the sum of what the snapshots report. -/
theorem merged_counters {first : GeminiUsageMetadata} {rest : List GeminiUsageMetadata}
    (hall : ∀ s ∈ first :: rest, s.Counted) :
    ∃ g, mergeSnapshots fold (first :: rest) = some g ∧
      (g.promptTokenCount = lastReported ((first :: rest).map (·.promptTokenCount)) ∧
        g.toolUsePromptTokenCount =
          lastReported ((first :: rest).map (·.toolUsePromptTokenCount)) ∧
        g.candidatesTokenCount = lastReported ((first :: rest).map (·.candidatesTokenCount)) ∧
        g.thoughtsTokenCount = lastThoughts (first :: rest) ∧
        g.cachedContentTokenCount =
          lastReported ((first :: rest).map (·.cachedContentTokenCount))) ∧
      (lastReported ((first :: rest).map (·.totalTokenCount)) ≤ g.totalTokenCount ∧
        (rest ≠ [] → wrap (countersSum (first :: rest)) ≤ g.totalTokenCount) ∧
        (g.totalTokenCount = lastReported ((first :: rest).map (·.totalTokenCount)) ∨
          ∃ p, p <+: first :: rest ∧ g.totalTokenCount = wrap (countersSum p))) ∧
      ∀ m, wrap (modalityTokens fold m g.promptTokensDetails) =
          wrap ((first :: rest).map fun s => modalityTokens fold m s.promptTokensDetails).sum ∧
        wrap (modalityTokens fold m g.toolUsePromptTokensDetails) =
          wrap ((first :: rest).map fun s =>
            modalityTokens fold m s.toolUsePromptTokensDetails).sum ∧
        wrap (modalityTokens fold m g.candidatesTokensDetails) =
          wrap ((first :: rest).map fun s =>
            modalityTokens fold m s.candidatesTokensDetails).sum := by
  obtain ⟨g, hg, h⟩ := @overlaid_mergeSnapshots fold first rest (hall first (by simp))
    fun s hs => hall s (by simp [hs])
  refine ⟨g, hg, ⟨h.prompt, h.toolUse, h.candidates, h.thoughts, h.cached⟩,
    ⟨h.total_le, fun hne => h.sum_le ?_, h.total_eq⟩,
    fun m => ⟨h.promptDetails m, h.toolUseDetails m, h.candidatesDetails m⟩⟩
  have := List.length_pos_of_ne_nil hne
  rw [length_cons]
  omega

/-- A chunk with a spoken prompt. -/
def spokenChunk : GeminiUsageMetadata where
  promptTokenCount := 10
  totalTokenCount := 10
  promptTokensDetails := [⟨"AUDIO", 10⟩]

theorem counted_spokenChunk : spokenChunk.Counted := by
  constructor <;> decide

/-- A second chunk that has the same prompt, and candidates. -/
theorem merged_counters_two_chunks :
    ∃ g, mergeSnapshots asciiFolding [spokenChunk, { spokenChunk with candidatesTokenCount := 5 }] =
        some g ∧
      g.promptTokenCount = 10 ∧ g.candidatesTokenCount = 5 ∧ 15 ≤ g.totalTokenCount ∧
      wrap (modalityTokens asciiFolding "AUDIO" g.promptTokensDetails) = 20 := by
  obtain ⟨g, hg, ⟨hprompt, -, hcandidates, -⟩, ⟨-, hsum, -⟩, hdetails⟩ :=
    @merged_counters asciiFolding spokenChunk [{ spokenChunk with candidatesTokenCount := 5 }] (by
      intro s hs
      rcases List.mem_cons.mp hs with rfl | hs
      · exact counted_spokenChunk
      · rw [mem_singleton.mp hs]
        constructor <;> decide)
  refine ⟨g, hg, hprompt, hcandidates, hsum (List.cons_ne_nil _ _), ?_⟩
  rw [(hdetails "AUDIO").1]
  decide +kernel

/-- A chunk that is repeated counts its modalities twice, past the counter they detail; and a total
is raised that no chunk has reported so. -/
theorem spokenChunk_counted_twice :
    mergeSnapshots asciiFolding [spokenChunk, spokenChunk] =
        some { spokenChunk with promptTokensDetails := [⟨"AUDIO", 20⟩] } ∧
      mergeSnapshots asciiFolding [spokenChunk, { candidatesTokenCount := 5 }] =
        some { spokenChunk with
          candidatesTokenCount := 5
          totalTokenCount := 15 } := by
  decide +kernel

end Dto
