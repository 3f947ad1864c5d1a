import Mathlib.Algebra.Group.Int.Defs
import Mathlib.Data.List.Infix
import Mathlib.Data.List.DropRight

/-!
# Machinery/Text — functions of Go's `strings` package

Strings are compared through their characters, which keeps every test evaluable.

* `split_trimChar_join_iff` — when a list is read back from the text it was joined to.
-/

namespace Text

open List String

/-- `unicode.IsSpace`. -/
def isSpace (c : Char) : Bool :=
  let n := c.toNat
  (0x09 ≤ n && n ≤ 0x0D) || n == 0x20 || n == 0x85 || n == 0xA0 || n == 0x1680 ||
    (0x2000 ≤ n && n ≤ 0x200A) || n == 0x2028 || n == 0x2029 || n == 0x202F || n == 0x205F ||
    n == 0x3000

/-- `strings.TrimSpace`, as the characters that are left. -/
def trimSpace (s : String) : List Char :=
  ((s.toList.dropWhile isSpace).reverse.dropWhile isSpace).reverse

/-- `strings.TrimSpace` itself. -/
def trimmed (s : String) : String := String.ofList (trimSpace s)

/-- `strings.TrimSpace(s) == t`. -/
def trimsTo (s t : String) : Bool := trimSpace s == t.toList

/-- `strings.HasPrefix(s, t)`. -/
def startsWith (s t : String) : Bool := t.toList.isPrefixOf s.toList

/-- `strings.Contains(s, t)`. -/
def contains (s t : String) : Bool := decide (t.toList <:+: s.toList)

/-- `unicode.ToLower`, as far as ASCII letters come out of it. -/
def lowerChar (c : Char) : Char :=
  if c.toNat = 0x130 then 'i' else if c.toNat = 0x212A then 'k' else c.toLower

/-- `strings.ToLower`. -/
def lower (s : String) : String := String.ofList (s.toList.map lowerChar)

/-- `strings.CutSuffix(s, t)`: what stands before it. -/
def cutSuffix (s t : String) : Option String :=
  if t.toList.isSuffixOf s.toList then
    some (String.ofList (s.toList.take (s.toList.length - t.toList.length)))
  else none

/-- What stands before and after the last occurrence of `t`. -/
def cutLast (t : List Char) : List Char → Option (List Char × List Char)
  | [] => if t = [] then some ([], []) else none
  | c :: cs =>
    match cutLast t cs with
    | some (before, after) => some (c :: before, after)
    | none => if t.isPrefixOf (c :: cs) then some ([], (c :: cs).drop t.length) else none

/-- `s[:i]` and `s[i+len(t):]` where `i` is `strings.LastIndex(s, t)`. -/
def cutAtLast (s t : String) : Option (String × String) :=
  (cutLast t.toList s.toList).map fun parts => (String.ofList parts.1, String.ofList parts.2)

/-- `strings.Trim(s, string(c))`. -/
def trimChar (c : Char) (s : String) : String :=
  String.ofList ((s.toList.dropWhile (· = c)).reverse.dropWhile (· = c)).reverse

/-- `strings.Split(s, string(c))`. -/
def split (c : Char) (s : String) : List String := (s.toList.splitOn c).map String.ofList

/-- The number a list of digits spells. -/
def digits (cs : List Char) : Option ℕ :=
  if cs ≠ [] ∧ cs.all Char.isDigit then
    some (cs.foldl (fun n c => n * 10 + (c.toNat - '0'.toNat)) 0)
  else none

/-- `strconv.Atoi`, on a machine whose integers have 64 bits. -/
def atoi (s : String) : Option ℤ :=
  let value : Option ℤ :=
    match s.toList with
    | '+' :: cs => (digits cs).map fun n : ℕ => (n : ℤ)
    | '-' :: cs => (digits cs).map fun n : ℕ => -(n : ℤ)
    | cs => (digits cs).map fun n : ℕ => (n : ℤ)
  value.filter fun n => -2 ^ 63 ≤ n ∧ n < 2 ^ 63

/-! ## Lists in a text -/

/-- `strings.Join(l, string(c))`. -/
def join (c : Char) (l : List String) : String :=
  String.ofList ([c].intercalate (l.map String.toList))

section

variable {c : Char}

theorem not_mem_of_mem_splitOn {l cs : List Char} (h : l ∈ cs.splitOn c) : c ∉ l := by
  induction cs generalizing l with
  | nil =>
    rw [mem_singleton.1 h]
    exact not_mem_nil
  | cons d cs ih =>
    change l ∈ splitOnP (· == c) (d :: cs) at h
    rw [splitOnP_cons_eq_if_modifyHead] at h
    split_ifs at h with hd
    · rcases mem_cons.1 h with rfl | h
      · exact not_mem_nil
      · exact ih h
    · cases hsplit : cs.splitOnP (· == c) with
      | nil =>
        rw [hsplit] at h
        cases h
      | cons first rest =>
        rw [hsplit] at h
        rcases mem_cons.1 h with rfl | h
        · have hfirst : c ∉ first := ih (mem_of_mem_head? (by
            change first ∈ (splitOnP (· == c) cs).head?
            rw [hsplit]
            rfl))
          refine fun hmem => (mem_cons.1 hmem).elim (fun heq => hd ?_) hfirst
          rw [heq, beq_self_eq_true]
        · refine ih ?_
          change l ∈ splitOnP (· == c) cs
          rw [hsplit]
          exact mem_cons_of_mem _ h

variable {x : List Char} {l : List (List Char)}

theorem head?_intercalate :
    ([c].intercalate (x :: l)).head? = x.head?.or (if l = [] then none else some c) := by
  cases l with
  | nil => simp
  | cons y l =>
    rw [List.intercalate_cons_cons, List.append_assoc, List.head?_append, if_neg (by simp)]
    rfl

theorem intercalate_concat (h : l ≠ []) :
    [c].intercalate (l ++ [x]) = [c].intercalate l ++ c :: x := by
  induction l with
  | nil => exact absurd rfl h
  | cons y l ih =>
    cases l with
    | nil => simp
    | cons z l =>
      rw [List.cons_append, List.cons_append, List.intercalate_cons_cons,
        List.intercalate_cons_cons, ← List.cons_append, ih (by simp)]
      simp

theorem getLast?_intercalate :
    ([c].intercalate (l ++ [x])).getLast? = x.getLast?.or (if l = [] then none else some c) := by
  by_cases h : l = []
  · simp [h]
  · rw [intercalate_concat h, if_neg h]
    cases x using reverseRecOn with
    | nil => simp
    | append_singleton x d =>
      rw [← List.cons_append, ← List.append_assoc, List.getLast?_concat, List.getLast?_concat]
      rfl

variable {s : String}

theorem trimChar_eq_self_iff :
    trimChar c s = s ↔ s.toList.head? ≠ some c ∧ s.toList.getLast? ≠ some c := by
  rw [trimChar, ← toList_inj, toList_ofList]
  generalize s.toList = cs
  constructor
  · intro h
    have hle := (cs.dropWhile (· = c)).reverse.dropWhile_suffix (· = c) |>.length_le
    have hlen := congrArg List.length h
    rw [length_reverse] at hlen
    rw [length_reverse] at hle
    constructor
    · intro hhead
      obtain ⟨rest, rfl⟩ := head?_eq_some_iff.1 hhead
      have hrest := (rest.dropWhile_suffix (· = c)).length_le
      rw [dropWhile_cons_of_pos (by simp)] at hle hlen
      rw [length_cons] at hlen
      omega
    · intro hlast
      obtain ⟨rest, rfl⟩ := getLast?_eq_some_iff.1 hlast
      rw [← h] at hlast
      rw [getLast?_reverse] at hlast
      have hnot := head?_dropWhile_not (fun d => decide (d = c))
        (dropWhile (fun d => decide (d = c)) (rest ++ [c])).reverse
      rw [hlast] at hnot
      simp at hnot
  · rintro ⟨hhead, hlast⟩
    have hleft : cs.dropWhile (· = c) = cs := by
      cases cs with
      | nil => rfl
      | cons d cs => exact dropWhile_cons_of_neg (by simpa using hhead)
    rw [hleft]
    have hright : cs.reverse.dropWhile (· = c) = cs.reverse := by
      rw [← head?_reverse] at hlast
      cases hrev : cs.reverse with
      | nil => rfl
      | cons d ds =>
        rw [hrev] at hlast
        exact dropWhile_cons_of_neg (by simpa using hlast)
    rw [hright, reverse_reverse]

theorem trimChar_append (s : String) : trimChar c (s ++ singleton c) = trimChar c s := by
  have hlist : (s ++ singleton c).toList = s.toList ++ [c] := by simp
  rw [trimChar, trimChar, hlist, dropWhile_append]
  split_ifs with hall
  · rw [isEmpty_iff.1 hall]
    simp
  · rw [reverse_append, reverse_singleton, singleton_append,
      dropWhile_cons_of_pos (by simp)]

variable {l : List String}

theorem toList_join :
    (join c l).toList = [c].intercalate (l.map toList) := toList_ofList

theorem forall_mem_join {p : Char → Prop} (hc : p c) (h : ∀ s ∈ l, ∀ d ∈ s.toList, p d) :
    ∀ d ∈ (join c l).toList, p d := by
  rw [toList_join]
  induction l with
  | nil => simp
  | cons s l ih =>
    obtain ⟨hs, hl⟩ := forall_mem_cons.1 h
    cases l with
    | nil => simpa using hs
    | cons t l =>
      rw [List.map_cons, List.map_cons, List.intercalate_cons_cons, List.append_assoc]
      exact forall_mem_append.2 ⟨hs, forall_mem_cons.2 ⟨hc, ih hl⟩⟩

theorem join_eq_empty_iff : join c l = "" ↔ l = [] ∨ l = [""] := by
  constructor
  · intro h
    have hnil : [c].intercalate (l.map toList) = [] := by
      rw [← toList_join, h]
      rfl
    match l with
    | [] => exact Or.inl rfl
    | [s] =>
      rw [List.map_singleton, List.intercalate_singleton, String.toList_eq_nil_iff] at hnil
      exact Or.inr (by rw [hnil])
    | s :: t :: l =>
      rw [List.map_cons, List.map_cons, List.intercalate_cons_cons] at hnil
      simp at hnil
  · rintro (rfl | rfl)
    · rfl
    · rw [join]
      simp

/-- Splitting is undone by joining. -/
theorem join_split (s : String) : join c (split c s) = s := by
  rw [join, split, List.map_map]
  have hid : (toList ∘ ofList) = id := funext fun _ => toList_ofList
  rw [hid, List.map_id, List.intercalate_splitOn, String.ofList_toList]

/-- …and joining by splitting, without the separator in a part. -/
theorem split_join (h : ∀ s ∈ l, c ∉ s.toList) (hne : l ≠ []) : split c (join c l) = l := by
  rw [split, toList_join, splitOn_intercalate]
  · rw [List.map_map]
    have hid : (ofList ∘ toList) = id := funext fun _ => String.ofList_toList
    rw [hid, List.map_id]
  · intro cs hcs
    obtain ⟨s, hs, rfl⟩ := mem_map.1 hcs
    exact h s hs
  · simpa using hne

theorem split_of_not_mem (h : c ∉ s.toList) : split c s = [s] := by
  have hjoin : join c [s] = s := by simp [join]
  conv_lhs => rw [← hjoin]
  exact split_join (by simpa using h) (by simp)

theorem split_ne_nil (c : Char) (s : String) : split c s ≠ [] := by
  rw [split, ne_eq, map_eq_nil_iff]
  exact splitOnP_ne_nil _ _

variable {t : String}

/-- No part contains the separator. -/
theorem not_mem_of_mem_split (h : s ∈ split c t) : c ∉ s.toList := by
  obtain ⟨cs, hcs, rfl⟩ := mem_map.1 h
  rw [toList_ofList]
  exact not_mem_of_mem_splitOn hcs

/-- A text after a separator is a part of its own. -/
theorem split_append (h : c ∉ t.toList) :
    split c (s ++ singleton c ++ t) = split c s ++ [t] := by
  have hjoin : join c (split c s ++ [t]) = s ++ singleton c ++ t := by
    rw [← toList_inj, toList_join, map_append, List.map_singleton,
      intercalate_concat (by simpa using split_ne_nil c s), ← toList_join, join_split]
    simp [toList_append]
  rw [← hjoin, split_join _ (by simp)]
  intro part hpart
  rcases mem_append.1 hpart with hpart | hpart
  · exact not_mem_of_mem_split hpart
  · rwa [mem_singleton.1 hpart]

/-- No text of the list has the separator in it, and the first and the last are not empty. -/
structure Separable (c : Char) (l : List String) : Prop where
  separator : ∀ s ∈ l, c ∉ s.toList
  first : l.head? ≠ some ""
  last : l.getLast? ≠ some ""

/-- **A list is read back** from a joined text that is trimmed when it is separable, and only
then. -/
theorem split_trimChar_join_iff (hne : join c l ≠ "") :
    split c (trimChar c (join c l)) = l ↔ Separable c l := by
  have hnil : l ≠ [] := by
    rintro rfl
    exact hne rfl
  constructor
  · intro h
    have hself : trimChar c (join c l) = join c l := by
      conv_rhs => rw [← h, join_split]
    obtain ⟨hhead, hlast⟩ := trimChar_eq_self_iff.1 hself
    refine ⟨fun s hs => not_mem_of_mem_split (h ▸ hs), fun hfirst => ?_, fun hend => ?_⟩
    · obtain ⟨rest, rfl⟩ := head?_eq_some_iff.1 hfirst
      rw [toList_join, List.map_cons, head?_intercalate] at hhead
      cases rest with
      | nil => exact hne (join_eq_empty_iff.2 (Or.inr rfl))
      | cons t rest => exact hhead rfl
    · obtain ⟨rest, rfl⟩ := getLast?_eq_some_iff.1 hend
      rw [toList_join, map_append, List.map_singleton, getLast?_intercalate] at hlast
      cases rest with
      | nil => exact hne (join_eq_empty_iff.2 (Or.inr rfl))
      | cons t rest => exact hlast rfl
  · intro h
    have hself : trimChar c (join c l) = join c l := by
      refine trimChar_eq_self_iff.2 ⟨fun hhead => ?_, fun hlast => ?_⟩
      · obtain ⟨s, rest, rfl⟩ := exists_cons_of_ne_nil hnil
        rw [toList_join, List.map_cons, head?_intercalate] at hhead
        cases hs : s.toList with
        | nil => exact h.first (by rw [String.toList_eq_nil_iff.1 hs]; rfl)
        | cons d cs =>
          rw [hs] at hhead
          obtain rfl : d = c := Option.some.inj hhead
          refine h.separator s mem_cons_self ?_
          rw [hs]
          exact mem_cons_self
      · obtain ⟨rest, s, rfl⟩ := (eq_nil_or_concat' l).resolve_left hnil
        rw [toList_join, map_append, List.map_singleton, getLast?_intercalate] at hlast
        cases hs : s.toList.getLast? with
        | none =>
          rw [getLast?_eq_none_iff, String.toList_eq_nil_iff] at hs
          exact h.last (by rw [hs, List.getLast?_concat])
        | some d =>
          rw [hs] at hlast
          obtain rfl : d = c := Option.some.inj hlast
          exact h.separator s (by simp) (mem_of_getLast? hs)
    rw [hself, split_join h.separator hnil]

end

end Text
