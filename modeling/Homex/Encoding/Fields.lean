import Mathlib.Algebra.Order.BigOperators.Group.List
import Mathlib.Algebra.Order.Ring.Nat
import Mathlib.Data.List.TakeWhile

/-!
# Fields with separators

A list of pairs written as one text: each pair as its key, a mark and its value,
and the pairs with a separator between them. The reader splits the text at every
separator, and each part at its first mark. Nothing is escaped, so the pairs come
back exactly when no key or value has the separator, and no key the mark.
-/

namespace Encoding

variable {α : Type*} [DecidableEq α]

/-- A part up to its first mark, and what follows the mark. -/
def splitFirst (mark : α) (part : List α) : Option (List α × List α) :=
  if mark ∈ part then
    some (part.takeWhile (· ≠ mark), (part.dropWhile (· ≠ mark)).tail)
  else
    none

/-- The pairs in some parts, when each part is one. -/
def readPairs (mark : α) : List (List α) → Option (List (List α × List α))
  | [] => some []
  | part :: parts =>
      match splitFirst mark part, readPairs mark parts with
      | some pair, some pairs => some (pair :: pairs)
      | _, _ => none

/-- The pairs of a text. -/
def splitFields (sep mark : α) (text : List α) : Option (List (List α × List α)) :=
  readPairs mark (text.splitOn sep)

/-- One pair as a part. -/
def joinPair (mark : α) (pair : List α × List α) : List α := pair.1 ++ mark :: pair.2

/-- The pairs as one text. -/
def joinFields (sep mark : α) (pairs : List (List α × List α)) : List α :=
  [sep].intercalate (pairs.map (joinPair mark))

section Pairs

variable {mark : α} {part : List α} {pair : List α × List α}

/-- A part reads as a pair when it is that pair, and the key has no mark. -/
theorem splitFirst_eq_some :
    splitFirst mark part = some pair ↔ part = joinPair mark pair ∧ mark ∉ pair.1 := by
  constructor
  · intro h
    unfold splitFirst at h
    split at h
    · next hmem =>
      cases h
      have hrest : (part.dropWhile (· ≠ mark)) ≠ [] := by
        intro hnil
        have hall := List.dropWhile_eq_nil_iff.mp hnil mark hmem
        simp at hall
      have hhead : (part.dropWhile (· ≠ mark)).head hrest = mark := by
        have hfirst := List.head_dropWhile_not (fun a => decide (a ≠ mark)) hrest
        simpa using hfirst
      have hdrop := List.cons_head_tail hrest
      rw [hhead] at hdrop
      refine ⟨?_, fun hkey => ?_⟩
      · rw [joinPair, hdrop, List.takeWhile_append_dropWhile]
      · have hne := List.mem_takeWhile_imp hkey
        simp at hne
    · cases h
  · rintro ⟨rfl, hkey⟩
    have hall : ∀ a ∈ pair.1, decide (a ≠ mark) = true := by
      intro a ha
      rw [decide_eq_true_eq]
      rintro rfl
      exact hkey ha
    unfold splitFirst joinPair
    rw [if_pos (by simp), List.takeWhile_append_of_pos hall, List.dropWhile_append_of_pos hall]
    simp

theorem readPairs_eq_some {parts : List (List α)} {pairs : List (List α × List α)} :
    readPairs mark parts = some pairs ↔
      parts = pairs.map (joinPair mark) ∧ ∀ pair ∈ pairs, mark ∉ pair.1 := by
  induction parts generalizing pairs with
  | nil =>
      cases pairs with
      | nil => simp [readPairs]
      | cons pair pairs => simp [readPairs]
  | cons part parts ih =>
      cases pairs with
      | nil =>
          rw [readPairs]
          cases splitFirst mark part with
          | none => simp
          | some pair =>
              cases readPairs mark parts with
              | none => simp
              | some pairs => simp
      | cons pair pairs =>
          have hcons : readPairs mark (part :: parts) = some (pair :: pairs) ↔
              splitFirst mark part = some pair ∧ readPairs mark parts = some pairs := by
            rw [readPairs]
            cases splitFirst mark part with
            | none => simp
            | some first =>
                cases readPairs mark parts with
                | none => simp
                | some rest => simp
          rw [hcons, splitFirst_eq_some, ih]
          simp only [List.map_cons, List.cons.injEq, List.forall_mem_cons]
          tauto

end Pairs

/-- A text has one part more than it has separators. -/
theorem length_splitOn (sep : α) (text : List α) :
    (text.splitOn sep).length = text.count sep + 1 := by
  induction text with
  | nil => simp
  | cons a text ih =>
      rw [List.splitOn_cons_eq_if_modifyHead, List.count_cons]
      by_cases ha : a = sep
      · simp [ha, ih]
      · simp [ha, ih]

/-- The separators between the parts, and those in them. -/
theorem count_intercalate (sep : α) {parts : List (List α)} (hparts : parts ≠ []) :
    ([sep].intercalate parts).count sep + 1 =
      (parts.map fun part => part.count sep).sum + parts.length := by
  induction parts with
  | nil => exact absurd rfl hparts
  | cons part parts ih =>
      cases parts with
      | nil => simp [List.intercalate]
      | cons next parts =>
          rw [List.intercalate_cons_of_ne_nil (List.cons_ne_nil _ _)]
          have ih := ih (List.cons_ne_nil _ _)
          simp only [List.count_append, List.count_singleton_self, List.map_cons, List.sum_cons,
            List.length_cons] at ih ⊢
          omega

/-- The parts come back unless one of them has the separator. -/
theorem splitOn_intercalate_iff {sep : α} {parts : List (List α)} (hparts : parts ≠ []) :
    ([sep].intercalate parts).splitOn sep = parts ↔ ∀ part ∈ parts, sep ∉ part := by
  constructor
  · intro h part hpart hmem
    have hlength := congrArg List.length h
    rw [length_splitOn, count_intercalate sep hparts] at hlength
    have hle : part.count sep ≤ (parts.map fun part => part.count sep).sum :=
      List.le_sum_of_mem (List.mem_map_of_mem hpart)
    have hpos : 0 < part.count sep := List.count_pos_iff.mpr hmem
    omega
  · intro h
    exact List.splitOn_intercalate sep h hparts

section Fields

variable {sep mark : α} {pairs : List (List α × List α)}

/-- What reads as some pairs is these pairs, joined. -/
theorem joinFields_of_splitFields {text : List α} (h : splitFields sep mark text = some pairs) :
    joinFields sep mark pairs = text := by
  rw [joinFields, ← (readPairs_eq_some.mp h).1, List.intercalate_splitOn]

/-- The pairs come back exactly when none of them has a separator, and no key a mark. -/
theorem splitFields_joinFields (hne : sep ≠ mark) (hpairs : pairs ≠ []) :
    splitFields sep mark (joinFields sep mark pairs) = some pairs ↔
      ∀ pair ∈ pairs, sep ∉ pair.1 ∧ sep ∉ pair.2 ∧ mark ∉ pair.1 := by
  have hparts : pairs.map (joinPair mark) ≠ [] := by simpa using hpairs
  rw [splitFields, readPairs_eq_some, joinFields, splitOn_intercalate_iff hparts,
    List.forall_mem_map, ← forall₂_and]
  refine forall₂_congr fun pair _ => ?_
  simp [joinPair, hne, and_assoc]

end Fields

/-- What follows the last separator. -/
def afterLast (sep : α) : List α → List α
  | [] => []
  | a :: text => if sep ∈ text then afterLast sep text else if a = sep then text else a :: text

theorem afterLast_append {sep : α} (start text : List α) :
    afterLast sep (start ++ sep :: text) = if sep ∈ text then afterLast sep text else text := by
  induction start with
  | nil => simp [afterLast]
  | cons a start ih => simp [afterLast, ih]

/-- A text with a separator is a start, the last separator, and what follows it. -/
theorem exists_eq_append_afterLast {sep : α} {text : List α} (h : sep ∈ text) :
    ∃ start, text = start ++ sep :: afterLast sep text := by
  induction text with
  | nil => cases h
  | cons a text ih =>
      by_cases htext : sep ∈ text
      · obtain ⟨start, hstart⟩ := ih htext
        refine ⟨a :: start, ?_⟩
        rw [afterLast, if_pos htext, List.cons_append, ← hstart]
      · have ha : a = sep := ((List.mem_cons.mp h).resolve_right htext).symm
        exact ⟨[], by rw [afterLast, if_neg htext, if_pos ha, ha, List.nil_append]⟩

end Encoding
