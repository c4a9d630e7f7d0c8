/-
# TypedContract.Proofs.Text.Pieces -- texts that are cut up and put together

A text that is split at a mark is the pieces with the mark between them
(`joinWith_splitOnChar`), and pieces without the mark come back from the text that they
make (`splitOnChar_joinWith`).  Trimming leaves a part of the text that begins and ends with
something else, and a text that does so already is left as it is.
-/
import Mathlib.Data.List.Infix
import TypedContract.Text.Ranges

namespace TypedContract.Text

set_option autoImplicit false

variable {p : Char → Bool} {text : List Char}

/-! ## Pieces -/

/-- A text that falls into one piece has no place to split at. -/
theorem eq_of_splitOnChar_eq_singleton {piece : List Char} (whole : splitOnChar p text = [piece]) :
    text = piece ∧ ∀ c ∈ text, p c = false := by
  induction text generalizing piece with
  | nil => exact ⟨by simpa [splitOnChar] using whole, nofun⟩
  | cons c rest ih =>
      unfold splitOnChar at whole
      split at whole
      · exact absurd (List.cons.inj whole).2 (splitOnChar_ne_nil p rest)
      · rename_i other
        split at whole
        · rename_i none
          exact absurd none (splitOnChar_ne_nil p rest)
        · rename_i first pieces split_
          obtain ⟨rfl, rfl⟩ := List.cons.inj whole
          obtain ⟨rfl, none⟩ := ih split_
          exact ⟨rfl, List.forall_mem_cons.2 ⟨by simpa using other, none⟩⟩

/-- The pieces of a text, joined where they were split, are the text. -/
theorem joinWith_splitOnChar (mark : Char) (text : List Char) :
    joinWith [mark] (splitOnChar (· == mark) text) = text := by
  induction text with
  | nil => rfl
  | cons c rest ih =>
      unfold splitOnChar
      cases pieces : splitOnChar (· == mark) rest with
      | nil => exact absurd pieces (splitOnChar_ne_nil _ rest)
      | cons piece pieces' =>
          rw [pieces] at ih
          split
          · rename_i found
            rw [joinWith, ih, beq_iff_eq.1 found]
            · rfl
            · simp
          · cases pieces' with
            | nil => exact congrArg (c :: ·) ih
            | cons next others => exact congrArg (c :: ·) ih

/-- A text with no place to split at is one piece. -/
theorem splitOnChar_eq_singleton (free : ∀ c ∈ text, p c = false) : splitOnChar p text = [text] := by
  induction text with
  | nil => rfl
  | cons c rest ih =>
      obtain ⟨first, others⟩ := List.forall_mem_cons.1 free
      simp [splitOnChar, first, ih others]

/-- A piece ends at the first place to split at. -/
theorem splitOnChar_append_cons {piece : List Char} {mark : Char} (splits : p mark = true)
    (free : ∀ c ∈ piece, p c = false) :
    splitOnChar p (piece ++ mark :: text) = piece :: splitOnChar p text := by
  induction piece with
  | nil => simp [splitOnChar, splits]
  | cons c rest ih =>
      obtain ⟨first, others⟩ := List.forall_mem_cons.1 free
      rw [List.cons_append, splitOnChar, if_neg (by simp [first]), ih others]

/-- Pieces without the mark come back from the text that they make with the mark between
them. -/
theorem splitOnChar_joinWith {mark : Char} {piece : List Char} {pieces : List (List Char)}
    (splits : p mark = true) (free : ∀ piece' ∈ piece :: pieces, ∀ c ∈ piece', p c = false) :
    splitOnChar p (joinWith [mark] (piece :: pieces)) = piece :: pieces := by
  induction pieces generalizing piece with
  | nil => exact splitOnChar_eq_singleton (free piece List.mem_cons_self)
  | cons next others ih =>
      obtain ⟨first, rest⟩ := List.forall_mem_cons.1 free
      have whole : joinWith [mark] (piece :: next :: others) =
          piece ++ mark :: joinWith [mark] (next :: others) := by simp [joinWith]
      rw [whole, splitOnChar_append_cons splits first, ih rest]

/-- The last piece stands behind the others. -/
theorem joinWith_concat {separator last : List Char} {pieces : List (List Char)} (some_ : pieces ≠ []) :
    joinWith separator (pieces ++ [last]) = joinWith separator pieces ++ separator ++ last := by
  induction pieces with
  | nil => exact absurd rfl some_
  | cons piece pieces ih =>
      cases pieces with
      | nil => rfl
      | cons next others =>
          have rest := ih (by simp)
          simp only [List.cons_append, joinWith] at rest ⊢
          rw [rest]
          simp only [List.append_assoc]

/-- The first piece goes up to the first place to split at. -/
theorem headD_splitOnChar (p : Char → Bool) (text : List Char) :
    (splitOnChar p text).headD [] = text.takeWhile (!p ·) := by
  induction text with
  | nil => rfl
  | cons c rest ih =>
      unfold splitOnChar
      cases pieces : splitOnChar p rest with
      | nil => exact absurd pieces (splitOnChar_ne_nil p rest)
      | cons piece others =>
          rw [pieces, List.headD_cons] at ih
          by_cases found : p c
          · simp [found]
          · simp [found, ih]

/-! ## Trimming -/

theorem trimBoth_isInfix (p : Char → Bool) (text : List Char) : trimBoth p text <:+: text := by
  have front : text.dropWhile p <:+ text := List.dropWhile_suffix p
  have back : trimBoth p text <+: text.dropWhile p := by
    rw [← List.reverse_suffix, trimBoth, List.reverse_reverse]
    exact List.dropWhile_suffix p
  exact back.isInfix.trans front.isInfix

/-- A text that begins and ends with something else is left as it is. -/
theorem trimBoth_eq_self (first : ∀ c ∈ text.head?, p c = false)
    (last : ∀ c ∈ text.getLast?, p c = false) : trimBoth p text = text := by
  have kept : ∀ {text : List Char}, (∀ c ∈ text.head?, p c = false) → text.dropWhile p = text := by
    intro text first
    cases text with
    | nil => rfl
    | cons c rest => simp [List.dropWhile, first c rfl]
  rw [trimBoth, kept first, kept (by simpa using last), List.reverse_reverse]

/-- What is left when both ends are dropped begins and ends with something else. -/
theorem trimBoth_cases : trimBoth p text = [] ∨
    (∃ c rest, trimBoth p text = c :: rest ∧ p c = false) ∧
      ∃ front c, trimBoth p text = front ++ [c] ∧ p c = false := by
  unfold trimBoth
  cases back : (text.dropWhile p).reverse.dropWhile p with
  | nil => exact .inl rfl
  | cons c rest =>
      have final : p c = false := by
        simpa [back] using List.head?_dropWhile_not p (text.dropWhile p).reverse
      refine .inr ⟨?_, rest.reverse, c, by simp, final⟩
      obtain ⟨dropped, split⟩ : (c :: rest) <:+ (text.dropWhile p).reverse :=
        back ▸ List.dropWhile_suffix p
      have whole : text.dropWhile p = (c :: rest).reverse ++ dropped.reverse := by
        rw [← List.reverse_append, split, List.reverse_reverse]
      cases front : (c :: rest).reverse with
      | nil => simp at front
      | cons d others =>
          rw [front, List.cons_append] at whole
          exact ⟨d, others, rfl, by simpa [whole] using List.head?_dropWhile_not p text⟩

end TypedContract.Text
