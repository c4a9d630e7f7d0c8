/-
# TypedContract.Proofs.Text.Markup -- texts without markup

Taking the tags out of a text puts characters side by side that were apart, and so does
joining its white space, but neither makes a new tag.  A `<` is left in a text for one of two
reasons only: a `>` stands right behind it, or no `>` stands behind it at all
(`afterTag?_eq_none_iff`).  Both steps leave such a `>` where it is and put none anywhere, so
the reason stays one (`afterTag?_dropTagsWithin`, `afterTag?_joinBlanks`).

A text is `Stripped` when it has no tag and no white space but single blanks, none of them at
an end.  These are exactly the texts that are left as they are, and what comes out of
stripping is one of them (`stripMarkup_normal`).
-/
import Mathlib.Data.List.Infix
import TypedContract.Proofs.Text.Pieces
import TypedContract.Text.Markup

namespace TypedContract.Text

set_option autoImplicit false

variable {bound : Nat} {c : Char} {text part rest back : List Char}

/-! ## Tags -/

/-- A tag stands in the text: a `<`, at least one other character than `>`, and a `>`. -/
def HoldsTag (text : List Char) : Prop :=
  ∃ front inner back, text = front ++ '<' :: (inner ++ '>' :: back) ∧ inner ≠ [] ∧ '>' ∉ inner

theorem afterTag?_eq_some_iff : afterTag? text = some back ↔
    ∃ inner, text = inner ++ '>' :: back ∧ inner ≠ [] ∧ '>' ∉ inner := by
  constructor
  · intro tag
    unfold afterTag? at tag
    split at tag
    · rename_i c inner mark after taken dropped
      cases tag
      have free : '>' ∉ text.takeWhile (· != '>') := fun member => by
        simpa using List.all_eq_true.1 List.all_takeWhile _ member
      obtain rfl : mark = '>' := by
        simpa [dropped] using List.head?_dropWhile_not (· != '>') text
      refine ⟨c :: inner, ?_, List.cons_ne_nil _ _, taken ▸ free⟩
      exact (List.takeWhile_append_dropWhile ..).symm.trans (by rw [taken, dropped])
    · cases tag
  · rintro ⟨inner, rfl, some_, free⟩
    have inside : ∀ c ∈ inner, (c != '>') = true := by
      intro c member
      exact bne_iff_ne.2 fun same => free (same ▸ member)
    obtain ⟨c, others, rfl⟩ := List.exists_cons_of_ne_nil some_
    unfold afterTag?
    rw [List.takeWhile_append_of_pos inside, List.dropWhile_append_of_pos inside]
    rfl

/-- No tag begins with a `<` right before a `>` or with no `>` behind it. -/
theorem afterTag?_eq_none_iff : afterTag? text = none ↔ text.head? = some '>' ∨ '>' ∉ text := by
  constructor
  · intro none
    by_contra neither
    obtain ⟨first, member⟩ := not_or.1 neither
    obtain ⟨inner, back, rfl, free⟩ := List.eq_append_cons_of_mem (not_not.1 member)
    have some_ : inner ≠ [] := by
      rintro rfl
      exact first rfl
    cases none.symm.trans (afterTag?_eq_some_iff.2 ⟨inner, rfl, some_, free⟩)
  · intro harmless
    cases tag : afterTag? text with
    | none => rfl
    | some back =>
        obtain ⟨inner, rfl, some_, free⟩ := afterTag?_eq_some_iff.1 tag
        obtain ⟨c, others, rfl⟩ := List.exists_cons_of_ne_nil some_
        rcases harmless with first | outside
        · cases first
          exact absurd List.mem_cons_self free
        · exact absurd (by simp) outside

theorem holdsTag_cons_iff :
    HoldsTag (c :: rest) ↔ (c = '<' ∧ ∃ back, afterTag? rest = some back) ∨ HoldsTag rest := by
  constructor
  · rintro ⟨front, inner, back, whole, some_, free⟩
    cases front with
    | nil =>
        cases whole
        exact .inl ⟨rfl, back, afterTag?_eq_some_iff.2 ⟨inner, rfl, some_, free⟩⟩
    | cons d front =>
        cases whole
        exact .inr ⟨front, inner, back, rfl, some_, free⟩
  · rintro (⟨rfl, back, tag⟩ | ⟨front, inner, back, rfl, some_, free⟩)
    · obtain ⟨inner, rfl, some_, free⟩ := afterTag?_eq_some_iff.1 tag
      exact ⟨[], inner, back, rfl, some_, free⟩
    · exact ⟨c :: front, inner, back, rfl, some_, free⟩

theorem not_holdsTag_nil : ¬ HoldsTag [] := by
  rintro ⟨front, inner, back, whole, -, -⟩
  cases front <;> cases whole

theorem not_holdsTag_cons_iff :
    ¬ HoldsTag (c :: rest) ↔ (c = '<' → afterTag? rest = none) ∧ ¬ HoldsTag rest := by
  rw [holdsTag_cons_iff, not_or, not_and, not_exists]
  refine and_congr_left' (imp_congr_right fun _ => ?_)
  exact Option.eq_none_iff_forall_ne_some.symm

/-- A tag of a part stands in the whole. -/
theorem HoldsTag.of_infix (holds : HoldsTag part) (inside : part <:+: text) : HoldsTag text := by
  obtain ⟨before, after, rfl⟩ := inside
  obtain ⟨front, inner, back, rfl, some_, free⟩ := holds
  exact ⟨before ++ front, inner, back ++ after, by simp, some_, free⟩

/-! ## Taking the tags out -/

theorem dropTagsWithin_of_none (noTag : c = '<' → afterTag? rest = none) (bound : Nat) :
    dropTagsWithin (bound + 1) (c :: rest) = c :: dropTagsWithin bound rest := by
  rw [dropTagsWithin]
  split
  · rename_i opens
    rw [noTag (beq_iff_eq.1 opens)]
  · rfl

/-- A step passes a whole tag or keeps a character with which none begins. -/
theorem dropTagsWithin_cons (bound : Nat) (c : Char) (rest : List Char) :
    (∃ inner back, c :: rest = '<' :: (inner ++ '>' :: back) ∧
      dropTagsWithin (bound + 1) (c :: rest) = dropTagsWithin bound back) ∨
    (c = '<' → afterTag? rest = none) ∧
      dropTagsWithin (bound + 1) (c :: rest) = c :: dropTagsWithin bound rest := by
  by_cases noTag : c = '<' → afterTag? rest = none
  · exact .inr ⟨noTag, dropTagsWithin_of_none noTag bound⟩
  · obtain ⟨rfl, tag⟩ := Classical.not_imp.1 noTag
    obtain ⟨back, tag⟩ := Option.ne_none_iff_exists'.1 tag
    obtain ⟨inner, rfl, -, -⟩ := afterTag?_eq_some_iff.1 tag
    exact .inl ⟨inner, back, rfl, by simp [dropTagsWithin, tag]⟩

theorem dropTagsWithin_sublist (bound : Nat) (text : List Char) :
    (dropTagsWithin bound text).Sublist text := by
  induction bound generalizing text with
  | zero => exact List.Sublist.refl _
  | succ bound ih =>
      cases text with
      | nil => exact List.Sublist.refl _
      | cons c rest =>
          rcases dropTagsWithin_cons bound c rest with ⟨inner, back, whole, passed⟩ | ⟨-, kept⟩
          · have behind : back.Sublist ('<' :: (inner ++ '>' :: back)) := by
              simpa using List.sublist_append_right ('<' :: inner ++ ['>']) back
            rw [passed, whole]
            exact (ih back).trans behind
          · rw [kept]
            exact (ih rest).cons_cons c

/-- Where no tag began none begins when the tags behind are taken out. -/
theorem afterTag?_dropTagsWithin (noTag : afterTag? text = none) (bound : Nat) :
    afterTag? (dropTagsWithin bound text) = none := by
  rw [afterTag?_eq_none_iff] at noTag ⊢
  rcases noTag with first | outside
  · left
    obtain ⟨rest, rfl⟩ := List.head?_eq_some_iff.1 first
    cases bound with
    | zero => rfl
    | succ bound =>
        have other : '>' = '<' → afterTag? rest = none := fun same => absurd same (by decide)
        rw [dropTagsWithin_of_none other]
        rfl
  · exact .inr fun member => outside ((dropTagsWithin_sublist bound text).subset member)

theorem not_holdsTag_dropTagsWithin (room : text.length ≤ bound) :
    ¬ HoldsTag (dropTagsWithin bound text) := by
  induction bound generalizing text with
  | zero =>
      rw [List.length_eq_zero_iff.1 (Nat.le_zero.1 room)]
      exact not_holdsTag_nil
  | succ bound ih =>
      cases text with
      | nil => exact not_holdsTag_nil
      | cons c rest =>
          rcases dropTagsWithin_cons bound c rest with ⟨inner, back, whole, passed⟩ | ⟨noTag, kept⟩
          · have shorter : back.length < (c :: rest).length := by
              rw [whole, List.length_cons, List.length_append, List.length_cons]
              omega
            rw [passed]
            exact ih (by omega)
          · rw [List.length_cons] at room
            rw [kept, not_holdsTag_cons_iff]
            exact ⟨fun opens => afterTag?_dropTagsWithin (noTag opens) bound, ih (by omega)⟩

theorem dropTagsWithin_eq_self (untagged : ¬ HoldsTag text) (bound : Nat) :
    dropTagsWithin bound text = text := by
  induction bound generalizing text with
  | zero => rfl
  | succ bound ih =>
      cases text with
      | nil => rfl
      | cons c rest =>
          obtain ⟨noTag, others⟩ := not_holdsTag_cons_iff.1 untagged
          rw [dropTagsWithin_of_none noTag, ih others]

/-! ## Joining white space -/

theorem joinBlanks_of_solid (solid : isBlank c = false) :
    joinBlanks (c :: rest) = c :: joinBlanks rest := by
  have apart : ¬ isBlank c = true := by simp [solid]
  rw [joinBlanks.eq_def]
  exact if_neg apart

/-- The only white space left are blanks. -/
theorem mem_joinBlanks (member : c ∈ joinBlanks text) : c = ' ' ∨ c ∈ text ∧ isBlank c = false := by
  fun_induction joinBlanks text with
  | case1 => cases member
  | case2 d blank e rest blank' ih =>
      exact (ih member).imp_right (And.imp_left (List.mem_cons_of_mem d))
  | case3 d blank e rest solid ih =>
      rcases List.mem_cons.1 member with rfl | inside
      · exact .inl rfl
      · exact (ih inside).imp_right (And.imp_left (List.mem_cons_of_mem d))
  | case4 d blank => exact .inl (List.mem_singleton.1 member)
  | case5 d rest solid ih =>
      rcases List.mem_cons.1 member with rfl | inside
      · exact .inr ⟨List.mem_cons_self, by simpa using solid⟩
      · exact (ih inside).imp_right (And.imp_left (List.mem_cons_of_mem d))

theorem isBlank_blank : isBlank ' ' = true := by decide

theorem ne_blank_of_solid (solid : isBlank c = false) : c ≠ ' ' := by
  rintro rfl
  cases isBlank_blank.symm.trans solid

/-- No two blanks stand side by side. -/
theorem not_infix_joinBlanks (text : List Char) : ¬ [' ', ' '] <:+: joinBlanks text := by
  fun_induction joinBlanks text with
  | case1 => simp
  | case2 d blank e rest blank' ih => exact ih
  | case3 d blank e rest solid ih =>
      rw [List.infix_cons_iff, not_or]
      refine ⟨?_, ih⟩
      have solid : isBlank e = false := by simpa using solid
      rw [joinBlanks_of_solid solid]
      simpa using (ne_blank_of_solid solid).symm
  | case4 d blank => exact fun double => absurd double.length_le (by simp)
  | case5 d rest solid ih =>
      rw [List.infix_cons_iff, not_or]
      have solid : isBlank d = false := by simpa using solid
      exact ⟨by simp [(ne_blank_of_solid solid).symm], ih⟩

/-- Where no tag began none begins when the white space behind is joined. -/
theorem afterTag?_joinBlanks (noTag : afterTag? text = none) : afterTag? (joinBlanks text) = none := by
  rw [afterTag?_eq_none_iff] at noTag ⊢
  rcases noTag with first | outside
  · left
    obtain ⟨rest, rfl⟩ := List.head?_eq_some_iff.1 first
    rw [joinBlanks_of_solid (by decide)]
    rfl
  · right
    intro member
    rcases mem_joinBlanks member with same | ⟨inside, -⟩
    · cases same
    · exact outside inside

theorem not_holdsTag_joinBlanks (untagged : ¬ HoldsTag text) : ¬ HoldsTag (joinBlanks text) := by
  fun_induction joinBlanks text with
  | case1 => exact not_holdsTag_nil
  | case2 d blank e rest blank' ih => exact ih (not_holdsTag_cons_iff.1 untagged).2
  | case3 d blank e rest solid ih =>
      exact not_holdsTag_cons_iff.2 ⟨nofun, ih (not_holdsTag_cons_iff.1 untagged).2⟩
  | case4 d blank => exact not_holdsTag_cons_iff.2 ⟨nofun, not_holdsTag_nil⟩
  | case5 d rest solid ih =>
      obtain ⟨noTag, others⟩ := not_holdsTag_cons_iff.1 untagged
      exact not_holdsTag_cons_iff.2 ⟨fun opens => afterTag?_joinBlanks (noTag opens), ih others⟩

theorem joinBlanks_eq_self (blanks : ∀ c ∈ text, isBlank c = true → c = ' ')
    (single : ¬ [' ', ' '] <:+: text) : joinBlanks text = text := by
  fun_induction joinBlanks text with
  | case1 => rfl
  | case2 d blank e rest blank' ih =>
      obtain rfl := blanks d List.mem_cons_self blank
      obtain rfl := blanks e (by simp) blank'
      exact absurd (List.prefix_append [' ', ' '] rest).isInfix single
  | case3 d blank e rest solid ih =>
      obtain ⟨own, others⟩ := List.forall_mem_cons.1 blanks
      rw [ih others fun inside => single (inside.trans (List.suffix_cons d _).isInfix), own blank]
  | case4 d blank => rw [blanks d List.mem_cons_self blank]
  | case5 d rest solid ih =>
      obtain ⟨-, others⟩ := List.forall_mem_cons.1 blanks
      rw [ih others fun inside => single (inside.trans (List.suffix_cons d _).isInfix)]

/-! ## Stripped texts -/

/-- The text has no tag and no white space but single blanks inside. -/
structure Stripped (text : List Char) : Prop where
  untagged : ¬ HoldsTag text
  blanks : ∀ c ∈ text, isBlank c = true → c = ' '
  single : ¬ [' ', ' '] <:+: text
  first : text.head? ≠ some ' '
  last : text.getLast? ≠ some ' '

theorem trimBoth_stripped (untagged : ¬ HoldsTag text) (blanks : ∀ c ∈ text, isBlank c = true → c = ' ')
    (single : ¬ [' ', ' '] <:+: text) : Stripped (trimBoth isBlank text) := by
  have inside : trimBoth isBlank text <:+: text := trimBoth_isInfix isBlank text
  have kept : (trimBoth isBlank text).head? ≠ some ' ' ∧ (trimBoth isBlank text).getLast? ≠ some ' ' := by
    rcases trimBoth_cases with none | ⟨⟨c, rest, begins, first⟩, front, d, ends_, last⟩
    · rw [none]
      exact ⟨nofun, nofun⟩
    · refine ⟨?_, ?_⟩
      · rw [begins]
        simpa using ne_blank_of_solid first
      · rw [ends_]
        simpa using ne_blank_of_solid last
  exact
    { untagged := fun holds => untagged (holds.of_infix inside)
      blanks := fun c member => blanks c (inside.subset member)
      single := fun double => single (double.trans inside)
      first := kept.1
      last := kept.2 }

theorem stripped_stripMarkup (text : String) : Stripped (stripMarkup text).toList := by
  rw [stripMarkup, String.toList_ofList]
  refine trimBoth_stripped ?_ ?_ (not_infix_joinBlanks _)
  · exact not_holdsTag_joinBlanks (not_holdsTag_dropTagsWithin (Nat.le_refl _))
  · intro c member blank
    rcases mem_joinBlanks member with same | ⟨-, solid⟩
    · exact same
    · cases blank.symm.trans solid

theorem stripMarkup_of_stripped {text : String} (stripped : Stripped text.toList) :
    stripMarkup text = text := by
  have solid {c : Char} (member : c ∈ text.toList) (other : c ≠ ' ') : isBlank c = false := by
    rw [← Bool.not_eq_true]
    exact fun blank => other (stripped.blanks c member blank)
  have trimmed : trimBoth isBlank text.toList = text.toList := by
    refine trimBoth_eq_self (fun c first => ?_) (fun c last => ?_)
    · refine solid (List.mem_of_head? first) ?_
      rintro rfl
      exact stripped.first first
    · refine solid (List.mem_of_getLast? last) ?_
      rintro rfl
      exact stripped.last last
  rw [stripMarkup, dropTags, dropTagsWithin_eq_self stripped.untagged,
    joinBlanks_eq_self stripped.blanks stripped.single, trimmed, String.ofList_toList]

/-- Stripping comes to its end at once.  What it leaves is stripped, which are exactly the texts
that it leaves as they are. -/
theorem stripMarkup_normal (text : String) :
    stripMarkup (stripMarkup text) = stripMarkup text ∧ Stripped (stripMarkup text).toList ∧
      (stripMarkup text = text ↔ Stripped text.toList) := by
  refine ⟨stripMarkup_of_stripped (stripped_stripMarkup text), stripped_stripMarkup text, ?_⟩
  constructor
  · intro same
    rw [← same]
    exact stripped_stripMarkup text
  · exact stripMarkup_of_stripped

/-- A `<` right before a `>` stays, and so does a tag that is not closed. -/
example : stripMarkup " <> a\n<b>c</b> <d" = "<> a c <d" := by decide +kernel

end TypedContract.Text
