/-
# TypedContract.Proofs.Name.Splitting -- where a name falls into words

A name is split by two substitutions, one after the other.  A pattern can match the beginning of a
text in several ways; `Pattern.ways` lists them in the order in which they are tried, where a run
of characters is taken as long as it goes and then gives back one character at a time.  A `Split`
is two patterns in a row, and `Split.apply` puts an underscore between what the two have matched:
it looks for a match at every position from the left and goes on behind the match that it has
found.  What does the same with the first match, and passes over one character where there is
none, is this substitution (`Split.apply_eq`).

The first substitution splits a run of capitals from the capitalised word behind it, the second a
small letter or a digit from the capital behind it.  The run gives capitals back until a capital
and a small letter follow.  But inside a run no small letter does, so there is one way to match at
most and it ends with the run (`splitRuns_run`).  What is passed over is no beginning of a match
either, because the shortest run would have been one.  Hence the substitutions are the functions
that look at three and at two neighbouring characters (`apply_runSplit`, `apply_wordSplit`).

The underscores of the first pass stand between capitals, where the second never puts any.  So the
two passes are one, in which each character is looked at with its neighbours in the name as it was
(`splitWords_splitRuns`): `resume` goes through the name in this way, and `spaced` says the same
by positions.

Lower case looks at neighbours as well, and further: a capital sigma is final unless a cased
letter follows behind what is case-ignorable.  Underscores are put beside letters and digits only,
none of which is case-ignorable (`ignorable_of_joins`), so what decides about a sigma stands on
its side of the next underscore (`meetsCased_resume`), and the underscores change no letter
(`lowerAfter_resume`).
-/
import Mathlib.Data.List.Chain
import Mathlib.Data.List.TakeWhile
import TypedContract.Name.Snake

namespace TypedContract

set_option autoImplicit false

namespace Text

/-! ## Substitution -/

/-- A character of a class, one or more characters of a class, or two patterns in a row. -/
inductive Pattern where
  | one (p : Char → Bool)
  | many (p : Char → Bool)
  | both (first second : Pattern)

/-- The ways to take one or more characters of a class, each with what is left of the text. -/
def runWays (p : Char → Bool) : List Char → List (List Char × List Char)
  | [] => []
  | c :: rest =>
      if p c then (runWays p rest).map (fun way => (c :: way.1, way.2)) ++ [([c], rest)] else []

/-- The ways to match the beginning of a text, each with what is left, as they are tried. -/
def Pattern.ways : Pattern → List Char → List (List Char × List Char)
  | .one p, c :: rest => if p c then [([c], rest)] else []
  | .one _, [] => []
  | .many p, text => runWays p text
  | .both first second, text =>
      (first.ways text).flatMap fun way =>
        (second.ways way.2).map fun next => (way.1 ++ next.1, next.2)

/-- Two patterns in a row, to put an underscore between their matches. -/
structure Split where
  before : Pattern
  after : Pattern

namespace Split

/-- The ways to match both patterns at the beginning of a text: what the one matches, what the
other does, and what is left. -/
def ways (split : Split) (text : List Char) : List (List Char × List Char × List Char) :=
  (split.before.ways text).flatMap fun way =>
    (split.after.ways way.2).map fun next => (way.1, next.1, next.2)

/-- The match at the beginning of a text. -/
def first? (split : Split) (text : List Char) : Option (List Char × List Char × List Char) :=
  (split.ways text).head?

end Split

/-! ## What a way takes -/

variable {p : Char → Bool} {text taken left : List Char}

/-- A run takes characters of its class, and at least one. -/
theorem of_mem_runWays (member : (taken, left) ∈ runWays p text) :
    text = taken ++ left ∧ taken ≠ [] ∧ ∀ c ∈ taken, p c := by
  induction text generalizing taken with
  | nil => cases member
  | cons c rest ih =>
      unfold runWays at member
      split at member
      · rename_i own
        rcases List.mem_append.1 member with longer | shortest
        · obtain ⟨⟨taken', left'⟩, inside, same⟩ := List.mem_map.1 longer
          obtain ⟨rfl, rfl⟩ := Prod.mk.inj same
          obtain ⟨rfl, -, each⟩ := ih inside
          exact ⟨rfl, by simp, List.forall_mem_cons.2 ⟨own, each⟩⟩
        · obtain ⟨rfl, rfl⟩ := Prod.mk.inj (List.mem_singleton.1 shortest)
          exact ⟨rfl, by simp, by simpa using own⟩
      · cases member

namespace Pattern

theorem mem_ways_one :
    (taken, left) ∈ (Pattern.one p).ways text ↔ ∃ c, p c ∧ taken = [c] ∧ text = c :: left := by
  cases text with
  | nil => simp [ways]
  | cons c rest =>
      unfold ways
      split
      · rename_i own
        rw [List.mem_singleton, Prod.mk.injEq]
        constructor
        · rintro ⟨rfl, rfl⟩
          exact ⟨c, own, rfl, rfl⟩
        · rintro ⟨_, -, rfl, ⟨⟩⟩
          exact ⟨rfl, rfl⟩
      · rename_i other
        constructor
        · nofun
        · rintro ⟨_, own, -, ⟨⟩⟩
          exact absurd own other

theorem mem_ways_both {first second : Pattern} :
    (taken, left) ∈ (Pattern.both first second).ways text ↔ ∃ front between back,
      (front, between) ∈ first.ways text ∧ (back, left) ∈ second.ways between ∧
        taken = front ++ back := by
  simp only [ways, List.mem_flatMap, List.mem_map, Prod.exists, Prod.mk.injEq]
  constructor
  · rintro ⟨front, between, inside, back, _, inside', rfl, rfl⟩
    exact ⟨front, between, back, inside, inside', rfl⟩
  · rintro ⟨front, between, back, inside, inside', rfl⟩
    exact ⟨front, between, inside, back, left, inside', rfl, rfl⟩

/-- A way takes a beginning of the text that has a character. -/
theorem of_mem_ways {pattern : Pattern} (member : (taken, left) ∈ pattern.ways text) :
    text = taken ++ left ∧ taken ≠ [] := by
  induction pattern generalizing text taken left with
  | one p =>
      obtain ⟨c, -, rfl, rfl⟩ := mem_ways_one.1 member
      exact ⟨rfl, by simp⟩
  | many p =>
      obtain ⟨whole, some_, -⟩ := of_mem_runWays member
      exact ⟨whole, some_⟩
  | both first second ihFirst ihSecond =>
      obtain ⟨front, between, back, inside, inside', rfl⟩ := mem_ways_both.1 member
      obtain ⟨rfl, some_⟩ := ihFirst inside
      obtain ⟨rfl, -⟩ := ihSecond inside'
      exact ⟨(List.append_assoc ..).symm, by simp [some_]⟩

end Pattern

namespace Split

variable {split : Split} {more : List Char}

/-- A match consists of a way of the one pattern and a way of the other behind it. -/
theorem mem_of_first? (found : split.first? text = some (taken, more, left)) :
    (taken, more ++ left) ∈ split.before.ways text ∧
      (more, left) ∈ split.after.ways (more ++ left) := by
  obtain ⟨⟨front, between⟩, inside, member⟩ := List.mem_flatMap.1 (List.mem_of_head? found)
  obtain ⟨⟨back, rest⟩, inside', same⟩ := List.mem_map.1 member
  simp only [Prod.mk.injEq] at same
  obtain ⟨rfl, rfl, rfl⟩ := same
  obtain ⟨whole, -⟩ := Pattern.of_mem_ways inside'
  obtain rfl : between = back ++ rest := whole
  exact ⟨inside, inside'⟩

/-- Where nothing matches, no way of the one pattern is followed by a way of the other. -/
theorem ways_eq_nil_of_first? (none : split.first? text = none)
    (member : (taken, left) ∈ split.before.ways text) : split.after.ways left = [] := by
  have nothing : split.ways text = [] := List.head?_eq_none_iff.1 none
  exact List.map_eq_nil_iff.1 (List.flatMap_eq_nil_iff.1 nothing _ member)

theorem length_left_lt (found : split.first? text = some (taken, more, left)) :
    left.length < text.length := by
  obtain ⟨member, -⟩ := mem_of_first? found
  obtain ⟨rfl, some_⟩ := Pattern.of_mem_ways member
  have := List.length_pos_iff.2 some_
  simp only [List.length_append]
  omega

/-- The text with an underscore in each match, from left to right. -/
def apply (split : Split) : List Char → List Char
  | [] => []
  | c :: rest =>
      match _ : split.first? (c :: rest) with
      | some (taken, more, left) => taken ++ '_' :: more ++ apply split left
      | none => c :: apply split rest
termination_by text => text.length
decreasing_by
  · exact length_left_lt ‹_›
  · exact Nat.lt_succ_self _

/-- What splits at the first match and passes over a character where none begins is the whole
substitution. -/
theorem apply_eq {splits : List Char → List Char} (nil : splits [] = [])
    (matched : ∀ {text taken more left}, split.first? text = some (taken, more, left) →
      splits text = taken ++ '_' :: more ++ splits left)
    (passed : ∀ {c rest}, split.first? (c :: rest) = none → splits (c :: rest) = c :: splits rest)
    (text : List Char) : split.apply text = splits text := by
  fun_induction apply split text with
  | case1 => exact nil.symm
  | case2 c rest taken more left found ih => rw [ih, matched found]
  | case3 c rest none ih => rw [ih, passed none]

end Split

end Text

namespace Name

open Text

variable {a b c : Char} {rest text taken more left : List Char}

/-! ## The two passes -/

/-- One or more capitals, and a capital with a small letter behind it. -/
def runSplit : Split := ⟨.many isCapital, .both (.one isCapital) (.one isSmall)⟩

/-- A small letter or a decimal digit, and a capital. -/
def wordSplit : Split := ⟨.one fun c => isSmall c || isDecimal c, .one isCapital⟩

/-! ## Letters and digits -/

theorem toNat_of_isCapital (capital : isCapital c) : 0x41 ≤ c.toNat ∧ c.toNat ≤ 0x5a := by
  simp only [isCapital, Bool.and_eq_true, decide_eq_true_eq, Char.le_def,
    UInt32.le_iff_toNat_le] at capital
  exact capital

theorem toNat_of_isSmall (small : isSmall c) : 0x61 ≤ c.toNat ∧ c.toNat ≤ 0x7a := by
  simp only [isSmall, Bool.and_eq_true, decide_eq_true_eq, Char.le_def,
    UInt32.le_iff_toNat_le] at small
  exact small

theorem isSmall_of_isCapital (capital : isCapital c) : isSmall c = false := by
  refine Bool.eq_false_iff.2 fun small => ?_
  have atMost := (toNat_of_isCapital capital).2
  have atLeast := (toNat_of_isSmall small).1
  omega

theorem isDecimal_of_isCapital (capital : isCapital c) : isDecimal c = false := by
  obtain ⟨atLeast, atMost⟩ := toNat_of_isCapital capital
  rw [isDecimal, if_pos (by omega)]
  refine Bool.eq_false_iff.2 fun digit => ?_
  simp only [Bool.and_eq_true, decide_eq_true_eq, Char.le_def, UInt32.le_iff_toNat_le] at digit
  have below : c.toNat ≤ 0x39 := digit.2
  omega

/-- A small letter, a decimal digit or a capital: behind no other character an underscore is
put. -/
def joins (c : Char) : Bool := isSmall c || isDecimal c || isCapital c

/-- The code points of capitals, small letters and decimal digits. -/
def joinRanges : List (Nat × Nat) :=
  (0x41, 0x5a) :: (0x61, 0x7a) :: decimalZeros.map fun start => (start, start + 9)

theorem exists_range_of_joins (joined : joins c) :
    ∃ range ∈ joinRanges, range.1 ≤ c.toNat ∧ c.toNat ≤ range.2 := by
  simp only [joins, Bool.or_eq_true] at joined
  rcases joined with (small | decimal) | capital
  · exact ⟨(0x61, 0x7a), by simp [joinRanges], toNat_of_isSmall small⟩
  · suffices inside : ∃ start ∈ decimalZeros, start ≤ c.toNat ∧ c.toNat < start + 10 by
      obtain ⟨start, member, atLeast, below⟩ := inside
      refine ⟨(start, start + 9), ?_, atLeast, by dsimp only; omega⟩
      exact List.mem_cons_of_mem _ (List.mem_cons_of_mem _ (List.mem_map_of_mem member))
    unfold isDecimal at decimal
    split at decimal
    · simp only [Bool.and_eq_true, decide_eq_true_eq, Char.le_def,
        UInt32.le_iff_toNat_le] at decimal
      exact ⟨0x30, by decide, decimal.1, Nat.lt_succ_of_le decimal.2⟩
    · rw [decimalValue?, Option.isSome_map, List.find?_isSome] at decimal
      simpa using decimal
  · exact ⟨(0x41, 0x5a), by simp [joinRanges], toNat_of_isCapital capital⟩

/-- Ranges in the order in which they start. -/
def Rising (ranges : List (Nat × Nat)) : Prop :=
  ranges.Pairwise fun lower higher => lower.1 ≤ higher.1

/-- No range of two rising lists meets a range of the other list, found in one pass over both. -/
def standApart : List (Nat × Nat) → List (Nat × Nat) → Bool
  | [], _ => true
  | range :: ranges, others =>
      match others.dropWhile fun other => Nat.blt other.2 range.1 with
      | [] => true
      | other :: rest => Nat.blt range.2 other.1 && standApart ranges (other :: rest)

theorem apart_of_standApart (ranges : List (Nat × Nat)) {others : List (Nat × Nat)}
    (rising : Rising ranges) (othersRising : Rising others)
    (apart : standApart ranges others = true) :
    ∀ range ∈ ranges, ∀ other ∈ others, range.2 < other.1 ∨ other.2 < range.1 := by
  induction ranges generalizing others with
  | nil => simp
  | cons first ranges ih =>
      intro range member other member'
      obtain ⟨least, rising⟩ := List.pairwise_cons.1 rising
      have lowest : first.1 ≤ range.1 := by
        rcases List.mem_cons.1 member with rfl | member
        · exact Nat.le_refl _
        · exact least range member
      have leftRising := othersRising.sublist
        (List.dropWhile_sublist fun other => Nat.blt other.2 first.1)
      rw [← List.takeWhile_append_dropWhile (p := fun other => Nat.blt other.2 first.1)
        (l := others), List.mem_append] at member'
      rw [standApart] at apart
      -- what was passed over ends before the first range and so before all of them
      rcases member' with passed | left
      · have below := List.mem_takeWhile_imp passed
        rw [Nat.blt_eq] at below
        exact .inr (Nat.lt_of_lt_of_le below lowest)
      · generalize others.dropWhile (fun other => Nat.blt other.2 first.1) = tail at *
        match tail with
        | next :: rest =>
            simp only [Bool.and_eq_true, Nat.blt_eq] at apart
            rcases List.mem_cons.1 member with rfl | member
            · refine .inl (Nat.lt_of_lt_of_le apart.1 ?_)
              rcases List.mem_cons.1 left with rfl | left
              · exact Nat.le_refl _
              · exact (List.pairwise_cons.1 leftRising).1 other left
            · exact ih rising leftRising apart.2 range member other left

theorem rising_of_isChain {ranges : List (Nat × Nat)}
    (chain : (ranges.map Prod.fst).IsChain (· ≤ ·)) : Rising ranges :=
  List.pairwise_map.1 (List.isChain_iff_pairwise.1 chain)

/-- No letter of this kind and no digit is case-ignorable. -/
theorem joinRanges_apart : ∀ range ∈ joinRanges, ∀ other ∈ caseIgnorableRanges,
    range.2 < other.1 ∨ other.2 < range.1 := by
  have rising : Rising caseIgnorableRanges := rising_of_isChain (by decide +kernel)
  have letters := apart_of_standApart [(0x41, 0x5a), (0x61, 0x7a)]
    (rising_of_isChain (by decide)) rising (by decide +kernel)
  have digits := apart_of_standApart (decimalZeros.map fun start => (start, start + 9))
    (rising_of_isChain (by decide +kernel)) rising (by decide +kernel)
  exact List.forall_mem_append.2 ⟨letters, digits⟩

theorem ignorable_of_joins (joined : joins c) : inRanges caseIgnorableRanges c = false := by
  obtain ⟨range, member, atLeast, atMost⟩ := exists_range_of_joins joined
  rw [inRanges, List.any_eq_false]
  intro other member'
  have apart := joinRanges_apart range member other member'
  simp only [Bool.and_eq_true, decide_eq_true_eq]
  omega

/-! ## The runs of capitals -/

/-- Nothing is put behind a character unless it is a capital with a capitalised word behind it. -/
theorem splitRuns_cons
    (stays : ∀ b c more, rest = b :: c :: more → isCapital a → isCapital b → isSmall c = false) :
    splitRuns (a :: rest) = a :: splitRuns rest := by
  match rest with
  | [] | [_] => rfl
  | b :: c :: more =>
      rw [splitRuns, if_neg]
      simp only [Bool.and_eq_true, not_and, Bool.not_eq_true, and_imp]
      exact stays b c more rfl

theorem splitRuns_small (small : isSmall c) :
    splitRuns (b :: c :: rest) = b :: c :: splitRuns rest := by
  have apart : ¬ isCapital c := fun capital => by
    rw [isSmall_of_isCapital capital] at small
    cases small
  have first : splitRuns (b :: c :: rest) = b :: splitRuns (c :: rest) :=
    splitRuns_cons fun c' d more same _ capital' => by
      obtain ⟨rfl, -⟩ := List.cons.inj same
      exact absurd capital' apart
  rw [first, splitRuns_cons fun d e more _ capital' => absurd capital' apart]

/-- A run of capitals is split before the capitalised word behind it. -/
theorem splitRuns_run (some_ : taken ≠ []) (capitals : ∀ a ∈ taken, isCapital a)
    (capital : isCapital b) (small : isSmall c) :
    splitRuns (taken ++ b :: c :: rest) = taken ++ '_' :: b :: c :: splitRuns rest := by
  induction taken with
  | nil => exact absurd rfl some_
  | cons a taken ih =>
      obtain ⟨own, others⟩ := List.forall_mem_cons.1 capitals
      cases taken with
      | nil =>
          rw [List.singleton_append, splitRuns, if_pos (by simp [own, capital, small]),
            splitRuns_small small]
          rfl
      | cons a' taken =>
          have stays : splitRuns (a :: (a' :: taken ++ b :: c :: rest)) =
              a :: splitRuns (a' :: taken ++ b :: c :: rest) := by
            apply splitRuns_cons
            intro d e more same _ _
            -- what stands two characters on is a capital of the run, or the one behind it
            obtain ⟨-, same⟩ := List.cons.inj same
            cases taken with
            | nil =>
                obtain ⟨rfl, -⟩ := List.cons.inj same
                exact isSmall_of_isCapital capital
            | cons a'' taken =>
                obtain ⟨rfl, -⟩ := List.cons.inj same
                exact isSmall_of_isCapital (others a'' (by simp))
          rw [List.cons_append, stays, ih (by simp) others]
          rfl

theorem mem_ways_capitalised : (more, left) ∈ runSplit.after.ways text ↔
    ∃ b c, isCapital b ∧ isSmall c ∧ more = [b, c] ∧ text = b :: c :: left := by
  simp only [runSplit, Pattern.mem_ways_both, Pattern.mem_ways_one]
  constructor
  · rintro ⟨_, _, _, ⟨b, capital, rfl, rfl⟩, ⟨c, small, rfl, rfl⟩, rfl⟩
    exact ⟨b, c, capital, small, rfl, rfl⟩
  · rintro ⟨b, c, capital, small, rfl, rfl⟩
    exact ⟨[b], c :: left, [c], ⟨b, capital, rfl, rfl⟩, ⟨c, small, rfl, rfl⟩, rfl⟩

/-- The first pass puts an underscore between two capitals of which the second begins a
capitalised word, and nowhere else. -/
theorem apply_runSplit (text : List Char) : runSplit.apply text = splitRuns text := by
  apply Split.apply_eq rfl
  · intro text taken more left found
    obtain ⟨member, member'⟩ := Split.mem_of_first? found
    obtain ⟨rfl, some_, capitals⟩ := of_mem_runWays member
    obtain ⟨b, c, capital, small, rfl, -⟩ := mem_ways_capitalised.1 member'
    rw [List.append_assoc]
    exact splitRuns_run some_ capitals capital small
  · intro a rest none
    refine splitRuns_cons fun b c more same capital capital' => Bool.eq_false_iff.2 fun small => ?_
    have shortest : ([a], rest) ∈ runSplit.before.ways (a :: rest) := by
      simp [runSplit, Pattern.ways, runWays, capital]
    have behind : ([b, c], more) ∈ runSplit.after.ways rest :=
      mem_ways_capitalised.2 ⟨b, c, capital', small, rfl, same⟩
    rw [Split.ways_eq_nil_of_first? none shortest] at behind
    cases behind

/-! ## The capitals behind small letters and digits -/

theorem splitWords_cons (stays : ∀ b more, rest = b :: more →
    ((isSmall a || isDecimal a) && isCapital b) = false) :
    splitWords (a :: rest) = a :: splitWords rest := by
  match rest with
  | [] => rfl
  | b :: more => rw [splitWords, if_neg (by simp [stays b more rfl])]

theorem splitWords_of_isCapital (capital : isCapital a) :
    splitWords (a :: rest) = a :: splitWords rest :=
  splitWords_cons fun b more _ => by
    rw [isSmall_of_isCapital capital, isDecimal_of_isCapital capital]
    rfl

/-- The second pass puts one between a small letter or a digit and a capital, and nowhere else. -/
theorem apply_wordSplit (text : List Char) : wordSplit.apply text = splitWords text := by
  apply Split.apply_eq rfl
  · intro text taken more left found
    obtain ⟨member, member'⟩ := Split.mem_of_first? found
    obtain ⟨a, other, rfl, rfl⟩ := Pattern.mem_ways_one.1 member
    obtain ⟨b, capital, rfl, -⟩ := Pattern.mem_ways_one.1 member'
    rw [List.singleton_append, splitWords, if_pos (by rw [other, capital]; rfl),
      splitWords_of_isCapital capital]
    rfl
  · intro a rest none
    refine splitWords_cons fun b more same => Bool.eq_false_iff.2 fun classes => ?_
    obtain ⟨other, capital⟩ := (Bool.and_eq_true _ _).mp classes
    have behind : ([b], more) ∈ wordSplit.after.ways rest :=
      Pattern.mem_ways_one.2 ⟨b, capital, rfl, same⟩
    rw [Split.ways_eq_nil_of_first? none (Pattern.mem_ways_one.2 ⟨a, other, rfl, rfl⟩)] at behind
    cases behind

/-! ## One pass -/

/-- An underscore is put between two characters that stand side by side before the rest. -/
def splitsBetween (a b : Char) (rest : List Char) : Bool :=
  isCapital b && (isSmall a || isDecimal a || isCapital a && rest.head?.any isSmall)

/-- A text behind a character, with its underscores. -/
def resume (a : Char) : List Char → List Char
  | [] => []
  | b :: rest => (if splitsBetween a b rest then ['_'] else []) ++ b :: resume b rest

/-- The first pass puts the underscore that stands before a capitalised word. -/
theorem splitRuns_cons_cons : splitRuns (a :: b :: rest) =
    if isCapital a && isCapital b && rest.head?.any isSmall then a :: '_' :: splitRuns (b :: rest)
    else a :: splitRuns (b :: rest) := by
  cases rest with
  | nil => simp [splitRuns]
  | cons c rest => rfl

theorem exists_splitRuns (b : Char) (rest : List Char) :
    ∃ behind, splitRuns (b :: rest) = b :: behind := by
  cases rest with
  | nil => exact ⟨[], rfl⟩
  | cons c rest =>
      rw [splitRuns_cons_cons]
      split
      · exact ⟨_, rfl⟩
      · exact ⟨_, rfl⟩

/-- Both passes together decide between two characters by these and the next one. -/
theorem splitWords_splitRuns (a : Char) (rest : List Char) :
    splitWords (splitRuns (a :: rest)) = a :: resume a rest := by
  induction rest generalizing a with
  | nil => rfl
  | cons b rest ih =>
      obtain ⟨behind, begins⟩ := exists_splitRuns b rest
      have own := ih b
      rw [begins] at own
      rw [splitRuns_cons_cons, begins, resume]
      by_cases word : isCapital a && isCapital b && rest.head?.any isSmall
      · have ⟨⟨capital, capital'⟩, small⟩ :
            (isCapital a ∧ isCapital b) ∧ rest.head?.any isSmall := by
          simpa only [Bool.and_eq_true] using word
        have here : splitsBetween a b rest := by
          simp [splitsBetween, capital, capital', small]
        have passes : splitWords ('_' :: b :: behind) = '_' :: splitWords (b :: behind) :=
          splitWords_cons fun _ _ _ => rfl
        rw [if_pos word, if_pos here, splitWords_of_isCapital capital, passes, own]
        rfl
      · have here : splitsBetween a b rest = ((isSmall a || isDecimal a) && isCapital b) := by
          simp only [splitsBetween]
          grind
        rw [if_neg word, splitWords, own, here]
        split <;> rfl

/-! ## Positions -/

/-- The two conditions for an underscore before a position of a name: there is a capital, and
before it a small letter or a digit, or a capital, with a small letter after it. -/
def breaks (name : List Char) (i : Nat) : Bool :=
  0 < i && name[i]?.any isCapital &&
    (name[i - 1]?.any (fun c => isSmall c || isDecimal c)
      || name[i - 1]?.any isCapital && name[i + 1]?.any isSmall)

/-- The name with its underscores. -/
def spaced (name : List Char) : List Char :=
  name.zipIdx.flatMap fun (c, i) => if breaks name i then ['_', c] else [c]

theorem breaks_append (front : List Char) (a b : Char) (rest : List Char) :
    breaks (front ++ a :: b :: rest) (front.length + 1) = splitsBetween a b rest := by
  have behind (k : Nat) : (front ++ a :: b :: rest)[front.length + k]? = (a :: b :: rest)[k]? := by
    rw [List.getElem?_append_right (Nat.le_add_right ..), Nat.add_sub_cancel_left]
  have next : (a :: b :: rest)[2]? = rest.head? := by
    cases rest <;> rfl
  have previous : (front ++ a :: b :: rest)[front.length]? = some a := behind 0
  rw [breaks, Nat.add_sub_cancel, previous, Nat.add_assoc, behind 1, behind 2, next, splitsBetween]
  simp

/-- Behind each character the underscores stand at the positions that break the name. -/
theorem resume_eq (front : List Char) : resume a rest =
    (rest.zipIdx (front.length + 1)).flatMap fun (c, i) =>
      if breaks (front ++ a :: rest) i then ['_', c] else [c] := by
  induction rest generalizing a front with
  | nil => rfl
  | cons b rest ih =>
      have further := ih (a := b) (front ++ [a])
      rw [List.length_append, List.length_singleton, List.append_assoc, List.singleton_append]
        at further
      have here := breaks_append front a b rest
      rw [resume, further, List.zipIdx_cons, List.flatMap_cons, ← here]
      dsimp only
      split <;> rfl

theorem splitWords_splitRuns_eq (name : List Char) : splitWords (splitRuns name) = spaced name := by
  cases name with
  | nil => rfl
  | cons a rest =>
      rw [splitWords_splitRuns, spaced, List.zipIdx_cons, List.flatMap_cons, resume_eq []]
      rfl

/-! ## Lower case -/

/-- The lower case of a character between a text before it, which is given reversed, and one after
it. -/
def lowerBetween (before : List Char) (c : Char) (after : List Char) : List Char :=
  if c == 'Σ' then [if isFinalSigma before after then 'ς' else 'σ'] else lowerChar c

/-- The lower case of the character at a position of a text. -/
def lowerAt (text : List Char) (c : Char) (i : Nat) : List Char :=
  lowerBetween (text.take i).reverse c (text.drop (i + 1))

theorem lowerAt_append (front : List Char) (c : Char) (rest : List Char) :
    lowerAt (front ++ c :: rest) c front.length = lowerBetween front.reverse c rest := by
  have past : (front ++ c :: rest).drop (front.length + 1) = rest := by
    rw [← List.drop_drop, List.drop_left, List.drop_one, List.tail_cons]
  rw [lowerAt, past, List.take_left]

/-- Each character of a text is put in lower case at its position. -/
theorem lower_eq (text : List Char) :
    lower text = text.zipIdx.flatMap fun (c, i) => lowerAt text c i := by
  have after (front rest : List Char) : lowerAfter front.reverse rest =
      (rest.zipIdx front.length).flatMap fun (c, i) => lowerAt (front ++ rest) c i := by
    induction rest generalizing front with
    | nil => rfl
    | cons c rest ih =>
        have further := ih (front ++ [c])
        rw [List.reverse_append, List.reverse_singleton, List.singleton_append,
          List.length_append, List.length_singleton, List.append_assoc, List.singleton_append]
          at further
        rw [lowerAfter, further, List.zipIdx_cons, List.flatMap_cons]
        dsimp only
        rw [lowerAt_append]
        rfl
  exact after [] text

theorem meetsCased_cons : meetsCased (c :: text) =
    if inRanges caseIgnorableRanges c then meetsCased text else inRanges casedRanges c := by
  unfold meetsCased
  rw [List.dropWhile_cons]
  by_cases ignorable : inRanges caseIgnorableRanges c <;> simp [ignorable]

theorem meetsCased_cons_congr {text' : List Char} (same : meetsCased text = meetsCased text') :
    meetsCased (c :: text) = meetsCased (c :: text') := by
  rw [meetsCased_cons, meetsCased_cons, same]

/-- Of what stands before a letter or a digit nothing is looked at. -/
theorem meetsCased_of_joins (joined : joins c) :
    meetsCased (c :: text) = inRanges casedRanges c := by
  rw [meetsCased_cons, ignorable_of_joins joined, if_neg Bool.false_ne_true]

/-- The next cased letter behind a character without an underscore is the same with all of them. -/
theorem meetsCased_resume (apart : joins a = false) :
    meetsCased (resume a rest) = meetsCased rest := by
  induction rest generalizing a with
  | nil => rfl
  | cons b rest ih =>
      have plain : splitsBetween a b rest = false := by
        simp only [joins, Bool.or_eq_false_iff] at apart
        simp [splitsBetween, apart.1.1, apart.1.2, apart.2]
      rw [resume, plain, if_neg Bool.false_ne_true, List.nil_append, meetsCased_cons,
        meetsCased_cons]
      split
      · rename_i ignorable
        refine ih (Bool.eq_false_iff.2 fun joined => ?_)
        rw [ignorable_of_joins joined] at ignorable
        cases ignorable
      · rfl

/-- The underscores do not change the lower case of a character. -/
theorem lowerBetween_resume {before before' : List Char}
    (same : meetsCased before = meetsCased before') :
    lowerBetween before c (resume c rest) = lowerBetween before' c rest := by
  unfold lowerBetween
  split
  · rename_i sigma
    obtain rfl := eq_of_beq sigma
    rw [isFinalSigma, isFinalSigma, same, meetsCased_resume (by decide)]
  · rfl

theorem lowerBetween_of_isCapital {before after : List Char} (capital : isCapital c) :
    lowerBetween before c after = lowerChar c := by
  rw [lowerBetween, if_neg]
  rw [beq_iff_eq]
  rintro rfl
  exact absurd (toNat_of_isCapital capital).2 (by decide)

/-- Behind a character that has been passed each one has the lower case that it has without
underscores. -/
theorem lowerAfter_resume {before : List Char} (front : List Char)
    (same : meetsCased before = meetsCased (a :: front.reverse)) :
    lowerAfter before (resume a rest) = (rest.zipIdx (front.length + 1)).flatMap fun (c, i) =>
      (if breaks (front ++ a :: rest) i then ['_'] else []) ++
        lowerAt (front ++ a :: rest) c i := by
  induction rest generalizing a front before with
  | nil => rfl
  | cons b rest ih =>
      have here := breaks_append front a b rest
      have own := lowerAt_append (front ++ [a]) b rest
      have further (before : List Char)
          (same : meetsCased before = meetsCased (b :: (front ++ [a]).reverse)) :=
        ih (front ++ [a]) same
      simp only [List.length_append, List.length_singleton, List.append_assoc,
        List.singleton_append, List.reverse_append, List.reverse_singleton] at own further
      rw [List.zipIdx_cons, List.flatMap_cons]
      dsimp only
      rw [here, own, resume]
      by_cases parted : splitsBetween a b rest
      · have capital : isCapital b := by
          rw [splitsBetween, Bool.and_eq_true] at parted
          exact parted.1
        have joined : joins b := by simp [joins, capital]
        have mark : lowerBetween before '_' (b :: resume b rest) = ['_'] := rfl
        -- once a capital is met, what stands before it does not count
        have kept : meetsCased (b :: '_' :: before) = meetsCased (b :: a :: front.reverse) := by
          rw [meetsCased_of_joins joined, meetsCased_of_joins joined]
        rw [if_pos parted, lowerBetween_of_isCapital capital, ← further _ kept]
        change lowerBetween before '_' (b :: resume b rest) ++
          (lowerBetween ('_' :: before) b (resume b rest) ++ _) = _
        rw [mark, lowerBetween_of_isCapital capital]
        rfl
      · rw [if_neg parted, ← lowerBetween_resume same, ← further _ (meetsCased_cons_congr same)]
        rfl

/-- Both passes, put in lower case, are one: the lower case of the name with an underscore before
each position at which it breaks.  The underscores may as well be put into the lower case of the
name, which has a part for each position. -/
theorem snake_spaced (name : String) :
    (snake name).toList = lower (wordSplit.apply (runSplit.apply name.toList)) ∧
    (snake name).toList = lower (spaced name.toList) ∧
    ((snake name).toList = name.toList.zipIdx.flatMap fun (c, i) =>
      (if breaks name.toList i then ['_'] else []) ++ lowerAt name.toList c i) ∧
    lower name.toList = name.toList.zipIdx.flatMap fun (c, i) => lowerAt name.toList c i := by
  have passes : (snake name).toList = lower (splitWords (splitRuns name.toList)) := by
    rw [snake, String.toList_ofList, snakeChars]
  rw [passes]
  refine ⟨by rw [apply_runSplit, apply_wordSplit], by rw [splitWords_splitRuns_eq], ?_, lower_eq _⟩
  cases name.toList with
  | nil => rfl
  | cons a rest =>
      have first : lowerBetween [] a (resume a rest) = lowerAt (a :: rest) a 0 :=
        lowerBetween_resume rfl
      have others : lowerAfter [a] (resume a rest) = _ := lowerAfter_resume [] rfl
      rw [splitWords_splitRuns, List.zipIdx_cons, List.flatMap_cons]
      change lowerBetween [] a (resume a rest) ++ lowerAfter [a] (resume a rest) = _
      rw [first, others]
      rfl

example : snake "HTTPServerID2Name" = "http_server_id2_name" := by decide +kernel

end Name

end TypedContract
