/-
# TypedContract.Proofs.Literal.Decoding -- what a decoded text is, and that it can be written

A text is refused or decoded to a tree unless an integer of it is too large in one of two
places (`decode_iff`); the sum of such an integer and an imaginary number is neither refused
nor decoded (`decode_longSum`).  What was decoded of a text within the limits of the decoder
is within them as well, with room for the list that a bare tuple adds.  So it can be written,
and what is written is decoded to it again.
-/
import TypedContract.Proofs.Literal.Nesting
import TypedContract.Proofs.Literal.RoundTrip

namespace TypedContract.Literal

set_option autoImplicit false

/-- A decoded value of a text within limits is written within the limits of the decoder. -/
theorem writable_of_decode {text : String} {value : Json} (decoded : decode text = .ok value)
    (limited : Limited 199 text) : value.Writable Token.nestingLimit :=
  (regular_of_decode withinDigits_neg decoded limited.wordsWithin).writable

/-- A text is refused as malformed or decoded to a tree, unless it is stuck; and what is decoded
of a text within limits can be written and is decoded again from what is written. -/
theorem decode_iff (text : String) :
    (((∃ why, decode text = .error (.malformed why)) ∨
          ∃ value depth, decode text = .ok value ∧ value.Regular (fun _ => True) depth) ↔
        ¬ Stuck text) ∧
      ∀ value, decode text = .ok value → Limited 199 text →
        ∃ written, value.encode = .ok written ∧ decode written = .ok value := by
  refine ⟨?_, fun value decoded limited => ?_⟩
  · rw [← answered_decode_iff, Answered.iff_cases]
    refine or_congr_right ⟨?_, ?_⟩
    · rintro ⟨value, depth, decoded, -⟩
      exact ⟨value, decoded⟩
    · rintro ⟨value, decoded⟩
      obtain ⟨depth, regular⟩ := exists_regular_of_decode decoded
      exact ⟨value, depth, decoded, regular⟩
  · exact decode_encode (writable_of_decode decoded limited)

/-- A tuple is decoded to a list, which can be written. -/
theorem decode_iff_tuple : ∃ written, Json.encode (.list [.int 1]) = .ok written ∧
    decode written = .ok (.list [.int 1]) := by
  refine (decode_iff "(1,)").2 _ rfl fun words cut => ?_
  obtain rfl : [.opening .round, .number (.int 1), .comma, .closing .round] = words :=
    Option.some.inj cut
  refine ⟨by omega, ?_, nofun, trivial⟩
  rintro n ⟨⟩
  decide +kernel

/-- Characters whose expression overflows make a text that is stuck. -/
theorem stuck_ofList {chars : List Char}
    (overflows : ((Token.ofText? (Text.trimBoth Text.isBlank chars)).bind Expression.ofTokens?).any
      (fun e => match e.value with | .error .tooLarge => true | _ => false) = true) :
    Stuck (String.ofList chars) := by
  obtain ⟨e, formed, large⟩ := (Option.any_eq_true _ _).1 overflows
  refine ⟨e, ?_, .inl (Expression.value_eq_tooLarge_iff.1 ?_)⟩
  · rw [expression?, words?, String.toList_ofList]
    exact formed
  · split at large
    · assumption
    · cases large

/-- The sum of ten to the power of 309 and an imaginary number. -/
def longSum : String := String.ofList ('1' :: List.replicate 309 '0' ++ "+1j".toList)

theorem stuck_longSum : Stuck longSum := stuck_ofList (by decide +kernel)

/-- The integer is too large for a double, so the sum is neither refused nor decoded. -/
theorem decode_longSum : ¬ ((∃ why, decode longSum = .error (.malformed why)) ∨
    ∃ value depth, decode longSum = .ok value ∧ value.Regular (fun _ => True) depth) := by
  intro answered
  apply answered_decode_iff.1 _ stuck_longSum
  refine Answered.iff_cases.2 (answered.imp_right ?_)
  rintro ⟨value, depth, decoded, -⟩
  exact ⟨value, decoded⟩

end TypedContract.Literal
