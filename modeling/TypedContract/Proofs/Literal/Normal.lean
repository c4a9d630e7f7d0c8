/-
# TypedContract.Proofs.Literal.Normal -- the normal form of a value and its text

Three recursions look at the same values: `toJson` keeps what has a JSON counterpart, `encode`
writes what has one, and `written` is the standard text of any value.  They agree
(`agree_encodeChars`): a value that is kept is written as the standard text of what was kept,
and a value that is not kept is not written.  The one thing that could come between them is an
integer with too many digits, which is kept and has no text.

So a value of a manifest that is no text, which is held as its standard text, is held as the
text that it would be encoded as (`expression_of_encode`).
-/
import TypedContract.Proofs.Steps
import TypedContract.Symbol.Manifest

namespace TypedContract

set_option autoImplicit false

namespace Literal

/-! ## Agreement -/

/-- What is kept is written as its text, and what is refused on one side is refused on the
other. -/
inductive WritesAs {α β : Type} (text : α → β) : Except Malformed α → Except Fault β → Prop where
  | kept {a : α} : WritesAs text (.ok a) (.ok (text a))
  | refused {why told : Malformed} (named : refusal why = .malformed why) :
      WritesAs text (.error why) (.error (.malformed told))

namespace WritesAs

variable {α β γ δ : Type} {text : α → β} {text' : γ → δ} {read : Except Malformed α}
  {wrote : Except Fault β}

/-- Steps that agree can be put behind steps that agree. -/
theorem bind {further : α → Except Malformed γ} {later : β → Except Fault δ}
    (first : WritesAs text read wrote) (rest : ∀ a, WritesAs text' (further a) (later (text a))) :
    WritesAs text' (read >>= further) (wrote >>= later) := by
  cases first with
  | kept => exact rest _
  | refused named => exact .refused named

theorem refused_iff (agree : WritesAs text read wrote) :
    (∃ told, wrote = .error (.malformed told)) ↔ ∃ why, read = .error why := by
  cases agree with
  | kept => exact iff_of_false nofun nofun
  | refused => exact iff_of_true ⟨_, rfl⟩ ⟨_, rfl⟩

theorem refusal_eq (agree : WritesAs text read wrote) {why : Malformed}
    (failed : read = .error why) :
    refusal why = .malformed why := by
  subst failed
  cases agree with
  | refused named => exact named

theorem wrote_eq (agree : WritesAs text read wrote) {a : α} (found : read = .ok a) :
    wrote = .ok (text a) := by
  subst found
  cases agree
  rfl

end WritesAs

/-! ## Keeping and writing -/

mutual

/-- A value is written as the standard text of what is kept of it. -/
theorem agree_encodeChars : ∀ value : Literal, value.isWithinDigits = true → ∀ path,
    WritesAs (fun json => (ofJson json).written) (toJsonAt path value) (encodeChars value)
  | .int value => fun fit path => by
      rw [isWithinDigits] at fit
      rw [encodeChars, fit]
      exact .kept
  | .double value => fun _ path => by
      rw [toJsonAt, encodeChars]
      by_cases finite : value.isFinite = true
      · rw [if_pos finite, if_pos finite]
        exact .kept
      · rw [if_neg finite, if_neg finite]
        exact .refused rfl
  | .list items | .tuple items => fun fit path => by
      rw [toJsonAt, encodeChars]
      exact (agree_encodeItems items fit path 0).bind fun _ => .kept
  | .mapping entries => fun fit path => by
      rw [toJsonAt, encodeChars]
      exact (agree_encodeEntries entries fit path).bind fun _ => .kept
  | .null | .bool _ | .str _ => fun _ _ => .kept
  | .bytes _ | .complex _ _ | .ellipsis | .set _ => fun _ _ => .refused rfl

theorem agree_encodeItems : ∀ items : List Literal, allWithinDigits items = true → ∀ path position,
    WritesAs (fun values => writtenItems (ofItems values)) (itemsAt path position items)
      (encodeItems items)
  | [] => fun _ _ _ => .kept
  | item :: rest => fun fit path position => by
      rw [allWithinDigits, Bool.and_eq_true] at fit
      rw [itemsAt, encodeItems]
      refine (agree_encodeChars item fit.1 _).bind fun value => ?_
      exact (agree_encodeItems rest fit.2 path (position + 1)).bind fun _ => .kept

theorem agree_encodeEntries : ∀ entries : List (Literal × Literal),
    entriesWithinDigits entries = true →
    ∀ path, WritesAs (fun values => writtenEntries (ofEntries values)) (entriesAt path entries)
      (encodeEntries entries)
  | [] => fun _ _ => .kept
  | (key, item) :: rest => fun fit path => by
      rw [entriesWithinDigits, Bool.and_eq_true, Bool.and_eq_true] at fit
      cases key with
      | str name =>
          rw [entriesAt, encodeEntries]
          refine (agree_encodeChars item fit.1.2 _).bind fun value => ?_
          exact (agree_encodeEntries rest fit.2 path).bind fun _ => .kept
      | _ =>
          -- the key is named in both refusals, and it fits
          have named (path : Option String) : refusal (.keyNotText path _) = .malformed _ :=
            if_pos fit.1.1
          rw [entriesAt, encodeEntries, named none]
          · exact .refused (named (some path))
          · exact nofun
          · exact nofun

end

/-- A value with integers within the limit is encoded as the text of its normal form, or refused
with it. -/
theorem agree_encode {value : Literal} (fit : value.isWithinDigits = true) :
    WritesAs Json.written value.toJson value.encode := by
  have agree := agree_encodeChars value fit "$"
  unfold toJson encode
  generalize toJsonAt "$" value = read, encodeChars value = wrote at agree
  cases agree with
  | kept => exact .kept
  | refused named => exact .refused named

/-! ## What is written -/

theorem written_of_encodeChars_int {value : Int} {text : List Char}
    (wrote : encodeChars (.int value) = .ok text) :
    (Literal.int value).isWithinDigits = true ∧ text = writtenInt value := by
  rw [encodeChars] at wrote
  rw [isWithinDigits]
  cases fit : withinDigits value with
  | true =>
      rw [fit] at wrote
      exact ⟨rfl, (Except.ok.inj wrote).symm⟩
  | false =>
      rw [fit] at wrote
      cases wrote

mutual

/-- A JSON value that is written has integers within the limit, and its text is the standard
one. -/
theorem written_of_encodeChars : ∀ (value : Json) {text : List Char},
    encodeChars (ofJson value) = .ok text →
      (ofJson value).isWithinDigits = true ∧ text = (ofJson value).written
  | .null | .bool _ | .str _ => fun wrote => ⟨rfl, (Except.ok.inj wrote).symm⟩
  | .int _ => fun wrote => by
      rw [ofJson] at wrote ⊢
      exact written_of_encodeChars_int wrote
  | .double value => fun wrote => by
      rw [ofJson, encodeChars] at wrote
      split at wrote
      · exact ⟨rfl, (Except.ok.inj wrote).symm⟩
      · cases wrote
  | .list items => fun wrote => by
      rw [ofJson, encodeChars] at wrote
      obtain ⟨texts, each, same⟩ := except_bind_eq_ok.1 wrote
      obtain ⟨fit, rfl⟩ := written_of_encodeItems items each
      exact ⟨fit, (Except.ok.inj same).symm⟩
  | .object entries => fun wrote => by
      rw [ofJson, encodeChars] at wrote
      obtain ⟨texts, each, same⟩ := except_bind_eq_ok.1 wrote
      obtain ⟨fit, rfl⟩ := written_of_encodeEntries entries each
      exact ⟨fit, (Except.ok.inj same).symm⟩

theorem written_of_encodeItems : ∀ (items : List Json) {texts : List (List Char)},
    encodeItems (ofItems items) = .ok texts →
      allWithinDigits (ofItems items) = true ∧ texts = writtenItems (ofItems items)
  | [] => fun wrote => ⟨rfl, (Except.ok.inj wrote).symm⟩
  | item :: rest => fun wrote => by
      rw [ofItems, encodeItems] at wrote
      obtain ⟨text, own, wrote⟩ := except_bind_eq_ok.1 wrote
      obtain ⟨others, each, same⟩ := except_bind_eq_ok.1 wrote
      obtain ⟨fit, rfl⟩ := written_of_encodeChars item own
      obtain ⟨fits, rfl⟩ := written_of_encodeItems rest each
      exact ⟨Bool.and_eq_true_iff.2 ⟨fit, fits⟩, (Except.ok.inj same).symm⟩

theorem written_of_encodeEntries : ∀ (entries : List (String × Json)) {texts : List (List Char)},
    encodeEntries (ofEntries entries) = .ok texts →
      entriesWithinDigits (ofEntries entries) = true ∧ texts = writtenEntries (ofEntries entries)
  | [] => fun wrote => ⟨rfl, (Except.ok.inj wrote).symm⟩
  | (key, item) :: rest => fun wrote => by
      rw [ofEntries, encodeEntries] at wrote
      obtain ⟨text, own, wrote⟩ := except_bind_eq_ok.1 wrote
      obtain ⟨others, each, same⟩ := except_bind_eq_ok.1 wrote
      obtain ⟨fit, rfl⟩ := written_of_encodeChars item own
      obtain ⟨fits, rfl⟩ := written_of_encodeEntries rest each
      exact ⟨Bool.and_eq_true_iff.2 ⟨Bool.and_eq_true_iff.2 ⟨rfl, fit⟩, fits⟩,
        (Except.ok.inj same).symm⟩

end

/-- What a JSON value is encoded as is the text that stands for it within the limit. -/
theorem writtenWithin_of_encode {value : Json} {text : String} (wrote : value.encode = .ok text) :
    value.writtenWithin = .ok text := by
  obtain ⟨chars, wrote, same⟩ := except_bind_eq_ok.1 wrote
  obtain ⟨fit, rfl⟩ := written_of_encodeChars value wrote
  rw [Json.writtenWithin, if_pos fit]
  exact same

end Literal

namespace Manifest

variable {hierarchy : Hierarchy} {value : Json} {text : String}

/-- The expression of a value that is no text is what the value is encoded as. -/
theorem expression_of_encode (other : ∀ held, value ≠ .str held) (wrote : value.encode = .ok text) :
    expression value = .ok text := by
  have within := Literal.writtenWithin_of_encode wrote
  cases value with
  | str held => exact absurd rfl (other held)
  | _ => exact within

/-- The entries of an annotation other than its type are its fields. -/
theorem mem_fields_of_annotationOf {entries : List (String × Json)} {tag : Annotation}
    (read : annotationOf hierarchy (.object entries) = .ok tag) {key : String}
    (member : (key, value) ∈ entries) (apart : key ≠ "type")
    (expressed : expression value = .ok text) : (key, text) ∈ tag.fields := by
  obtain ⟨name, -, read⟩ := except_bind_eq_ok.1 read
  split at read
  case' h_2 => cases read
  obtain ⟨qualified, -, read⟩ := except_bind_eq_ok.1 read
  obtain ⟨walked, same, read⟩ := except_bind_eq_ok.1 read
  obtain rfl : entries = walked := Except.ok.inj same
  obtain ⟨fields, each, same⟩ := except_bind_eq_ok.1 read
  obtain rfl := except_pure_eq_ok.1 same
  have kept : (key, value) ∈ entries.filter (·.1 != "type") :=
    List.mem_filter.2 ⟨member, bne_iff_ne.2 apart⟩
  obtain ⟨field, held, own⟩ := exists_of_forall₂_left (mapM_eq_ok_iff.1 each) kept
  obtain ⟨found, expressed', same⟩ := except_bind_eq_ok.1 own
  obtain rfl := Except.ok.inj (expressed.symm.trans expressed')
  obtain rfl := except_pure_eq_ok.1 same
  exact held

end Manifest

namespace Literal

/-- The encoder refuses exactly what the filter refuses, and writes anything else as the standard
text of its normal form; so a value of an annotation that is no text is held as the text that it
is encoded as. -/
theorem encode_iff_toJson (value : Literal) (fit : value.isWithinDigits = true) :
    ((∃ told, value.encode = .error (.malformed told)) ↔ ∃ why, value.toJson = .error why) ∧
      (∀ why, value.toJson = .error why → refusal why = .malformed why) ∧
      (∀ json, value.toJson = .ok json → value.encode = .ok json.written) ∧
      ∀ hierarchy entries tag, Manifest.annotationOf hierarchy (.object entries) = .ok tag →
        ∀ key item, (key, item) ∈ entries → key ≠ "type" → (∀ held, item ≠ .str held) →
          ofJson item = value → ∀ text, value.encode = .ok text → (key, text) ∈ tag.fields := by
  have agree := agree_encode fit
  refine ⟨agree.refused_iff, fun why => agree.refusal_eq, fun json => agree.wrote_eq, ?_⟩
  rintro hierarchy entries tag read key item member apart other rfl text wrote
  apply Manifest.mem_fields_of_annotationOf read member apart
  exact Manifest.expression_of_encode other wrote

/-- A pair is encoded as the list of its items. -/
theorem encode_pair :
    (mapping [(.str "a", .tuple [.int 1, .null])]).isWithinDigits = true ∧
      (mapping [(.str "a", .tuple [.int 1, .null])]).encode =
        .ok (Json.object [("a", .list [.int 1, .null])]).written := by
  have fit : (mapping [(.str "a", .tuple [.int 1, .null])]).isWithinDigits = true := by
    decide +kernel
  exact ⟨fit, (encode_iff_toJson _ fit).2.2.1 _ rfl⟩

/-- An infinite number is refused however deep it stands. -/
example : (∃ why, (list [.tuple [.double (.infinite false)]]).toJson = .error why) ∧
    ∃ told, (list [.tuple [.double (.infinite false)]]).encode = .error (.malformed told) :=
  ⟨⟨_, rfl⟩, ⟨_, rfl⟩⟩

end Literal

end TypedContract
