/-
# TypedContract.Proofs.Contract.Part -- the part that a value plays in a contract

What a value of a contract is follows from the way to it: the keys and the elements
passed since the root.  `Part.child` and `Part.element` are one step of that way, and
`Json.reach` follows a path of positions down a document and tells the part it ends in.

Examples and descriptions stand under keys that no reader looks into.  `Part.writes`
lists them for each part, and `Json.reach` leads through none of them, so that what
stands there can change without moving anything else.

`Json.refersInto` is the promise a contract can make about its references: those of
parameters and request bodies lead into the components of their kind.
-/
import TypedContract.Document.Contract
import TypedContract.Example.Basic
import TypedContract.Json.Pointer

namespace TypedContract

set_option autoImplicit false

namespace Contract

/-- What a contract shares by name under its components. -/
inductive Shared where
  | parameter
  | body
  | response
  | header
  deriving DecidableEq

/-- The key of the components that holds what is shared. -/
def Shared.key : Shared → String
  | .parameter => "parameters"
  | .body => "requestBodies"
  | .response => "responses"
  | .header => "headers"

/-- The parts of a contract, from the root down. -/
inductive Part where
  | contract
  | components
  | schemas
  /-- A component schema. -/
  | schema
  | properties
  /-- A direct property of a component schema. -/
  | property
  /-- The components of a kind. -/
  | shelf (kind : Shared)
  /-- A component of a kind. -/
  | entry (kind : Shared)
  | paths
  | item
  | itemParameters
  /-- A parameter of a path item, in place or as a reference. -/
  | itemParameter
  | operation
  | parameters
  | responses
  /-- A parameter, a body, a response or a header of an operation, in place or as a
  reference. -/
  | use (kind : Shared)
  | content
  /-- A media type of a request body. -/
  | media
  | encodings
  | encoding
  | headers
  | other
  deriving DecidableEq

namespace Part

/-- The part of a value under a key. -/
def child : Part → String → Part
  | contract, "components" => components
  | contract, "paths" => paths
  | components, "schemas" => schemas
  | components, "parameters" => shelf .parameter
  | components, "requestBodies" => shelf .body
  | components, "responses" => shelf .response
  | components, "headers" => shelf .header
  | schemas, _ => schema
  | schema, "properties" => properties
  | properties, _ => property
  | shelf kind, _ => entry kind
  | paths, _ => item
  | item, "parameters" => itemParameters
  | item, name => if methods.contains name then operation else other
  | operation, "parameters" => parameters
  | operation, "requestBody" => use .body
  | operation, "responses" => responses
  | responses, _ => use .response
  | entry .body, "content" => content
  | use .body, "content" => content
  | content, _ => media
  | media, "encoding" => encodings
  | encodings, _ => encoding
  | encoding, "headers" => headers
  | headers, _ => use .header
  | _, _ => other

/-- The part of an element. -/
def element : Part → Part
  | itemParameters => itemParameter
  | parameters => use .parameter
  | _ => other

/-- The part describes a parameter. -/
def isParameter : Part → Bool
  | itemParameter => true
  | use .parameter => true
  | entry .parameter => true
  | _ => false

/-- The part may carry examples. -/
def takesExamples : Part → Bool
  | schema => true
  | property => true
  | media => true
  | part => part.isParameter

/-- The part may be given a description. -/
def takesDescription : Part → Bool
  | schema => true
  | property => true
  | use .parameter => true
  | _ => false

/-- What stands under the key of a part is an example or a description. -/
def writes (part : Part) (name : String) : Bool :=
  (part.takesExamples && (name == "example" || name == "examples"))
    || (part.takesDescription && name == "description")

/-- The part itself holds no example and no description. -/
def plain (part : Part) : Bool := !part.takesExamples && !part.takesDescription

/-- Nothing in the part is an example or a description. -/
def quiet : Part → Bool
  | responses => true
  | use .response => true
  | use .header => true
  | shelf .response => true
  | shelf .header => true
  | entry .response => true
  | entry .header => true
  | encodings => true
  | encoding => true
  | headers => true
  | other => true
  | _ => false

theorem writes_of_plain {part : Part} (plain : part.plain = true) (name : String) :
    part.writes name = false := by
  unfold Part.plain at plain
  rw [Bool.and_eq_true, Bool.not_eq_true', Bool.not_eq_true'] at plain
  rw [writes, plain.1, plain.2]
  rfl

theorem plain_of_quiet {part : Part} (quiet : part.quiet = true) : part.plain = true := by
  unfold Part.quiet at quiet
  split at quiet
  all_goals first | rfl | cases quiet

theorem quiet_child {part : Part} (quiet : part.quiet = true) (name : String) :
    (part.child name).quiet = true := by
  unfold Part.quiet at quiet
  split at quiet
  all_goals first | rfl | (unfold child; split <;> first | rfl | contradiction)

theorem quiet_element {part : Part} (quiet : part.quiet = true) :
    part.element.quiet = true := by
  unfold Part.quiet at quiet
  split at quiet
  all_goals first | rfl | cases quiet

/-- No part stands under the key of an example or a description. -/
theorem child_of_writes {part : Part} {name : String} (writes : part.writes name = true) :
    part.child name = other := by
  unfold Part.writes takesExamples takesDescription at writes
  rw [Bool.or_eq_true, Bool.and_eq_true, Bool.and_eq_true, Bool.or_eq_true] at writes
  simp only [beq_iff_eq] at writes
  rcases writes with ⟨taken, rfl | rfl⟩ | ⟨taken, rfl⟩
  all_goals
    cases part with
    | entry kind => cases kind <;> rfl
    | use kind => cases kind <;> rfl
    | _ => first | rfl | cases taken

/-- The keys under which examples and descriptions stand. -/
def written : List String := ["example", "examples", "description"]

theorem writes_of_not_mem (part : Part) {name : String} (apart : name ∉ written) :
    part.writes name = false := by
  simp only [written, List.mem_cons, List.not_mem_nil, or_false, not_or] at apart
  unfold writes
  rw [beq_false_of_ne apart.1, beq_false_of_ne apart.2.1, beq_false_of_ne apart.2.2,
    Bool.or_self, Bool.and_false, Bool.and_false, Bool.or_self]

/-- What a part that takes a description refers to is no part of its own. -/
theorem quiet_ref {part : Part} (takes : part.takesDescription = true) :
    (part.child "$ref").quiet = true := by
  unfold takesDescription at takes
  split at takes
  all_goals first | rfl | cases takes

theorem quiet_of_isParameter {part : Part} (parameter : part.isParameter = true) (name : String) :
    (part.child name).quiet = true := by
  unfold isParameter at parameter
  split at parameter
  all_goals first | rfl | (unfold child; split <;> first | rfl | contradiction)

end Part

end Contract

/-- A reference, if it leads into the document, leads to a component of a kind. -/
def Pointer.refersTo (kind : Contract.Shared) (text : String) : Bool :=
  (keys? text).all fun keys =>
    match keys with
    | ["components", key, _] => key == kind.key
    | _ => false

theorem Pointer.keys_of_refersTo {kind : Contract.Shared} {text : String} {keys : List String}
    (refers : refersTo kind text = true) (found : keys? text = some keys) :
    ∃ name, keys = ["components", kind.key, name] := by
  unfold refersTo at refers
  rw [found, Option.all_some] at refers
  split at refers
  · rename_i key name
    exact ⟨name, by rw [eq_of_beq refers]⟩
  · cases refers

namespace Json

open Contract (Part Shared)

/-! ## The part at a path -/

/-- The part and the value that a path leads to, through no example and no
description. -/
def reach (part : Part) : List Nat → Json → Option (Part × Json)
  | [], value => some (part, value)
  | position :: path, .list items => items[position]?.bind (reach part.element path)
  | position :: path, .object entries =>
      entries[position]?.bind fun entry =>
        if part.writes entry.1 then none else reach (part.child entry.1) path entry.2
  | _ :: _, _ => none

theorem reach_append {part : Part} {path more : List Nat} {value : Json} :
    value.reach part (path ++ more) =
      (value.reach part path).bind fun found => found.2.reach found.1 more := by
  induction path generalizing part value with
  | nil => rfl
  | cons position path ih =>
      cases value with
      | list items =>
          rw [List.cons_append, reach, reach]
          cases items[position]? with
          | none => rfl
          | some item => exact ih
      | object entries =>
          rw [List.cons_append, reach, reach]
          cases entries[position]? with
          | none => rfl
          | some entry =>
              simp only [Option.bind_some]
              split
              · rfl
              · exact ih
      | _ => rfl

/-! ## References -/

/-- A reference of the value, if it is a text, leads to a component of a kind. -/
def refersTo (kind : Shared) : Json → Bool
  | .object entries =>
      match find? "$ref" entries with
      | some (.str text) => Pointer.refersTo kind text
      | _ => true
  | _ => true

mutual

/-- A value and the values in it pass the check of their part. -/
def everyPart (check : Part → Json → Bool) (part : Part) : Json → Bool
  | .list items => check part (.list items) && everyItem check part.element items
  | .object entries => check part (.object entries) && everyEntry check part entries
  | value => check part value

/-- The items pass the check of a part. -/
def everyItem (check : Part → Json → Bool) (part : Part) : List Json → Bool
  | [] => true
  | item :: rest => everyPart check part item && everyItem check part rest

/-- The values of a part's entries pass the checks of their parts. -/
def everyEntry (check : Part → Json → Bool) (part : Part) : List (String × Json) → Bool
  | [] => true
  | (name, value) :: rest => everyPart check (part.child name) value && everyEntry check part rest

end

theorem everyPart_here {check : Part → Json → Bool} {part : Part} {value : Json}
    (every : everyPart check part value = true) : check part value = true := by
  cases value with
  | list items => exact (Bool.and_eq_true_iff.1 every).1
  | object entries => exact (Bool.and_eq_true_iff.1 every).1
  | _ => exact every

theorem everyItem_getElem? {check : Part → Json → Bool} {part : Part} {items : List Json}
    {position : Nat} {item : Json} (every : everyItem check part items = true)
    (here : items[position]? = some item) : everyPart check part item = true := by
  induction items generalizing position with
  | nil => cases here
  | cons first rest ih =>
      obtain ⟨own, more⟩ := Bool.and_eq_true_iff.1 every
      cases position with
      | zero => cases here; exact own
      | succ position => exact ih more here

theorem everyEntry_getElem? {check : Part → Json → Bool} {part : Part}
    {entries : List (String × Json)} {position : Nat} {name : String} {value : Json}
    (every : everyEntry check part entries = true)
    (here : entries[position]? = some (name, value)) :
    everyPart check (part.child name) value = true := by
  induction entries generalizing position with
  | nil => cases here
  | cons first rest ih =>
      obtain ⟨own, more⟩ := Bool.and_eq_true_iff.1 every
      cases position with
      | zero => cases here; exact own
      | succ position => exact ih more here

/-- What holds for every part holds for the part at a path. -/
theorem everyPart_reach {check : Part → Json → Bool} {part q : Part} {path : List Nat}
    {value found : Json} (every : everyPart check part value = true)
    (reached : value.reach part path = some (q, found)) : check q found = true := by
  induction path generalizing part value with
  | nil =>
      cases reached
      exact everyPart_here every
  | cons position path ih =>
      cases value with
      | list items =>
          obtain ⟨item, here, further⟩ := Option.bind_eq_some_iff.1 reached
          exact ih (everyItem_getElem? (Bool.and_eq_true_iff.1 every).2 here) further
      | object entries =>
          obtain ⟨⟨name, inner⟩, here, further⟩ := Option.bind_eq_some_iff.1 reached
          split at further
          · cases further
          · exact ih (everyEntry_getElem? (Bool.and_eq_true_iff.1 every).2 here) further
      | _ => cases reached

mutual

/-- A weaker check is passed too. -/
theorem everyPart_mono {check check' : Part → Json → Bool}
    (weaker : ∀ part value, check part value = true → check' part value = true) {part : Part} :
    (value : Json) → everyPart check part value = true → everyPart check' part value = true
  | .list items => fun every =>
      Bool.and_eq_true_iff.2 ⟨weaker _ _ (Bool.and_eq_true_iff.1 every).1,
        everyItem_mono weaker items (Bool.and_eq_true_iff.1 every).2⟩
  | .object entries => fun every =>
      Bool.and_eq_true_iff.2 ⟨weaker _ _ (Bool.and_eq_true_iff.1 every).1,
        everyEntry_mono weaker entries (Bool.and_eq_true_iff.1 every).2⟩
  | .null | .bool _ | .int _ | .double _ | .str _ => weaker _ _

theorem everyItem_mono {check check' : Part → Json → Bool}
    (weaker : ∀ part value, check part value = true → check' part value = true) {part : Part} :
    (items : List Json) → everyItem check part items = true → everyItem check' part items = true
  | [] => fun _ => rfl
  | item :: rest => fun every =>
      Bool.and_eq_true_iff.2 ⟨everyPart_mono weaker item (Bool.and_eq_true_iff.1 every).1,
        everyItem_mono weaker rest (Bool.and_eq_true_iff.1 every).2⟩

theorem everyEntry_mono {check check' : Part → Json → Bool}
    (weaker : ∀ part value, check part value = true → check' part value = true) {part : Part} :
    (entries : List (String × Json)) → everyEntry check part entries = true →
      everyEntry check' part entries = true
  | [] => fun _ => rfl
  | (_, value) :: rest => fun every =>
      Bool.and_eq_true_iff.2 ⟨everyPart_mono weaker value (Bool.and_eq_true_iff.1 every).1,
        everyEntry_mono weaker rest (Bool.and_eq_true_iff.1 every).2⟩

end

/-- The references of the parts that `kindOf` assigns a kind lead to its components. -/
def refersInto (kindOf : Part → Option Shared) (document : Json) : Bool :=
  everyPart (fun part value => (kindOf part).all (refersTo · value)) .contract document

/-- The references of fewer parts lead to components too. -/
theorem refersInto_mono {kindOf kindOf' : Part → Option Shared} {document : Json}
    (fewer : ∀ part kind, kindOf' part = some kind → kindOf part = some kind)
    (refers : refersInto kindOf document = true) : refersInto kindOf' document = true := by
  refine everyPart_mono (fun part value checked => ?_) document refers
  cases assigned : kindOf' part with
  | none => rfl
  | some kind =>
      rw [fewer part kind assigned] at checked
      exact checked

end Json

end TypedContract
