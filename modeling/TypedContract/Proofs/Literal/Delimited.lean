/-
# TypedContract.Proofs.Literal.Delimited -- where a literal between quotes ends

A quote opens a literal, alone or as the first of three, and the literal goes on to the
first quotes like these that no backslash precedes.  The text between them is taken in
units: a backslash with the character after it, or any other character.  From this it
follows exactly which texts can stand between quotes as they are: between three quotes
those that hold no three quotes in a row and end with neither a quote nor half a unit
(`exists_literalAt_iff`), and between two quotes, if they are to denote themselves, those
without quotes, line ends and escapes (`exists_literalAt_denoting_iff`).
-/
import TypedContract.Proofs.Literal.Quoted

namespace TypedContract.Literal.Token

set_option autoImplicit false

open Text

/-! ## Units -/

/-- Induction over the units of a text, the last of which may lack its second character. -/
@[elab_as_elim]
theorem units_induction {motive : List Char → Prop} (nil : motive []) (half : motive ['\\'])
    (escape : ∀ c rest, motive rest → motive ('\\' :: c :: rest))
    (char : ∀ c rest, c ≠ '\\' → motive rest → motive (c :: rest)) : ∀ text, motive text
  | [] => nil
  | [c] =>
      if backslash : c = '\\' then backslash ▸ half
      else char c [] backslash nil
  | c :: d :: rest =>
      if backslash : c = '\\' then
        backslash ▸ escape d rest (units_induction nil half escape char rest)
      else char c (d :: rest) backslash (units_induction nil half escape char (d :: rest))

/-- Three quotes in a row, the first of them a unit, stand nowhere in the text. -/
def isTripleFree : List Char → Bool
  | '\\' :: _ :: rest => isTripleFree rest
  | '"' :: '"' :: '"' :: _ => false
  | _ :: rest => isTripleFree rest
  | [] => true

/-- The last unit is whole and is no quote. -/
def endsWell : List Char → Bool
  | '\\' :: _ :: rest => endsWell rest
  | ['\\'] => false
  | ['"'] => false
  | _ :: rest => endsWell rest
  | [] => true

/-- The characters with which a backslash forms an escape. -/
def startsEscape (c : Char) : Bool :=
  c == '\n' || c == 'x' || c == 'u' || c == 'U' || c == 'N' || (simpleEscape? c).isSome || isOctal c

/-- No unit of the text is an escape. -/
def isEscapeFree : List Char → Bool
  | '\\' :: c :: rest => !startsEscape c && isEscapeFree rest
  | ['\\'] => false
  | _ :: rest => isEscapeFree rest
  | [] => true

variable {c : Char} {text rest after body value : List Char}

theorem isTripleFree_char (backslash : c ≠ '\\') (open_ : ¬ ['"', '"', '"'] <+: c :: rest) :
    isTripleFree (c :: rest) = isTripleFree rest := by
  rw [isTripleFree.eq_def]
  split
  · rename_i same
    exact absurd (List.cons.inj same).1 backslash
  · rename_i more same
    rw [same] at open_
    exact absurd ⟨more, rfl⟩ open_
  · rename_i same
    rw [(List.cons.inj same).2]
  · rename_i same
    cases same

theorem endsWell_char (backslash : c ≠ '\\') (last : c = '"' → rest ≠ []) :
    endsWell (c :: rest) = endsWell rest := by
  rw [endsWell.eq_def]
  split
  · rename_i same
    exact absurd (List.cons.inj same).1 backslash
  · rename_i same
    exact absurd (List.cons.inj same).1 backslash
  · rename_i same
    cases same
    exact absurd rfl (last rfl)
  · rename_i same
    rw [(List.cons.inj same).2]
  · rename_i same
    cases same

/-- What a text without backslashes and quotes continues ends well. -/
theorem endsWell_append (plain : ∀ d ∈ rest, d ≠ '\\' ∧ d ≠ '"') (more : rest ≠ []) :
    endsWell (text ++ rest) = true := by
  have alone : ∀ {others : List Char}, (∀ d ∈ others, d ≠ '\\' ∧ d ≠ '"') →
      endsWell others = true := by
    intro others plain
    induction others with
    | nil => rfl
    | cons d others ih =>
        obtain ⟨backslash, quote⟩ := plain d List.mem_cons_self
        rw [endsWell_char backslash fun same => absurd same quote]
        exact ih fun e member => plain e (List.mem_cons_of_mem _ member)
  induction text using units_induction with
  | nil => exact alone plain
  | half =>
      obtain ⟨d, others, rfl⟩ := List.exists_cons_of_ne_nil more
      show endsWell others = true
      exact alone fun e member => plain e (List.mem_cons_of_mem _ member)
  | escape c inner ih => exact ih
  | char c inner backslash ih =>
      have follows : inner ++ rest ≠ [] := List.append_ne_nil_of_right_ne_nil _ more
      rw [List.cons_append, endsWell_char backslash fun _ => follows]
      exact ih

theorem isEscapeFree_char (backslash : c ≠ '\\') :
    isEscapeFree (c :: rest) = isEscapeFree rest := by
  rw [isEscapeFree.eq_def]
  split
  · rename_i same
    exact absurd (List.cons.inj same).1 backslash
  · rename_i same
    exact absurd (List.cons.inj same).1 backslash
  · rename_i same
    rw [(List.cons.inj same).2]
  · rename_i same
    cases same

/-! ## The closing quotes -/

/-- The quotes around a text. -/
def quotes (triple : Bool) : List Char := if triple then ['"', '"', '"'] else ['"']

theorem body?_char (triple : Bool) (backslash : c ≠ '\\') :
    body? '"' triple (c :: rest) =
      if quotes triple <+: c :: rest then some ([], (c :: rest).drop (quotes triple).length)
      else if c = '\n' ∧ triple = false then none
      else (body? '"' triple rest).map fun (text, after) => (c :: text, after) := by
  rw [body?.eq_def]
  split
  · rename_i same
    exact absurd (List.cons.inj same).1 backslash
  · rename_i a b d more same
    cases same
    cases triple <;> simp [quotes] <;> grind
  · rename_i a more _ short same
    cases same
    cases triple with
    | false => simp [quotes]; grind
    | true =>
        -- fewer than three characters hold no closing quotes
        match rest, short with
        | [], _ => simp [quotes, body?]
        | [b], _ =>
            have none : body? '"' true [b] = none := by
              rw [body?.eq_def]
              split <;> simp_all
            simp [quotes, none]
        | b :: d :: others, short => exact absurd rfl (short b d others)
  · rename_i same
    cases same

/-- A literal is the text before its closing quotes, the quotes and what follows. -/
theorem append_of_body? {triple : Bool} :
    ∀ {after body}, body? '"' triple text = some (body, after) →
      text = body ++ quotes triple ++ after := by
  induction text using units_induction with
  | nil =>
      intro after body read
      cases read
  | half =>
      intro after body read
      cases triple <;> cases read
  | escape c rest ih =>
      intro after body read
      obtain ⟨⟨inner, tail⟩, found, same⟩ := Option.map_eq_some_iff.1 read
      cases same
      rw [ih found]
      rfl
  | char c rest backslash ih =>
      intro after body read
      rw [body?_char triple backslash] at read
      split at read
      · rename_i closes
        obtain ⟨tail, same⟩ := closes
        rw [← same, List.drop_left] at read
        cases read
        exact same.symm
      split at read
      · cases read
      · obtain ⟨⟨inner, tail⟩, found, same⟩ := Option.map_eq_some_iff.1 read
        cases same
        rw [ih found]
        rfl

/-- Closing quotes that start inside a text, or before its end, show in the text alone. -/
theorem quotes_isPrefix_iff {triple : Bool} :
    quotes triple <+: text ++ quotes triple ++ after ↔
      quotes triple <+: text ++ quotes triple := by
  constructor
  · intro starts
    refine List.prefix_of_prefix_length_le starts (List.prefix_append _ after) ?_
    simp
  · intro starts
    exact starts.trans (List.prefix_append _ after)

/-- Three quotes close before the end of a text that starts with them, or that is itself a
quote or two. -/
theorem triple_isPrefix_iff : quotes true <+: c :: rest ++ quotes true ↔
    c = '"' ∧ (rest = [] ∨ rest = ['"'] ∨ ∃ more, rest = '"' :: '"' :: more) := by
  match rest with
  | [] => simp [quotes, eq_comm]
  | [d] => simp [quotes, eq_comm]
  | d :: e :: more => simp [quotes, eq_comm]

/-- Between three quotes a text stands until the closing ones exactly when it holds no
three quotes in a row and ends with neither a quote nor half a unit. -/
theorem body?_triple_iff :
    body? '"' true (text ++ quotes true ++ after) = some (text, after) ↔
      isTripleFree text = true ∧ endsWell text = true := by
  induction text using units_induction with
  | nil => simp [quotes, body?, isTripleFree, endsWell]
  | half => simp [quotes, body?, endsWell]
  | escape c rest ih =>
      rw [isTripleFree, endsWell, ← ih]
      show (body? '"' true (rest ++ quotes true ++ after)).map _ = _ ↔ _
      simp
  | char c rest backslash ih =>
      have starts : quotes true <+: c :: (rest ++ quotes true ++ after) ↔
          c = '"' ∧ (rest = [] ∨ rest = ['"'] ∨ ∃ more, rest = '"' :: '"' :: more) :=
        (@quotes_isPrefix_iff (c :: rest) after true).trans triple_isPrefix_iff
      rw [List.cons_append, List.cons_append, body?_char true backslash]
      by_cases closes : c = '"' ∧ (rest = [] ∨ rest = ['"'] ∨ ∃ more, rest = '"' :: '"' :: more)
      · rw [if_pos (starts.2 closes)]
        obtain ⟨rfl, rfl | rfl | ⟨more, rfl⟩⟩ := closes <;> simp [isTripleFree, endsWell]
      · rw [if_neg (mt starts.1 closes), if_neg (by simp), isTripleFree_char backslash,
          endsWell_char backslash, ← ih]
        · simp
        · rintro rfl rfl
          exact closes ⟨rfl, .inl rfl⟩
        · rintro ⟨more, same⟩
          cases same
          exact closes ⟨rfl, .inr (.inr ⟨more, rfl⟩)⟩

/-! ## Escapes -/

/-- An octal escape takes at least its first digit. -/
theorem length_lt_of_octal? {code : Nat} (read : octal? text = some (code, after)) :
    after.length < text.length := by
  unfold octal? at read
  split at read <;> (repeat' split at read) <;> cases read <;>
    simp only [List.length_cons] <;> omega

theorem octal?_eq_none (digit : isOctal c = false) : octal? (c :: rest) = none := by
  unfold octal?
  split <;> simp_all

theorem octal?_ne_none (digit : isOctal c = true) : octal? (c :: rest) ≠ none := by
  unfold octal?
  split <;> simp_all <;> grind

/-- A backslash and a character that starts no escape stand for themselves. -/
theorem escape?_of_not_startsEscape (plain : startsEscape c = false) (rest : List Char) :
    escape? (c :: rest) = some (['\\', c], rest) := by
  simp only [startsEscape, Bool.or_eq_false_iff, beq_eq_false_iff_ne,
    Option.isSome_eq_false_iff, Option.isNone_iff_eq_none] at plain
  obtain ⟨⟨⟨⟨⟨⟨line, x⟩, u⟩, U⟩, N⟩, simple⟩, digit⟩ := plain
  rw [escape?.eq_def]
  split <;> simp_all [octal?_eq_none]

/-- An escape by a code point stands for one character. -/
theorem of_codeEscape {code? : Option Nat} {after? : Option (List Char)} {meant : List Char}
    (read : (code?.bind fun code => (charOf? code).bind fun c =>
      after?.bind fun after => some ([c], after)) = some (meant, after)) :
    meant.length = 1 ∧ after? = some after := by
  obtain ⟨code, -, inside⟩ := Option.bind_eq_some_iff.1 read
  obtain ⟨c, -, inside⟩ := Option.bind_eq_some_iff.1 inside
  obtain ⟨tail, found, same⟩ := Option.bind_eq_some_iff.1 inside
  cases same
  exact ⟨rfl, found⟩

/-- An escape shortens the text, unless it is none. -/
theorem escape?_cases {meant : List Char} (read : escape? text = some (meant, after)) :
    meant.length + after.length ≤ text.length ∨
      ∃ c, startsEscape c = false ∧ text = c :: after ∧ meant = ['\\', c] := by
  have code : ∀ {code? : Option Nat} {rest : List Char},
      (code?.bind fun code => (charOf? code).bind fun c => some ([c], rest)) = some (meant, after) →
        meant.length = 1 ∧ after.length = rest.length := by
    intro code? rest read
    obtain ⟨one, same⟩ := @of_codeEscape after code? (some rest) meant read
    cases same
    exact ⟨one, rfl⟩
  rw [escape?.eq_def] at read
  split at read
  · cases read
    simp
  · have size := code read
    simp only [List.length_cons]
    omega
  · have size := code read
    simp only [List.length_cons]
    omega
  · have size := code read
    simp only [List.length_cons]
    omega
  · rename_i rest
    obtain ⟨one, same⟩ := of_codeEscape read
    have within := (List.dropWhile_suffix (l := rest) (· != '\x7d')).length_le
    cases ends : rest.dropWhile (· != '\x7d') with
    | nil =>
        rw [ends] at same
        cases same
    | cons brace tail =>
        rw [ends] at same within
        cases same
        simp only [List.length_cons] at within ⊢
        omega
  · rename_i c rest line x u U N
    by_cases letter : (c == 'x' || c == 'u' || c == 'U' || c == 'N') = true
    · rw [if_pos letter] at read
      cases read
    rw [if_neg letter] at read
    split at read
    · cases read
      exact .inl (by simp; omega)
    · rename_i simple
      split at read
      · rename_i code tail digits
        obtain ⟨c, -, same⟩ := Option.map_eq_some_iff.1 read
        cases same
        have fewer := length_lt_of_octal? digits
        exact .inl (by simp only [List.length_singleton]; omega)
      · rename_i digits
        cases read
        -- a character that begins no escape is kept together with its backslash
        have digit : isOctal c = false := by
          cases value : isOctal c with
          | false => rfl
          | true => exact absurd digits (octal?_ne_none value)
        have line : (c == '\n') = false := beq_eq_false_iff_ne.2 line
        refine .inr ⟨c, ?_, rfl, rfl⟩
        simp only [Bool.or_eq_true, not_or, Bool.not_eq_true] at letter
        simp [startsEscape, line, letter, simple, digit]
  · cases read

/-- A text with its escapes replaced is shorter, unless it has none. -/
theorem unescape?_cases {bound : Nat} :
    ∀ {body value}, unescape? bound body = some value →
      value.length < body.length ∨ value = body ∧ isEscapeFree body = true := by
  induction bound with
  | zero =>
      intro body value read
      cases body with
      | nil =>
          cases read
          exact .inr ⟨rfl, rfl⟩
      | cons c rest => cases read
  | succ bound ih =>
      intro body value read
      cases body with
      | nil =>
          cases read
          exact .inr ⟨rfl, rfl⟩
      | cons c rest =>
          by_cases backslash : c = '\\'
          · subst backslash
            obtain ⟨⟨meant, tail⟩, escape, inside⟩ := Option.bind_eq_some_iff.1 read
            obtain ⟨inner, found, same⟩ := Option.bind_eq_some_iff.1 inside
            cases same
            have within : inner.length ≤ tail.length := by
              rcases ih found with shorter | ⟨rfl, -⟩ <;> omega
            -- an escape that means something is longer than what it means
            rcases escape?_cases escape with shorter | ⟨d, plain, rfl, rfl⟩
            · exact .inl (by simp only [List.length_append, List.length_cons]; omega)
            · rcases ih found with shorter | ⟨rfl, free⟩
              · exact .inl (by simpa using shorter)
              · exact .inr ⟨rfl, by simp [isEscapeFree, plain, free]⟩
          · rw [unescape?_plain backslash] at read
            obtain ⟨inner, found, rfl⟩ := Option.map_eq_some_iff.1 read
            rw [isEscapeFree_char backslash]
            rcases ih found with shorter | ⟨rfl, free⟩
            · exact .inl (by simpa using shorter)
            · exact .inr ⟨rfl, free⟩

/-- A text without escapes stands for itself. -/
theorem unescape?_of_isEscapeFree (free : isEscapeFree text = true) :
    ∀ {bound}, text.length ≤ bound → unescape? bound text = some text := by
  induction text using units_induction with
  | nil =>
      intro bound enough
      cases bound <;> rfl
  | half => cases free
  | escape c rest ih =>
      intro bound enough
      simp only [isEscapeFree, Bool.and_eq_true, Bool.not_eq_true'] at free
      simp only [List.length_cons] at enough
      obtain ⟨bound, rfl⟩ : ∃ less, bound = less + 1 := ⟨bound - 1, by omega⟩
      have inner : unescape? bound rest = some rest := ih free.2 (by omega)
      rw [unescape?, escape?_of_not_startsEscape free.1, Option.bind_eq_bind, Option.bind_some]
      dsimp only
      rw [inner]
      rfl
  | char c rest backslash ih =>
      intro bound enough
      rw [isEscapeFree_char backslash] at free
      obtain ⟨bound, rfl⟩ : ∃ less, bound = less + 1 := ⟨bound - 1, by simp at enough; omega⟩
      rw [unescape?_plain backslash, ih free (by simpa using enough), Option.map_some]

/-- Between two quotes a text without escapes stands until the closing one exactly when it
holds neither a quote nor a line end. -/
theorem body?_single_iff (free : isEscapeFree text = true) :
    body? '"' false (text ++ '"' :: after) = some (text, after) ↔
      ∀ c ∈ text, c ≠ '"' ∧ c ≠ '\n' := by
  induction text using units_induction with
  | nil => simp [body?_close (.inr rfl)]
  | half => cases free
  | escape c rest ih =>
      simp only [isEscapeFree, Bool.and_eq_true, Bool.not_eq_true'] at free
      have apart : c ≠ '"' ∧ c ≠ '\n' := by
        constructor <;> rintro rfl <;> cases free.1
      rw [List.cons_append, List.cons_append, body?]
      simpa [apart] using ih free.2
  | char c rest backslash ih =>
      rw [isEscapeFree_char backslash] at free
      rw [List.cons_append, body?_char false backslash]
      by_cases closes : c = '"'
      · simp [quotes, closes]
      by_cases line : c = '\n'
      · simp [quotes, line]
      · simpa [quotes, closes, Ne.symm closes, line] using ih free

/-- Every escape of the text is well formed.  A surrogate is no character, but a literal may
hold an escape for it. -/
inductive WellEscaped : List Char → Prop
  | nil : WellEscaped []
  | char {c : Char} {rest : List Char} :
      c ≠ '\\' → WellEscaped rest → WellEscaped (c :: rest)
  | escape {text meant after : List Char} :
      escape? text = some (meant, after) → WellEscaped after → WellEscaped ('\\' :: text)
  | surrogate {letter : Char} {digits rest : List Char} {code : Nat} :
      (letter, digits.length) ∈ [('u', 4), ('U', 8)] → hex? digits = some code →
        0xD800 ≤ code → code < 0xE000 → WellEscaped rest →
          WellEscaped ('\\' :: letter :: digits ++ rest)

theorem wellEscaped_of_isEscapeFree (free : isEscapeFree text = true) : WellEscaped text := by
  induction text using units_induction with
  | nil => exact .nil
  | half => cases free
  | escape c rest ih =>
      simp only [isEscapeFree, Bool.and_eq_true, Bool.not_eq_true'] at free
      exact .escape (escape?_of_not_startsEscape free.1 rest) (ih free.2)
  | char c rest backslash ih =>
      rw [isEscapeFree_char backslash] at free
      exact .char backslash (ih free)

/-! ## Line ends -/

/-- Induction over a text whose line ends are carriage returns, alone or before a line feed. -/
@[elab_as_elim]
theorem lines_induction {motive : List Char → Prop} (nil : motive [])
    (pair : ∀ rest, motive rest → motive ('\r' :: '\n' :: rest))
    (alone : ∀ rest, (∀ more, rest ≠ '\n' :: more) → motive rest → motive ('\r' :: rest))
    (char : ∀ c rest, c ≠ '\r' → motive rest → motive (c :: rest)) : ∀ text, motive text
  | [] => nil
  | [c] =>
      if line : c = '\r' then line ▸ alone [] nofun nil
      else char c [] line nil
  | c :: d :: rest =>
      if line : c = '\r' then
        if feed : d = '\n' then line ▸ feed ▸ pair rest (lines_induction nil pair alone char rest)
        else
          have apart : ∀ more, d :: rest ≠ '\n' :: more := fun _ same => feed (List.cons.inj same).1
          line ▸ alone (d :: rest) apart (lines_induction nil pair alone char (d :: rest))
      else char c (d :: rest) line (lines_induction nil pair alone char (d :: rest))

theorem unifyLines_pair (rest : List Char) :
    unifyLines ('\r' :: '\n' :: rest) = '\n' :: unifyLines rest := rfl

theorem unifyLines_char (apart : c ≠ '\r') (rest : List Char) :
    unifyLines (c :: rest) = c :: unifyLines rest := by
  rw [unifyLines] <;> simp [apart]

theorem unifyLines_return (apart : ∀ more, rest ≠ '\n' :: more) :
    unifyLines ('\r' :: rest) = '\n' :: unifyLines rest := by
  rw [unifyLines]
  exact apart

theorem unifyLines_append (line : c ≠ '\n') (text rest : List Char) :
    unifyLines (text ++ c :: rest) = unifyLines text ++ unifyLines (c :: rest) := by
  induction text using lines_induction with
  | nil => rfl
  | pair more ih =>
      rw [List.cons_append, List.cons_append, unifyLines_pair, unifyLines_pair, ih, List.cons_append]
  | alone more apart ih =>
      rw [List.cons_append, unifyLines_return, ih, unifyLines_return apart, List.cons_append]
      intro others same
      cases more with
      | nil => exact line (List.cons.inj same).1
      | cons d more =>
          cases same
          exact apart more rfl
  | char d more apart ih =>
      rw [List.cons_append, unifyLines_char apart, ih, unifyLines_char apart, List.cons_append]

theorem exists_of_unifyLines (same : unifyLines text = '"' :: rest) :
    ∃ more, text = '"' :: more ∧ rest = unifyLines more := by
  induction text using lines_induction with
  | nil => cases same
  | pair => cases same
  | alone more apart =>
      rw [unifyLines_return apart] at same
      cases same
  | char c more apart =>
      rw [unifyLines_char apart] at same
      cases same
      exact ⟨more, rfl, rfl⟩

theorem length_unifyLines_le (text : List Char) : (unifyLines text).length ≤ text.length := by
  induction text using lines_induction with
  | nil => exact Nat.le_refl 0
  | pair rest ih => exact Nat.le_succ_of_le (Nat.succ_le_succ ih)
  | alone rest apart ih =>
      rw [unifyLines_return apart]
      exact Nat.succ_le_succ ih
  | char c rest apart ih =>
      rw [unifyLines_char apart]
      exact Nat.succ_le_succ ih

theorem return_not_mem_unifyLines (text : List Char) : '\r' ∉ unifyLines text := by
  induction text using lines_induction with
  | nil => exact List.not_mem_nil
  | pair rest ih => exact List.not_mem_cons_of_ne_of_not_mem (by decide) ih
  | alone rest apart ih =>
      rw [unifyLines_return apart]
      exact List.not_mem_cons_of_ne_of_not_mem (by decide) ih
  | char c rest apart ih =>
      rw [unifyLines_char apart]
      exact List.not_mem_cons_of_ne_of_not_mem apart.symm ih

theorem unifyLines_of_not_mem (none : '\r' ∉ text) : unifyLines text = text := by
  induction text with
  | nil => rfl
  | cons c rest ih =>
      obtain ⟨apart, none⟩ := not_or.1 (mt List.mem_cons.2 none)
      rw [unifyLines_char (Ne.symm apart), ih none]

/-! ## Texts without three quotes -/

theorem isTripleFree_of_not_isInfix (none : ¬ quotes true <:+: text) :
    isTripleFree text = true := by
  induction text using units_induction with
  | nil => rfl
  | half => rfl
  | escape c rest ih =>
      refine ih fun inside => none ?_
      exact inside.trans (List.suffix_append ['\\', c] rest).isInfix
  | char c rest backslash ih =>
      rw [isTripleFree_char backslash fun starts => none starts.isInfix]
      exact ih fun inside => none (List.infix_cons inside)

/-- Line ends make no quotes meet. -/
theorem isInfix_of_unifyLines (inside : quotes true <:+: unifyLines text) :
    quotes true <:+: text := by
  have notLine : ∀ more : List Char, ¬ quotes true <+: '\n' :: more := by simp [quotes]
  induction text using lines_induction with
  | nil => exact inside
  | pair more ih =>
      have later := (List.infix_cons_iff.1 inside).resolve_left (notLine _)
      exact List.infix_cons (List.infix_cons (ih later))
  | alone more apart ih =>
      rw [unifyLines_return apart] at inside
      have later := (List.infix_cons_iff.1 inside).resolve_left (notLine _)
      exact List.infix_cons (ih later)
  | char c more apart ih =>
      rw [unifyLines_char apart] at inside
      rcases List.infix_cons_iff.1 inside with ⟨others, starts⟩ | later
      · obtain ⟨rfl, second⟩ := List.cons.inj starts
        obtain ⟨tail, rfl, third⟩ := exists_of_unifyLines second.symm
        obtain ⟨tail, rfl, -⟩ := exists_of_unifyLines third.symm
        exact (List.prefix_append (quotes true) tail).isInfix
      · exact List.infix_cons (ih later)

/-! ## Literals -/

/-- The literal that opens at the start of the text: what its quotes enclose and what
follows them. -/
def opened? : List Char → Option (List Char × List Char)
  | '"' :: '"' :: '"' :: rest => body? '"' true rest
  | '"' :: rest => body? '"' false rest
  | _ => none

/-- A literal opens with one quote or with three. -/
theorem opened?_cases {found : List Char × List Char} (read : opened? ('"' :: text) = some found) :
    body? '"' false text = some found ∨
      ∃ start, text = '"' :: '"' :: start ∧ body? '"' true start = some found := by
  rw [opened?.eq_def] at read
  split at read
  · rename_i start same
    cases same
    exact .inr ⟨start, rfl, read⟩
  · rename_i same
    cases same
    exact .inl read
  · cases read

theorem opened?_single (apart : ∀ start, text ≠ '"' :: '"' :: start) :
    opened? ('"' :: text) = body? '"' false text := by
  rw [opened?]
  exact apart

/-- A text is read as the value of what its quotes enclose. -/
theorem quoted?_eq_opened? (rest : List Char) : quoted? false false '"' rest =
    (opened? ('"' :: rest)).bind fun (body, after) =>
      (unescape? body.length body).map fun value => (.textPiece value, after) := by
  have piece : ∀ found : Option (List Char × List Char),
      (found.bind fun (body, after) =>
        ((unescape? body.length body).map Token.textPiece).bind fun token => some (token, after)) =
      found.bind fun (body, after) =>
        (unescape? body.length body).map fun value => (.textPiece value, after) := by
    intro found
    cases found with
    | none => rfl
    | some read =>
        dsimp only [Option.bind_some]
        cases unescape? read.1.length read.1 <;> rfl
  -- two more quotes open a literal that three of them close
  by_cases triple : ∃ start, rest = '"' :: '"' :: start
  · obtain ⟨start, rfl⟩ := triple
    exact piece (body? '"' true start)
  · have apart : ∀ start, rest ≠ '"' :: '"' :: start := fun start same => triple ⟨start, same⟩
    rw [opened?_single apart, ← piece]
    unfold quoted?
    split
    rename_i flag start found
    obtain ⟨rfl, rfl⟩ : flag = false ∧ start = rest := by
      split at found
      · rename_i a b more
        rw [if_neg] at found
        · cases found
          exact ⟨rfl, rfl⟩
        · intro both
          simp only [Bool.and_eq_true, beq_iff_eq] at both
          exact apart more (by rw [both.1, both.2])
      · cases found
        exact ⟨rfl, rfl⟩
    rfl

/-- Its escapes are well formed, and it holds no null character. -/
structure WellFormed (text : List Char) : Prop where
  escapes : WellEscaped text
  null : '\x00' ∉ text

/-- A literal stands at the start of a text and ends where `after` begins; its quotes
enclose `body`. -/
structure LiteralAt (text after body : List Char) : Prop where
  read : opened? (unifyLines text) = some (body, unifyLines after)
  wellFormed : WellFormed body

/-- A text between three quotes is a literal that ends there exactly when it holds no three
quotes in a row, ends with neither a quote nor half a unit, and is well formed. -/
theorem exists_literalAt_iff :
    (∃ body, LiteralAt ("\"\"\"".toList ++ text ++ "\"\"\"".toList ++ after) after body) ↔
      isTripleFree (unifyLines text) = true ∧ endsWell (unifyLines text) = true ∧
        WellFormed (unifyLines text) := by
  have lines : unifyLines ("\"\"\"".toList ++ text ++ "\"\"\"".toList ++ after) =
      '"' :: '"' :: '"' :: (unifyLines text ++ quotes true ++ unifyLines after) := by
    have inner := @unifyLines_append '"' (by decide) text ('"' :: '"' :: after)
    show unifyLines ('"' :: '"' :: '"' :: (text ++ ['"', '"', '"'] ++ after)) = _
    simp only [ne_eq, Char.reduceEq, not_false_eq_true, unifyLines_char] at inner ⊢
    simp only [List.append_assoc, List.cons_append, List.nil_append, inner, quotes, if_true]
  constructor
  · rintro ⟨body, literal⟩
    have read := literal.read
    rw [lines, opened?] at read
    have same := append_of_body? read
    simp only [List.append_assoc, List.append_cancel_right_eq] at same
    subst same
    obtain ⟨free, ends⟩ := body?_triple_iff.1 read
    exact ⟨free, ends, literal.wellFormed⟩
  · rintro ⟨free, ends, wellFormed⟩
    refine ⟨unifyLines text, ?_, wellFormed⟩
    rw [lines, opened?]
    exact body?_triple_iff.2 ⟨free, ends⟩

/-- Every character of the text means itself between two quotes. -/
def isVerbatim (text : List Char) : Bool :=
  isEscapeFree text && text.all fun c => c != '"' && c != '\n' && c != '\r' && c != '\x00'

/-- A text between two quotes is a literal that ends there and denotes the text exactly when
every character means itself. -/
theorem exists_literalAt_denoting_iff (apart : after.head? ≠ some '"') :
    (∃ body, LiteralAt ('"' :: text ++ '"' :: after) after body ∧
      unescape? body.length body = some text) ↔ isVerbatim text = true := by
  have lines : unifyLines ('"' :: text ++ '"' :: after) =
      '"' :: (unifyLines text ++ '"' :: unifyLines after) := by
    rw [List.cons_append, unifyLines_char (by decide), unifyLines_append (by decide),
      unifyLines_char (by decide)]
  constructor
  · rintro ⟨body, literal, value⟩
    have read := literal.read
    rw [lines] at read
    have longer := length_unifyLines_le text
    rcases opened?_cases read with single | ⟨start, front, triple⟩
    · have same := append_of_body? single
      simp only [quotes, Bool.false_eq_true, if_false, List.append_assoc, List.singleton_append,
        List.append_cancel_right_eq] at same
      subst same
      -- the value is as long as its body, so no escape of the body means anything
      rcases unescape?_cases value with shorter | ⟨same, free⟩
      · omega
      · have noReturn := return_not_mem_unifyLines text
        have null := literal.wellFormed.null
        rw [← same] at free single noReturn null
        have plain := (body?_single_iff free).1 single
        rw [isVerbatim, free, Bool.true_and, List.all_eq_true]
        intro c member
        have noQuote := plain c member
        simp only [Bool.and_eq_true, bne_iff_ne]
        exact ⟨⟨noQuote, fun same => noReturn (same ▸ member)⟩, fun same => null (same ▸ member)⟩
    · -- the body of a longer literal is too short to denote the text
      have same := append_of_body? triple
      have sizes := congrArg List.length front
      simp only [same, quotes, if_true, List.length_append, List.length_cons,
        List.length_nil] at sizes
      rcases unescape?_cases value with shorter | ⟨rfl, -⟩ <;> omega
  · intro verbatim
    rw [isVerbatim, Bool.and_eq_true, List.all_eq_true] at verbatim
    obtain ⟨free, each⟩ := verbatim
    simp only [Bool.and_eq_true, bne_iff_ne] at each
    have same : unifyLines text = text :=
      unifyLines_of_not_mem fun member => (each '\r' member).1.2 rfl
    refine ⟨text, ⟨?_, wellEscaped_of_isEscapeFree free, fun member => (each _ member).2 rfl⟩,
      unescape?_of_isEscapeFree free le_rfl⟩
    rw [lines, same, opened?_single]
    · exact (body?_single_iff free).2 fun c member => (each c member).1.1
    · intro start front
      cases text with
      | nil =>
          obtain ⟨more, head, -⟩ := exists_of_unifyLines (List.cons.inj front).2
          exact apart (head ▸ rfl)
      | cons c rest => exact (each c List.mem_cons_self).1.1.1 (List.cons.inj front).1

end TypedContract.Literal.Token
