/-
# TypedContract.Web.Page -- addresses and fetching pages

An address has a scheme, an authority, a path, a query and a fragment.  A relative
address is completed by an absolute one: it takes from it the parts in front of
the first part that it has itself, and a path that begins with no slash continues
the other path.

A fetch follows redirections until a page answers with success.  It fails at an
address without a page, at any other answer and after too many redirections.
-/
import TypedContract.Text.Ranges

namespace TypedContract.Web

set_option autoImplicit false

/-! ## Addresses -/

/-- An address.  A part is missing when it is empty. -/
structure Address where
  scheme : List Char := []
  authority : Option (List Char) := none
  path : List Char := []
  query : List Char := []
  fragment : List Char := []

namespace Address

/-- The text in front of a mark and the text from the mark on. -/
def cut (mark : Char → Bool) (text : List Char) : List Char × List Char :=
  (text.takeWhile (!mark ·), text.dropWhile (!mark ·))

/-- A character of a scheme after the first one. -/
def isSchemeChar (c : Char) : Bool := c.isAlphanum || c == '+' || c == '-' || c == '.'

/-- The scheme in front of a text and what follows it. -/
def splitScheme (text : List Char) : List Char × List Char :=
  match cut (· == ':') text with
  | (c :: scheme, ':' :: rest) =>
      if c.isAlpha && scheme.all isSchemeChar then (c :: scheme, rest) else ([], text)
  | _ => ([], text)

/-- The address that a text writes. -/
def ofChars (text : List Char) : Address :=
  let (scheme, rest) := splitScheme text
  let (rest, fragment) := cut (· == '#') rest
  let (rest, query) := cut (· == '?') rest
  let (authority, path) := match rest with
    | '/' :: '/' :: rest =>
        let (authority, path) := cut (· == '/') rest
        (some authority, path)
    | path => (none, path)
  {
    scheme := scheme
    authority := authority
    path := path
    query := query.drop 1
    fragment := fragment.drop 1
  }

/-- A part behind its mark, when it is not empty. -/
def marked (mark part : List Char) : List Char := if part.isEmpty then [] else mark ++ part

/-- The text of an address. -/
def chars (address : Address) : List Char :=
  (if address.scheme.isEmpty then [] else address.scheme ++ [':'])
    ++ ((address.authority.map ("//".toList ++ ·)).getD [])
    ++ address.path ++ marked ['?'] address.query ++ marked ['#'] address.fragment

/-- Segments without points: a double point takes away the segment before it. -/
def plainSegments (kept : List (List Char)) : List (List Char) → List (List Char)
  | [] => kept
  | segment :: rest =>
      if segment == ['.', '.'] then plainSegments kept.dropLast rest
      else if segment == ['.'] then plainSegments kept rest
      else plainSegments (kept ++ [segment]) rest

/-- The segments of a path that continues another one. -/
def continued (base path : List Char) : List (List Char) :=
  let segments := Text.splitOnChar (· == '/') path
  match path with
  | '/' :: _ => segments
  | _ => (Text.splitOnChar (· == '/') base).dropLast ++ segments

/-- A path whose segments say something, except at its two ends. -/
def joined (segments : List (List Char)) : List Char :=
  let inner := match segments with
    | first :: second :: rest =>
        first :: (second :: rest).dropLast.filter (!·.isEmpty)
          ++ ((second :: rest).getLast?.toList)
    | segments => segments
  let kept := plainSegments [] inner
  let ended := match inner.getLast? with
    | some last => if last == ['.', '.'] || last == ['.'] then kept ++ [[]] else kept
    | none => kept
  match Text.joinWith ['/'] ended with
  | '/' :: path => '/' :: path
  | path => '/' :: path

/-- An address, completed by an absolute one when it is relative. -/
def complete (base address : Address) : Address :=
  if !address.scheme.isEmpty && address.scheme != base.scheme then address
  else if address.authority.isSome then { address with scheme := base.scheme }
  else if address.path.isEmpty then
    { base with
      query := if address.query.isEmpty then base.query else address.query
      fragment := address.fragment }
  else
    { base with
      path := joined (continued base.path address.path)
      query := address.query
      fragment := address.fragment }

end Address

/-! ## Pages -/

/-- The answer of a server. -/
structure Page where
  status : Int := 200
  body : String := ""
  /-- Where a redirection leads. -/
  location : Option String := none

/-- The pages by their addresses. -/
abbrev Pages := List (String × Page)

namespace Page

/-- The statuses that send to another address. -/
def redirections : List Int := [301, 302, 303, 307, 308]

/-- The request has succeeded. -/
def isSuccess (page : Page) : Bool := 200 ≤ page.status && page.status < 300

/-- The address that a page sends to. -/
def next? (page : Page) : Option String :=
  if redirections.contains page.status then page.location else none

end Page

namespace Pages

/-- The number of redirections that are followed. -/
def redirectionLimit : Nat := 20

/-- The page at an address, after at most so many redirections. -/
def fetchWithin? (pages : Pages) (bound : Nat) (address : String) : Option Page :=
  match pages.lookup address with
  | none => none
  | some page =>
      match page.next?, bound with
      | none, _ => if page.isSuccess then some page else none
      | some _, 0 => none
      | some location, bound + 1 =>
          let next := (Address.ofChars address.toList).complete (.ofChars location.toList)
          fetchWithin? pages bound (String.ofList next.chars)

/-- The page at an address. -/
def fetch? (pages : Pages) (address : String) : Option Page :=
  pages.fetchWithin? redirectionLimit address

end Pages

end TypedContract.Web
