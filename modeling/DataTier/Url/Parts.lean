/-
**Taking URLs apart.**

The URLs of a cache have schemes without a special meaning to the grammar: a backslash is an
ordinary character, a host is kept as it is written, and a path may be opaque.

Main definitions:

* `DataTier.UrlParts` — a URL taken apart;
* `DataTier.UrlParts.ofText?` — takes a URL apart, none when it is no URL.
-/

import DataTier.Text.Digits
import DataTier.Url.Percent

set_option relaxedAutoImplicit false
set_option autoImplicit false

namespace DataTier

/-- The path of a URL. -/
inductive UrlPath where
  /-- Segments, each after a slash. -/
  | segments (parts : List (List Char))
  /-- A text that does not begin with a slash. -/
  | opaqueText (text : List Char)
  deriving DecidableEq

/-- A URL taken apart; escapes stay as they are written. -/
structure UrlParts where
  /-- The scheme in lower case. -/
  scheme : List Char
  /-- The name of the user, empty without one. -/
  username : List Char := []
  /-- The password, none without one. -/
  password : Option (List Char) := none
  /-- The host, none without one. -/
  host : Option (List Char) := none
  /-- The path. -/
  path : UrlPath
  /-- The query, none without one. -/
  query : Option (List Char) := none
  deriving DecidableEq

namespace UrlParts

/-! ### Hosts -/

/-- Whether a text is a decimal number below 256 without leading zeros. -/
def isByteText (cs : List Char) : Bool :=
  !cs.isEmpty && cs.all Char.isDigit && cs.length ≤ 3 && (cs.length == 1 || cs.head? != some '0')
    && Digits.value cs < 256

/-- Whether a text is four decimal bytes with points between them. -/
def isIpv4 (cs : List Char) : Bool :=
  let parts := Chars.splitOn '.' cs
  parts.length == 4 && parts.all isByteText

/-- Whether a text is one to four hexadecimal digits. -/
def isGroup (cs : List Char) : Bool :=
  !cs.isEmpty && cs.length ≤ 4 && cs.all fun c => (Hex.digitValue? c).isSome

/-- The number of groups of 16 bits that texts stand for, of which the last may be an IPv4 address;
none if one is neither. -/
def groupCount? : List (List Char) → Option Nat
  | [] => some 0
  | [last] => if isGroup last then some 1 else if isIpv4 last then some 2 else none
  | first :: rest => if isGroup first then (groupCount? rest).map (· + 1) else none

/-- What stands before and after the first `::`. -/
def splitGap? : List Char → Option (List Char × List Char)
  | [] => none
  | ':' :: ':' :: rest => some ([], rest)
  | c :: rest => (splitGap? rest).map fun (before, after) => (c :: before, after)

/-- The groups of a text, none for an empty one. -/
def groups (cs : List Char) : List (List Char) := if cs.isEmpty then [] else Chars.splitOn ':' cs

/-- Whether a text is an IPv6 address. -/
def isIpv6 (cs : List Char) : Bool :=
  match splitGap? cs with
  | none => groupCount? (groups cs) == some 8
  | some (before, after) =>
    match (groups before).all isGroup, groupCount? (groups after) with
    | true, some n => (groups before).length + n ≤ 7
    | _, _ => false

/-- Whether a character cannot stand in a host. -/
def isForbidden (c : Char) : Bool := c = '\x00' || "\t\n\r #/:<>?@[\\]^|".toList.contains c

/-- Whether a text that is not empty is a host. -/
def isHost (cs : List Char) : Bool :=
  match cs with
  | '[' :: rest => rest.getLast? == some ']' && isIpv6 rest.dropLast
  | _ => !cs.any isForbidden

/-- The host at the front of a text, and the rest from its port on: a colon within brackets
belongs to the host. -/
def spanHost : Bool → List Char → List Char × List Char
  | _, [] => ([], [])
  | inside, c :: cs =>
    if c = ':' ∧ inside = false then ([], c :: cs)
    else
      let inside := if c = '[' then true else if c = ']' then false else inside
      let (host, rest) := spanHost inside cs
      (c :: host, rest)

/-- What stands after a port, none if the port is no number of 16 bits: nothing, or a backslash
that begins the path. -/
def afterPort? (cs : List Char) : Option (List Char) :=
  let digits := cs.takeWhile Char.isDigit
  if Word.size16 ≤ Digits.value digits then none
  else
    match cs.dropWhile Char.isDigit with
    | [] => some []
    | '\\' :: rest => some ('\\' :: rest)
    | _ => none

/-! ### The authority -/

/-- What stands before and after the last `@`. -/
def splitLastAt? : List Char → Option (List Char × List Char)
  | [] => none
  | c :: rest =>
    match splitLastAt? rest with
    | some (before, after) => some (c :: before, after)
    | none => if c = '@' then some ([], rest) else none

/-- Whether a character ends the authority. -/
def endsAuthority (c : Char) : Bool := c = '/' || c = '?' || c = '#'

/-- User, password, host and the path that begins in the authority. -/
structure Authority where
  /-- The name of the user. -/
  username : List Char
  /-- The password. -/
  password : Option (List Char)
  /-- The host. -/
  host : Option (List Char)
  /-- What stands after the port. -/
  rest : List Char

/-- The host and port of an authority; without a host there may be neither a port nor, when
`needed`, anything else. -/
def hostOf? (username : List Char) (password : Option (List Char)) (needed : Bool)
    (cs : List Char) : Option Authority :=
  let (host, rest) := spanHost false cs
  if host.isEmpty then
    if rest.isEmpty ∧ needed = false then some ⟨username, password, none, []⟩ else none
  else if isHost host then
    match rest with
    | ':' :: port => (afterPort? port).map fun rest => ⟨username, password, some host, rest⟩
    | _ => some ⟨username, password, some host, []⟩
  else none

/-- An authority taken apart; `ended` says that something follows it. -/
def authority? (cs : List Char) (ended : Bool) : Option Authority :=
  match splitLastAt? cs with
  | none => hostOf? [] none false cs
  | some ([], after) =>
    if after.isEmpty ∧ ended then none else hostOf? [] none false after
  | some (user, after) =>
    let (name, password) := Chars.cut ':' user
    hostOf? name (password.filter (!·.isEmpty)) (user != [':']) after

/-! ### The path -/

/-- Whether a segment stands for the place itself. -/
def isSingleDot (cs : List Char) : Bool :=
  let lower := cs.map Char.toLower
  lower == ".".toList || lower == "%2e".toList

/-- Whether a segment stands for the place above. -/
def isDoubleDot (cs : List Char) : Bool :=
  let lower := cs.map Char.toLower
  lower == "..".toList || lower == ".%2e".toList || lower == "%2e.".toList
    || lower == "%2e%2e".toList

/-- Segments with those that stand for a place resolved; the segments before are given from the
last to the first. -/
def resolve (before : List (List Char)) : List (List Char) → List (List Char)
  | [] => before.reverse
  | [last] =>
    if isDoubleDot last then ([] :: before.tail).reverse
    else if isSingleDot last then ([] :: before).reverse
    else (last :: before).reverse
  | part :: rest =>
    if isDoubleDot part then resolve before.tail rest
    else if isSingleDot part then resolve before rest
    else resolve (part :: before) rest

/-- The path of a text. -/
def pathOf (cs : List Char) : UrlPath :=
  match cs with
  | '/' :: rest => .segments (resolve [] (Chars.splitOn '/' rest))
  | _ => .opaqueText cs

/-! ### Whole URLs -/

/-- A URL without the blanks and control characters around it, and without the tabs and line ends
within. -/
def clean (cs : List Char) : List Char :=
  let isOuter (c : Char) : Bool := c.toNat ≤ 0x20
  (Chars.trim isOuter cs).filter fun c => c ≠ '\t' ∧ c ≠ '\n' ∧ c ≠ '\r'

/-- The scheme in lower case and what stands after its colon. -/
def scheme? (cs : List Char) : Option (List Char × List Char) :=
  let isPart (c : Char) : Bool := c.isAlphanum || c = '+' || c = '-' || c = '.'
  match cs with
  | c :: _ =>
    if c.isAlpha then
      match cs.dropWhile isPart with
      | ':' :: rest => some ((cs.takeWhile isPart).map Char.toLower, rest)
      | _ => none
    else none
  | [] => none

/-- A text without its fragment, cut at its question mark. -/
def cutQuery (cs : List Char) : List Char × Option (List Char) :=
  Chars.cut '?' (cs.takeWhile (· != '#'))

/-- A URL taken apart. -/
def ofText? (text : String) : Option UrlParts :=
  (scheme? (clean text.toList)).bind fun (scheme, rest) =>
    match rest with
    | '/' :: '/' :: rest =>
      let inside := rest.takeWhile (!endsAuthority ·)
      let after := rest.dropWhile (!endsAuthority ·)
      (authority? inside (!after.isEmpty)).map fun a =>
        let (path, query) := cutQuery after
        let path := a.rest ++ path
        let path := match path with
          | [] => .opaqueText []
          | '/' :: _ => pathOf path
          | _ => pathOf ('/' :: path)
        { scheme, username := a.username, password := a.password, host := a.host, path, query }
    | _ =>
      let (path, query) := cutQuery rest
      some { scheme, path := pathOf path, query }

end UrlParts

end DataTier
