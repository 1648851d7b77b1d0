import ClassModel.Text.Split

/-!
# `Source.Url` — the scheme and the authority of a URL

Only as much of a URL is read as decides whether it can be fetched. Control characters and blanks
before it and tabs and line ends inside it are ignored. An authority with a bracket must have both,
its host must be an address, and no character of it may turn into a delimiter when it is
normalized.
-/

set_option autoImplicit false

namespace ClassModel
namespace Source

/-- The scheme of a URL in lower case, and its authority; either may be empty. -/
structure Url where
  scheme : String
  authority : String
  deriving DecidableEq, Repr

namespace Url

/-- Is the character an ASCII letter? -/
def isLetter (c : Char) : Bool := ('a' ≤ c && c ≤ 'z') || ('A' ≤ c && c ≤ 'Z')

/-- May a scheme hold the character? -/
def isSchemeChar (c : Char) : Bool :=
  isLetter c || ('0' ≤ c && c ≤ '9') || c = '+' || c = '-' || c = '.'

/-- The characters of a URL that count. -/
def relevant (cs : List Char) : List Char :=
  (cs.dropWhile fun c => c.toNat ≤ 0x20).filter fun c => c ≠ '\t' ∧ c ≠ '\r' ∧ c ≠ '\n'

/-- The scheme, and what follows its colon; without one the scheme is empty. -/
def splitScheme (cs : List Char) : List Char × List Char :=
  let before := cs.takeWhile (· ≠ ':')
  match cs, cs.dropWhile (· ≠ ':') with
  | first :: _, _ :: after =>
    if isLetter first ∧ before.all isSchemeChar then (before.map Char.toLower, after)
    else ([], cs)
  | _, _ => ([], cs)

/-- The authority: what follows two slashes, up to the path, query or fragment. -/
def authorityOf : List Char → List Char
  | '/' :: '/' :: rest => rest.takeWhile fun c => c ≠ '/' ∧ c ≠ '?' ∧ c ≠ '#'
  | _ => []

/-- Is the character a hexadecimal digit? -/
def isHex (c : Char) : Bool :=
  ('0' ≤ c && c ≤ '9') || ('a' ≤ c && c ≤ 'f') || ('A' ≤ c && c ≤ 'F')

/-- Is the text one of the four numbers of an address? -/
def isOctet (cs : List Char) : Bool :=
  !cs.isEmpty && cs.length ≤ 3 && cs.all (fun c => '0' ≤ c && c ≤ '9') &&
    (cs = ['0'] || cs.head? != some '0') &&
    cs.foldl (fun n c => n * 10 + (c.toNat - 48)) 0 ≤ 255

/-- Is the text an address of four numbers? -/
def isAddress4 (cs : List Char) : Bool :=
  let parts := Text.splitAt '.' cs
  parts.length = 4 && parts.all isOctet

/-- Is the text one of the eight groups of a long address? -/
def isGroup (cs : List Char) : Bool := !cs.isEmpty && cs.length ≤ 4 && cs.all isHex

/-- Do the parts between colons make eight groups? One run of groups may be left out; at an end
of the address the gap takes both of the colons there. -/
def areGroups (parts : List (List Char)) : Bool :=
  let inner := (parts.drop 1).dropLast
  match (inner.zipIdx 1).filter fun p => p.1.isEmpty with
  | [] => parts.length = 8 && parts.all isGroup
  | [(_, gap)] =>
    let front := parts.take gap
    let back := parts.drop (gap + 1)
    let front' := if front.head? = some [] then front.drop 1 else front
    let back' := if back.getLast? = some [] then back.dropLast else back
    (front'.isEmpty || front' = front) && (back'.isEmpty || back' = back) &&
      front'.length + back'.length ≤ 7 && front'.all isGroup && back'.all isGroup
  | _ => false

/-- Is the text a long address, perhaps with a zone after a percent sign? Its last group may be an
address of four numbers. -/
def isAddress6 (cs : List Char) : Bool :=
  let address := cs.takeWhile (· ≠ '%')
  let zone := cs.dropWhile (· ≠ '%')
  let zoneGood := match zone with
    | [] => true
    | _ :: z => !z.isEmpty && !z.contains '%'
  let parts := Text.splitAt ':' address
  let last := parts.getLast?.getD []
  let isLong := last.contains '.'
  let groups := if isLong then parts.dropLast ++ [['0'], ['0']] else parts
  zoneGood && !cs.contains '/' && 3 ≤ parts.length && (!isLong || isAddress4 last) &&
    groups.length ≤ 9 && areGroups groups

/-- May the text stand between brackets: a long address, or a later form of one? -/
def isBracketable : List Char → Bool
  | 'v' :: rest =>
    let version := rest.takeWhile isHex
    match rest.dropWhile isHex with
    | '.' :: more => !version.isEmpty && !more.isEmpty && !more.contains '\n'
    | _ => false
  | cs => isAddress6 cs

/-- The host of an authority and what follows it: all after the last at sign. -/
def hostPart (authority : List Char) : List Char := Text.afterLast ['@'] authority

/-- Can the text follow a closing bracket: nothing, or what a colon starts? -/
def endsHost : List Char → Bool
  | [] => true
  | c :: _ => c = ':'

/-- Is the host of an authority with brackets an address? Brackets stand around the whole of it;
an address of a later form may do without them. -/
def bracketedHostGood (authority : List Char) : Bool :=
  let place := hostPart authority
  match place.takeWhile (· ≠ '['), place.dropWhile (· ≠ '[') with
  | [], _ :: bracketed =>
    endsHost ((bracketed.dropWhile (· ≠ ']')).drop 1) &&
      isBracketable (bracketed.takeWhile (· ≠ ']'))
  | _ :: _, _ :: _ => false
  | host, [] => isBracketable (host.takeWhile (· ≠ ':'))

/-- Are the brackets of an authority in order? Where one stands the other has to stand too. -/
def bracketsGood (authority : List Char) : Bool :=
  match authority.contains '[', authority.contains ']' with
  | false, false => true
  | true, true => bracketedHostGood authority
  | _, _ => false

/-- Characters that become a delimiter when they are normalized. -/
def disguisedDelimiters : List Nat := [
  0x2047, 0x2048, 0x2049, 0x2100, 0x2101, 0x2105, 0x2106, 0x2A74, 0xFE13, 0xFE16, 0xFE55, 0xFE56,
  0xFE5F, 0xFE6B, 0xFF03, 0xFF0F, 0xFF1A, 0xFF1F, 0xFF20]

/-- The scheme and authority of a URL; none if the authority cannot be one. -/
def ofText? (s : String) : Option Url :=
  let (scheme, rest) := splitScheme (relevant s.toList)
  let authority := authorityOf rest
  if bracketsGood authority && !authority.any (disguisedDelimiters.contains ·.toNat) then
    some ⟨.ofList scheme, .ofList authority⟩
  else none

/-- Can the URL be fetched? -/
def isFetchable (u : Url) : Bool := (u.scheme == "http" || u.scheme == "https") && u.authority != ""

end Url
end Source
end ClassModel
