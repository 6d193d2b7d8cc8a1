import HttpCall.Url.Percent
import HttpCall.Url.Idna

/-!
# URL hosts

A host is a domain, an IPv4 address or an IPv6 address; a URL whose scheme is not special
keeps its host as opaque percent-encoded text, which is stored as a domain.

* A special host in square brackets is an IPv6 address. Any other special host is
  percent-decoded, turned into its ASCII form by the IDNA processing, and read as an
  IPv4 address if its last label (or the one before a final dot) is a number.
* An opaque host in square brackets is an IPv6 address; otherwise it must not hold a
  NUL, tab, line feed, carriage return, space or any of `# / : < > ? @ [ \ ] ^ |`.
* IPv4 numbers are decimal, octal after a leading `0` or hexadecimal after `0x`; up to
  four of them, each but the last below 256 and the last filling the remaining bytes.
* An IPv6 address is at most eight groups of up to four hexadecimal digits, with one
  `::` for a run of zero groups and an optional dotted IPv4 address in the last two
  groups. It is written in small letters with the longest run of two or more zero groups
  (the first of equal runs) shortened to `::`.
-/

namespace HttpCall

/-- Why a URL could not be read. -/
inductive UrlError where
  | emptyHost
  | idna
  | invalidPort
  | invalidIpv4
  | invalidIpv6
  | invalidDomainCharacter
  | relativeWithoutBase
  deriving DecidableEq, Repr, Inhabited

/-- The text of a URL error. -/
def UrlError.message : UrlError → String
  | .emptyHost => "empty host"
  | .idna => "invalid international domain name"
  | .invalidPort => "invalid port number"
  | .invalidIpv4 => "invalid IPv4 address"
  | .invalidIpv6 => "invalid IPv6 address"
  | .invalidDomainCharacter => "invalid domain character"
  | .relativeWithoutBase => "relative URL without a base"

/-- The host of a URL. -/
inductive Host where
  | domain (name : String)
  | ipv4 (address : Nat)
  | ipv6 (groups : List Nat)
  deriving DecidableEq, Repr, Inhabited

namespace Host

/-- Small hexadecimal digits of a number, without leading zeros. -/
def hexText (n : Nat) : String :=
  String.ofList (Nat.toDigits 16 n)

/-- The start and length of the longest run of zero groups; the first of equal runs
wins. `run` is the start of the current run. -/
def longestZeros : List Nat → Nat → Option Nat → Option (Nat × Nat) → Option (Nat × Nat)
  | [], i, run, best => close i run best
  | g :: gs, i, run, best =>
    if g = 0 then longestZeros gs (i + 1) (some (run.getD i)) best
    else longestZeros gs (i + 1) none (close i run best)
where
  /-- The best run after the current one ends at `i`. -/
  close (i : Nat) (run : Option Nat) (best : Option (Nat × Nat)) : Option (Nat × Nat) :=
    match run, best with
    | some s, some (_, len) => if len < i - s then some (s, i - s) else best
    | some s, none => some (s, i - s)
    | none, _ => best

/-- The text of an IPv6 address. -/
def ipv6Text (groups : List Nat) : String :=
  match longestZeros groups 0 none none with
  | some (start, len) =>
    if 2 ≤ len then
      let before := (groups.take start).map hexText
      let after := ((groups.drop (start + len)).map hexText)
      ":".intercalate before ++ "::" ++ ":".intercalate after
    else ":".intercalate (groups.map hexText)
  | none => ":".intercalate (groups.map hexText)

/-- The text of an IPv4 address. -/
def ipv4Text (a : Nat) : String :=
  ".".intercalate ([a / 16777216 % 256, a / 65536 % 256, a / 256 % 256, a % 256].map toString)

/-- The text of a host as a URL writes it. -/
def render : Host → String
  | domain name => name
  | ipv4 a => ipv4Text a
  | ipv6 groups => "[" ++ ipv6Text groups ++ "]"

/-- The value of digits in a radix, if every character is such a digit. -/
def digitsValue? (radix : Nat) (cs : List Char) : Option Nat :=
  cs.foldlM (fun acc c =>
    match Percent.hexValue? c.toNat with
    | some d => if d < radix then some (acc * radix + d) else none
    | none => none) 0

/-- One IPv4 number: an error if it is not a number, `none` if it does not fit in 32
bits. -/
def ipv4Number? (part : List Char) : Except Unit (Option Nat) :=
  if part.isEmpty then .error ()
  else
    let (radix, digits) := match part with
      | '0' :: 'x' :: rest | '0' :: 'X' :: rest => (16, rest)
      | '0' :: rest@(_ :: _) => (8, rest)
      | _ => (10, part)
    if digits.isEmpty then .ok (some 0)
    else match digitsValue? radix digits with
      | some n => .ok (if n < Nat.pow 2 32 then some n else none)
      | none => .error ()

/-- Does a domain end in a number, so that it must be an IPv4 address? -/
def endsInNumber (domain : String) : Bool :=
  let parts := (domain.splitOn ".").reverse
  let last? := match parts with
    | "" :: prev :: _ => some prev
    | "" :: [] => none
    | last :: _ => some last
    | [] => none
  match last? with
  | none => false
  | some last =>
    (!last.isEmpty && last.toList.all Char.isDigit) ||
      (match ipv4Number? last.toList with | .ok _ => true | .error _ => false)

/-- An IPv4 address from its text. -/
def parseIpv4 (domain : String) : Except UrlError Nat := do
  let parts := domain.splitOn "."
  let parts := if parts.getLast? == some "" then parts.dropLast else parts
  if 4 < parts.length then throw .invalidIpv4
  let numbers ← parts.mapM fun p =>
    match ipv4Number? p.toList with
    | .ok (some n) => pure n
    | _ => throw UrlError.invalidIpv4
  match numbers.getLast? with
  | none => throw .invalidIpv4
  | some last =>
    let init := numbers.dropLast
    if Nat.pow 256 (4 - init.length) ≤ last then throw .invalidIpv4
    if init.any (255 < ·) then throw .invalidIpv4
    pure (init.zipIdx.foldl (fun acc (n, i) => acc + n * Nat.pow 256 (3 - i)) last)

/-- Up to four hexadecimal digits: their value, how many, and what follows. -/
def hexGroup : Nat → Nat → Nat → List Char → Nat × Nat × List Char
  | 0, v, k, cs => (v, k, cs)
  | n + 1, v, k, c :: cs =>
    match Percent.hexValue? c.toNat with
    | some d => hexGroup n (v * 16 + d) (k + 1) cs
    | none => (v, k, c :: cs)
  | _ + 1, v, k, [] => (v, k, [])

/-- A decimal number of the dotted part of an IPv6 address: no leading zero, at most
255. -/
def dottedNumber : List Char → Option Nat → Option (Nat × List Char)
  | c :: cs, acc =>
    if c.isDigit then
      let d := c.toNat - 48
      match acc with
      | none => dottedNumber cs (some d)
      | some 0 => none
      | some v => if 255 < v * 10 + d then none else dottedNumber cs (some (v * 10 + d))
    else acc.map (·, c :: cs)
  | [], acc => acc.map (·, [])

/-- The dotted IPv4 address that ends an IPv6 address: four numbers, which fill two
groups. -/
def dottedGroups (cs : List Char) : Option (List Nat) := do
  let (a, cs) ← dottedNumber cs none
  let cs ← match cs with | '.' :: r => some r | _ => none
  let (b, cs) ← dottedNumber cs none
  let cs ← match cs with | '.' :: r => some r | _ => none
  let (c, cs) ← dottedNumber cs none
  let cs ← match cs with | '.' :: r => some r | _ => none
  let (d, cs) ← dottedNumber cs none
  if cs.isEmpty then some [a * 256 + b, c * 256 + d] else none

/-- The groups of an IPv6 address; `groups` are those read so far, reversed, and
`compress` the count of groups up to and with the place of the `::`, which holds a
zero group of its own. Each round reads at least one character, which `fuel` counts. -/
def ipv6Groups : Nat → List Nat → Option Nat → List Char →
    Option (List Nat × Option Nat)
  | _, groups, compress, [] => some (groups.reverse, compress)
  | 0, _, _, _ :: _ => none
  | fuel + 1, groups, compress, cs@(c :: rest) =>
    if groups.length = 8 then none
    else if c = ':' then
      if compress.isSome then none
      else ipv6Groups fuel (0 :: groups) (some (groups.length + 1)) rest
    else
      let (v, k, after) := hexGroup 4 0 0 cs
      match after with
      | '.' :: _ =>
        if k = 0 ∨ 6 < groups.length then none
        else (dottedGroups cs).map fun g => ((g.reverse ++ groups).reverse, compress)
      | ':' :: more =>
        if more.isEmpty then none
        else ipv6Groups fuel (v :: groups) compress more
      | [] => if k = 0 then none else some ((v :: groups).reverse, compress)
      | _ => none

/-- An IPv6 address from the text between the brackets. -/
def parseIpv6 (cs : List Char) : Except UrlError (List Nat) :=
  let start : Option (List Char × Option Nat) := match cs with
    | ':' :: ':' :: rest => some (rest, some 0)
    | ':' :: _ => none
    | _ => some (cs, none)
  if cs.length < 2 then .error .invalidIpv6 else
  match start with
  | none => .error .invalidIpv6
  | some (rest, compress) =>
    let groups0 := if compress.isSome then [0] else []
    let compress := compress.map (fun _ => 1)
    match ipv6Groups (rest.length + 1) groups0 compress rest with
    | none => .error .invalidIpv6
    | some (groups, none) => if groups.length = 8 then .ok groups else .error .invalidIpv6
    | some (groups, some mark) =>
      if 8 < groups.length then .error .invalidIpv6
      else .ok (groups.take mark ++ List.replicate (8 - groups.length) 0 ++ groups.drop mark)

/-- A bracketed IPv6 host, if the text begins with a bracket. -/
def bracketed? (s : String) : Option (Except UrlError Host) :=
  match s.toList with
  | '[' :: rest =>
    match rest.reverse with
    | ']' :: inner => some ((parseIpv6 inner.reverse).map ipv6)
    | _ => some (.error .invalidIpv6)
  | _ => none

/-- The host of a URL whose scheme is special. -/
def parseSpecial (s : String) : Except UrlError Host :=
  match bracketed? s with
  | some r => r
  | none =>
    let cps := Utf8.decodePoints (Percent.decode s)
    match Idna.toAscii cps with
    | none => .error .idna
    | some ascii =>
      let name := Utf8.ofPoints ascii
      if name.isEmpty then .error .emptyHost
      else if endsInNumber name then (parseIpv4 name).map ipv4
      else .ok (domain name)

/-- Characters that an opaque host may not hold. -/
def isForbiddenInHost (c : Char) : Bool :=
  ['\x00', '\t', '\n', '\r', ' ', '#', '/', ':', '<', '>', '?', '@', '[', '\\', ']', '^',
    '|'].contains c

/-- The host of a URL whose scheme is not special. -/
def parseNonSpecial (s : String) : Except UrlError Host :=
  match bracketed? s with
  | some r => r
  | none =>
    if s.toList.any isForbiddenInHost then .error .invalidDomainCharacter
    else .ok (domain (Percent.encode .controls s))

end Host

end HttpCall
