import HttpCall.Url.IdnaMapping
import HttpCall.Url.Punycode
import HttpCall.Text.Nfc
import HttpCall.Text.Properties

/-!
# Domain names to ASCII

The IDNA compatibility processing of a domain name as URL hosts need it:
nontransitional, with hyphens anywhere, with the contextual rules for joiners and the
bidirectional rules checked, and with no limit on the lengths of labels or names beyond
the limits of Punycode itself (a label of more than 1000 points cannot be encoded).

1. Map every code point by its status; a disallowed point is an error. Then bring the
   text to Normalization Form C and split it into labels at full stops.
2. An ASCII point that a host may not hold is an error: a control, the space, DEL, or
   one of `% # / : < > ? @ [ \ ] ^ |`.
3. A label that begins with `xn--` must be ASCII, and the rest of it must decode as
   Punycode to a nonempty label that is not ASCII, is in Normalization Form C, holds only
   valid points, and is short enough to be encoded again.
4. No label begins with a mark. A zero width joiner follows a virama; a zero width
   non-joiner follows a virama, or stands between a left- or dual-joining character and
   a right- or dual-joining one with only transparent characters between.
5. If any label holds a right-to-left or Arabic number character, every label keeps the
   bidirectional rules of RFC 5893.

The ASCII form writes each label that is not ASCII as `xn--` and its Punycode; the
other labels stay as they are.
-/

namespace HttpCall.Idna

/-- The zero width non-joiner. -/
def zwnj : Nat := 0x200C
/-- The zero width joiner. -/
def zwj : Nat := 0x200D

/-- The ASCII points that a URL host may not hold. -/
def isDenied (cp : Nat) : Bool :=
  cp ≤ 0x20 || cp == 0x7F || [37, 35, 47, 58, 60, 62, 63, 64, 91, 92, 93, 94, 124].contains cp

/-- The points a code point maps to, or none if it is disallowed. -/
def mapPoint (cp : Nat) : Option (List Nat) :=
  match IdnaMapping.status cp with
  | .valid | .deviation => some [cp]
  | .mapped points => some points
  | .ignored => some []
  | .disallowed => none

/-- The points of `xn--`. -/
def acePrefix : List Nat := [120, 110, 45, 45]

/-- Split code points at full stops. -/
def splitLabels (cps : List Nat) : List (List Nat) :=
  cps.splitOn 46

/-- Does a label keep the contextual rule for the zero width non-joiner at each of its
non-joiners? `before` is the text before the point looked at, reversed. -/
def nonJoinerContext (before after : List Nat) : Bool :=
  let left := before.dropWhile (JoiningType.of · == .transparent)
  let right := after.dropWhile (JoiningType.of · == .transparent)
  (match left with
    | c :: _ => JoiningType.of c == .leftJoining || JoiningType.of c == .dualJoining
    | [] => false) &&
  (match right with
    | c :: _ => JoiningType.of c == .rightJoining || JoiningType.of c == .dualJoining
    | [] => false)

/-- The contextual rules for joiners, point by point; `before` is reversed. -/
def joinersFrom (before : List Nat) : List Nat → Bool
  | [] => true
  | c :: rest =>
    let afterVirama := match before with
      | b :: _ => CombiningClass.isVirama b
      | [] => false
    let ok :=
      if c == zwj then afterVirama
      else if c == zwnj then afterVirama || nonJoinerContext before rest
      else true
    ok && joinersFrom (c :: before) rest

/-- The classes allowed in a right-to-left label. -/
def rtlAllowed (b : BidiClass) : Bool :=
  [.rightToLeft, .arabicLetter, .arabicNumber, .europeanNumber, .europeanSeparator,
    .commonSeparator, .europeanTerminator, .otherNeutral, .boundaryNeutral,
    .nonspacingMark].contains b

/-- The classes allowed in a left-to-right label. -/
def ltrAllowed (b : BidiClass) : Bool :=
  [.leftToRight, .europeanNumber, .europeanSeparator, .commonSeparator,
    .europeanTerminator, .otherNeutral, .boundaryNeutral, .nonspacingMark].contains b

/-- The class of the last point that is not a nonspacing mark. -/
def lastStrong (label : List Nat) : Option BidiClass :=
  (label.reverse.map BidiClass.of).find? (· != .nonspacingMark)

/-- The bidirectional rules of RFC 5893 for one label; the empty label keeps them. -/
def bidiRule (label : List Nat) : Bool :=
  match label.map BidiClass.of with
  | [] => true
  | first :: rest =>
    if first == .leftToRight then
      rest.all ltrAllowed &&
        (match lastStrong label with
          | some b => b == .leftToRight || b == .europeanNumber
          | none => true)
    else if first == .rightToLeft || first == .arabicLetter then
      rest.all rtlAllowed &&
        (match lastStrong label with
          | some b => [.rightToLeft, .arabicLetter, .europeanNumber, .arabicNumber].contains b
          | none => false) &&
        !(rest.contains .europeanNumber && rest.contains .arabicNumber)
    else false

/-- Does a label hold a right-to-left or Arabic number character? -/
def isRtl (label : List Nat) : Bool :=
  label.any fun c =>
    let b := BidiClass.of c
    b == .rightToLeft || b == .arabicLetter || b == .arabicNumber

/-- Is every point of a decoded label valid (a deviation counts as valid)? -/
def allValid (label : List Nat) : Bool :=
  label.all fun c => match IdnaMapping.status c with
    | .valid | .deviation => true
    | _ => false

/-- A label after mapping: its Unicode form and its ASCII form, or none if it breaks
a rule that concerns the label alone. -/
def convertLabel (label : List Nat) : Option (List Nat × List Nat) :=
  if acePrefix.isPrefixOf label then
    if label.any (· ≥ 128) then none
    else match Punycode.decode (label.drop 4) with
      | none => none
      | some decoded =>
        if decoded.isEmpty || decoded.all (· < 128) || !Nfc.isNormal decoded ||
            !allValid decoded || (Punycode.encode? decoded).isNone then none
        else some (decoded, label)
  else if label.all (· < 128) then some (label, label)
  else (Punycode.encode? label).map fun code => (label, acePrefix ++ code)

/-- The rules that every Unicode label keeps. -/
def labelRules (label : List Nat) : Bool :=
  (match label with
    | c :: _ => !Category.isMark c
    | [] => true) && joinersFrom [] label

/-- The ASCII form of a domain given by its code points, or none if it is not a valid
domain name. -/
def toAscii (domain : List Nat) : Option (List Nat) := do
  let mapped := (← domain.mapM mapPoint).flatten
  let normal := Nfc.normalize mapped
  if normal.any isDenied then none
  let labels ← (splitLabels normal).mapM convertLabel
  let unicode := labels.map (·.1)
  if !unicode.all labelRules then none
  if unicode.any isRtl && !unicode.all bidiRule then none
  pure ([46].intercalate (labels.map (·.2)))

end HttpCall.Idna
