/-
NetWatch.Address.Idna — domain names in ASCII.

A domain name of any script has a form in ASCII, under which it is looked up.
Its characters are mapped to those that stand for them and put into their
normal form; each label that is not in ASCII then becomes `xn--` and its
Punycode. Labels that come in this form already are read back and checked like
the others: only characters that may stay, no mark at the front, the two
invisible joiners only where they matter, and a definite direction if any label
has letters written from right to left.
-/
import NetWatch.Address.DomainMapping
import NetWatch.Address.Ip
import NetWatch.Address.Punycode
import NetWatch.Text.Direction
import NetWatch.Text.Joining
import NetWatch.Text.Mark
import NetWatch.Text.Normal

namespace NetWatch.Idna

open Text

/-! ## Characters -/

/-- Characters of ASCII that no domain name may hold. -/
def isDenied (c : Char) : Bool :=
  c.toNat ≤ 32 || c.toNat == 127 ||
    ['%', '#', '/', ':', '<', '>', '?', '@', '[', '\\', ']', '^', '|'].contains c

/-- Whether a character is one of ASCII. -/
def isAscii (c : Char) : Bool :=
  c.toNat < 0x80

/-- The sign that keeps letters from connecting. -/
def nonJoiner : Char := Char.ofNat 0x200C

/-- The sign that makes letters connect. -/
def joiner : Char := Char.ofNat 0x200D

/-- The combining class of the signs that take a vowel away. -/
def viramaClass : Nat := 9

/-! ## Labels -/

/-- What marks a label that holds Punycode. -/
def acePrefix : List Char := "xn--".toList

/-- Whether a joiner may stand between the characters before it, the nearest first, and those
after it: each after a sign that takes a vowel away, and the one that keeps letters apart also
between letters that would connect. -/
def isJoinerAllowed (before : List Char) (c : Char) (after : List Char) : Bool :=
  (before.head?.any fun b => combiningClass b = viramaClass)
    || (c = nonJoiner
      && ((before.map Joining.ofChar).dropWhile (· = .transparent)).head?.any Joining.connectsOn
      && ((after.map Joining.ofChar).dropWhile (· = .transparent)).head?.any Joining.connectsBack)

/-- Whether every joiner is in a place where it may stand. -/
def joinersAllowed (before : List Char) : List Char → Bool
  | [] => true
  | c :: rest =>
    (if c = nonJoiner ∨ c = joiner then isJoinerAllowed before c rest else true)
      && joinersAllowed (c :: before) rest

/-- Whether a label may be part of a domain name, directions apart. -/
def isValidLabel (label : List Char) : Bool :=
  label.all DomainMapping.isValid
    && normalized label = label
    && !(label.head?.any isMark)
    && joinersAllowed [] label

/-- The most characters of a label that are read from Punycode. -/
def maximalEncoded : Nat := 2000

/-- The most characters of a label that are written in Punycode. -/
def maximalDecoded : Nat := 1000

/-- A label as it is meant: one that holds Punycode is read back. It must hold more than ASCII,
and none that holds Punycode again. -/
def decoded? (label : List Char) : Option (List Char) :=
  if acePrefix.isPrefixOf label then
    if maximalEncoded < label.length - acePrefix.length then none
    else do
      let meant ← Punycode.decode? (label.drop acePrefix.length)
      if meant.all isAscii || acePrefix.isPrefixOf meant then none else some meant
  else some label

def encoded? (label : List Char) : Option (List Char) :=
  if label.all isAscii then some label
  else if maximalDecoded < label.length then none
  else some (acePrefix ++ Punycode.encode label)

/-! ## Domain names -/

/-- Whether any label is written partly from right to left. -/
def isBidirectional (labels : List (List Char)) : Bool :=
  labels.any fun l => l.any fun c => (Direction.ofChar c).isRightward

/-- Whether the labels can stand together. -/
def areValid (labels : List (List Char)) : Bool :=
  labels.all isValidLabel && (!isBidirectional labels || labels.all Direction.isOrderly)

/-- The labels of a domain name, as they are meant. -/
def labels? (cs : List Char) : Option (List (List Char)) := do
  let name ← DomainMapping.mapAll? cs
  if (normalized name).any isDenied then none
  else (Ip.splitOn '.' (normalized name)).mapM decoded?

/-- Labels with points between them. -/
def joined : List (List Char) → List Char
  | [] => []
  | [label] => label
  | label :: rest => label ++ '.' :: joined rest

/-- Whether lower case is all that the name needs: it is in ASCII and holds no Punycode. -/
def isPlain (cs : List Char) : Bool :=
  cs.all isAscii && (Ip.splitOn '.' (cs.map Char.toLower)).all (!acePrefix.isPrefixOf ·)

/-- The ASCII form of a domain name. -/
def toAscii (cs : List Char) : Option (List Char) :=
  if isPlain cs then
    if cs.any isDenied then none else some (cs.map Char.toLower)
  else do
    let labels ← labels? cs
    if areValid labels then (labels.mapM encoded?).map joined else none

end NetWatch.Idna
