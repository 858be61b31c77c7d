import Mathlib.Data.List.Infix

namespace Wavis

/-- Code points with the Unicode property White_Space. -/
def isWhitespace (c : Char) : Bool :=
  let n := c.toNat
  (9 ≤ n && n ≤ 13) || n == 0x20 || n == 0x85 || n == 0xA0 || n == 0x1680
    || (0x2000 ≤ n && n ≤ 0x200A) || n == 0x2028 || n == 0x2029 || n == 0x202F || n == 0x205F
    || n == 0x3000

def trim (text : String) : String :=
  String.ofList ((text.toList.dropWhile isWhitespace).reverse.dropWhile isWhitespace).reverse

def isAsciiAlphanumeric (c : Char) : Bool :=
  ('0' ≤ c && c ≤ '9') || ('a' ≤ c && c ≤ 'z') || ('A' ≤ c && c ≤ 'Z')

/-- The characters an SFU identifier may have. -/
def isIdentifierChar (c : Char) : Bool := isAsciiAlphanumeric c || c == '-' || c == '_'

def isHexDigit (c : Char) : Bool :=
  ('0' ≤ c && c ≤ '9') || ('a' ≤ c && c ≤ 'f') || ('A' ≤ c && c ≤ 'F')

/-- Whether a position of a hyphenated UUID holds a hyphen. -/
def isHyphenPosition (i : Nat) : Bool := i == 8 || i == 13 || i == 18 || i == 23

/-- 32 hexadecimal digits in groups of 8, 4, 4, 4 and 12. -/
def isHyphenated (chars : List Char) : Bool :=
  chars.length == 36
    && chars.zipIdx.all fun entry =>
      if isHyphenPosition entry.2 then entry.1 == '-' else isHexDigit entry.1

/-- The text `to_string` gives: hyphenated, in lower case. -/
def isUuidText (text : String) : Bool :=
  isHyphenated text.toList && text.toList.all fun c => !c.isUpper

structure Uuid where
  text : String
  canonical : isUuidText text = true
  deriving DecidableEq

def nilUuid : Uuid := ⟨"00000000-0000-0000-0000-000000000000", by decide⟩

namespace Uuid

instance : ToString Uuid := ⟨text⟩

def hyphenate (digits : List Char) : List Char :=
  digits.take 8 ++ '-' :: ((digits.drop 8).take 4 ++ '-' :: ((digits.drop 12).take 4
    ++ '-' :: ((digits.drop 16).take 4 ++ '-' :: digits.drop 20)))

def ofHyphenated (chars : List Char) : Option Uuid :=
  if isHyphenated chars then
    let text := String.ofList (chars.map Char.toLower)
    if h : isUuidText text = true then some ⟨text, h⟩ else none
  else none

/-- Accepts 32 digits, a hyphenated UUID, one in braces and one with the URN prefix. -/
def parseStr (text : String) : Option Uuid :=
  let chars := text.toList
  if text.utf8ByteSize = 32 then
    if chars.all isHexDigit then ofHyphenated (hyphenate chars) else none
  else if text.utf8ByteSize = 36 then ofHyphenated chars
  else if text.utf8ByteSize = 38 then
    if chars.head? = some '\x7b' ∧ chars.getLast? = some '\x7d' then
      ofHyphenated chars.tail.dropLast
    else none
  else if text.utf8ByteSize = 45 then
    if "urn:uuid:".toList.isPrefixOf chars then ofHyphenated (chars.drop 9) else none
  else none

end Uuid

end Wavis
