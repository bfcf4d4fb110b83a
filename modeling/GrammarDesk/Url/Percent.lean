import GrammarDesk.Text.Bytes

/-!
# Percent encoding

A byte that may not stand in a part of a URL is written as a percent sign and two hexadecimal
digits in capital letters.  Which ASCII characters may stand depends on the part; all other
characters are encoded byte by byte.  A form goes further: it lets only letters, digits and four
marks stand, and writes a space as a plus sign.

Main definitions:

- `encode`: a text with all but certain characters encoded.
- `decode`: the bytes of a text with encoded bytes.
- `formText`, `formPairs`: a text, and names with values, in the encoding of forms.
-/

namespace GrammarDesk.Url

/-! ## Encoding -/

/-- A byte as a percent sign and two digits. -/
def encodeByte (b : UInt8) : List Char :=
  ['%', (Nat.digitChar (b.toNat / 16)).toUpper, (Nat.digitChar (b.toNat % 16)).toUpper]

/-- A character, encoded byte by byte. -/
def encodeChar (c : Char) : List Char :=
  (Text.bytesOf c.toString).flatMap encodeByte

/-- The text with all characters encoded but those that are ASCII and may stand. -/
def encode (stands : Char → Bool) (cs : List Char) : List Char :=
  cs.flatMap fun c => if c.toNat < 0x7F && 0x20 ≤ c.toNat && stands c then [c] else encodeChar c

/-- What may stand in a path: all but the space, quotes, and the marks that end it. -/
def standsInPath (c : Char) : Bool :=
  !([' ', '"', '<', '>', '\x60', '#', '?', '\x7b', '\x7d', '^'].contains c)

/-- What may stand in a query. -/
def standsInQuery (c : Char) : Bool :=
  !([' ', '"', '#', '<', '>'].contains c)

/-! ## Decoding -/

/-- The value of a hexadecimal digit. -/
def digitOf? (b : UInt8) : Option Nat :=
  let n := b.toNat
  if 48 ≤ n ∧ n ≤ 57 then some (n - 48)
  else if 65 ≤ n ∧ n ≤ 70 then some (n - 55)
  else if 97 ≤ n ∧ n ≤ 102 then some (n - 87)
  else none

/-- The bytes with each percent sign and two digits replaced by the byte they write. -/
def decodeBytes : List UInt8 → List UInt8
  | [] => []
  | [b] => [b]
  | [b, c] => [b, c]
  | b :: c :: d :: rest =>
    if b = 37 then
      match digitOf? c, digitOf? d with
      | some high, some low => (high * 16 + low).toUInt8 :: decodeBytes rest
      | _, _ => b :: decodeBytes (c :: d :: rest)
    else
      b :: decodeBytes (c :: d :: rest)

/-- The text with its encoded bytes decoded, unless they are no UTF-8. -/
def decode? (s : String) : Option String :=
  String.fromUTF8? (decodeBytes (Text.bytesOf s)).toByteArray

/-! ## Forms -/

/-- What may stand in a form. -/
def standsInForm (c : Char) : Bool :=
  c.isAlphanum || c = '*' || c = '-' || c = '.' || c = '_'

/-- A text in the encoding of forms. -/
def formText (s : String) : String :=
  String.ofList (s.toList.flatMap fun c => if c = ' ' then ['+'] else encode standsInForm [c])

/-- Names and values in the encoding of forms. -/
def formPairs (pairs : List (String × String)) : String :=
  "&".intercalate (pairs.map fun (name, value) => formText name ++ "=" ++ formText value)

end GrammarDesk.Url
