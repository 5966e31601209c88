/-
Module: CardBattle.Json.Reader
Purpose: JSON values read from text.
Main exports:
  Json.parse?
-/
import CardBattle.Binary64.Encoding
import CardBattle.Json.Basic

/-!
# Reading JSON text

A number without fraction and exponent that fits a word of 64 bits, signed or not, is an integer.
Every other number is the nearest binary number, and so is the negative zero; a number beyond
the binary numbers is refused.  Of two members of an object with one name the later counts.
Values nested more than 127 deep are refused.

The readers take the characters left to read and give back the characters after what they read.
Their first argument bounds the number of steps; `parse?` starts them with more steps than the
text has characters to spend on.
-/

namespace CardBattle.Json

/-- The text without leading blanks. -/
def skipBlank (text : List Char) : List Char :=
  text.dropWhile fun c => c = ' ' || c = '\n' || c = '\t' || c = '\r'

/-! ### Numbers -/

/-- The number written by decimal digits. -/
def digitsValue (digits : List Char) : Nat :=
  digits.foldl (fun value c => value * 10 + (c.toNat - '0'.toNat)) 0

/-- The digits at the start of a text, and the rest. -/
def spanDigits (text : List Char) : List Char × List Char := text.span Char.isDigit

/-- The digits after a point, if there is one. -/
def fraction? : List Char → Option (Option (List Char) × List Char)
  | '.' :: text =>
      match spanDigits text with
      | ([], _) => none
      | (digits, rest) => some (some digits, rest)
  | text => some (none, text)

/-- Digits with a sign in front of them or not. -/
def signedDigits? : List Char → Option (Int × List Char)
  | '-' :: text =>
      match spanDigits text with
      | ([], _) => none
      | (digits, rest) => some (-(digitsValue digits : Int), rest)
  | '+' :: text =>
      match spanDigits text with
      | ([], _) => none
      | (digits, rest) => some (digitsValue digits, rest)
  | text =>
      match spanDigits text with
      | ([], _) => none
      | (digits, rest) => some (digitsValue digits, rest)

/-- The exponent after its letter, if there is one. -/
def exponent? : List Char → Option (Option Int × List Char)
  | c :: text =>
      if c = 'e' || c = 'E' then
        match signedDigits? text with
        | some (value, rest) => some (some value, rest)
        | none => none
      else some (none, c :: text)
  | [] => some (none, [])

/-- The binary number nearest to a decimal, if it is finite.  A decimal below
every magnitude of the format is zero, whatever its digits. -/
def decimal? (negative : Bool) (digits : List Char) (exponent : Int) : Option Binary64 :=
  let value := digitsValue digits
  let order := exponent + (digits.dropWhile (· = '0')).length
  if value = 0 || order < -400 then some (.zero negative)
  else if 400 < order then none
  else
    match Binary64.ofDecimal negative value exponent with
    | .finite s units h => some (.finite s units h)
    | _ => none

/-- The number that the parts of a text stand for. -/
def number? (negative : Bool) (whole : List Char) (frac : Option (List Char))
    (exponent : Option Int) : Option Number :=
  let value : Int := if negative then -(digitsValue whole : Int) else digitsValue whole
  let isInteger := frac.isNone && exponent.isNone && !(negative && value = 0) &&
    Binary64.leastWord ≤ value && value ≤ 0xffffffffffffffff
  if isInteger then some (.integer value)
  else
    let places := frac.getD []
    (decimal? negative (whole ++ places) (exponent.getD 0 - places.length)).map .real

/-- A number after its sign. -/
def readNumber (negative : Bool) (text : List Char) : Option (Json × List Char) :=
  match spanDigits text with
  | ([], _) => none
  | ('0' :: _ :: _, _) => none
  | (whole, rest) => do
      let (frac, rest) ← fraction? rest
      let (exponent, rest) ← exponent? rest
      let value ← number? negative whole frac exponent
      pure (number value, rest)

/-! ### Strings -/

/-- The value of a hexadecimal digit. -/
def hexDigit? (c : Char) : Option Nat :=
  if c.isDigit then some (c.toNat - '0'.toNat)
  else if 'a' ≤ c && c ≤ 'f' then some (c.toNat - 'a'.toNat + 10)
  else if 'A' ≤ c && c ≤ 'F' then some (c.toNat - 'A'.toNat + 10)
  else none

/-- The number written by four hexadecimal digits. -/
def hexFour? : List Char → Option (Nat × List Char)
  | a :: b :: c :: d :: rest => do
      let a ← hexDigit? a
      let b ← hexDigit? b
      let c ← hexDigit? c
      let d ← hexDigit? d
      pure (((a * 16 + b) * 16 + c) * 16 + d, rest)
  | _ => none

/-- The character written by code units of 16 bits: one unit, or a high and a
low surrogate. -/
def escapedUnit? (text : List Char) : Option (Char × List Char) := do
  let (unit, rest) ← hexFour? text
  if 0xd800 ≤ unit && unit < 0xdc00 then
    match rest with
    | '\\' :: 'u' :: rest => do
        let (low, rest) ← hexFour? rest
        if 0xdc00 ≤ low && low < 0xe000 then
          pure (Char.ofNat (0x10000 + (unit - 0xd800) * 0x400 + (low - 0xdc00)), rest)
        else none
    | _ => none
  else if 0xdc00 ≤ unit && unit < 0xe000 then none
  else pure (Char.ofNat unit, rest)

/-- The character after a backslash. -/
def escaped? : List Char → Option (Char × List Char)
  | '"' :: rest => some ('"', rest)
  | '\\' :: rest => some ('\\', rest)
  | '/' :: rest => some ('/', rest)
  | 'b' :: rest => some ('\x08', rest)
  | 'f' :: rest => some ('\x0c', rest)
  | 'n' :: rest => some ('\n', rest)
  | 'r' :: rest => some ('\r', rest)
  | 't' :: rest => some ('\t', rest)
  | 'u' :: rest => escapedUnit? rest
  | _ => none

/-- The characters up to the closing quote, those read before in reverse. -/
def readCharacters : (steps : Nat) → List Char → List Char → Option (String × List Char)
  | 0, _, _ => none
  | steps + 1, done, text =>
      match text with
      | [] => none
      | '"' :: rest => some (String.ofList done.reverse, rest)
      | '\\' :: rest =>
          match escaped? rest with
          | some (c, rest) => readCharacters steps (c :: done) rest
          | none => none
      | c :: rest => if c.toNat < 0x20 then none else readCharacters steps (c :: done) rest

/-- A string after its opening quote. -/
def readString (text : List Char) : Option (String × List Char) :=
  readCharacters (text.length + 1) [] text

/-! ### Values -/

/-- The text after a word that it starts with. -/
def afterWord? (word text : List Char) : Option (List Char) :=
  if text.take word.length = word then some (text.drop word.length) else none

/-- Add a member, in the place of an earlier one with its name. -/
def putMember (name : String) (value : Json) (members : List (String × Json)) :
    List (String × Json) :=
  if members.any fun m => m.1 = name then
    members.map fun m => if m.1 = name then (name, value) else m
  else members ++ [(name, value)]

mutual

/-- A value, nested at most `depth` deep. -/
def readValue (steps depth : Nat) (text : List Char) : Option (Json × List Char) :=
  match steps, skipBlank text with
  | 0, _ => none
  | _ + 1, [] => none
  | _ + 1, '"' :: rest => (readString rest).map fun (value, rest) => (string value, rest)
  | _ + 1, '-' :: rest => readNumber true rest
  | steps + 1, '[' :: rest =>
      match depth with
      | 0 => none
      | depth + 1 =>
          match skipBlank rest with
          | ']' :: rest => some (array [], rest)
          | rest => readItems steps depth [] rest
  | steps + 1, '{' :: rest =>
      match depth with
      | 0 => none
      | depth + 1 =>
          match skipBlank rest with
          | '}' :: rest => some (object [], rest)
          | rest => readMembers steps depth [] rest
  | _ + 1, c :: rest =>
      if c.isDigit then readNumber false (c :: rest)
      else if c = 'n' then (afterWord? "ull".toList rest).map fun rest => (null, rest)
      else if c = 't' then (afterWord? "rue".toList rest).map fun rest => (bool true, rest)
      else if c = 'f' then (afterWord? "alse".toList rest).map fun rest => (bool false, rest)
      else none

/-- The items of a list up to its closing bracket, those read before in reverse. -/
def readItems (steps depth : Nat) (done : List Json) (text : List Char) :
    Option (Json × List Char) :=
  match steps with
  | 0 => none
  | steps + 1 =>
      match readValue steps depth text with
      | none => none
      | some (value, rest) =>
          match skipBlank rest with
          | ',' :: rest => readItems steps depth (value :: done) rest
          | ']' :: rest => some (array (value :: done).reverse, rest)
          | _ => none

/-- The members of an object up to its closing brace. -/
def readMembers (steps depth : Nat) (done : List (String × Json)) (text : List Char) :
    Option (Json × List Char) :=
  match steps, skipBlank text with
  | steps + 1, '"' :: rest =>
      match readString rest with
      | none => none
      | some (name, rest) =>
          match skipBlank rest with
          | ':' :: rest =>
              match readValue steps depth rest with
              | none => none
              | some (value, rest) =>
                  match skipBlank rest with
                  | ',' :: rest => readMembers steps depth (putMember name value done) rest
                  | '}' :: rest => some (object (putMember name value done), rest)
                  | _ => none
          | _ => none
  | _, _ => none

end

/-- The value that a text holds, with nothing but blanks around it. -/
def parse? (text : String) : Option Json :=
  let characters := text.toList
  match readValue (characters.length * 2 + 2) 127 characters with
  | some (value, rest) => if (skipBlank rest).isEmpty then some value else none
  | none => none

end CardBattle.Json
