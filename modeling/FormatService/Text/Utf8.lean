import FormatService.Text.Basic

/-!
# Texts as bytes

The UTF-8 form of a text, and its reading. Bytes that are no text are found at
the first sequence that cannot begin or go on a character; a lenient reading puts
the replacement character in the place of each such sequence.
-/

set_option autoImplicit false

namespace FormatService

abbrev Bytes := List UInt8

namespace Bytes

def toOctets (b : Bytes) : Text := b.map fun x => Char.ofNat x.toNat

def ofOctets (t : Text) : Bytes := t.map fun c => UInt8.ofNat c.toNat

def ofText (t : Text) : Bytes := (String.ofList t).toUTF8.toList

inductive Lead
  | none
  | char (c : Char) (rest : Bytes)
  /-- A sequence of this many bytes that is no character. -/
  | invalid (width : Nat)
  /-- A character whose last bytes are missing. -/
  | cut
  deriving DecidableEq, Repr

def isTail (x : UInt8) : Bool := 128 ≤ x && x < 192

def allowsSecond (first second : UInt8) : Bool :=
  if first = 224 then 160 ≤ second && second < 192
  else if first = 237 then 128 ≤ second && second < 160
  else if first = 240 then 144 ≤ second && second < 192
  else if first = 244 then 128 ≤ second && second < 144
  else isTail second

def assemble (first : Nat) (tail : Bytes) : Char :=
  Char.ofNat (tail.foldl (fun code x => code * 64 + (x.toNat - 128)) first)

def leadTwo (first : UInt8) : Bytes → Lead
  | [] => .cut
  | a :: rest => if isTail a then .char (assemble (first.toNat - 192) [a]) rest else .invalid 1

def leadThree (first : UInt8) : Bytes → Lead
  | [] => .cut
  | a :: rest =>
    if !allowsSecond first a then .invalid 1
    else match rest with
      | [] => .cut
      | b :: rest =>
        if isTail b then .char (assemble (first.toNat - 224) [a, b]) rest else .invalid 2

def leadFour (first : UInt8) : Bytes → Lead
  | [] => .cut
  | a :: rest =>
    if !allowsSecond first a then .invalid 1
    else match rest with
      | [] => .cut
      | b :: rest =>
        if !isTail b then .invalid 2
        else match rest with
          | [] => .cut
          | c :: rest =>
            if isTail c then .char (assemble (first.toNat - 240) [a, b, c]) rest else .invalid 3

def lead : Bytes → Lead
  | [] => .none
  | x :: rest =>
    if x < 128 then .char (Char.ofNat x.toNat) rest
    else if x < 194 then .invalid 1
    else if x < 224 then leadTwo x rest
    else if x < 240 then leadThree x rest
    else if x < 245 then leadFour x rest
    else .invalid 1

/-- Why bytes are no text: where the first bad sequence is, and how long it is
unless it is cut off by the end. -/
structure Utf8Fault where
  index : Nat
  width : Option Nat
  deriving DecidableEq, Repr

def Utf8Fault.message (f : Utf8Fault) : String :=
  match f.width with
  | some n =>
    "invalid utf-8 sequence of " ++ toString n ++ " bytes from index " ++ toString f.index
  | none => "incomplete utf-8 byte sequence from index " ++ toString f.index

/-- Reads characters; those already read are given in reverse, with the number of
their bytes. The number of steps bounds the reading and is never reached. -/
def textAfter : Nat → Nat → Text → Bytes → Except Utf8Fault Text
  | 0, _, done, _ => .ok done.reverse
  | steps + 1, index, done, b =>
    match lead b with
    | .none => .ok done.reverse
    | .char c rest => textAfter steps (index + c.utf8Size) (c :: done) rest
    | .invalid n => .error ⟨index, some n⟩
    | .cut => .error ⟨index, none⟩

def text (b : Bytes) : Except Utf8Fault Text := textAfter (b.length + 1) 0 [] b

def lenientAfter : Nat → Text → Bytes → Text
  | 0, done, _ => done.reverse
  | steps + 1, done, b =>
    match lead b with
    | .none => done.reverse
    | .char c rest => lenientAfter steps (c :: done) rest
    | .invalid n => lenientAfter steps ('\uFFFD' :: done) (b.drop n)
    | .cut => ('\uFFFD' :: done).reverse

def lenientText (b : Bytes) : Text := lenientAfter (b.length + 1) [] b

end Bytes

end FormatService
