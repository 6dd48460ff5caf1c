import AttrFold.Json.Basic

/-!
Reading JSON text. Beyond the standard the reader takes `NaN`, `Infinity` and `-Infinity`; of
several members with one key the last one counts, in the place of the first. A reader goes from left
to right and stops where the text is malformed or has more of something than the reader takes on,
whichever comes first.
-/

namespace AttrFold.Json

/-- What a text can have too much of for a reader. -/
inductive Excess where
  /-- Arrays and objects that lie in each other. -/
  | depth
  /-- Digits of an integer. -/
  | digits
deriving DecidableEq

/-- Why a reader stops before the end. -/
inductive Stop where
  | malformed
  | excess (e : Excess)
deriving DecidableEq

/-- What has been read is handed on. -/
@[simp]
theorem ok_bind {α β : Type} (a : α) (f : α → Except Stop β) :
    (Except.ok a : Except Stop α) >>= f = f a :=
  rfl

/-- What has been read in two steps has been read in each of them. -/
theorem exists_of_bind_eq_ok {α β : Type} {x : Except Stop α} {f : α → Except Stop β} {b : β}
    (h : x >>= f = .ok b) : ∃ a, x = .ok a ∧ f a = .ok b := by
  cases x with
  | error e => cases h
  | ok a => exact ⟨a, rfl, h⟩

/-- How deep arrays and objects may lie in each other for a reader, and how many digits an integer
may have; neither is bounded unless it is given. Numbers with a fraction or an exponent are never
too long. -/
structure Limits where
  depth : Option Nat := none
  digits : Option Nat := none

namespace Limits

/-- Whether an integer may have this many digits. -/
def admitsDigits (l : Limits) (n : Nat) : Bool := l.digits.all (n ≤ ·)

/-- The limits inside of an array or an object, which counts before anything in it is read. -/
def inner (l : Limits) : Except Stop Limits :=
  match l.depth with
  | none => .ok l
  | some 0 => .error (.excess .depth)
  | some (d + 1) => .ok { l with depth := some d }

end Limits

/-- Whether a character may stand between the tokens. -/
def isSpacing (c : Char) : Bool := c = ' ' || c = '\t' || c = '\n' || c = '\r'

/-- A text without the spacing at its start. -/
def skipSpacing (t : Text) : Text := t.dropWhile isSpacing

/-- The value of a hexadecimal digit. -/
def hexDigit? (c : Char) : Option Nat :=
  if '0' ≤ c && c ≤ '9' then some (c.toNat - '0'.toNat)
  else if 'a' ≤ c && c ≤ 'f' then some (c.toNat - 'a'.toNat + 10)
  else if 'A' ≤ c && c ≤ 'F' then some (c.toNat - 'A'.toNat + 10)
  else none

/-- The value of four hexadecimal digits. -/
def hexUnit? (a b c d : Char) : Option Nat := do
  let a ← hexDigit? a
  let b ← hexDigit? b
  let c ← hexDigit? c
  let d ← hexDigit? d
  return 4096 * a + 256 * b + 16 * c + d

/-- The code of the character that a backslash and a single character stand for. -/
def shortEscape? (c : Char) : Option Nat :=
  if c = '"' || c = '\\' || c = '/' then some c.toNat
  else if c = 'b' then some 8
  else if c = 'f' then some 12
  else if c = 'n' then some 10
  else if c = 'r' then some 13
  else if c = 't' then some 9
  else none

/-- Reads a string after its opening quote into codes: an escape by number gives one code of 16 bits,
so a character may still be two codes. -/
def readCodes : Text → Option (List Nat × Text)
  | [] => none
  | c :: cs =>
    if c = '"' then some ([], cs)
    else if c.toNat < 32 then none
    else if c = '\\' then
      match cs with
      | 'u' :: w :: x :: y :: z :: rest =>
        match hexUnit? w x y z, readCodes rest with
        | some n, some (codes, rest) => some (n :: codes, rest)
        | _, _ => none
      | e :: rest =>
        match shortEscape? e, readCodes rest with
        | some n, some (codes, rest) => some (n :: codes, rest)
        | _, _ => none
      | [] => none
    else
      match readCodes cs with
      | some (codes, rest) => some (c.toNat :: codes, rest)
      | none => none

/-- Whether a code is the first half of a pair. -/
def isHighHalf (n : Nat) : Bool := 0xd800 ≤ n && n < 0xdc00

/-- Whether a code is the second half of a pair. -/
def isLowHalf (n : Nat) : Bool := 0xdc00 ≤ n && n < 0xe000

/-- The character of a code; a half by itself has none and becomes the replacement character. -/
def charOfCode (n : Nat) : Char := if isHighHalf n || isLowHalf n then '\ufffd' else Char.ofNat n

/-- The text of a list of codes, in which two halves next to each other are one character. -/
def textOfCodes : List Nat → Text
  | [] => []
  | [n] => [charOfCode n]
  | n :: m :: rest =>
    if isHighHalf n && isLowHalf m then
      Char.ofNat (0x10000 + 1024 * (n - 0xd800) + (m - 0xdc00)) :: textOfCodes rest
    else charOfCode n :: textOfCodes (m :: rest)

/-- Reads a string after its opening quote. -/
def readString (t : Text) : Except Stop (Text × Text) :=
  match readCodes t with
  | some (codes, rest) => .ok (textOfCodes codes, rest)
  | none => .error .malformed

/-- The digits of the whole part of a number; a leading zero stands alone. -/
def wholeDigits (t : Text) : Text :=
  match t with
  | '0' :: _ => ['0']
  | _ => t.takeWhile Char.isDigit

/-- The digits of the fraction after the whole part, or nothing. -/
def fractionDigits (t : Text) : Text :=
  match t with
  | '.' :: rest => rest.takeWhile Char.isDigit
  | _ => []

/-- Whether an exponent has a minus, and what follows its sign. -/
def readSign : Text → Bool × Text
  | '-' :: rest => (true, rest)
  | '+' :: rest => (false, rest)
  | t => (false, t)

/-- The exponent at the start of a text and what follows it; the whole text when there is none. -/
def readExponent (t : Text) : Option Int × Text :=
  match t with
  | e :: rest =>
    if e = 'e' || e = 'E' then
      let (isNegative, rest) := readSign rest
      let digits := rest.takeWhile Char.isDigit
      if digits.isEmpty then (none, t)
      else
        let size : Int := Nat.ofDigitChars 10 digits 0
        (some (if isNegative then -size else size), rest.drop digits.length)
    else (none, t)
  | [] => (none, t)

/-- The parts of a number without its sign; there may be no digits of a fraction and no exponent. -/
structure Numeral where
  whole : Text
  fraction : Text
  exponent : Option Int

/-- Reads the parts of a number after its sign. -/
def readNumeral (t : Text) : Except Stop (Numeral × Text) :=
  let whole := wholeDigits t
  if whole.isEmpty then .error .malformed
  else
    let rest := t.drop whole.length
    let fraction := fractionDigits rest
    let rest := if fraction.isEmpty then rest else rest.drop (fraction.length + 1)
    let (exponent, rest) := readExponent rest
    .ok (⟨whole, fraction, exponent⟩, rest)

/-- The number with these parts. It is an integer when it has neither fraction nor exponent. -/
def Numeral.value (n : Numeral) (l : Limits) (isNegative : Bool) : Except Stop Json :=
  if n.fraction.isEmpty && n.exponent.isNone then
    if l.admitsDigits n.whole.length then
      let size : Int := Nat.ofDigitChars 10 n.whole 0
      .ok (.int (if isNegative then -size else size))
    else .error (.excess .digits)
  else
    let digits := Nat.ofDigitChars 10 (n.whole ++ n.fraction) 0
    let scale := n.exponent.getD 0 - n.fraction.length
    .ok (.float (.ofDecimal isNegative digits scale))

/-- Reads a number after its sign. -/
def readMagnitude (l : Limits) (isNegative : Bool) (t : Text) : Except Stop (Json × Text) := do
  let (n, rest) ← readNumeral t
  let v ← n.value l isNegative
  return (v, rest)

/-- The values that are written as words. -/
def words : List (Text × Json) := [
  ("null", .null), ("true", .bool true), ("false", .bool false), ("NaN", .float .nan),
  ("Infinity", .float (.infinite false)), ("-Infinity", .float (.infinite true))]

/-- Reads a word or a number. -/
def readScalar (l : Limits) (t : Text) : Except Stop (Json × Text) :=
  match words.find? (fun word => word.1.isPrefixOf t) with
  | some (word, value) => .ok (value, t.drop word.length)
  | none =>
    match t with
    | '-' :: rest => readMagnitude l true rest
    | _ => readMagnitude l false t

/-- What follows when the bracket or brace that was opened is closed at once. -/
def closed? (closing : Char) (t : Text) : Option Text :=
  match skipSpacing t with
  | c :: rest => if c = closing then some rest else none
  | [] => none

/-- Reads what stands after an item: a comma, and there is one more, or what closes the series. -/
def readSeparator (closing : Char) (t : Text) : Except Stop (Bool × Text) :=
  match skipSpacing t with
  | c :: rest =>
    if c = ',' then .ok (true, skipSpacing rest)
    else if c = closing then .ok (false, rest)
    else .error .malformed
  | [] => .error .malformed

section Series

variable {α : Type}

/-- Reads a series up to what closes it, with a reader of one item and one of those after it. -/
def readSeries (closing : Char) (item : Text → Except Stop (α × Text))
    (more : Text → Except Stop (List α × Text)) (t : Text) : Except Stop (List α × Text) := do
  let (a, rest) ← item t
  let (isMore, rest) ← readSeparator closing rest
  if isMore then
    let (as, rest) ← more rest
    return (a :: as, rest)
  else return ([a], rest)

/-- Reads what stands between brackets or braces, after the opening one: nothing, or a series. -/
def readBracketed (closing : Char) (series : Limits → Text → Except Stop (List α × Text)) (l : Limits)
    (t : Text) : Except Stop (List α × Text) := do
  let l ← l.inner
  match closed? closing t with
  | some rest => return ([], rest)
  | none => series l (skipSpacing t)

end Series

/-- Reads the key of a member and the colon after it. -/
def readKey : Text → Except Stop (Text × Text)
  | '"' :: rest => do
    let (k, rest) ← readString rest
    match skipSpacing rest with
    | ':' :: rest => return (k, skipSpacing rest)
    | _ => throw .malformed
  | _ => .error .malformed

/-- Reads a member with a reader of its value. -/
def readMember (value : Text → Except Stop (Json × Text)) (t : Text) :
    Except Stop ((Text × Json) × Text) := do
  let (k, rest) ← readKey t
  let (v, rest) ← value rest
  return ((k, v), rest)

mutual

/-- Reads a value at the start of a text. The first number bounds the recursion; twice the length of
the text is enough. -/
def readValue : Nat → Limits → Text → Except Stop (Json × Text)
  | 0, _, _ => .error .malformed
  | fuel + 1, l, t =>
    match t with
    | '"' :: rest => do
      let (s, rest) ← readString rest
      return (.str s, rest)
    | '[' :: rest => do
      let (items, rest) ← readBracketed ']' (readItems fuel) l rest
      return (.arr items, rest)
    | '\x7b' :: rest => do
      let (members, rest) ← readBracketed '\x7d' (readMembers fuel) l rest
      return (.obj (Entries.ofPairs members), rest)
    | _ => readScalar l t

/-- Reads the items of an array up to its closing bracket. -/
def readItems : Nat → Limits → Text → Except Stop (List Json × Text)
  | 0, _, _ => .error .malformed
  | fuel + 1, l, t => readSeries ']' (readValue fuel l) (readItems fuel l) t

/-- Reads the members of an object up to its closing brace. -/
def readMembers : Nat → Limits → Text → Except Stop (List (Text × Json) × Text)
  | 0, _, _ => .error .malformed
  | fuel + 1, l, t => readSeries '\x7d' (readMember (readValue fuel l)) (readMembers fuel l) t

end

/-- Reads a text that holds one value and nothing else but spacing, within limits. -/
def readWithin (l : Limits) (t : Text) : Except Stop Json := do
  let (v, rest) ← readValue (2 * t.length + 1) l (skipSpacing t)
  if (skipSpacing rest).isEmpty then return v else throw .malformed

/-- Reads such a text without limits: integers may have any number of digits, and arrays and objects may
lie in each other to any depth. -/
def read? (t : Text) : Option Json := (readWithin {} t).toOption

end AttrFold.Json
