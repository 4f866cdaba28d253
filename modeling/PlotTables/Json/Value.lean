set_option autoImplicit false

namespace PlotTables.Json

/-- A number as written: an empty fraction or no exponent digits where it has none. -/
structure Number where
  negative : Bool
  whole : List Char
  fraction : List Char
  exponentNegative : Bool
  exponent : List Char
deriving DecidableEq

/-- A part of a string: a character, or a 16-bit unit escaped by its number. -/
inductive Piece where
  | char (c : Char)
  | unit (n : Nat)
deriving DecidableEq

inductive Value where
  | null
  | bool (b : Bool)
  | number (n : Number)
  | string (pieces : List Piece)
  | array (items : List Value)
  | object (members : List (List Piece × Value))

def isSpace (c : Char) : Bool := c == ' ' || c == '\t' || c == '\n' || c == '\r'

def skipSpace (text : List Char) : List Char := text.dropWhile isSpace

def hexValue? (c : Char) : Option Nat :=
  if c.isDigit then some (c.toNat - 48)
  else if 'a' ≤ c ∧ c ≤ 'f' then some (c.toNat - 87)
  else if 'A' ≤ c ∧ c ≤ 'F' then some (c.toNat - 55)
  else none

def hexUnit? (a b c d : Char) : Option Nat :=
  match hexValue? a, hexValue? b, hexValue? c, hexValue? d with
  | some w, some x, some y, some z => some (((w * 16 + x) * 16 + y) * 16 + z)
  | _, _, _, _ => none

def escaped? : Char → Option Char
  | '"' => some '"'
  | '\\' => some '\\'
  | '/' => some '/'
  | 'b' => some (Char.ofNat 8)
  | 'f' => some (Char.ofNat 12)
  | 'n' => some '\n'
  | 'r' => some '\r'
  | 't' => some '\t'
  | _ => none

def readString? : List Char → Option (List Piece × List Char)
  | [] => none
  | '"' :: rest => some ([], rest)
  | '\\' :: 'u' :: a :: b :: c :: d :: rest =>
      match hexUnit? a b c d, readString? rest with
      | some n, some (pieces, after) => some (.unit n :: pieces, after)
      | _, _ => none
  | '\\' :: letter :: rest =>
      match escaped? letter, readString? rest with
      | some c, some (pieces, after) => some (.char c :: pieces, after)
      | _, _ => none
  | c :: rest =>
      if c.toNat < 0x20 ∨ c = '\\' then none
      else (readString? rest).map fun (pieces, after) => (.char c :: pieces, after)

def readWhole? (text : List Char) : Option (List Char × List Char) :=
  -- A leading zero must be the only digit.
  let digits := text.takeWhile Char.isDigit
  match digits with
  | [] | '0' :: _ :: _ => none
  | _ => some (digits, text.dropWhile Char.isDigit)

def readFraction? : List Char → Option (List Char × List Char)
  | '.' :: rest =>
      let digits := rest.takeWhile Char.isDigit
      if digits = [] then none else some (digits, rest.dropWhile Char.isDigit)
  | text => some ([], text)

def readExponent? : List Char → Option ((Bool × List Char) × List Char)
  | [] => some ((false, []), [])
  | mark :: rest =>
      if mark = 'e' ∨ mark = 'E' then
        let (negative, unsigned) :=
          match rest with
          | '-' :: rest => (true, rest)
          | '+' :: rest => (false, rest)
          | rest => (false, rest)
        let digits := unsigned.takeWhile Char.isDigit
        if digits = [] then none
        else some ((negative, digits), unsigned.dropWhile Char.isDigit)
      else some ((false, []), mark :: rest)

def readNumber? (text : List Char) : Option (Number × List Char) := do
  let (negative, unsigned) :=
    match text with
    | '-' :: rest => (true, rest)
    | text => (false, text)
  let (whole, afterWhole) ← readWhole? unsigned
  let (fraction, afterFraction) ← readFraction? afterWhole
  let ((exponentNegative, exponent), rest) ← readExponent? afterFraction
  return (⟨negative, whole, fraction, exponentNegative, exponent⟩, rest)

def readName? (text : List Char) : Option (List Piece × List Char) :=
  match skipSpace text with
  | '"' :: rest =>
      match readString? rest with
      | some (name, after) =>
          match skipSpace after with
          | ':' :: body => some (name, body)
          | _ => none
      | none => none
  | _ => none

mutual

def readValue? : Nat → List Char → Option (Value × List Char)
  -- The fuel bounds the steps.
  | 0, _ => none
  | fuel + 1, text =>
      match skipSpace text with
      | 'n' :: 'u' :: 'l' :: 'l' :: rest => some (.null, rest)
      | 't' :: 'r' :: 'u' :: 'e' :: rest => some (.bool true, rest)
      | 'f' :: 'a' :: 'l' :: 's' :: 'e' :: rest => some (.bool false, rest)
      | '"' :: rest => (readString? rest).map fun (pieces, after) => (.string pieces, after)
      | '[' :: rest =>
          match skipSpace rest with
          | ']' :: after => some (.array [], after)
          | _ => (readItems? fuel rest).map fun (items, after) => (.array items, after)
      | '{' :: rest =>
          match skipSpace rest with
          | '}' :: after => some (.object [], after)
          | _ => (readMembers? fuel rest).map fun (members, after) => (.object members, after)
      | other => (readNumber? other).map fun (number, after) => (.number number, after)

def readItems? : Nat → List Char → Option (List Value × List Char)
  | 0, _ => none
  | fuel + 1, text =>
      match readValue? fuel text with
      | none => none
      | some (first, rest) =>
          match skipSpace rest with
          | ']' :: after => some ([first], after)
          | ',' :: more =>
              (readItems? fuel more).map fun (others, after) => (first :: others, after)
          | _ => none

def readMembers? : Nat → List Char → Option (List (List Piece × Value) × List Char)
  | 0, _ => none
  | fuel + 1, text =>
      match readName? text with
      | none => none
      | some (name, body) =>
          match readValue? fuel body with
          | none => none
          | some (value, rest) =>
              match skipSpace rest with
              | '}' :: after => some ([(name, value)], after)
              | ',' :: more =>
                  (readMembers? fuel more).map fun (others, after) =>
                    ((name, value) :: others, after)
              | _ => none
end

def parse? (text : List Char) : Option Value :=
  match readValue? (text.length + 1) text with
  | some (value, rest) => if skipSpace rest = [] then some value else none
  | none => none

def decodeString? : List Piece → Option (List Char)
  -- Surrogate units must stand in pairs.
  | [] => some []
  | .char c :: rest => (decodeString? rest).map (c :: ·)
  | .unit high :: .unit low :: rest =>
      if 0xD800 ≤ high ∧ high < 0xDC00 then
        if 0xDC00 ≤ low ∧ low < 0xE000 then
          (decodeString? rest).map
            (Char.ofNat (0x10000 + (high - 0xD800) * 0x400 + (low - 0xDC00)) :: ·)
        else none
      else if 0xDC00 ≤ high ∧ high < 0xE000 then none
      else (decodeString? (.unit low :: rest)).map (Char.ofNat high :: ·)
  | .unit n :: rest =>
      if 0xD800 ≤ n ∧ n < 0xE000 then none else (decodeString? rest).map (Char.ofNat n :: ·)

end PlotTables.Json
