set_option autoImplicit false

namespace PlotTables

namespace Utf8

/-- A character begun: its bits so far, the range of its next byte, how many bytes follow that. -/
structure Pending where
  bits : Nat
  low : UInt8
  high : UInt8
  more : Nat
deriving DecidableEq

def begin (b : UInt8) : List (Option Char) × Option Pending :=
  let n := b.toNat
  if n < 0x80 then ([some (Char.ofNat n)], none)
  else if n < 0xC2 then ([none], none)
  else if n < 0xE0 then ([], some ⟨n - 0xC0, 0x80, 0xBF, 0⟩)
  else if n = 0xE0 then ([], some ⟨0, 0xA0, 0xBF, 1⟩)
  else if n = 0xED then ([], some ⟨13, 0x80, 0x9F, 1⟩)
  else if n < 0xF0 then ([], some ⟨n - 0xE0, 0x80, 0xBF, 1⟩)
  else if n = 0xF0 then ([], some ⟨0, 0x90, 0xBF, 2⟩)
  else if n < 0xF4 then ([], some ⟨n - 0xF0, 0x80, 0xBF, 2⟩)
  else if n = 0xF4 then ([], some ⟨4, 0x80, 0x8F, 2⟩)
  else ([none], none)

def advance : Option Pending → UInt8 → List (Option Char) × Option Pending
  | none, b => begin b
  | some p, b =>
      if p.low ≤ b ∧ b ≤ p.high then
        let bits := p.bits * 64 + b.toNat % 64
        match p.more with
        | 0 => ([some (Char.ofNat bits)], none)
        | more + 1 => ([], some ⟨bits, 0x80, 0xBF, more⟩)
      else
        -- The part begun ends before this byte, which may begin a character itself.
        let (items, next) := begin b
        (none :: items, next)

def scan : Option Pending → List UInt8 → List (Option Char)
  | none, [] => []
  | some _, [] => [none]
  | state, b :: rest =>
      let (items, next) := advance state b
      items ++ scan next rest

/-- The characters in order, with `none` for each maximal part that begins no character. -/
def items (bytes : List UInt8) : List (Option Char) := scan none bytes

def decode? (bytes : List UInt8) : Option String :=
  ((items bytes).mapM id).map String.ofList

def replacement : Char := Char.ofNat 0xFFFD

def decodeLossy (bytes : List UInt8) : List Char :=
  (items bytes).map fun item => item.getD replacement

def validLength (bytes : List UInt8) : Nat :=
  ((items bytes).takeWhile Option.isSome).foldl
    (fun length item => length + (item.map Char.utf8Size).getD 0) 0

def byte (n : Nat) : UInt8 := UInt8.ofNat n

def encodeChar (c : Char) : List UInt8 :=
  let n := c.toNat
  if n < 0x80 then [byte n]
  else if n < 0x800 then [byte (0xC0 + n / 64), byte (0x80 + n % 64)]
  else if n < 0x10000 then
    [byte (0xE0 + n / 4096), byte (0x80 + n / 64 % 64), byte (0x80 + n % 64)]
  else
    [byte (0xF0 + n / 262144), byte (0x80 + n / 4096 % 64), byte (0x80 + n / 64 % 64),
      byte (0x80 + n % 64)]

def encode (text : String) : List UInt8 := text.toList.flatMap encodeChar

end Utf8

-- The characters with the property White_Space.
def isBlank (c : Char) : Bool :=
  let n := c.toNat
  (0x09 ≤ n && n ≤ 0x0D) || n == 0x20 || n == 0x85 || n == 0xA0 || n == 0x1680 ||
    (0x2000 ≤ n && n ≤ 0x200A) || n == 0x2028 || n == 0x2029 || n == 0x202F || n == 0x205F ||
    n == 0x3000

def trimBlanks (text : List Char) : List Char :=
  ((text.dropWhile isBlank).reverse.dropWhile isBlank).reverse

def splitAll {α : Type} [BEq α] (separator : α) (items : List α) : List (List α) :=
  items.foldr
    (fun item later =>
      if item == separator then [] :: later
      else
        match later with
        | [] => [[item]]
        | next :: rest => (item :: next) :: rest)
    [[]]

theorem splitAll_part {α : Type} [BEq α] [LawfulBEq α] (separator : α) (part rest : List α)
    (absent : separator ∉ part) :
    splitAll separator (part ++ separator :: rest) = part :: splitAll separator rest := by
  induction part with
  | nil => simp [splitAll]
  | cons item others ih =>
    rw [List.mem_cons, not_or] at absent
    have split := ih absent.2
    unfold splitAll at split ⊢
    rw [List.cons_append, List.foldr_cons, split, if_neg]
    rw [beq_iff_eq]
    exact Ne.symm absent.1

end PlotTables
