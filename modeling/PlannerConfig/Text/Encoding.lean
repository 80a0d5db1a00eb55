import PlannerConfig.Text.Surrogate

/-!
Unicode encodings. Text files are UTF-8; JSON files may also be UTF-16 or UTF-32, which is seen
from a byte order mark or from where the zero bytes of the first characters are, and may hold
surrogates.
-/
namespace PlannerConfig.Text

/-- How the bytes of a JSON file stand for characters. -/
inductive Encoding
  | utf8
  | utf16 (bigEndian : Bool)
  | utf32 (bigEndian : Bool)
  deriving DecidableEq, Repr

/-- The encoding of a JSON file and the number of bytes its mark takes. -/
def detectEncoding (bytes : List Nat) : Encoding × Nat :=
  match bytes with
  | 0x00 :: 0x00 :: 0xFE :: 0xFF :: _ => (.utf32 true, 4)
  | 0xFF :: 0xFE :: 0x00 :: 0x00 :: _ => (.utf32 false, 4)
  | 0xFE :: 0xFF :: _ => (.utf16 true, 2)
  | 0xFF :: 0xFE :: _ => (.utf16 false, 2)
  | 0xEF :: 0xBB :: 0xBF :: _ => (.utf8, 3)
  | a :: b :: c :: d :: _ =>
    if a = 0 then (if b = 0 then .utf32 true else .utf16 true, 0)
    else if b = 0 then (if c = 0 ∧ d = 0 then .utf32 false else .utf16 false, 0)
    else (.utf8, 0)
  | [a, b] => (if a = 0 then .utf16 true else if b = 0 then .utf16 false else .utf8, 0)
  | _ => (.utf8, 0)

/-- Two-byte units; `none` if a byte is left over. -/
def units16? (bigEndian : Bool) : List Nat → Option (List Nat)
  | [] => some []
  | [_] => none
  | a :: b :: rest =>
    (units16? bigEndian rest).map ((if bigEndian then 256 * a + b else 256 * b + a) :: ·)

/-- Four-byte units; `none` if bytes are left over. -/
def units32? (bigEndian : Bool) : List Nat → Option (List Nat)
  | [] => some []
  | a :: b :: c :: d :: rest =>
    let n :=
      if bigEndian then ((a * 256 + b) * 256 + c) * 256 + d
      else ((d * 256 + c) * 256 + b) * 256 + a
    (units32? bigEndian rest).map (n :: ·)
  | _ => none

/-- The characters of UTF-16 units. -/
def decode16 : List Nat → List Char
  | [] => []
  | [a] => charsOf a
  | a :: b :: rest =>
    if isHighSurrogate a && isLowSurrogate b then charsOf (joinSurrogates a b) ++ decode16 rest
    else charsOf a ++ decode16 (b :: rest)

/-- The characters of UTF-32 units. -/
def decode32? (units : List Nat) : Option (List Char) :=
  if units.all (· < 0x110000) then some (units.flatMap charsOf) else none

/-- The three bytes that UTF-8 has for a surrogate, read as it would read them for a character. -/
def surrogateOfBytes? (a b c : UInt8) : Option Nat :=
  if a = 0xED ∧ 0xA0 ≤ b ∧ b < 0xC0 ∧ 0x80 ≤ c ∧ c < 0xC0 then
    some (0xD000 + (b.toNat - 0x80) * 0x40 + (c.toNat - 0x80))
  else none

/-- UTF-8 with the bytes of what stands for a surrogate instead of its own. -/
def replaceSurrogates : List UInt8 → List UInt8
  | a :: b :: c :: rest =>
    match surrogateOfBytes? a b c with
    | some n => (charsOf n).flatMap String.utf8EncodeChar ++ replaceSurrogates rest
    | none => a :: replaceSurrogates (b :: c :: rest)
  | bytes => bytes

/-- The text of a UTF-8 file. -/
def decodeText? (bytes : ByteArray) : Option String := String.fromUTF8? bytes

/-- The UTF-8 of a text without surrogates. -/
def encodeText (s : String) : ByteArray := s.toUTF8

theorem decodeText_encodeText (s : String) : decodeText? (encodeText s) = some s := by
  simp [decodeText?, encodeText, String.fromUTF8?, s.isValidUTF8]; rfl

/-- Why a text cannot be encoded: a surrogate that is not allowed, and those that follow it at once. -/
structure Unencodable where
  position : Nat
  first : Nat
  count : Nat
  deriving DecidableEq, Repr

/-- The first surrogate that is not allowed, among code points from a position on. -/
def unencodable? (allowed : Nat → Bool) (position : Nat) : List Point → Option Unencodable
  | [] => none
  | .char _ :: ps => unencodable? allowed (position + 1) ps
  | .surrogate n :: ps =>
    if allowed n then unencodable? allowed (position + 1) ps
    else some ⟨position, n, 1 + (ps.takeWhile Point.isSurrogate).length⟩

theorem unencodable?_eq_none_iff {allowed : Nat → Bool} {position : Nat} {ps : List Point} :
    unencodable? allowed position ps = none ↔ ∀ n, .surrogate n ∈ ps → allowed n = true := by
  fun_induction unencodable? allowed position ps with
  | case1 => simp
  | case2 position c ps ih => simp [ih]
  | case3 position n ps hn ih => simp [ih, hn]
  | case4 position n ps hn => simp [hn]

/-- The UTF-8 of a text. There is none for a surrogate. -/
def encodeText? (s : String) : Except Unencodable ByteArray :=
  match unencodable? (fun _ => false) 0 (points s.toList) with
  | some u => .error u
  | none => .ok (encodeText s)

/-- Whether there is no surrogate among the code points of a text. -/
def Encodable (s : String) : Prop := ∀ n, .surrogate n ∉ points s.toList

theorem unencodable?_text_eq_none_iff {s : String} :
    unencodable? (fun _ => false) 0 (points s.toList) = none ↔ Encodable s := by
  simp [unencodable?_eq_none_iff, Encodable]

theorem encodeText?_eq_ok_iff {s : String} {bytes : ByteArray} :
    encodeText? s = .ok bytes ↔ Encodable s ∧ encodeText s = bytes := by
  rw [← unencodable?_text_eq_none_iff]
  unfold encodeText?
  split <;> simp [*]

theorem encodable_of_not_mem {s : String} (h : surrogateMark ∉ s.toList) : Encodable s := by
  intro n
  rw [points_eq_map h]
  simp

/-- The characters of a JSON file. -/
def decodeJson? (bytes : ByteArray) : Option (List Char) :=
  let numbers := bytes.toList.map UInt8.toNat
  match detectEncoding numbers with
  | (.utf8, mark) =>
    (decodeText? ⟨(replaceSurrogates (bytes.toList.drop mark)).toArray⟩).map String.toList
  | (.utf16 bigEndian, mark) => (units16? bigEndian (numbers.drop mark)).map decode16
  | (.utf32 bigEndian, mark) => (units32? bigEndian (numbers.drop mark)).bind decode32?

end PlannerConfig.Text
