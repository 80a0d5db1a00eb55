/-!
Surrogates are the halves of a UTF-16 pair: code points, but no characters. JSON can hold one that
has no partner. Two characters stand for it in a text, and it is a surrogate again wherever code
points are written.
-/
namespace PlannerConfig.Text

def isHighSurrogate (n : Nat) : Bool := 0xD800 ≤ n && n < 0xDC00

def isLowSurrogate (n : Nat) : Bool := 0xDC00 ≤ n && n < 0xE000

def isSurrogate (n : Nat) : Bool := isHighSurrogate n || isLowSurrogate n

/-- The code point of a pair. -/
def joinSurrogates (high low : Nat) : Nat := 0x10000 + (high - 0xD800) * 0x400 + (low - 0xDC00)

/-- What announces a surrogate: the code point U+10FFFE, which is set aside for uses like this. -/
def surrogateMark : Char := Char.ofNat 0x10FFFE

/-- How far above a surrogate the private character is that stands for it after the mark. -/
def surrogateShift : Nat := 0x101800

/-- The characters of a code point. -/
def charsOf (n : Nat) : List Char :=
  if isSurrogate n then [surrogateMark, Char.ofNat (n + surrogateShift)] else [Char.ofNat n]

/-- A code point of a text. -/
inductive Point
  | char (c : Char)
  | surrogate (n : Nat)
  deriving DecidableEq, Repr

def Point.isSurrogate : Point → Bool
  | char _ => false
  | surrogate _ => true

/-- The code points of a text. -/
def points : List Char → List Point
  | a :: b :: cs =>
    let n := b.toNat - surrogateShift
    if a == surrogateMark && isSurrogate n then .surrogate n :: points cs
    else .char a :: points (b :: cs)
  | cs => cs.map .char

/-- A text without marks has its characters for code points. -/
theorem points_eq_map {cs : List Char} (h : surrogateMark ∉ cs) : points cs = cs.map .char := by
  fun_induction points cs with
  | case1 a b cs n hm => simp_all
  | case2 a b cs n hm ih => simp_all
  | case3 => rfl

end PlannerConfig.Text
