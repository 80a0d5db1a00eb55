import Mathlib.Tactic.Lemma
import PlannerConfig.Document.Path

/-!
The text of a path tells the path. A key comes after a point unless it comes first, an index stands in
brackets, and a key has neither of the characters that begin a step; so the text falls into its steps
again.
-/
namespace PlannerConfig

/-- What stands in front of the first stop is the same in equal texts, and so is the rest. -/
lemma append_inj_of_stop {stop : Char → Prop} {xs ys rest more : List Char}
    (hxs : ∀ c ∈ xs, ¬ stop c) (hys : ∀ c ∈ ys, ¬ stop c) (hrest : ∀ c ∈ rest.head?, stop c)
    (hmore : ∀ c ∈ more.head?, stop c) (h : xs ++ rest = ys ++ more) : xs = ys ∧ rest = more := by
  rcases List.append_eq_append_iff.mp h with ⟨cs, rfl, rfl⟩ | ⟨cs, rfl, rfl⟩
  · cases cs with
    | nil => simp
    | cons c cs => exact absurd (hrest c rfl) (hys c (by simp))
  · cases cs with
    | nil => simp
    | cons c cs => exact absurd (hmore c rfl) (hxs c (by simp))

namespace Step

/-- Whether a step can be found again in a text: a key has characters, but none that begins a step. -/
def IsLegible : Step → Prop
  | key name => name ≠ "" ∧ '.' ∉ name.toList ∧ '[' ∉ name.toList
  | index _ => True

/-- What a step adds to the text of those before it. -/
def chars : Step → List Char
  | key name => '.' :: name.toList
  | index i => '[' :: (toString i).toList ++ [']']

/-- The characters that begin a step. -/
def Begins (c : Char) : Prop := c = '.' ∨ c = '['

lemma not_begins_of_mem {name : String} (h : (key name).IsLegible) : ∀ c ∈ name.toList, ¬ Begins c := by
  rintro c hc (rfl | rfl)
  · exact h.2.1 hc
  · exact h.2.2 hc

lemma isDigit_of_mem_repr {n : Nat} {c : Char} (h : c ∈ n.repr.toList) : c.isDigit = true := by
  rw [Nat.toList_repr] at h
  exact Nat.isDigit_of_mem_toDigits (by decide) (by decide) h

lemma repr_nat_inj {m n : Nat} (h : m.repr = n.repr) : m = n := by
  have digits : Nat.toDigits 10 m = Nat.toDigits 10 n := by
    rw [← Nat.toList_repr, ← Nat.toList_repr, h]
  rw [← Nat.ofDigitChars_ten_toDigits (n := m), digits, Nat.ofDigitChars_ten_toDigits]

lemma toString_negSucc (n : Nat) : (toString (Int.negSucc n)).toList = '-' :: n.succ.repr.toList :=
  String.toList_append

/-- An index has digits only, and a sign in front of them if it is negative. -/
lemma toString_index_inj {i j : Int} (h : toString i = toString j) : i = j := by
  have signed : ∀ m n : Nat, toString (Int.ofNat m) ≠ toString (Int.negSucc n) := by
    intro m n heq
    have sign : '-' ∈ m.repr.toList := by
      rw [show m.repr = toString (Int.negSucc n) from heq, toString_negSucc]
      exact List.mem_cons_self
    exact absurd (isDigit_of_mem_repr sign) (by decide)
  cases i with
  | ofNat m =>
    cases j with
    | ofNat n => exact congrArg Int.ofNat (repr_nat_inj h)
    | negSucc n => exact absurd h (signed m n)
  | negSucc m =>
    cases j with
    | ofNat n => exact absurd h.symm (signed n m)
    | negSucc n =>
      have tails := congrArg String.toList h
      rw [toString_negSucc, toString_negSucc] at tails
      have heq := repr_nat_inj (String.toList_inj.mp (List.cons.inj tails).2)
      exact congrArg Int.negSucc (Nat.succ.inj heq)

lemma not_mem_toString_index (i : Int) : ']' ∉ (toString i).toList := by
  have digits : ∀ n : Nat, ']' ∉ n.repr.toList := fun n h =>
    absurd (isDigit_of_mem_repr h) (by decide)
  cases i with
  | ofNat n => exact digits n
  | negSucc n =>
    rw [toString_negSucc, List.mem_cons, not_or]
    exact ⟨by decide, digits n.succ⟩

/-- A text begins with one step only. -/
lemma chars_append_inj {s t : Step} (hs : s.IsLegible) (ht : t.IsLegible) {rest more : List Char}
    (hrest : ∀ c ∈ rest.head?, Begins c) (hmore : ∀ c ∈ more.head?, Begins c)
    (h : s.chars ++ rest = t.chars ++ more) : s = t ∧ rest = more := by
  cases s with
  | key name =>
    cases t with
    | key other =>
      have inner : name.toList ++ rest = other.toList ++ more := (List.cons.inj h).2
      obtain ⟨hname, heq⟩ := append_inj_of_stop (not_begins_of_mem hs) (not_begins_of_mem ht) hrest
        hmore inner
      exact ⟨congrArg key (String.toList_inj.mp hname), heq⟩
    | index j => exact absurd (List.cons.inj h).1 (by decide)
  | index i =>
    cases t with
    | key other => exact absurd (List.cons.inj h).1 (by decide)
    | index j =>
      have inner : (toString i).toList ++ ']' :: rest = (toString j).toList ++ ']' :: more := by
        simpa [chars] using h
      have free : ∀ (k : Int), ∀ c ∈ (toString k).toList, ¬ c = ']' := fun k c hc heq =>
        not_mem_toString_index k (heq ▸ hc)
      obtain ⟨hindex, heq⟩ := append_inj_of_stop (free i) (free j) (by simp) (by simp) inner
      have same : i = j := toString_index_inj (String.toList_inj.mp hindex)
      exact ⟨congrArg index same, (List.cons.inj heq).2⟩

end Step

namespace Path

variable {p q : Path}

/-- Whether all steps can be found again in the text of a path. -/
def IsLegible (p : Path) : Prop := ∀ step ∈ p, step.IsLegible

lemma begins_of_mem_head? : ∀ c ∈ (p.flatMap Step.chars).head?, Step.Begins c := by
  intro c hc
  cases p with
  | nil => cases hc
  | cons step p =>
    cases step with
    | key name =>
      obtain rfl : '.' = c := Option.some.inj hc
      exact .inl rfl
    | index i =>
      obtain rfl : '[' = c := Option.some.inj hc
      exact .inr rfl

lemma eq_of_flatMap_chars (hp : p.IsLegible) (hq : q.IsLegible)
    (h : p.flatMap Step.chars = q.flatMap Step.chars) : p = q := by
  have some_char : ∀ (step : Step) (path : Path), (step :: path).flatMap Step.chars ≠ [] := by
    rintro (name | i) path <;> simp [Step.chars]
  induction p generalizing q with
  | nil =>
    cases q with
    | nil => rfl
    | cons other q => exact absurd h.symm (some_char other q)
  | cons step p ih =>
    cases q with
    | nil => exact absurd h (some_char step p)
    | cons other q =>
      rw [List.flatMap_cons, List.flatMap_cons] at h
      obtain ⟨rfl, hrest⟩ := Step.chars_append_inj (hp step List.mem_cons_self)
        (hq other List.mem_cons_self) begins_of_mem_head? begins_of_mem_head? h
      rw [ih (fun s hs => hp s (List.mem_cons_of_mem _ hs))
        (fun s hs => hq s (List.mem_cons_of_mem _ hs)) hrest]

lemma toList_extendText {text : String} (h : text ≠ "") (step : Step) :
    (extendText text step).toList = text.toList ++ step.chars := by
  cases step with
  | key name => simp [extendText, h, Step.chars]
  | index i => simp [extendText, Step.chars]

lemma toList_foldl_extendText {text : String} (h : text ≠ "") (p : Path) :
    (p.foldl extendText text).toList = text.toList ++ p.flatMap Step.chars := by
  induction p generalizing text with
  | nil => simp
  | cons step p ih =>
    have longer : extendText text step ≠ "" := by
      intro hempty
      have hchars := toList_extendText h step
      rw [hempty] at hchars
      cases step <;> simp [Step.chars] at hchars
    rw [List.foldl_cons, ih longer, toList_extendText h, List.flatMap_cons, List.append_assoc]

/-- A text with the point that the first key goes without. -/
def withPoint : List Char → List Char
  | [] => []
  | c :: cs => if c = '[' then c :: cs else '.' :: c :: cs

lemma withPoint_toList_text (hp : p.IsLegible) : withPoint p.text.toList = p.flatMap Step.chars := by
  cases p with
  | nil => rfl
  | cons step p =>
    have first := hp step List.mem_cons_self
    cases step with
    | key name =>
      obtain ⟨hname, -, hbracket⟩ := first
      have whole : (text (.key name :: p)).toList = name.toList ++ p.flatMap Step.chars :=
        toList_foldl_extendText hname p
      obtain ⟨c, cs, hcs⟩ : ∃ c cs, name.toList = c :: cs :=
        List.exists_cons_of_ne_nil fun hnil => hname (String.toList_eq_nil_iff.mp hnil)
      have hc : c ≠ '[' := by
        rintro rfl
        exact hbracket (hcs ▸ List.mem_cons_self)
      rw [whole, List.flatMap_cons, Step.chars, hcs]
      exact if_neg hc
    | index i =>
      have bracketed : ("[" ++ toString i ++ "]").toList = (Step.index i).chars := by simp [Step.chars]
      have whole : (text (.index i :: p)).toList = (Step.index i).chars ++ p.flatMap Step.chars := by
        rw [← bracketed, ← toList_foldl_extendText (by simp) p]
        rfl
      rw [whole]
      rfl

/-- Paths whose keys have characters, but neither points nor opening brackets, differ in their texts. -/
theorem text_eq_text_iff (hp : p.IsLegible) (hq : q.IsLegible) : p.text = q.text ↔ p = q := by
  constructor
  · intro h
    apply eq_of_flatMap_chars hp hq
    rw [← withPoint_toList_text hp, ← withPoint_toList_text hq, h]
  · exact congrArg text

/-- A key that looks like an index, with a closing bracket in it. -/
theorem text_eq_text_iff_bracket :
    let p : Path := [.index 0, .key "-1]", .index (-1)]
    let q : Path := [.index 0, .index (-1), .key "]"]
    (p.IsLegible ∧ q.IsLegible) ∧ (p.text = q.text ↔ p = q)
      ∧ p.text = "[0].-1][-1]" ∧ q.text = "[0][-1].]" := by
  intro p q
  have hp : p.IsLegible := by simp [p, IsLegible, Step.IsLegible]
  have hq : q.IsLegible := by simp [q, IsLegible, Step.IsLegible]
  exact ⟨⟨hp, hq⟩, text_eq_text_iff hp hq, by decide, by decide⟩

end Path
end PlannerConfig
