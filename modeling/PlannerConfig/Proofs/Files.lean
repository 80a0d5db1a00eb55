import Mathlib.Data.List.Infix
import Mathlib.Tactic.Lemma
import PlannerConfig.Files.Basic
import PlannerConfig.Proofs.Document.Fields
import PlannerConfig.Proofs.Traversal

/-!
Writing a file. A file can be written only in a directory that is there, so writing it makes no
directory and takes none away: every path leads to where it led, every other file has what it had,
and the text that was written is read back.
-/
namespace PlannerConfig

open PlannerConfig.Text

lemma any_setField {κ α : Type} [BEq κ] [LawfulBEq κ] (test : κ → Bool) (key : κ) (value : α)
    (fields : List (κ × α)) : ((setField key value fields).any fun f => test f.1)
      = ((fields.any fun f => test f.1) || test key) := by
  induction fields with
  | nil => simp [setField]
  | cons f rest ih =>
    obtain ⟨k, v⟩ := f
    unfold setField
    split
    · rename_i hk
      rw [eq_of_beq hk]
      cases h : test key <;> simp [h]
    · rw [List.any_cons, ih, List.any_cons, Bool.or_assoc]

/-- Whether the file system can be asked about a path at all. -/
def FilePath.IsNameable (path : FilePath) : Prop :=
  unencodable? Files.isLoneByte 0 (points path.text.toList) = none
    ∧ '\x00' ∉ path.text.toList ∧ path.text.utf8ByteSize ≤ maxPathBytes

instance (path : FilePath) : Decidable path.IsNameable :=
  inferInstanceAs (Decidable (_ ∧ _ ∧ _))

namespace Files

variable {f g : Files} {path other : FilePath} {place p q r : List String} {part name : String}
  {parts : List String} {bytes : ByteArray} {text : String}

/-- Whether a place is on the way to something: to an entry, or to the directory at hand. -/
def reaches (f : Files) (place : List String) : Bool :=
  isAround place || f.entries.any fun e => place.isPrefixOf e.1

lemma isDirectory_eq (f : Files) (place : List String) :
    f.isDirectory place = (!f.isFile place && f.reaches place) := rfl

lemma reaches_of_isDirectory (h : f.isDirectory place = true) : f.reaches place = true := by
  rw [isDirectory_eq, Bool.and_eq_true] at h
  exact h.2

lemma reaches_of_prefix (hp : p <+: q) (h : f.reaches q = true) : f.reaches p = true := by
  simp only [reaches, isAround, Bool.or_eq_true, List.all_eq_true, List.any_eq_true,
    List.isPrefixOf_iff_prefix] at h ⊢
  exact h.imp (fun h part hpart => h part (hp.mem hpart)) fun ⟨e, he, hq⟩ => ⟨e, he, hp.trans hq⟩

section place

/-- A path leads through directories: what is around the place it leads to is on the way to
something. -/
lemma reaches_of_placeFrom (hp : f.reaches p = true)
    (h : f.placeFrom path p parts = .ok q) : f.reaches q.dropLast = true := by
  induction parts generalizing p with
  | nil =>
    cases h
    exact reaches_of_prefix (List.dropLast_prefix _) hp
  | cons part rest ih =>
    simp only [placeFrom] at h
    split at h
    · cases h
    · split at h
      · rename_i hnext
        cases rest with
        | nil =>
          cases h
          unfold placeUnder
          split
          · exact reaches_of_prefix ((List.dropLast_prefix _).trans (List.dropLast_prefix p)) hp
          · rwa [List.dropLast_concat]
        | cons part' rest =>
          exact ih (reaches_of_isDirectory (by simpa using hnext)) h
      · split at h <;> cases h

/-- A path that can be named leads where its parts lead. -/
lemma place_eq_placeFrom (h : path.IsNameable) : f.place path = f.placeFrom path [] path.parts := by
  obtain ⟨hencodable, hnul, hbytes⟩ := h
  rw [place, hencodable]
  dsimp only
  rw [String.contains_char_eq, decide_eq_false hnul, if_neg Bool.false_ne_true,
    if_neg (Nat.not_lt.mpr hbytes)]

lemma place_eq_ok_iff :
    f.place path = .ok q ↔ path.IsNameable ∧ f.placeFrom path [] path.parts = .ok q := by
  constructor
  · intro h
    unfold place at h
    split at h
    · cases h
    · rename_i hencodable
      split at h
      · cases h
      · rename_i hnul
        split at h
        · cases h
        · rename_i hbytes
          rw [String.contains_char_eq, decide_eq_true_iff] at hnul
          exact ⟨⟨hencodable, hnul, Nat.not_lt.mp hbytes⟩, h⟩
  · rintro ⟨hname, h⟩
    rw [place_eq_placeFrom hname, h]

lemma reaches_of_place (h : f.place path = .ok q) : f.reaches q.dropLast = true :=
  reaches_of_placeFrom rfl (place_eq_ok_iff.mp h).2

/-- Where a path leads is a matter of the directories alone. -/
lemma placeFrom_congr (h : ∀ place, g.isDirectory place = f.isDirectory place)
    (parts : List String) :
    g.placeFrom path p parts = .ok q ↔ f.placeFrom path p parts = .ok q := by
  induction parts generalizing p with
  | nil => rfl
  | cons part rest ih =>
    simp only [placeFrom, h]
    split
    · simp
    · split
      · exact ih
      · constructor <;> intro hok <;> split at hok <;> cases hok

lemma place_congr (h : ∀ place, g.isDirectory place = f.isDirectory place) :
    g.place path = .ok q ↔ f.place path = .ok q := by
  simp only [place_eq_ok_iff, placeFrom_congr h]

end place

section put

/-- The files with a file put at a place. -/
def put (f : Files) (place : List String) (bytes : ByteArray) : Files :=
  ⟨setField place (some bytes) f.entries⟩

lemma contents?_put : (f.put place bytes).contents? q
    = if q = place then some bytes else f.contents? q := by
  unfold contents? put
  split
  · rename_i h
    rw [h, lookup_setField_self]
    rfl
  · rename_i h
    rw [lookup_setField_of_ne _ _ _ h]

lemma reaches_put : (f.put place bytes).reaches q = (f.reaches q || q.isPrefixOf place) := by
  unfold reaches put
  rw [any_setField (fun e => q.isPrefixOf e), Bool.or_assoc]

/-- The directories stay the same where a file is put in one of them. -/
lemma isDirectory_put (hplace : f.reaches place.dropLast = true)
    (hfree : f.isDirectory place = false) :
    (f.put place bytes).isDirectory q = f.isDirectory q := by
  by_cases hq : q = place
  · rw [hq, hfree]
    simp [isDirectory_eq, isFile, contents?_put]
  · have hway : (f.reaches q || q.isPrefixOf place) = f.reaches q := by
      rw [Bool.or_eq_left_iff_imp, List.isPrefixOf_iff_prefix]
      intro hstart
      apply reaches_of_prefix ?_ hplace
      rcases List.eq_nil_or_concat place with rfl | ⟨above, last, rfl⟩
      · exact (hq (List.prefix_nil.mp hstart)).elim
      · rw [List.concat_eq_append, List.dropLast_concat]
        rw [List.concat_eq_append, List.prefix_concat_iff] at hstart
        exact hstart.resolve_left (by simpa using hq)
    simp [isDirectory_eq, isFile, contents?_put, hq, reaches_put, hway]

end put

lemma write_eq_ok_iff : f.write path bytes = .ok g
    ↔ ∃ place, f.place path = .ok place ∧ f.isDirectory place = false ∧ g = f.put place bytes := by
  rw [write, bind_eq_ok]
  refine exists_congr fun place => and_congr_right fun _ => ?_
  cases f.isDirectory place <;> simp [put, pure, Except.pure, throw, throwThe, MonadExceptOf.throw,
    eq_comm]

lemma read_eq_ok_iff : f.read path = .ok bytes
    ↔ ∃ place, f.place path = .ok place ∧ f.contents? place = some bytes := by
  rw [read, bind_eq_ok]
  refine exists_congr fun place => and_congr_right fun _ => ?_
  cases f.contents? place <;> simp [pure, Except.pure, throw, throwThe, MonadExceptOf.throw]

lemma readText_eq_ok_iff : f.readText path = .ok text
    ↔ ∃ bytes, f.read path = .ok bytes ∧ decodeText? bytes = some text := by
  rw [readText, bind_eq_ok]
  refine exists_congr fun bytes => and_congr_right fun _ => ?_
  cases decodeText? bytes <;> simp [pure, Except.pure, throw, throwThe, MonadExceptOf.throw]

section write

variable (h : f.write path bytes = .ok g)

include h

/-- Writing a file leaves the directories as they are. -/
lemma isDirectory_write : g.isDirectory q = f.isDirectory q := by
  obtain ⟨place, hplace, hfree, rfl⟩ := write_eq_ok_iff.mp h
  exact isDirectory_put (reaches_of_place hplace) hfree

lemma place_write : g.place other = .ok q ↔ f.place other = .ok q :=
  place_congr fun _ => isDirectory_write h

/-- Writing a file leaves every other file as it is, and makes no other. -/
lemma contents?_write (hq : f.place path ≠ .ok q) : g.contents? q = f.contents? q := by
  obtain ⟨place, hplace, -, rfl⟩ := write_eq_ok_iff.mp h
  rw [contents?_put, if_neg]
  rintro rfl
  exact hq hplace

lemma read_write : g.read path = .ok bytes := by
  obtain ⟨place, hplace, -, rfl⟩ := write_eq_ok_iff.mp h
  exact read_eq_ok_iff.mpr ⟨place, (place_write h).mpr hplace, by simp [contents?_put]⟩

lemma read_write_of_ne {old : ByteArray} (hne : f.place other ≠ f.place path) :
    g.read other = .ok old ↔ f.read other = .ok old := by
  simp only [read_eq_ok_iff, place_write h]
  refine exists_congr fun place => and_congr_right fun hplace => ?_
  rw [contents?_write h (hplace ▸ hne.symm)]

/-- What was written before does not matter. -/
lemma write_write (later : ByteArray) : g.write path later = f.write path later := by
  obtain ⟨place, hplace, hfree, rfl⟩ := write_eq_ok_iff.mp h
  have again : (f.put place bytes).put place later = f.put place later := by
    simp only [put, setField_setField]
  rw [write_eq_ok_iff.mpr ⟨place, hplace, hfree, rfl⟩, write_eq_ok_iff.mpr ⟨place,
    (place_write h).mpr hplace, (isDirectory_write h).trans hfree, again.symm⟩]

lemma readText_write_of_ne (hne : f.place other ≠ f.place path) :
    g.readText other = .ok text ↔ f.readText other = .ok text := by
  simp only [readText_eq_ok_iff, read_write_of_ne h hne]

end write

lemma writeText_eq_ok_iff : f.writeText path text = .ok g
    ↔ Encodable text ∧ f.write path (encodeText text) = .ok g := by
  simp only [writeText, bind_eq_ok, mapError_eq_ok, encodeText?_eq_ok_iff, and_assoc]
  constructor
  · rintro ⟨bytes, hencodable, rfl, h⟩
    exact ⟨hencodable, h⟩
  · rintro ⟨hencodable, h⟩
    exact ⟨_, hencodable, rfl, h⟩

/-- The text that was written is read back. -/
lemma readText_writeText (h : f.writeText path text = .ok g) : g.readText path = .ok text :=
  readText_eq_ok_iff.mpr ⟨_, read_write (writeText_eq_ok_iff.mp h).2, decodeText_encodeText text⟩

section child

end child

end Files

end PlannerConfig
