import PlannerConfig.Proofs.Files
import PlannerConfig.Proofs.Work
import PlannerConfig.Reference.Snapshot

/-!
Checking a reference. Everything is read before anything is written, so the verdict is on the text
that was committed before, and what was written is what the next check finds. The one thing that is
found out too late is a surrogate in the text that is to be written.
-/
namespace PlannerConfig

open PlannerConfig.Text

/-- What a check finds in the files: the committed text, and the one that it generates from the
template. -/
structure Files.Renders (f : Files) (template output : FilePath)
    (table details committed generated : String) : Prop where
  committed : f.committed output = .ok committed
  generated : ∃ source, f.readText template = .ok source
    ∧ fillTemplate source table details = .ok generated

/-- The verdict on a committed text. -/
def verdict (output : FilePath) (committed generated : String) : Except SnapshotError String :=
  if generated = committed then .ok generated
  else .error (.drift ⟨output.text,
    Diff.unified (output.text ++ " (committed)") (output.text ++ " (generated)") committed generated⟩)

@[simp] lemma verdict_self (output : FilePath) (text : String) :
    verdict output text text = .ok text := if_pos rfl

lemma verdict_eq (output : FilePath) (committed generated : String) :
    verdict output committed generated
      = (verify output.text committed generated).mapError .drift >>= fun _ => .ok generated := by
  unfold verdict verify
  split <;> rfl

variable {f g : Files} {template output : FilePath}
  {table details committed generated text : String} {update : Bool} {s t : Workspace}

section files

lemma Files.committed_eq_ok_of_readText (h : f.readText output = .ok text) :
    f.committed output = .ok text := by
  obtain ⟨bytes, hread, -⟩ := Files.readText_eq_ok_iff.mp h
  obtain ⟨place, hplace, hcontents⟩ := Files.read_eq_ok_iff.mp hread
  have hthere : f.hasPath output = .ok true := by
    simp [hasPath, hplace, isThere, isFile, hcontents, pure, Except.pure]
  rw [committed, hthere]
  exact h

/-- Where a reference is committed there is no directory. -/
lemma Files.not_isDirectory_of_committed {place : List String}
    (h : f.committed output = .ok committed) (hplace : f.place output = .ok place) :
    f.isDirectory place = false := by
  obtain ⟨there, hthere, h⟩ := bind_eq_ok.mp h
  simp only [hasPath, hplace, pure, Except.pure, Except.ok.injEq] at hthere
  cases hdirectory : f.isDirectory place with
  | false => rfl
  | true =>
    rw [← hthere, isThere, hdirectory, Bool.or_true, if_pos rfl] at h
    obtain ⟨bytes, hread, -⟩ := readText_eq_ok_iff.mp h
    obtain ⟨place', hplace', hcontents⟩ := read_eq_ok_iff.mp hread
    obtain rfl : place = place' := Except.ok.inj (hplace.symm.trans hplace')
    simp [isDirectory_eq, isFile, hcontents] at hdirectory

/-- Where a reference is committed, and where it may be, a file can be opened. -/
lemma Files.write_of_committed {place : List String} (h : f.committed output = .ok committed)
    (hplace : f.place output = .ok place) (bytes : ByteArray) :
    f.write output bytes = .ok (f.put place bytes) :=
  write_eq_ok_iff.mpr ⟨place, hplace, not_isDirectory_of_committed h hplace, rfl⟩

/-- A path at which a text can be written: it leads somewhere, and the text has no surrogate. -/
structure Files.Accepts (f : Files) (path : FilePath) (text : String) : Prop where
  exists_place : ∃ place, f.place path = .ok place
  encodable : Encodable text

lemma Files.exists_writeText_iff (h : f.committed output = .ok committed) :
    (∃ g, f.writeText output text = .ok g) ↔ f.Accepts output text := by
  simp only [writeText_eq_ok_iff]
  constructor
  · rintro ⟨g, hencodable, hwrite⟩
    obtain ⟨place, hplace, -⟩ := write_eq_ok_iff.mp hwrite
    exact ⟨⟨place, hplace⟩, hencodable⟩
  · rintro ⟨⟨place, hplace⟩, hencodable⟩
    exact ⟨_, hencodable, write_of_committed h hplace _⟩

/-- What was written is what is committed, and the template is still what it was. -/
lemma Files.Renders.writeText (h : f.Renders template output table details committed generated)
    (hne : f.place template ≠ f.place output) (hwrite : f.writeText output generated = .ok g) :
    g.Renders template output table details generated generated where
  committed := committed_eq_ok_of_readText (readText_writeText hwrite)
  generated := by
    obtain ⟨source, hsource, hfill⟩ := h.generated
    have hbytes := (writeText_eq_ok_iff.mp hwrite).2
    exact ⟨source, (readText_write_of_ne hbytes hne).mpr hsource, hfill⟩

end files

section runs

variable {result : Except SnapshotError String}

lemma runFrom_verify (t : Workspace) :
    (do
      Work.ask .drift fun _ => verify output.text committed generated
      return generated : Work SnapshotError String).runFrom t
        = (verdict output committed generated, t) := by
  rw [Work.runFrom_bind, Work.runFrom_ask, verdict_eq]
  cases verify output.text committed generated <;> rfl

/-- How a check goes on when it has its text. -/
lemma runFrom_checkDocumentation
    (h : s.files.Renders template output table details committed generated) :
    (checkDocumentation template output table details update).runFrom s =
      if update then
        match (Work.writeText .file output generated).runFrom s with
        | (.ok _, t) => (verdict output committed generated,
            { t with events := t.events ++ [.wrote output.text] })
        | (.error e, t) => (.error e, t)
      else (verdict output committed generated, s) := by
  obtain ⟨source, hsource, hfill⟩ := h.generated
  unfold checkDocumentation
  rw [Work.runFrom_ask_bind_ok h.committed, Work.runFrom_ask_bind_ok hsource,
    Work.runFrom_ask_bind_ok hfill]
  cases update with
  | false => exact runFrom_verify s
  | true =>
    rw [if_pos rfl, if_pos rfl, Work.runFrom_bind]
    rcases (Work.writeText SnapshotError.file output generated).runFrom s with ⟨e | _, t⟩
    · rfl
    · exact runFrom_verify _

lemma runFrom_checkDocumentation_of_wrote
    (h : s.files.Renders template output table details committed generated) {files : Files}
    (hwrite : s.files.writeText output generated = .ok files) :
    (checkDocumentation template output table details true).runFrom s
      = (verdict output committed generated, { files, events := s.events ++ [.wrote output.text] }) := by
  rw [runFrom_checkDocumentation h, Work.runFrom_writeText hwrite]
  rfl

/-- A check that came to its verdict: on the committed text that it found, with the files as they
were or with the generated text written. -/
structure Concluded (template output : FilePath) (table details : String) (update : Bool)
    (s : Workspace) (result : Except SnapshotError String) (t : Workspace)
    (committed generated : String) : Prop where
  renders : s.files.Renders template output table details committed generated
  result_eq : result = verdict output committed generated
  looked : update = false → t = s
  wrote : update = true → s.files.writeText output generated = .ok t.files

/-- A check comes to its verdict if there is one and the reference can be written where it is to be. -/
lemma fst_runFrom_checkDocumentation
    (h : s.files.Renders template output table details committed generated)
    (haccepts : update = true → s.files.Accepts output generated) :
    ((checkDocumentation template output table details update).runFrom s).1
      = verdict output committed generated := by
  cases update with
  | false =>
    rw [runFrom_checkDocumentation h]
    rfl
  | true =>
    obtain ⟨files, hwrite⟩ := (Files.exists_writeText_iff h.committed).mpr (haccepts rfl)
    rw [runFrom_checkDocumentation_of_wrote h hwrite]

lemma Concluded.accepts (h : Concluded template output table details update s result t
    committed generated) (hupdate : update = true) : s.files.Accepts output generated :=
  (Files.exists_writeText_iff h.renders.committed).mp ⟨_, h.wrote hupdate⟩

/-- After an update the generated text is the committed one, so that every later check accepts it. -/
lemma Concluded.again {u : Workspace} (h : Concluded template output table details true s result t
    committed generated) (hne : s.files.place template ≠ s.files.place output)
    (hfiles : u.files = t.files) (update : Bool) :
    ((checkDocumentation template output table details update).runFrom u).1 = .ok generated := by
  have hwrite := h.wrote rfl
  have hrenders := h.renders.writeText hne hwrite
  rw [← hfiles] at hwrite hrenders
  rw [fst_runFrom_checkDocumentation hrenders, verdict_self]
  intro _
  obtain ⟨⟨place, hplace⟩, hencodable⟩ := h.accepts rfl
  exact ⟨⟨place, (Files.place_write (Files.writeText_eq_ok_iff.mp hwrite).2).mpr hplace⟩, hencodable⟩

end runs

end PlannerConfig
