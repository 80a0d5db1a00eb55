import PlannerConfig.Files.Load
import PlannerConfig.Proofs.Files

/-!
Steps of work on files. A step that only looks at the files leaves them as they are, and answers by
them alone. A step that writes a file may fail when it has emptied the file already.
-/
namespace PlannerConfig.Work

open PlannerConfig.Text

variable {ε ε' δ α β : Type}

@[simp] lemma runFrom_pure (a : α) (s : Workspace) :
    (pure a : Work ε α).runFrom s = (.ok a, s) := rfl

@[simp] lemma runFrom_throw (e : ε) (s : Workspace) :
    (throw e : Work ε α).runFrom s = (.error e, s) := rfl

@[simp] lemma runFrom_get (s : Workspace) : (get : Work ε Workspace).runFrom s = (.ok s, s) := rfl

@[simp] lemma runFrom_modify (change : Workspace → Workspace) (s : Workspace) :
    (modify change : Work ε Unit).runFrom s = (.ok (), change s) := rfl

@[simp] lemma runFrom_tell (e : Event) (s : Workspace) :
    (tell e : Work ε Unit).runFrom s = (.ok (), { s with events := s.events ++ [e] }) := rfl

lemma runFrom_bind (w : Work ε α) (k : α → Work ε β) (s : Workspace) :
    (w >>= k).runFrom s =
      match w.runFrom s with
      | (.ok a, t) => (k a).runFrom t
      | (.error e, t) => (.error e, t) := by
  show ((ExceptT.bind w k).run).run s = _
  simp only [ExceptT.bind, ExceptT.run, ExceptT.mk, runFrom, StateT.run, bind, StateT.bind,
    ExceptT.bindCont]
  rcases w s with ⟨_ | _, _⟩ <;> rfl

@[simp] lemma runFrom_ask (wrap : δ → ε) (f : Files → Except δ α) (s : Workspace) :
    (ask wrap f).runFrom s = ((f s.files).mapError wrap, s) := by
  unfold ask
  rw [runFrom_bind, runFrom_get]
  cases h : f s.files <;> simp only [h] <;> rfl

section ask

variable {wrap : δ → ε} {f : Files → Except δ α} {s : Workspace}

lemma runFrom_ask_bind_ok {a : α} (h : f s.files = .ok a) (k : α → Work ε β) :
    (ask wrap f >>= k).runFrom s = (k a).runFrom s := by
  rw [runFrom_bind, runFrom_ask, h]
  rfl

end ask

section change

variable {wrap : δ → ε} {f : Files → Except δ Files} {s : Workspace}

lemma runFrom_change_ok {files : Files} (h : f s.files = .ok files) :
    (change wrap f).runFrom s = (.ok (), { s with files }) :=
  runFrom_ask_bind_ok h _

end change

section writeText

variable {wrap : FileError → ε} {path : FilePath} {text : String} {s : Workspace}

/-- That the file was emptied before is not seen once the text is in it. -/
lemma runFrom_writeText {files : Files} (h : s.files.writeText path text = .ok files) :
    (writeText wrap path text).runFrom s = (.ok (), { s with files }) := by
  obtain ⟨hencodable, hwrite⟩ := Files.writeText_eq_ok_iff.mp h
  obtain ⟨place, hplace, hfree, -⟩ := Files.write_eq_ok_iff.mp hwrite
  have hopened : s.files.write path .empty = .ok (s.files.put place .empty) :=
    Files.write_eq_ok_iff.mpr ⟨place, hplace, hfree, rfl⟩
  unfold writeText
  rw [runFrom_bind, runFrom_change_ok hopened]
  refine runFrom_change_ok (Files.writeText_eq_ok_iff.mpr ⟨hencodable, ?_⟩)
  rw [Files.write_write hopened, hwrite]

end writeText

lemma runFrom_adapt (wrap : ε → ε') (w : Work ε α) (s : Workspace) :
    runFrom (ExceptT.adapt wrap w) s
      = ((w.runFrom s).1.mapError wrap, (w.runFrom s).2) := rfl

/-- A step that leaves the files as they are and gives an answer that they alone decide. It may tell
of something. -/
def Observes (w : Work ε α) (answer : Files → Except ε α) : Prop :=
  ∀ s, ∃ events, w.runFrom s = (answer s.files, { s with events := s.events ++ events })

namespace Observes

lemma pure (a : α) : Observes (Pure.pure a : Work ε α) fun _ => .ok a :=
  fun s => ⟨[], by simp⟩

lemma throw (e : ε) : Observes (MonadExcept.throw e : Work ε α) fun _ => .error e :=
  fun s => ⟨[], by simp⟩

lemma tell (events : List Event) : Observes
    (modify fun s => { s with events := s.events ++ events } : Work ε Unit) fun _ => .ok () :=
  fun _ => ⟨events, rfl⟩

lemma ask (wrap : δ → ε) (f : Files → Except δ α) :
    Observes (Work.ask wrap f) fun files => (f files).mapError wrap :=
  fun s => ⟨[], by simp⟩

lemma bind {w : Work ε α} {k : α → Work ε β} {answer : Files → Except ε α}
    {more : α → Files → Except ε β} (hw : Observes w answer) (hk : ∀ a, Observes (k a) (more a)) :
    Observes (w >>= k) fun files => answer files >>= fun a => more a files := by
  intro s
  obtain ⟨events, hevents⟩ := hw s
  rw [runFrom_bind, hevents]
  cases h : answer s.files with
  | error e => exact ⟨events, by simp [h, Bind.bind, Except.bind]⟩
  | ok a =>
    obtain ⟨others, hothers⟩ := hk a { s with events := s.events ++ events }
    exact ⟨events ++ others, by simp [h, hothers, Bind.bind, Except.bind]⟩

lemma adapt {w : Work ε α} {answer : Files → Except ε α} (wrap : ε → ε') (hw : Observes w answer) :
    Observes (ExceptT.adapt wrap w) fun files => (answer files).mapError wrap := by
  intro s
  obtain ⟨events, hevents⟩ := hw s
  exact ⟨events, by rw [runFrom_adapt, hevents]⟩

end Observes

end PlannerConfig.Work
