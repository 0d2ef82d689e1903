import SellerApi.Proofs.Command.Task
import SellerApi.Proofs.Storage.Disk

/-! # Sinks and the end of a run

To open a sink creates the output file. Whatever is written then, what lies aside of the disk and
the standard output stays as it is (`Session.Aside`). A run ends as its task does, unless the
resource did not change.
-/

namespace SellerApi.Command

open SellerApi.Http SellerApi.Json SellerApi.Resource SellerApi.Text

/-! ## Opening -/

section

variable {s : Session} {path : String} {d : Disk}

theorem openSink_none : openSink none s = (.ok (), s) := rfl

theorem openSink_ok (h : s.disk.create path = .ok d) :
    openSink (some path) s = (.ok (), { s with disk := d }) := by
  simp only [openSink, Run.onDisk, h]

theorem openSink_error {fault : PathFault} (h : s.disk.create path = .error fault) :
    openSink (some path) s = (.error ((Failure.storage fault.message).within
      ("Failed to create output file '" ++ path ++ "'")), s) := by
  simp only [openSink, Run.onDisk, h]

end

/-! ## What output leaves alone -/

/-- A step does not change what is seen of a session. -/
def Run.Keeps {α β : Type} (step : Run α) (view : Session → β) : Prop :=
  ∀ s, view (step s).2 = view s

theorem Run.Keeps.bind {α β γ : Type} {step : Run α} {next : α → Run β} {view : Session → γ}
    (hstep : step.Keeps view) (hnext : ∀ x, (next x).Keeps view) : (step >>= next).Keeps view := by
  intro s
  rcases h : step s with ⟨f | x, s'⟩
  · rw [Run.bind_error h, ← hstep s, h]
  · rw [Run.bind_ok h, hnext, ← hstep s, h]

/-- What is seen of a session if one looks neither at its disk nor at its standard output. -/
structure Session.Aside {β : Type} (view : Session → β) : Prop where
  disk : ∀ s disk, view { s with disk } = view s
  stdout : ∀ s stdout, view { s with stdout } = view s

theorem Session.aside_log : Aside (·.log) := ⟨fun _ _ => rfl, fun _ _ => rfl⟩

theorem Session.aside_link : Aside (·.link) := ⟨fun _ _ => rfl, fun _ _ => rfl⟩

section

variable {β : Type} {view : Session → β} (h : Session.Aside view)
include h

theorem openSink_keeps (sink : Sink) : (openSink sink).Keeps view := by
  intro s
  cases sink with
  | none => rfl
  | some path =>
    rcases hcreate : s.disk.create path with fault | d
    · rw [openSink_error hcreate]
    · rw [openSink_ok hcreate, h.disk]

theorem writeOctets_keeps (sink : Sink) (octets : List UInt8) :
    (writeOctets sink octets).Keeps view := by
  intro s
  cases sink with
  | none => exact h.stdout s _
  | some path => exact h.disk s _

namespace Invocation

variable (i : Invocation)

theorem emitValue_keeps (v : Value) : (i.emitValue v).Keeps view := by
  refine (openSink_keeps h _).bind fun _ => ?_
  cases i.format with
  | csv | parquet => exact fun _ => rfl
  | json | jsonl | pretty => exact writeOctets_keeps h _ _

theorem emitItems_keeps (vs : List Value) : (i.emitItems vs).Keeps view := by
  unfold emitItems
  split
  · exact (openSink_keeps h _).bind fun _ => writeOctets_keeps h _ _
  · exact i.emitValue_keeps h _

theorem emitPage_keeps {α : Type} [Wire α] (page : Page α) : (i.emitPage page).Keeps view := by
  unfold emitPage
  split
  · exact i.emitItems_keeps h _
  · exact i.emitValue_keeps h _

theorem emitText_keeps (text : Except Failure String) : (i.emitText text).Keeps view :=
  (openSink_keeps h _).bind fun _ =>
    Run.Keeps.bind (fun _ => rfl) fun _ => writeOctets_keeps h _ _

end Invocation

end

theorem Invocation.emitPage_log {α : Type} [Wire α] (i : Invocation) (page : Page α) (s : Session) :
    (i.emitPage page s).2.log = s.log :=
  i.emitPage_keeps Session.aside_log page s

/-! ## The end of a run -/

variable [Yaml.Wording]

/-- The end of a run touches the standard error output at most. -/
theorem Invocation.view_run {β : Type} {view : Session → β}
    (h : ∀ s stderr, view { s with stderr } = view s) (i : Invocation) (e : Environment)
    (s : Session) : view (i.run e s).2 = view (i.execute e s).2 := by
  unfold run
  split
  · next h' => rw [h', h]
  · rfl

theorem Invocation.run_log (i : Invocation) (e : Environment) (s : Session) :
    (i.run e s).2.log = (i.execute e s).2.log :=
  view_run (fun _ _ => rfl) i e s

namespace Invocation

variable {i : Invocation} {e : Environment} {s s' : Session}

theorem run_of_execute_ok (h : i.execute e s = (.ok (), s')) :
    i.run e s = (.ok (), s') := by
  unfold run
  rw [h]

theorem run_of_execute_error {f : Failure}
    (h : i.execute e s = (.error f, s')) (hf : f.isNotModified = false) :
    i.run e s = (.error f, s') := by
  unfold run
  rw [h]
  cases f with
  | notModified headers => contradiction
  | _ => rfl

end Invocation
end SellerApi.Command
