import EdgeWorker.Proofs.Worker.Answer

/-!
The lines about requests.

* `line_spec` — a worker writes lines of entries whose fields have names of their own, and such a line has no line break
  and says just what the entry says, whatever the paths and the errors in it are, so that no line can be taken for another
  one.
-/

namespace EdgeWorker.Log

open EdgeWorker.Host EdgeWorker.Json

/-- The lines that a worker writes about a request are those of entries with fields of other names than a line has for
itself. The text of an entry of this kind, if the values of its fields are kept exactly, has no control characters, is read
as the object of all that the entry says, and is that of no other such entry. -/
theorem line_spec : (∀ (w : Worker) (r : Http.Request), Asks (Question.Plain w.config.logFormat) (w.answer r)) ∧
    ∀ e : Entry, e.Exact → OneLine e.json.toList ∧ (∃ v, Value.ofText? e.json = some v ∧ v.Holds e.Says) ∧
      ∀ e' : Entry, e'.Exact → e.json = e'.json → e = e' :=
  ⟨fun w r => w.plain_answer r, fun _ h => ⟨h.oneLine_json, h.ofText?_json, fun _ h' => h.json_injective h'⟩⟩

/-- An entry with a message that is made to look like the end of one line and the beginning of another. -/
def forged : Entry :=
  ⟨.warn, "no route\",\"route\":\"/\"\n", "r", some "/\"", [("error", .string "\r\n"), ("status", .nat 404)], some 7⟩

/-- An entry with the message and the route that the other one is made to look like it has. -/
def honest : Entry := ⟨.warn, "no route", "r", some "/", [("status", .array [.null, .nat 404])], none⟩

theorem line_spec_of_forged : forged.Exact ∧ honest.Exact ∧ OneLine forged.json.toList ∧ forged.json ≠ honest.json := by
  have hforged : forged.Exact := by
    refine ⟨⟨by unfold forged; decide +kernel, by simp [forged, Entry.reserved]⟩, ?_, by simp [forged]⟩
    simp only [forged, List.forall_mem_cons, List.not_mem_nil, false_implies, implies_true, and_true]
    exact ⟨.string _, .int (by decide) (by decide)⟩
  have hhonest : honest.Exact := by
    refine ⟨⟨by simp [honest], by simp [honest, Entry.reserved]⟩, ?_, by simp [honest]⟩
    simp only [honest, List.forall_mem_cons, List.not_mem_nil, false_implies, implies_true, and_true]
    refine .array ?_
    simp only [List.forall_mem_cons, List.not_mem_nil, false_implies, implies_true, and_true]
    exact ⟨.null, .int (by decide) (by decide)⟩
  obtain ⟨hline, -, hother⟩ := line_spec.2 forged hforged
  exact ⟨hforged, hhonest, hline, fun he => absurd (congrArg Entry.message (hother honest hhonest he)) (by decide)⟩

end EdgeWorker.Log
