import Hypermedia.Manifest.Report
import Hypermedia.Proofs.Attribute.Json

/-!
The JSON form of reports. It tells a report apart from every other one that
shows something else: a name, a value, whether it could be read, what was read,
or the message and the place of the fault.
-/

namespace Hypermedia

namespace Manifest

/-- What a report is to show. A fault is known by its message and its place. -/
def Report.shown (report : Report) :
    String × String × Except (String × Position) Attribute.Value :=
  (report.name, report.value,
    match report.outcome with
    | .ok value => .ok value
    | .error e => .error (e.message, e.position))

theorem faultJson_inj {e f : ParseError} :
    faultJson e = faultJson f ↔ e.message = f.message ∧ e.position = f.position := by
  constructor
  · intro h
    simp only [faultJson, Json.object.injEq, List.cons.injEq, Prod.mk.injEq, Json.text.injEq,
      true_and, and_true] at h
    exact ⟨h.1, Position.json_injective h.2⟩
  · rintro ⟨hmessage, hposition⟩
    rw [faultJson, faultJson, hmessage, hposition]

theorem Report.json_inj {report other : Report} :
    report.json = other.json ↔ report.shown = other.shown := by
  obtain ⟨name, value, outcome⟩ := report
  obtain ⟨name', value', outcome'⟩ := other
  have hkind : ∀ v w : Attribute.Value, v.kindJson = w.kindJson ↔ v = w :=
    fun _ _ => ⟨Attribute.Value.kindJson_injective, congrArg _⟩
  cases outcome <;> cases outcome' <;>
    simp [Report.json, Report.shown, faultJson_inj, hkind]

theorem map_json_inj {reports others : List Report} :
    reports.map Report.json = others.map Report.json ↔
      reports.map Report.shown = others.map Report.shown := by
  induction reports generalizing others with
  | nil => simp
  | cons report reports ih => cases others <;> simp [Report.json_inj, ih]

theorem printed_json_inj {reports others : List Report} :
    printed .json reports = printed .json others ↔
      reports.map Report.shown = others.map Report.shown := by
  rw [← map_json_inj]
  constructor
  · intro h
    exact Json.array.inj (Json.pretty_injective ((String.append_left_inj _).mp h))
  · intro h
    rw [printed, printed, h]

end Manifest

/-- Nothing gets lost where output is JSON. From the text for a value of any kind
the value is known. From the text for reports it is known how many there are and
what each of them shows. -/
theorem json_output_loses_nothing :
    (∀ value other : Attribute.Value,
      value.printed .json = other.printed .json ↔ value = other) ∧
    ∀ reports others : List Manifest.Report,
      Manifest.printed .json reports = Manifest.printed .json others ↔
        reports.map Manifest.Report.shown = others.map Manifest.Report.shown :=
  ⟨fun _ _ => Attribute.Value.printed_json_inj, fun _ _ => Manifest.printed_json_inj⟩

end Hypermedia
