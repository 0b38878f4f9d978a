import Mathlib.Data.List.Forall2
import Hypermedia.Proofs.CommandLine.Session
import Hypermedia.Proofs.Text.Lines

/-!
Checking a manifest against reading its values one at a time. Both ways start
from the same settings, so they agree on which values can be read, and the
report in the plain format can be put together from what the single runs say.
-/

namespace Hypermedia.CommandLine

open FileTree

/-- What a run complains about, behind the name of the program. -/
def Outcome.complaint (single : Outcome) : String :=
  (behind? "hxa: " single.diagnostics).getD ""

/-- An entry and the run for its value alone, the way a batch reports them. -/
def Outcome.reported (entry : Manifest.Entry) (single : Outcome) : String :=
  if single.code = 0 then "ok    " ++ entry.name ++ "=\"" ++ entry.value ++ "\"\n"
  else
    "FAIL  " ++ entry.name ++ "=\"" ++ entry.value ++ "\"\n" ++
      String.join ((Text.lines single.complaint).map fun line => "      " ++ line ++ "\n")

/-- Entries and the runs for their values, one report after another, and the
line below them. -/
def batchReport (entries : List Manifest.Entry) (singles : List Outcome) : String :=
  String.join (List.zipWith Outcome.reported entries singles) ++ "\n" ++
    toString entries.length ++ " checked, " ++
    toString (singles.countP fun single => single.code ≠ 0) ++ " failed\n"

section Values

variable {settings others : Settings}

theorem behind?_append (start text : String) : behind? start (start ++ text) = some text := by
  unfold behind?
  rw [String.toList_append, if_pos (by simp), List.drop_left, String.ofList_toList]

/-- The picture of a fault ends with the caret. -/
theorem lines_render (e : ParseError) (text : String) :
    Text.lines (e.render text ++ "\n") = Text.lines (e.render text) := by
  have hcaret : (e.render text).toList.getLast? = some '^' := by
    unfold ParseError.render
    rw [String.toList_append]
    exact List.getLast?_concat
  exact Text.lines_append_feed hcaret (by decide) (by decide)

/-- A single value fails where its report in a manifest is a bad one. -/
theorem parseValue_code (h : settings.swap = others.swap) (entry : Manifest.Entry) :
    (parseValue others entry.kind entry.value).code =
      if (entry.report settings.swap).isGood then 0 else 1 := by
  unfold parseValue Manifest.Entry.report Manifest.Report.isGood
  rw [h]
  cases Attribute.parse entry.kind others.swap entry.value <;> rfl

/-- A single value that fails is complained about behind the name of the
program. -/
theorem diagnostics_parseValue {kind : Attribute.Kind} {text : String}
    (h : (parseValue settings kind text).code ≠ 0) :
    (parseValue settings kind text).diagnostics =
      "hxa: " ++ (parseValue settings kind text).complaint := by
  unfold parseValue at h ⊢
  split
  next hparse => simp [hparse, Outcome.good] at h
  next e _ =>
    unfold Outcome.complaint
    rw [String.append_assoc, behind?_append]
    rfl

theorem reported_parseValue (h : settings.swap = others.swap) (entry : Manifest.Entry) :
    (parseValue others entry.kind entry.value).reported entry =
      (entry.report settings.swap).written := by
  unfold parseValue Manifest.Entry.report Manifest.Report.written
  rw [h]
  cases Attribute.parse entry.kind others.swap entry.value with
  | ok value => simp [Outcome.reported, Outcome.good, Manifest.Report.heading, String.append_assoc]
  | error e =>
      have hcomplaint : Outcome.complaint ⟨1, "", "hxa: " ++ (e.render entry.value ++ "\n")⟩ =
          e.render entry.value ++ "\n" := by
        unfold Outcome.complaint
        rw [behind?_append]
        rfl
      simp [Outcome.reported, hcomplaint, lines_render, Manifest.Report.heading,
        String.append_assoc]

/-- The outcome of a check, put together from the runs for the single values. -/
theorem checkManifest_eq (h : settings.swap = others.swap) (manifest : Manifest) :
    (checkManifest settings manifest).code =
        (if (manifest.entries.map fun entry => parseValue others entry.kind entry.value).all
          (·.code = 0) then 0 else 1) ∧
      (settings.format = .pretty → (checkManifest settings manifest).output =
        batchReport manifest.entries
          (manifest.entries.map fun entry => parseValue others entry.kind entry.value)) := by
  have hfails : ∀ entry : Manifest.Entry,
      (entry.report settings.swap).isGood =
        decide ((parseValue others entry.kind entry.value).code = 0) := by
    intro entry
    rw [parseValue_code h]
    cases (entry.report settings.swap).isGood <;> rfl
  constructor
  · simp only [checkManifest, Manifest.check, List.all_map, Function.comp_def, hfails]
  · intro hpretty
    have hreports : List.zipWith Outcome.reported manifest.entries
        (manifest.entries.map fun entry => parseValue others entry.kind entry.value) =
        (manifest.check settings.swap).map Manifest.Report.written := by
      rw [List.zipWith_map_right, List.zipWith_self, Manifest.check, List.map_map]
      exact List.map_congr_left fun entry _ => reported_parseValue h entry
    have hcount : (manifest.check settings.swap).countP (fun report => !report.isGood) =
        (manifest.entries.map fun entry => parseValue others entry.kind entry.value).countP
          fun single => single.code ≠ 0 := by
      simp only [Manifest.check, List.countP_map, Function.comp_def, hfails, decide_not]
    have hlength : (manifest.check settings.swap).length = manifest.entries.length :=
      List.length_map _
    simp only [checkManifest, hpretty, Manifest.printed, Manifest.summary, batchReport, hreports,
      hcount, hlength, String.append_assoc]

end Values

section Settings

variable {tree : FileTree} {root : String} {format : Option String} {settings : Settings}

theorem attempt_settingsFor (h : (tree.attempt (settingsFor root format)).1 = .ok settings) :
    tree.attempt (settingsFor root format) = (.ok settings, tree) :=
  attempt_of_readsAlike (readsAlike_settingsFor (Settings.readsAlike_load rfl) format) h

/-- A format among the arguments takes nothing away from the defaults in the
settings file. -/
theorem swap_of_settingsFor (h : (tree.attempt (settingsFor root format)).1 = .ok settings) :
    ∃ loaded, tree.attempt (Settings.load root) = (.ok loaded, tree) ∧
      settings.swap = loaded.swap := by
  have hload : tree.attempt (Settings.load root) = ((tree.attempt (Settings.load root)).1, tree) :=
    attempt_of_readsAlike (Settings.readsAlike_load rfl) rfl
  unfold settingsFor at h
  rw [attempt_bind, hload] at h
  cases hresult : (tree.attempt (Settings.load root)).1 with
  | error failure => simp [hresult] at h
  | ok loaded =>
      refine ⟨loaded, hload.trans (by rw [hresult]), ?_⟩
      simp only [hresult] at h
      split at h
      · obtain rfl : loaded = settings := by simpa using h
        rfl
      · split at h
        · cases h
          rfl
        · simp at h

theorem attempt_parse (h : (tree.attempt (settingsFor root format)).1 = .ok settings)
    (kind : Attribute.Kind) (text : String) :
    tree.attempt ((Command.parse kind text format).run root) =
      (.ok (parseValue settings kind text), tree) := by
  unfold Command.run
  rw [attempt_bind, attempt_settingsFor h]
  rfl

theorem attempt_check (h : (tree.attempt (settingsFor root format)).1 = .ok settings)
    {file : String} {manifest : Manifest}
    (hmanifest : (tree.attempt (Manifest.load file)).1 = .ok manifest) :
    tree.attempt ((Command.check file format).run root) =
      (.ok (checkManifest settings manifest), tree) := by
  unfold Command.run
  rw [attempt_bind, attempt_settingsFor h]
  dsimp only
  rw [attempt_bind, attempt_of_readsAlike (Manifest.readsAlike_load rfl) hmanifest]
  rfl

end Settings

/-- With settings that load and a manifest that loads, a check in any format
succeeds where all runs for the single values do, in any format that these use,
and otherwise fails. In the plain format it prints for each entry what the run
for its value says about it, in order, and counts the runs that fail. -/
theorem check_agrees_with_single_values {tree : FileTree} {root file : String}
    {format other : Option String} {settings others : Settings} {manifest : Manifest}
    (hsettings : (tree.attempt (settingsFor root format)).1 = .ok settings)
    (hothers : (tree.attempt (settingsFor root other)).1 = .ok others)
    (hmanifest : (tree.attempt (Manifest.load file)).1 = .ok manifest) :
    ∃ outcome singles,
      tree.attempt ((Command.check file format).run root) = (.ok outcome, tree) ∧
      List.Forall₂ (fun (entry : Manifest.Entry) single =>
        tree.attempt ((Command.parse entry.kind entry.value other).run root) =
          (.ok single, tree)) manifest.entries singles ∧
      (∀ single ∈ singles, single.code ≠ 0 →
        single.diagnostics = "hxa: " ++ single.complaint) ∧
      outcome.code = (if ∀ single ∈ singles, single.code = 0 then 0 else 1) ∧
      (settings.format = .pretty → outcome.output = batchReport manifest.entries singles) := by
  have hswap : settings.swap = others.swap := by
    obtain ⟨loaded, hloaded, hfirst⟩ := swap_of_settingsFor hsettings
    obtain ⟨again, hagain, hsecond⟩ := swap_of_settingsFor hothers
    rw [hloaded] at hagain
    obtain rfl : loaded = again := by simpa using hagain
    rw [hfirst, hsecond]
  obtain ⟨hcode, hpretty⟩ := checkManifest_eq hswap manifest
  refine ⟨_, _, attempt_check hsettings hmanifest, ?_, ?_, ?_, hpretty⟩
  · rw [List.forall₂_map_right_iff, List.forall₂_same]
    exact fun entry _ => attempt_parse hothers entry.kind entry.value
  · intro single hsingle
    obtain ⟨entry, -, rfl⟩ := List.mem_map.mp hsingle
    exact diagnostics_parseValue
  · rw [hcode]
    simp only [List.all_eq_true, decide_eq_true_eq]

/-- A tree with settings that ask for JSON and a manifest of two values, the
second of them with a fault. -/
def mixedManifest : FileTree :=
  ofList [("root/config.toml", .text "format = \"json\"\n[swap]\nsettle_delay = 20\n"),
    ("m.toml", .text ("[[attribute]]\nname = \"hx-swap\"\nvalue = \"outerHTML\"\n" ++
      "[[attribute]]\nname = \"hx-sync\"\nvalue = \"never\"\n"))]

/-- A check in the plain format against single runs that print JSON. The run for
the second value fails, and so does the check, which shows the same fault. -/
theorem check_agrees_with_single_values_on_mixed_manifest :
    ∃ outcome singles,
      mixedManifest.attempt ((Command.check "m.toml" (some "pretty")).run "root") =
        (.ok outcome, mixedManifest) ∧
      List.Forall₂ (fun (entry : Manifest.Entry) single =>
        mixedManifest.attempt ((Command.parse entry.kind entry.value none).run "root") =
          (.ok single, mixedManifest))
        [⟨.swap, "hx-swap", "outerHTML"⟩, ⟨.sync, "hx-sync", "never"⟩] singles ∧
      outcome.output = batchReport
        [⟨.swap, "hx-swap", "outerHTML"⟩, ⟨.sync, "hx-sync", "never"⟩] singles ∧
      singles.map Outcome.code = [0, 1] ∧
      outcome = ⟨1, "ok    hx-swap=\"outerHTML\"\nFAIL  hx-sync=\"never\"\n" ++
        "      1:1: invalid modifier 'never'\n        never\n        ^\n" ++
        "\n2 checked, 1 failed\n", ""⟩ := by
  have hsettings : (mixedManifest.attempt (settingsFor "root" (some "pretty"))).1 =
      .ok ⟨"root", .pretty, ⟨.innerHTML, .zero, ⟨20, by decide⟩⟩⟩ := by decide +kernel
  have hothers : (mixedManifest.attempt (settingsFor "root" none)).1 =
      .ok ⟨"root", .json, ⟨.innerHTML, .zero, ⟨20, by decide⟩⟩⟩ := by decide +kernel
  have hmanifest : (mixedManifest.attempt (Manifest.load "m.toml")).1 =
      .ok ⟨[⟨.swap, "hx-swap", "outerHTML"⟩, ⟨.sync, "hx-sync", "never"⟩]⟩ := by decide +kernel
  obtain ⟨outcome, singles, hcheck, hsingles, -, -, hpretty⟩ :=
    check_agrees_with_single_values hsettings hothers hmanifest
  refine ⟨outcome, singles, hcheck, hsingles, hpretty rfl, ?_, ?_⟩
  · have hgood : ((mixedManifest.attempt ((Command.parse .swap "outerHTML" none).run "root")).1.map
        Outcome.code) = .ok 0 := by decide +kernel
    have hbad : ((mixedManifest.attempt ((Command.parse .sync "never" none).run "root")).1.map
        Outcome.code) = .ok 1 := by decide +kernel
    cases hsingles with
    | cons hfirst hrest =>
        cases hrest with
        | cons hsecond hnone =>
            cases hnone
            rw [hfirst] at hgood
            rw [hsecond] at hbad
            rw [List.map_cons, List.map_cons, Except.ok.inj hgood, Except.ok.inj hbad]
            rfl
  · have hrun : (mixedManifest.attempt ((Command.check "m.toml" (some "pretty")).run "root")).1 =
        .ok ⟨1, "ok    hx-swap=\"outerHTML\"\nFAIL  hx-sync=\"never\"\n" ++
          "      1:1: invalid modifier 'never'\n        never\n        ^\n" ++
          "\n2 checked, 1 failed\n", ""⟩ := by decide +kernel
    rw [hcheck] at hrun
    exact Except.ok.inj hrun

end Hypermedia.CommandLine
