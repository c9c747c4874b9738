/-
  Which bad configurations are reported as such.

  A document that could be read gives settings whose static fields can be written, or is reported as a
  bad configuration, with two exceptions: a key of the outermost mapping that is no text, and a global
  part that is no mapping where the environment has something to say.

  * `Reported r`: settings whose static fields can be written, or the report of a bad configuration;
  * `Document.Takes d env`: the two exceptions do not arise;
  * `load_reported_iff`: so a load is reported iff they do not, and otherwise fails with an error of
    types.
-/
import MetricDocs.Proofs.Config.Documents
import MetricDocs.Proofs.Config.Unfolding

namespace MetricDocs

/-- The kind of an error: problems of values are reported as a bad configuration. -/
def SettingsError.kind : SettingsError → FailureKind
  | .failure f => f.kind
  | .problems _ => .configuration

/-- Settings whose static fields can be written, or the report of a bad configuration. -/
def Reported : Except SettingsError Settings → Prop
  | .ok s => ∃ text, StaticFields.encode (.mapping s.staticFields) = .ok text
  | .error e => e.kind = .configuration

/-- The kind of the error that a load ends with, if it does. -/
def errorKind? : Except SettingsError Settings → Option FailureKind
  | .ok _ => none
  | .error e => some e.kind

theorem not_reported_of_errorKind?_eq_type {r : Except SettingsError Settings}
    (h : errorKind? r = some .type) : ¬ Reported r := by
  cases r with
  | ok s => cases h
  | error e =>
    intro hreport
    cases (Option.some.inj h).symm.trans hreport

/-- Every key of the outermost mapping is a text, and its global part, if there is one, can take what
    an environment says. -/
structure Yaml.Document.Takes (d : Document) (env : Environment) : Prop where
  keys : ∀ root fields, d.rootFields? = some (root, fields) → textKeys fields = true
  global : env.overrides ≠ [] → ∀ root fields p, d.rootFields? = some (root, fields) →
    Fields.get? fields globalKey = some p → (d.collections.entries? p).isSome = true

theorem Yaml.Document.takes_iff {d : Document} {env : Environment} :
    d.Takes env ↔ ∀ r ∈ d.rootFields?, textKeys r.2 = true ∧ (env.overrides ≠ [] →
      ∀ p ∈ Fields.get? r.2 globalKey, (d.collections.entries? p).isSome = true) := by
  constructor
  · rintro ⟨hkeys, hglobal⟩ ⟨root, fields⟩ hroot
    exact ⟨hkeys root fields hroot, fun hne p hp => hglobal hne root fields p hroot hp⟩
  · intro h
    exact ⟨fun root fields hroot => (h _ hroot).1,
      fun hne root fields p hroot hp => (h _ hroot).2 hne p hp⟩

instance (d : Yaml.Document) (env : Environment) : Decidable (d.Takes env) :=
  decidable_of_iff _ Yaml.Document.takes_iff.symm

section
variable {d d' : Yaml.Document} {env : Environment} {path : String} {bytes : List UInt8}
variable {root : ℕ} {fields : List (Key × Yaml.Part)}

theorem ofDocument_of_not_textKeys (h : textKeys fields = false) :
    Settings.ofDocument d fields = .error (.failure .keyNotText) := by
  rw [Settings.ofDocument, Settings.ofEntries, h]
  rfl

theorem reported_ofDocument (h : textKeys fields = true) :
    Reported (Settings.ofDocument d fields) := by
  rw [Settings.ofDocument, Settings.ofEntries, h]
  rcases partsOf d.collections.opening fields with ps | ⟨global, _ | entries⟩
  · exact (rfl : (SettingsError.problems ps).kind = .configuration)
  · exact ⟨_, rfl⟩
  · show Reported (do
      return Settings.mk global (← ((Yaml.unfoldFields d.collections entries).mapError
        .staticFields).mapError .failure))
    rcases hunfold : Yaml.unfoldFields d.collections entries with f | statics
    · exact (rfl : (Failure.staticFields f).kind = .configuration)
    · exact Yaml.exists_encode_of_unfoldFields hunfold

theorem exists_encode_of_load {look : String → Found} {s : Settings}
    (h : Settings.load look path env = .ok s) :
    ∃ text, StaticFields.encode (.mapping s.staticFields) = .ok text := by
  obtain ⟨-, -, d, -, -, -, -, -, -, hs⟩ := exists_document_of_load h
  have hreport := @reported_ofDocument d _ (Settings.ofDocument_eq_ok hs).1
  rwa [hs] at hreport

/-! ## Documents under an environment -/

theorem ofFile_eq (env : Environment) (path : String) (hparse : Yaml.parse (.ofFile bytes) = .ok d) :
    Settings.ofFile path bytes env =
      ((configured path d).bind fun d => d.under env).mapError .failure >>= fun d =>
        Settings.ofDocument d (d.rootFields?.elim [] Prod.snd) := by
  rw [Settings.ofFile, configuration, hparse]
  rfl

/-- A mapping takes what the environment says and keeps its kinds of keys, or it is the global part
    that cannot take it. -/
theorem under_cases (env : Environment) (hroot : d.rootFields? = some (root, fields)) :
    (∃ d' fields', d.under env = .ok d' ∧ d'.rootFields? = some (root, fields') ∧
      textKeys fields' = textKeys fields ∧ (d.Takes env ↔ textKeys fields = true)) ∨
      ∃ f, d.under env = .error f ∧ f.kind = .type ∧ ¬ d.Takes env := by
  have hkeys : d.Takes env → textKeys fields = true := fun h => h.keys root fields hroot
  have htakes : (env.overrides ≠ [] → ∀ p, Fields.get? fields globalKey = some p →
      (d.collections.entries? p).isSome = true) → textKeys fields = true → d.Takes env := by
    intro hglobal htext
    constructor
    · intro root' fields' hroot'
      cases hroot.symm.trans hroot'
      exact htext
    · intro hne root' fields' p hroot' hp
      cases hroot.symm.trans hroot'
      exact hglobal hne p hp
  rw [Yaml.Document.under, hroot]
  rcases henv : env.overrides with _ | ⟨o, os⟩
  · exact .inl ⟨d, fields, rfl, hroot, rfl, hkeys, htakes fun hne => absurd henv hne⟩
  · rcases Yaml.override_cases d root fields (o :: os) with
      ⟨d', fields', hok, hd'⟩ | ⟨f, p, herror, hf, hget, hp⟩
    · exact .inl ⟨d', fields', hok, hd'.rootFields? hroot, hd'.textKeys_eq, hkeys,
        htakes fun _ p hp => hd'.isSome_entries? hp⟩
    · refine .inr ⟨f, herror, hf, fun h => ?_⟩
      have hsome := h.global (henv ▸ List.cons_ne_nil _ _) root fields p hroot hget
      rw [hp] at hsome
      cases hsome

theorem takes_of_rootFields?_eq_none (env : Environment) (hroot : d.rootFields? = none) :
    d.Takes env := by
  constructor
  · intro root fields h
    cases hroot.symm.trans h
  · intro _ root fields p h
    cases hroot.symm.trans h

theorem takes_empty (env : Environment) : Yaml.Document.empty.Takes env := by
  constructor
  · rintro _ _ ⟨⟩
    rfl
  · rintro - _ _ _ ⟨⟩ h
    cases h

theorem reported_under_iff (env : Environment) (hroot : d.rootFields? = some (root, fields)) :
    let r := (d.under env).mapError .failure >>= fun d =>
      Settings.ofDocument d (d.rootFields?.elim [] Prod.snd)
    (Reported r ↔ d.Takes env) ∧ (¬ d.Takes env → errorKind? r = some .type) := by
  rcases under_cases env hroot with ⟨d', fields', hok, hroot', htext, hiff⟩ | ⟨f, herror, hf, hnot⟩
  · have hr : (d.under env).mapError SettingsError.failure >>= (fun d =>
        Settings.ofDocument d (d.rootFields?.elim [] Prod.snd)) = Settings.ofDocument d' fields' := by
      rw [hok]
      show Settings.ofDocument d' (d'.rootFields?.elim [] Prod.snd) = _
      rw [hroot']
      rfl
    simp only [hr, hiff, ← htext]
    cases h : textKeys fields' with
    | true => exact ⟨iff_of_true (reported_ofDocument h) rfl, fun hnot => absurd rfl hnot⟩
    | false =>
      rw [ofDocument_of_not_textKeys h]
      exact ⟨iff_of_false (fun hreport => nomatch hreport) Bool.false_ne_true, fun _ => rfl⟩
  · rw [herror]
    have htype : errorKind? (.error (.failure f)) = some .type := congrArg some hf
    exact ⟨iff_of_false (not_reported_of_errorKind?_eq_type htype) hnot, fun _ => htype⟩

/-! ## The main theorem -/

/-- **Which configurations are reported.**  Of a file whose text can be read as a document, whatever
    that says and whatever the environment says, settings come whose static fields can be written, or
    the report of a bad configuration, exactly if the document takes the environment.  If it does not,
    the load fails with an error of types. -/
theorem load_reported_iff {look : String → Found} (hfile : look path = .file bytes)
    (hparse : Yaml.parse (.ofFile bytes) = .ok d) :
    (Reported (Settings.load look path env) ↔ d.Takes env) ∧
      (¬ d.Takes env → errorKind? (Settings.load look path env) = some .type) := by
  have hload : Settings.load look path env = Settings.ofFile path bytes env := by
    rw [Settings.load, hfile]
  rw [hload, ofFile_eq env path hparse, configured]
  rcases hroot : d.rootFields? with _ | ⟨root, fields⟩
  · have htakes : d.Takes env := takes_of_rootFields?_eq_none env hroot
    refine ⟨iff_of_true ?_ htakes, fun hnot => absurd htakes hnot⟩
    simp only [Option.isSome_none, Bool.false_eq_true, if_false]
    split_ifs with hvacant
    · exact (reported_under_iff env rfl).1.2 (takes_empty env)
    · exact (rfl : (Failure.rootNotMapping path).kind = .configuration)
  · exact reported_under_iff env hroot

end

/-- The environment goes into a global part with an interval below zero, and that is reported. -/
theorem negativeInterval_reported :
    ∃ d, Yaml.parse (.ofFile "global:\n  emit_interval_s: -1\n".toUTF8.toList) = .ok d ∧
      d.Takes ⟨"DEBUG", ""⟩ ∧
      Reported (Settings.ofText "global:\n  emit_interval_s: -1\n" ⟨"DEBUG", ""⟩) := by
  obtain ⟨d, hparse, htakes⟩ := exists_ok_of_any
    (p := fun d : Yaml.Document => decide (d.Takes ⟨"DEBUG", ""⟩))
    (r := Yaml.parse (.ofFile "global:\n  emit_interval_s: -1\n".toUTF8.toList)) (by decide +kernel)
  have htakes := of_decide_eq_true htakes
  exact ⟨d, hparse, htakes, (load_reported_iff rfl hparse).1.2 htakes⟩

/-- A number as an outermost key is not reported as a bad configuration, nor is a global part without a
    value where the environment names a level. -/
theorem numberKey_nullGlobal_not_reported :
    ((Yaml.parse (.ofFile "1: 2\n".toUTF8.toList)).toOption.isSome = true ∧
      ¬ Reported (Settings.ofText "1: 2\n" .empty)) ∧
    (Yaml.parse (.ofFile "global:\n".toUTF8.toList)).toOption.isSome = true ∧
      ¬ Reported (Settings.ofText "global:\n" ⟨"DEBUG", ""⟩) := by
  refine ⟨⟨by decide +kernel, ?_⟩, by decide +kernel, ?_⟩
  · exact not_reported_of_errorKind?_eq_type (by decide +kernel)
  · exact not_reported_of_errorKind?_eq_type (by decide +kernel)

end MetricDocs
