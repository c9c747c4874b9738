/-
  What an environment changes in the settings.

  The environment's texts are put into the global part of a document before anything is read from it.
  The fields that it sets have what it says.  The others stay as they are, unless the document has no
  part of that name but one of the other name, or the static fields lead to the part that was changed.

  * `GlobalSettings.AgreeOutside env g g'`: the fields that `env` does not set agree;
  * `overriding_frame`: what a load under an environment leaves as it is.
-/
import MetricDocs.Proofs.Config.StaticEntries

namespace MetricDocs

/-- Global settings agree in the fields that an environment does not set. -/
structure GlobalSettings.AgreeOutside (env : Environment) (g g' : GlobalSettings) : Prop where
  logLevel : env.logLevel = "" → g'.logLevel = g.logLevel
  logFormat : g'.logFormat = g.logFormat
  emitInterval : env.emitInterval = "" → g'.emitInterval = g.emitInterval

theorem GlobalSettings.AgreeOutside.symm {env : Environment} {g g' : GlobalSettings}
    (h : g.AgreeOutside env g') : g'.AgreeOutside env g :=
  ⟨fun he => (h.logLevel he).symm, h.logFormat.symm, fun he => (h.emitInterval he).symm⟩

theorem GlobalSettings.AgreeOutside.trans {env : Environment} {g₁ g₂ g₃ : GlobalSettings}
    (h : g₁.AgreeOutside env g₂) (h' : g₂.AgreeOutside env g₃) : g₁.AgreeOutside env g₃ :=
  ⟨fun he => (h'.logLevel he).trans (h.logLevel he), h'.logFormat.trans h.logFormat,
    fun he => (h'.emitInterval he).trans (h.emitInterval he)⟩

/-- Global settings have what an environment says. -/
structure GlobalSettings.Obey (env : Environment) (g : GlobalSettings) : Prop where
  logLevel : env.logLevel ≠ "" → g.logLevel = env.logLevel
  emitInterval : env.emitInterval ≠ "" → numeralOf? env.emitInterval = some g.emitInterval

/-- Whether a document has a global part under the first of its names. -/
def Yaml.Document.hasGlobal (d : Document) : Bool :=
  d.rootFields?.any fun r => (Fields.get? r.2 globalKey).isSome

/-! ## Global settings under an environment -/

section
variable {env : Environment} {g g' : GlobalSettings} {cs cs' : Yaml.Collections}
variable {fields : List (Key × Yaml.Part)} {name : String}

theorem Environment.mem_names_iff :
    name ∈ env.overrides.map Prod.fst ↔
      name = "log_level" ∧ env.logLevel ≠ "" ∨ name = "emit_interval_s" ∧ env.emitInterval ≠ "" := by
  rw [Environment.overrides]
  by_cases hl : env.logLevel = "" <;> by_cases he : env.emitInterval = "" <;> simp [hl, he]

theorem Environment.logLevel_mem (h : env.logLevel ≠ "") :
    ("log_level", env.logLevel) ∈ env.overrides :=
  List.mem_filter.2 ⟨by simp, by simpa using h⟩

theorem Environment.emitInterval_mem (h : env.emitInterval ≠ "") :
    ("emit_interval_s", env.emitInterval) ∈ env.overrides :=
  List.mem_filter.2 ⟨by simp, by simpa using h⟩

theorem fieldOf_withTexts_of_notMem {β : Type} (default : β) (read : Yaml.Part → Except (List Problem) β)
    (h : name ∉ env.overrides.map Prod.fst) :
    fieldOf (withTexts env.overrides fields) [name] default read = fieldOf fields [name] default read :=
  fieldOf_congr default read fun _ hmem => by
    rw [List.mem_singleton.1 hmem, get?_withTexts_of_notMem h]

theorem fieldOf_withTexts {β : Type} {default x : β} {read : Yaml.Part → Except (List Problem) β}
    {text : String} (hmem : (name, text) ∈ env.overrides)
    (h : fieldOf (withTexts env.overrides fields) [name] default read = .ok x) :
    read (.value (.text text)) = .ok x := by
  have hget : Fields.get? (withTexts env.overrides fields) (.text name) = some (.value (.text text)) :=
    get?_withTexts env.nodup_overrides hmem
  rcases fieldOf_cons_eq_ok_iff.1 h with ⟨p, hp, hread⟩ | ⟨hnone, -⟩
  · rwa [Option.some.inj (hp.symm.trans hget)] at hread
  · cases hnone.symm.trans hget

theorem numeralOf?_of_secondsOf {text : String} {x : Float} (h : secondsOf (.text text) = .ok x) :
    numeralOf? text = some x := by
  rw [secondsOf, numberOf] at h
  rcases hx : numeralOf? text with _ | y
  · simp [hx] at h
  · simp only [hx] at h
    split_ifs at h
    cases h
    rfl

/-- **An environment's texts in fields** are what is read, and nothing else changes. -/
theorem GlobalSettings.ReadFrom.withTexts (h : g.ReadFrom cs.opening fields)
    (h' : g'.ReadFrom cs.opening (withTexts env.overrides fields)) :
    g'.Obey env ∧ g.AgreeOutside env g' := by
  refine ⟨⟨fun hne => ?_, fun hne => ?_⟩, ⟨fun he => ?_, ?_, fun he => ?_⟩⟩
  · have hlevel := fieldOf_withTexts (Environment.logLevel_mem hne) h'.logLevel
    exact (Except.ok.inj (mapError_eq_ok_iff.1 hlevel)).symm
  · have hseconds := fieldOf_withTexts (Environment.emitInterval_mem hne) h'.emitInterval
    exact numeralOf?_of_secondsOf (mapError_eq_ok_iff.1 hseconds)
  · have hsame := h'.logLevel
    rw [fieldOf_withTexts_of_notMem _ _ (by simp [Environment.mem_names_iff, he]), h.logLevel] at hsame
    exact (Except.ok.inj hsame).symm
  · have hsame := h'.logFormat
    rw [fieldOf_withTexts_of_notMem _ _ (by simp [Environment.mem_names_iff]), h.logFormat] at hsame
    exact (Except.ok.inj hsame).symm
  · have hsame := h'.emitInterval
    rw [fieldOf_withTexts_of_notMem _ _ (by simp [Environment.mem_names_iff, he]), h.emitInterval]
      at hsame
    exact (Except.ok.inj hsame).symm

theorem GlobalSettings.ReadFrom.of_bare_eq (hbare : cs'.bare = cs.bare)
    (h : g.ReadFrom cs'.opening fields) : g.ReadFrom cs.opening fields := by
  obtain ⟨hlevel, hformat, hseconds⟩ := h
  simp only [Yaml.Collections.opening, hbare] at hlevel hformat hseconds
  exact ⟨hlevel, hformat, hseconds⟩

end

/-! ## The global part under an environment -/

section
variable {env : Environment} {d d' : Yaml.Document} {root n : ℕ} {texts : List (String × String)}
variable {fields fields' inner : List (Key × Yaml.Part)} {g g' : GlobalSettings}

theorem Yaml.Collections.bare_setIfInBounds {cs : Collections} (hn : cs.collection n = .mapping inner)
    (fields : List (Key × Part)) : Collections.bare (cs.setIfInBounds n (.mapping fields)) = cs.bare := by
  funext p
  cases p with
  | value v => rfl
  | collection m =>
    rw [Collections.bare, Collections.bare,
      Collections.collection_setIfInBounds (Collections.lt_size_of_mapping hn)]
    split_ifs with hm
    · rw [hm, hn]
    · rfl

/-- The global part afterwards has the texts: it is a new one, or the one that was there. -/
theorem Yaml.Document.Overriding.globalPart (hroot : d.rootFields? = some (root, fields))
    (h : d.Overriding root fields texts d' fields') (hname : "global" ∉ texts.map Prod.fst) :
    ∃ n inner, Fields.get? fields' globalKey = some (.collection n) ∧
      d'.collections.collection n = .mapping (withTexts texts inner) ∧
      (Fields.get? fields globalKey = none ∧ inner = [] ∨
        Fields.get? fields globalKey = some (.collection n) ∧
          d.collections.collection n = .mapping inner ∧ d'.collections.bare = d.collections.bare) := by
  have hfields := (Document.rootFields?_eq_some_iff.1 hroot).2
  cases h with
  | added hnone =>
    refine ⟨d.collections.size, [], ?_, ?_, .inl ⟨hnone, rfl⟩⟩
    · rw [globalKey, Fields.get?_put, if_pos rfl]
    · rw [Document.collection_withMapping hfields,
        if_neg (Collections.lt_size_of_mapping hfields).ne', if_pos rfl]
  | @changed n inner hn hinner =>
    refine ⟨n, inner, ?_, ?_, .inr ⟨hn, hinner, Collections.bare_setIfInBounds hinner _⟩⟩
    · split_ifs
      · exact (get?_withTexts_of_notMem hname).trans hn
      · exact hn
    · rw [Document.collection_withFields hinner, if_pos rfl]

theorem readFrom_of_globalPart {cs : Yaml.Collections} {n : ℕ}
    (hn : Fields.get? fields globalKey = some (.collection n)) (hinner : cs.collection n = .mapping inner)
    (hg : fieldOf fields ["global", "global_"] .default (globalOf cs.opening) = .ok g) :
    g.ReadFrom cs.opening inner := by
  rcases fieldOf_cons_eq_ok_iff.1 hg with ⟨p, hp, hread⟩ | ⟨hnone, -⟩
  · cases hn.symm.trans hp
    obtain ⟨read, hread, hfrom⟩ := globalOf_eq_ok_iff.1 hread
    have hentries : cs.entries? (.collection n) = some inner :=
      Yaml.Collections.entries?_eq_some_iff.2 ⟨n, rfl, hinner⟩
    rwa [Option.some.inj (hread.symm.trans hentries)] at hfrom
  · cases hn.symm.trans hnone

/-- **The global settings have what the environment says**, and the fields that it does not set stay the
    same iff they come from the part that it is put into, or are the defaults. -/
theorem Yaml.Document.Overriding.global_settings (hroot : d.rootFields? = some (root, fields))
    (h : d.Overriding root fields env.overrides d' fields')
    (hg : fieldOf fields ["global", "global_"] .default (globalOf d.collections.opening) = .ok g)
    (hg' : fieldOf fields' ["global", "global_"] .default (globalOf d'.collections.opening) = .ok g') :
    g'.Obey env ∧ (g.AgreeOutside env g' ↔ d.hasGlobal = true ∨ g.AgreeOutside env .default) := by
  have hhas : d.hasGlobal = (Fields.get? fields globalKey).isSome := by
    rw [hasGlobal, hroot, Option.any_some]
  obtain ⟨n, inner, hn, hinner, hcases⟩ :=
    h.globalPart hroot (by simp [Environment.mem_names_iff])
  have hfrom := readFrom_of_globalPart hn hinner hg'
  rcases hcases with ⟨hnone, rfl⟩ | ⟨hsome, hmapping, hbare⟩
  · obtain ⟨hobey, hdefault⟩ := GlobalSettings.readFrom_nil.withTexts hfrom
    rw [hhas, hnone]
    refine ⟨hobey, fun h => .inr (h.trans hdefault.symm), ?_⟩
    rintro (h | h)
    · cases h
    · exact h.trans hdefault
  · obtain ⟨hobey, hagree⟩ :=
      (readFrom_of_globalPart hsome hmapping hg).withTexts (hfrom.of_bare_eq hbare)
    rw [hhas, hsome]
    exact ⟨hobey, iff_of_true hagree (.inl rfl)⟩

/-! ## The main theorem -/

theorem Environment.overrides_eq_nil_iff : env.overrides = [] ↔ env = .empty := by
  obtain ⟨level, interval⟩ := env
  rw [Environment.overrides, Environment.empty]
  by_cases hl : level = "" <;> by_cases hi : interval = "" <;> simp [hl, hi]

theorem Yaml.Document.overriding_of_under (hroot : d.rootFields? = some (root, fields))
    (henv : env ≠ .empty) (h : d.under env = .ok d') :
    ∃ fields', d.Overriding root fields env.overrides d' fields' := by
  rcases htexts : env.overrides with _ | ⟨o, os⟩
  · exact absurd (Environment.overrides_eq_nil_iff.1 htexts) henv
  · rw [under, hroot, htexts] at h
    rcases override_cases d root fields (o :: os) with ⟨d₁, fields', hok, hd₁⟩ | ⟨f, -, herror, -⟩
    · cases hok.symm.trans h
      exact ⟨fields', hd₁⟩
    · cases herror.symm.trans h

theorem Yaml.Document.under_empty (d : Document) : d.under .empty = .ok d := by
  rw [under, Environment.overrides_eq_nil_iff.2 rfl]
  cases d.rootFields? <;> rfl

/-- **What an environment leaves as it is.**  If a path can be loaded with the environment and without
    it, the settings have what the environment says.  The other global fields stay as they are iff the
    document has a part `global` or they are the defaults anyway, and the static fields iff they are
    made of nothing that the environment changes. -/
theorem overriding_frame {look : String → Found} {path : String} {s s' : Settings}
    (h : Settings.load look path .empty = .ok s) (h' : Settings.load look path env = .ok s') :
    s'.global.Obey env ∧ ∃ bytes d d', look path = .file bytes ∧
      configuration path (.ofFile bytes) .empty = .ok d ∧
      configuration path (.ofFile bytes) env = .ok d' ∧
      (s.global.AgreeOutside env s'.global ↔
        env = .empty ∨ d.hasGlobal = true ∨ s.global.AgreeOutside env .default) ∧
      (s'.staticFields = s.staticFields ↔ d.SameStatics d') := by
  obtain ⟨bytes, d, d₀, root, fields, hlook, hd, hroot, hunder, hs⟩ := exists_document_of_load h
  obtain ⟨bytes', d₁, d', root', fields₁, hlook', hd₁, -, hunder', hs'⟩ := exists_document_of_load h'
  cases hlook.symm.trans hlook'
  cases hd.symm.trans hd₁
  cases d.under_empty.symm.trans hunder
  have hconf : configuration path (.ofFile bytes) .empty = .ok d := by
    rw [configuration_eq, hd]
    exact hunder
  have hconf' : configuration path (.ofFile bytes) env = .ok d' := by
    rw [configuration_eq, hd]
    exact hunder'
  -- both files are one, so only the environment tells the two documents apart
  by_cases henv : env = .empty
  · subst henv
    cases hunder.symm.trans hunder'
    cases hs.symm.trans hs'
    refine ⟨⟨fun hne => absurd rfl hne, fun hne => absurd rfl hne⟩, bytes, d, d, hlook, hconf, hconf, ?_⟩
    exact ⟨iff_of_true ⟨fun _ => rfl, rfl, fun _ => rfl⟩ (.inl rfl),
      iff_of_true rfl ⟨rfl, fun _ _ _ _ _ _ => rfl⟩⟩
  · obtain ⟨fields', hover⟩ := Yaml.Document.overriding_of_under hroot henv hunder'
    rw [hroot] at hs
    rw [hover.rootFields? hroot] at hs'
    obtain ⟨hobey, hagree⟩ := hover.global_settings hroot (Settings.ofDocument_eq_ok hs).2.1
      (Settings.ofDocument_eq_ok hs').2.1
    have hstatics := hover.staticFields_eq_iff hroot
      ⟨by simp [Environment.mem_names_iff], by simp [Environment.mem_names_iff]⟩
      env.nodup_overrides hs hs'
    refine ⟨hobey, bytes, d, d', hlook, hconf, hconf', ?_, hstatics⟩
    rw [hagree, or_iff_right henv]

end

/-- A level put into a global part that nothing else refers to. -/
theorem unsharedGlobal_framed :
    ∃ s s', Settings.ofText "global:\n  log_format: json\n" .empty = .ok s ∧
      Settings.ofText "global:\n  log_format: json\n" ⟨"DEBUG", ""⟩ = .ok s' ∧
      s.global.logFormat = "json" ∧ s'.global.Obey ⟨"DEBUG", ""⟩ ∧
      s.global.AgreeOutside ⟨"DEBUG", ""⟩ s'.global := by
  obtain ⟨s, hs, hformat⟩ := exists_ok_of_any (p := fun s : Settings => s.global.logFormat = "json")
    (r := Settings.ofText "global:\n  log_format: json\n" .empty) (by decide +kernel)
  obtain ⟨s', hs', -⟩ := exists_ok_of_any (p := fun _ : Settings => true)
    (r := Settings.ofText "global:\n  log_format: json\n" ⟨"DEBUG", ""⟩) (by decide +kernel)
  obtain ⟨d₀, hd₀, hglobal⟩ := exists_ok_of_any (p := Yaml.Document.hasGlobal)
    (r := configuration "config.yaml" (.ofFile "global:\n  log_format: json\n".toUTF8.toList) .empty)
    (by decide +kernel)
  obtain ⟨hobey, bytes, d, d', hlook, hd, -, hagree, -⟩ := overriding_frame hs hs'
  cases hlook
  cases hd₀.symm.trans hd
  exact ⟨s, s', hs, hs', of_decide_eq_true hformat, hobey, hagree.2 (.inr (.inl hglobal))⟩

/-- A level from the environment takes all effect from a global part of the other name, and it shows in
    static fields that share the global part. -/
theorem otherName_sharedGlobal_changed :
    (∃ s s', Settings.ofText "global_:\n  log_format: json\n" .empty = .ok s ∧
      Settings.ofText "global_:\n  log_format: json\n" ⟨"DEBUG", ""⟩ = .ok s' ∧
      s'.global.logFormat ≠ s.global.logFormat) ∧
    ∃ s s', Settings.ofText "global: &g\n  a: b\nstdout:\n  static_fields: *g\n" .empty = .ok s ∧
      Settings.ofText "global: &g\n  a: b\nstdout:\n  static_fields: *g\n" ⟨"DEBUG", ""⟩ = .ok s' ∧
      s'.staticFields ≠ s.staticFields := by
  constructor
  · obtain ⟨s, hs, hformat⟩ := exists_ok_of_any (p := fun s : Settings => s.global.logFormat = "json")
      (r := Settings.ofText "global_:\n  log_format: json\n" .empty) (by decide +kernel)
    obtain ⟨s', hs', hformat'⟩ := exists_ok_of_any
      (p := fun s : Settings => s.global.logFormat = "text")
      (r := Settings.ofText "global_:\n  log_format: json\n" ⟨"DEBUG", ""⟩) (by decide +kernel)
    refine ⟨s, s', hs, hs', ?_⟩
    rw [of_decide_eq_true hformat, of_decide_eq_true hformat']
    decide
  · obtain ⟨s, hs, hsize⟩ := exists_ok_of_any (p := fun s : Settings => s.staticFields.length = 1)
      (r := Settings.ofText "global: &g\n  a: b\nstdout:\n  static_fields: *g\n" .empty)
      (by decide +kernel)
    obtain ⟨s', hs', hsize'⟩ := exists_ok_of_any (p := fun s : Settings => s.staticFields.length = 2)
      (r := Settings.ofText "global: &g\n  a: b\nstdout:\n  static_fields: *g\n" ⟨"DEBUG", ""⟩)
      (by decide +kernel)
    refine ⟨s, s', hs, hs', fun heq => ?_⟩
    have hlength := of_decide_eq_true hsize
    rw [← heq, of_decide_eq_true hsize'] at hlength
    cases hlength

end MetricDocs
