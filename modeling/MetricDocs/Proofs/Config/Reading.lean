/-
  What settings are read from.

  * `fieldOf_cons_eq_ok_iff`: a field comes from the first of its names that is there;
  * `GlobalSettings.ReadFrom o fields g`: the global settings `g` stand in the fields;
  * `textEntries_eq_ok`: entries whose keys are all texts are gathered one after another, and the keys
    become texts; `gathered` does that, and one more value shows at its own key only
    (`get?_gathered_put`);
  * `Settings.ofDocument_eq_ok`: the parts of a document that its settings come from.
-/
import MetricDocs.Config.Unfolding
import MetricDocs.Proofs.Value.Reading

namespace MetricDocs

/-! ## Fields -/

section
variable {α β γ ε ε' : Type} {fields fields' : List (Key × α)} {o : Opening α}

theorem mapError_eq_ok_iff {f : ε → ε'} {r : Except ε β} {x : β} :
    r.mapError f = .ok x ↔ r = .ok x := by
  cases r <;> simp [Except.mapError]

theorem map_eq_ok_iff {f : β → γ} {r : Except ε β} {y : γ} :
    r.map f = .ok y ↔ ∃ x, r = .ok x ∧ f x = y := by
  cases r <;> simp [Except.map]

theorem exists_of_bind_eq_ok {r : Except ε β} {f : β → Except ε γ} {y : γ} (h : r.bind f = .ok y) :
    ∃ x, r = .ok x ∧ f x = .ok y := by
  cases r with
  | error e => cases h
  | ok x => exact ⟨x, rfl, h⟩

theorem both_eq_ok_iff {a : Except (List Problem) β} {b : Except (List Problem) γ} {x : β} {y : γ} :
    both a b = .ok (x, y) ↔ a = .ok x ∧ b = .ok y := by
  cases a <;> cases b <;> simp [both]

theorem fieldOf_cons_eq_ok_iff {name : String} {names : List String} {default x : β}
    {read : α → Except (List Problem) β} :
    fieldOf fields (name :: names) default read = .ok x ↔
      (∃ v, Fields.get? fields (.text name) = some v ∧ read v = .ok x) ∨
        Fields.get? fields (.text name) = none ∧ fieldOf fields names default read = .ok x := by
  rw [fieldOf]
  cases Fields.get? fields (.text name) <;> simp [mapError_eq_ok_iff]

theorem fieldOf_congr {names : List String} (default : β) (read : α → Except (List Problem) β)
    (h : ∀ name ∈ names,
      Fields.get? fields' (.text name) = Fields.get? fields (.text name)) :
    fieldOf fields' names default read = fieldOf fields names default read := by
  induction names with
  | nil => rfl
  | cons name names ih =>
    obtain ⟨hname, hnames⟩ := List.forall_mem_cons.1 h
    rw [fieldOf, fieldOf, hname, ih hnames]

/-! ## Global settings -/

/-- Global settings stand in fields, or are the defaults where a field is not there. -/
@[mk_iff readFrom_iff]
structure GlobalSettings.ReadFrom (o : Opening α) (fields : List (Key × α)) (g : GlobalSettings) :
    Prop where
  logLevel : fieldOf fields ["log_level"] GlobalSettings.default.logLevel
    (fun v => single (textOf (o.bare v))) = .ok g.logLevel
  logFormat : fieldOf fields ["log_format"] GlobalSettings.default.logFormat
    (fun v => single (formatOf (o.bare v))) = .ok g.logFormat
  emitInterval : fieldOf fields ["emit_interval_s"] GlobalSettings.default.emitInterval
    (fun v => single (secondsOf (o.bare v))) = .ok g.emitInterval

theorem GlobalSettings.readFrom_nil : GlobalSettings.ReadFrom o [] .default :=
  ⟨rfl, rfl, rfl⟩

theorem globalOf_eq_ok_iff {v : α} {g : GlobalSettings} :
    globalOf o v = .ok g ↔ ∃ fields, o.entries? v = some fields ∧ g.ReadFrom o fields := by
  obtain ⟨level, format, seconds⟩ := g
  rw [globalOf]
  cases o.entries? v with
  | none => simp
  | some fields =>
    simp only [Option.some.injEq, exists_eq_left', GlobalSettings.readFrom_iff]
    rcases fieldOf fields ["log_level"] _ _ with ps | level' <;>
      rcases fieldOf fields ["log_format"] _ _ with qs | format' <;>
      rcases fieldOf fields ["emit_interval_s"] _ _ with rs | seconds' <;>
      simp [both, bind, Except.bind, pure, Except.pure]

/-! ## Static entries -/

theorem staticFieldsOf_eq_ok_iff {v : α} {entries : List (Key × α)} :
    staticFieldsOf o v = .ok entries ↔
      ∃ fields, o.entries? v = some fields ∧ textEntries fields = ([], entries) := by
  rw [staticFieldsOf]
  cases o.entries? v with
  | none => simp
  | some fields =>
    rcases htexts : textEntries fields with ⟨_ | ⟨p, ps⟩, out⟩ <;> simp [htexts]

/-- A part without output fields has no static entries, and neither has an output part without them;
    otherwise they are a mapping whose keys are all texts. -/
theorem outputOf_eq_ok_iff {v : α} {r : Option (List (Key × α))} :
    outputOf o v = .ok r ↔ ∃ fields, o.entries? v = some fields ∧
      ((∃ w, Fields.get? fields (.text "static_fields") = some w ∧ ∃ inner entries,
          o.entries? w = some inner ∧ textEntries inner = ([], entries) ∧ r = some entries) ∨
        Fields.get? fields (.text "static_fields") = none ∧ r = none) := by
  rw [outputOf]
  cases o.entries? v with
  | none => simp
  | some fields =>
    simp only [Option.some.injEq, exists_eq_left', fieldOf_cons_eq_ok_iff]
    refine or_congr (exists_congr fun w => and_congr_right fun _ => ?_)
      (and_congr_right fun _ => by rw [fieldOf, Except.ok.injEq, eq_comm])
    rw [map_eq_ok_iff]
    constructor
    · rintro ⟨entries, hentries, rfl⟩
      obtain ⟨inner, hinner, htexts⟩ := staticFieldsOf_eq_ok_iff.1 hentries
      exact ⟨inner, entries, hinner, htexts, rfl⟩
    · rintro ⟨inner, entries, hinner, htexts, rfl⟩
      exact ⟨entries, staticFieldsOf_eq_ok_iff.2 ⟨inner, hinner, htexts⟩, rfl⟩

/-! ## Entries by text keys -/

/-- The key as a text; one that is none counts as itself. -/
def textKey (k : Key) : Key := (textKeyOf k).toOption.getD k

theorem isText_of_textKeyOf {k l : Key} (h : textKeyOf k = .ok l) : l.IsText := by
  cases k with
  | bytes bs =>
    simp only [textKeyOf] at h
    split at h
    · cases h
      rfl
    · cases h
  | _ => cases h <;> rfl

theorem textKey_eq {k l : Key} (h : textKeyOf k = .ok l) : textKey k = l := by
  rw [textKey, h]
  rfl

theorem textKey_of_isText {k : Key} (h : k.IsText) : textKey k = k := by
  cases k with
  | text s => rfl
  | surrogates ps => rfl
  | _ => cases h

/-- Entries put one after another behind others, with texts as keys. -/
def gathered (out fields : List (Key × α)) : List (Key × α) :=
  fields.foldl (fun out e => Fields.put out (textKey e.1) e.2) out

theorem gathered_cons (out : List (Key × α)) (e : Key × α) (fields : List (Key × α)) :
    gathered out (e :: fields) = gathered (Fields.put out (textKey e.1) e.2) fields := rfl

/-- Steps that put an entry whose key is a text and add a problem for any other gather the entries, if
    no problem is left. -/
theorem gathered_of_foldl {step : List Problem × List (Key × α) → Key × α → List Problem × List (Key × α)}
    (hput : ∀ problems out k v key, textKeyOf k = .ok key →
      step (problems, out) (k, v) = (problems, Fields.put out key v))
    (hproblem : ∀ problems out k v p, textKeyOf k = .error p →
      step (problems, out) (k, v) = (problems ++ [p], out))
    {problems : List Problem} {start out : List (Key × α)}
    (h : fields.foldl step (problems, start) = ([], out)) :
    problems = [] ∧ (∀ e ∈ fields, (textKey e.1).IsText) ∧ out = gathered start fields := by
  induction fields generalizing problems start with
  | nil =>
    cases h
    exact ⟨rfl, by simp, rfl⟩
  | cons e fields ih =>
    obtain ⟨k, v⟩ := e
    rw [List.foldl_cons] at h
    rcases hk : textKeyOf k with p | key
    · -- problems are only ever added
      rw [hproblem problems start k v p hk] at h
      have hproblems := (ih h).1
      simp at hproblems
    · rw [hput problems start k v key hk] at h
      obtain ⟨hproblems, htexts, hout⟩ := ih h
      refine ⟨hproblems, List.forall_mem_cons.2 ⟨?_, htexts⟩, ?_⟩
      · rw [textKey_eq hk]
        exact isText_of_textKeyOf hk
      · rw [hout, gathered_cons, textKey_eq hk]

/-- **Entries by text keys**: all keys are texts, and the entries are gathered. -/
theorem textEntries_eq_ok {out : List (Key × α)} (h : textEntries fields = ([], out)) :
    (∀ e ∈ fields, (textKey e.1).IsText) ∧ out = gathered [] fields := by
  refine (gathered_of_foldl (fun problems out k v key hk => ?_) (fun problems out k v p hk => ?_) h).2
  · simp only [hk]
  · simp only [hk]

theorem mem_keys_gathered {out : List (Key × α)} (h : ∀ e ∈ fields, (textKey e.1).IsText) {k : Key} :
    k ∈ (gathered out fields).map Prod.fst ↔
      k ∈ out.map Prod.fst ∨ ∃ e ∈ fields, textKey e.1 = k := by
  induction fields generalizing out with
  | nil => simp [gathered]
  | cons e fields ih =>
    obtain ⟨he, hfields⟩ := List.forall_mem_cons.1 h
    rw [gathered_cons, ih hfields, Fields.mem_keys_put he, List.exists_mem_cons_iff]
    tauto

theorem keys_gathered {out : List (Key × α)} (h : ∀ e ∈ fields, (textKey e.1).IsText)
    (hout : (∀ k ∈ out.map Prod.fst, k.IsText) ∧ (out.map Prod.fst).Nodup) :
    (∀ k ∈ (gathered out fields).map Prod.fst, k.IsText) ∧
      ((gathered out fields).map Prod.fst).Nodup := by
  induction fields generalizing out with
  | nil => exact hout
  | cons e fields ih =>
    obtain ⟨he, hfields⟩ := List.forall_mem_cons.1 h
    refine ih hfields ⟨fun k hk => ?_, Fields.nodup_keys_put he hout.2⟩
    rcases (Fields.mem_keys_put he).1 hk with hk | rfl
    · exact hout.1 k hk
    · exact he

theorem isText_of_textKeys (h : textKeys fields = true) : ∀ e ∈ fields, e.1.IsText :=
  List.all_eq_true.1 h

/-! ## Other entries -/

/-- The second entries are like the first, but for a value here and there. -/
def Altered (P : α → Prop) (out out' : List (Key × α)) : Prop :=
  ∀ k, k.IsText → Fields.get? out' k = Fields.get? out k ∨ ∃ v, P v ∧ Fields.get? out' k = some v

theorem Altered.put {P : α → Prop} {out out' : List (Key × α)} (h : Altered P out out') {k : Key}
    (hk : k.IsText) (v : α) : Altered P (Fields.put out k v) (Fields.put out' k v) := by
  intro l hl
  rcases eq_or_ne l k with rfl | hne
  · exact .inl (by rw [Fields.get?_put_self hk, Fields.get?_put_self hk])
  · rw [Fields.get?_put_of_ne hk hne, Fields.get?_put_of_ne hk hne]
    exact h l hl

theorem Altered.gathered {P : α → Prop} {out out' : List (Key × α)} (h : Altered P out out')
    (htexts : ∀ e ∈ fields, (textKey e.1).IsText) :
    Altered P (gathered out fields) (gathered out' fields) := by
  induction fields generalizing out out' with
  | nil => exact h
  | cons e fields ih =>
    obtain ⟨he, hfields⟩ := List.forall_mem_cons.1 htexts
    exact ih (h.put he e.2) hfields

theorem Altered.refl (P : α → Prop) (out : List (Key × α)) : Altered P out out := fun _ _ => .inl rfl

theorem Altered.trans {P : α → Prop} {a b c : List (Key × α)} (hab : Altered P a b)
    (hbc : Altered P b c) : Altered P a c := by
  intro k hk
  rcases hbc k hk with h | h
  · rw [h]
    exact hab k hk
  · exact .inr h

theorem altered_put {P : α → Prop} {k : Key} (hk : k.IsText) {v : α} (hv : P v)
    (out : List (Key × α)) : Altered P out (Fields.put out k v) := by
  intro l _
  rcases eq_or_ne l k with rfl | hne
  · exact .inr ⟨v, hv, Fields.get?_put_self hk v out⟩
  · exact .inl (Fields.get?_put_of_ne hk hne v out)

/-- **A value put into entries** shows at its own key, if at all. -/
theorem altered_gathered_put {P : α → Prop} {out : List (Key × α)} {k : Key} (hk : k.IsText) {v : α}
    (hv : P v) (htexts : ∀ e ∈ fields, (textKey e.1).IsText) :
    Altered P (gathered out fields) (gathered out (Fields.put fields k v)) := by
  induction fields generalizing out with
  | nil =>
    rw [Fields.put, gathered_cons, textKey_of_isText hk]
    exact altered_put hk hv out
  | cons e fields ih =>
    obtain ⟨l, w⟩ := e
    obtain ⟨hl, hfields⟩ := List.forall_mem_cons.1 htexts
    rw [Fields.put]
    split_ifs with hsame
    · -- only the values put at that key differ, and the rest is gathered behind them
      rw [(Key.same_iff_of_isText hk l).1 hsame, gathered_cons, gathered_cons]
      refine Altered.gathered ?_ hfields
      rw [textKey_of_isText hk]
      intro m hm
      rcases eq_or_ne m k with rfl | hne
      · exact .inr ⟨v, hv, Fields.get?_put_self hk v out⟩
      · exact .inl (by rw [Fields.get?_put_of_ne hk hne, Fields.get?_put_of_ne hk hne])
    · exact ih hfields

/-! ## Settings in a document -/

/-- The settings in a document: its outermost keys are texts, and its two parts give the settings. -/
theorem Settings.ofDocument_eq_ok {d : Yaml.Document} {fields : List (Key × Yaml.Part)} {s : Settings}
    (h : Settings.ofDocument d fields = .ok s) :
    textKeys fields = true ∧
      fieldOf fields ["global", "global_"] .default (globalOf d.collections.opening) = .ok s.global ∧
      ∃ entries?, fieldOf fields ["stdout"] none (outputOf d.collections.opening) = .ok entries? ∧
        match entries? with
        | none => s.staticFields = StaticFields.default
        | some entries => Yaml.unfoldFields d.collections entries = .ok s.staticFields := by
  rw [Settings.ofDocument, Settings.ofEntries] at h
  cases hkeys : textKeys fields with
  | false =>
    rw [hkeys] at h
    cases h
  | true =>
    rw [hkeys] at h
    rcases hparts : partsOf d.collections.opening fields with ps | ⟨g, _ | entries⟩
    · rw [hparts] at h
      cases h
    · rw [hparts] at h
      cases h
      obtain ⟨hglobal, hout⟩ := both_eq_ok_iff.1 hparts
      exact ⟨rfl, hglobal, _, hout, rfl⟩
    · rw [hparts] at h
      obtain ⟨hglobal, hout⟩ := both_eq_ok_iff.1 hparts
      rcases hunfold : Yaml.unfoldFields d.collections entries with f | statics
      · simp [hunfold, bind, Except.bind, Except.mapError] at h
      · simp [hunfold, bind, Except.bind, pure, Except.pure, Except.mapError] at h
        subst h
        exact ⟨rfl, hglobal, _, hout, hunfold⟩

end

end MetricDocs
