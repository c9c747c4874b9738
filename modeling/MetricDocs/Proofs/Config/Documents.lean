/-
  The document of a configuration under an environment.

  What the environment says goes into the global part of a document, whoever else refers to that part;
  a document without one gets a part of its own.

  * `Overriding d root fields texts d' fields'`: what putting texts into the global part makes of a
    document and of its outermost fields;
  * `override_cases`: that, or a failure because the global part cannot take texts;
  * `get?_withTexts` and `withTexts_eq_self`: what texts make of fields.
-/
import MetricDocs.Config.Load
import MetricDocs.Proofs.Config.Reading

namespace MetricDocs

theorem isText_globalKey : globalKey.IsText := rfl

/-! ## Texts in fields -/

section
variable {texts : List (String × String)} {fields : List (Key × Yaml.Part)} {name : String}

theorem withTexts_cons (o : String × String) (texts : List (String × String))
    (fields : List (Key × Yaml.Part)) :
    withTexts (o :: texts) fields =
      withTexts texts (Fields.put fields (.text o.1) (.value (.text o.2))) := rfl

theorem get?_withTexts_of_notMem (h : name ∉ texts.map Prod.fst) :
    Fields.get? (withTexts texts fields) (.text name) = Fields.get? fields (.text name) := by
  induction texts generalizing fields with
  | nil => rfl
  | cons o texts ih =>
    rw [List.map_cons, List.mem_cons, not_or] at h
    rw [withTexts_cons, ih h.2, Fields.get?_put, if_neg (Ne.symm h.1)]

theorem get?_withTexts (hnodup : (texts.map Prod.fst).Nodup) {o : String × String} (ho : o ∈ texts) :
    Fields.get? (withTexts texts fields) (.text o.1) = some (.value (.text o.2)) := by
  induction texts generalizing fields with
  | nil => cases ho
  | cons o' texts ih =>
    rw [List.map_cons, List.nodup_cons] at hnodup
    rw [withTexts_cons]
    rcases List.mem_cons.1 ho with rfl | ho
    · rw [get?_withTexts_of_notMem hnodup.1, Fields.get?_put, if_pos rfl]
    · exact ih hnodup.2 ho

theorem withTexts_eq_self
    (h : ∀ o ∈ texts, Fields.get? fields (.text o.1) = some (.value (.text o.2))) :
    withTexts texts fields = fields := by
  induction texts with
  | nil => rfl
  | cons o texts ih =>
    obtain ⟨ho, htexts⟩ := List.forall_mem_cons.1 h
    rw [withTexts_cons, Fields.put_eq_self ho, ih htexts]

theorem textKeys_put (name : String) (p : Yaml.Part) (fields : List (Key × Yaml.Part)) :
    textKeys (Fields.put fields (.text name) p) = textKeys fields := by
  induction fields with
  | nil => rfl
  | cons e fields ih =>
    obtain ⟨l, w⟩ := e
    rw [Fields.put]
    split_ifs
    · rfl
    · simp only [textKeys, List.all_cons] at ih ⊢
      rw [ih]

theorem textKeys_withTexts (texts : List (String × String)) (fields : List (Key × Yaml.Part)) :
    textKeys (withTexts texts fields) = textKeys fields := by
  induction texts generalizing fields with
  | nil => rfl
  | cons o texts ih => rw [withTexts_cons, ih, textKeys_put]

theorem Environment.nodup_overrides (e : Environment) : (e.overrides.map Prod.fst).Nodup := by
  refine List.Nodup.sublist (List.filter_sublist.map Prod.fst) ?_
  simp

end

namespace Yaml

/-! ## Collections of a document -/

section
variable {cs : Collections} {n m : ℕ} {c : Collection}

theorem Collections.lt_size_of_mapping {fields : List (Key × Part)}
    (h : cs.collection n = .mapping fields) : n < cs.size := by
  by_contra hn
  rw [Collections.collection, Array.getElem?_eq_none (Nat.le_of_not_lt hn)] at h
  cases h

theorem Collections.collection_setIfInBounds (hn : n < cs.size) (c : Collection) (m : ℕ) :
    Collections.collection (cs.setIfInBounds n c) m = if m = n then c else cs.collection m := by
  rw [Collections.collection, Array.getElem?_setIfInBounds, if_pos hn]
  rcases eq_or_ne n m with rfl | hne
  · rw [if_pos rfl, if_pos rfl]
    rfl
  · rw [if_neg hne, if_neg hne.symm]
    rfl

theorem Collections.collection_push (c : Collection) (m : ℕ) :
    Collections.collection (cs.push c) m = if m = cs.size then c else cs.collection m := by
  rw [Collections.collection, Array.getElem?_push]
  split_ifs <;> rfl

theorem Collections.collection_size (cs : Collections) : cs.collection cs.size = .list [] := by
  rw [Collections.collection, Array.getElem?_eq_none le_rfl]
  rfl

theorem Collections.entries?_eq_some_iff {p : Part} {fields : List (Key × Part)} :
    cs.entries? p = some fields ↔ ∃ n, p = .collection n ∧ cs.collection n = .mapping fields := by
  cases p with
  | value v => simp [Collections.entries?]
  | collection n =>
    rw [Collections.entries?]
    rcases hn : cs.collection n with _ | _ | _ | inner <;> simp [hn]

theorem Document.rootFields?_eq_some_iff {d : Document} {root : ℕ} {fields : List (Key × Part)} :
    d.rootFields? = some (root, fields) ↔
      d.root = .collection root ∧ d.collections.collection root = .mapping fields := by
  rw [rootFields?]
  constructor
  · intro h
    split at h
    · cases h
    · rename_i n hn
      split at h
      · rename_i inner hinner
        cases h
        exact ⟨hn, hinner⟩
      · cases h
  · rintro ⟨hroot, hfields⟩
    rw [hroot]
    simp only [hfields]

end

section
variable {d d' : Document} {root : ℕ} {fields fields' : List (Key × Part)}
variable {texts : List (String × String)}

/-! ## Texts in the global part -/

/-- What putting texts into the global part makes of a document and of its outermost fields: the part
    is added, or it is a mapping and gets the texts, and so do the outermost fields if it is these. -/
inductive Document.Overriding (d : Document) (root : ℕ) (fields : List (Key × Part))
    (texts : List (String × String)) : Document → List (Key × Part) → Prop
  | added : Fields.get? fields globalKey = none →
      Overriding d root fields texts
        ((d.withMapping (withTexts texts [])).2.withFields root
          (Fields.put fields globalKey (.collection d.collections.size)))
        (Fields.put fields globalKey (.collection d.collections.size))
  | changed {n : ℕ} {inner : List (Key × Part)} :
      Fields.get? fields globalKey = some (.collection n) →
      d.collections.collection n = .mapping inner →
      Overriding d root fields texts (d.withFields n (withTexts texts inner))
        (if n = root then withTexts texts fields else fields)

theorem Document.collection_withFields {n : ℕ} {inner : List (Key × Part)}
    (h : d.collections.collection n = .mapping inner) (fields : List (Key × Part)) (m : ℕ) :
    (d.withFields n fields).collections.collection m =
      if m = n then .mapping fields else d.collections.collection m :=
  Collections.collection_setIfInBounds (Collections.lt_size_of_mapping h) _ m

theorem Document.collection_withMapping (hfields : d.collections.collection root = .mapping fields)
    (inner fields' : List (Key × Part)) (m : ℕ) :
    ((d.withMapping inner).2.withFields root fields').collections.collection m =
      if m = root then .mapping fields' else if m = d.collections.size then .mapping inner
      else d.collections.collection m := by
  have hpush (m : ℕ) : (d.withMapping inner).2.collections.collection m =
      if m = d.collections.size then .mapping inner else d.collections.collection m :=
    Collections.collection_push _ m
  have hroot : (d.withMapping inner).2.collections.collection root = .mapping fields := by
    rw [hpush, if_neg (Collections.lt_size_of_mapping hfields).ne, hfields]
  rw [Document.collection_withFields hroot, hpush]

theorem Document.Overriding.rootFields? (hroot : d.rootFields? = some (root, fields))
    (h : d.Overriding root fields texts d' fields') : d'.rootFields? = some (root, fields') := by
  obtain ⟨hd, hfields⟩ := Document.rootFields?_eq_some_iff.1 hroot
  refine Document.rootFields?_eq_some_iff.2 ?_
  cases h with
  | added =>
    exact ⟨hd, by rw [Document.collection_withMapping hfields, if_pos rfl]⟩
  | @changed n inner hget hinner =>
    refine ⟨hd, ?_⟩
    rw [Document.collection_withFields hinner]
    rcases eq_or_ne root n with rfl | hne
    · rw [hfields] at hinner
      cases hinner
      rw [if_pos rfl, if_pos rfl]
    · rw [if_neg hne, if_neg hne.symm, hfields]

theorem Document.Overriding.isSome_entries? (h : d.Overriding root fields texts d' fields') {p : Part}
    (hp : Fields.get? fields globalKey = some p) : (d.collections.entries? p).isSome = true := by
  cases h with
  | added hnone => cases hnone.symm.trans hp
  | changed hget hinner =>
    cases hget.symm.trans hp
    rw [Collections.entries?, hinner]
    rfl

/-- **Texts are put into the global part**, or that cannot take them. -/
theorem override_cases (d : Document) (root : ℕ) (fields : List (Key × Part))
    (texts : List (String × String)) :
    (∃ d' fields', override d root fields texts = .ok d' ∧ d.Overriding root fields texts d' fields') ∨
      ∃ f p, override d root fields texts = .error f ∧ f.kind = .type ∧
        Fields.get? fields globalKey = some p ∧ d.collections.entries? p = none := by
  rcases hget : Fields.get? fields globalKey with _ | p
  · refine .inl ⟨_, _, ?_, .added hget⟩
    rw [override, hget]
    rfl
  · cases p with
    | value v => exact .inr ⟨_, _, by rw [override, hget], rfl, rfl, rfl⟩
    | collection n =>
      rcases hn : d.collections.collection n with parts | parts | keys | inner
      · exact .inr ⟨.textIndex, _, by simp only [override, hget, hn], rfl, rfl,
          by rw [Collections.entries?, hn]⟩
      · exact .inr ⟨.textIndex, _, by simp only [override, hget, hn], rfl, rfl,
          by rw [Collections.entries?, hn]⟩
      · exact .inr ⟨.noAssignment "set", _, by simp only [override, hget, hn], rfl, rfl,
          by rw [Collections.entries?, hn]⟩
      · exact .inl ⟨_, _, by simp only [override, hget, hn], .changed hget hn⟩

theorem Document.Overriding.textKeys_eq (h : d.Overriding root fields texts d' fields') :
    textKeys fields' = textKeys fields := by
  cases h with
  | added => exact textKeys_put _ _ _
  | changed =>
    split_ifs
    · exact textKeys_withTexts _ _
    · rfl

end

end Yaml

/-! ## Documents under an environment -/

/-- The document with what an environment says. -/
def Yaml.Document.under (d : Document) (env : Environment) : Except Failure Document :=
  match d.rootFields?, env.overrides with
  | some (root, fields), o :: os => override d root fields (o :: os)
  | _, _ => .ok d

theorem configuration_eq (path : String) (s : Yaml.Source) (env : Environment) :
    configuration path s env = ((Yaml.parse s).bind (configured path)).bind (·.under env) := by
  rw [configuration]
  cases Yaml.parse s <;> rfl

theorem exists_rootFields?_of_configured {d d' : Yaml.Document} {path : String}
    (h : configured path d = .ok d') :
    ∃ root fields, d'.rootFields? = some (root, fields) := by
  rw [configured] at h
  split_ifs at h with hroot
  · cases h
    obtain ⟨⟨root, fields⟩, hroot⟩ := Option.isSome_iff_exists.1 hroot
    exact ⟨root, fields, hroot⟩
  · cases h
    exact ⟨0, [], rfl⟩

theorem exists_document_of_load {look : String → Found} {path : String} {env : Environment}
    {s : Settings} (h : Settings.load look path env = .ok s) :
    ∃ bytes d d' root fields, look path = .file bytes ∧
      (Yaml.parse (.ofFile bytes)).bind (configured path) = .ok d ∧
      d.rootFields? = some (root, fields) ∧ d.under env = .ok d' ∧
      Settings.ofDocument d' (d'.rootFields?.elim [] Prod.snd) = .ok s := by
  rw [Settings.load] at h
  rcases hlook : look path with _ | _ | bytes
  · simp [hlook] at h
  · simp [hlook] at h
  · simp only [hlook] at h
    obtain ⟨d', hd', hs⟩ := exists_of_bind_eq_ok h
    rw [mapError_eq_ok_iff, configuration_eq] at hd'
    obtain ⟨d, hd, hunder⟩ := exists_of_bind_eq_ok hd'
    obtain ⟨d₀, -, hd₀⟩ := exists_of_bind_eq_ok hd
    obtain ⟨root, fields, hroot⟩ := exists_rootFields?_of_configured hd₀
    exact ⟨bytes, d, d', root, fields, rfl, hd, hroot, hunder, hs⟩

/-- The settings in a file with a given text. -/
def Settings.ofText (text : String) (env : Environment) : Except SettingsError Settings :=
  Settings.load (fun _ => .file text.toUTF8.toList) "config.yaml" env

end MetricDocs
