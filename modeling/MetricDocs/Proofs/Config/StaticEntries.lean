/-
  What texts in the global part of a document do to its static entries.

  The static entries are reached by two names, which no environment sets; so they change only if the
  mapping that the texts are put into is theirs or lies below them.  Unfolding shows such a change:
  a text has come to a key, or a key has come to the outermost fields.

  * `Document.Touched fields texts inner inner'`: what texts in the global part make of the entries of
    one mapping;
  * `Document.Overriding.tells`: unfolding tells every change;
  * `Document.SameStatics d d'`: the static entries and all that lies below them are the same;
  * `Document.Overriding.staticFields_eq_iff`: the static fields are the same iff that is so.
-/
import MetricDocs.Proofs.Config.Documents
import MetricDocs.Proofs.Config.Unfolding

namespace MetricDocs

namespace Yaml.Document

/-- The static entries of a document, if it has any: keys as texts, and what stands there. -/
def staticEntries? (d : Document) : Option (List (Key × Part)) :=
  d.rootFields?.bind fun r =>
    (fieldOf r.2 ["stdout"] none (outputOf d.collections.opening)).toOption.join

/-- The static entries of two documents are the same, and so is all that lies below them. -/
structure SameStatics (d d' : Document) : Prop where
  entries : d'.staticEntries? = d.staticEntries?
  below : ∀ es, d.staticEntries? = some es → ∀ e ∈ es, ∀ n, d.collections.Reaches e.2 n →
    d'.collections.collection n = d.collections.collection n

end Yaml.Document

/-! ## What is changed in a document -/

section
variable {d d' : Yaml.Document} {root n : ℕ} {texts : List (String × String)}
variable {fields fields' inner : List (Key × Yaml.Part)} {p : Yaml.Part}

theorem Yaml.Document.staticEntries?_eq (hroot : d.rootFields? = some (root, fields))
    {entries? : Option (List (Key × Part))}
    (h : fieldOf fields ["stdout"] none (outputOf d.collections.opening) = .ok entries?) :
    d.staticEntries? = entries? := by
  rw [staticEntries?, hroot, Option.bind_some, h]
  cases entries? <;> rfl

/-- What texts in the global part make of the entries of a mapping: they stay, or they get the texts,
    or a global part is added to the outermost ones. -/
inductive Yaml.Document.Touched (fields : List (Key × Part)) (texts : List (String × String)) :
    List (Key × Part) → List (Key × Part) → Prop
  | same (inner : List (Key × Part)) : Touched fields texts inner inner
  | texts (inner : List (Key × Part)) : Touched fields texts inner (withTexts texts inner)
  | global (n : ℕ) : Fields.get? fields globalKey = none →
      Touched fields texts fields (Fields.put fields globalKey (.collection n))

theorem Yaml.Document.Touched.get?_eq {inner' : List (Key × Part)}
    (h : Touched fields texts inner inner') {name : String} (hname : name ∉ texts.map Prod.fst)
    (hglobal : name ≠ "global") :
    Fields.get? inner' (.text name) = Fields.get? inner (.text name) := by
  cases h with
  | same => rfl
  | texts => exact get?_withTexts_of_notMem hname
  | global => rw [globalKey, Fields.get?_put, if_neg (Ne.symm hglobal)]

theorem Yaml.Document.Overriding.entries? (hroot : d.rootFields? = some (root, fields))
    (h : d.Overriding root fields texts d' fields') (hp : d.collections.entries? p = some inner) :
    ∃ inner', d'.collections.entries? p = some inner' ∧ Touched fields texts inner inner' := by
  obtain ⟨n, rfl, hn⟩ := Collections.entries?_eq_some_iff.1 hp
  have hfields := (Document.rootFields?_eq_some_iff.1 hroot).2
  simp only [Collections.entries?_eq_some_iff, Part.collection.injEq, exists_eq_left']
  cases h with
  | added hnone =>
    rw [Document.collection_withMapping hfields]
    rcases eq_or_ne n root with rfl | hne
    · cases hfields.symm.trans hn
      exact ⟨_, if_pos rfl, .global _ hnone⟩
    · refine ⟨inner, ?_, .same inner⟩
      rw [if_neg hne, if_neg (Collections.lt_size_of_mapping hn).ne, hn]
  | @changed m _ _ hm =>
    rw [Document.collection_withFields hm]
    rcases eq_or_ne n m with rfl | hne
    · cases hm.symm.trans hn
      exact ⟨_, if_pos rfl, .texts inner⟩
    · exact ⟨inner, by rw [if_neg hne, hn], .same inner⟩

/-! ## What unfolding tells -/

theorem Yaml.tells_withTexts (hnodup : (texts.map Prod.fst).Nodup) (inner : List (Key × Part)) :
    Tells (.mapping inner) (.mapping (withTexts texts inner)) := by
  intro f g v hf hg h h'
  rw [withTexts_eq_self fun o ho => get?_eq_of_unfolded_eq hf hg h h' (get?_withTexts hnodup ho)]

theorem Yaml.tells_put (hnone : Fields.get? fields globalKey = none) (p : Part) :
    Tells (.mapping fields) (.mapping (Fields.put fields globalKey p)) := by
  intro f g v _ _ h h'
  cases h with
  | @mapping _ entries hentries =>
    have hkeys := (Collection.Unfolded.mapping hentries).keys_eq.trans h'.keys_eq.symm
    have hglobal := (Fields.get?_eq_none_iff isText_globalKey).1 hnone
    rw [Fields.put_of_notMem isText_globalKey p hglobal, List.map_append] at hkeys
    simp at hkeys

/-- **Unfolding tells what texts in the global part change.** -/
theorem Yaml.Document.Overriding.tells (hroot : d.rootFields? = some (root, fields))
    (hnodup : (texts.map Prod.fst).Nodup) (h : d.Overriding root fields texts d' fields') (n : ℕ) :
    Tells (d.collections.collection n) (d'.collections.collection n) := by
  have hsame (c : Collection) : Tells c c := fun _ _ _ _ _ _ _ => rfl
  have hfields := (Document.rootFields?_eq_some_iff.1 hroot).2
  cases h with
  | added hnone =>
    rw [Document.collection_withMapping hfields]
    split_ifs with hn hsize
    · rw [hn, hfields]
      exact tells_put hnone _
    · -- a number that no collection had counts as an empty list
      rw [hsize, Collections.collection_size]
      intro f g v _ _ h h'
      cases h
      cases h'
    · exact hsame _
  | @changed m inner _ hm =>
    rw [Document.collection_withFields hm]
    split_ifs with hn
    · rw [hn, hm]
      exact tells_withTexts hnodup inner
    · exact hsame _

/-! ## Static entries under an environment -/

/-- A part is a text. -/
def Yaml.Part.IsText (p : Part) : Prop := ∃ t, p = .value (.text t)

theorem altered_gathered_withTexts {out : List (Key × Yaml.Part)}
    (htexts : ∀ e ∈ inner, (textKey e.1).IsText) :
    Altered Yaml.Part.IsText (gathered out inner) (gathered out (withTexts texts inner)) := by
  induction texts generalizing inner with
  | nil => exact .refl _ _
  | cons o texts ih =>
    rw [withTexts_cons]
    refine (altered_gathered_put (Key.isText_text o.1) ⟨o.2, rfl⟩ htexts).trans (ih ?_)
    intro e he
    rcases Fields.mem_put (Key.isText_text o.1) he with rfl | he
    · exact Key.isText_text o.1
    · exact htexts e he

/-- **Static entries that unfold to the same fields are the same**, whatever texts were put into the
    global part. -/
theorem Yaml.Document.Touched.entries_eq {inner' es es' : List (Key × Part)} {statics : Fields}
    (ht : Touched fields texts inner inner') (hkeys : textKeys fields = true)
    (hes : textEntries inner = ([], es)) (hes' : textEntries inner' = ([], es'))
    (hunfold : unfoldFields d.collections es = .ok statics)
    (hunfold' : unfoldFields d'.collections es' = .ok statics) : es' = es := by
  rw [unfoldFields_eq_ok_iff] at hunfold hunfold'
  have hkeys_eq : es'.map Prod.fst = es.map Prod.fst := hunfold'.keys_eq.trans hunfold.keys_eq.symm
  obtain ⟨htexts, rfl⟩ := textEntries_eq_ok hes
  obtain ⟨htexts', rfl⟩ := textEntries_eq_ok hes'
  cases ht with
  | same => rfl
  | texts =>
    obtain ⟨hall, hnodup⟩ : (∀ k ∈ (gathered [] inner).map Prod.fst, k.IsText) ∧
        ((gathered [] inner).map Prod.fst).Nodup := keys_gathered htexts ⟨by simp, by simp⟩
    refine Fields.eq_of_get?_eq hkeys_eq (fun e he => hall _ (List.mem_map_of_mem he)) hnodup ?_
    intro e he
    rcases altered_gathered_withTexts htexts e.1 (hall _ (List.mem_map_of_mem he)) with
      h | ⟨-, ⟨t, rfl⟩, h⟩
    · exact h
    · rw [h, get?_eq_of_unfolded_eq faithful_unfoldWithin faithful_unfoldWithin hunfold hunfold' h]
  | global n hnone =>
    -- the added key is none of the outermost ones, which all are texts already
    have hmem : globalKey ∈ (gathered [] (Fields.put fields globalKey (.collection n))).map Prod.fst := by
      refine (mem_keys_gathered htexts').2 (.inr ⟨(globalKey, .collection n), ?_, rfl⟩)
      rw [Fields.put_of_notMem isText_globalKey _ ((Fields.get?_eq_none_iff isText_globalKey).1 hnone)]
      exact List.mem_append_right _ (List.mem_singleton_self _)
    rw [hkeys_eq, mem_keys_gathered htexts] at hmem
    rcases hmem with hmem | ⟨e, he, heq⟩
    · cases hmem
    · rw [textKey_of_isText (isText_of_textKeys hkeys e he)] at heq
      exact absurd (heq ▸ List.mem_map_of_mem he)
        ((Fields.get?_eq_none_iff isText_globalKey).1 hnone)

theorem Yaml.Document.Overriding.touched (hroot : d.rootFields? = some (root, fields))
    (h : d.Overriding root fields texts d' fields') : Touched fields texts fields fields' := by
  obtain ⟨hd, hfields⟩ := Document.rootFields?_eq_some_iff.1 hroot
  have hfields' := (Document.rootFields?_eq_some_iff.1 (h.rootFields? hroot)).2
  obtain ⟨inner', hinner', ht⟩ :=
    h.entries? hroot (Collections.entries?_eq_some_iff.2 ⟨root, rfl, hfields⟩)
  rwa [Option.some.inj (hinner'.symm.trans
    (Collections.entries?_eq_some_iff.2 ⟨root, rfl, hfields'⟩))] at ht

theorem Yaml.Document.Overriding.staticEntries_cases (hroot : d.rootFields? = some (root, fields))
    (h : d.Overriding root fields texts d' fields')
    (hnames : "stdout" ∉ texts.map Prod.fst ∧ "static_fields" ∉ texts.map Prod.fst)
    {es es' : Option (List (Key × Part))}
    (hes : fieldOf fields ["stdout"] none (outputOf d.collections.opening) = .ok es)
    (hes' : fieldOf fields' ["stdout"] none (outputOf d'.collections.opening) = .ok es') :
    es = none ∧ es' = none ∨ ∃ inner inner' entries entries', Touched fields texts inner inner' ∧
      textEntries inner = ([], entries) ∧ textEntries inner' = ([], entries') ∧
      es = some entries ∧ es' = some entries' := by
  rw [fieldOf_cons_eq_ok_iff] at hes hes'
  -- no text is put at the keys on the way, so both are found or neither is
  rw [(h.touched hroot).get?_eq hnames.1 (by decide)] at hes'
  rcases hes with ⟨p, hp, hread⟩ | ⟨hp, hnone⟩ <;> rcases hes' with ⟨p', hp', hread'⟩ | ⟨hp', hnone'⟩
  · cases hp.symm.trans hp'
    obtain ⟨out, hout, hcases⟩ := outputOf_eq_ok_iff.1 hread
    obtain ⟨out', hout', hcases'⟩ := outputOf_eq_ok_iff.1 hread'
    obtain ⟨_, heq, ht⟩ := h.entries? hroot hout
    cases heq.symm.trans hout'
    rw [ht.get?_eq hnames.2 (by decide)] at hcases'
    rcases hcases with ⟨q, hq, inner, entries, hinner, htexts, rfl⟩ | ⟨hq, rfl⟩ <;>
      rcases hcases' with ⟨q', hq', inner', entries', hinner', htexts', rfl⟩ | ⟨hq', rfl⟩
    · cases hq.symm.trans hq'
      obtain ⟨_, heq, ht⟩ := h.entries? hroot hinner
      cases heq.symm.trans hinner'
      exact .inr ⟨inner, inner', entries, entries', ht, htexts, htexts', rfl, rfl⟩
    · cases hq.symm.trans hq'
    · cases hq.symm.trans hq'
    · exact .inl ⟨rfl, rfl⟩
  · cases hp.symm.trans hp'
  · cases hp.symm.trans hp'
  · cases hnone
    cases hnone'
    exact .inl ⟨rfl, rfl⟩

theorem Yaml.Document.Overriding.size_le (h : d.Overriding root fields texts d' fields') :
    d.collections.size ≤ d'.collections.size := by
  cases h <;> simp [withFields, withMapping]

/-- **The static fields stay the same** iff nothing that they are made of is changed. -/
theorem Yaml.Document.Overriding.staticFields_eq_iff (hroot : d.rootFields? = some (root, fields))
    (h : d.Overriding root fields texts d' fields')
    (hnames : "stdout" ∉ texts.map Prod.fst ∧ "static_fields" ∉ texts.map Prod.fst)
    (hnodup : (texts.map Prod.fst).Nodup) {s s' : Settings}
    (hs : Settings.ofDocument d fields = .ok s) (hs' : Settings.ofDocument d' fields' = .ok s') :
    s'.staticFields = s.staticFields ↔ d.SameStatics d' := by
  obtain ⟨hkeys, -, es, hes, hstatics⟩ := Settings.ofDocument_eq_ok hs
  obtain ⟨-, -, es', hes', hstatics'⟩ := Settings.ofDocument_eq_ok hs'
  have hd := staticEntries?_eq hroot hes
  have hd' := staticEntries?_eq (h.rootFields? hroot) hes'
  rcases h.staticEntries_cases hroot hnames hes hes' with
    ⟨rfl, rfl⟩ | ⟨inner, inner', es, es', ht, htexts, htexts', rfl, rfl⟩
  · exact iff_of_true (hstatics'.trans hstatics.symm)
      ⟨hd'.trans hd.symm, fun es h => nomatch hd.symm.trans h⟩
  · constructor
    · intro heq
      rw [heq] at hstatics'
      obtain rfl := ht.entries_eq hkeys htexts htexts' hstatics hstatics'
      refine ⟨hd'.trans hd.symm, fun es hes e he n hreach => ?_⟩
      cases hd.symm.trans hes
      obtain ⟨w, hw, hw'⟩ := (unfoldFields_eq_ok_iff.1 hstatics).exists_of_mem_parts
        (unfoldFields_eq_ok_iff.1 hstatics') (List.mem_map_of_mem he)
      exact collection_eq_of_unfoldWithin_eq (h.tells hroot hnodup) hreach hw hw'
    · rintro ⟨hentries, hbelow⟩
      rw [hd, hd', Option.some.injEq] at hentries
      subst hentries
      have hsame : unfoldFields d'.collections es' = .ok s.staticFields := by
        refine unfoldFields_eq_ok_iff.2 ((unfoldFields_eq_ok_iff.1 hstatics).mono fun p hp w hw => ?_)
        obtain ⟨e, he, rfl⟩ := List.mem_map.1 hp
        exact unfoldWithin_congr (Nat.succ_le_succ h.size_le) (hbelow _ hd e he) hw
      exact Except.ok.inj (hstatics'.symm.trans hsame)

end

end MetricDocs
