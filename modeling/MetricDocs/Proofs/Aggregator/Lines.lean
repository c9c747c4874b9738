/-
  The line of one document, and what it reads as.

  * `StaticFields.decode?_eq` and `StaticFields.settled_decode`: the static fields are read back from
    their text, and what is read is settled;
  * `document base time fields` is the value of a document, `documentLine_eq_ok` its line;
  * `exists_documentLine`: a settled object has a line, and `decode?_line`: it reads as the document
    reread;
  * `document_leaf` and `leaf_of_document`: the leaves of the object are leaves of the document, and
    all others are the timestamp or come from the static fields;
  * `at?_timestamp` and `at?_document_of_none`: the timestamp is that of the pass, and any other
    field is that of the static fields, unless the object has a field of this name.
-/
import MetricDocs.Proofs.Json.Settled
import MetricDocs.Proofs.Value.Merging
import MetricDocs.Aggregator

namespace MetricDocs

/-! ## Static fields -/

namespace StaticFields

variable {fields : Value} {statics : String}

theorem encode_eq_ok (h : encode fields = .ok statics) :
    ∃ text, Json.encode .spaced fields = .ok text ∧ statics = String.ofList text := by
  rw [encode, Json.render] at h
  cases htext : Json.encode .spaced fields with
  | error e => rw [htext] at h; cases h
  | ok text =>
    rw [htext] at h
    cases h
    exact ⟨text, rfl, rfl⟩

/-- **The text of static fields is read back.** -/
theorem decode?_eq (h : encode fields = .ok statics) :
    Json.decode? statics = some (Json.reread .spaced fields) := by
  obtain ⟨text, htext, rfl⟩ := encode_eq_ok h
  have hread := @Json.decodeChars?_encode _ Json.SettledKey Json.Plain Json.Style.legible_spaced
    Json.SettledKey.isText (fun vs hvs => hvs.2 vs rfl) _ _ [] (by simp [Json.Style.spaced]) htext
    (by simp)
  rw [List.append_nil] at hread
  rw [Json.decode?, String.toList_ofList, hread]

theorem decode_eq (h : encode fields = .ok statics) :
    decode statics = Json.reread .spaced fields := by
  rw [decode, decode?_eq h, Option.getD_some]

theorem exists_decode {entries : Fields} (h : encode (.mapping entries) = .ok statics) :
    ∃ base, decode statics = .mapping base :=
  ⟨_, by rw [decode_eq h, Json.reread_mapping_eq]⟩

theorem settled_decode (h : encode fields = .ok statics) : Json.Settled (decode statics) := by
  obtain ⟨text, htext, -⟩ := encode_eq_ok h
  rw [decode_eq h]
  exact Json.settled_reread rfl fields htext

end StaticFields

/-! ## Documents -/

/-- The value of a document. -/
def document (base : Fields) (time : String) (fields : Fields) : Value :=
  .mapping (Fields.merge (Fields.put base (.text "@timestamp") (.text time)) fields)

section
variable {base fields : Fields} {statics time line : String}

theorem documentLine_mapping (hbase : StaticFields.decode statics = .mapping base) :
    documentLine statics time (.mapping fields) =
      (Json.encode .compact (document base time fields)).map
        fun text => String.ofList (text ++ ['\n']) := by
  rw [documentLine, documentValue, hbase, stamped]
  simp only [Value.merge]
  rw [← document]
  cases Json.encode .compact (document base time fields) <;> rfl

theorem documentLine_eq_ok (h : documentLine statics time (.mapping fields) = .ok line) :
    ∃ base text, StaticFields.decode statics = .mapping base ∧
      Json.encode .compact (document base time fields) = .ok text ∧
      line = String.ofList (text ++ ['\n']) := by
  cases hbase : StaticFields.decode statics with
  | mapping base =>
    rw [documentLine_mapping hbase] at h
    cases htext : Json.encode .compact (document base time fields) with
    | error e => rw [htext] at h; cases h
    | ok text =>
      rw [htext] at h
      cases h
      exact ⟨base, text, rfl, htext, rfl⟩
  | _ =>
    rw [documentLine, documentValue, hbase] at h
    cases h

section
variable {P : Key → Prop} {L : Value → Prop} (hP : ∀ k, P k → k.IsText) (hT : ∀ s, P (.text s))
variable (hL : ∀ s, L (.text s))
include hP hT hL

theorem formed_document (hbase : (Value.mapping base).Formed P L)
    (hfields : (Value.mapping fields).Formed P L) : (document base time fields).Formed P L :=
  Value.Formed.merge hP fields (hbase.put hP (hT _) (hL time)) hfields.2

end

/-- **A settled object has a line** over static fields that are a mapping. -/
theorem exists_documentLine (time : String) (hstatics : Json.Settled (StaticFields.decode statics))
    (hbase : StaticFields.decode statics = .mapping base)
    (hfields : Json.Settled (.mapping fields)) :
    ∃ line, documentLine statics time (.mapping fields) = .ok line := by
  have hdocument : Json.Settled (document base time fields) :=
    formed_document Json.SettledKey.isText Json.settledKey_text Json.plain_text
      (hbase ▸ hstatics) hfields
  obtain ⟨text, htext⟩ := Json.exists_encode .compact hdocument
  exact ⟨_, by rw [documentLine_mapping hbase, htext]; rfl⟩

/-- **A line reads as its document.** -/
theorem decode?_line {L : Value → Prop} (hL : ∀ vs, ¬ L (.tuple vs)) {text : List Char}
    (h : (document base time fields).Formed Json.SettledKey L)
    (htext : Json.encode .compact (document base time fields) = .ok text) :
    Json.decode? (String.ofList (text ++ ['\n'])) =
      some (Json.reread .compact (document base time fields)) := by
  rw [Json.decode?, String.toList_ofList]
  exact Json.decodeChars?_encode Json.Style.legible_compact Json.SettledKey.isText hL
    (fun _ => h) htext (by simp [Json.isSpace])

/-! ## What stands in a document -/

section
variable {P : Key → Prop} {L : Value → Prop} (hP : ∀ k, P k → k.IsText) {ks : List Key} {v : Value}
variable (h : (Value.mapping fields).Formed P L)
include hP h

theorem document_leaf (hv : (Value.mapping fields).Leaf ks v) :
    (document base time fields).Leaf ks v :=
  Value.leaf_merge hP h hv

/-- **Every leaf of a document** is one of the object, the timestamp, or from the static fields. -/
theorem leaf_of_document (hv : (document base time fields).Leaf ks v) :
    (Value.mapping fields).Leaf ks v ∨ ks = [.text "@timestamp"] ∧ v = .text time ∨
      (Value.mapping base).Leaf ks v := by
  refine (Value.leaf_of_merge hP h hv).imp_right fun hlower => ?_
  rw [@Fields.leaf_place?_iff base _ "@timestamp" [] (.text time) rfl rfl] at hlower
  exact hlower.imp id fun hold => hold.2.2

theorem at?_document_of_none {k : Key} (hk : k ≠ .text "@timestamp")
    (hget : Fields.get? fields k = none) (ks : List Key) :
    (document base time fields).at? (k :: ks) = (Value.mapping base).at? (k :: ks) := by
  rw [document, Value.at?_mapping_cons, Value.at?_mapping_cons, Fields.get?_merge_of_formed hP h,
    hget, Fields.get?_put_of_ne (Key.isText_text _) hk]

/-- The timestamp of a document is that of its pass, unless the object has a field of this name. -/
theorem at?_timestamp : (document base time fields).at? [.text "@timestamp"] =
    some ((Fields.get? fields (.text "@timestamp")).getD (.text time)) := by
  rw [document, Value.at?_mapping_cons, Fields.get?_merge_of_formed hP h,
    Fields.get?_put_self (Key.isText_text _)]
  cases Fields.get? fields (.text "@timestamp") with
  | none => rfl
  | some u =>
    have hself : u.laidOn (some (.text time)) = u :=
      Value.laidOn_eq_self (Or.inr fun ⟨base, heq⟩ => by cases heq)
    simp only [hself, Option.bind_some, Value.at?_nil, Option.getD_some]

end

end

end MetricDocs
