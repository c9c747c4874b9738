/-
  The line of one metric set.

  * `MetricSet object`: texts as keys at every level, and at the leaves what documents can hold;
  * `StaticFields.stable_decode`: what is read of the static fields reads back as itself;
  * `a.stamp time`: the time that a document is given;
  * `line_framed`: a metric set is handed to the sink as one line of printable characters, with
    ascending keys, which reads as the static fields and the time under the metric set.
-/
import MetricDocs.Proofs.Aggregator.Runs
import MetricDocs.Proofs.Aggregator.Lines
import MetricDocs.Proofs.Json.Ascii
import MetricDocs.Proofs.Json.Canonical

namespace MetricDocs

theorem StaticFields.stable_decode {fields : Value} {statics : String}
    (h : encode fields = .ok statics) :
    (decode statics).Formed Json.SettledKey Json.Stable := by
  obtain ⟨text, htext, -⟩ := encode_eq_ok h
  rw [decode_eq h]
  exact Json.formed_reread rfl (fun _ _ => Json.stable_reread) htext

namespace Aggregator

/-! ## Metric sets -/

/-- What a metric set holds besides mappings and lists: null, truth values, texts, whole numbers
    that are not too long, and finite doubles. -/
def Portable : Value → Prop
  | .null | .bool _ | .text _ => True
  | .int n => Decimal.tooLong n = false
  | .float x => Decimal.magnitude x ≠ .nan ∧ Decimal.magnitude x ≠ .infinite
  | _ => False

/-- Nested mappings with distinct texts as keys, and portable leaves. -/
def MetricSet (object : Fields) : Prop :=
  (Value.mapping object).Formed (fun k => ∃ s, k = .text s) Portable

theorem Portable.stable {v : Value} (h : Portable v) : Json.Stable v := by
  cases v with
  | null => exact ⟨Json.plain_null, fun _ => rfl⟩
  | bool b => exact ⟨Json.plain_bool b, fun _ => rfl⟩
  | text s => exact Json.stable_text s
  | int n => exact ⟨Json.plain_int h, fun _ => rfl⟩
  | float x =>
    obtain ⟨text, htext⟩ : ∃ text, Json.floatLiteral x = .ok text := by
      rw [Json.floatLiteral]
      cases hm : Decimal.magnitude x with
      | nan => exact absurd hm h.1
      | infinite => exact absurd hm h.2
      | zero => exact ⟨_, rfl⟩
      | finite b => exact ⟨_, rfl⟩
    exact ⟨Json.plain_float htext, fun _ => rfl⟩
  | _ => cases h

theorem MetricSet.formed {object : Fields} (h : MetricSet object) :
    (Value.mapping object).Formed Json.SettledKey Json.Stable := by
  refine Value.Formed.mono ?_ (fun v => Portable.stable) h
  rintro _ ⟨s, rfl⟩
  exact Json.settledKey_text s

/-! ## Lines -/

/-- The time that a document is given: the present one if it is not told another. -/
def stamp (a : Aggregator) (time : Option String) : String :=
  match time with
  | none | some "" => timestamp a.clock.second
  | some t => t

theorem write_eq (a : Aggregator) (time : Option String) (object : Value) :
    a.write time object = a.writeAt (a.stamp time) object := rfl

/-- **A metric set is framed as one line.**  Whatever the static fields, the time and the metric
    set, what is handed to the sink is a text of printable characters and a line end; the text is
    that of a value in its own order, all keys of which ascend; and this value is what the line
    reads as, and what the metric set gives over the static fields and the time, up to the order of
    entries. -/
theorem line_framed {fields : Fields} {a : Aggregator} (h : Reached (.mapping fields) a)
    (time : Option String) {object : Fields} (hobject : MetricSet object) :
    ∃ (text : List Char) (base : Fields) (w : Value),
      a.write time (.mapping object) =
        a.putLine (.mapping object) (String.ofList (text ++ ['\n'])) ∧
      (a.sink.writeFault a.sink.writes = none →
        (a.write time (.mapping object)).1.out = a.out ++ [String.ofList (text ++ ['\n'])]) ∧
      Json.Printable text ∧
      Json.encode Json.Style.compact.inOrder w = .ok text ∧
      (∀ inner, w.Contains (.mapping inner) → inner.Pairwise fun e e' => e.1.Before e'.1) ∧
      Json.decode? (String.ofList (text ++ ['\n'])) = some w ∧
      StaticFields.decode a.statics = .mapping base ∧
      (document base (a.stamp time) object).Reordered w := by
  have hstatics := StaticFields.stable_decode h.statics
  obtain ⟨base, hbase⟩ := StaticFields.exists_decode h.statics
  rw [hbase] at hstatics
  -- the document is of the form that its two parts have
  have hdocument : (document base (a.stamp time) object).Formed Json.SettledKey Json.Stable :=
    formed_document Json.SettledKey.isText Json.settledKey_text Json.stable_text hstatics
      hobject.formed
  have hplain : (document base (a.stamp time) object).Formed Json.SettledKey Json.Plain :=
    hdocument.mono (fun _ => id) fun _ hv => hv.1
  obtain ⟨text, htext⟩ := Json.exists_encode .compact hplain
  have htuple : ∀ vs, ¬ Json.Plain (.tuple vs) := fun vs hvs => hvs.2 vs rfl
  have hwrite : a.write time (.mapping object) =
      a.putLine (.mapping object) (String.ofList (text ++ ['\n'])) := by
    rw [write_eq, writeAt, documentLine_mapping hbase, htext]
    rfl
  refine ⟨text, base, _, hwrite, fun hsink => ?_, ?_, ?_, fun inner => ?_,
    decode?_line htuple hplain htext, hbase, Json.reordered_reread hdocument⟩
  · rw [hwrite]
    rcases putLine_cases a (.mapping object) (String.ofList (text ++ ['\n'])) with
      ⟨htook, -⟩ | ⟨-, f, hf⟩
    · exact htook.out
    · rw [hsink] at hf
      cases hf
  · exact Json.printable_encode (by simp [Json.Style.compact]) (by simp [Json.Style.compact])
      Json.SettledKey.isText htuple (fun _ => hplain) htext
  · rw [Json.encode_reread hdocument, htext]
  · exact Json.ascending_reread rfl htuple hplain

/-- A metric set with leaves of all kinds, and texts that must be escaped. -/
def everyLeaf : Fields :=
  [(.text "z\"\\\n", .text "\u2028😀\x7f"), (.text "@timestamp", .null),
    (.text "b", .mapping [(.text "y", .list [.int (-5), .float 0.5]), (.text "x", .bool true)])]

theorem metricSet_everyLeaf : MetricSet everyLeaf := by
  have hfloat : Portable (.float 0.5) := ⟨by decide +kernel, by decide +kernel⟩
  have hint : Portable (.int (-5)) := by simp only [Portable]; decide +kernel
  have hnull : Portable .null := trivial
  have hbool : Portable (.bool true) := trivial
  have htext : ∀ s, Portable (.text s) := fun _ => trivial
  simp [MetricSet, everyLeaf, Value.Formed, Value.FormedFields, Value.FormedAll, hfloat, hint,
    hnull, hbool, htext]

/-- The line of such a metric set, at a time that must be escaped as well. -/
theorem everyLeaf_framed : ∃ (a : Aggregator) (text : List Char) (base : Fields) (w : Value),
    Reached (.mapping StaticFields.default) a ∧ MetricSet everyLeaf ∧
      (a.write (some "now\n") (.mapping everyLeaf)).1.out = [String.ofList (text ++ ['\n'])] ∧
      Json.Printable text ∧ Json.decode? (String.ofList (text ++ ['\n'])) = some w ∧
      (document base "now\n" everyLeaf).Reordered w := by
  have hreached := reached_after []
  obtain ⟨text, base, w, -, hout, hprintable, -, -, hdecode, -, hw⟩ :=
    line_framed hreached (some "now\n") metricSet_everyLeaf
  exact ⟨_, text, base, w, hreached, metricSet_everyLeaf, hout rfl, hprintable, hdecode, hw⟩

end Aggregator

end MetricDocs
