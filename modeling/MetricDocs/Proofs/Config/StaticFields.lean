/-
  Which static fields are accepted.

  Static fields come from outside as a tree of any values.  What no document can hold is refused
  when they are written, and the first offence is the reason; everything else is read back, with
  lists for tuples and texts for keys.

  * `encode_eq_error_iff` and `exists_encode_iff`: what is refused, and what is accepted;
  * `encode_settled`: what becomes of every value whose integers and texts are ordinary.
-/
import MetricDocs.Proofs.Aggregator.Lines
import MetricDocs.Proofs.Json.Conversion

namespace MetricDocs.StaticFields

section
variable {v : Value} (h : ∀ p ∈ v.parts, p.Ordinary)
include h

theorem encode_eq_error_iff {e : Failure} :
    encode v = .error e ↔ ∃ f, v.parts.findSome? Part.offence? = some f ∧ e = .staticFields f := by
  have hrefusal : Json.refusal? (Json.encode .spaced v) = v.parts.findSome? Part.offence? :=
    Json.refusal?_encode rfl h
  rw [← hrefusal, encode, Json.render]
  cases Json.encode .spaced v <;> simp [Except.map, Except.mapError, eq_comm]

theorem exists_encode_iff :
    (∃ text, encode v = .ok text) ↔ ∀ p ∈ v.parts, p.offence? = none := by
  have haccepted : (∃ text, encode v = .ok text) ↔ ∀ e, encode v ≠ .error e := by
    cases encode v <;> simp
  rw [haccepted, ← List.findSome?_eq_none_iff]
  simp only [ne_eq, encode_eq_error_iff h]
  cases v.parts.findSome? Part.offence? <;> simp

/-- **Static fields are accepted iff nothing in them offends, and then nothing is lost.**  They are
    refused, as a faulty configuration, iff the tree holds a double that is not finite, a value of a
    kind that documents do not have, or a key of such a kind; the reason given is that of the first
    of them, depth first and a key before its value.  Otherwise the text that is written reads back
    as the value itself with lists for its tuples and texts for its keys, the last of equal texts at
    the place of the first. -/
theorem encode_settled :
    ((∃ e, encode v = .error e) ↔ ∃ p ∈ v.parts, p.offence? ≠ none) ∧
    (∀ e, encode v = .error e → e.kind = .configuration ∧
      ∃ f, v.parts.findSome? Part.offence? = some f ∧
        e.message = "static_fields invalid format: " ++ f.message) ∧
    ∀ text, encode v = .ok text → Json.decode? text = some v.asJson ∧ decode text = v.asJson := by
  refine ⟨?_, fun e he => ?_, fun text htext => ?_⟩
  · have hrefused : (∃ e, encode v = .error e) ↔ ¬ ∃ text, encode v = .ok text := by
      cases encode v <;> simp
    rw [hrefused, exists_encode_iff h]
    simp
  · obtain ⟨f, hf, rfl⟩ := (encode_eq_error_iff h).1 he
    exact ⟨rfl, f, hf, rfl⟩
  · have hnone := (exists_encode_iff h).1 ⟨text, htext⟩
    have hread : Json.reread .spaced v = v.asJson :=
      Json.reread_eq_asJson rfl fun p hp => ⟨h p hp, hnone p hp⟩
    rw [← hread]
    exact ⟨decode?_eq htext, decode_eq htext⟩

end

/-- A mapping of which two keys have the same text, with a tuple in it. -/
def collidingKeys : Value :=
  .mapping [(.int 1, .text "a"), (.null, .mapping [(.bool true, .int (-3))]),
    (.text "1", .tuple [.null, .float 0.5])]

/-- A mapping with a set and with a key that no document has. -/
def offendingKey : Value :=
  .mapping [(.text "a", .list [.int 1]), (.tuple [.int 1], .set [.int 2]), (.text "b", .bytes [])]

/-- Of the keys `1` and `"1"` the first gives the place and the second the value; a key that is a
    tuple is reported before its value and all that follows. -/
theorem collidingKeys_settled :
    (∃ text, encode collidingKeys = .ok text ∧ decode text = .mapping
      [(.text "1", .list [.null, .float 0.5]),
        (.text "null", .mapping [(.text "true", .int (-3))])]) ∧
    ∃ e, encode offendingKey = .error e ∧ e.kind = .configuration ∧
      e.message = "static_fields invalid format: " ++
        "keys must be str, int, float, bool or None, not tuple" := by
  have hdigits : (Decimal.natDigits 1).length ≤ 4300 ∧ (Decimal.natDigits 3).length ≤ 4300 := by
    decide
  have hcolliding : ∀ p ∈ collidingKeys.parts, p.Ordinary := by
    simp [collidingKeys, Value.parts, Value.partsAll, Value.partsFields, Part.Ordinary, hdigits]
  have hoffending : ∀ p ∈ offendingKey.parts, p.Ordinary := by
    simp [offendingKey, Value.parts, Value.partsAll, Value.partsFields, Part.Ordinary, hdigits]
  constructor
  · obtain ⟨hrefused, -, hread⟩ := encode_settled hcolliding
    cases hencode : encode collidingKeys with
    | error e =>
      have hnone : collidingKeys.parts.findSome? Part.offence? = none := rfl
      obtain ⟨p, hp, hoffends⟩ := hrefused.1 ⟨e, hencode⟩
      exact absurd (List.findSome?_eq_none_iff.1 hnone p hp) hoffends
    | ok text => exact ⟨text, rfl, (hread text hencode).2⟩
  · obtain ⟨hrefused, hreason, -⟩ := encode_settled hoffending
    have hkey : Part.key (.tuple [.int 1]) ∈ offendingKey.parts := by
      simp [offendingKey, Value.parts, Value.partsAll, Value.partsFields]
    obtain ⟨e, he⟩ := hrefused.2 ⟨_, hkey, Option.some_ne_none _⟩
    obtain ⟨hkind, f, hf, hmessage⟩ := hreason e he
    cases hf
    exact ⟨e, he, hkind, hmessage⟩

end MetricDocs.StaticFields
