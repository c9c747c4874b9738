/-
  Log lines in JSON.

  * `encode_textFields`: an object of texts is written as any other mapping is, so
    `decode?_textObject` reads it back, and `printable_textObject` says what characters it has;
  * `toList_render_json` and `notMem_render_json`: the line of a record is such an object, and holds no
    line end;
  * `splitOn_lines`: lines without line ends are the parts of the stream that joins them;
  * `written_of_handler`: what a root logger writes is a stream of its records;
  * `stream_json_framed`: whatever texts are logged, a stream of records splits into one line for
    each, and each line reads as its record.
-/
import MetricDocs.Proofs.Json.Ascii
import MetricDocs.Proofs.Json.Settled
import MetricDocs.RootLogger

namespace MetricDocs

/-- Texts as the fields of a mapping. -/
def textFields (entries : List (String × String)) : Fields :=
  entries.map fun e => (.text e.1, .text e.2)

namespace Json

/-! ## Objects of texts -/

section
variable (entries : List (String × String))

theorem members_texts (sep : List Char) :
    members sep (entries.map fun e => (.text e.1, .ok (literal e.2))) =
      .ok (entries.map fun e => literal e.1 ++ sep ++ literal e.2) := by
  induction entries with
  | nil => rfl
  | cons e entries ih =>
    rw [List.map_cons, members, ih]
    rfl

/-- **An object of texts is written as a mapping is.** -/
theorem encode_textFields :
    encode .spaced (.mapping (textFields entries)) = .ok (textObject entries) := by
  have hfields : (arranged .spaced (textFields entries)).map (fun e => (e.1, encode .spaced e.2)) =
      entries.map fun e => (.text e.1, .ok (literal e.2)) := by
    rw [arranged, if_neg (by simp [Style.spaced]), textFields, List.map_map]
    exact List.map_congr_left fun e _ => by simp [encode]
  rw [encode_mapping (by simp [Style.spaced]), hfields, members_texts]
  rfl

theorem printable_textObject : Printable (textObject entries) :=
  printable_encode (L := Plain) (by simp [Style.spaced]) (by simp [Style.spaced]) SettledKey.isText
    (fun vs hvs => hvs.2 vs rfl) (by simp [Style.spaced]) (encode_textFields entries)

variable {entries}

/-- **An object of texts is read back** if its names are distinct. -/
theorem decode?_textObject (h : (entries.map Prod.fst).Nodup) :
    decode? (String.ofList (textObject entries)) = some (.mapping (textFields entries)) := by
  have hformed : (Value.mapping (textFields entries)).Formed SettledKey Plain := by
    refine Value.formed_mapping_iff.2 ⟨?_, ?_⟩
    · rw [textFields, List.map_map, show Prod.fst ∘ _ = Key.text ∘ Prod.fst from rfl,
        ← List.map_map]
      exact h.map fun _ _ heq => Key.text.inj heq
    · intro e he
      obtain ⟨e, -, rfl⟩ := List.mem_map.1 he
      exact ⟨settledKey_text _, (Value.formed_scalar_iff rfl).2 (plain_text _)⟩
  have hread : decodeChars? (textObject entries ++ []) =
      some (reread .spaced (.mapping (textFields entries))) :=
    decodeChars?_encode Style.legible_spaced SettledKey.isText (fun vs hvs => hvs.2 vs rfl)
      (fun _ => hformed) (encode_textFields entries) (by simp)
  rw [List.append_nil, reread_mapping hformed, arranged, if_neg (by simp [Style.spaced])] at hread
  rw [decode?, String.toList_ofList, hread, textFields, List.map_map]
  simp [reread]

end

end Json

/-! ## Lines -/

theorem splitOn_lines {lines : List (List Char)} (h : ∀ line ∈ lines, '\n' ∉ line) :
    (lines.flatMap fun line => line ++ ['\n']).splitOn '\n' = lines ++ [[]] := by
  -- a line end behind every line stands between it and the next, the last one empty
  have hjoin : (lines.flatMap fun line => line ++ ['\n']) = ['\n'].intercalate (lines ++ [[]]) := by
    clear h
    induction lines with
    | nil => rfl
    | cons line lines ih =>
      obtain ⟨next, rest, hnext⟩ := List.exists_cons_of_ne_nil
        (List.append_ne_nil_of_right_ne_nil lines (List.cons_ne_nil ([] : List Char) []))
      rw [List.flatMap_cons, ih, List.cons_append, hnext, List.intercalate_cons_cons]
  rw [hjoin]
  refine List.splitOn_intercalate '\n' ?_ (by simp)
  intro line hline
  rcases List.mem_append.1 hline with hline | hline
  · exact h line hline
  · rw [List.mem_singleton.1 hline]
    exact List.not_mem_nil

namespace LogFormat

section
variable (zone : Zone) (e : LogEntry)

theorem toList_render_json : (json.render zone e).toList = textObject (e.fields zone) :=
  String.toList_ofList

/-- **A line in JSON holds no line end.** -/
theorem notMem_render_json : '\n' ∉ (json.render zone e).toList := by
  rw [toList_render_json]
  intro hmem
  have hprintable := Json.printable_textObject (e.fields zone) '\n' hmem
  exact absurd hprintable.1 (by decide)

theorem nodup_fields : ((e.fields zone).map Prod.fst).Nodup := by
  obtain ⟨second, level, record⟩ := e
  cases hfailure : record.failure <;> simp [LogEntry.fields, hfailure]

theorem toList_renderAll (format : LogFormat) (entries : List LogEntry) :
    (format.renderAll zone entries).toList =
      (entries.map fun e => (format.render zone e).toList).flatMap fun line => line ++ ['\n'] := by
  simp [renderAll, String.toList_join, List.flatMap_map]

end

/-! ## Streams -/

theorem written_of_handler (format : LogFormat) (zone : Zone) (level second : ℤ)
    (records : List LogRecord) :
    (⟨level, some format⟩ : RootLogger).written zone second records =
      format.renderAll zone ((records.filter (level ≤ ·.level)).map (LogRecord.entry second)) := by
  refine String.toList_injective ?_
  rw [RootLogger.written, renderAll, String.toList_join, String.toList_join]
  -- records below the level are written as nothing
  induction records with
  | nil => rfl
  | cons r records ih =>
    rw [List.map_cons, List.flatMap_cons, ih, RootLogger.line]
    by_cases hlevel : level ≤ r.level
    · rw [if_neg (not_lt.2 hlevel), List.filter_cons, if_pos (decide_eq_true hlevel)]
      rfl
    · rw [if_pos (not_le.1 hlevel), List.filter_cons, if_neg (by simpa using hlevel)]
      rfl

/-- **Log lines in JSON are framed and read back.**  Whatever the time zone, and whatever the times,
    levels, loggers and messages of the records are: the stream of any records splits at its line ends
    into one line for each of them and nothing behind the last; every line consists of printable
    characters; and it reads as an object of the time, level, logger and message of its record, in this
    order, and of nothing else unless the record reports a failure.  What a root logger writes in JSON
    is such a stream, of the records that come up to its level. -/
theorem stream_json_framed (zone : Zone) :
    (∀ entries : List LogEntry,
      (json.renderAll zone entries).toList.splitOn '\n' =
        (entries.map fun e => (json.render zone e).toList) ++ [[]] ∧
      ∀ e ∈ entries, Json.Printable (json.render zone e).toList ∧
        Json.decode? (json.render zone e) = some (.mapping
          ([(.text "time", .text (logTime zone e.second)), (.text "level", .text e.level),
            (.text "logger", .text e.record.logger), (.text "message", .text e.record.message)] ++
          (e.record.failure.map fun f => (Key.text "exc_info", Value.text f.report)).toList))) ∧
    ∀ (level second : ℤ) (records : List LogRecord),
      (⟨level, some json⟩ : RootLogger).written zone second records =
        json.renderAll zone ((records.filter (level ≤ ·.level)).map fun r =>
          ⟨second, levelName r.level, r⟩) := by
  refine ⟨fun entries => ⟨?_, fun e _ => ⟨?_, ?_⟩⟩, written_of_handler json zone⟩
  · rw [toList_renderAll, splitOn_lines]
    intro line hline
    obtain ⟨e, -, rfl⟩ := List.mem_map.1 hline
    exact notMem_render_json zone e
  · rw [toList_render_json]
    exact Json.printable_textObject (e.fields zone)
  · rw [render, Json.decode?_textObject (nodup_fields zone e)]
    obtain ⟨second, level, ⟨n, logger, message, failure⟩⟩ := e
    cases failure <;> rfl

end LogFormat

end MetricDocs
