/-
  What commands keep.

  * `sameSource_perform`: a command that is none for the store keeps the store and the static
    fields;
  * `statics_run` and `distinct_run`: so after every run the static fields are those of the start,
    and no path is in a table of the store twice;
  * `store_run`: the store after a run is what the commands for it make of it;
  * `steps`: the commands of a run, each with the aggregator that it found;
  * `create_eq_ok`: a new aggregator holds its static fields as text, and no metrics;
  * `Reached fields a`: `a` is a new aggregator over these static fields after some run;
    `built fields commands` is one, and `after commands` one over the default static fields.
-/
import MetricDocs.Proofs.Store.Accumulating
import MetricDocs.Proofs.Aggregator.Writing

namespace MetricDocs

/-- The command for the store, if it is one. -/
def Command.store? : Command → Option StoreCommand
  | .store c => some c
  | _ => none

namespace Aggregator

/-! ## Commands -/

theorem done_fst (r : Aggregator × Option Failure) : (done r).1 = r.1 := by
  rcases r with ⟨a, _ | e⟩ <;> rfl

theorem sameSource_perform (a : Aggregator) {c : Command} (h : ∀ c', c ≠ .store c') :
    SameSource a (a.perform c).1 := by
  cases c with
  | store c' => exact absurd rfl (h c')
  | buildSnapshot => exact (a.buildSnapshot_cases).1.toSameSource
  | write time object =>
    rw [perform, done_fst]
    unfold write
    rcases writeAt_cases a _ object with ⟨line, -, h, -⟩ | ⟨h, -⟩ <;> exact h.toSameSource
  | publish objects =>
    rw [perform, done_fst]
    obtain ⟨taken, -, -, h⟩ := writeObjects_some a (timestamp a.clock.second) objects
    exact (publish_cases a objects h).1.toSameSource
  | publishMetrics =>
    rw [perform, done_fst]
    obtain ⟨lines, h⟩ := took_publishMetrics a
    exact h.toSameSource
  | close =>
    rw [perform, done_fst, close]
    split_ifs
    · exact .refl a
    · have hsay : SameSource a ({ a with closed := true }.say Level.info
          "Closing stdout metrics, publishing final snapshot") := ⟨rfl, rfl⟩
      obtain ⟨lines, h⟩ := took_publishMetrics ({ a with closed := true }.say Level.info
        "Closing stdout metrics, publishing final snapshot")
      exact hsay.trans h.toSameSource
  | _ => exact ⟨rfl, rfl⟩

theorem statics_perform (a : Aggregator) (c : Command) : (a.perform c).1.statics = a.statics := by
  by_cases h : ∃ c', c = .store c'
  · obtain ⟨c', rfl⟩ := h
    rfl
  · exact (sameSource_perform a fun c' hc => h ⟨c', hc⟩).statics

theorem distinct_perform {a : Aggregator} (h : a.store.Distinct) (c : Command) :
    (a.perform c).1.store.Distinct := by
  by_cases hc : ∃ c', c = .store c'
  · obtain ⟨c', rfl⟩ := hc
    exact h.perform c'
  · exact (sameSource_perform a fun c' hc' => hc ⟨c', hc'⟩).store.symm ▸ h

/-! ## Runs -/

/-- **A run keeps the static fields.** -/
theorem statics_run (a : Aggregator) (commands : List Command) :
    (a.run commands).statics = a.statics := by
  induction commands generalizing a with
  | nil => rfl
  | cons c commands ih => exact (ih (a.perform c).1).trans (statics_perform a c)

/-- **After every run the paths of each table are distinct.** -/
theorem distinct_run {a : Aggregator} (h : a.store.Distinct) (commands : List Command) :
    (a.run commands).store.Distinct := by
  induction commands generalizing a with
  | nil => exact h
  | cons c commands ih => exact ih (distinct_perform h c)

theorem run_cons (a : Aggregator) (c : Command) (commands : List Command) :
    a.run (c :: commands) = (a.perform c).1.run commands := rfl

/-- **The store after a run** is what the commands for it make of it. -/
theorem store_run (a : Aggregator) (commands : List Command) :
    (a.run commands).store = a.store.run (commands.filterMap Command.store?) := by
  induction commands generalizing a with
  | nil => rfl
  | cons c commands ih =>
    rw [run_cons, ih]
    cases c with
    | store c' => rfl
    | _ => exact congrArg (Store.run · _) (sameSource_perform a (by simp)).store

/-- The commands of a run, each with the aggregator that it found. -/
def steps (a : Aggregator) : List Command → List (Aggregator × Command)
  | [] => []
  | c :: commands => (a, c) :: (a.perform c).1.steps commands

/-! ## New aggregators -/

theorem create_eq_ok {fields : Value} {family : Family} {sink : Sink} {clock : Clock}
    {a : Aggregator} (h : create fields family sink clock = .ok a) :
    StaticFields.encode fields = .ok a.statics ∧ a.store = .empty := by
  rw [create] at h
  cases hencode : StaticFields.encode fields with
  | error e => rw [hencode] at h; cases h
  | ok statics =>
    rw [hencode] at h
    cases h
    exact ⟨rfl, rfl⟩

/-- The aggregator is a new one over given static fields, after some run. -/
def Reached (fields : Value) (a : Aggregator) : Prop :=
  ∃ family sink clock a₀ commands, create fields family sink clock = .ok a₀ ∧ a₀.run commands = a

theorem Reached.statics {fields : Value} {a : Aggregator} (h : Reached fields a) :
    StaticFields.encode fields = .ok a.statics := by
  obtain ⟨family, sink, clock, a₀, commands, hcreate, rfl⟩ := h
  rw [statics_run]
  exact (create_eq_ok hcreate).1

theorem Reached.distinct {fields : Value} {a : Aggregator} (h : Reached fields a) :
    a.store.Distinct := by
  obtain ⟨family, sink, clock, a₀, commands, hcreate, rfl⟩ := h
  refine distinct_run ?_ commands
  rw [(create_eq_ok hcreate).2]
  exact Store.distinct_empty

/-- A new aggregator over the default static fields, after some commands. -/
def after (commands : List Command) : Aggregator :=
  (start "\x7b\"@service\": \"benthos\"\x7d" (.named "") .willing .start).run commands

theorem reached_after (commands : List Command) :
    Reached (.mapping StaticFields.default) (after commands) :=
  ⟨_, _, _, _, _, rfl, rfl⟩

/-- A new aggregator over static fields, after some commands. -/
def built (fields : Fields) (commands : List Command) : Aggregator :=
  (start ((StaticFields.encode (.mapping fields)).toOption.getD "") (.named "") .willing .start).run
    commands

theorem reached_built {fields : Fields} {statics : String}
    (h : StaticFields.encode (.mapping fields) = .ok statics) (commands : List Command) :
    Reached (.mapping fields) (built fields commands) :=
  ⟨.named "", .willing, .start, _, commands, by rw [create, h]; rfl, by rw [built, h]; rfl⟩

end Aggregator

end MetricDocs
