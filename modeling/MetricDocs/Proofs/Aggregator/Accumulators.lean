/-
  The metrics of an aggregator after a run.

  * `metrics_accumulate`: every metric has the value that its own accumulator makes of the commands
    that concern it, every table lists the paths that were addressed, and an update that is refused
    fails and changes no value.
-/
import MetricDocs.Proofs.Aggregator.Runs

namespace MetricDocs.Aggregator

theorem perform_store (a : Aggregator) (c : StoreCommand) : a.perform (.store c) =
    ({ a with store := (a.store.perform c).1, log := a.log ++ (a.store.perform c).2.1 },
      (a.store.perform c).2.2.map .store) := rfl

theorem perform_store_eq_error_iff (a : Aggregator) (c : StoreCommand) (e : Failure) :
    (a.perform (.store c)).2 = .error e ↔ (a.store.perform c).2.2 = .error e := by
  rw [perform_store]
  cases (a.store.perform c).2.2 with
  | error f => simp [Except.map]
  | ok r => simp [Except.map]

/-- **The metrics of an aggregator are accumulators apart from each other.**  After every run on a
    new aggregator, each metric has the value that the commands addressed to its kind and path and
    the flushes of its kind make of zero, whatever else was asked; each table lists the paths that
    were addressed in its kind, in the order of first use; a refused argument is a failure, as is
    adding to a timer or subtracting from it, and a command that fails changes no value. -/
theorem metrics_accumulate (statics : String) (family : Family) (sink : Sink) (clock : Clock)
    (commands : List Command) :
    let a := (start statics family sink clock).run commands
    let asked := commands.filterMap Command.store?
    (∀ h, a.store.value h = accumulated h.kind h.path asked) ∧
    (∀ kind, (a.store.table kind).paths = addressedPaths kind asked) ∧
    (∀ h change argument e, h.operand change argument = .error e →
      (a.perform (.store (.update h change argument))).2 = .error e) ∧
    ∀ c e, (a.perform (.store c)).2 = .error e →
      ∀ h, (a.perform (.store c)).1.store.value h = a.store.value h := by
  intro a asked
  have hstore : a.store = Store.empty.run asked := store_run _ commands
  refine ⟨fun h => ?_, fun kind => ?_, fun h change argument e he => ?_, fun c e hc h => ?_⟩
  · rw [hstore]
    exact Store.value_run asked h
  · rw [hstore]
    exact Store.paths_run asked kind
  · rw [perform_store_eq_error_iff, Store.perform, Store.update, he]
    rfl
  · exact Store.value_perform_of_error a.store ((perform_store_eq_error_iff a c e).1 hc) h

end MetricDocs.Aggregator
