/-
  The store as one accumulator for each metric.

  A command concerns a metric if it is addressed to its kind and path, or flushes its kind.  What
  it makes of the value depends on that value alone, so every metric can be told by itself.

  * `StoreCommand.concerns` and `StoreCommand.accumulate`: which metrics a command concerns, and
    what it makes of their value;
  * `accumulated kind path commands` is what commands make of zero, and `addressedPaths kind
    commands` are the paths that they address, in the order of first use;
  * `Store.value_perform` and `Store.paths_perform`: one command; `Store.value_run` and
    `Store.paths_run`: all of them;
  * `Store.value_perform_of_error`: a command that fails changes no value.
-/
import MetricDocs.Proofs.Store.Flushing

namespace MetricDocs

/-! ## Accumulators -/

namespace StoreCommand

/-- The handle that a command is addressed to. -/
def handle? : StoreCommand → Option Handle
  | .touch h | .same h | .update h _ _ | .addTimes h _ _ => some h
  | .counters | .timers | .flushCounters | .flushTimers => none

/-- Whether a command is addressed to the metric of a kind at a path; labels do not count. -/
def addresses (c : StoreCommand) (kind : MetricKind) (path : String) : Bool :=
  c.handle?.any fun h => h.kind = kind ∧ h.path = path

/-- Whether a command flushes the metrics of a kind: gauges are flushed with the counters. -/
def flushes (c : StoreCommand) (kind : MetricKind) : Bool :=
  match c with
  | .flushCounters => kind ≠ .timer
  | .flushTimers => kind = .timer
  | _ => false

/-- Whether a command concerns the metric of a kind at a path. -/
def concerns (c : StoreCommand) (kind : MetricKind) (path : String) : Bool :=
  c.addresses kind path || c.flushes kind

/-- What a command makes of the value of a metric that it concerns. -/
def accumulate (c : StoreCommand) (n : ℤ) : ℤ :=
  match c with
  | .update h change argument =>
    match h.operand change argument with
    | .ok m => change.apply n m
    | .error _ => n
  | .addTimes h argument times =>
    match h.operand .add argument with
    | .ok m => n + times * m
    | .error _ => n
  | .flushCounters | .flushTimers => 0
  | .touch _ | .same _ | .counters | .timers => n

end StoreCommand

/-- What commands make of the value of a metric, from zero: those that concern it, one after
    another on a single number. -/
def accumulated (kind : MetricKind) (path : String) (commands : List StoreCommand) : ℤ :=
  (commands.filter (·.concerns kind path)).foldl (fun n c => c.accumulate n) 0

/-- The paths that commands address in a kind, each once, in the order of first use. -/
def addressedPaths (kind : MetricKind) (commands : List StoreCommand) : List String :=
  (((commands.filterMap StoreCommand.handle?).filter (·.kind = kind)).map Handle.path).eraseDups

theorem accumulated_append (kind : MetricKind) (path : String) (commands : List StoreCommand)
    (c : StoreCommand) : accumulated kind path (commands ++ [c]) =
      if c.concerns kind path then c.accumulate (accumulated kind path commands)
      else accumulated kind path commands := by
  rw [accumulated, List.filter_append, List.foldl_append, ← accumulated]
  by_cases h : c.concerns kind path
  · rw [if_pos h, List.filter_eq_self.2 (by simpa using h)]
    rfl
  · rw [if_neg h, List.filter_eq_nil_iff.2 (by simpa using h)]
    rfl

theorem addressedPaths_append (kind : MetricKind) (commands : List StoreCommand)
    (c : StoreCommand) : addressedPaths kind (commands ++ [c]) =
      match c.handle? with
      | some h => if h.kind = kind ∧ h.path ∉ addressedPaths kind commands then
          addressedPaths kind commands ++ [h.path] else addressedPaths kind commands
      | none => addressedPaths kind commands := by
  cases hc : c.handle? with
  | none => simp only [addressedPaths, List.filterMap_append, List.filterMap_cons_none hc,
      List.filterMap_nil, List.append_nil]
  | some h =>
    have happend : addressedPaths kind (commands ++ [c]) =
        (((commands.filterMap StoreCommand.handle?).filter (·.kind = kind)).map Handle.path ++
          ([h].filter (·.kind = kind)).map Handle.path).eraseDups := by
      rw [addressedPaths, List.filterMap_append, List.filterMap_cons_some hc, List.filterMap_nil,
        List.filter_append, List.map_append]
    rw [happend]
    by_cases hkind : h.kind = kind
    · simp only [hkind, true_and, decide_true, List.filter_cons_of_pos, List.filter_nil,
        List.map_cons, List.map_nil]
      exact eraseDups_concat _ _
    · simp [hkind, addressedPaths]

/-! ## One command -/

namespace Store

section
variable (s : Store)

theorem table_withTable (kind kind' : MetricKind) (t : Table) :
    (s.withTable kind t).table kind' = if kind = kind' then t else s.table kind' := by
  cases kind <;> cases kind' <;> rfl

theorem value_set (h h' : Handle) (n : ℤ) : (s.set h n).value h' =
    if h.kind = h'.kind ∧ h.path = h'.path then n else s.value h' := by
  rw [value, set, table_withTable, value]
  by_cases hkind : h.kind = h'.kind
  · rw [if_pos hkind, Table.value_set, hkind]
    simp only [true_and]
  · rw [if_neg hkind, if_neg fun h => hkind h.1]

theorem paths_set (h : Handle) (kind : MetricKind) (n : ℤ) : ((s.set h n).table kind).paths =
    if h.kind = kind ∧ h.path ∉ (s.table kind).paths then (s.table kind).paths ++ [h.path]
    else (s.table kind).paths := by
  rw [set, table_withTable]
  by_cases hkind : h.kind = kind
  · subst hkind
    rw [if_pos rfl, Table.paths_set]
    by_cases hpath : h.path ∈ (s.table h.kind).paths
    · rw [if_pos hpath, if_neg fun hp => hp.2 hpath]
    · rw [if_neg hpath, if_pos ⟨rfl, hpath⟩]
  · rw [if_neg hkind, if_neg fun hp => hkind hp.1]

theorem touch_eq_set (h : Handle) : s.touch h = s.set h (s.value h) := rfl

theorem withTable_withTable (kind : MetricKind) (t u : Table) :
    (s.withTable kind t).withTable kind u = s.withTable kind u := by
  cases kind <;> rfl

theorem set_set (h : Handle) (m n : ℤ) : (s.set h m).set h n = s.set h n := by
  have hset : ∀ t : Table, (t.set h.path m).set h.path n = t.set h.path n := by
    intro t
    induction t with
    | nil => simp [Table.set]
    | cons e t ih =>
      obtain ⟨q, k⟩ := e
      by_cases hq : q = h.path
      · simp [Table.set, hq]
      · simp [Table.set, hq, ih]
  rw [set, set, set, table_withTable, if_pos rfl, withTable_withTable, hset]

/-- A refused argument leaves the handle as it is; any other changes its value. -/
theorem update_fst (h : Handle) (change : Change) (argument : Value) :
    (s.update h change argument).1 =
      s.set h ((StoreCommand.update h change argument).accumulate (s.value h)) := by
  rw [update, StoreCommand.accumulate]
  cases h.operand change argument <;> rfl

end

theorem addTimes_eq_ok {h : Handle} {argument : Value} {m : ℤ}
    (hm : h.operand .add argument = .ok m) (s : Store) (times : ℕ) : s.addTimes h argument times =
      (s.set h (s.value h + times * m), .ok (s.value h + times * m)) := by
  induction times generalizing s with
  | zero => simp [addTimes, touch_eq_set]
  | succ times ih =>
    have hupdate : s.update h .add argument = (s.set h (s.value h + m), .ok (s.value h + m)) := by
      rw [update, hm]
      rfl
    have hsum : s.value h + m + times * m = s.value h + (times + 1 : ℕ) * m := by
      push_cast
      ring
    rw [addTimes, hupdate]
    simp only
    split_ifs with hzero
    · rw [← hsum, hzero, Nat.cast_zero, zero_mul, add_zero]
    · rw [ih, set_set, value_set, if_pos ⟨rfl, rfl⟩, hsum]

theorem addTimes_fst (s : Store) (h : Handle) (argument : Value) (times : ℕ) :
    (s.addTimes h argument times).1 =
      s.set h ((StoreCommand.addTimes h argument times).accumulate (s.value h)) := by
  rw [StoreCommand.accumulate]
  cases hm : h.operand .add argument with
  | ok m => rw [addTimes_eq_ok hm]
  | error e =>
    cases times with
    | zero => rfl
    | succ times =>
      rw [addTimes, update, hm]
      rfl

/-- **A command that is addressed to a handle** sets it to what it makes of its value. -/
theorem perform_eq_set {c : StoreCommand} {h : Handle} (hc : c.handle? = some h) (s : Store) :
    (s.perform c).1 = s.set h (c.accumulate (s.value h)) := by
  cases c with
  | touch _ | same _ => cases hc; rfl
  | update _ change argument => cases hc; exact s.update_fst h change argument
  | addTimes _ argument times => cases hc; exact s.addTimes_fst h argument times
  | counters | timers | flushCounters | flushTimers => cases hc

section
variable (s : Store)

theorem table_perform {c : StoreCommand} (hc : c.handle? = none) (kind : MetricKind) :
    (s.perform c).1.table kind =
      if c.flushes kind then (s.table kind).cleared else s.table kind := by
  cases c with
  | touch h | same h | update h change argument | addTimes h argument times => cases hc
  | counters | timers => rfl
  | flushCounters =>
    rw [perform, flushCounters_fst]
    cases kind <;> rfl
  | flushTimers =>
    rw [perform, flushTimers_fst]
    cases kind <;> rfl

/-- **One command** makes of the values what it makes of those that it concerns. -/
theorem value_perform (c : StoreCommand) (h : Handle) : (s.perform c).1.value h =
    if c.concerns h.kind h.path then c.accumulate (s.value h) else s.value h := by
  rw [StoreCommand.concerns, StoreCommand.addresses]
  -- a command has one handle, or it is a flush or a question about whole tables
  cases hc : c.handle? with
  | some h' =>
    have hflush : c.flushes h.kind = false := by
      cases c with
      | flushCounters | flushTimers => cases hc
      | _ => rfl
    rw [perform_eq_set hc, value_set, hflush]
    simp only [Option.any_some, Bool.or_false, decide_eq_true_eq]
    split_ifs with hsame
    · rw [value, value, hsame.1, hsame.2]
    · rfl
  | none =>
    rw [value, table_perform s hc, Option.any_none, Bool.false_or]
    split_ifs with hflush
    · rw [Table.value_cleared]
      cases c with
      | flushCounters | flushTimers => rfl
      | _ => cases hflush
    · rfl

/-- **One command** makes the handle stand in its table that it is addressed to. -/
theorem paths_perform (c : StoreCommand) (kind : MetricKind) :
    ((s.perform c).1.table kind).paths =
      match c.handle? with
      | some h => if h.kind = kind ∧ h.path ∉ (s.table kind).paths then
          (s.table kind).paths ++ [h.path] else (s.table kind).paths
      | none => (s.table kind).paths := by
  cases hc : c.handle? with
  | some h => rw [perform_eq_set hc, paths_set]
  | none =>
    rw [table_perform s hc]
    simp only
    split_ifs
    · exact Table.paths_cleared _
    · rfl

/-- **A command that fails changes no value.** -/
theorem value_perform_of_error {c : StoreCommand} {e : Failure}
    (hc : (s.perform c).2.2 = .error e) (h : Handle) : (s.perform c).1.value h = s.value h := by
  have hkept : ∀ n, c.accumulate n = n := by
    intro n
    cases c with
    | update h' change argument =>
      rw [StoreCommand.accumulate]
      cases hm : h'.operand change argument with
      | error e => rfl
      | ok m =>
        rw [perform, update, hm] at hc
        cases hc
    | addTimes h' argument times =>
      rw [StoreCommand.accumulate]
      cases hm : h'.operand .add argument with
      | error e => rfl
      | ok m =>
        rw [perform, addTimes_eq_ok hm] at hc
        cases hc
    | flushCounters | flushTimers => cases hc
    | _ => rfl
  rw [value_perform, hkept, ite_self]

end

/-! ## Runs -/

/-- Carries out commands in order: the store after them. -/
def run (s : Store) (commands : List StoreCommand) : Store :=
  commands.foldl (fun s c => (s.perform c).1) s

theorem run_append (s : Store) (commands : List StoreCommand) (c : StoreCommand) :
    s.run (commands ++ [c]) = ((s.run commands).perform c).1 := List.foldl_append

/-- **After any commands every metric has the value of its own accumulator.** -/
theorem value_run (commands : List StoreCommand) (h : Handle) :
    (empty.run commands).value h = accumulated h.kind h.path commands := by
  induction commands using List.reverseRecOn with
  | nil =>
    obtain ⟨kind, path, labels⟩ := h
    cases kind <;> rfl
  | append_singleton commands c ih => rw [run_append, value_perform, accumulated_append, ih]

/-- **After any commands every table lists the paths that they addressed**, in the order of first
    use. -/
theorem paths_run (commands : List StoreCommand) (kind : MetricKind) :
    ((empty.run commands).table kind).paths = addressedPaths kind commands := by
  induction commands using List.reverseRecOn with
  | nil => cases kind <;> rfl
  | append_singleton commands c ih => rw [run_append, paths_perform, addressedPaths_append, ih]

end Store

end MetricDocs
