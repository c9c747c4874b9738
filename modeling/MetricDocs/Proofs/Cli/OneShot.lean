/-
  What a run leaves that publishes once.

  * `read_oneShot`: the command line asks for such a run, unless the path does not stand as a value,
    which begins with a minus sign then (`head?_of_not_plain`);
  * `runSettings_once`: a run under settings whose level names one;
  * `oneShot_outcome`: a configuration that cannot be loaded is reported, and any other is published
    with its static fields, in one line.
-/
import MetricDocs.Cli.Program
import MetricDocs.Proofs.Aggregator.Closing
import MetricDocs.Proofs.Aggregator.Idle
import MetricDocs.Proofs.Decimal.Integers
import MetricDocs.Proofs.Config.Reporting

namespace MetricDocs.Cli

/-- The arguments of a run that publishes once under the configuration at a path. -/
def oneShot (path : String) : List String := ["--config", path, "--once"]

section
variable {path : String}

theorem ofText_config : ArgForm.ofText "--config" = .ok (.option .config none) := by
  decide +kernel

theorem ofText_once : ArgForm.ofText "--once" = .ok (.option .once none) := by
  decide +kernel

theorem read_oneShot (h : ArgForm.ofText path = .ok .plain) :
    Arguments.read (oneShot path) = .ok (.run (some path) true) := by
  have hforms : formsOf (oneShot path) = .ok
      [("--config", .option .config none), (path, .plain), ("--once", .option .once none)] := by
    simp [oneShot, formsOf, ofText_config, ofText_once, h, bind, Except.bind, pure, Except.pure]
  rw [Arguments.read, hforms]
  rfl

theorem exists_error_of_not_plain (h : ArgForm.ofText path ≠ .ok .plain) :
    ∃ e, Arguments.read (oneShot path) = .error e := by
  rcases hform : ArgForm.ofText path with e | form
  · refine ⟨e, ?_⟩
    simp [Arguments.read, oneShot, formsOf, ofText_config, hform, bind, Except.bind]
  -- an option or a marker is not taken for the value of the one before
  · refine ⟨.noValue .config, ?_⟩
    cases form with
    | plain => exact absurd hform h
    | _ =>
      simp [Arguments.read, oneShot, formsOf, ofText_config, ofText_once, hform, bind, Except.bind,
        pure, Except.pure, readForms]

/-- **A path that is no value** begins with a minus sign. -/
theorem head?_of_not_plain (h : ArgForm.ofText path ≠ .ok .plain) :
    path.toList.head? = some '-' := by
  contrapose! h
  rw [ArgForm.ofText]
  split
  -- a marker, a long name and letters all begin with a minus sign
  iterate 3
    · rename_i heq
      exact absurd (congrArg List.head? heq) h
  · rfl

end

/-! ## A run under settings -/

section
variable {w : World} {path : String} {s : Settings} {uptime : ℤ}

theorem close_of_start {statics : String} {opened closed : Clock} {fields : Fields}
    (huptime : Decimal.truncate? ((closed.mono - opened.mono) * 1000.0) = some uptime)
    (hthreads : Decimal.tooLong closed.threads = false)
    (hstatics : StaticFields.encode (.mapping fields) = .ok statics) :
    let a := { Aggregator.start statics (.named "") .willing opened with clock := closed }
    ∃ line, a.close.1.out = [line] ∧ a.close.2 = none ∧
      Aggregator.SystemLine (Json.reread .spaced (.mapping fields)) (timestamp closed.second) uptime
        closed.threads line := by
  intro a
  rw [Aggregator.close_of_open rfl]
  exact Aggregator.publishMetrics_of_empty hstatics rfl (Aggregator.systemStats_eq huptime)
    (Decimal.tooLong_of_truncate? huptime) hthreads (fun _ => rfl) (fun _ => rfl)

/-- **A run under settings that publishes once** exits with zero, and writes the document of the
    system over the static fields. -/
theorem runSettings_once
    (huptime : Decimal.truncate? ((w.closed.mono - w.opened.mono) * 1000.0) = some uptime)
    (hthreads : Decimal.tooLong w.closed.threads = false)
    (hstatics : ∃ text, StaticFields.encode (.mapping s.staticFields) = .ok text)
    (hlevel : ∃ n, levelOf s.global.logLevel = .ok n) :
    (runSettings w path true s).exit = .ok 0 ∧
      Aggregator.SystemLine (Json.reread .spaced (.mapping s.staticFields))
        (timestamp w.closed.second) uptime w.closed.threads (runSettings w path true s).stdout := by
  obtain ⟨statics, hencode⟩ := hstatics
  obtain ⟨n, hn⟩ := hlevel
  have hroot : RootLogger.fresh.configured s.global.logLevel s.global.logFormat =
      .ok ⟨n, some (.ofName s.global.logFormat)⟩ := by
    rw [RootLogger.configured, RootLogger.fresh, hn]
    rfl
  have hcreate : Aggregator.create (.mapping s.staticFields) (.named "") .willing w.opened =
      .ok (Aggregator.start statics (.named "") .willing w.opened) := by
    rw [Aggregator.create, hencode]
    rfl
  obtain ⟨line, hout, hnone, hline⟩ := close_of_start huptime hthreads hencode
  have hrun : ∃ before, runSettings w path true s =
      closing w ⟨n, some (.ofName s.global.logFormat)⟩
        (Aggregator.start statics (.named "") .willing w.opened) before none := by
    rw [runSettings, hroot]
    simp only [hcreate]
    exact ⟨_, rfl⟩
  obtain ⟨before, hrun⟩ := hrun
  rw [hrun, closing]
  simp only [hout, hnone]
  exact ⟨trivial, hline⟩

end

/-! ## The main theorem -/

/-- **A run that publishes once.**  Whatever the zone and the clocks are, as long as the milliseconds
    between opening and closing are finite, for every path, whatever stands there and whatever the
    environment says:

    * a path that does not stand as a value is refused with the code two, and begins with a minus sign;
    * if it cannot be loaded, that is reported with the code one, and nothing is written;
    * if it can and its level names one, the code is zero, and one line is written, which reads as
      the document of the system over all static fields. -/
theorem oneShot_outcome (w : World) (uptime : ℤ)
    (huptime : Decimal.truncate? ((w.closed.mono - w.opened.mono) * 1000.0) = some uptime)
    (hthreads : Decimal.tooLong w.closed.threads = false) (path : String) :
    (ArgForm.ofText path ≠ .ok .plain → path.toList.head? = some '-' ∧
      ∃ e : UsageError, run w (oneShot path) = .refused 2 e.report) ∧
    (ArgForm.ofText path = .ok .plain →
      (∀ e, Settings.load w.look path w.environment = .error e →
        run w (oneShot path) = .refused 1 (loadReport w.told e)) ∧
      ∀ s, Settings.load w.look path w.environment = .ok s →
        (∃ n, levelOf s.global.logLevel = .ok n) →
        (run w (oneShot path)).exit = .ok 0 ∧
          Aggregator.SystemLine (Json.reread .spaced (.mapping s.staticFields))
            (timestamp w.closed.second) uptime w.closed.threads (run w (oneShot path)).stdout) := by
  refine ⟨fun hform => ?_, fun hform => ⟨fun e he => ?_, fun s hs hlevel => ?_⟩⟩
  · obtain ⟨e, he⟩ := exists_error_of_not_plain hform
    exact ⟨head?_of_not_plain hform, e, by rw [run, he]⟩
  · rw [run, read_oneShot hform]
    simp only [settingsAt, he]
    rfl
  · have hrun : run w (oneShot path) = runSettings w path true s := by
      rw [run, read_oneShot hform]
      simp only [settingsAt, hs]
      rfl
    rw [hrun]
    exact runSettings_once huptime hthreads (exists_encode_of_load hs) hlevel

/-- Every path leads to a file with a given text, and a run takes a quarter of a second. -/
def World.ofText (text : String) (env : Environment) : World :=
  ⟨fun _ => .file text.toUTF8.toList, env, .utc, .start, { Clock.start with mono := 0.25 }, 15,
    fun _ => ""⟩

/-- Static fields of which one stands beside the system's own fields. -/
theorem zonedSystem_oneShot :
    let w := World.ofText "stdout:\n  static_fields:\n    system:\n      zone: eu\n" ⟨"debug", ""⟩
    let out := run w (oneShot "m.yaml")
    (Decimal.truncate? ((w.closed.mono - w.opened.mono) * 1000.0) = some 250 ∧
      Decimal.tooLong w.closed.threads = false ∧ ArgForm.ofText "m.yaml" = .ok .plain) ∧
    (∃ s, Settings.load w.look "m.yaml" w.environment = .ok s ∧
      ∃ n, levelOf s.global.logLevel = .ok n) ∧
    out.exit = .ok 0 ∧ ∃ doc, Json.decode? out.stdout = some doc ∧
      doc.at? [.text "system", .text "uptime"] = some (.int 250) ∧
      doc.at? [.text "system", .text "zone"] = some (.text "eu") := by
  intro w out
  have huptime : Decimal.truncate? ((w.closed.mono - w.opened.mono) * 1000.0) = some 250 := by
    decide +kernel
  have hthreads : Decimal.tooLong w.closed.threads = false := by decide +kernel
  have hform : ArgForm.ofText "m.yaml" = .ok .plain := by decide +kernel
  obtain ⟨s, hs, hchecked⟩ := exists_ok_of_any
    (p := fun s : Settings => (levelOf s.global.logLevel).toOption.isSome &&
      ((Json.reread .spaced (.mapping s.staticFields)).at? [.text "system", .text "zone"]).any
        (Value.isText "eu"))
    (r := Settings.load w.look "m.yaml" w.environment) (by decide +kernel)
  obtain ⟨hlevel, hzone⟩ := Bool.and_eq_true_iff.1 hchecked
  obtain ⟨n, hn, -⟩ := exists_ok_of_any (p := fun _ => true)
    (r := levelOf s.global.logLevel) (by simpa [Option.any_true] using hlevel)
  obtain ⟨hexit, line, -, -, doc, hdoc, hsystem⟩ :=
    ((oneShot_outcome w 250 huptime hthreads "m.yaml").2 hform).2 s hs ⟨n, hn⟩
  refine ⟨⟨huptime, hthreads, hform⟩, ⟨s, hs, n, hn⟩, hexit, doc, hdoc, hsystem.uptime, ?_⟩
  have hapart : Aggregator.Apart [.text "system", .text "zone"] := by
    simp [Aggregator.Apart, Aggregator.ownPlaces, segmentKeys, List.cons_prefix_cons]
  obtain ⟨v, hv, hzone⟩ := (Option.any_eq_true _ _).1 hzone
  rw [hsystem.statics _ hapart, hv, Value.isText_eq_true_iff.1 hzone]
  rfl

/-- A path with a minus sign is refused with the code two, and the name of a template in the place of a
    level breaks the run off. -/
theorem minusPath_templateLevel_break :
    (run (.ofText "" .empty) (oneShot "-x")).exit.toOption = some 2 ∧
      (run (.ofText "global:\n  log_level: basic_format\n" .empty) (oneShot "m.yaml")).exit.toOption =
        none := by
  constructor <;> decide +kernel

end MetricDocs.Cli
