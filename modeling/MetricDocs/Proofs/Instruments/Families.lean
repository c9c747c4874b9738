/-
  Families of instruments on one registry.

  The names of a family start with a text of any kind, which may hold pieces of such names itself.
  Still, no two families share the name of a series unless they start alike: what a name ends in
  never ends in another of these endings.

  * `Recording` is what can be recorded with a family, `RegistryCommand` what can be done to a
    registry, and `Registry.run` a row of such commands;
  * `Family.endings` are the names of the series without their start, and `Family.start_inj`: a name
    tells its start;
  * `Registry.ofFamilies` is the registry of families with given readings;
    `registerFamily_of_mem`, `registerFamily_of_notMem` and `record_ofFamilies`: what a command
    makes of it;
  * `starts commands` are the families that commands add, and `recorded start commands` what is
    recorded with one; `run_eq_ofFamilies`: a run leaves these, and nothing else;
  * `families_apart`: which families are refused, and what each of them shows.
-/
import MetricDocs.Proofs.Instruments.Recording
import MetricDocs.Proofs.Store.Tables

namespace MetricDocs

/-! ## Commands -/

/-- Something that is recorded with a family. -/
inductive Recording where
  | document
  | writeError
  | duration (seconds : Float)
  | objects (count : ℤ)
  deriving DecidableEq

/-- What is done to a registry: a family is added, or something is recorded with one. -/
inductive RegistryCommand where
  | add (start : String)
  | record (start : String) (x : Recording)
  deriving DecidableEq

namespace RegistryCommand

/-- The start of the family that a command adds, if it adds one. -/
def added? : RegistryCommand → Option String
  | .add start => some start
  | .record .. => none

/-- The start of the family that a command is about. -/
def start : RegistryCommand → String
  | .add start | .record start _ => start

/-- What a command records with a family, if it does. -/
def recording? (start : String) : RegistryCommand → Option Recording
  | .add _ => none
  | .record start' x => if start' = start then some x else none

end RegistryCommand

namespace Registry

/-- Records something with a family; what is refused changes nothing. -/
def record (r : Registry) (f : Family) : Recording → Registry
  | .document => r.countDocument f
  | .writeError => r.countWriteError f
  | .duration seconds => r.observeDuration f seconds
  | .objects count =>
    match r.setObjects f count with
    | .ok s => s
    | .error _ => r

/-- What a command makes of a registry; a family that is refused leaves what it leaves. -/
def after (r : Registry) : RegistryCommand → Registry
  | .add start => (r.registerFamily (.named start)).1
  | .record start x => r.record (.named start) x

/-- What commands in order make of a registry. -/
def run (r : Registry) (commands : List RegistryCommand) : Registry := commands.foldl after r

theorem run_concat (r : Registry) (commands : List RegistryCommand) (c : RegistryCommand) :
    r.run (commands ++ [c]) = (r.run commands).after c := by
  rw [run, List.foldl_append]
  rfl

/-- The samples of the instruments of a family. -/
def samplesOf (r : Registry) (f : Family) : List Sample :=
  samples (r.filter fun i => i.name ∈ f.instruments.map Instrument.name)

end Registry

/-! ## Names -/

namespace Family

/-- The names of the series of a family, without their start. -/
def endings : List String := Registry.seriesNames (named "").instruments

theorem nodup_endings : endings.Nodup := by decide

/-- No ending ends in another: each begins with `stdout_`, and holds it nowhere else. -/
theorem eq_of_suffix : ∀ a ∈ endings, ∀ b ∈ endings, a.toList <:+ b.toList → a = b := by decide

/-- **The name of a series tells how its family starts.** -/
theorem start_inj {start start' a b : String} (ha : a ∈ endings) (hb : b ∈ endings)
    (h : start ++ a = start' ++ b) : start = start' := by
  have hends : a.toList <:+ (start ++ a).toList := ⟨start.toList, String.toList_append.symm⟩
  have hends' : b.toList <:+ (start ++ a).toList := ⟨start'.toList, by rw [h, String.toList_append]⟩
  have hab : a = b := by
    rcases List.suffix_or_suffix_of_suffix hends hends' with hsuffix | hsuffix
    · exact eq_of_suffix a ha b hb hsuffix
    · exact (eq_of_suffix b hb a ha hsuffix).symm
  subst hab
  exact (String.append_left_inj a).1 h

end Family

/-! ## Families with their readings -/

/-- Readings in the order of the instruments. -/
def Readings.toList (x : Readings) : List Reading :=
  [.counter x.documents, .counter x.writeErrors, .histogram x.durations, .gauge x.objects]

/-- What a recording makes of readings; a number of objects beyond the doubles is refused. -/
def Readings.record (x : Readings) : Recording → Readings
  | .document => { x with documents := x.documents + 1 }
  | .writeError => { x with writeErrors := x.writeErrors + 1 }
  | .duration seconds => { x with durations := x.durations.observe seconds }
  | .objects count => if (Decimal.nearest? count).isSome then { x with objects := count } else x

/-- The instruments of a family with its readings. -/
def Family.showing (f : Family) (x : Readings) : Registry :=
  List.zipWith (fun i reading => { i with reading := reading }) f.instruments x.toList

theorem Instrument.name_mem_seriesNames (i : Instrument) : i.name ∈ i.seriesNames := by
  rw [seriesNames]
  cases i.reading <;> exact List.mem_cons_self

namespace Registry

/-- The registry of families, each with its start and its readings. -/
def ofFamilies (fs : List (String × Readings)) : Registry :=
  fs.flatMap fun f => (Family.named f.1).showing f.2

theorem seriesNames_showing (start : String) (x : Readings) :
    seriesNames ((Family.named start).showing x) = Family.endings.map (start ++ ·) := by
  simp [seriesNames, Family.endings, Family.showing, Family.named, Family.instruments,
    Readings.toList, Instrument.seriesNames, String.append_assoc]

section
variable {start start' : String} (x : Readings)

theorem exists_ending_of_mem_showing {i : Instrument} (h : i ∈ (Family.named start).showing x) :
    ∃ a ∈ Family.endings, i.name = start ++ a := by
  have hname : i.name ∈ seriesNames ((Family.named start).showing x) :=
    List.mem_flatMap.2 ⟨i, h, i.name_mem_seriesNames⟩
  rw [seriesNames_showing] at hname
  obtain ⟨a, ha, heq⟩ := List.mem_map.1 hname
  exact ⟨a, ha, heq.symm⟩

theorem modify_showing_of_ne (h : start ≠ start') {a : String} (ha : a ∈ Family.endings)
    (change : Reading → Reading) :
    modify ((Family.named start).showing x) (start' ++ a) change =
      (Family.named start).showing x := by
  refine (List.map_congr_left fun i hi => if_neg fun heq => h ?_).trans (List.map_id _)
  obtain ⟨b, hb, hname⟩ := exists_ending_of_mem_showing x hi
  exact Family.start_inj hb ha (hname.symm.trans heq)

theorem record_showing_of_ne (h : start ≠ start') (y : Recording) :
    record ((Family.named start).showing x) (.named start') y = (Family.named start).showing x := by
  have hendings : "stdout_documents" ∈ Family.endings ∧ "stdout_write_errors" ∈ Family.endings ∧
      "stdout_publish_duration_seconds" ∈ Family.endings ∧
      "stdout_snapshot_objects" ∈ Family.endings := by decide
  obtain ⟨hdocuments, hwriteErrors, hduration, hobjects⟩ := hendings
  cases y with
  | document => exact modify_showing_of_ne x h hdocuments _
  | writeError => exact modify_showing_of_ne x h hwriteErrors _
  | duration seconds =>
    rw [record, observeDuration]
    exact modify_showing_of_ne x h hduration _
  | objects count =>
    rw [record, setObjects]
    cases Decimal.nearest? count with
    | none => rfl
    | some _ => exact modify_showing_of_ne x h hobjects _

end

/-- **A family shows what is recorded with it.** -/
theorem record_showing (start : String) (x : Readings) (y : Recording) :
    record ((Family.named start).showing x) (.named start) y =
      (Family.named start).showing (x.record y) := by
  obtain ⟨h₁, h₂, h₃, h₄, h₅, h₆⟩ := names_ne start
  cases y with
  | document =>
    simp [record, countDocument, modify, Family.showing, Family.instruments, Readings.toList,
      Readings.record, increment, h₁.symm, h₂.symm, h₃.symm]
  | writeError =>
    simp [record, countWriteError, modify, Family.showing, Family.instruments, Readings.toList,
      Readings.record, increment, h₁, h₄.symm, h₅.symm]
  | duration seconds =>
    simp [record, observeDuration, modify, Family.showing, Family.instruments, Readings.toList,
      Readings.record, h₂, h₄, h₆.symm]
  | objects count =>
    rw [record, setObjects, Readings.record]
    cases Decimal.nearest? count with
    | none => rfl
    | some _ =>
      simp [modify, Family.showing, Family.instruments, Readings.toList, h₃, h₅, h₆]

theorem filter_showing (start start' : String) (x : Readings) :
    ((Family.named start).showing x).filter
        (fun i => i.name ∈ (Family.named start').instruments.map Instrument.name) =
      if start = start' then (Family.named start).showing x else [] := by
  split_ifs with h
  · refine List.filter_eq_self.2 fun i hi => decide_eq_true ?_
    have hnames : (Family.named start).instruments.map Instrument.name =
        ((Family.named start).showing x).map Instrument.name := rfl
    rw [← h, hnames]
    exact List.mem_map_of_mem hi
  · refine List.filter_eq_nil_iff.2 fun i hi => ?_
    intro hmem
    obtain ⟨i', hi', hname'⟩ := List.mem_map.1 (of_decide_eq_true hmem)
    obtain ⟨a, ha, hname⟩ := exists_ending_of_mem_showing x hi
    obtain ⟨b, hb, hother⟩ := exists_ending_of_mem_showing .zero hi'
    exact h (Family.start_inj ha hb (hname.symm.trans (hname'.symm.trans hother)))

theorem seriesNames_append (r s : Registry) :
    seriesNames (r ++ s) = seriesNames r ++ seriesNames s := List.flatMap_append

theorem record_append (r s : Registry) (f : Family) (y : Recording) :
    record (r ++ s) f y = record r f y ++ record s f y := by
  cases y with
  | objects count =>
    simp only [record, setObjects]
    cases Decimal.nearest? count with
    | none => rfl
    | some _ => exact List.map_append
  | _ => exact List.map_append

/-! ## A family in a registry -/

section
variable (fs : List (String × Readings)) (start : String)

theorem mem_seriesNames_ofFamilies {name : String} :
    name ∈ seriesNames (ofFamilies fs) ↔ ∃ f ∈ fs, ∃ a ∈ Family.endings, f.1 ++ a = name := by
  have hnames : seriesNames (ofFamilies fs) =
      fs.flatMap fun f => Family.endings.map (f.1 ++ ·) := by
    rw [seriesNames, ofFamilies, List.flatMap_assoc]
    exact congrArg fs.flatMap (funext fun f => seriesNames_showing f.1 f.2)
  rw [hnames]
  simp only [List.mem_flatMap, List.mem_map]

/-- **A recording with one family** changes the readings of this one. -/
theorem record_ofFamilies (y : Recording) :
    record (ofFamilies fs) (.named start) y =
      ofFamilies (fs.map fun f => if f.1 = start then (f.1, f.2.record y) else f) := by
  induction fs with
  | nil => cases y with
    | objects count =>
      simp only [record, setObjects]
      cases Decimal.nearest? count <;> rfl
    | _ => rfl
  | cons f fs ih =>
    have hcons : ofFamilies (f :: fs) = (Family.named f.1).showing f.2 ++ ofFamilies fs := rfl
    rw [hcons, record_append, ih, List.map_cons]
    by_cases h : f.1 = start
    · rw [if_pos h, ← h, record_showing]
      rfl
    · rw [if_neg h, record_showing_of_ne f.2 h]
      rfl

theorem register_of_free {r : Registry} {i : Instrument}
    (h : ∀ name ∈ i.seriesNames, name ∉ r.seriesNames) : r.register i = .ok (r ++ [i]) := by
  rw [register, if_neg]
  simpa using h

theorem register_of_taken {r : Registry} {i : Instrument} {name : String}
    (hi : name ∈ i.seriesNames) (hr : name ∈ r.seriesNames) :
    r.register i = .error .duplicateSeries := by
  rw [register, if_pos]
  simpa using ⟨name, hi, hr⟩

theorem registerAll_of_free {r : Registry} {is : List Instrument}
    (hnames : (seriesNames is).Nodup) (h : ∀ name ∈ seriesNames is, name ∉ r.seriesNames) :
    r.registerAll is = (r ++ is, none) := by
  induction is generalizing r with
  | nil => rw [registerAll, List.append_nil]
  | cons i is ih =>
    have hcons : seriesNames (i :: is) = i.seriesNames ++ seriesNames is := rfl
    rw [hcons] at hnames h
    obtain ⟨-, hrest, happart⟩ := List.nodup_append'.1 hnames
    have hfree : ∀ name ∈ seriesNames is, name ∉ seriesNames (r ++ [i]) := by
      intro name hname hmem
      rw [seriesNames_append] at hmem
      rcases List.mem_append.1 hmem with hr | hi
      · exact h name (List.mem_append_right _ hname) hr
      · exact happart (by simpa [seriesNames] using hi) hname
    rw [registerAll, register_of_free fun name hname => h name (List.mem_append_left _ hname)]
    simpa using ih hrest hfree

/-- **A family that is there is refused**, and nothing of it is added. -/
theorem registerFamily_of_mem (h : start ∈ fs.map Prod.fst) :
    (ofFamilies fs).registerFamily (.named start) = (ofFamilies fs, some .duplicateSeries) := by
  obtain ⟨f, hf, rfl⟩ := List.mem_map.1 h
  have htaken : f.1 ++ "stdout_documents" ∈ seriesNames (ofFamilies fs) :=
    (mem_seriesNames_ofFamilies fs).2 ⟨f, hf, _, by decide, rfl⟩
  rw [registerFamily, Family.instruments, registerAll, register_of_taken List.mem_cons_self htaken]

/-- **A family that is not there is added** as a whole, whatever starts the others have. -/
theorem registerFamily_of_notMem (h : start ∉ fs.map Prod.fst) :
    (ofFamilies fs).registerFamily (.named start) =
      (ofFamilies (fs ++ [(start, .zero)]), none) := by
  have hnames : seriesNames (Family.named start).instruments =
      Family.endings.map (start ++ ·) := seriesNames_showing start .zero
  have hdistinct : (seriesNames (Family.named start).instruments).Nodup := by
    rw [hnames]
    exact Family.nodup_endings.map fun a b => (String.append_right_inj start).1
  have hfree : ∀ name ∈ seriesNames (Family.named start).instruments,
      name ∉ seriesNames (ofFamilies fs) := by
    intro name hname hmem
    rw [hnames] at hname
    obtain ⟨a, ha, rfl⟩ := List.mem_map.1 hname
    obtain ⟨f, hf, b, hb, heq⟩ := (mem_seriesNames_ofFamilies fs).1 hmem
    exact h (Family.start_inj hb ha heq ▸ List.mem_map_of_mem hf)
  have hadded : ofFamilies (fs ++ [(start, .zero)]) =
      ofFamilies fs ++ (Family.named start).instruments := by
    rw [ofFamilies, List.flatMap_append, List.flatMap_singleton]
    rfl
  rw [registerFamily, registerAll_of_free hdistinct hfree, hadded]

theorem samplesOf_ofFamilies :
    (ofFamilies fs).samplesOf (.named start) =
      samples (ofFamilies (fs.filter fun f => f.1 = start)) := by
  refine congrArg samples ?_
  induction fs with
  | nil => rfl
  | cons f fs ih =>
    have hcons : ofFamilies (f :: fs) = (Family.named f.1).showing f.2 ++ ofFamilies fs := rfl
    rw [hcons, List.filter_append, ih, filter_showing]
    by_cases h : f.1 = start
    · rw [if_pos h, List.filter_cons_of_pos (by simpa using h)]
      rfl
    · rw [if_neg h, List.filter_cons_of_neg (by simpa using h), List.nil_append]

end

/-! ## Runs -/

/-- The starts of the families that commands add, in the order of the first time. -/
def starts (commands : List RegistryCommand) : List String :=
  (commands.filterMap RegistryCommand.added?).eraseDups

/-- What commands record with a family since they added it. -/
def recorded (start : String) (commands : List RegistryCommand) : Readings :=
  ((commands.dropWhile (· ≠ .add start)).filterMap (RegistryCommand.recording? start)).foldl
    Readings.record .zero

/-- The families that commands add, with what they record. -/
def families (commands : List RegistryCommand) : List (String × Readings) :=
  (starts commands).map fun start => (start, recorded start commands)

section
variable {commands : List RegistryCommand} {start : String}

theorem mem_starts_iff : start ∈ starts commands ↔ .add start ∈ commands := by
  rw [starts, List.mem_eraseDups, List.mem_filterMap]
  constructor
  · rintro ⟨c, hc, hadded⟩
    cases c with
    | add start' => exact Option.some.inj hadded ▸ hc
    | record => cases hadded
  · exact fun h => ⟨_, h, rfl⟩

theorem nodup_starts (commands : List RegistryCommand) : (starts commands).Nodup :=
  nodup_eraseDups _

theorem starts_append_add (commands : List RegistryCommand) (start : String) :
    starts (commands ++ [.add start]) =
      if start ∉ starts commands then starts commands ++ [start] else starts commands := by
  rw [starts, List.filterMap_append]
  exact eraseDups_concat _ start

theorem starts_append_record (commands : List RegistryCommand) (start : String) (y : Recording) :
    starts (commands ++ [.record start y]) = starts commands := by
  rw [starts, List.filterMap_append]
  exact congrArg List.eraseDups (List.append_nil _)

theorem map_fst_families : (families commands).map Prod.fst = starts commands := by
  rw [families, List.map_map]
  exact List.map_id _

theorem recorded_append (h : .add start ∈ commands) (c : RegistryCommand) :
    recorded start (commands ++ [c]) =
      (c.recording? start).elim (recorded start commands) (recorded start commands).record := by
  have hne : ¬(commands.dropWhile (· ≠ .add start)).isEmpty := fun hempty =>
    of_decide_eq_true (List.dropWhile_eq_nil_iff.1 (List.isEmpty_iff.1 hempty) _ h) rfl
  rw [recorded, List.dropWhile_append, if_neg hne, List.filterMap_append, List.foldl_append,
    ← recorded]
  cases hc : c.recording? start with
  | none => rw [List.filterMap_cons_none hc]; rfl
  | some y => rw [List.filterMap_cons_some hc]; rfl

theorem recorded_append_of_none (h : .add start ∈ commands) {c : RegistryCommand}
    (hc : c.recording? start = none) :
    recorded start (commands ++ [c]) = recorded start commands := by
  rw [recorded_append h, hc]
  rfl

theorem recorded_append_of_notMem (h : .add start ∉ commands) :
    recorded start (commands ++ [.add start]) = .zero := by
  have hnil : commands.dropWhile (· ≠ .add start) = [] :=
    List.dropWhile_eq_nil_iff.2 fun c hc => decide_eq_true fun heq => h (heq ▸ hc)
  rw [recorded, List.dropWhile_append, hnil]
  simp [List.filterMap_cons, RegistryCommand.recording?]

theorem families_append_add_of_mem (h : .add start ∈ commands) :
    families (commands ++ [.add start]) = families commands := by
  rw [families, starts_append_add, if_neg (not_not_intro (mem_starts_iff.2 h))]
  refine List.map_congr_left fun start' hstart' => ?_
  rw [recorded_append_of_none (mem_starts_iff.1 hstart') rfl]

theorem families_append_add_of_notMem (h : .add start ∉ commands) :
    families (commands ++ [.add start]) = families commands ++ [(start, .zero)] := by
  rw [families, starts_append_add, if_pos fun hmem => h (mem_starts_iff.1 hmem), List.map_append,
    List.map_singleton, recorded_append_of_notMem h]
  refine congrArg (· ++ _) (List.map_congr_left fun start' hstart' => ?_)
  rw [recorded_append_of_none (mem_starts_iff.1 hstart') rfl]

theorem families_append_record (y : Recording) :
    families (commands ++ [.record start y]) =
      (families commands).map fun f => if f.1 = start then (f.1, f.2.record y) else f := by
  rw [families, starts_append_record, families, List.map_map]
  refine List.map_congr_left fun start' hstart' => ?_
  rw [recorded_append (mem_starts_iff.1 hstart')]
  by_cases h : start = start'
  · simp [RegistryCommand.recording?, h]
  · simp [RegistryCommand.recording?, h, Ne.symm h]

theorem registerFamily_families (commands : List RegistryCommand) (start : String) :
    (ofFamilies (families commands)).registerFamily (.named start) =
      (ofFamilies (families (commands ++ [.add start])),
        if .add start ∈ commands then some .duplicateSeries else none) := by
  by_cases h : .add start ∈ commands
  · have hmem : start ∈ (families commands).map Prod.fst := by
      rwa [map_fst_families, mem_starts_iff]
    rw [registerFamily_of_mem _ _ hmem, families_append_add_of_mem h, if_pos h]
  · have hnotMem : start ∉ (families commands).map Prod.fst := by
      rwa [map_fst_families, mem_starts_iff]
    rw [registerFamily_of_notMem _ _ hnotMem, families_append_add_of_notMem h, if_neg h]

/-- **A run leaves the families that were added**, each with what was recorded with it. -/
theorem run_eq_ofFamilies (commands : List RegistryCommand) :
    run [] commands = ofFamilies (families commands) := by
  -- from the last command: what it finds are the families of those before it
  induction commands using List.reverseRecOn with
  | nil => rfl
  | append_singleton commands c ih =>
    rw [run_concat, ih]
    cases c with
    | add start => rw [after, registerFamily_families]
    | record start y => rw [after, record_ofFamilies, families_append_record]

theorem filter_families (commands : List RegistryCommand) (start : String) :
    (families commands).filter (fun f => f.1 = start) =
      if .add start ∈ commands then [(start, recorded start commands)] else [] := by
  have hfilter : (starts commands).filter (· = start) =
      List.replicate ((starts commands).count start) start := List.filter_eq start
  rw [families, List.filter_map]
  simp only [Function.comp_def, hfilter, ← mem_starts_iff]
  split_ifs with h
  · rw [List.count_eq_one_of_mem (nodup_starts commands) h]
    rfl
  · rw [List.count_eq_zero_of_not_mem h]
    rfl

/-- **What a family shows after a run.** -/
theorem samplesOf_run (commands : List RegistryCommand) (start : String) :
    (run [] commands).samplesOf (.named start) =
      if .add start ∈ commands then samples ((Family.named start).showing (recorded start commands))
      else [] := by
  rw [run_eq_ofFamilies, samplesOf_ofFamilies, filter_families]
  split_ifs with h
  · rw [ofFamilies, List.flatMap_singleton]
  · rfl

/-- **A command about another family** changes no sample of this one. -/
theorem samplesOf_run_concat (commands : List RegistryCommand) {c : RegistryCommand}
    (h : c.start ≠ start) :
    (run [] (commands ++ [c])).samplesOf (.named start) =
      (run [] commands).samplesOf (.named start) := by
  have hadded : .add start ∈ commands ++ [c] ↔ .add start ∈ commands := by
    rw [List.mem_append, List.mem_singleton, or_iff_left]
    rintro rfl
    exact h rfl
  have hnone : c.recording? start = none := by
    cases c with
    | add => rfl
    | record => exact if_neg h
  rw [samplesOf_run, samplesOf_run]
  by_cases hmem : .add start ∈ commands
  · rw [if_pos (hadded.2 hmem), if_pos hmem, recorded_append_of_none hmem hnone]
  · rw [if_neg fun hmem' => hmem (hadded.1 hmem'), if_neg hmem]

end

/-! ## The main theorem -/

/-- **Families on one registry collide only if they start alike.**  After any commands, a family is
    refused exactly if one with the same start was added before, and then the registry stays as it
    is.  Whatever is done with another family changes no sample of this one: once it is added, its
    samples are those of what was recorded with it. -/
theorem families_apart (commands : List RegistryCommand) (start : String) :
    let r := run [] commands
    let added := r.registerFamily (.named start)
    added.2 = (if .add start ∈ commands then some .duplicateSeries else none) ∧
      (.add start ∈ commands → added.1 = r) ∧
      (∀ c : RegistryCommand, c.start ≠ start →
        (r.after c).samplesOf (.named start) = r.samplesOf (.named start)) ∧
      (.add start ∈ commands →
        r.samplesOf (.named start) =
          samples ((Family.named start).showing (recorded start commands))) := by
  intro r added
  have hadded : added = (ofFamilies (families (commands ++ [.add start])),
      if .add start ∈ commands then some .duplicateSeries else none) := by
    rw [← registerFamily_families, ← run_eq_ofFamilies]
  refine ⟨by rw [hadded], fun h => ?_, fun c hc => ?_, fun h => ?_⟩
  · rw [hadded, families_append_add_of_mem h, ← run_eq_ofFamilies]
  · rw [← run_concat, samplesOf_run_concat commands hc]
  · rw [samplesOf_run, if_pos h]

/-- Two families, of which one starts with a piece of the names of the other. -/
def nestedStarts : List RegistryCommand :=
  [.add "", .add "stdout_documents_", .record "" .document, .record "" (.objects 2)]

theorem nestedStarts_apart :
    let r := run [] nestedStarts
    (r.registerFamily (.named "")).2 = some .duplicateSeries ∧
      (r.registerFamily (.named "")).1 = r ∧
      (r.registerFamily (.named "stdout_documents_total")).2 = none ∧
      (r.record (.named "stdout_documents_") .writeError).samplesOf (.named "") =
        r.samplesOf (.named "") ∧
      r.samplesOf (.named "") = samples ((Family.named "").showing ⟨1, 0, .empty, 2⟩) := by
  obtain ⟨hrefused, hsame, hothers, hshown⟩ := families_apart nestedStarts ""
  have hadded : .add "" ∈ nestedStarts := List.mem_cons_self
  have hfresh := (families_apart nestedStarts "stdout_documents_total").1
  refine ⟨hrefused.trans (if_pos hadded), hsame hadded, hfresh.trans (if_neg (by decide)),
    hothers (.record "stdout_documents_" .writeError) (by decide), (hshown hadded).trans ?_⟩
  rfl

end Registry

end MetricDocs
