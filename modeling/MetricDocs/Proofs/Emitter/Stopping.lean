/-
  Requests to stop, at every point of a run.

  A run is in one thread and requests to stop come from others, at any time.  So a run is cut into
  its steps, and a request may come between any two of them, or within a pass or a pause.

  * `Point` is where a run stands, and `Progress` a point with the emitter;
  * `Progress.go` is the next step of the run, `Happening` such a step or a request to stop, and
    `Progress.after` what it leads to; `run_eq_follow`: the steps in a row are the run;
  * `s.asks h` says whether a stop is asked for in what happens, and `s.begins h` whether a pass is
    begun;
  * `s.Halts`: whatever happens from now on, no pass is begun, and the run is soon at its end;
  * `halts_after_stop_iff`: after a request to stop a run halts, unless the request came before it;
  * `forgotten_before_run`: a request that is forgotten.
-/
import MetricDocs.Proofs.Emitter.Turns

namespace MetricDocs

namespace Emitter

/-! ## A run in steps -/

/-- Where a run stands: before its first statement, behind it, at the condition of its loop, in a
    pass, behind a pass, or at its end.  A pass is begun once the condition of the loop held. -/
inductive Point (τ : Type) where
  | entering
  | clearing
  | checking
  | passing (began : τ)
  | resting (seconds began : τ)
  | returned (failure : Option Failure)

namespace Point
variable {τ : Type}

/-- The failure at the end of a run. -/
def failure? : Point τ → Option Failure
  | .returned failure => failure
  | _ => none

/-- The steps up to the end of a run that begins no further pass. -/
def ahead : Point τ → ℕ
  | .entering => 3
  | .clearing => 2
  | .checking => 1
  | .passing _ => 3
  | .resting .. => 2
  | .returned _ => 0

theorem returned_of_ahead {point : Point τ} (h : point.ahead = 0) :
    ∃ failure, point = .returned failure := by
  cases point with
  | returned failure => exact ⟨failure, rfl⟩
  | _ => cases h

end Point

/-- A run under way. -/
structure Progress (τ : Type) where
  point : Point τ
  emitter : Emitter τ

/-- What happens: a step of the run, during which `t` takes place, or a request to stop between two
    steps. -/
inductive Happening (τ : Type) where
  | go (t : Turn τ)
  | stop

/-- Whether the run makes a step. -/
def Happening.isGo {τ : Type} : Happening τ → Bool
  | .go _ => true
  | .stop => false

/-- The steps of one turn: its condition, its pass and its rest. -/
def Happening.ofTurn {τ : Type} (t : Turn τ) : List (Happening τ) := [.go t, .go t, .go t]

namespace Progress
variable {τ : Type}

/-- Whether a pass is begun in what happens. -/
def begins (s : Progress τ) : Happening τ → Bool
  | .stop => false
  | .go _ =>
    match s.point with
    | .checking => s.emitter.running
    | _ => false

/-- The run has begun, and its emitter is stopped. -/
structure Stopped (s : Progress τ) : Prop where
  begun : s.point ≠ .entering
  running : s.emitter.running = false

/-- **A stopped run begins no pass.** -/
theorem Stopped.begins {s : Progress τ} (hs : s.Stopped) (h : Happening τ) :
    s.begins h = false := by
  cases h with
  | stop => rfl
  | go t =>
    rw [Progress.begins]
    split
    · exact hs.running
    · rfl

variable [Add τ] [OfNat τ 0] [Sub τ] [LT τ] [DecidableLT τ]

/-- The next step of a run. -/
def go (s : Progress τ) (t : Turn τ) : Progress τ :=
  let e := s.emitter
  match s.point with
  | .entering => ⟨.clearing, { e with running := true }⟩
  | .clearing =>
    ⟨.checking, (e.signal .clear).say Level.info
      ("Starting metrics emitter, interval " ++ e.interval.shown ++ "s") none⟩
  | .checking => ⟨if e.running then .passing e.wall else .returned none, e⟩
  | .passing began =>
    ⟨match e.interval.seconds with
      | none => .returned (some .beyondFloat)
      | some seconds => .resting seconds began, e.pass t⟩
  | .resting seconds began =>
    let r := e.rest seconds began t
    ⟨match r.2 with
      | none => .checking
      | some f => .returned (some f), r.1⟩
  | .returned _ => s

/-- What a happening leads to. -/
def after (s : Progress τ) : Happening τ → Progress τ
  | .go t => s.go t
  | .stop => { s with emitter := s.emitter.stop }

/-- What happenings in order lead to. -/
def follow (s : Progress τ) (hs : List (Happening τ)) : Progress τ := hs.foldl after s

theorem follow_append (s : Progress τ) (hs hs' : List (Happening τ)) :
    s.follow (hs ++ hs') = (s.follow hs).follow hs' := List.foldl_append

theorem follow_returned (failure : Option Failure) (e : Emitter τ) (turns : List (Turn τ)) :
    (⟨.returned failure, e⟩ : Progress τ).follow (turns.flatMap Happening.ofTurn) =
      ⟨.returned failure, e⟩ := by
  induction turns with
  | nil => rfl
  | cons t turns ih => exact ih

theorem follow_ofTurn (e : Emitter τ) (t : Turn τ) :
    (⟨.checking, e⟩ : Progress τ).follow (Happening.ofTurn t) =
      if e.running then
        ⟨match (e.turn t).2 with
          | none => .checking
          | some f => .returned (some f), (e.turn t).1⟩
      else ⟨.returned none, e⟩ := by
  cases hrunning : e.running with
  | false => simp [follow, Happening.ofTurn, after, go, hrunning]
  | true =>
    have hinterval := (e.did_pass t).interval
    cases hseconds : e.interval.seconds <;>
      simp [follow, Happening.ofTurn, after, go, turn, hrunning, hinterval, hseconds]

theorem loop_eq_follow (e : Emitter τ) (turns : List (Turn τ)) :
    let s := (⟨.checking, e⟩ : Progress τ).follow (turns.flatMap Happening.ofTurn)
    e.loop turns = (s.emitter, s.point.failure?) := by
  induction turns generalizing e with
  | nil => rfl
  | cons t turns ih =>
    simp only [List.flatMap_cons, follow_append, follow_ofTurn, loop]
    cases e.running with
    | false => simp only [Bool.false_eq_true, if_false, follow_returned, Point.failure?]
    | true =>
      rw [if_pos rfl, if_pos rfl]
      rcases e.turn t with ⟨b, _ | f⟩
      · exact ih b
      · simp only [follow_returned, Point.failure?]

/-- **The steps in a row are the run.** -/
theorem run_eq_follow (e : Emitter τ) (t : Turn τ) (turns : List (Turn τ)) :
    let s := (⟨.entering, e⟩ : Progress τ).follow
      (.go t :: .go t :: turns.flatMap Happening.ofTurn)
    e.run turns = (s.emitter, s.point.failure?) :=
  loop_eq_follow e.start turns

/-! ## Requests to stop -/

/-- Whether a stop is asked for in what happens. -/
def asks (s : Progress τ) : Happening τ → Bool
  | .stop => true
  | .go t =>
    match s.point with
    | .passing _ => t.stopInPass
    | .resting seconds began => s.emitter.waitsFor seconds began && t.stopInPause
    | _ => false

/-- The passes that are begun in what happens. -/
def begun (s : Progress τ) : List (Happening τ) → ℕ
  | [] => 0
  | h :: hs => (if s.begins h then 1 else 0) + (s.after h).begun hs

/-- Whatever happens from now on, no pass is begun, and the run is at its end once it has made the
    steps that were ahead. -/
def Halts (s : Progress τ) : Prop :=
  ∀ hs, s.begun hs = 0 ∧
    (s.point.ahead ≤ hs.countP Happening.isGo → ∃ failure, (s.follow hs).point = .returned failure)

variable {s : Progress τ} {h : Happening τ}

theorem point_after_ne (hpoint : s.point ≠ .entering) : (s.after h).point ≠ .entering := by
  obtain ⟨point, e⟩ := s
  cases h with
  | stop => exact hpoint
  | go t =>
    cases point with
    | checking => cases hrunning : e.running <;> simp [after, go, hrunning]
    | passing began => cases hseconds : e.interval.seconds <;> simp [after, go, hseconds]
    | resting seconds began =>
      cases hfailure : (e.rest seconds began t).2 <;> simp [after, go, hfailure]
    | returned failure => exact hpoint
    | _ => exact nofun

/-- **A run that has begun is stopped by a request, and by nothing else.** -/
theorem running_after (hpoint : s.point ≠ .entering) :
    (s.after h).emitter.running = (s.emitter.running && !s.asks h) := by
  obtain ⟨point, e⟩ := s
  cases h with
  | stop => exact (Bool.and_false _).symm
  | go t =>
    cases point with
    | entering => exact absurd rfl hpoint
    | passing began => exact (e.did_pass t).running
    | resting seconds began => exact (e.did_rest seconds began t).running
    | _ => exact (Bool.and_true _).symm

theorem stopped_of_asks (hasks : s.asks h = true) (hpoint : s.point ≠ .entering) :
    (s.after h).Stopped :=
  ⟨point_after_ne hpoint, by rw [running_after hpoint, hasks, Bool.not_true, Bool.and_false]⟩

/-- **A stopped run stays so.** -/
theorem Stopped.after (hs : s.Stopped) (h : Happening τ) : (s.after h).Stopped :=
  ⟨point_after_ne hs.begun, by rw [running_after hs.begun, hs.running, Bool.false_and]⟩

/-- **A stopped run comes nearer to its end** with each step. -/
theorem Stopped.ahead_go (hs : s.Stopped) (t : Turn τ) :
    (s.go t).point.ahead ≤ s.point.ahead - 1 := by
  obtain ⟨point, e⟩ := s
  cases point with
  | entering => exact absurd rfl hs.begun
  | checking => simp [go, show e.running = false from hs.running, Point.ahead]
  | passing began => cases hseconds : e.interval.seconds <;> simp [go, hseconds, Point.ahead]
  | resting seconds began =>
    cases hfailure : (e.rest seconds began t).2 <;> simp [go, hfailure, Point.ahead]
  | _ => exact le_rfl

/-- By induction on what happens: a step uses up one of those ahead, and a request none. -/
theorem Stopped.halts (hs : s.Stopped) : s.Halts := by
  intro hs'
  induction hs' generalizing s with
  | nil => exact ⟨rfl, fun hahead => Point.returned_of_ahead (Nat.le_zero.1 hahead)⟩
  | cons h hs' ih =>
    obtain ⟨hbegun, hreturned⟩ := ih (hs.after h)
    refine ⟨by rw [Progress.begun, hs.begins h, hbegun]; rfl, fun hahead => hreturned ?_⟩
    cases h with
    | stop => exact hahead
    | go t =>
      have hnearer := hs.ahead_go t
      rw [List.countP_cons_of_pos rfl] at hahead
      exact hnearer.trans (Nat.sub_le_of_le_add hahead)

/-- Whatever an emitter was asked for before, its run begins a pass: the first two steps set the
    emitter running and clear its signal, and the third finds the condition of the loop to hold. -/
theorem begun_entering (e : Emitter τ) (t : Turn τ) :
    (⟨.entering, e⟩ : Progress τ).begun (Happening.ofTurn t) = 1 := rfl

theorem not_halts_entering (e : Emitter τ) : ¬(⟨.entering, e⟩ : Progress τ).Halts := by
  intro hhalts
  have hbegun := (hhalts (Happening.ofTurn ⟨0, none, false, false⟩)).1
  rw [begun_entering] at hbegun
  exact Nat.one_ne_zero hbegun

/-! ## The main theorem -/

/-- **A request to stop ends the run**: no pass is begun after it, and the run returns from the turn
    that it is in, whether the pass of this turn fails or not.  This is so exactly if the run has
    begun. -/
theorem halts_after_stop_iff (hasks : s.asks h = true) :
    (s.after h).Halts ↔ s.point ≠ .entering := by
  refine ⟨fun hhalts hpoint => ?_, fun hpoint => (stopped_of_asks hasks hpoint).halts⟩
  obtain ⟨point, e⟩ := s
  obtain rfl : point = .entering := hpoint
  cases h with
  | go t => cases hasks
  | stop => exact not_halts_entering e.stop hhalts

/-- A new emitter with one second between its passes. -/
def everySecond : Except Failure (Emitter Float) :=
  create (.start "\x7b\x7d" (.named "") .willing .start) (.int 1) 0.0

/-- A stop that is asked for in a pass that fails. -/
def stoppedInPass : Turn Float := ⟨0.5, some (.raised .runtime "boom"), true, false⟩

theorem halts_in_failed_pass : ∃ e, everySecond = .ok e ∧
    asks ⟨.passing 0.0, e⟩ (.go stoppedInPass) = true ∧
    (after ⟨.passing 0.0, e⟩ (.go stoppedInPass)).Halts :=
  ⟨_, rfl, rfl, (halts_after_stop_iff rfl).2 nofun⟩

/-- **A request before the run is forgotten**, and a pass is begun. -/
theorem forgotten_before_run : ∃ e, everySecond = .ok e ∧
    asks ⟨.entering, e⟩ .stop = true ∧ ¬(after ⟨.entering, e⟩ .stop).Halts ∧
    (after ⟨.entering, e⟩ .stop).begun (Happening.ofTurn ⟨0.5, none, false, false⟩) = 1 :=
  ⟨_, rfl, rfl, not_halts_entering _, begun_entering _ _⟩

end Progress

end Emitter

end MetricDocs
