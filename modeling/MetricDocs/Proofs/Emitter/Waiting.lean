/-
  How long a run waits.

  The wall clock may be set at any time, backwards or forwards.  So each thing that happens comes
  with what the clock shows then, and nothing ties one reading to another.

  * `e.waits` are the pauses that an emitter asked its signal to wait for, in order;
  * `Occurrence` is something that happens with a reading of the wall clock, and `Progress.meetAll`
    what occurrences in order lead to; `run_eq_meetAll`: a run over turns is of this kind;
  * `s.spans os` are the readings at the two ends of the passes that the run comes to rest behind;
  * `Keeps.waits_meetAll`: a run waits for what its spans leave of the interval, and for nothing
    else, in any kind of numbers;
  * `waits_le_interval_iff`: in exact arithmetic every wait is positive, and none is longer than the
    interval exactly if no span runs backwards;
  * `oversleeps_after_set_back`: a run whose clock is set back waits for longer.
-/
import Mathlib.Algebra.Order.Group.Unbundled.Basic
import MetricDocs.Proofs.Emitter.Accounting
import MetricDocs.Proofs.Emitter.Stopping

namespace MetricDocs

/-! ## Waits -/

/-- The pause of a wait. -/
def SignalEvent.wait? {τ : Type} : SignalEvent τ → Option τ
  | .wait seconds => some seconds
  | .clear | .set => none

/-- The readings of the wall clock at the two ends of a pass. -/
structure Span (τ : Type) where
  began : τ
  ended : τ
  deriving DecidableEq, Repr

/-- The pause that a span leaves of an interval, if it leaves one. -/
def Span.left? {τ : Type} [OfNat τ 0] [Sub τ] [LT τ] [DecidableLT τ] (p : Span τ) (seconds : τ) :
    Option τ :=
  let left := pause seconds p.began p.ended
  if 0 < left then some left else none

namespace Emitter

variable {τ : Type}

/-- The pauses that an emitter asked its signal to wait for. -/
def waits (e : Emitter τ) : List τ := e.events.filterMap SignalEvent.wait?

theorem waits_setIf (asked : Bool) : (setIf asked : List (SignalEvent τ)).filterMap
    SignalEvent.wait? = [] := by
  cases asked <;> rfl

theorem Did.waits {e b : Emitter τ} {stopped : Bool} {passes : ℕ} {events : List (SignalEvent τ)}
    {failures : List Failure} {overruns : List LogRecord}
    (h : Did e b stopped passes events failures overruns) :
    b.waits = e.waits ++ events.filterMap SignalEvent.wait? := by
  rw [Emitter.waits, h.events, List.filterMap_append]
  rfl

section
variable [Add τ] (e : Emitter τ) (t : Turn τ)

theorem waits_pass : (e.pass t).waits = e.waits := by
  rw [(e.did_pass t).waits, waits_setIf, List.append_nil]

variable [OfNat τ 0] [Sub τ] [LT τ] [DecidableLT τ] (seconds began : τ)

/-- A rest waits for what is left, if anything is; the signal is asked to wait even if it refuses. -/
theorem waits_rest : (e.rest seconds began t).1.waits =
    e.waits ++ ((⟨began, e.wall⟩ : Span τ).left? seconds).toList := by
  rw [(e.did_rest seconds began t).waits, Span.left?]
  split_ifs
  · exact congrArg (e.waits ++ _ :: ·) (waits_setIf _)
  · rfl

end

/-! ## Occurrences -/

/-- Something that happens, and what the wall clock shows then. -/
structure Occurrence (τ : Type) where
  wall : τ
  happening : Happening τ

namespace Progress

section
variable [Add τ] [OfNat τ 0] [Sub τ] [LT τ] [DecidableLT τ]

/-- The same point with another reading of the wall clock. -/
def showing (s : Progress τ) (wall : τ) : Progress τ := ⟨s.point, { s.emitter with wall := wall }⟩

/-- What an occurrence leads to. -/
def meet (s : Progress τ) (o : Occurrence τ) : Progress τ := (s.showing o.wall).after o.happening

/-- What occurrences in order lead to. -/
def meetAll (s : Progress τ) (os : List (Occurrence τ)) : Progress τ := os.foldl meet s

/-- Happenings under a clock that nobody sets. -/
def unset (s : Progress τ) : List (Happening τ) → List (Occurrence τ)
  | [] => []
  | h :: hs => ⟨s.emitter.wall, h⟩ :: (s.after h).unset hs

theorem meetAll_unset (s : Progress τ) (hs : List (Happening τ)) :
    s.meetAll (s.unset hs) = s.follow hs := by
  induction hs generalizing s with
  | nil => rfl
  | cons h hs ih => exact ih (s.after h)

/-- **A run over turns is met by occurrences**: those under a clock that nobody sets. -/
theorem run_eq_meetAll (e : Emitter τ) (turns : List (Turn τ)) :
    ∃ os, let s := (⟨.entering, e⟩ : Progress τ).meetAll os
      e.run turns = (s.emitter, s.point.failure?) := by
  let t : Turn τ := ⟨0, none, false, false⟩
  refine ⟨unset (⟨.entering, e⟩ : Progress τ)
    (.go t :: .go t :: turns.flatMap Happening.ofTurn), ?_⟩
  rw [meetAll_unset]
  exact run_eq_follow e t turns

/-- The span of a pass, if an occurrence is the rest behind it. -/
def span? (s : Progress τ) (o : Occurrence τ) : Option (Span τ) :=
  match s.point, o.happening with
  | .resting _ began, .go _ => some ⟨began, o.wall⟩
  | _, _ => none

/-- The spans of the passes that a run comes to rest behind. -/
def spans (s : Progress τ) : List (Occurrence τ) → List (Span τ)
  | [] => []
  | o :: os => (s.span? o).toList ++ (s.meet o).spans os

/-- A run with an interval of so many seconds, which it also rests by. -/
structure Keeps (s : Progress τ) (seconds : τ) : Prop where
  interval : s.emitter.interval.seconds = some seconds
  resting : ∀ {seconds' began}, s.point = .resting seconds' began → seconds' = seconds

variable {s : Progress τ} {seconds : τ}

/-- **A run keeps its interval.** -/
theorem Keeps.meet (hs : s.Keeps seconds) (o : Occurrence τ) : (s.meet o).Keeps seconds := by
  obtain ⟨point, e⟩ := s
  obtain ⟨wall, happening⟩ := o
  have hinterval : e.interval.seconds = some seconds := hs.interval
  cases happening with
  | stop => exact ⟨hinterval, hs.resting⟩
  | go t =>
    cases point with
    | checking =>
      refine ⟨hinterval, ?_⟩
      cases hrunning : e.running <;> simp [Progress.meet, showing, after, go, hrunning]
    | passing began =>
      refine ⟨(congrArg Interval.seconds (did_pass _ t).interval).trans hinterval, ?_⟩
      simp [Progress.meet, showing, after, go, hinterval]
    | resting seconds' began =>
      refine ⟨(congrArg Interval.seconds (did_rest _ seconds' began t).interval).trans hinterval, ?_⟩
      cases hfailure : ({ e with wall := wall }.rest seconds' began t).2 <;>
        simp [Progress.meet, showing, after, go, hfailure]
    | _ =>
      refine ⟨hinterval, ?_⟩
      simp [Progress.meet, showing, after, go]

/-- **What is waited for at an occurrence.** -/
theorem Keeps.waits_meet (hs : s.Keeps seconds) (o : Occurrence τ) :
    (s.meet o).emitter.waits =
      s.emitter.waits ++ ((s.span? o).bind (Span.left? · seconds)).toList := by
  obtain ⟨point, e⟩ := s
  obtain ⟨wall, happening⟩ := o
  cases happening with
  | stop =>
    -- a request to stop is no rest, at whatever point it comes
    have hstop := (did_stop { e with wall := wall }).waits
    cases point <;> exact hstop
  | go t =>
    cases point with
    | clearing =>
      have hcleared : ({ e with wall := wall }.signal .clear).waits = e.waits :=
        (List.filterMap_append ..).trans (List.append_nil _)
      exact hcleared.trans (List.append_nil _).symm
    | passing began => exact (waits_pass _ t).trans (List.append_nil _).symm
    | resting seconds' began =>
      obtain rfl := hs.resting rfl
      exact waits_rest _ t _ began
    | _ => exact (List.append_nil _).symm

/-- **A run waits for what its spans leave of the interval**, and for nothing else. -/
theorem Keeps.waits_meetAll (hs : s.Keeps seconds) (os : List (Occurrence τ)) :
    (s.meetAll os).emitter.waits =
      s.emitter.waits ++ (s.spans os).filterMap (Span.left? · seconds) := by
  induction os generalizing s with
  | nil => exact (List.append_nil _).symm
  | cons o os ih =>
    have hspan : (s.span? o).toList.filterMap (Span.left? · seconds) =
        ((s.span? o).bind (Span.left? · seconds)).toList := by
      cases s.span? o with
      | none => rfl
      | some p => cases hp : p.left? seconds <;> simp [hp]
    have hrest : (s.meetAll (o :: os)).emitter.waits = _ := ih (hs.meet o)
    rw [hrest, hs.waits_meet, spans, List.filterMap_append, hspan, List.append_assoc]

end

end Progress

end Emitter

/-! ## Exact arithmetic -/

section
variable {τ : Type} [AddCommGroup τ] [LinearOrder τ]

namespace Span

variable {p : Span τ} {seconds : τ}

theorem left?_eq (p : Span τ) (seconds : τ) :
    p.left? seconds =
      if 0 < seconds - (p.ended - p.began) then some (seconds - (p.ended - p.began)) else none := by
  by_cases h : 0 < seconds - (p.ended - p.began)
  · simp only [left?, pause, if_pos h]
  · simp only [left?, pause, if_neg h, if_neg (lt_irrefl (0 : τ))]

theorem pos_of_mem_left? {w : τ} (h : w ∈ p.left? seconds) : 0 < w := by
  rw [left?_eq] at h
  split_ifs at h with hleft
  · obtain rfl := Option.some.inj h
    exact hleft
  · cases h

/-- **More than the interval is left only behind a span that runs backwards**, and always behind
    such a span. -/
theorem left?_le_iff [IsOrderedAddMonoid τ] (hpositive : 0 < seconds) :
    (∀ w ∈ p.left? seconds, w ≤ seconds) ↔ p.began ≤ p.ended := by
  rw [left?_eq]
  constructor
  · intro hle
    by_contra hback
    -- what is left is longer than a positive interval, so it is a pause
    have hlonger : seconds < seconds - (p.ended - p.began) :=
      calc seconds = seconds - 0 := (sub_zero seconds).symm
        _ < seconds - (p.ended - p.began) := sub_lt_sub_left (sub_neg.2 (not_le.1 hback)) seconds
    exact absurd hlonger (not_lt.2 (hle _ (if_pos (hpositive.trans hlonger))))
  · intro hforth w hw
    split_ifs at hw
    · obtain rfl := Option.some.inj hw
      exact sub_le_self _ (sub_nonneg.2 hforth)
    · cases hw

end Span

namespace Emitter

theorem waits_run {e : Emitter τ} {seconds : τ} (h : e.interval.seconds = some seconds)
    {going : List (Turn τ)} (hgoing : ∀ t ∈ going, t.ends e.longest seconds = false)
    {last : Turn τ} (hlast : last.ends e.longest seconds = true) (later : List (Turn τ)) :
    (e.run (going ++ last :: later)).1.waits =
      e.waits ++ ((going ++ [last]).flatMap (Turn.signals e.longest seconds)).filterMap
        SignalEvent.wait? := by
  have hstart : e.start.interval.seconds = some seconds := h
  have hdid := e.did_start.trans (did_through hstart rfl hgoing last)
  rw [run, loop_eq_through hstart rfl rfl hgoing hlast later]
  exact hdid.waits

/-! ## The main theorem -/

namespace Progress

/-- **How long a run waits**, in exact arithmetic and whatever the wall clock shows; a run over
    turns is the case of a clock that nobody sets.  Behind a pass it waits for what the span of the
    pass leaves of the interval, if anything.  So every wait is positive, and none is longer than
    the interval exactly if no span runs backwards: a clock that is set back during a pass makes the
    pause behind it longer by as much. -/
theorem waits_le_interval_iff [IsOrderedAddMonoid τ] (e : Emitter τ) (seconds : τ)
    (h : e.interval.seconds = some seconds) (hpositive : 0 < seconds) :
    let s : Progress τ := ⟨.entering, e⟩
    (∀ turns, ∃ os, e.run turns = ((s.meetAll os).emitter, (s.meetAll os).point.failure?)) ∧
      ∀ os,
        let waits := (s.spans os).filterMap (Span.left? · seconds)
        (s.meetAll os).emitter.waits = e.waits ++ waits ∧
          (∀ w ∈ waits, 0 < w) ∧
          ((∀ w ∈ waits, w ≤ seconds) ↔ ∀ p ∈ s.spans os, p.began ≤ p.ended) := by
  intro s
  have hkeeps : s.Keeps seconds := ⟨h, nofun⟩
  refine ⟨run_eq_meetAll e, fun os => ?_⟩
  intro waits
  refine ⟨hkeeps.waits_meetAll os, fun w hw => ?_, ?_⟩
  · obtain ⟨p, -, hp⟩ := List.mem_filterMap.1 hw
    exact Span.pos_of_mem_left? hp
  · simp only [waits, List.mem_filterMap, ← Span.left?_le_iff hpositive]
    exact ⟨fun hall p hp w hw => hall w ⟨p, hp, hw⟩, fun hall w ⟨p, hp, hw⟩ => hall p hp w hw⟩

/-- A pass that fails at once, with nobody asking for a stop. -/
def failed : Turn ℤ := ⟨0, some (.raised .runtime "boom"), false, false⟩

/-- The clock is set forwards in the first pause, and in the second pass beyond the interval; then a
    stop is asked for. -/
def setForwards : List (Occurrence ℤ) :=
  [⟨0, .go failed⟩, ⟨0, .go failed⟩, ⟨0, .go failed⟩, ⟨0, .go failed⟩, ⟨1, .go failed⟩,
    ⟨60, .go failed⟩, ⟨60, .go failed⟩, ⟨3600, .go failed⟩, ⟨3600, .stop⟩, ⟨3600, .go failed⟩]

theorem setForwards_waits :
    let s : Progress ℤ := ⟨.entering, wholeSeconds⟩
    let e := (s.meetAll setForwards).emitter
    wholeSeconds.interval.seconds = some 2 ∧ (0 : ℤ) < 2 ∧
      s.spans setForwards = [⟨0, 1⟩, ⟨60, 3600⟩] ∧ e.waits = [1] ∧ ∀ w ∈ e.waits, w ≤ 2 := by
  intro s e
  have hspans : s.spans setForwards = [⟨0, 1⟩, ⟨60, 3600⟩] := rfl
  obtain ⟨hwaits, -, hle⟩ := (waits_le_interval_iff wholeSeconds 2 rfl (by decide)).2 setForwards
  have hforth : ∀ p ∈ s.spans setForwards, p.began ≤ p.ended := by
    rw [hspans]
    decide
  have hbounded : ∀ w ∈ e.waits, w ≤ 2 := by
    rw [hwaits]
    exact hle.2 hforth
  exact ⟨rfl, by decide, hspans, by rw [hwaits, hspans]; rfl, hbounded⟩

end Progress

/-- A pass in which the clock is set back an hour. -/
def setBack : Turn ℤ := ⟨-3600, none, false, false⟩

/-- A pass in which a stop is asked for. -/
def stopped : Turn ℤ := ⟨0, none, true, false⟩

/-- **A clock that is set back an hour in a pass** makes the pause behind it an hour longer than the
    interval of two seconds. -/
theorem oversleeps_after_set_back :
    let e := (wholeSeconds.run [setBack, stopped]).1
    wholeSeconds.interval.seconds = some 2 ∧ e.waits = [3602, 2] ∧ ¬∀ w ∈ e.waits, w ≤ 2 := by
  intro e
  have hgoing : ∀ t ∈ [setBack], t.ends wholeSeconds.longest 2 = false := by decide
  have hlast : stopped.ends wholeSeconds.longest 2 = true := by decide
  have hwaits : e.waits = [3602, 2] := waits_run rfl hgoing hlast []
  exact ⟨rfl, hwaits, by rw [hwaits]; decide⟩

end Emitter

end

end MetricDocs
