/-
  What the instruments of a family show.

  * `Readings` are the readings of a family, and `Registry.Shows` says that a registry shows them;
  * `Registry.reading?_modify`: to change the reading of a name changes no other;
  * `Registry.shows_ofFamily`, `Shows.countDocument`, `Shows.countWriteError`,
    `Shows.observeDuration` and `Shows.setObjects`: what a new registry shows, and what each
    recording makes of the readings;
  * `Histogram.count_observe`: an observation that equals itself is counted.
-/
import MetricDocs.Instruments
import MetricDocs.Proofs.Decimal.Integers

namespace MetricDocs

/-! ## Histograms -/

namespace Histogram

/-- The histogram has a bucket for each bound, and one more. -/
def Formed (h : Histogram) : Prop := h.buckets.length = durationBounds.length + 1

theorem formed_empty : empty.Formed := rfl

theorem length_tally (x : Float) (bounds : List Float) (buckets : List ℕ) :
    (tally x bounds buckets).length = buckets.length := by
  fun_induction tally x bounds buckets with
  | case1 => rfl
  | case2 _ _ _ _ _ ih => simp only [List.length_cons, ih]
  | case3 => rfl
  | case4 => rfl

theorem sum_tally {x : Float} (hx : x == x) (bounds : List Float) (buckets : List ℕ)
    (h : bounds.length < buckets.length) : (tally x bounds buckets).sum = buckets.sum + 1 := by
  fun_induction tally x bounds buckets with
  | case1 => simp only [List.sum_cons]; omega
  | case2 _ _ _ _ _ ih =>
    have hsum := ih (by simpa using h)
    simp only [List.sum_cons]
    omega
  | case3 => simp only [List.sum_cons, if_pos hx]; omega
  | case4 => exact absurd h (Nat.not_lt_zero _)

theorem count_eq_sum (h : Histogram) : h.count = h.buckets.sum := List.sum_eq_foldl.symm

theorem Formed.observe {h : Histogram} (hh : h.Formed) (x : Float) : (h.observe x).Formed :=
  (length_tally _ _ _).trans hh

/-- **An observation that equals itself is counted.** -/
theorem count_observe {h : Histogram} (hh : h.Formed) {x : Float} (hx : x == x) :
    (h.observe x).count = h.count + 1 := by
  rw [count_eq_sum, count_eq_sum]
  exact sum_tally hx _ _ (hh ▸ Nat.lt_succ_self _)

end Histogram

/-! ## Readings -/

/-- What the instruments of a family show. -/
structure Readings where
  documents : ℕ
  writeErrors : ℕ
  durations : Histogram
  objects : ℤ

/-- The readings before anything was recorded. -/
def Readings.zero : Readings := ⟨0, 0, .empty, 0⟩

namespace Registry

/-- A registry shows the readings of a family. -/
structure Shows (r : Registry) (f : Family) (x : Readings) : Prop where
  documents : r.reading? f.documents = some (.counter x.documents)
  writeErrors : r.reading? f.writeErrors = some (.counter x.writeErrors)
  durations : r.reading? f.duration = some (.histogram x.durations)
  objects : r.reading? f.objects = some (.gauge x.objects)
  formed : x.durations.Formed

theorem reading?_cons (i : Instrument) (r : Registry) (name : String) :
    reading? (i :: r) name = if i.name = name then some i.reading else reading? r name := by
  rw [reading?, List.find?_cons]
  by_cases h : i.name = name
  · simp [h]
  · simp [h, reading?]

/-- **A change of the reading of one name** changes no other. -/
theorem reading?_modify (r : Registry) (name name' : String) (change : Reading → Reading) :
    (r.modify name change).reading? name' =
      if name = name' then (r.reading? name').map change else r.reading? name' := by
  induction r with
  | nil => simp [modify, reading?]
  | cons i r ih =>
    have hcons : modify (i :: r) name change =
        (if i.name = name then { i with reading := change i.reading } else i) ::
          modify r name change := rfl
    rw [hcons, reading?_cons, reading?_cons, ih]
    by_cases hi : i.name = name
    · by_cases hname : name = name' <;> simp [hi, hname]
    · rw [if_neg hi]
      by_cases hi' : i.name = name'
      · rw [if_pos hi', if_pos hi', if_neg fun h => hi (hi'.trans h.symm)]
      · rw [if_neg hi', if_neg hi']

theorem names_ne (start : String) :
    let f := Family.named start
    f.documents ≠ f.writeErrors ∧ f.documents ≠ f.duration ∧ f.documents ≠ f.objects ∧
      f.writeErrors ≠ f.duration ∧ f.writeErrors ≠ f.objects ∧ f.duration ≠ f.objects := by
  simp [Family.named]

theorem shows_ofFamily (start : String) :
    (ofFamily (.named start)).Shows (.named start) .zero := by
  obtain ⟨h₁, h₂, h₃, h₄, h₅, h₆⟩ := names_ne start
  refine ⟨?_, ?_, ?_, ?_, Histogram.formed_empty⟩ <;>
    simp [ofFamily, Family.instruments, reading?_cons, h₁, h₂, h₃, h₄, h₅, h₆, Readings.zero]

namespace Shows

variable {r : Registry} {start : String} {x : Readings} (h : r.Shows (.named start) x)
include h

theorem countDocument : (r.countDocument (.named start)).Shows (.named start)
    { x with documents := x.documents + 1 } := by
  obtain ⟨h₁, h₂, h₃, -⟩ := names_ne start
  refine ⟨?_, ?_, ?_, ?_, h.formed⟩ <;> rw [Registry.countDocument, reading?_modify]
  · rw [if_pos rfl, h.documents]
    rfl
  · rw [if_neg h₁, h.writeErrors]
  · rw [if_neg h₂, h.durations]
  · rw [if_neg h₃, h.objects]

theorem countWriteError : (r.countWriteError (.named start)).Shows (.named start)
    { x with writeErrors := x.writeErrors + 1 } := by
  obtain ⟨h₁, -, -, h₄, h₅, -⟩ := names_ne start
  refine ⟨?_, ?_, ?_, ?_, h.formed⟩ <;> rw [Registry.countWriteError, reading?_modify]
  · rw [if_neg h₁.symm, h.documents]
  · rw [if_pos rfl, h.writeErrors]
    rfl
  · rw [if_neg h₄, h.durations]
  · rw [if_neg h₅, h.objects]

theorem observeDuration (seconds : Float) :
    (r.observeDuration (.named start) seconds).Shows (.named start)
      { x with durations := x.durations.observe seconds } := by
  obtain ⟨-, h₂, -, h₄, -, h₆⟩ := names_ne start
  refine ⟨?_, ?_, ?_, ?_, h.formed.observe seconds⟩ <;>
    rw [Registry.observeDuration, reading?_modify]
  · rw [if_neg h₂.symm, h.documents]
  · rw [if_neg h₄.symm, h.writeErrors]
  · rw [if_pos rfl, h.durations]
    rfl
  · rw [if_neg h₆, h.objects]

theorem setObjects {n : ℤ} (hn : n.natAbs < 2 ^ 1023) :
    ∃ r', r.setObjects (.named start) n = .ok r' ∧
      r'.Shows (.named start) { x with objects := n } := by
  obtain ⟨-, -, h₃, -, h₅, h₆⟩ := names_ne start
  obtain ⟨y, hy⟩ := Decimal.exists_nearest hn
  refine ⟨_, by rw [Registry.setObjects, hy], ?_, ?_, ?_, ?_, h.formed⟩ <;> rw [reading?_modify]
  · rw [if_neg h₃.symm, h.documents]
  · rw [if_neg h₅.symm, h.writeErrors]
  · rw [if_neg h₆.symm, h.durations]
  · rw [if_pos rfl, h.objects]
    rfl

end Shows

end Registry

end MetricDocs
