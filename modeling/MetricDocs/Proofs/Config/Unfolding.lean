/-
  What unfolding a part gives, and what it depends on.

  * `Collection.Unfolded f c v`: the value `v` is the collection `c` with its parts unfolded by `f`;
  * `Reaches cs p n`: below the part `p` lies the collection with the number `n`;
  * `exists_encode_of_unfoldWithin`: what was unfolded can be written;
  * `unfoldWithin_congr`: unfolding depends on the collections that a part reaches, and on no other;
  * `Tells c c'`: unfolding tells the collection `c'` from `c`, unless they are the same.  If all
    changes of collections can be told, parts unfold to the same value only if nothing that they reach
    has changed (`collection_eq_of_unfoldWithin_eq`).
-/
import MetricDocs.Config.Unfolding
import MetricDocs.Proofs.Json.Settled

namespace MetricDocs

/-! ## Results one by one -/

theorem mapM_eq_ok_iff {α β ε : Type} {f : α → Except ε β} {xs : List α} {ys : List β} :
    xs.mapM f = .ok ys ↔ List.Forall₂ (fun x y => f x = .ok y) xs ys := by
  induction xs generalizing ys with
  | nil => cases ys <;> simp [pure, Except.pure]
  | cons x xs ih =>
    rw [List.mapM_cons]
    rcases hx : f x with e | y
    · cases ys <;> simp [bind, Except.bind, hx]
    · rcases hxs : xs.mapM f with e | zs
      · cases ys <;> simp [bind, Except.bind, hx, ← ih, hxs]
      · cases ys <;> simp [bind, Except.bind, pure, Except.pure, hx, ← ih, hxs]

theorem forall₂_of_forall_mem {α β : Type} {R S : α → β → Prop} {xs : List α} {ys : List β}
    (h : List.Forall₂ R xs ys) (hRS : ∀ x ∈ xs, ∀ y, R x y → S x y) : List.Forall₂ S xs ys :=
  ((List.forall₂_and_left (p := (· ∈ xs)) xs ys).2 ⟨fun _ hx => hx, h⟩).imp
    fun x y ⟨hx, hxy⟩ => hRS x hx y hxy

theorem exists_of_forall₂ {α β : Type} {R S : α → β → Prop} {xs : List α} {ys : List β}
    (hR : List.Forall₂ R xs ys) (hS : List.Forall₂ S xs ys) {x : α} (hx : x ∈ xs) :
    ∃ y, R x y ∧ S x y := by
  induction hR with
  | nil => cases hx
  | cons hxy _ ih =>
    cases hS with
    | cons hxy' hS =>
      rcases List.mem_cons.1 hx with rfl | hx
      · exact ⟨_, hxy, hxy'⟩
      · exact ih hS hx

theorem exists_ok_of_any {α ε : Type} {r : Except ε α} {p : α → Bool}
    (h : r.toOption.any p = true) : ∃ x, r = .ok x ∧ p x = true := by
  cases r with
  | error => cases h
  | ok x => exact ⟨x, rfl, h⟩

theorem bind_eq_ok_iff {α β ε : Type} {a : Except ε α} {f : α → β} {y : β} :
    (do return f (← a)) = Except.ok y ↔ ∃ x, a = .ok x ∧ y = f x := by
  cases a <;> simp [bind, Except.bind, pure, Except.pure, eq_comm]

theorem bind_bind_eq_ok_iff {α β γ ε : Type} {a : Except ε α} {b : Except ε β} {f : α → β → γ}
    {z : γ} : (do return f (← a) (← b)) = Except.ok z ↔ ∃ x y, a = .ok x ∧ b = .ok y ∧ z = f x y := by
  cases a <;> cases b <;> simp [bind, Except.bind, pure, Except.pure, eq_comm]

namespace Json

theorem exists_members_of_literals (sep : List Char) {es : List (Key × Except Failure (List Char))}
    (h : ∀ e ∈ es, (∃ key, keyLiteral e.1 = .ok key) ∧ ∃ text, e.2 = .ok text) :
    ∃ parts, members sep es = .ok parts := by
  induction es with
  | nil => exact ⟨[], rfl⟩
  | cons e es ih =>
    obtain ⟨k, v⟩ := e
    obtain ⟨⟨⟨key, hkey⟩, value, rfl⟩, hes⟩ := List.forall_mem_cons.1 h
    obtain ⟨parts, hparts⟩ := ih hes
    exact ⟨(key ++ sep ++ value) :: parts, by
      rw [members, hkey, hparts]
      rfl⟩

theorem exists_encodeAll_of_forall {st : Style} {vs : List Value}
    (h : ∀ v ∈ vs, ∃ text, encode st v = .ok text) : ∃ texts, encodeAll st vs = .ok texts := by
  induction vs with
  | nil => exact ⟨[], rfl⟩
  | cons v vs ih =>
    obtain ⟨⟨text, hv⟩, hvs⟩ := List.forall_mem_cons.1 h
    obtain ⟨texts, htexts⟩ := ih hvs
    exact ⟨text :: texts, by
      rw [encodeAll, hv, htexts]
      rfl⟩

end Json

namespace Yaml

/-! ## Unfolded collections -/

/-- The parts right inside a collection. -/
def Collection.parts : Collection → List Part
  | .list parts => parts
  | .pairs parts => parts.flatMap fun p => [p.1, p.2]
  | .set _ => []
  | .mapping fields => fields.map Prod.snd

theorem Collection.mem_parts_pairs {parts : List (Part × Part)} {p : Part × Part} (hp : p ∈ parts) :
    p.1 ∈ (pairs parts).parts ∧ p.2 ∈ (pairs parts).parts :=
  ⟨List.mem_flatMap.2 ⟨p, hp, by simp⟩, List.mem_flatMap.2 ⟨p, hp, by simp⟩⟩

/-- A collection with its parts unfolded. -/
inductive Collection.Unfolded (f : Part → Except Failure Value) : Collection → Value → Prop
  | list {parts : List Part} {vs : List Value} :
      List.Forall₂ (fun p v => f p = .ok v) parts vs → Unfolded f (.list parts) (.list vs)
  | pairs {parts : List (Part × Part)} {vs : List Value} :
      List.Forall₂ (fun p w => ∃ a b, f p.1 = .ok a ∧ f p.2 = .ok b ∧ w = .tuple [a, b]) parts vs →
      Unfolded f (.pairs parts) (.list vs)
  | mapping {fields : List (Key × Part)} {entries : Fields} :
      List.Forall₂ (fun e w => (∃ key, Json.keyLiteral e.1 = .ok key) ∧ w.1 = e.1 ∧ f e.2 = .ok w.2)
        fields entries → Unfolded f (.mapping fields) (.mapping entries)

/-- Unfolds a collection by unfolding its parts. -/
def Collection.unfoldWith (f : Part → Except Failure Value) : Collection → Except Failure Value
  | .list parts => do return .list (← parts.mapM f)
  | .pairs parts => do return .list (← parts.mapM fun p => return .tuple [← f p.1, ← f p.2])
  | .set _ => .error (.notEncodable "set")
  | .mapping fields => do return .mapping (← fields.mapM fun e => return (← writableKey e.1, ← f e.2))

section
variable {cs cs' : Collections} {fuel fuel' n m : ℕ} {path path' : List ℕ} {p : Part} {v : Value}
variable {f g : Part → Except Failure Value} {c c' : Collection}

theorem writable_eq_ok_iff {w : Value} :
    writable v = .ok w ↔ v = w ∧ ∃ text, Json.encode .spaced v = .ok text := by
  rw [writable]
  rcases Json.encode .spaced v with e | text <;> simp [Except.map]

theorem writableKey_eq_ok_iff {k l : Key} :
    writableKey k = .ok l ↔ k = l ∧ ∃ key, Json.keyLiteral k = .ok key := by
  rw [writableKey]
  rcases Json.keyLiteral k with e | text <;> simp [Except.map]

/-- **What unfolding a collection gives.** -/
theorem unfoldWith_eq_ok_iff : c.unfoldWith f = .ok v ↔ c.Unfolded f v := by
  cases c with
  | list parts =>
    rw [Collection.unfoldWith, bind_eq_ok_iff]
    constructor
    · rintro ⟨vs, hvs, rfl⟩
      exact .list (mapM_eq_ok_iff.1 hvs)
    · intro h
      cases h with
      | list hvs => exact ⟨_, mapM_eq_ok_iff.2 hvs, rfl⟩
  | pairs parts =>
    rw [Collection.unfoldWith, bind_eq_ok_iff]
    simp only [mapM_eq_ok_iff, bind_bind_eq_ok_iff]
    constructor
    · rintro ⟨vs, hvs, rfl⟩
      exact .pairs hvs
    · intro h
      cases h with
      | pairs hvs => exact ⟨_, hvs, rfl⟩
  | set keys =>
    constructor
    · intro h
      cases h
    · intro h
      cases h
  | mapping fields =>
    rw [Collection.unfoldWith, bind_eq_ok_iff]
    simp only [mapM_eq_ok_iff, bind_bind_eq_ok_iff, writableKey_eq_ok_iff]
    constructor
    · rintro ⟨entries, hentries, rfl⟩
      refine .mapping (hentries.imp ?_)
      rintro e w ⟨k, u, ⟨rfl, hkey⟩, hu, rfl⟩
      exact ⟨hkey, rfl, hu⟩
    · intro h
      cases h with
      | mapping hentries =>
        refine ⟨_, hentries.imp ?_, rfl⟩
        rintro e w ⟨hkey, hw, hu⟩
        exact ⟨e.1, w.2, ⟨rfl, hkey⟩, hu, by rw [← hw]⟩

theorem unfoldWithin_value (v : Value) : unfoldWithin cs fuel path (.value v) = writable v := by
  rw [unfoldWithin]

theorem unfoldWithin_collection (n : ℕ) : unfoldWithin cs (fuel + 1) path (.collection n) =
    if n ∈ path then .error .circular
    else (cs.collection n).unfoldWith (unfoldWithin cs fuel (n :: path)) := by
  rw [unfoldWithin]
  cases cs.collection n <;> rfl

theorem unfoldWithin_collection_eq_ok (h : unfoldWithin cs fuel path (.collection n) = .ok v) :
    ∃ rest, fuel = rest + 1 ∧ n ∉ path ∧
      (cs.collection n).Unfolded (unfoldWithin cs rest (n :: path)) v := by
  cases fuel with
  | zero => cases h
  | succ rest =>
    rw [unfoldWithin_collection] at h
    split_ifs at h with hn
    exact ⟨rest, rfl, hn, unfoldWith_eq_ok_iff.1 h⟩

/-! ## Writing what was unfolded -/

theorem Collection.Unfolded.exists_encode (hc : c.Unfolded f v)
    (h : ∀ p ∈ c.parts, ∀ w, f p = .ok w → ∃ text, Json.encode .spaced w = .ok text) :
    ∃ text, Json.encode .spaced v = .ok text := by
  cases hc with
  | @list parts vs hvs =>
    obtain ⟨texts, htexts⟩ := Json.exists_encodeAll_of_forall (Json.forall_mem_of_forall₂ hvs h)
    exact ⟨_, by rw [Json.encode, htexts]; rfl⟩
  | @pairs parts vs hvs =>
    have hall : ∀ w ∈ vs, ∃ text, Json.encode .spaced w = .ok text := by
      refine Json.forall_mem_of_forall₂ hvs ?_
      rintro p hp w ⟨a, b, ha, hb, rfl⟩
      obtain ⟨s, hs⟩ := h p.1 (Collection.mem_parts_pairs hp).1 a ha
      obtain ⟨t, ht⟩ := h p.2 (Collection.mem_parts_pairs hp).2 b hb
      exact ⟨_, by rw [Json.encode, Json.encodeAll, Json.encodeAll, Json.encodeAll, hs, ht]; rfl⟩
    obtain ⟨texts, htexts⟩ := Json.exists_encodeAll_of_forall hall
    exact ⟨_, by rw [Json.encode, htexts]; rfl⟩
  | @mapping fields entries hentries =>
    have hall : ∀ w ∈ entries, (∃ key, Json.keyLiteral w.1 = .ok key) ∧
        ∃ text, Json.encode .spaced w.2 = .ok text :=
      Json.forall_mem_of_forall₂ hentries fun e he w ⟨hkey, hw, hu⟩ =>
        ⟨hw ▸ hkey, h e.2 (List.mem_map_of_mem he) w.2 hu⟩
    have hmembers : ∀ e ∈ entries.map fun e => (e.1, Json.encode .spaced e.2),
        (∃ key, Json.keyLiteral e.1 = .ok key) ∧ ∃ text, e.2 = .ok text := List.forall_mem_map.2 hall
    obtain ⟨parts, hparts⟩ :=
      Json.exists_members_of_literals Json.Style.spaced.keySeparator hmembers
    refine ⟨_, by
      rw [Json.encode_mapping (fun hsorted => absurd hsorted Bool.false_ne_true)]
      show Except.map _ (Json.members _ (entries.map _)) = _
      rw [hparts]
      rfl⟩

/-- **What was unfolded can be written.** -/
theorem exists_encode_of_unfoldWithin (h : unfoldWithin cs fuel path p = .ok v) :
    ∃ text, Json.encode .spaced v = .ok text := by
  induction fuel using Nat.strong_induction_on generalizing path p v with
  | _ fuel ih =>
    cases p with
    | value w =>
      rw [unfoldWithin_value, writable_eq_ok_iff] at h
      exact h.1 ▸ h.2
    | collection n =>
      obtain ⟨rest, rfl, -, hc⟩ := unfoldWithin_collection_eq_ok h
      exact hc.exists_encode fun q _ w hw => ih rest (Nat.lt_succ_self rest) hw

theorem unfoldFields_eq_ok_iff {fields : List (Key × Part)} {entries : Fields} :
    unfoldFields cs fields = .ok entries ↔
      (Collection.mapping fields).Unfolded (unfold cs) (.mapping entries) := by
  rw [← unfoldWith_eq_ok_iff, Collection.unfoldWith, bind_eq_ok_iff, unfoldFields]
  simp

theorem exists_encode_of_unfoldFields {fields : List (Key × Part)} {entries : Fields}
    (h : unfoldFields cs fields = .ok entries) :
    ∃ text, StaticFields.encode (.mapping entries) = .ok text := by
  obtain ⟨text, htext⟩ := (unfoldFields_eq_ok_iff.1 h).exists_encode
    fun p _ w hw => exists_encode_of_unfoldWithin hw
  exact ⟨String.ofList text, by rw [StaticFields.encode, Json.render, htext]; rfl⟩

/-! ## What unfolding depends on -/

/-- A part leads to a collection: it is the collection with a number, or something in it leads
    there. -/
inductive Collections.Reaches (cs : Collections) : Part → ℕ → Prop
  | here (n : ℕ) : Reaches cs (.collection n) n
  | inside {n m : ℕ} {p : Part} :
      p ∈ (cs.collection n).parts → Reaches cs p m → Reaches cs (.collection n) m

theorem Collection.Unfolded.mono (hc : c.Unfolded f v)
    (h : ∀ p ∈ c.parts, ∀ w, f p = .ok w → g p = .ok w) : c.Unfolded g v := by
  cases hc with
  | list hvs => exact .list (forall₂_of_forall_mem hvs h)
  | pairs hvs =>
    refine .pairs (forall₂_of_forall_mem hvs ?_)
    rintro p hp w ⟨a, b, ha, hb, rfl⟩
    exact ⟨a, b, h _ (Collection.mem_parts_pairs hp).1 a ha, h _ (Collection.mem_parts_pairs hp).2 b hb,
      rfl⟩
  | mapping hentries =>
    refine .mapping (forall₂_of_forall_mem hentries ?_)
    rintro e he w ⟨hkey, hw, hu⟩
    exact ⟨hkey, hw, h e.2 (List.mem_map_of_mem he) w.2 hu⟩

/-- **Unfolding depends on what a part leads to**, and a greater depth does not harm. -/
theorem unfoldWithin_congr (hle : fuel ≤ fuel')
    (hsame : ∀ m, cs.Reaches p m → cs'.collection m = cs.collection m)
    (h : unfoldWithin cs fuel path p = .ok v) : unfoldWithin cs' fuel' path p = .ok v := by
  induction fuel using Nat.strong_induction_on generalizing fuel' path p v with
  | _ fuel ih =>
    cases p with
    | value w => rwa [unfoldWithin_value] at h ⊢
    | collection n =>
      obtain ⟨rest, rfl, hn, hc⟩ := unfoldWithin_collection_eq_ok h
      obtain ⟨rest', rfl⟩ : ∃ rest', fuel' = rest' + 1 := ⟨fuel' - 1, by omega⟩
      rw [unfoldWithin_collection, if_neg hn, hsame n (.here n), unfoldWith_eq_ok_iff]
      refine hc.mono fun q hq w hw => ?_
      exact ih rest (Nat.lt_succ_self rest) (by omega) (fun m hm => hsame m (.inside hq hm)) hw

/-! ## What unfolding tells apart -/

theorem Collection.Unfolded.exists_of_mem_parts (hf : c.Unfolded f v) (hg : c.Unfolded g v)
    (hp : p ∈ c.parts) : ∃ w, f p = .ok w ∧ g p = .ok w := by
  cases hf with
  | list hvs =>
    cases hg with
    | list hvs' => exact exists_of_forall₂ hvs hvs' hp
  | pairs hvs =>
    cases hg with
    | pairs hvs' =>
      obtain ⟨q, hq, hpq⟩ := List.mem_flatMap.1 hp
      obtain ⟨w, ⟨a, b, ha, hb, rfl⟩, a', b', ha', hb', hw⟩ := exists_of_forall₂ hvs hvs' hq
      cases hw
      rcases List.mem_pair.1 hpq with rfl | rfl
      · exact ⟨a, ha, ha'⟩
      · exact ⟨b, hb, hb'⟩
  | mapping hentries =>
    cases hg with
    | mapping hentries' =>
      obtain ⟨e, he, rfl⟩ := List.mem_map.1 hp
      obtain ⟨w, ⟨-, -, hw⟩, -, -, hw'⟩ := exists_of_forall₂ hentries hentries' he
      exact ⟨w.2, hw, hw'⟩

theorem Collection.Unfolded.ne_text (hc : c.Unfolded f v) (t : String) : v ≠ .text t := by
  rintro rfl
  cases hc

/-- A text, and nothing else, unfolds to it. -/
def Faithful (f : Part → Except Failure Value) : Prop :=
  ∀ p v, f p = .ok v → ∀ t, p = .value (.text t) ↔ v = .text t

theorem faithful_unfoldWithin : Faithful (unfoldWithin cs fuel path) := by
  intro p v h t
  cases p with
  | value w =>
    rw [unfoldWithin_value, writable_eq_ok_iff] at h
    rw [Part.value.injEq, h.1]
  | collection n =>
    obtain ⟨rest, rfl, -, hc⟩ := unfoldWithin_collection_eq_ok h
    exact iff_of_false nofun (hc.ne_text t)

/-- Unfolding tells a collection from another one, unless they are the same. -/
def Tells (c c' : Collection) : Prop :=
  ∀ f g v, Faithful f → Faithful g → c.Unfolded f v → c'.Unfolded g v → c' = c

theorem Collection.Unfolded.keys_eq {fields : List (Key × Part)} {entries : Fields}
    (h : (Collection.mapping fields).Unfolded f (.mapping entries)) :
    fields.map Prod.fst = entries.map Prod.fst := by
  cases h with
  | mapping hentries =>
    induction hentries with
    | nil => rfl
    | cons hw _ ih => rw [List.map_cons, List.map_cons, ih, hw.2.1]

theorem Collection.Unfolded.get? {fields : List (Key × Part)} {entries : Fields}
    (h : (Collection.mapping fields).Unfolded f (.mapping entries)) (k : Key) :
    Fields.get? fields k = none ∧ Fields.get? entries k = none ∨
      ∃ p w, Fields.get? fields k = some p ∧ Fields.get? entries k = some w ∧ f p = .ok w := by
  cases h with
  | mapping hentries =>
    induction hentries with
    | nil => exact .inl ⟨rfl, rfl⟩
    | @cons e w fields entries hw _ ih =>
      obtain ⟨l, p⟩ := e
      obtain ⟨l', u⟩ := w
      obtain ⟨-, rfl, hu⟩ := hw
      rw [Fields.get?_cons, Fields.get?_cons]
      split_ifs
      · exact .inr ⟨p, u, rfl, rfl, hu⟩
      · exact ih

/-- If a text stands at a key of one of two mappings that unfold to the same value, it stands there in
    the other one too. -/
theorem get?_eq_of_unfolded_eq {fields fields' : List (Key × Part)} (hf : Faithful f) (hg : Faithful g)
    (h : (Collection.mapping fields).Unfolded f v) (h' : (Collection.mapping fields').Unfolded g v)
    {k : Key} {t : String} (hk : Fields.get? fields' k = some (.value (.text t))) :
    Fields.get? fields k = some (.value (.text t)) := by
  cases h with
  | @mapping _ entries hentries =>
    rcases h'.get? k with ⟨hnone, -⟩ | ⟨p', w, hp', hw, hgw⟩
    · cases hnone.symm.trans hk
    · rcases (Collection.Unfolded.mapping hentries).get? k with ⟨-, hnone⟩ | ⟨p, w', hp, hw', hfw⟩
      · cases hnone.symm.trans hw
      · cases hw.symm.trans hw'
        have ht : w = .text t := (hg p' w hgw t).1 (Option.some.inj (hp'.symm.trans hk))
        rw [hp, (hf p w hfw t).2 ht]

/-- **What unfolds to the same value is the same**, if unfolding tells every change. -/
theorem collection_eq_of_unfoldWithin_eq (htells : ∀ m, Tells (cs.collection m) (cs'.collection m))
    (hreach : cs.Reaches p m) (h : unfoldWithin cs fuel path p = .ok v)
    (h' : unfoldWithin cs' fuel' path' p = .ok v) : cs'.collection m = cs.collection m := by
  induction hreach generalizing fuel fuel' path path' v with
  | here n =>
    obtain ⟨rest, rfl, -, hc⟩ := unfoldWithin_collection_eq_ok h
    obtain ⟨rest', rfl, -, hc'⟩ := unfoldWithin_collection_eq_ok h'
    exact htells n _ _ v faithful_unfoldWithin faithful_unfoldWithin hc hc'
  | @inside n m p hp hreach ih =>
    obtain ⟨rest, rfl, -, hc⟩ := unfoldWithin_collection_eq_ok h
    obtain ⟨rest', rfl, -, hc'⟩ := unfoldWithin_collection_eq_ok h'
    rw [htells n _ _ v faithful_unfoldWithin faithful_unfoldWithin hc hc'] at hc'
    obtain ⟨w, hw, hw'⟩ := hc.exists_of_mem_parts hc' hp
    exact ih hw hw'

end

end Yaml

end MetricDocs
