import Mathlib.Data.List.Forall2

/-!
# Traversals that can fail

A list is gone through from the front and the first element that fails decides. Two readings of that:
a traversal that succeeds relates the list and its results element by element, and where it is known
which elements fail, the outcome is known as well.
-/

set_option autoImplicit false

namespace AccessorGen

variable {ε α β : Type}

theorem bind_eq_ok_iff {x : Except ε α} {f : α → Except ε β} {b : β} :
    x >>= f = .ok b ↔ ∃ a, x = .ok a ∧ f a = .ok b := by
  cases x with
  | error e =>
    constructor
    · intro h
      cases h
    · rintro ⟨a, h, -⟩
      cases h
  | ok a =>
    constructor
    · exact fun h => ⟨a, rfl, h⟩
    · rintro ⟨a', h, hf⟩
      cases h
      exact hf

theorem bind_eq_error_iff {x : Except ε α} {f : α → Except ε β} {e : ε} :
    x >>= f = .error e ↔ x = .error e ∨ ∃ a, x = .ok a ∧ f a = .error e := by
  cases x with
  | error e' =>
    constructor
    · intro h
      cases h
      exact Or.inl rfl
    · rintro (h | ⟨a, h, -⟩)
      · cases h
        rfl
      · cases h
  | ok a =>
    constructor
    · exact fun h => Or.inr ⟨a, rfl, h⟩
    · rintro (h | ⟨a', h, hf⟩)
      · cases h
      · cases h
        exact hf

theorem map_eq_ok_iff {x : Except ε α} {f : α → β} {b : β} :
    x.map f = .ok b ↔ ∃ a, x = .ok a ∧ f a = b := by
  cases x with
  | error e => simp [Except.map]
  | ok a => simp [Except.map]

theorem mapM_eq_ok_iff {f : α → Except ε β} {as : List α} {bs : List β} :
    as.mapM f = .ok bs ↔ List.Forall₂ (fun a b => f a = .ok b) as bs := by
  induction as generalizing bs with
  | nil =>
    rw [List.forall₂_nil_left_iff]
    exact ⟨fun h => (Except.ok.inj h).symm, fun h => h ▸ rfl⟩
  | cons a as ih =>
    rw [List.mapM_cons, List.forall₂_cons_left_iff]
    -- the first element decides, then the rest
    cases ha : f a with
    | error e =>
      constructor
      · intro h
        cases h
      · rintro ⟨b, _, hb, -⟩
        cases hb
    | ok b =>
      cases hs : as.mapM f with
      | error e =>
        constructor
        · intro h
          cases h
        · rintro ⟨_, bs', -, hbs, -⟩
          rw [← ih, hs] at hbs
          cases hbs
      | ok bs' =>
        constructor
        · intro h
          exact ⟨b, bs', rfl, ih.mp hs, (Except.ok.inj h).symm⟩
        · rintro ⟨b', bs'', hb, hbs, rfl⟩
          rw [← ih, hs] at hbs
          rw [← Except.ok.inj hb, ← Except.ok.inj hbs]
          rfl

theorem exists_mapM_eq_ok {f : α → Except ε β} {as : List α} (h : ∀ a ∈ as, ∃ b, f a = .ok b) :
    ∃ bs, as.mapM f = .ok bs := by
  induction as with
  | nil => exact ⟨[], rfl⟩
  | cons a as ih =>
    obtain ⟨b, hb⟩ := h a List.mem_cons_self
    obtain ⟨bs, hbs⟩ := ih fun a' ha' => h a' (List.mem_cons_of_mem _ ha')
    exact ⟨b :: bs, mapM_eq_ok_iff.mpr (.cons hb (mapM_eq_ok_iff.mp hbs))⟩

theorem mapM_append_eq_ok_iff {f : α → Except ε β} {as as' : List α} {bs : List β} :
    (as ++ as').mapM f = .ok bs ↔
      ∃ front, as.mapM f = .ok front ∧ ∃ back, as'.mapM f = .ok back ∧ bs = front ++ back := by
  rw [List.mapM_append, bind_eq_ok_iff]
  apply exists_congr
  intro front
  apply and_congr_right
  intro _
  rw [bind_eq_ok_iff]
  apply exists_congr
  intro back
  apply and_congr_right
  intro _
  exact ⟨fun h => (Except.ok.inj h).symm, fun h => h ▸ rfl⟩

/-- **Where each element is known to fail or to succeed,** the first that fails is the error. -/
theorem mapM_eq_of_findSome? {γ : Type} {f : α → Except ε β} {fails : α → Option γ} {error : γ → ε}
    {result : α → β} {as : List α}
    (h : ∀ a ∈ as, f a = (fails a).elim (.ok (result a)) fun c => .error (error c)) :
    as.mapM f = (as.findSome? fails).elim (.ok (as.map result)) fun c => .error (error c) := by
  induction as with
  | nil => rfl
  | cons a as ih =>
    rw [List.mapM_cons, h a List.mem_cons_self, ih fun b hb => h b (List.mem_cons_of_mem _ hb),
      List.findSome?_cons]
    cases fails a with
    | some c => rfl
    | none => cases as.findSome? fails <;> rfl

/-- Two runs end alike: with the same error, or with results that are related. -/
inductive EndAlike {γ : Type} (R : α → γ → Prop) : Except ε α → Except ε γ → Prop
  | failed (e : ε) : EndAlike R (.error e) (.error e)
  | gave {a : α} {c : γ} (h : R a c) : EndAlike R (.ok a) (.ok c)

/-- Runs that end alike and go on alike end alike. -/
theorem EndAlike.bind {γ δ : Type} {R : α → γ → Prop} {S : β → δ → Prop} {x : Except ε α}
    {y : Except ε γ} {f : α → Except ε β} {g : γ → Except ε δ} (h : EndAlike R x y)
    (hnext : ∀ a c, R a c → EndAlike S (f a) (g c)) : EndAlike S (x >>= f) (y >>= g) := by
  cases h with
  | failed e => exact .failed e
  | gave h => exact hnext _ _ h

/-- Runs that end alike are one and the same where related results are. -/
theorem EndAlike.eq {R : α → α → Prop} {x y : Except ε α} (h : EndAlike R x y)
    (hR : ∀ a b, R a b → a = b) : x = y := by
  cases h with
  | failed e => rfl
  | gave h => rw [hR _ _ h]

/-- Where one run gives a result, the other gives one that is related to it. -/
theorem EndAlike.exists_of_ok {γ : Type} {R : α → γ → Prop} {x : Except ε α} {y : Except ε γ} {a : α}
    (h : EndAlike R x y) (hx : x = .ok a) : ∃ c, y = .ok c ∧ R a c := by
  subst hx
  cases h with
  | gave h => exact ⟨_, rfl, h⟩

theorem forall₂_and {R S : α → β → Prop} {as : List α} {bs : List β} (hr : List.Forall₂ R as bs)
    (hs : List.Forall₂ S as bs) : List.Forall₂ (fun a b => R a b ∧ S a b) as bs := by
  induction hr with
  | nil => exact .nil
  | cons hab _ ih =>
    cases hs with
    | cons hab' hrest => exact .cons ⟨hab, hab'⟩ (ih hrest)

theorem forall₂_ite {R : α → β → Prop} {as : List α} {bs : List β} (h : List.Forall₂ R as bs)
    (p : Prop) [Decidable p] : List.Forall₂ R (if p then as else []) (if p then bs else []) := by
  split
  · exact h
  · exact .nil

theorem exists_of_mem_of_forall₂ {R : α → β → Prop} {as : List α} {bs : List β}
    (h : List.Forall₂ R as bs) {b : β} (hb : b ∈ bs) : ∃ a ∈ as, R a b := by
  induction h with
  | nil => exact absurd hb List.not_mem_nil
  | cons hr _ ih =>
    rcases List.mem_cons.mp hb with rfl | hb
    · exact ⟨_, List.mem_cons_self, hr⟩
    · obtain ⟨a, ha, hr⟩ := ih hb
      exact ⟨a, List.mem_cons_of_mem _ ha, hr⟩

theorem map_eq_map_of_forall₂ {γ : Type} {R : α → β → Prop} {as : List α} {bs : List β} {f : α → γ}
    {g : β → γ} (h : List.Forall₂ R as bs) (hr : ∀ a b, R a b → f a = g b) :
    as.map f = bs.map g := by
  induction h with
  | nil => rfl
  | cons hab _ ih => rw [List.map_cons, List.map_cons, hr _ _ hab, ih]

/-- A search that cannot tell related elements apart finds related ones, or none twice. -/
theorem find?_of_forall₂ {R : α → β → Prop} {as : List α} {bs : List β} {p : α → Bool}
    {q : β → Bool} (h : List.Forall₂ R as bs) (hr : ∀ a b, R a b → p a = q b) :
    Option.Rel R (as.find? p) (bs.find? q) := by
  induction h with
  | nil => exact .none
  | @cons a b _ _ hab _ ih =>
    rw [List.find?_cons, List.find?_cons, hr a b hab]
    cases q b with
    | true => exact .some hab
    | false => exact ih

/-- What related elements have in common, all elements of one list have or all of the other. -/
theorem forall_mem_iff_of_forall₂ {R : α → β → Prop} {p : α → Prop} {q : β → Prop}
    {as : List α} {bs : List β} (h : List.Forall₂ R as bs) (hr : ∀ a b, R a b → (q b ↔ p a)) :
    (∀ b ∈ bs, q b) ↔ ∀ a ∈ as, p a := by
  induction h with
  | nil => simp
  | cons hab _ ih => rw [List.forall_mem_cons, List.forall_mem_cons, hr _ _ hab, ih]

/-- One more element of a list without repetition and without what was met before it: a step of every
traversal that carries along what it has met. -/
theorem fresh_cons {seen as : List α} {a : α} :
    ((a :: as).Nodup ∧ ∀ b ∈ a :: as, b ∉ seen) ↔
      a ∉ seen ∧ as.Nodup ∧ ∀ b ∈ as, b ∉ a :: seen := by
  simp only [List.nodup_cons, List.mem_cons, forall_eq_or_imp, not_or]
  constructor
  · rintro ⟨⟨ha, hnodup⟩, hfirst, hrest⟩
    exact ⟨hfirst, hnodup, fun b hb => ⟨fun he => ha (he ▸ hb), hrest b hb⟩⟩
  · rintro ⟨hfirst, hnodup, hrest⟩
    exact ⟨⟨fun ha => (hrest a ha).1 rfl, hnodup⟩, hfirst, fun b hb => (hrest b hb).2⟩

end AccessorGen
