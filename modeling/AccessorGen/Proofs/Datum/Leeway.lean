import AccessorGen.Datum.Parts
import Mathlib.Data.List.Forall2
import Mathlib.Data.List.Nodup

/-!
# The leeway in writing a record

One structure can be written as many records: an entry may be left out where its absence means the same, an
entry whose key means nothing may stand anywhere, a value may be written in another way, and the order of
the entries is free. `Leeway` says which of this is allowed for one structure, and `Restates` is what comes
of it.

A part is read off a restated record as it was read off the full one (`required_of_restated`,
`withDefault_of_restated`, `nullable_of_restated`), provided that each way of writing its value is read
alike and that the value of an entry that may be left out is what its absence means. For each of them that
is a question about one part.
-/

set_option autoImplicit false

namespace AccessorGen

/-- The leeway in writing a structure as a record. -/
structure Leeway where
  /-- The keys of the structure. -/
  keys : List String
  /-- The entry may be left out. -/
  MayOmit : String → Datum → Prop
  /-- The value of the key may as well be written as the second one. -/
  Rewrites : String → Datum → Datum → Prop
  nodup_keys : keys.Nodup := by decide +kernel

namespace Leeway

/-- The second entries are the first, written with the leeway. -/
inductive RestatesEntries (l : Leeway) :
    List (String × Datum) → List (String × Datum) → Prop
  | nil : RestatesEntries l [] []
  | keep {key : String} {d d' : Datum} {es es' : List (String × Datum)} (hd : l.Rewrites key d d')
      (h : RestatesEntries l es es') : RestatesEntries l ((key, d) :: es) ((key, d') :: es')
  | leaveOut {key : String} {d : Datum} {es es' : List (String × Datum)} (hd : l.MayOmit key d)
      (h : RestatesEntries l es es') : RestatesEntries l ((key, d) :: es) es'
  | insert {key : String} {d : Datum} {es es' : List (String × Datum)} (hkey : key ∉ l.keys)
      (h : RestatesEntries l es es') : RestatesEntries l es ((key, d) :: es')
  | reorder {es es' es'' : List (String × Datum)} (h : RestatesEntries l es es')
      (hperm : es'.Perm es'') : RestatesEntries l es es''

/-- The second record is the first, written with the leeway. -/
def Restates (l : Leeway) (d d' : Datum) : Prop :=
  ∃ es es', d = .record es ∧ d' = .record es' ∧ l.RestatesEntries es es'

/-- The second list is the first with its items written otherwise, one by one. -/
def Itemwise (R : Datum → Datum → Prop) (d d' : Datum) : Prop :=
  ∃ items items', d = .list items ∧ d' = .list items' ∧ List.Forall₂ R items items'

/-- The value of one key has leeway and no other has. -/
def Only (varied : String) (R : Datum → Datum → Prop) (key : String) (d d' : Datum) : Prop :=
  key = varied ∧ R d d' ∨ key ≠ varied ∧ d' = d

variable {l : Leeway} {es es' : List (String × Datum)} {key : String} {d : Datum}

/-- To leave out entries that may be left out is to restate the record. -/
theorem restatesEntries_filter {p : String × Datum → Bool} (hsame : ∀ e ∈ es, l.Rewrites e.1 e.2 e.2)
    (homit : ∀ e ∈ es, p e = false → l.MayOmit e.1 e.2) : l.RestatesEntries es (es.filter p) := by
  induction es with
  | nil => exact .nil
  | cons e es ih =>
    have hrest := ih (fun e' he' => hsame e' (List.mem_cons_of_mem _ he'))
      fun e' he' => homit e' (List.mem_cons_of_mem _ he')
    cases hp : p e with
    | true =>
      rw [List.filter_cons_of_pos hp]
      exact .keep (hsame e List.mem_cons_self) hrest
    | false =>
      rw [List.filter_cons_of_neg (Bool.eq_false_iff.mp hp)]
      exact .leaveOut (homit e List.mem_cons_self hp) hrest

theorem restatesEntries_refl (h : ∀ e ∈ es, l.Rewrites e.1 e.2 e.2) : l.RestatesEntries es es := by
  have hall := restatesEntries_filter (p := fun _ => true) h nofun
  rwa [List.filter_true] at hall

theorem itemwise_refl {α : Type} {R : Datum → Datum → Prop} {write : α → Datum}
    (h : ∀ a, R (write a) (write a)) (as : List α) :
    Itemwise R (.list (as.map write)) (.list (as.map write)) := by
  refine ⟨_, _, rfl, rfl, List.forall₂_same.mpr fun d hd => ?_⟩
  obtain ⟨a, -, rfl⟩ := List.mem_map.mp hd
  exact h a

section Only

variable {varied : String} {R : Datum → Datum → Prop} {d' : Datum}

theorem Only.rewrites (h : Only varied R varied d d') : R d d' := by
  rcases h with ⟨-, h⟩ | ⟨hne, -⟩
  · exact h
  · exact absurd rfl hne

theorem Only.eq_of_ne (h : Only varied R key d d') (hkey : key ≠ varied) : d' = d := by
  rcases h with ⟨hvaried, -⟩ | ⟨-, h⟩
  · exact absurd hvaried hkey
  · exact h

end Only

/-! ## Looking up a key -/

/-- What stands under a key of the structure is what stood there, perhaps written otherwise. -/
theorem exists_mem_of_restatesEntries (h : l.RestatesEntries es es') (hkey : key ∈ l.keys) {d' : Datum}
    (hd : (key, d') ∈ es') : ∃ d, (key, d) ∈ es ∧ l.Rewrites key d d' := by
  induction h with
  | nil => exact absurd hd List.not_mem_nil
  | keep hrewrites _ ih =>
    rcases List.mem_cons.mp hd with hd | hd
    · cases hd
      exact ⟨_, List.mem_cons_self, hrewrites⟩
    · obtain ⟨d, hmem, hrewrites⟩ := ih hd
      exact ⟨d, List.mem_cons_of_mem _ hmem, hrewrites⟩
  | leaveOut _ _ ih =>
    obtain ⟨d, hmem, hrewrites⟩ := ih hd
    exact ⟨d, List.mem_cons_of_mem _ hmem, hrewrites⟩
  | insert hunknown _ ih =>
    rcases List.mem_cons.mp hd with hd | hd
    · cases hd
      exact absurd hkey hunknown
    · exact ih hd
  | reorder _ hperm ih => exact ih (hperm.mem_iff.mpr hd)

/-- A key that has gone was allowed to go. -/
theorem exists_mem_or_mayOmit (h : l.RestatesEntries es es') (hd : (key, d) ∈ es) :
    (∃ d', (key, d') ∈ es') ∨ l.MayOmit key d := by
  induction h with
  | nil => exact absurd hd List.not_mem_nil
  | keep _ _ ih =>
    rcases List.mem_cons.mp hd with hd | hd
    · cases hd
      exact Or.inl ⟨_, List.mem_cons_self⟩
    · rcases ih hd with ⟨d', hmem⟩ | homit
      · exact Or.inl ⟨d', List.mem_cons_of_mem _ hmem⟩
      · exact Or.inr homit
  | leaveOut hmay _ ih =>
    rcases List.mem_cons.mp hd with hd | hd
    · cases hd
      exact Or.inr hmay
    · exact ih hd
  | insert _ _ ih =>
    rcases ih hd with ⟨d', hmem⟩ | homit
    · exact Or.inl ⟨d', List.mem_cons_of_mem _ hmem⟩
    · exact Or.inr homit
  | reorder _ hperm ih =>
    rcases ih hd with ⟨d', hmem⟩ | homit
    · exact Or.inl ⟨d', hperm.mem_iff.mp hmem⟩
    · exact Or.inr homit

theorem mem_of_lookup_eq_some {d : Datum} (h : es.lookup key = some d) : (key, d) ∈ es := by
  obtain ⟨front, back, rfl, -⟩ := List.lookup_eq_some_iff.mp h
  simp

/-- **What a restated record has under a key.** -/
theorem lookup_of_restatesEntries (hfull : es.map Prod.fst = l.keys) (h : l.RestatesEntries es es')
    (hd : es.lookup key = some d) :
    (∃ d', es'.lookup key = some d' ∧ l.Rewrites key d d') ∨
      es'.lookup key = none ∧ l.MayOmit key d := by
  have hmem := mem_of_lookup_eq_some hd
  have hkey : key ∈ l.keys := hfull ▸ List.mem_map_of_mem hmem
  cases hlookup : es'.lookup key with
  | some d' =>
    obtain ⟨d₀, hmem₀, hrewrites⟩ :=
      exists_mem_of_restatesEntries h hkey (mem_of_lookup_eq_some hlookup)
    -- the full record has the key once
    have hsame : (key, d₀) = (key, d) :=
      List.inj_on_of_nodup_map (hfull ▸ l.nodup_keys) hmem₀ hmem rfl
    cases hsame
    exact Or.inl ⟨d', rfl, hrewrites⟩
  | none =>
    refine Or.inr ⟨rfl, ?_⟩
    rcases exists_mem_or_mayOmit h hmem with ⟨d', hd'⟩ | homit
    · have hne := List.lookup_eq_none_iff.mp hlookup (key, d') hd'
      simp at hne
    · exact homit

/-! ## Reading a part -/

section Parts

variable {α : Type}

theorem required_of_restated (key : String) (value? : Datum → Option α) (v : α)
    (hfull : es.map Prod.fst = l.keys) (h : l.RestatesEntries es es') (hd : es.lookup key = some d)
    (hread : ∀ d', l.Rewrites key d d' → value? d' = some v) (homit : ¬l.MayOmit key d) :
    Parts.required ⟨es', false⟩ key value? = some v := by
  rw [Parts.required]
  rcases lookup_of_restatesEntries hfull h hd with ⟨d', hd', hrewrites⟩ | ⟨-, hmay⟩
  · rw [hd']
    exact hread d' hrewrites
  · exact absurd hmay homit

theorem withDefault_of_restated (key : String) (value? : Datum → Option α) (v default : α)
    (hfull : es.map Prod.fst = l.keys) (h : l.RestatesEntries es es') (hd : es.lookup key = some d)
    (hread : ∀ d', l.Rewrites key d d' → value? d' = some v)
    (homit : l.MayOmit key d → default = v) :
    Parts.withDefault ⟨es', false⟩ key value? default = some v := by
  rw [Parts.withDefault]
  rcases lookup_of_restatesEntries hfull h hd with ⟨d', hd', hrewrites⟩ | ⟨hnone, hmay⟩
  · rw [hd']
    exact hread d' hrewrites
  · rw [hnone, homit hmay]

theorem nullable_of_restated (key : String) (value? : Datum → Option α) (v : Option α)
    (hfull : es.map Prod.fst = l.keys) (h : l.RestatesEntries es es') (hd : es.lookup key = some d)
    (hread : ∀ d', l.Rewrites key d d' → d'.nullable? value? = some v)
    (homit : l.MayOmit key d → v = none) : Parts.nullable ⟨es', false⟩ key value? = some v := by
  rw [Parts.nullable]
  rcases lookup_of_restatesEntries hfull h hd with ⟨d', hd', hrewrites⟩ | ⟨hnone, hmay⟩
  · rw [hd']
    exact hread d' hrewrites
  · rw [hnone, homit hmay]
    rfl

end Parts

end Leeway

end AccessorGen
