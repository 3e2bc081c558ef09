import AccessorGen.Proofs.Member.Dependence

/-!
# Markers on a class and on its fields

Generation meets the markers once, when the requests of a class are listed. From there on it is blind to
them: neither a member nor the unit around the members changes when every marker is taken off
(`generateMember_unmarked`, `composeUnit_unmarked`). Two classes that differ in markers alone therefore
have the same outcome, also where it is an error, if they ask for the same (`classUnit_of_asksAlike`).

That an accessor marker on a class is the same marker on each instance field is then a matter of
listing, and so is that a marker on a field which the class covers already, or on a static one, is none.
-/

set_option autoImplicit false

namespace AccessorGen

namespace MarkerSet

/-- The set without the marker. -/
def erase (s : MarkerSet) : Marker → MarkerSet
  | .allArgsConstructor => { s with allArgsConstructor := false }
  | .getter => { s with getter := false }
  | .setter => { s with setter := false }
  | .stringForm => { s with stringForm := false }

@[simp] theorem has_erase (s : MarkerSet) (m k : Marker) :
    (s.erase m).has k = (m != k && s.has k) := by cases m <;> cases k <;> rfl

end MarkerSet

namespace FieldDecl

/-- Whether the field itself carries the marker. -/
def carries (f : FieldDecl) : Marker → Bool
  | .getter => f.readMarked
  | .setter => f.writeMarked
  | .allArgsConstructor | .stringForm => false

/-- The field with the marker turned over. -/
def flip (f : FieldDecl) : Marker → FieldDecl
  | .getter => { f with readMarked := !f.readMarked }
  | .setter => { f with writeMarked := !f.writeMarked }
  | .allArgsConstructor | .stringForm => f

/-- The field without markers. -/
def unmarked (f : FieldDecl) : FieldDecl := { f with readMarked := false, writeMarked := false }

@[simp] theorem unmarked_mark (f : FieldDecl) (m : Marker) : (f.mark m).unmarked = f.unmarked := by
  cases m <;> rfl

@[simp] theorem unmarked_flip (f : FieldDecl) (m : Marker) : (f.flip m).unmarked = f.unmarked := by
  cases m <;> rfl

@[simp] theorem unmarked_isStatic (f : FieldDecl) : f.unmarked.isStatic = f.isStatic := rfl

theorem carries_mark (f : FieldDecl) (m k : Marker) :
    (f.mark m).carries k = (m.fitsField && m == k || f.carries k) := by
  cases m <;> cases k <;> rfl

theorem carries_flip_of_ne (f : FieldDecl) {m k : Marker} (h : m ≠ k) :
    (f.flip m).carries k = f.carries k := by
  cases m <;> cases k <;> first | rfl | exact absurd rfl h

end FieldDecl

namespace ClassDecl

/-- The instance fields for which the accessor of the marker is asked. -/
def asking (c : ClassDecl) (m : Marker) : List FieldDecl :=
  c.instanceFields.filter fun f => c.markers.has m || f.carries m

/-- The class without markers. -/
def unmarked (c : ClassDecl) : ClassDecl :=
  { c with fields := c.fields.map (·.unmarked), markers := {} }

/-- The marker of the class taken off and put on each of its instance fields. -/
def spread (c : ClassDecl) (m : Marker) : ClassDecl :=
  { c with
    markers := c.markers.erase m
    fields := c.fields.map fun f => if f.isStatic then f else f.mark m }

/-- The class with the marker of the field at that place turned over. -/
def flipAt (c : ClassDecl) (i : Nat) (m : Marker) : ClassDecl :=
  { c with fields := c.fields.modify i (·.flip m) }

@[simp] theorem instanceFields_unmarked (c : ClassDecl) :
    c.unmarked.instanceFields = c.instanceFields.map (·.unmarked) :=
  List.filter_map

@[simp] theorem instanceNames_unmarked (c : ClassDecl) :
    c.unmarked.instanceNames = c.instanceNames := by
  rw [instanceNames, instanceFields_unmarked, List.map_map]
  rfl

theorem like_unmarked (c : ClassDecl) : c.unmarked.Like c := ⟨rfl, rfl, instanceNames_unmarked c⟩

end ClassDecl

/-- The request with no field marked. -/
def Request.unmarked : Request → Request
  | .constructor fields => .constructor (fields.map (·.unmarked))
  | .read field => .read field.unmarked
  | .write field => .write field.unmarked
  | .stringify fields => .stringify (fields.map (·.unmarked))

theorem Request.like_unmarked (r : Request) : r.unmarked.Like r := by
  have hfields : ∀ fields : List FieldDecl,
      List.Forall₂ FieldDecl.Like (fields.map (·.unmarked)) fields := by
    intro fields
    exact List.forall₂_map_left_iff.mpr (List.forall₂_same.mpr fun _ _ => ⟨rfl, rfl⟩)
  cases r with
  | constructor fields => exact .constructor (hfields fields)
  | read f => exact .read ⟨rfl, rfl⟩
  | write f => exact .write ⟨rfl, rfl⟩
  | stringify fields => exact .stringify (hfields fields)

/-! ## Generation is blind to markers -/

namespace Config

variable (config : Config) (c : ClassDecl)

@[simp] theorem locate_unmarked (f : FieldDecl) :
    config.locate c.unmarked f.unmarked = config.locate c f := by
  rw [locate, ClassDecl.instanceIndex?, ClassDecl.instanceNames_unmarked]
  rfl

theorem ordinal_unmarked (r : Request) :
    config.ordinal c.unmarked r.unmarked = config.ordinal c r := by
  cases r with
  | read f | write f => exact locate_unmarked config c f
  | constructor fields | stringify fields =>
    simp only [Request.unmarked, ordinal, List.mapM_map, Function.comp_def, locate_unmarked]

/-- **A member does not depend on markers.** -/
theorem generateMember_unmarked (r : Request) :
    config.generateMember c.unmarked r.unmarked = config.generateMember c r := by
  rw [generateMember, ordinal_unmarked, method_congr config c.like_unmarked r.like_unmarked,
    r.like_unmarked.kind]
  rfl

/-- **Neither does what is made of the members.** -/
theorem composeUnit_unmarked (members : List Member) :
    config.composeUnit c.unmarked members = config.composeUnit c members := by
  have hfields : config.leadingSections c.unmarked = config.leadingSections c := by
    simp only [leadingSections, ClassDecl.unmarked, List.isEmpty_map, List.map_map]
    rfl
  have hrender : config.render c.unmarked = config.render c := by
    funext ms
    rw [render, hfields]
    rfl
  rw [composeUnit, hrender]
  rfl

theorem classUnit_unmarked :
    config.classUnit c =
      (c.requests.map (·.unmarked)).mapM (config.generateMember c.unmarked) >>=
        config.composeUnit c.unmarked := by
  have hcompose : config.composeUnit c.unmarked = config.composeUnit c := by
    funext ms
    exact composeUnit_unmarked config c ms
  simp only [List.mapM_map, Function.comp_def, generateMember_unmarked, hcompose]
  rfl

end Config

/-! ## Asking for the same -/

namespace ClassDecl

/-- The two classes differ in markers alone, and ask for the same. -/
structure AsksAlike (c d : ClassDecl) : Prop where
  unmarked : c.unmarked = d.unmarked
  allArgsConstructor : c.markers.allArgsConstructor = d.markers.allArgsConstructor
  stringForm : c.markers.stringForm = d.markers.stringForm
  asking : ∀ m, m.fitsField = true →
    (c.asking m).map (·.unmarked) = (d.asking m).map (·.unmarked)

variable {c d : ClassDecl}

theorem map_unmarked_requests (c : ClassDecl) :
    c.requests.map (·.unmarked) =
      (if c.markers.allArgsConstructor then [.constructor c.unmarked.instanceFields] else []) ++
        ((c.asking .getter).map (·.unmarked)).map .read ++
        ((c.asking .setter).map (·.unmarked)).map .write ++
        (if c.markers.stringForm then [.stringify c.unmarked.instanceFields] else []) := by
  rw [instanceFields_unmarked, List.map_map, List.map_map]
  simp only [requests, List.map_append, List.map_map, apply_ite (List.map _), List.map_cons,
    List.map_nil]
  rfl

theorem AsksAlike.requests (h : AsksAlike c d) :
    c.requests.map (·.unmarked) = d.requests.map (·.unmarked) := by
  rw [map_unmarked_requests, map_unmarked_requests, h.unmarked, h.allArgsConstructor, h.stringForm,
    h.asking .getter rfl, h.asking .setter rfl]

/-- Two fields that differ in markers alone, in classes with these markers. What is asked of the one is
asked of the other, where anything can be. -/
def Alike (s t : MarkerSet) (f g : FieldDecl) : Prop :=
  f.unmarked = g.unmarked ∧ (f.isStatic = false → ∀ m, m.fitsField = true →
    (s.has m || f.carries m) = (t.has m || g.carries m))

theorem Alike.refl (s : MarkerSet) (f : FieldDecl) : Alike s s f f := ⟨rfl, fun _ _ _ => rfl⟩

theorem map_unmarked_filter {p q : FieldDecl → Bool} {fs gs : List FieldDecl}
    (h : List.Forall₂ (fun f g => f.unmarked = g.unmarked ∧ p f = q g) fs gs) :
    (fs.filter p).map (·.unmarked) = (gs.filter q).map (·.unmarked) := by
  induction h with
  | nil => rfl
  | @cons f g _ _ hfg _ ih =>
    obtain ⟨hunmarked, hpq⟩ := hfg
    rw [List.filter_cons, List.filter_cons, hpq]
    cases q g with
    | false => exact ih
    | true =>
      simp only [if_true, List.map_cons]
      rw [hunmarked, ih]

theorem asking_eq (c : ClassDecl) (m : Marker) :
    c.asking m = c.fields.filter fun f => (c.markers.has m || f.carries m) && !f.isStatic := by
  rw [asking, instanceFields, List.filter_filter]

theorem asking_of_alike (h : List.Forall₂ (Alike c.markers d.markers) c.fields d.fields) {m : Marker}
    (hm : m.fitsField = true) :
    (c.asking m).map (·.unmarked) = (d.asking m).map (·.unmarked) := by
  rw [asking_eq, asking_eq]
  apply map_unmarked_filter
  refine h.imp fun f g hfg => ⟨hfg.1, ?_⟩
  have hstatic : f.unmarked.isStatic = g.unmarked.isStatic := by rw [hfg.1]
  rw [FieldDecl.unmarked_isStatic, FieldDecl.unmarked_isStatic] at hstatic
  rw [← hstatic]
  cases hf : f.isStatic with
  | true => simp
  | false => rw [hfg.2 hf m hm]

/-- It is enough to compare field by field. -/
theorem asksAlike_of_alike {fields : List FieldDecl} {markers : MarkerSet}
    (hfactory : c.markers.allArgsConstructor = markers.allArgsConstructor)
    (hstring : c.markers.stringForm = markers.stringForm)
    (h : List.Forall₂ (Alike c.markers markers) c.fields fields) :
    AsksAlike c { c with fields, markers } := by
  refine ⟨?_, hfactory, hstring, fun m hm => asking_of_alike h hm⟩
  unfold unmarked
  rw [map_eq_map_of_forall₂ h fun f g hfg => hfg.1]

/-- The marker put on an instance field stands for the one on its class. -/
theorem alike_mark {s : MarkerSet} {m : Marker} (hm : m.fitsField = true) (h : s.has m = true)
    (f : FieldDecl) : Alike s (s.erase m) f (f.mark m) := by
  refine ⟨(f.unmarked_mark m).symm, fun _ k _ => ?_⟩
  rw [MarkerSet.has_erase, FieldDecl.carries_mark, hm]
  by_cases hk : m = k
  · subst hk
    simp [h]
  · rw [beq_eq_false_iff_ne.mpr hk, bne_iff_ne.mpr hk]
    simp

theorem alike_of_isStatic {s t : MarkerSet} {f g : FieldDecl} (h : f.unmarked = g.unmarked)
    (hf : f.isStatic = true) : Alike s t f g :=
  ⟨h, fun hf' => by rw [hf] at hf'; cases hf'⟩

/-- A marker on a field counts for nothing where its class has it. -/
theorem alike_flip {s : MarkerSet} {m : Marker} (h : s.has m = true) (f : FieldDecl) :
    Alike s s f (f.flip m) := by
  refine ⟨(f.unmarked_flip m).symm, fun _ k _ => ?_⟩
  by_cases hk : m = k
  · subst hk
    rw [h]
    rfl
  · rw [FieldDecl.carries_flip_of_ne f hk]

/-- A class with an accessor marker asks for what it asks with that marker on the fields. -/
theorem asksAlike_spread {m : Marker} (hm : m.fitsField = true) (h : c.markers.has m = true) :
    AsksAlike c (c.spread m) := by
  have hrest : c.markers.allArgsConstructor = (c.markers.erase m).allArgsConstructor ∧
      c.markers.stringForm = (c.markers.erase m).stringForm := by
    cases m with
    | getter | setter => exact ⟨rfl, rfl⟩
    | allArgsConstructor | stringForm => cases hm
  refine asksAlike_of_alike hrest.1 hrest.2 ?_
  refine List.forall₂_map_right_iff.mpr (List.forall₂_same.mpr fun f _ => ?_)
  cases hf : f.isStatic with
  | true => exact alike_of_isStatic rfl hf
  | false => exact alike_mark hm h f

theorem forall₂_modify {R : FieldDecl → FieldDecl → Prop} (hrefl : ∀ f, R f f)
    {g : FieldDecl → FieldDecl} {fs : List FieldDecl} {i : Nat}
    (h : ∀ f, fs[i]? = some f → R f (g f)) : List.Forall₂ R fs (fs.modify i g) := by
  induction fs generalizing i with
  | nil =>
    rw [List.modify_nil]
    exact .nil
  | cons f fs ih =>
    cases i with
    | zero => exact .cons (h f rfl) (List.forall₂_same.mpr fun f _ => hrefl f)
    | succ i => exact .cons (hrefl f) (ih fun f' hf' => h f' hf')

/-- A class asks for the same whatever the markers of its static fields are, and whatever those of the
other fields are that it has itself. -/
theorem asksAlike_flipAt {m : Marker} {i : Nat}
    (h : ∀ f, c.fields[i]? = some f → f.isStatic = true ∨ c.markers.has m = true) :
    AsksAlike c (c.flipAt i m) := by
  refine asksAlike_of_alike rfl rfl (forall₂_modify (Alike.refl c.markers) fun f hf => ?_)
  rcases h f hf with hstatic | hhas
  · exact alike_of_isStatic (f.unmarked_flip m).symm hstatic
  · exact alike_flip hhas f

end ClassDecl

namespace Config

/-- **Markers matter only through what is asked for.** -/
theorem classUnit_of_asksAlike (config : Config) {c d : ClassDecl} (h : c.AsksAlike d) :
    config.classUnit c = config.classUnit d := by
  rw [classUnit_unmarked, classUnit_unmarked, h.unmarked, h.requests]

/-- **An accessor marker on a class is that marker on each of its instance fields.** What becomes of
the class is the same, an error included, with the marker on the class or on its instance fields, also
with both markers moved; and whether a static field is marked, or an instance field that its class
covers, makes no difference. -/
theorem classUnit_markings (config : Config) (c : ClassDecl) :
    (∀ m, m.fitsField = true → c.markers.has m = true →
      config.classUnit (c.spread m) = config.classUnit c) ∧
    (c.markers.has .getter = true → c.markers.has .setter = true →
      config.classUnit ((c.spread .getter).spread .setter) = config.classUnit c) ∧
    ∀ m, m.fitsField = true → ∀ i f, c.fields[i]? = some f →
      f.isStatic = true ∨ c.markers.has m = true →
      config.classUnit (c.flipAt i m) = config.classUnit c := by
  refine ⟨fun m hm h => ?_, fun hget hset => ?_, fun m _ i f hf h => ?_⟩
  · exact (classUnit_of_asksAlike config (ClassDecl.asksAlike_spread hm h)).symm
  · have hset' : (c.spread .getter).markers.has .setter = true := hset
    rw [← classUnit_of_asksAlike config (ClassDecl.asksAlike_spread rfl hset'),
      ← classUnit_of_asksAlike config (ClassDecl.asksAlike_spread rfl hget)]
  · refine (classUnit_of_asksAlike config (ClassDecl.asksAlike_flipAt fun g hg => ?_)).symm
    rw [Option.some.inj (hg.symm.trans hf)]
    exact h

/-- A class that has the accessor markers itself. A static field is marked, and so are two fields that
the class covers. -/
def meter : ClassDecl :=
  { ClassDecl.ofName "demo.Meter" with
    fields := [
      { name := "scale", type := "String", modifiers := ["static"], isStatic := true,
        readMarked := true },
      { name := "value", type := "long", modifiers := [], readMarked := true },
      { name := "limit", type := "long", modifiers := [], writeMarked := true }]
    markers := .ofList [.getter, .setter] }

theorem classUnit_markings_meter :
    ∃ u, Config.classUnit {} meter = .ok (some u) ∧
      u.members.map (·.name) = ["getValue", "getLimit", "setValue", "setLimit"] ∧
      Config.classUnit {} (meter.spread .getter) = .ok (some u) ∧
      Config.classUnit {} ((meter.spread .getter).spread .setter) = .ok (some u) ∧
      Config.classUnit {} (meter.flipAt 0 .getter) = .ok (some u) ∧
      Config.classUnit {} (meter.flipAt 1 .getter) = .ok (some u) := by
  have hn : meter.instanceNames.Nodup := by decide +kernel
  have hunit : Config.classUnit {} meter = .ok (some (Config.unitOf {} meter)) :=
    classUnit_eq_unitOf hn (by decide +kernel) (fun h => absurd h (by decide))
      fun _ => by decide +kernel
  obtain ⟨hspread, hboth, hflip⟩ := classUnit_markings {} meter
  refine ⟨_, hunit, ?_, ?_, ?_, ?_, ?_⟩
  · rw [members_eq_of_nodup hn hunit]
    decide +kernel
  · exact (hspread .getter rfl rfl).trans hunit
  · exact (hboth rfl rfl).trans hunit
  · exact (hflip .getter rfl 0 _ rfl (Or.inl rfl)).trans hunit
  · exact (hflip .getter rfl 1 _ rfl (Or.inr rfl)).trans hunit

end Config

end AccessorGen
