import AccessorGen.Proofs.Java.Execution

/-!
# What runs leave behind

One lemma for each thing that a generated body does: bind its parameters, make an object, store into
it, read from it, put a text together. Each is stated in front of an arbitrary rest of the body, so
that the run of a whole method is these lemmas one after the other.
-/

set_option autoImplicit false

namespace AccessorGen.Java

variable {α : Type} {host : Host α}

/-! ## Scopes -/

theorem lookup_cons_of_ne {name key : String} (h : name ≠ key) (b : Binding α) (s : Scope α) :
    ((key, b) :: s).lookup name = s.lookup name := by
  rw [List.lookup_cons, beq_false_of_ne h]

theorem Scope.declare_eq_ok {s : Scope α} {name : String} (h : s.lookup name = none)
    (b : Binding α) : s.declare name b = .ok ((name, b) :: s) := by
  rw [declare, h]
  rfl

theorem Scope.value_eq_ok {s : Scope α} {name : String} {v : Value α}
    (h : s.lookup name = some (.value v)) : s.value name = .ok v := by
  rw [value, h]

theorem Scope.text_eq_ok {s : Scope α} {name t : String}
    (h : s.lookup name = some (.builder t)) : s.text name = .ok t := by
  rw [text, h]

theorem Scope.target_eq_ok {s : Scope α} {heap : Heap α} {name : String} {a : Nat} {o : Obj α}
    (h : s.lookup name = some (.value (.object a))) (ho : heap[a]? = some o) :
    s.target heap name = .ok (a, o) := by
  rw [target, h]
  simp only [ho]

/-- **Parameters of different names are all bound,** each to its argument, and no other name is. -/
theorem exists_declareAll {s : Scope α} {ps : List Parameter} {vs : List (Value α)}
    (hlength : ps.length = vs.length) (hnodup : (ps.map (·.name)).Nodup)
    (hfresh : ∀ p ∈ ps, s.lookup p.name = none) :
    ∃ t, declareAll s ps vs = .ok t ∧
      (∀ (i : Nat) (p : Parameter) (v : Value α), ps[i]? = some p → vs[i]? = some v →
        t.lookup p.name = some (.value v)) ∧
      ∀ name ∉ ps.map (·.name), t.lookup name = s.lookup name := by
  induction ps generalizing s vs with
  | nil =>
    cases vs with
    | nil => exact ⟨s, rfl, fun i p v hp => absurd hp (by simp), fun name _ => rfl⟩
    | cons v vs => exact absurd hlength (by simp)
  | cons p ps ih =>
    cases vs with
    | nil => exact absurd hlength (by simp)
    | cons v vs =>
      rw [List.map_cons, List.nodup_cons] at hnodup
      have hne : ∀ q ∈ ps, q.name ≠ p.name := fun q hq he =>
        hnodup.1 (he ▸ List.mem_map_of_mem hq)
      obtain ⟨t, ht, hbound, hother⟩ := @ih ((p.name, .value v) :: s) vs
        (by simpa using hlength) hnodup.2 fun q hq => by
          rw [lookup_cons_of_ne (hne q hq)]
          exact hfresh q (List.mem_cons_of_mem _ hq)
      -- the other parameters do not touch the binding that was just added
      refine ⟨t, ?_, ?_, ?_⟩
      · rw [declareAll, Scope.declare_eq_ok (hfresh p List.mem_cons_self)]
        exact ht
      · intro i q w hq hw
        cases i with
        | zero =>
          simp only [List.getElem?_cons_zero, Option.some.injEq] at hq hw
          rw [← hq, ← hw, hother p.name hnodup.1, List.lookup_cons_self]
        | succ i => exact hbound i q w (by simpa using hq) (by simpa using hw)
      · intro name hname
        rw [List.map_cons, List.mem_cons, not_or] at hname
        rw [hother name hname.2, lookup_cons_of_ne hname.1]

/-! ## Statements -/

theorem run_cons {st next : State α} {s : Statement} (h : s.exec host st = .ok (next, none))
    (rest : List Statement) : run host st (s :: rest) = run host next rest := by
  rw [run, h]
  rfl

/-- A return ends the method if nothing stands behind it. -/
theorem run_return {st : State α} {s : Statement} {outcome : Outcome α}
    (h : s.exec host st = .ok (st, some outcome)) :
    run host st [s] = .ok (st.heap, outcome) := by
  rw [run, h]
  rfl

theorem run_declareNew {heap : Heap α} {s : Scope α} {name : String} (h : s.lookup name = none)
    (type : String) (rest : List Statement) :
    run host ⟨heap, s⟩ (.declareNew type name :: rest) =
      run host ⟨heap ++ [⟨type, host.initial type⟩],
        (name, .value (.object heap.length)) :: s⟩ rest := by
  refine run_cons ?_ rest
  rw [Statement.exec, Scope.declare_eq_ok h]
  rfl

theorem run_assign {heap : Heap α} {s : Scope α} {object name : String} {a : Nat} {o : Obj α}
    {v : Value α} (hobject : s.lookup object = some (.value (.object a))) (ho : heap[a]? = some o)
    (hv : s.lookup name = some (.value v)) (field : String) (rest : List Statement) :
    run host ⟨heap, s⟩ (.assign object field name :: rest) =
      run host ⟨heap.set a (o.set field v), s⟩ rest := by
  refine run_cons ?_ rest
  rw [Statement.exec, Scope.target_eq_ok hobject ho, Scope.value_eq_ok hv]
  rfl

theorem run_returnVariable {st : State α} {name : String} {v : Value α}
    (h : st.scope.lookup name = some (.value v)) :
    run host st [.returnVariable name] = .ok (st.heap, .value v) := by
  refine run_return ?_
  rw [Statement.exec, Scope.value_eq_ok h]
  rfl

theorem run_returnField {st : State α} {object : String} {a : Nat} {o : Obj α}
    (h : st.scope.lookup object = some (.value (.object a))) (ho : st.heap[a]? = some o)
    (field : String) :
    run host st [.returnField object field] = .ok (st.heap, .value (o.fields field)) := by
  refine run_return ?_
  rw [Statement.exec, Scope.target_eq_ok h ho]
  rfl

/-- **Assigning variables to the fields of their names** leaves in each of these fields what its
variable holds, and every other field as it was. The induction is on the names; a name that occurs
again is assigned the same value again. -/
theorem exists_run_assigns (host : Host α) {heap : Heap α} {s : Scope α} {object : String} {a : Nat}
    {o : Obj α} (hobject : s.lookup object = some (.value (.object a))) (ho : heap[a]? = some o)
    (names : List String) (hnames : ∀ name ∈ names, ∃ v, s.lookup name = some (.value v))
    (rest : List Statement) :
    ∃ o' : Obj α,
      run host ⟨heap, s⟩ (names.map (fun name => .assign object name name) ++ rest) =
        run host ⟨heap.set a o', s⟩ rest ∧
      o'.type = o.type ∧
      (∀ name ∈ names, s.lookup name = some (.value (o'.fields name))) ∧
      ∀ name ∉ names, o'.fields name = o.fields name := by
  induction names generalizing heap o with
  | nil =>
    have hset : heap.set a o = heap := by
      obtain ⟨ha, rfl⟩ := List.getElem?_eq_some_iff.mp ho
      exact List.set_getElem_self ha
    refine ⟨o, ?_, rfl, fun name hn => absurd hn List.not_mem_nil, fun name _ => rfl⟩
    rw [hset]
    rfl
  | cons name names ih =>
    obtain ⟨v, hv⟩ := hnames name List.mem_cons_self
    have hnext : (heap.set a (o.set name v))[a]? = some (o.set name v) := by
      obtain ⟨ha, -⟩ := List.getElem?_eq_some_iff.mp ho
      simp [ha]
    obtain ⟨o', hrun, htype, hheld, hother⟩ :=
      ih hnext fun n hn => hnames n (List.mem_cons_of_mem _ hn)
    refine ⟨o', ?_, htype, ?_, ?_⟩
    · rw [List.map_cons, List.cons_append, run_assign hobject ho hv, hrun, List.set_set]
    · intro n hn
      -- a name that comes again is taken care of by the rest
      by_cases hmem : n ∈ names
      · exact hheld n hmem
      · have hsame : n = name := (List.mem_cons.mp hn).resolve_right hmem
        rw [hother n hmem, hsame, Obj.fields_set_self]
        exact hv
    · intro n hn
      rw [List.mem_cons, not_or] at hn
      rw [hother n hn.2, Obj.fields_set_of_ne _ _ hn.1]

/-- **Making an object out of variables:** declared under a free name, filled from the variables that
have the names of its fields, and returned. -/
theorem exists_run_make (host : Host α) (heap : Heap α) {s : Scope α} {object : String}
    {names : List String} (hfree : s.lookup object = none)
    (hnames : ∀ name ∈ names, ∃ v, s.lookup name = some (.value v)) (type : String) :
    ∃ o : Obj α,
      run host ⟨heap, s⟩ (.declareNew type object ::
        (names.map (fun name => .assign object name name) ++ [.returnVariable object])) =
        .ok (heap ++ [o], .value (.object heap.length)) ∧
      o.type = type ∧
      (∀ name ∈ names, s.lookup name = some (.value (o.fields name))) ∧
      ∀ name ∉ names, o.fields name = host.initial type name := by
  -- the name of the object is free, so it hides none of the variables
  have hkept : ∀ name ∈ names,
      List.lookup name ((object, Binding.value (.object heap.length)) :: s) = s.lookup name := by
    intro name hn
    refine lookup_cons_of_ne ?_ _ _
    rintro rfl
    obtain ⟨v, hv⟩ := hnames name hn
    rw [hfree] at hv
    exact absurd hv (by simp)
  have hobject : List.lookup object ((object, Binding.value (.object heap.length)) :: s) =
      some (.value (.object heap.length)) := List.lookup_cons_self
  have hfresh : (heap ++ [⟨type, host.initial type⟩])[heap.length]? =
      some ⟨type, host.initial type⟩ := by simp
  obtain ⟨o, hrun, htype, hheld, hother⟩ := exists_run_assigns host hobject hfresh names
    (fun name hn => by rw [hkept name hn]; exact hnames name hn) [.returnVariable object]
  refine ⟨o, ?_, htype, fun name hn => ?_, hother⟩
  · rw [run_declareNew hfree, hrun, run_returnVariable List.lookup_cons_self]
    simp
  · rw [← hkept name hn]
    exact hheld name hn

/-! ## Strings -/

theorem run_startString {heap : Heap α} {s : Scope α} (h : s.lookup builderName = none)
    (text : String) (rest : List Statement) :
    run host ⟨heap, s⟩ (.startString text :: rest) =
      run host ⟨heap, (builderName, .builder text) :: s⟩ rest := by
  refine run_cons ?_ rest
  rw [Statement.exec, Scope.declare_eq_ok h]
  rfl

theorem run_appendText {heap : Heap α} {s : Scope α} {t : String}
    (h : s.lookup builderName = some (.builder t)) (text : String) (rest : List Statement) :
    run host ⟨heap, s⟩ (.appendText text :: rest) =
      run host ⟨heap, (builderName, .builder (t ++ text)) :: s⟩ rest := by
  refine run_cons ?_ rest
  rw [Statement.exec, Scope.text_eq_ok h]
  rfl

theorem run_appendField {heap : Heap α} {s : Scope α} {t object : String} {a : Nat} {o : Obj α}
    {field shown : String} {asObject : Bool} (h : s.lookup builderName = some (.builder t))
    (hobject : s.lookup object = some (.value (.object a))) (ho : heap[a]? = some o)
    (hshown : host.shown heap asObject (o.fields field) = some shown) (label : String)
    (rest : List Statement) :
    run host ⟨heap, s⟩ (.appendField label object field asObject :: rest) =
      run host ⟨heap, (builderName, .builder (t ++ label ++ shown)) :: s⟩ rest := by
  refine run_cons ?_ rest
  rw [Statement.exec, Scope.text_eq_ok h, Scope.target_eq_ok hobject ho]
  simp only [bind, Except.bind, hshown]
  rfl

theorem run_returnString {st : State α} {t : String}
    (h : st.scope.lookup builderName = some (.builder t)) :
    run host st [.returnString] = .ok (st.heap, .text t) := by
  refine run_return ?_
  rw [Statement.exec, Scope.text_eq_ok h]
  rfl

end AccessorGen.Java
