import AccessorGen.Proofs.Naming
import AccessorGen.Place
import Mathlib.Data.List.Infix

/-!
# Paths and places

A path is read as names, and names lead from place to place. For the components of a path below some
directory both are concatenation: such a path reads as its components (`names_below`), and they lead
down, to the place they are appended to (`foldl_step_of_leadsDown`). Only the path of the directory
itself, which the user gives, can lead elsewhere.
-/

set_option autoImplicit false

namespace AccessorGen

namespace Place

/-! ## Names that lead down -/

/-- Whether the name leads one place down from everywhere. -/
def LeadsDown (name : String) : Prop := name ≠ up ∧ name ≠ top

/-- The place is that of something below the other one. -/
def Below (p q : Place) : Prop :=
  ∃ names : List String, names ≠ [] ∧ (∀ name ∈ names, LeadsDown name) ∧ q = p ++ names

theorem step_of_leadsDown {name : String} (h : LeadsDown name) (p : Place) :
    p.step name = p ++ [name] := by
  unfold step
  rw [if_neg (by simpa using h.2), if_pos (by simpa using h.1)]

theorem foldl_step_of_leadsDown {names : List String} (h : ∀ name ∈ names, LeadsDown name)
    (p : Place) : names.foldl step p = p ++ names := by
  induction names generalizing p with
  | nil => simp
  | cons name rest ih =>
    rw [List.foldl_cons, step_of_leadsDown (h name List.mem_cons_self),
      ih fun n hn => h n (List.mem_cons_of_mem _ hn)]
    simp

/-- What is below a place is not on the way up from the working directory. -/
theorem isAbove_of_below {p q : Place} (h : Below p q) : q.isAbove = false := by
  obtain ⟨names, hne, hnames, rfl⟩ := h
  obtain ⟨name, hname⟩ := List.exists_mem_of_ne_nil names hne
  have hmem : name ∈ p ++ names := List.mem_append_right _ hname
  rw [isAbove, Bool.or_eq_false_iff]
  constructor
  · rw [List.all_eq_false]
    exact ⟨name, hmem, by simpa using (hnames name hname).1⟩
  · rw [beq_eq_false_iff_ne]
    intro htop
    rw [htop, List.mem_singleton] at hmem
    exact (hnames name hname).2 hmem

/-! ## Ways -/

/-- The places that names lead to one after the other. -/
def way (p : Place) : List String → List Place
  | [] => []
  | name :: rest => p.step name :: way (p.step name) rest

theorem way_append (p : Place) (front rest : List String) :
    way p (front ++ rest) = way p front ++ way (front.foldl step p) rest := by
  induction front generalizing p with
  | nil => rfl
  | cons name front ih => simp only [List.cons_append, way, ih, List.foldl_cons]

/-- On the way down are the places that the beginnings of the way lead to. -/
theorem mem_way_of_leadsDown {names : List String} (h : ∀ name ∈ names, LeadsDown name)
    {p q : Place} : q ∈ way p names ↔ ∃ front, front ≠ [] ∧ front <+: names ∧ q = p ++ front := by
  induction names generalizing p with
  | nil =>
    constructor
    · intro hq
      cases hq
    · rintro ⟨front, hne, hfront, -⟩
      exact absurd (List.prefix_nil.mp hfront) hne
  | cons name rest ih =>
    rw [way, step_of_leadsDown (h name List.mem_cons_self), List.mem_cons,
      ih fun n hn => h n (List.mem_cons_of_mem _ hn)]
    constructor
    · rintro (rfl | ⟨front, -, hfront, rfl⟩)
      · exact ⟨[name], by simp, ⟨rest, rfl⟩, rfl⟩
      · exact ⟨name :: front, by simp, List.cons_prefix_cons.mpr ⟨rfl, hfront⟩, by simp⟩
    · rintro ⟨front, hne, hfront, rfl⟩
      cases front with
      | nil => exact absurd rfl hne
      | cons n front =>
        obtain ⟨rfl, hrest⟩ := List.cons_prefix_cons.mp hfront
        cases front with
        | nil => exact Or.inl rfl
        | cons m front => exact Or.inr ⟨m :: front, by simp, hrest, by simp⟩

/-! ## Paths -/

/-- The place that a path leads to. -/
def ofPath (path : String) : Place := (names path).foldl step []

/-- A component of a path that is the name of something in the directory before it. -/
structure IsComponent (name : String) : Prop where
  noSlash : '/' ∉ name.toList
  ne_empty : name ≠ ""
  ne_here : name ≠ "."
  ne_up : name ≠ up

theorem IsComponent.leadsDown {name : String} (h : IsComponent name) : LeadsDown name := by
  refine ⟨h.ne_up, ?_⟩
  rintro rfl
  exact h.noSlash (by decide)

/-- The names in a path, wherever it starts. -/
def parts (path : String) : List String :=
  ((path.toList.splitOn '/').map String.ofList).filter fun part => part != "" && part != "."

theorem names_eq (path : String) :
    names path = (if path.toList.head? == some '/' then [top] else []) ++ parts path := rfl

theorem ne_top_of_mem_parts {path name : String} (h : name ∈ parts path) : name ≠ top := by
  intro htop
  have hslash : '/' ∈ name.toList := by
    rw [htop]
    decide
  exact (Text.mem_of_mem_cut (List.mem_of_mem_filter h) hslash).2 rfl

/-- A path that does not go up leads nowhere deeper than its end. -/
theorem length_le_of_mem_way {path : String} (hup : up ∉ names path) {q : Place}
    (h : q ∈ way [] (names path)) : q.length ≤ ((names path).foldl step []).length := by
  have hdown : ∀ name ∈ parts path, LeadsDown name := fun name hname =>
    ⟨fun he => hup (he ▸ List.mem_append_right _ hname), ne_top_of_mem_parts hname⟩
  -- all names but the one of the root lead down
  have hrest : ∀ p q : Place, q ∈ way p (parts path) →
      q.length ≤ ((parts path).foldl step p).length := by
    intro p q hq
    obtain ⟨front, -, hfront, rfl⟩ := (mem_way_of_leadsDown hdown).mp hq
    rw [foldl_step_of_leadsDown hdown, List.length_append, List.length_append]
    exact Nat.add_le_add_left hfront.length_le _
  rw [names_eq] at h ⊢
  by_cases hslash : path.toList.head? == some '/'
  · rw [if_pos hslash] at h ⊢
    rcases List.mem_cons.mp h with rfl | h
    · show 1 ≤ ((parts path).foldl step [top]).length
      rw [foldl_step_of_leadsDown hdown]
      simp
    · exact hrest _ q h
  · rw [if_neg hslash] at h ⊢
    exact hrest [] q h

theorem parts_append (a b : String) : parts (a ++ "/" ++ b) = parts a ++ parts b := by
  rw [parts, ← Text.cut, Text.cut_append rfl, List.filter_append]
  rfl

theorem parts_of_isComponent {name : String} (h : IsComponent name) : parts name = [name] := by
  rw [parts, ← Text.cut, Text.cut_of_not_mem h.noSlash]
  simp [h.ne_empty, h.ne_here]

/-- **A path of components reads as its components.** -/
theorem parts_intercalate {names : List String} (h : ∀ name ∈ names, IsComponent name) :
    parts (String.intercalate "/" names) = names := by
  induction names with
  | nil => rfl
  | cons name rest ih =>
    have hname := parts_of_isComponent (h name List.mem_cons_self)
    have ih := ih fun n hn => h n (List.mem_cons_of_mem _ hn)
    cases rest with
    | nil => rw [String.intercalate_singleton, hname]
    | cons next rest =>
      rw [String.intercalate_cons_cons, parts_append, hname, ih]
      rfl

/-- A path that ends in more than a dot ends in a name. -/
theorem exists_names_eq_concat (path : String) {ending : String} (hslash : '/' ∉ ending.toList)
    (hlength : 2 ≤ ending.length) : ∃ front name, names (path ++ ending) = front ++ [name] := by
  obtain ⟨front, last, h⟩ := Text.exists_splitOn_append path.toList hslash
  have hlen : 2 ≤ (String.ofList (last ++ ending.toList)).length := by
    rw [String.length_ofList, List.length_append, String.length_toList]
    omega
  rw [names_eq, parts, String.toList_append, h, List.map_append, List.map_singleton]
  generalize String.ofList (last ++ ending.toList) = name at hlen
  -- neither of the two parts that lead nowhere is as long
  have hne : ∀ short : String, short.length < 2 → name ≠ short := by
    intro short hshort he
    rw [he] at hlen
    omega
  rw [List.filter_append, ← List.append_assoc,
    List.filter_cons_of_pos (by simp [hne "" (by decide), hne "." (by decide)])]
  exact ⟨_, _, rfl⟩

theorem head?_intercalate {names : List String} (h : ∀ name ∈ names, IsComponent name) :
    (String.intercalate "/" names).toList.head? ≠ some '/' := by
  have hhead : ∀ (name : String) (tail : List Char), IsComponent name →
      (name.toList ++ tail).head? ≠ some '/' := by
    intro name tail hname hslash
    cases hlist : name.toList with
    | nil => exact hname.ne_empty (String.toList_eq_nil_iff.mp hlist)
    | cons c cs =>
      rw [hlist, List.cons_append, List.head?_cons, Option.some.injEq] at hslash
      exact hname.noSlash (by rw [hlist, hslash]; exact List.mem_cons_self)
  cases names with
  | nil => simp
  | cons name rest =>
    have hname := h name List.mem_cons_self
    cases rest with
    | nil => simpa using hhead name [] hname
    | cons next rest =>
      rw [String.intercalate_cons_cons, String.append_assoc, String.toList_append]
      exact hhead name _ hname

theorem names_intercalate {names : List String} (h : ∀ name ∈ names, IsComponent name) :
    Place.names (String.intercalate "/" names) = names := by
  rw [names_eq, if_neg (by simpa using head?_intercalate h), parts_intercalate h]
  rfl

theorem parts_slash (a : String) : parts ("/" ++ a) = parts a := by
  show parts ("" ++ "/" ++ a) = parts a
  rw [parts_append]
  rfl

theorem names_append {a b : String} (ha : a ≠ "") (h : parts (a ++ b) = parts a ++ parts b) :
    Place.names (a ++ b) = Place.names a ++ parts b := by
  have hhead : (a ++ b).toList.head? = a.toList.head? := by
    rw [String.toList_append, List.head?_append_of_ne_nil _ (by simpa using ha)]
  rw [names_eq, names_eq, hhead, h, List.append_assoc]

/-- **Components below a directory.** The directory's own path stays as it is read, whether it is empty,
ends in a slash or is given a slash. -/
theorem names_below (root : String) {names : List String} (h : ∀ name ∈ names, IsComponent name) :
    Place.names ((if root = "" || root.toList.getLast? == some '/' then root else root ++ "/") ++
      String.intercalate "/" names) = Place.names root ++ names := by
  by_cases hempty : root = ""
  · subst hempty
    show Place.names ("" ++ String.intercalate "/" names) = Place.names "" ++ names
    rw [String.empty_append, names_intercalate h]
    rfl
  by_cases hslash : root.toList.getLast? = some '/'
  · -- the slash at the end stands between the two
    obtain ⟨front, hfront⟩ := List.getLast?_eq_some_iff.mp hslash
    have hroot : root = String.ofList front ++ "/" := by
      rw [← String.toList_inj, hfront]
      simp
    have hparts : ∀ b, parts (root ++ b) = parts (String.ofList front) ++ parts b := by
      intro b
      rw [hroot, parts_append]
    have hself : parts root = parts (String.ofList front) := by
      have h := hparts ""
      rwa [String.append_empty, show parts "" = [] from rfl, List.append_nil] at h
    rw [if_pos (by simp [hslash]), names_append hempty (by rw [hparts, hself]),
      parts_intercalate h]
  · rw [if_neg (by simp [hempty, hslash]), String.append_assoc,
      names_append hempty (by rw [← String.append_assoc, parts_append, parts_slash]), parts_slash,
      parts_intercalate h]

end Place

end AccessorGen
