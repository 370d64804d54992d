import Mathlib.Data.Finset.Card
import Mathlib.Data.List.Flatten

/-!
# Strongly connected components

The algorithm of Tarjan: a depth-first search that numbers the vertices, keeps those of unfinished
components on a stack, and takes a component off when its first vertex reaches no older one.

* `TarjanState`, `strongConnect`, `tarjan` — the search, over any successors and any roots;
* `tarjan_components` — over roots that are closed under successors, the components are all there
  are, each once, and `Components.mem_vertexSets_filter` — so are those of more than one vertex.

The depth of the search is bounded by a number, which is to be that of the vertices at least.
-/

namespace QuadraA.Lib

universe u

variable {V : Type u}

/-! ### Components -/

/-- A way along successors. -/
def Reaches (succ : V → List V) : V → V → Prop := Relation.ReflTransGen fun v w => w ∈ succ v

/-- **A strongly connected component**: what reaches one vertex and is reached from it. -/
def IsComponent (succ : V → List V) (C : Set V) : Prop :=
  ∃ v, ∀ w, w ∈ C ↔ Reaches succ v w ∧ Reaches succ w v

/-- **All components of the vertices that are reached from roots**, each once. -/
structure Components (succ : V → List V) (roots : List V) (components : List (List V)) : Prop where
  isComponent : ∀ C ∈ components, IsComponent succ {v | v ∈ C}
  nodup : components.flatten.Nodup
  mem_flatten : ∀ v, v ∈ components.flatten ↔ v ∈ roots

variable {succ : V → List V} {v w : V}

theorem Reaches.edge (h : w ∈ succ v) : Reaches succ v w :=
  Relation.ReflTransGen.single h

theorem Reaches.trans {u : V} (h : Reaches succ u v) (h' : Reaches succ v w) : Reaches succ u w :=
  Relation.ReflTransGen.trans h h'

/-- A way stays where every successor does. -/
theorem Reaches.stays {P : V → Prop} (hP : ∀ v, P v → ∀ w ∈ succ v, P w) (h : Reaches succ v w)
    (hv : P v) : P w := by
  induction h with
  | refl => exact hv
  | tail _ hedge ih => exact hP _ ih _ hedge

/-! ### The search -/

structure TarjanState (V : Type u) where
  index : ℕ
  indices : V → Option ℕ
  lowlinks : V → ℕ
  /-- The newest vertex is the first. -/
  stack : List V
  onStack : V → Bool
  components : List (List V)

section

variable [DecidableEq V]

/-- The vertices up to one, and those behind it. -/
def popUntil (v : V) : List V → List V × List V
  | [] => ([], [])
  | w :: stack =>
      if w = v then ([w], stack)
      else
        let popped := popUntil v stack
        (w :: popped.1, popped.2)

namespace TarjanState

def starting : TarjanState V := ⟨0, fun _ => none, fun _ => 0, [], fun _ => false, []⟩

/-- A vertex gets the next number and is put on the stack. -/
def enter (s : TarjanState V) (v : V) : TarjanState V where
  index := s.index + 1
  indices := Function.update s.indices v (some s.index)
  lowlinks := Function.update s.lowlinks v s.index
  stack := v :: s.stack
  onStack := Function.update s.onStack v true
  components := s.components

/-- `lowlink = min(lowlink, n)`. -/
def lower (s : TarjanState V) (v : V) (n : ℕ) : TarjanState V :=
  { s with lowlinks := Function.update s.lowlinks v (min (s.lowlinks v) n) }

/-- The vertices on the stack up to one are a component. -/
def emit (s : TarjanState V) (v : V) : TarjanState V :=
  let popped := popUntil v s.stack
  { s with
    stack := popped.2
    onStack := fun w => s.onStack w && !decide (w ∈ popped.1)
    components := s.components ++ [popped.1] }

end TarjanState

/-- **The visit of a vertex**, and of what it reaches. -/
def strongConnect (succ : V → List V) : ℕ → TarjanState V → V → TarjanState V
  | 0, s, _ => s
  | fuel + 1, s, v =>
      let s := (succ v).foldl
        (fun s w =>
          match s.indices w with
          | none =>
              let s := strongConnect succ fuel s w
              s.lower v (s.lowlinks w)
          | some i => if s.onStack w then s.lower v i else s)
        (s.enter v)
      if s.indices v = some (s.lowlinks v) then s.emit v else s

/-- The visits of all roots that were not visited before them. -/
def tarjan (succ : V → List V) (fuel : ℕ) (roots : List V) : TarjanState V :=
  roots.foldl
    (fun s v => if s.indices v = none then strongConnect succ fuel s v else s) .starting

end

/-! ### What holds during the search -/

namespace TarjanState

/-- The number of a vertex that has one. -/
def number (s : TarjanState V) (v : V) : ℕ := (s.indices v).getD 0

/-- The vertices of finished components. -/
def Finished (s : TarjanState V) (v : V) : Prop := v ∈ s.components.flatten

variable {s s' : TarjanState V} {v : V}

theorem number_of {n : ℕ} (h : s.indices v = some n) : s.number v = n := by
  rw [number, h, Option.getD_some]

/-- Numbers that were given are kept. -/
def Keeps (s s' : TarjanState V) : Prop :=
  ∀ v, (s.indices v).isSome = true → s'.indices v = s.indices v

theorem Keeps.trans {s'' : TarjanState V} (h : s.Keeps s') (h' : s'.Keeps s'') : s.Keeps s'' := by
  intro v hv
  have hv' := h v hv
  rw [h' v (by rw [hv']; exact hv), hv']

theorem Keeps.number (h : s.Keeps s') (hv : (s.indices v).isSome = true) :
    s'.number v = s.number v := by
  rw [TarjanState.number, TarjanState.number, h v hv]

end TarjanState

/-- **What holds while the vertices of a path are visited**: the path, newest first, is on the
stack, in the order of the numbers; each of its vertices reaches what is newer on the stack, and each
vertex on the stack reaches one of the path that is not newer. -/
structure SearchInv (succ : V → List V) (U : Finset V) (path : List V) (s : TarjanState V) :
    Prop where
  onStack : ∀ v, s.onStack v = true ↔ v ∈ s.stack
  bound : ∀ v, (s.indices v).isSome = true → s.number v < s.index
  sorted : s.stack.Pairwise fun v w => s.number w < s.number v
  visited : ∀ v, (s.indices v).isSome = true ↔ v ∈ s.stack ∨ s.Finished v
  apart : ∀ v ∈ s.stack, ¬s.Finished v
  within : ∀ v, (s.indices v).isSome = true → v ∈ U
  closed : ∀ v, s.Finished v → ∀ w ∈ succ v, s.Finished w
  components : ∀ C ∈ s.components, IsComponent succ {v | v ∈ C}
  nodup : s.components.flatten.Nodup
  onPath : ∀ v ∈ path, v ∈ s.stack
  reached : ∀ v ∈ path, ∀ w ∈ s.stack, s.number v ≤ s.number w → Reaches succ v w
  reaches : ∀ w ∈ s.stack, ∃ v ∈ path, s.number v ≤ s.number w ∧ Reaches succ w v
  left : ∀ v ∈ s.stack, v ∉ path → ∀ w ∈ succ v, (s.indices w).isSome = true

theorem searchInv_starting (succ : V → List V) (U : Finset V) :
    SearchInv succ U [] (.starting : TarjanState V) := by
  refine ⟨fun v => ?_, nofun, List.Pairwise.nil, fun v => ?_, nofun, nofun, nofun, nofun,
    List.nodup_nil, nofun, nofun, nofun, nofun⟩
  · exact ⟨nofun, nofun⟩
  · exact ⟨nofun, fun h => h.elim nofun nofun⟩

/-- The vertices that are still to be visited. -/
def TarjanState.unvisited (s : TarjanState V) (U : Finset V) : ℕ :=
  (U.filter fun v => s.indices v = none).card

/-- **What the visit of a vertex does**: it numbers the vertex, and either leaves the stack as it was,
or leaves vertices on it from which the number it has found is the least that is reached below. -/
structure Connected (succ : V → List V) (s : TarjanState V) (v : V) (s' : TarjanState V) : Prop where
  keeps : s.Keeps s'
  own : s'.indices v = some s.index
  lowlinks : ∀ w, (s.indices w).isSome = true → s'.lowlinks w = s.lowlinks w
  result : (s'.stack = s.stack ∧ s'.lowlinks v = s.index) ∨
    ∃ new, s'.stack = new ++ s.stack ∧ (∀ w ∈ new, s.indices w = none) ∧
      (∃ y ∈ s.stack, s.indices y = some (s'.lowlinks v) ∧ Reaches succ v y) ∧
      ∀ x ∈ new, ∀ y ∈ succ x, y ∈ s.stack → s'.lowlinks v ≤ s.number y

/-- **What holds between the successors of a vertex**: of those that were looked at. -/
structure Visiting (succ : V → List V) (U : Finset V) (path : List V) (s : TarjanState V) (v : V)
    (seen : List V) (t : TarjanState V) : Prop where
  inv : SearchInv succ U (v :: path) t
  keeps : s.Keeps t
  own : t.indices v = some s.index
  lowlinks : ∀ w, (s.indices w).isSome = true → t.lowlinks w = s.lowlinks w
  low_le : t.lowlinks v ≤ s.index
  low : ∃ y ∈ t.stack, t.indices y = some (t.lowlinks v) ∧ Reaches succ v y
  stack : ∃ new, t.stack = new ++ v :: s.stack ∧ (∀ w ∈ new, s.indices w = none) ∧
    ∀ x ∈ new, ∀ y ∈ succ x, y ∈ s.stack → t.lowlinks v ≤ s.number y
  looked : ∀ w ∈ seen, (t.indices w).isSome = true ∧ (w ∈ s.stack → t.lowlinks v ≤ s.number w)

section

variable {succ : V → List V} {U : Finset V} {path seen : List V} {s t : TarjanState V} {v w : V}

theorem SearchInv.nodup_stack (h : SearchInv succ U path s) : s.stack.Nodup := by
  refine h.sorted.imp fun {a b} hlt heq => ?_
  rw [heq] at hlt
  exact lt_irrefl _ hlt

/-- What is below the vertex on the stack has the number it had. -/
theorem Visiting.number (h : Visiting succ U path s v seen t) (hs : SearchInv succ U path s)
    (hw : w ∈ s.stack) : t.number w = s.number w :=
  h.keeps.number ((hs.visited w).mpr (Or.inl hw))

theorem Visiting.below (h : Visiting succ U path s v seen t) (hw : w ∈ s.stack) : w ∈ t.stack := by
  obtain ⟨new, hstack, _⟩ := h.stack
  rw [hstack]
  exact List.mem_append_right _ (List.mem_cons_of_mem _ hw)

/-- **A successor of a finished component** changes nothing. -/
theorem Visiting.finished (h : Visiting succ U path s v seen t)
    (hi : (t.indices w).isSome = true) (hmem : w ∉ t.stack) :
    Visiting succ U path s v (seen ++ [w]) t := by
  refine ⟨h.inv, h.keeps, h.own, h.lowlinks, h.low_le, h.low, h.stack, fun x hx => ?_⟩
  rcases List.mem_append.mp hx with hx | hx
  · exact h.looked x hx
  · obtain rfl := List.mem_singleton.mp hx
    exact ⟨hi, fun hxs => absurd (h.below hxs) hmem⟩

end

section

variable [DecidableEq V] {succ : V → List V} {U : Finset V} {path seen : List V}
  {s t : TarjanState V} {v w : V}

theorem popUntil_append {new : List V} (h : v ∉ new) (rest : List V) :
    popUntil v (new ++ v :: rest) = (new ++ [v], rest) := by
  induction new with
  | nil => rw [List.nil_append, popUntil, if_pos rfl, List.nil_append]
  | cons w new ih =>
    rw [List.mem_cons, not_or] at h
    rw [List.cons_append, popUntil, if_neg (Ne.symm h.1), ih h.2, List.cons_append]

/-! ### The first step of a visit -/

theorem indices_enter (s : TarjanState V) (v w : V) :
    (s.enter v).indices w = if w = v then some s.index else s.indices w := by
  show Function.update s.indices v (some s.index) w = _
  rw [Function.update_apply]

theorem keeps_enter (h : s.indices v = none) : s.Keeps (s.enter v) := by
  intro w hw
  rw [indices_enter, if_neg]
  rintro rfl
  rw [h] at hw
  cases hw

/-- **A vertex that is entered** is the end of the path, if the path reaches it. -/
theorem SearchInv.enter (h : SearchInv succ U path s) (hv : s.indices v = none) (hU : v ∈ U)
    (hpath : ∀ g ∈ path, Reaches succ g v) : SearchInv succ U (v :: path) (s.enter v) := by
  have hkeeps := keeps_enter hv
  have hown : (s.enter v).indices v = some s.index := by rw [indices_enter, if_pos rfl]
  have hnumber : (s.enter v).number v = s.index := TarjanState.number_of hown
  have hstack : ∀ w ∈ s.stack, (s.indices w).isSome = true := fun w hw =>
    (h.visited w).mpr (Or.inl hw)
  have hold : ∀ w ∈ s.stack, (s.enter v).number w = s.number w := fun w hw =>
    hkeeps.number (hstack w hw)
  have hnew : v ∉ s.stack := by
    intro hmem
    have hsome := hstack v hmem
    rw [hv] at hsome
    cases hsome
  refine ⟨fun w => ?_, fun w hw => ?_, ?_, fun w => ?_, fun w hw => ?_, fun w hw => ?_, h.closed,
    h.components, h.nodup, fun w hw => ?_, fun g hg w hw hle => ?_, fun w hw => ?_,
    fun w hw hpath' x hx => ?_⟩
  · show Function.update s.onStack v true w = true ↔ w ∈ v :: s.stack
    rw [Function.update_apply, List.mem_cons, ← h.onStack w]
    by_cases hwv : w = v
    · simp [hwv]
    · simp [hwv]
  · rw [indices_enter] at hw
    show (s.enter v).number w < s.index + 1
    split_ifs at hw with hwv
    · rw [hwv, hnumber]
      omega
    · have hlt := h.bound w hw
      rw [hkeeps.number hw]
      omega
  · refine List.pairwise_cons.mpr ⟨fun w hw => ?_, ?_⟩
    · rw [hnumber, hold w hw]
      exact h.bound w (hstack w hw)
    · refine h.sorted.imp_of_mem fun {a b} ha hb hab => ?_
      rw [hold a ha, hold b hb]
      exact hab
  · rw [indices_enter]
    show _ ↔ w ∈ v :: s.stack ∨ s.Finished w
    rw [List.mem_cons]
    split_ifs with hwv
    · exact ⟨fun _ => Or.inl (Or.inl hwv), fun _ => rfl⟩
    · rw [h.visited w, or_assoc]
      exact ⟨Or.inr, fun hor => hor.resolve_left hwv⟩
  · show ¬s.Finished w
    rcases List.mem_cons.mp hw with rfl | hw
    · intro hfinished
      have hsome := (h.visited w).mpr (Or.inr hfinished)
      rw [hv] at hsome
      cases hsome
    · exact h.apart w hw
  · rw [indices_enter] at hw
    split_ifs at hw with hwv
    · rw [hwv]
      exact hU
    · exact h.within w hw
  · rcases List.mem_cons.mp hw with rfl | hw
    · exact List.mem_cons_self
    · exact List.mem_cons_of_mem _ (h.onPath w hw)
  · rcases List.mem_cons.mp hg with rfl | hbelow
    · rcases List.mem_cons.mp hw with rfl | hw
      · exact .refl
      · -- nothing below is as new as the vertex
        have hlt := h.bound w (hstack w hw)
        rw [hnumber, hold w hw] at hle
        omega
    · rcases List.mem_cons.mp hw with rfl | hw
      · exact hpath g hbelow
      · rw [hold g (h.onPath g hbelow), hold w hw] at hle
        exact h.reached g hbelow w hw hle
  · rcases List.mem_cons.mp hw with rfl | hw
    · exact ⟨w, List.mem_cons_self, le_rfl, .refl⟩
    · obtain ⟨g, hg, hle, hreach⟩ := h.reaches w hw
      refine ⟨g, List.mem_cons_of_mem _ hg, ?_, hreach⟩
      rw [hold g (h.onPath g hg), hold w hw]
      exact hle
  · rw [List.mem_cons, not_or] at hpath'
    rcases List.mem_cons.mp hw with rfl | hw
    · exact absurd rfl hpath'.1
    · have hx' := h.left w hw hpath'.2 x hx
      rw [hkeeps x hx']
      exact hx'

theorem visiting_enter (h : SearchInv succ U path s) (hv : s.indices v = none) (hU : v ∈ U)
    (hpath : ∀ g ∈ path, Reaches succ g v) : Visiting succ U path s v [] (s.enter v) := by
  have hown : (s.enter v).indices v = some s.index := by rw [indices_enter, if_pos rfl]
  have hlow : (s.enter v).lowlinks v = s.index := by
    show Function.update s.lowlinks v s.index v = s.index
    rw [Function.update_self]
  refine ⟨h.enter hv hU hpath, keeps_enter hv, hown, fun w hw => ?_, le_of_eq hlow,
    ⟨v, List.mem_cons_self, by rw [hown, hlow], .refl⟩, ⟨[], rfl, nofun, nofun⟩, nofun⟩
  show Function.update s.lowlinks v s.index w = s.lowlinks w
  rw [Function.update_of_ne]
  rintro rfl
  rw [hv] at hw
  cases hw

/-! ### A successor -/

/-- The invariant is not about the low links. -/
theorem SearchInv.lower (h : SearchInv succ U path s) (v : V) (n : ℕ) :
    SearchInv succ U path (s.lower v n) :=
  ⟨h.onStack, h.bound, h.sorted, h.visited, h.apart, h.within, h.closed, h.components, h.nodup,
    h.onPath, h.reached, h.reaches, h.left⟩

theorem lowlinks_lower_self (s : TarjanState V) (v : V) (n : ℕ) :
    (s.lower v n).lowlinks v = min (s.lowlinks v) n :=
  Function.update_self ..

theorem lowlinks_lower (s : TarjanState V) (h : w ≠ v) (n : ℕ) :
    (s.lower v n).lowlinks w = s.lowlinks w :=
  Function.update_of_ne h ..

/-- **A successor that is on the stack** is a vertex that is reached. -/
theorem Visiting.onStack (h : Visiting succ U path s v seen t) (hs : SearchInv succ U path s)
    (hv : s.indices v = none) (hw : w ∈ succ v) {i : ℕ} (hi : t.indices w = some i)
    (hmem : w ∈ t.stack) : Visiting succ U path s v (seen ++ [w]) (t.lower v i) := by
  have hne : ∀ x, (s.indices x).isSome = true → x ≠ v := by
    rintro x hx rfl
    rw [hv] at hx
    cases hx
  obtain ⟨y, hy, hyi, hreach⟩ := h.low
  obtain ⟨new, hstack, hnew, hcross⟩ := h.stack
  refine ⟨h.inv.lower v i, h.keeps, h.own, fun x hx => ?_, ?_, ?_, ⟨new, hstack, hnew, ?_⟩,
    fun x hx => ?_⟩
  · rw [lowlinks_lower t (hne x hx), h.lowlinks x hx]
  · rw [lowlinks_lower_self]
    exact (Nat.min_le_left ..).trans h.low_le
  · rw [lowlinks_lower_self]
    rcases Nat.le_total (t.lowlinks v) i with hle | hle
    · rw [Nat.min_eq_left hle]
      exact ⟨y, hy, hyi, hreach⟩
    · rw [Nat.min_eq_right hle]
      exact ⟨w, hmem, hi, .edge hw⟩
  · intro x hx z hz hzs
    rw [lowlinks_lower_self]
    exact (Nat.min_le_left ..).trans (hcross x hx z hz hzs)
  · rw [lowlinks_lower_self]
    rcases List.mem_append.mp hx with hx | hx
    · obtain ⟨hsome, hlow⟩ := h.looked x hx
      exact ⟨hsome, fun hxs => (Nat.min_le_left ..).trans (hlow hxs)⟩
    · obtain rfl := List.mem_singleton.mp hx
      refine ⟨by show (t.indices x).isSome = true; rw [hi]; rfl, fun hxs => ?_⟩
      rw [← h.number hs hxs, TarjanState.number_of hi]
      exact Nat.min_le_right ..

/-- **A successor that was visited now.** -/
theorem Visiting.visit (h : Visiting succ U path s v seen t) (hs : SearchInv succ U path s)
    (hv : s.indices v = none) (hw : w ∈ succ v) (hnone : t.indices w = none) {t' : TarjanState V}
    (hinv : SearchInv succ U (v :: path) t') (hvisit : Connected succ t w t') :
    Visiting succ U path s v (seen ++ [w]) (t'.lower v (t'.lowlinks w)) := by
  have hne : ∀ x, (s.indices x).isSome = true → x ≠ v := by
    rintro x hx rfl
    rw [hv] at hx
    cases hx
  have hvsome : (t.indices v).isSome = true := by
    rw [h.own]
    rfl
  have hindex : s.index < t.index := by
    have hlt := h.inv.bound v hvsome
    rwa [TarjanState.number_of h.own] at hlt
  have hsome : ∀ x, (s.indices x).isSome = true → (t.indices x).isSome = true := fun x hx => by
    rw [h.keeps x hx]
    exact hx
  have hlowv := hvisit.lowlinks v hvsome
  have hkeeps := h.keeps.trans hvisit.keeps
  obtain ⟨y, hy, hyi, hreach⟩ := h.low
  obtain ⟨new, hstack, hnew, hcross⟩ := h.stack
  -- whatever the visit left on the stack
  obtain ⟨new', hstack', hnew', hcross'⟩ : ∃ new', t'.stack = new' ++ t.stack ∧
      (∀ x ∈ new', t.indices x = none) ∧
      ∀ x ∈ new', ∀ z ∈ succ x, z ∈ t.stack → t'.lowlinks w ≤ t.number z := by
    rcases hvisit.result with ⟨hsame, _⟩ | ⟨new', hstack', hnew', _, hcross'⟩
    · exact ⟨[], hsame, nofun, nofun⟩
    · exact ⟨new', hstack', hnew', hcross'⟩
  have hon : ∀ x ∈ t.stack, x ∈ t'.stack := fun x hx => by
    rw [hstack']
    exact List.mem_append_right _ hx
  have hwt : w ∉ t.stack := by
    intro hmem
    have hwsome := (h.inv.visited w).mpr (Or.inl hmem)
    rw [hnone] at hwsome
    cases hwsome
  refine ⟨hinv.lower v _, hkeeps, ?_, fun x hx => ?_, ?_, ?_, ?_, fun x hx => ?_⟩
  · show t'.indices v = _
    rw [hvisit.keeps v hvsome, h.own]
  · rw [lowlinks_lower t' (hne x hx), hvisit.lowlinks x (hsome x hx), h.lowlinks x hx]
  · rw [lowlinks_lower_self, hlowv]
    exact (Nat.min_le_left ..).trans h.low_le
  · rw [lowlinks_lower_self, hlowv]
    rcases Nat.le_total (t.lowlinks v) (t'.lowlinks w) with hle | hle
    · rw [Nat.min_eq_left hle]
      refine ⟨y, hon y hy, ?_, hreach⟩
      show t'.indices y = _
      rw [hvisit.keeps y (by rw [hyi]; rfl), hyi]
    · rw [Nat.min_eq_right hle]
      rcases hvisit.result with ⟨_, hlow⟩ | ⟨_, _, _, ⟨z, hz, hzi, hreach'⟩, _⟩
      · -- a component that was taken off has a number that is not lower
        have hlow_le := h.low_le
        omega
      · refine ⟨z, hon z hz, ?_, (Reaches.edge hw).trans hreach'⟩
        show t'.indices z = _
        rw [hvisit.keeps z (by rw [hzi]; rfl), hzi]
  · refine ⟨new' ++ new, ?_, fun x hx => ?_, fun x hx z hz hzs => ?_⟩
    · show t'.stack = _
      rw [hstack', hstack, List.append_assoc]
    · rcases List.mem_append.mp hx with hx | hx
      · cases hxs : s.indices x with
        | none => rfl
        | some i =>
          have hxt := hsome x (by rw [hxs]; rfl)
          rw [hnew' x hx] at hxt
          cases hxt
      · exact hnew x hx
    · rw [lowlinks_lower_self, hlowv]
      rcases List.mem_append.mp hx with hx | hx
      · rw [← h.number hs hzs]
        exact (Nat.min_le_right ..).trans (hcross' x hx z hz (h.below hzs))
      · exact (Nat.min_le_left ..).trans (hcross x hx z hz hzs)
  · rw [lowlinks_lower_self, hlowv]
    rcases List.mem_append.mp hx with hx | hx
    · obtain ⟨hxt, hlow⟩ := h.looked x hx
      refine ⟨?_, fun hxs => (Nat.min_le_left ..).trans (hlow hxs)⟩
      show (t'.indices x).isSome = true
      rw [hvisit.keeps x hxt]
      exact hxt
    · obtain rfl := List.mem_singleton.mp hx
      refine ⟨?_, fun hxs => absurd (h.below hxs) hwt⟩
      show (t'.indices x).isSome = true
      rw [hvisit.own]
      rfl

end

/-! ### The end of a visit -/

section

variable {succ : V → List V} {U : Finset V} {path seen : List V} {s t : TarjanState V} {v w : V}

theorem unvisited_lt (h : s.Keeps t) (hv : v ∈ U) (hnone : s.indices v = none)
    (hsome : (t.indices v).isSome = true) : t.unvisited U < s.unvisited U := by
  refine Finset.card_lt_card ⟨fun w hw => ?_, fun hsub => ?_⟩
  · rw [Finset.mem_filter] at hw ⊢
    refine ⟨hw.1, ?_⟩
    cases hws : s.indices w with
    | none => rfl
    | some i =>
      rw [h w (by rw [hws]; rfl), hws] at hw
      exact absurd hw.2 nofun
  · have hmem := hsub (Finset.mem_filter.mpr ⟨hv, hnone⟩)
    rw [(Finset.mem_filter.mp hmem).2] at hsome
    cases hsome

/-- **A vertex that has reached an older one** leaves the path and stays on the stack. -/
theorem Visiting.leave (h : Visiting succ U path s v (succ v) t) (hs : SearchInv succ U path s)
    (hv : s.indices v = none) (hlow : t.lowlinks v ≠ s.index) :
    SearchInv succ U path t ∧ Connected succ s v t := by
  obtain ⟨y, hy, hyi, hreach⟩ := h.low
  obtain ⟨new, hstack, hnew, hcross⟩ := h.stack
  have hlt : t.lowlinks v < s.index := lt_of_le_of_ne h.low_le hlow
  have hsorted := h.inv.sorted
  rw [hstack, List.pairwise_append, List.pairwise_cons] at hsorted
  obtain ⟨_, ⟨_, _⟩, habove⟩ := hsorted
  have hvnumber : t.number v = s.index := TarjanState.number_of h.own
  -- the vertex that is reached is below
  have hys : y ∈ s.stack := by
    rw [hstack] at hy
    have hynumber : t.number y = t.lowlinks v := TarjanState.number_of hyi
    rcases List.mem_append.mp hy with hy | hy
    · have hgt := habove y hy v List.mem_cons_self
      omega
    · rcases List.mem_cons.mp hy with rfl | hy
      · omega
      · exact hy
  have hyindex : s.indices y = some (t.lowlinks v) := by
    rw [← h.keeps y ((hs.visited y).mpr (Or.inl hys))]
    exact hyi
  refine ⟨⟨h.inv.onStack, h.inv.bound, h.inv.sorted, h.inv.visited, h.inv.apart, h.inv.within,
    h.inv.closed, h.inv.components, h.inv.nodup, fun g hg => h.below (hs.onPath g hg),
    fun g hg => h.inv.reached g (List.mem_cons_of_mem _ hg), fun w hw => ?_,
    fun w hw hpath x hx => ?_⟩,
    h.keeps, h.own, h.lowlinks, Or.inr ⟨new ++ [v], ?_, ?_, ⟨y, hys, hyindex, hreach⟩, ?_⟩⟩
  · obtain ⟨g, hg, hle, hwg⟩ := h.inv.reaches w hw
    rcases List.mem_cons.mp hg with rfl | hg
    · -- what reached the vertex reaches what is below it
      obtain ⟨g', hg', hle', hyg⟩ := hs.reaches y hys
      refine ⟨g', hg', ?_, hwg.trans (hreach.trans hyg)⟩
      rw [h.number hs (hs.onPath g' hg')]
      have hynumber : s.number y = t.lowlinks g := TarjanState.number_of hyindex
      omega
    · exact ⟨g, hg, hle, hwg⟩
  · by_cases hwv : w = v
    · subst hwv
      exact (h.looked x hx).1
    · refine h.inv.left w hw ?_ x hx
      rw [List.mem_cons, not_or]
      exact ⟨hwv, hpath⟩
  · rw [hstack, List.append_assoc, List.singleton_append]
  · intro x hx
    rcases List.mem_append.mp hx with hx | hx
    · exact hnew x hx
    · rw [List.mem_singleton.mp hx]
      exact hv
  · intro x hx z hz hzs
    rcases List.mem_append.mp hx with hx | hx
    · exact hcross x hx z hz hzs
    · obtain rfl := List.mem_singleton.mp hx
      exact (h.looked z hz).2 hzs

/-- **No way leads out of the vertices behind one that reaches no older one**, but into finished
components. -/
theorem Visiting.closes (h : Visiting succ U path s v (succ v) t) (hs : SearchInv succ U path s)
    (hlow : t.lowlinks v = s.index) {new : List V} (hstack : t.stack = new ++ v :: s.stack)
    (hnew : ∀ w ∈ new, s.indices w = none)
    (hcross : ∀ x ∈ new, ∀ y ∈ succ x, y ∈ s.stack → t.lowlinks v ≤ s.number y) :
    ∀ x, (x ∈ new ++ [v] ∨ t.Finished x) → ∀ y ∈ succ x, y ∈ new ++ [v] ∨ t.Finished y := by
  have hsorted := h.inv.sorted
  rw [hstack, List.pairwise_append] at hsorted
  have hbelow : ∀ y ∈ s.stack, s.number y < t.lowlinks v := fun y hy => by
    rw [hlow]
    exact hs.bound y ((hs.visited y).mpr (Or.inl hy))
  -- a successor is visited, and is not below
  have hsuccessor : ∀ y, (t.indices y).isSome = true → (y ∈ s.stack → t.lowlinks v ≤ s.number y) →
      y ∈ new ++ [v] ∨ t.Finished y := by
    intro y hy hys
    rcases (h.inv.visited y).mp hy with hy | hy
    · rw [hstack, ← List.singleton_append, ← List.append_assoc] at hy
      rcases List.mem_append.mp hy with hy | hy
      · exact Or.inl hy
      · exact absurd (hys hy) (Nat.not_le.mpr (hbelow y hy))
    · exact Or.inr hy
  rintro x (hx | hx) y hy
  · rcases List.mem_append.mp hx with hxnew | hxv
    · refine hsuccessor y (h.inv.left x ?_ ?_ y hy) (hcross x hxnew y hy)
      · rw [hstack]
        exact List.mem_append_left _ hxnew
      · rw [List.mem_cons, not_or]
        constructor
        · rintro rfl
          exact lt_irrefl _ (hsorted.2.2 x hxnew x List.mem_cons_self)
        · intro hpath
          have hsome := (hs.visited x).mpr (Or.inl (hs.onPath x hpath))
          rw [hnew x hxnew] at hsome
          cases hsome
    · rw [List.mem_singleton.mp hxv] at hy
      exact hsuccessor y (h.looked y hy).1 (h.looked y hy).2
  · exact Or.inr (h.inv.closed x hx y hy)

/-- **What is taken off the stack is a component.** -/
theorem Visiting.isComponent (h : Visiting succ U path s v (succ v) t)
    (hs : SearchInv succ U path s) {new : List V} (hstack : t.stack = new ++ v :: s.stack)
    (hnew : ∀ w ∈ new, s.indices w = none)
    (hcloses : ∀ x, (x ∈ new ++ [v] ∨ t.Finished x) → ∀ y ∈ succ x,
      y ∈ new ++ [v] ∨ t.Finished y) : IsComponent succ {w | w ∈ new ++ [v]} := by
  have hsorted := h.inv.sorted
  rw [hstack, List.pairwise_append] at hsorted
  have hvstack : v ∈ t.stack := h.inv.onPath v List.mem_cons_self
  have hvmem : v ∈ new ++ [v] := List.mem_append_right _ (List.mem_singleton_self v)
  refine ⟨v, fun x => ⟨fun hx => ?_, fun ⟨hvx, hxv⟩ => ?_⟩⟩
  · have hxstack : x ∈ t.stack := by
      rw [hstack, ← List.singleton_append, ← List.append_assoc]
      exact List.mem_append_left _ hx
    have hle : t.number v ≤ t.number x := by
      rcases List.mem_append.mp hx with hx | hx
      · exact le_of_lt (hsorted.2.2 x hx v List.mem_cons_self)
      · rw [List.mem_singleton.mp hx]
    refine ⟨h.inv.reached v List.mem_cons_self x hxstack hle, ?_⟩
    -- the vertex of the path that it reaches can only be this one
    obtain ⟨g, hg, _, hxg⟩ := h.inv.reaches x hxstack
    rcases List.mem_cons.mp hg with rfl | hg
    · exact hxg
    · have hgs := hs.onPath g hg
      rcases hxg.stays hcloses (Or.inl hx) with hgmem | hfinished
      · rcases List.mem_append.mp hgmem with hgnew | hgv
        · have hsome := (hs.visited g).mpr (Or.inl hgs)
          rw [hnew g hgnew] at hsome
          cases hsome
        · rw [← List.mem_singleton.mp hgv]
          exact hxg
      · exact absurd hfinished (h.inv.apart g (h.below hgs))
  · rcases hvx.stays hcloses (Or.inl hvmem) with hx | hfinished
    · exact hx
    · exact absurd (hxv.stays h.inv.closed hfinished) (h.inv.apart v hvstack)

end

section

variable [DecidableEq V] {succ : V → List V} {U : Finset V} {path seen : List V}
  {s t : TarjanState V} {v w : V}

/-- **A vertex that has reached no older one** is taken off with what is above it. -/
theorem Visiting.emit (h : Visiting succ U path s v (succ v) t) (hs : SearchInv succ U path s)
    (hv : s.indices v = none) (hlow : t.lowlinks v = s.index) :
    SearchInv succ U path (t.emit v) ∧ Connected succ s v (t.emit v) := by
  obtain ⟨new, hstack, hnew, hcross⟩ := h.stack
  have hcloses := h.closes hs hlow hstack hnew hcross
  have hcomponent := h.isComponent hs hstack hnew hcloses
  have hsorted := h.inv.sorted
  rw [hstack, List.pairwise_append, List.pairwise_cons] at hsorted
  obtain ⟨habove, ⟨hbelow, hsorted⟩, hcrosses⟩ := hsorted
  have hvnew : v ∉ new := fun hmem => lt_irrefl _ (hcrosses v hmem v List.mem_cons_self)
  have hpopped : popUntil v t.stack = (new ++ [v], s.stack) := by
    rw [hstack, popUntil_append hvnew]
  have hstack' : (t.emit v).stack = s.stack := congrArg Prod.snd hpopped
  have hcomponents : (t.emit v).components = t.components ++ [new ++ [v]] :=
    congrArg (fun popped => t.components ++ [Prod.fst popped]) hpopped
  have hfinished : ∀ w, (t.emit v).Finished w ↔ t.Finished w ∨ w ∈ new ++ [v] := fun w => by
    rw [TarjanState.Finished, hcomponents, List.flatten_append, List.mem_append,
      List.flatten_singleton]
    rfl
  have hmem : ∀ w, w ∈ t.stack ↔ w ∈ new ++ [v] ∨ w ∈ s.stack := fun w => by
    rw [hstack, ← List.singleton_append, ← List.append_assoc, List.mem_append]
  have hapart : ∀ w ∈ s.stack, w ∉ new ++ [v] := by
    intro w hw hmem
    have hsome := (hs.visited w).mpr (Or.inl hw)
    rcases List.mem_append.mp hmem with hmem | hmem
    · rw [hnew w hmem] at hsome
      cases hsome
    · rw [List.mem_singleton.mp hmem, hv] at hsome
      cases hsome
  have hnumber : ∀ w ∈ s.stack, t.number w = s.number w := fun w hw => h.number hs hw
  refine ⟨⟨fun w => ?_, h.inv.bound, ?_, fun w => ?_, fun w hw => ?_, h.inv.within,
    fun w hw x hx => ?_, fun C hC => ?_, ?_, fun g hg => ?_, fun g hg w hw hle => ?_,
    fun w hw => ?_, fun w hw hpath x hx => ?_⟩, h.keeps, h.own, h.lowlinks, Or.inl ⟨hstack', hlow⟩⟩
  · rw [hstack']
    show (t.onStack w && !decide (w ∈ (popUntil v t.stack).1)) = true ↔ _
    rw [hpopped, Bool.and_eq_true, h.inv.onStack w, hmem w, Bool.not_eq_true',
      decide_eq_false_iff_not]
    constructor
    · rintro ⟨hw, hnot⟩
      exact hw.resolve_left hnot
    · intro hw
      exact ⟨Or.inr hw, hapart w hw⟩
  · rw [hstack']
    exact hsorted
  · rw [hstack', hfinished]
    refine (h.inv.visited w).trans ?_
    rw [hmem w]
    tauto
  · rw [hstack'] at hw
    rw [hfinished, not_or]
    exact ⟨h.inv.apart w (h.below hw), hapart w hw⟩
  · rw [hfinished] at hw ⊢
    exact (hcloses w hw.symm x hx).symm
  · rw [hcomponents] at hC
    rcases List.mem_append.mp hC with hC | hC
    · exact h.inv.components C hC
    · rw [List.mem_singleton.mp hC]
      exact hcomponent
  · rw [hcomponents, List.flatten_append, List.flatten_singleton]
    refine List.nodup_append'.mpr ⟨h.inv.nodup, ?_, fun w hw hw' => ?_⟩
    · have hnodup := h.inv.nodup_stack
      rw [hstack, ← List.singleton_append, ← List.append_assoc] at hnodup
      exact hnodup.of_append_left
    · exact h.inv.apart w ((hmem w).mpr (Or.inl hw')) hw
  · rw [hstack']
    exact hs.onPath g hg
  · rw [hstack'] at hw
    have hle' : t.number g ≤ t.number w := hle
    rw [hnumber g (hs.onPath g hg), hnumber w hw] at hle'
    exact hs.reached g hg w hw hle'
  · rw [hstack'] at hw
    obtain ⟨g, hg, hle, hreach⟩ := hs.reaches w hw
    refine ⟨g, hg, ?_, hreach⟩
    show t.number g ≤ t.number w
    rw [hnumber g (hs.onPath g hg), hnumber w hw]
    exact hle
  · rw [hstack'] at hw
    have hsome := hs.left w hw hpath x hx
    show (t.indices x).isSome = true
    rw [h.keeps x hsome]
    exact hsome

/-- **A visit keeps what holds along the path**, by induction on the vertices that are left. -/
theorem strongConnect_spec (hU : ∀ v ∈ U, ∀ w ∈ succ v, w ∈ U) (fuel : ℕ) :
    ∀ {s : TarjanState V} {path : List V} {v : V}, SearchInv succ U path s → s.indices v = none →
      v ∈ U → (∀ g ∈ path, Reaches succ g v) → s.unvisited U ≤ fuel →
      SearchInv succ U path (strongConnect succ fuel s v) ∧
        Connected succ s v (strongConnect succ fuel s v) := by
  induction fuel with
  | zero =>
    intro s path v hs hv hvU _ hfuel
    have hmem : v ∈ U.filter fun w => s.indices w = none := Finset.mem_filter.mpr ⟨hvU, hv⟩
    exact absurd (Finset.card_pos.mpr ⟨v, hmem⟩) (Nat.not_lt.mpr hfuel)
  | succ fuel ih =>
    intro s path v hs hv hvU hpath hfuel
    -- the successors one after the other
    have hloop : ∀ ws seen t, (∀ w ∈ ws, w ∈ succ v) → Visiting succ U path s v seen t →
        Visiting succ U path s v (seen ++ ws) (ws.foldl
          (fun s w =>
            match s.indices w with
            | none =>
                let s := strongConnect succ fuel s w
                s.lower v (s.lowlinks w)
            | some i => if s.onStack w then s.lower v i else s) t) := by
      intro ws
      induction ws with
      | nil =>
        intro seen t _ ht
        rw [List.append_nil]
        exact ht
      | cons w ws ihws =>
        intro seen t hws ht
        have hw := hws w List.mem_cons_self
        rw [List.foldl_cons, ← List.singleton_append, ← List.append_assoc]
        refine ihws _ _ (fun x hx => hws x (List.mem_cons_of_mem _ hx)) ?_
        cases hi : t.indices w with
        | none =>
          have hlt := unvisited_lt ht.keeps hvU hv (by rw [ht.own]; rfl)
          have hreach : ∀ g ∈ v :: path, Reaches succ g w := by
            intro g hg
            rcases List.mem_cons.mp hg with rfl | hg
            · exact .edge hw
            · exact (hpath g hg).trans (.edge hw)
          obtain ⟨hinv, hvisit⟩ := ih ht.inv hi (hU v hvU w hw) hreach (by omega)
          exact ht.visit hs hv hw hi hinv hvisit
        | some i =>
          dsimp only
          split_ifs with hon
          · exact ht.onStack hs hv hw hi ((ht.inv.onStack w).mp hon)
          · exact ht.finished (by rw [hi]; rfl) fun hmem => hon ((ht.inv.onStack w).mpr hmem)
    have hdone := hloop (succ v) [] _ (fun w hw => hw) (visiting_enter hs hv hvU hpath)
    rw [List.nil_append] at hdone
    rw [strongConnect]
    dsimp only
    generalize (succ v).foldl _ (s.enter v) = t at hdone
    split_ifs with hlow
    · rw [hdone.own, Option.some.injEq] at hlow
      exact hdone.emit hs hv hlow.symm
    · refine hdone.leave hs hv fun hsame => hlow ?_
      rw [hdone.own, hsame]

/-- **The search finds all components**, each once, from roots that are closed under successors. -/
theorem tarjan_components {fuel : ℕ} {roots : List V}
    (hclosed : ∀ v ∈ roots, ∀ w ∈ succ v, w ∈ roots) (hfuel : roots.length ≤ fuel) :
    Components succ roots (tarjan succ fuel roots).components := by
  have hU : ∀ v ∈ roots.toFinset, ∀ w ∈ succ v, w ∈ roots.toFinset := by
    intro v hv w hw
    rw [List.mem_toFinset] at hv ⊢
    exact hclosed v hv w hw
  have hbound (s : TarjanState V) : s.unvisited roots.toFinset ≤ fuel :=
    ((Finset.card_filter_le ..).trans (List.toFinset_card_le roots)).trans hfuel
  -- one root after the other
  have hloop : ∀ (vs : List V) (s : TarjanState V), (∀ v ∈ vs, v ∈ roots) →
      SearchInv succ roots.toFinset [] s →
      let s' := vs.foldl
        (fun s v => if s.indices v = none then strongConnect succ fuel s v else s) s
      SearchInv succ roots.toFinset [] s' ∧ s.Keeps s' ∧
        ∀ v ∈ vs, (s'.indices v).isSome = true := by
    intro vs
    induction vs with
    | nil => exact fun s _ hs => ⟨hs, fun v _ => rfl, nofun⟩
    | cons v vs ih =>
      intro s hvs hs
      have hv := hvs v List.mem_cons_self
      have hrest : ∀ w ∈ vs, w ∈ roots := fun w hw => hvs w (List.mem_cons_of_mem _ hw)
      have hstep : ∃ t, (if s.indices v = none then strongConnect succ fuel s v else s) = t ∧
          SearchInv succ roots.toFinset [] t ∧ s.Keeps t ∧ (t.indices v).isSome = true := by
        refine ⟨_, rfl, ?_⟩
        split_ifs with hnone
        · obtain ⟨hinv, hvisit⟩ := strongConnect_spec hU fuel hs hnone
            (List.mem_toFinset.mpr hv) nofun (hbound s)
          exact ⟨hinv, hvisit.keeps, by rw [hvisit.own]; rfl⟩
        · exact ⟨hs, fun w _ => rfl, Option.isSome_iff_ne_none.mpr hnone⟩
      obtain ⟨t, ht, hinv, hkeeps, hsome⟩ := hstep
      obtain ⟨hinv', hkeeps', hvisited⟩ := ih t hrest hinv
      rw [List.foldl_cons, ht]
      refine ⟨hinv', hkeeps.trans hkeeps', fun w hw => ?_⟩
      rcases List.mem_cons.mp hw with rfl | hw
      · rw [hkeeps' w hsome]
        exact hsome
      · exact hvisited w hw
  obtain ⟨hinv, _, hvisited⟩ := hloop roots _ (fun v hv => hv)
    (searchInv_starting succ roots.toFinset)
  refine ⟨hinv.components, hinv.nodup, fun v => ⟨fun hv => ?_, fun hv => ?_⟩⟩
  · exact List.mem_toFinset.mp (hinv.within v ((hinv.visited v).mpr (Or.inr hv)))
  · rcases (hinv.visited v).mp (hvisited v hv) with hstack | hfinished
    · -- without a path there is nothing on the stack
      obtain ⟨g, hg, _⟩ := hinv.reaches v hstack
      cases hg
    · exact hfinished

end

/-! ### The components that are found -/

section

variable {succ : V → List V} {roots : List V} {components : List (List V)} {C D : Set V}

theorem IsComponent.exists_mem (h : IsComponent succ C) : ∃ v, v ∈ C := by
  obtain ⟨v, hv⟩ := h
  exact ⟨v, (hv v).mpr ⟨.refl, .refl⟩⟩

variable {v w : V} {succ' : V → List V}

/-- The vertices of a component are those that reach any one of them and are reached from it. -/
theorem IsComponent.mem_iff (h : IsComponent succ C) (hv : v ∈ C) :
    w ∈ C ↔ Reaches succ v w ∧ Reaches succ w v := by
  obtain ⟨u, hu⟩ := h
  obtain ⟨huv, hvu⟩ := (hu v).mp hv
  rw [hu w]
  exact ⟨fun ⟨huw, hwu⟩ => ⟨hvu.trans huw, hwu.trans huv⟩,
    fun ⟨hvw, hwv⟩ => ⟨huv.trans hvw, hwv.trans hvu⟩⟩

/-- **Components that share a vertex are the same.** -/
theorem IsComponent.unique (h : IsComponent succ C) (h' : IsComponent succ D) (hC : v ∈ C)
    (hD : v ∈ D) : C = D :=
  Set.ext fun _ => (h.mem_iff hC).trans (h'.mem_iff hD).symm

/-- **The same edges** have the same components. -/
theorem isComponent_congr (h : ∀ v w, w ∈ succ v ↔ w ∈ succ' v) (C : Set V) :
    IsComponent succ C ↔ IsComponent succ' C := by
  have hreaches : Reaches succ = Reaches succ' :=
    congrArg Relation.ReflTransGen (funext fun v => funext fun w => propext (h v w))
  rw [IsComponent, IsComponent, hreaches]

/-- **A way that ends at what reaches a component** only takes the old edges, when the new ones lead
to what does not reach it. -/
theorem Reaches.of_extended (hnew : ∀ v w, w ∈ succ' v → w ∈ succ v ∨ ∀ c ∈ C, ¬Reaches succ w c)
    {c : V} (h : Reaches succ' v w) (hc : c ∈ C) (hw : Reaches succ w c) : Reaches succ v w := by
  induction h using Relation.ReflTransGen.head_induction_on with
  | refl => exact .refl
  | head hedge _ ih =>
    rcases hnew _ _ hedge with hold | hnever
    · exact (Reaches.edge hold).trans ih
    · exact absurd (ih.trans hw) (hnever c hc)

/-- **A component stays one** when edges are added that lead to what does not reach it. -/
theorem IsComponent.extended (h : IsComponent succ C) (hsub : ∀ v w, w ∈ succ v → w ∈ succ' v)
    (hnew : ∀ v w, w ∈ succ' v → w ∈ succ v ∨ ∀ c ∈ C, ¬Reaches succ w c) :
    IsComponent succ' C := by
  obtain ⟨v, hv⟩ := h.exists_mem
  refine ⟨v, fun w => ⟨fun hw => ?_, fun ⟨hvw, hwv⟩ => ?_⟩⟩
  · obtain ⟨hvw, hwv⟩ := (h.mem_iff hv).mp hw
    exact ⟨Relation.ReflTransGen.mono hsub _ _ hvw, Relation.ReflTransGen.mono hsub _ _ hwv⟩
  · have hwv' := hwv.of_extended hnew hv .refl
    exact (h.mem_iff hv).mpr ⟨hvw.of_extended hnew hv hwv', hwv'⟩

/-- A vertex of a component with another one has a successor. -/
theorem IsComponent.exists_succ (h : IsComponent succ C) (hC : C.Nontrivial) :
    ∃ v ∈ C, succ v ≠ [] := by
  obtain ⟨v, hv, w, hw, hne⟩ := hC
  refine ⟨v, hv, ?_⟩
  rcases Relation.ReflTransGen.cases_head ((h.mem_iff hv).mp hw).1 with heq | ⟨x, hx, _⟩
  · exact absurd heq hne
  · exact List.ne_nil_of_mem hx

theorem nontrivial_iff_one_lt {vertices : List V} (h : vertices.Nodup) :
    Set.Nontrivial {v | v ∈ vertices} ↔ 1 < vertices.length := by
  constructor
  · rintro ⟨v, hv, w, hw, hne⟩
    match vertices, hv, hw with
    | [x], hv, hw =>
      exact absurd ((List.mem_singleton.mp hv).trans (List.mem_singleton.mp hw).symm) hne
    | _ :: _ :: _, _, _ => exact Nat.one_lt_succ_succ _
  · intro hlt
    refine ⟨vertices[0], List.getElem_mem _, vertices[1], List.getElem_mem _, fun heq => ?_⟩
    have hindex := h.getElem_inj_iff.mp heq
    omega

/-- The vertices of each of the components. -/
def vertexSets (components : List (List V)) : Set (Set V) :=
  {C | ∃ found ∈ components, C = {v | v ∈ found}}

/-- **What is found is every component with a root**, and nothing else. -/
theorem Components.mem_vertexSets (h : Components succ roots components) (C : Set V) :
    C ∈ vertexSets components ↔ IsComponent succ C ∧ ∃ v ∈ roots, v ∈ C := by
  constructor
  · rintro ⟨found, hmem, rfl⟩
    have hcomponent := h.isComponent found hmem
    obtain ⟨v, hv⟩ := hcomponent.exists_mem
    exact ⟨hcomponent, v, (h.mem_flatten v).mp (List.mem_flatten.mpr ⟨found, hmem, hv⟩), hv⟩
  · rintro ⟨hcomponent, v, hroot, hv⟩
    obtain ⟨found, hmem, hvfound⟩ := List.mem_flatten.mp ((h.mem_flatten v).mpr hroot)
    exact ⟨found, hmem, hcomponent.unique (h.isComponent found hmem) hv hvfound⟩

/-- A component that is found has each vertex once. -/
theorem Components.nodup_mem (h : Components succ roots components) {found : List V}
    (hmem : found ∈ components) : found.Nodup :=
  (List.nodup_flatten.mp h.nodup).1 found hmem

/-- Two that are found share no vertex. -/
theorem Components.disjoint (h : Components succ roots components) :
    components.Pairwise List.Disjoint :=
  (List.nodup_flatten.mp h.nodup).2

/-- **Those of more than one vertex** are all such components, if only roots have successors. -/
theorem Components.mem_vertexSets_filter (h : Components succ roots components)
    (hroots : ∀ v, succ v ≠ [] → v ∈ roots) (C : Set V) :
    C ∈ vertexSets (components.filter fun found => 1 < found.length) ↔
      IsComponent succ C ∧ C.Nontrivial := by
  constructor
  · rintro ⟨found, hmem, rfl⟩
    rw [List.mem_filter, decide_eq_true_iff] at hmem
    exact ⟨h.isComponent found hmem.1, (nontrivial_iff_one_lt (h.nodup_mem hmem.1)).mpr hmem.2⟩
  · rintro ⟨hcomponent, hnontrivial⟩
    obtain ⟨v, hv, hsucc⟩ := hcomponent.exists_succ hnontrivial
    obtain ⟨found, hmem, rfl⟩ :=
      (h.mem_vertexSets C).mpr ⟨hcomponent, v, hroots v hsucc, hv⟩
    exact ⟨found, List.mem_filter.mpr ⟨hmem,
      decide_eq_true ((nontrivial_iff_one_lt (h.nodup_mem hmem)).mp hnontrivial)⟩, rfl⟩

end

end QuadraA.Lib
