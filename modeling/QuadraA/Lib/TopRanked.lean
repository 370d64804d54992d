import Mathlib.Data.List.Perm.Basic

/-!
# The first of a ranking

The first elements of all, ranked by a total order in which some may tie, when only some of all were
ranked, and perhaps some more.

* `TopOf` — the first of all, those that tie in any order;
* `pairwise_stable` — a sort keeps the order of what ties.
-/

namespace QuadraA.Lib

universe u

variable {α : Type u}

/-- **The first `limit` of all**, by a ranking. -/
def TopOf (le : α → α → Bool) (limit : ℕ) (all result : List α) : Prop :=
  ∃ ranked : List α, ranked.Perm all ∧ ranked.Pairwise (fun a b => le a b = true) ∧
    result = ranked.take limit

section Ranking

variable {le : α → α → Bool} {ranked all : List α} {limit : ℕ}

/-- What is ranked behind the first ones is behind all of them. -/
theorem le_of_mem_drop (hranked : ranked.Pairwise fun a b => le a b = true) {a b : α}
    (ha : a ∈ ranked.take limit) (hb : b ∈ ranked.drop limit) : le a b = true := by
  rw [← List.take_append_drop limit ranked] at hranked
  exact (List.pairwise_append.mp hranked).2.2 a ha b hb

theorem mem_drop_of_not_mem_take {x : α} (hx : x ∈ ranked) (hnot : x ∉ ranked.take limit) :
    x ∈ ranked.drop limit := by
  rw [← List.take_append_drop limit ranked] at hx
  exact (List.mem_append.mp hx).resolve_left hnot

/-- Elements that as many as `limit` are before are behind the first `limit`. -/
theorem le_of_countP (trans : ∀ a b c, le a b = true → le b c = true → le a c = true)
    (total : ∀ a b, (le a b || le b a) = true) (hranked : ranked.Pairwise fun a b => le a b = true)
    {x a : α} (hcount : limit ≤ ranked.countP fun y => le y x) (ha : a ∈ ranked.take limit) :
    le a x = true := by
  by_contra hnot
  obtain ⟨front, back, hsplit⟩ := List.append_of_mem ha
  have hwhole : ranked = front ++ a :: (back ++ ranked.drop limit) := by
    rw [← List.cons_append, ← List.append_assoc, ← hsplit, List.take_append_drop]
  have hself : le a a = true := by simpa using total a a
  -- no element from `a` on is before `x`
  have hnone : (a :: (back ++ ranked.drop limit)).countP (fun y => le y x) = 0 := by
    rw [List.countP_eq_zero]
    intro y hy hyx
    rw [hwhole, List.pairwise_append] at hranked
    rcases List.mem_cons.mp hy with rfl | hy
    · exact hnot hyx
    · exact hnot (trans a y x (List.rel_of_pairwise_cons hranked.2.1 hy) hyx)
  have hlength : (front ++ a :: back).length ≤ limit := by
    rw [← hsplit]
    exact List.length_take_le limit ranked
  rw [hwhole, List.countP_append, hnone] at hcount
  have hfront := List.countP_le_length (p := fun y => le y x) (l := front)
  rw [List.length_append, List.length_cons] at hlength
  omega

/-- **The first of some are the first of all** exactly when those that are not among all come later,
and those that were left out are behind as many. -/
theorem topOf_take_iff [DecidableEq α]
    (trans : ∀ a b c, le a b = true → le b c = true → le a c = true)
    (total : ∀ a b, (le a b || le b a) = true) (hranked : ranked.Pairwise fun a b => le a b = true)
    (hnodup : ranked.Nodup) (hall : all.Nodup) :
    TopOf le limit all (ranked.take limit) ↔
      (∀ x ∈ ranked, x ∉ all → x ∉ ranked.take limit) ∧
        ∀ x ∈ all, x ∉ ranked → limit ≤ ranked.countP fun y => le y x := by
  constructor
  · rintro ⟨full, hperm, hfull, hsame⟩
    refine ⟨fun x _ hx hmem => hx ?_, fun x hx hnot => ?_⟩
    · rw [hsame] at hmem
      exact hperm.mem_iff.mp (List.mem_of_mem_take hmem)
    · have hdrop : x ∈ full.drop limit := by
        refine mem_drop_of_not_mem_take (hperm.mem_iff.mpr hx) fun hmem => hnot ?_
        rw [← hsame] at hmem
        exact List.mem_of_mem_take hmem
      have hlength : (ranked.take limit).length = limit := by
        have hpos := List.length_pos_of_mem hdrop
        rw [List.length_drop] at hpos
        rw [hsame, List.length_take]
        omega
      have hcount : (ranked.take limit).countP (fun y => le y x) = limit := by
        refine (List.countP_eq_length.mpr fun y hy => ?_).trans hlength
        rw [hsame] at hy
        exact le_of_mem_drop hfull hy hdrop
      rw [← hcount]
      exact (List.take_sublist limit ranked).countP_le
  · rintro ⟨hothers, hmissed⟩
    have hsub : ∀ x ∈ ranked.take limit, x ∈ all := by
      intro x hx
      by_contra hnot
      exact hothers x (List.mem_of_mem_take hx) hnot hx
    have hrest : ∀ x ∈ all.filter (fun x => decide (x ∉ ranked.take limit)),
        ∀ a ∈ ranked.take limit, le a x = true := by
      intro x hx a ha
      obtain ⟨hmem, hnot⟩ := List.mem_filter.mp hx
      have hnot := of_decide_eq_true hnot
      by_cases hx : x ∈ ranked
      · exact le_of_mem_drop hranked ha (mem_drop_of_not_mem_take hx hnot)
      · exact le_of_countP trans total hranked (hmissed x hmem hx) ha
    refine ⟨ranked.take limit ++ (all.filter fun x => decide (x ∉ ranked.take limit)).mergeSort le,
      ?_, ?_, ?_⟩
    · have hin : (all.filter fun x => decide (x ∈ ranked.take limit)).Perm (ranked.take limit) := by
        refine (List.perm_ext_iff_of_nodup (hall.filter _)
          (hnodup.sublist (List.take_sublist _ _))).mpr fun x => ?_
        rw [List.mem_filter, decide_eq_true_eq]
        exact ⟨fun h => h.2, fun h => ⟨hsub x h, h⟩⟩
      refine (hin.symm.append (List.mergeSort_perm _ _)).trans ?_
      have hsplit := List.filter_append_perm (fun x => decide (x ∈ ranked.take limit)) all
      simpa only [decide_not] using hsplit
    · refine List.pairwise_append.mpr ⟨hranked.sublist (List.take_sublist _ _),
        List.pairwise_mergeSort trans total _, fun a ha x hx => ?_⟩
      exact hrest x (List.mem_mergeSort.mp hx) a ha
    · by_cases hshort : ranked.length < limit
      · -- all of them are ranked
        have hnil : all.filter (fun x => decide (x ∉ ranked.take limit)) = [] := by
          refine List.filter_eq_nil_iff.mpr fun x hx hnot => ?_
          rw [decide_eq_true_eq, List.take_of_length_le (Nat.le_of_lt hshort)] at hnot
          have hcount := hmissed x hx hnot
          have hle := List.countP_le_length (p := fun y => le y x) (l := ranked)
          omega
        rw [hnil, List.mergeSort_nil, List.append_nil, List.take_take, Nat.min_self]
      · rw [List.take_left']
        rw [List.length_take]
        omega

end Ranking

/-! ### Places in a strict order -/

/-- **Behind the first `limit`** is what as many come before. -/
theorem not_mem_take_iff {before : α → α → Bool} {ranked : List α} {limit : ℕ}
    (hranked : ranked.Pairwise fun a b => before a b = true)
    (asymm : ∀ a b, before a b = true → before b a = false) {x : α} (hx : x ∈ ranked) :
    x ∉ ranked.take limit ↔ limit ≤ ranked.countP fun y => before y x := by
  have hirrefl (a : α) : before a a = false := by
    cases h : before a a with
    | false => rfl
    | true => exact absurd (asymm a a h) (by rw [h]; decide)
  have hne {a b : α} (h : before a b = true) : a ≠ b := by
    rintro rfl
    rw [hirrefl] at h
    cases h
  obtain ⟨front, back, rfl⟩ := List.append_of_mem hx
  obtain ⟨_, hback, hfront⟩ := List.pairwise_append.mp hranked
  have hcount : (front ++ x :: back).countP (fun y => before y x) = front.length := by
    have hleft : front.countP (fun y => before y x) = front.length :=
      List.countP_eq_length.mpr fun y hy => hfront y hy x (List.mem_cons_self ..)
    have hright : (x :: back).countP (fun y => before y x) = 0 := by
      refine List.countP_eq_zero.mpr fun y hy => ?_
      rcases List.mem_cons.mp hy with rfl | hy
      · rw [hirrefl]
        exact Bool.false_ne_true
      · rw [asymm x y (List.rel_of_pairwise_cons hback hy)]
        exact Bool.false_ne_true
    rw [List.countP_append, hleft, hright, Nat.add_zero]
  rw [hcount, List.take_append, List.mem_append, not_or]
  constructor
  · rintro ⟨-, hnot⟩
    by_contra hlt
    obtain ⟨k, hk⟩ : ∃ k, limit - front.length = k + 1 := ⟨limit - front.length - 1, by omega⟩
    rw [hk] at hnot
    exact hnot (List.mem_cons_self ..)
  · intro hle
    refine ⟨fun hmem => ?_, ?_⟩
    · exact hne (hfront x (List.mem_of_mem_take hmem) x (List.mem_cons_self ..)) rfl
    · rw [Nat.sub_eq_zero_of_le hle]
      exact List.not_mem_nil

/-! ### Ties -/

/-- Two members of a list come in one of two orders. -/
theorem pair_sublist {l : List α} {a b : α} (ha : a ∈ l) (hb : b ∈ l) (hne : a ≠ b) :
    [a, b].Sublist l ∨ [b, a].Sublist l := by
  obtain ⟨front, back, rfl⟩ := List.append_of_mem ha
  rcases List.mem_append.mp hb with hb | hb
  · exact Or.inr ((List.singleton_sublist.mpr hb).append
      (List.singleton_sublist.mpr (List.mem_cons_self ..)))
  · rcases List.mem_cons.mp hb with rfl | hb
    · exact absurd rfl hne
    · exact Or.inl ((List.nil_sublist front).append
        ((List.singleton_sublist.mpr hb).cons_cons a))

theorem not_pair_sublist {l : List α} (hnodup : l.Nodup) {a b : α} (hab : [a, b].Sublist l) :
    ¬[b, a].Sublist l := by
  intro hba
  obtain ⟨front, back, rfl, ha, hb⟩ := List.cons_sublist_iff.mp hab
  obtain ⟨front', back', hsplit, hb', ha'⟩ := List.cons_sublist_iff.mp hba
  have hdisjoint := (List.nodup_append.mp hnodup).2.2
  have hb := List.singleton_sublist.mp hb
  have ha' := List.singleton_sublist.mp ha'
  rcases List.append_eq_append_iff.mp hsplit with ⟨x, rfl, rfl⟩ | ⟨x, rfl, rfl⟩
  · exact hdisjoint a ha a (List.mem_append_right _ ha') rfl
  · exact hdisjoint b (List.mem_append_left _ hb') b hb rfl

/-- **A sort keeps the order** of what ties. -/
theorem pairwise_stable {le : α → α → Bool} {before : α → α → Prop}
    (trans : ∀ a b c, le a b = true → le b c = true → le a c = true)
    (total : ∀ a b, (le a b || le b a) = true) {l : List α} (hnodup : l.Nodup)
    (hl : l.Pairwise before) :
    (l.mergeSort le).Pairwise fun a b => le a b = true ∧ (le b a = true → before a b) := by
  have hsorted : (l.mergeSort le).Nodup := (List.mergeSort_perm l le).nodup_iff.mpr hnodup
  refine List.pairwise_iff_forall_sublist.mpr fun {a b} hab => ⟨?_, fun hba => ?_⟩
  · exact List.pairwise_iff_forall_sublist.mp (List.pairwise_mergeSort trans total l) hab
  · have ha : a ∈ l := List.mem_mergeSort.mp (hab.mem (List.mem_cons_self ..))
    have hb : b ∈ l := List.mem_mergeSort.mp (hab.mem (List.mem_cons_of_mem _
      (List.mem_singleton_self b)))
    have hne : a ≠ b := (List.pairwise_pair.mp (hsorted.sublist hab))
    rcases pair_sublist ha hb hne with hsub | hsub
    · exact List.pairwise_iff_forall_sublist.mp hl hsub
    · exact absurd (List.pair_sublist_mergeSort trans total hba hsub)
        (not_pair_sublist hsorted hab)

end QuadraA.Lib
