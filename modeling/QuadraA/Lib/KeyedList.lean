import QuadraA.Lib.Record

/-!
# Lists of elements with distinct keys

What `List.find?` gives for a key, and what becomes of it when the list changes.

* `find?_key_eq_some_iff` — the element of a key is the one that has it;
* `Record.Keyed` — the entries of a record under their own keys, whose values have distinct ones.
-/

namespace QuadraA.Lib

universe u v

variable {α : Type u} {κ : Type v} [DecidableEq κ] {key : α → κ} {l l' : List α}

/-- **The element of a key** is the one that has it. -/
theorem find?_key_eq_some_iff (hl : (l.map key).Nodup) {k : κ} {a : α} :
    l.find? (fun b => key b = k) = some a ↔ a ∈ l ∧ key a = k := by
  constructor
  · intro hfind
    have hkey := List.find?_some hfind
    exact ⟨List.mem_of_find?_eq_some hfind, by simpa using hkey⟩
  · rintro ⟨hmem, hkey⟩
    cases hfind : l.find? fun b => key b = k with
    | none =>
      have hnot := List.find?_eq_none.mp hfind a hmem
      exact absurd (decide_eq_true hkey) hnot
    | some b =>
      have hb : key b = k := by simpa using List.find?_some hfind
      rw [List.inj_on_of_nodup_map hl (List.mem_of_find?_eq_some hfind) hmem (hb.trans hkey.symm)]

theorem find?_key_eq_none_iff {k : κ} :
    l.find? (fun b => key b = k) = none ↔ k ∉ l.map key := by
  rw [List.find?_eq_none, List.mem_map, not_exists]
  refine forall_congr' fun a => ?_
  rw [decide_eq_true_iff, not_and]

/-- **The order does not matter.** -/
theorem find?_key_perm (h : l.Perm l') (hl : (l.map key).Nodup) (k : κ) :
    l.find? (fun b => key b = k) = l'.find? fun b => key b = k := by
  have hl' : (l'.map key).Nodup := (h.map key).nodup_iff.mp hl
  refine Option.ext fun a => ?_
  rw [find?_key_eq_some_iff hl, find?_key_eq_some_iff hl', h.mem_iff]

/-- **The first element with a replacement** is replaced, and nothing else. -/
theorem find?_key_replaceF {f : α → Option α} (hf : ∀ a a', f a = some a' → key a' = key a)
    (hl : (l.map key).Nodup) (k : κ) :
    (l.replaceF f).find? (fun b => key b = k) =
      match l.find? fun a => (f a).isSome with
      | some a => if key a = k then f a else l.find? fun b => key b = k
      | none => l.find? fun b => key b = k := by
  induction l with
  | nil => rfl
  | cons a l ih =>
    obtain ⟨hnew, hl⟩ := List.nodup_cons.mp hl
    cases ha : f a with
    | some a' =>
      have hkey := hf a a' ha
      have hsome : (f a).isSome = true := by rw [ha]; rfl
      rw [List.replaceF_cons_of_some f ha,
        List.find?_cons_of_pos (p := fun a => (f a).isSome) hsome]
      dsimp only
      split
      · rename_i hk
        rw [List.find?_cons_of_pos (by simpa using hkey.trans hk), ha]
      · rename_i hk
        rw [List.find?_cons_of_neg (by simpa [hkey] using hk),
          List.find?_cons_of_neg (by simpa using hk)]
    | none =>
      have hrest := ih hl
      have hnone : ¬(f a).isSome = true := by rw [ha]; exact nofun
      rw [List.replaceF_cons_of_none f ha,
        List.find?_cons_of_neg (p := fun a => (f a).isSome) hnone]
      by_cases hk : key a = k
      · rw [List.find?_cons_of_pos (by simpa using hk), List.find?_cons_of_pos (by simpa using hk)]
        -- the key of the first element is of no other one
        split
        · rename_i b hb
          have hother : key b ≠ k := fun hb' =>
            hnew (List.mem_map.mpr ⟨b, List.mem_of_find?_eq_some hb, hb'.trans hk.symm⟩)
          rw [if_neg hother]
        · rfl
      · rw [List.find?_cons_of_neg (by simpa using hk), hrest,
          List.find?_cons_of_neg (by simpa using hk)]

/-- **Elements that are dropped** have no key any more. -/
theorem find?_key_drop (hl : (l.map key).Nodup) (n : ℕ) (k : κ) :
    (l.drop n).find? (fun b => key b = k) =
      if k ∈ (l.take n).map key then none else l.find? fun b => key b = k := by
  have hsplit : (l.take n).map key ++ (l.drop n).map key = l.map key := by
    rw [← List.map_append, List.take_append_drop]
  split
  · rename_i htaken
    rw [find?_key_eq_none_iff]
    intro hdropped
    rw [← hsplit, List.nodup_append] at hl
    exact hl.2.2 k htaken k hdropped rfl
  · rename_i htaken
    have hnone : (l.take n).find? (fun b => key b = k) = none := find?_key_eq_none_iff.mpr htaken
    conv_rhs => rw [← List.take_append_drop n l, List.find?_append, hnone]
    rfl

/-- **Every entry under its own key.** -/
def Record.Keyed (key : α → κ) (r : Record κ α) : Prop := ∀ k a, r.get? k = some a → key a = k

theorem Record.keyed_empty (key : α → κ) : (Record.empty : Record κ α).Keyed key := by
  intro k a hget
  cases hget

theorem Record.Keyed.set {r : Record κ α} (h : r.Keyed key) (a : α) :
    (r.set (key a) a).Keyed key := by
  intro k b hget
  rw [Record.get?_set] at hget
  split at hget
  · rename_i hk
    rw [← Option.some.inj hget]
    exact hk
  · exact h k b hget

theorem Record.Keyed.nodup_values {r : Record κ α} (h : r.Keyed key) :
    (r.values.map key).Nodup := by
  have hkeys : r.values.map key = r.entries.map Prod.fst := by
    rw [Record.values, List.map_map]
    refine List.map_congr_left fun entry hentry => ?_
    exact h entry.1 entry.2 ((Record.get?_eq_some_iff ..).mpr hentry)
  rw [hkeys]
  exact r.nodupKeys

/-- What a key has among the values is what it has in the record. -/
theorem Record.Keyed.find?_values {r : Record κ α} (h : r.Keyed key) (k : κ) :
    r.values.find? (fun b => key b = k) = r.get? k := by
  refine Option.ext fun a => ?_
  rw [find?_key_eq_some_iff h.nodup_values, Record.mem_values_iff]
  constructor
  · rintro ⟨⟨k', hget⟩, hk⟩
    rw [← hk, h k' a hget]
    exact hget
  · intro hget
    exact ⟨⟨k, hget⟩, h k a hget⟩

end QuadraA.Lib
