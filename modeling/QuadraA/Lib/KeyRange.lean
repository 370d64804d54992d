import Mathlib.Data.String.Basic
import Mathlib.Data.List.Sort
import QuadraA.Lib.Record

/-!
# Ranges of an ordered key-value store

What a store whose keys are ordered text enumerates: the entries between two keys in the order of
the keys, and the keys that begin with a prefix, where keys are words joined by a separator.

* `Record.range` with `mem_range`, `nodup_keys_range` and `pairwise_range`;
* `segments`, the words of a key, with `segments_cons` and `getLast?_segments`.
-/

namespace QuadraA.Lib

universe u v

namespace Record

variable {κ : Type u} {α : Type v} [LinearOrder κ]

/-- The entries whose keys are between `lo` and `hi`, by their keys. -/
def range (r : Record κ α) (lo hi : κ) : List (κ × α) :=
  (r.entries.filter fun e => decide (lo ≤ e.1 ∧ e.1 ≤ hi)).mergeSort fun a b => decide (a.1 ≤ b.1)

variable {r : Record κ α} {k : κ} {b : α}

theorem mem_range {lo hi : κ} {e : κ × α} :
    e ∈ r.range lo hi ↔ r.get? e.1 = some e.2 ∧ lo ≤ e.1 ∧ e.1 ≤ hi := by
  rw [range, List.mem_mergeSort, List.mem_filter, get?_eq_some_iff, decide_eq_true_eq]

theorem nodup_keys_range (r : Record κ α) (lo hi : κ) :
    ((r.range lo hi).map Prod.fst).Nodup := by
  have hperm := (List.mergeSort_perm (r.entries.filter fun e => decide (lo ≤ e.1 ∧ e.1 ≤ hi))
    fun a b => decide (a.1 ≤ b.1)).map Prod.fst
  exact hperm.nodup_iff.mpr (r.nodupKeys.sublist (List.filter_sublist.map _))

/-- The entries are in the order of their keys. -/
theorem pairwise_range (r : Record κ α) (lo hi : κ) :
    (r.range lo hi).Pairwise fun a b => a.1 ≤ b.1 := by
  refine (List.pairwise_mergeSort (fun a b c hab hbc => ?_) (fun a b => ?_) _).imp
    fun h => of_decide_eq_true h
  · rw [decide_eq_true_eq] at hab hbc ⊢
    exact hab.trans hbc
  · rw [Bool.or_eq_true, decide_eq_true_eq, decide_eq_true_eq]
    exact le_total a.1 b.1

/-- **A write of a new key** counts its value. -/
theorem countP_values_set_new (hget : r.get? k = none) (a : α) (p : α → Bool) :
    (r.set k a).values.countP p = r.values.countP p + if p a then 1 else 0 := by
  have hnew : k ∉ r.entries.map Prod.fst := by
    intro hmem
    obtain ⟨⟨k', b⟩, hentry, rfl⟩ := List.mem_map.mp hmem
    rw [(get?_eq_some_iff r k' b).mpr hentry] at hget
    cases hget
  rw [values, set]
  dsimp only
  rw [insert_of_not_mem a hnew, List.map_append, List.countP_append, values]
  simp [List.countP_cons]

/-- **A write of a key that is there** counts its value for the one that was there. -/
theorem countP_values_set (hget : r.get? k = some b) (a : α) (p : α → Bool) :
    (r.set k a).values.countP p + (if p b then 1 else 0)
      = r.values.countP p + if p a then 1 else 0 := by
  rw [values, set, values]
  rw [get?] at hget
  dsimp only
  generalize r.entries = l at hget
  induction l with
  | nil => cases hget
  | cons e rest ih =>
    obtain ⟨k', c⟩ := e
    rw [lookup] at hget
    rw [insert]
    split at hget
    · rename_i hk
      obtain rfl := Option.some.inj hget
      rw [if_pos hk, List.map_cons, List.map_cons, List.countP_cons, List.countP_cons]
      dsimp only
      omega
    · rename_i hk
      rw [if_neg hk, List.map_cons, List.map_cons, List.countP_cons, List.countP_cons]
      have hrest := ih hget
      omega

/-- **An erased key** takes its value from the count. -/
theorem countP_values_erase (hget : r.get? k = some b) (p : α → Bool) :
    (r.erase k).values.countP p + (if p b then 1 else 0) = r.values.countP p := by
  obtain ⟨l, hl⟩ := r
  rw [get?] at hget
  rw [values, values, erase, filterKeys]
  dsimp only at hget ⊢
  induction l with
  | nil => cases hget
  | cons e rest ih =>
    obtain ⟨k', c⟩ := e
    rw [lookup] at hget
    rw [List.map_cons, List.nodup_cons] at hl
    split at hget
    · rename_i hk
      obtain rfl := Option.some.inj hget
      have hrest : rest.filter (fun e => decide (e.1 ≠ k)) = rest := by
        refine List.filter_eq_self.mpr fun e he => decide_eq_true ?_
        intro hkey
        rw [hk, ← hkey] at hl
        exact hl.1 (List.mem_map.mpr ⟨e, he, rfl⟩)
      rw [List.filter_cons_of_neg (by simp [hk]), hrest, List.map_cons, List.countP_cons]
    · rename_i hk
      rw [List.filter_cons_of_pos (by simpa using hk), List.map_cons, List.map_cons,
        List.countP_cons, List.countP_cons]
      have := ih hl.2 hget
      omega

end Record

/-! ### Words between a prefix and its last extension -/

section Words

variable {α : Type u} [LinearOrder α]

variable {s : List α}

theorem not_cons_lt_cons {a b : α} {t : List α} :
    ¬List.lt (b :: t) (a :: s) ↔ a < b ∨ a = b ∧ ¬List.lt t s := by
  have h : List.lt (b :: t) (a :: s) ↔ b < a ∨ b = a ∧ List.lt t s := List.cons_lt_cons_iff
  rw [h, not_or, not_and, not_lt]
  constructor
  · rintro ⟨hle, hrest⟩
    rcases lt_or_eq_of_le hle with hlt | heq
    · exact Or.inl hlt
    · exact Or.inr ⟨heq, hrest heq.symm⟩
  · rintro (hlt | ⟨rfl, hrest⟩)
    · exact ⟨le_of_lt hlt, fun heq => absurd hlt (heq ▸ lt_irrefl _)⟩
    · exact ⟨le_refl _, fun _ => hrest⟩

/-- **The words between `p` and `p ++ q`** are `p` followed by a word up to `q`. -/
theorem not_lt_append_iff {p q : List α} :
    ¬List.lt s p ∧ ¬List.lt (p ++ q) s ↔ ∃ t, s = p ++ t ∧ ¬List.lt q t := by
  induction p generalizing s with
  | nil => exact ⟨fun h => ⟨s, rfl, h.2⟩, fun ⟨t, ht, hle⟩ => ⟨nofun, by rwa [ht]⟩⟩
  | cons a p ih =>
    cases s with
    | nil =>
      exact ⟨fun h => absurd (List.nil_lt_cons a p) h.1, fun ⟨t, ht, _⟩ => by cases ht⟩
    | cons b s =>
      rw [List.cons_append, not_cons_lt_cons, not_cons_lt_cons]
      constructor
      · rintro ⟨hlower, hupper⟩
        have hab : a = b := by
          rcases hlower with hab | ⟨hab, _⟩
          · rcases hupper with hba | ⟨hba, _⟩
            · exact absurd hab (lt_asymm hba)
            · exact hba.symm
          · exact hab
        subst hab
        have hlower : ¬List.lt s p := by
          rcases hlower with hlt | ⟨_, hle⟩
          · exact absurd hlt (lt_irrefl _)
          · exact hle
        have hupper : ¬List.lt (p ++ q) s := by
          rcases hupper with hlt | ⟨_, hle⟩
          · exact absurd hlt (lt_irrefl _)
          · exact hle
        obtain ⟨t, rfl, ht⟩ := ih.mp ⟨hlower, hupper⟩
        exact ⟨t, rfl, ht⟩
      · rintro ⟨t, ht, hle⟩
        obtain ⟨rfl, rfl⟩ := List.cons.inj ht
        obtain ⟨hlower, hupper⟩ := ih.mpr ⟨t, rfl, hle⟩
        exact ⟨Or.inr ⟨rfl, hlower⟩, Or.inr ⟨rfl, hupper⟩⟩

end Words

/-! ### Keys of text -/

/-- The keys between `start` and `start` followed by `last`. -/
def InPrefixRange (start : String) (last : Char) (key : String) : Prop :=
  start ≤ key ∧ key ≤ start ++ String.singleton last

variable {start rest : String} {last separator : Char}

/-- **A key in the range** is the prefix, or goes on with a smaller letter, or ends in the last
one. -/
theorem inPrefixRange_iff {key : String} :
    InPrefixRange start last key ↔ key.toList = start.toList ∨
      ∃ c t, key.toList = start.toList ++ c :: t ∧ (c < last ∨ c = last ∧ t = []) := by
  rw [InPrefixRange, ← not_lt, ← not_lt, String.lt_iff_toList_lt, String.lt_iff_toList_lt,
    String.toList_append, String.toList_singleton]
  refine not_lt_append_iff.trans ⟨fun ⟨t, ht, hle⟩ => ?_, fun hkey => ?_⟩
  · cases t with
    | nil => exact Or.inl (ht.trans (List.append_nil _))
    | cons c t =>
      rcases not_cons_lt_cons.mp hle with hlt | ⟨heq, hnil⟩
      · exact Or.inr ⟨c, t, ht, Or.inl hlt⟩
      · cases t with
        | nil => exact Or.inr ⟨c, [], ht, Or.inr ⟨heq, rfl⟩⟩
        | cons d t => exact absurd (List.nil_lt_cons d t) hnil
  · rcases hkey with hkey | ⟨c, t, hkey, hle⟩
    · exact ⟨[], by rw [hkey, List.append_nil], nofun⟩
    · refine ⟨c :: t, hkey, not_cons_lt_cons.mpr ?_⟩
      rcases hle with hlt | ⟨heq, rfl⟩
      · exact Or.inl hlt
      · exact Or.inr ⟨heq, nofun⟩

/-- **A key in the range without its end** is the prefix, or goes on with a smaller letter. -/
theorem lt_prefixEnd_iff {key : String} :
    (start ≤ key ∧ key < start ++ String.singleton last) ↔ key.toList = start.toList ∨
      ∃ c t, key.toList = start.toList ++ c :: t ∧ c < last := by
  rw [lt_iff_le_and_ne, ← and_assoc]
  refine (and_congr_left' inPrefixRange_iff).trans ⟨?_, ?_⟩
  · rintro ⟨hkey | ⟨c, t, hkey, hlt | ⟨rfl, rfl⟩⟩, hne⟩
    · exact Or.inl hkey
    · exact Or.inr ⟨c, t, hkey, hlt⟩
    · refine absurd (String.toList_inj.mp ?_) hne
      rw [hkey, String.toList_append, String.toList_singleton]
  · rintro (hkey | ⟨c, t, hkey, hlt⟩)
    · refine ⟨Or.inl hkey, fun hsame => ?_⟩
      rw [hsame, String.toList_append, String.toList_singleton] at hkey
      exact absurd (congrArg List.length hkey) (by simp)
    · refine ⟨Or.inr ⟨c, t, hkey, Or.inl hlt⟩, fun hsame => ?_⟩
      rw [hsame, String.toList_append, String.toList_singleton, List.append_cancel_left_eq] at hkey
      obtain ⟨rfl, -⟩ := List.cons.inj hkey
      exact lt_irrefl _ hlt

/-- A key that goes on with a smaller letter is in the range. -/
theorem inPrefixRange_append {c : Char} {t : List Char} (hrest : rest.toList = c :: t)
    (hc : c < last) : InPrefixRange start last (start ++ rest) := by
  refine inPrefixRange_iff.mpr (Or.inr ⟨c, t, ?_, Or.inl hc⟩)
  rw [String.toList_append, hrest]

/-! ### Words joined by a separator -/

/-- The words of a text. -/
def segments (separator : Char) (text : String) : List String :=
  (text.toList.splitOn separator).map String.ofList

/-- A text without the separator, and what follows it. -/
theorem segments_cons {first text : String}
    (htext : text.toList = first.toList ++ separator :: rest.toList)
    (hfirst : separator ∉ first.toList) :
    segments separator text = first :: segments separator rest := by
  rw [segments, htext, List.splitOn_append_cons_self, List.splitOn_eq_singleton hfirst,
    List.singleton_append, List.map_cons, String.ofList_toList]
  rfl

/-- **The last word**, of a text that ends in one. -/
theorem getLast?_segments {front last text : String}
    (htext : text.toList = front.toList ++ separator :: last.toList)
    (hlast : separator ∉ last.toList) : (segments separator text).getLast? = some last := by
  rw [segments, htext, List.splitOn_append_cons_self, List.splitOn_eq_singleton hlast,
    List.map_append, List.map_singleton, String.ofList_toList, List.getLast?_append]
  rfl

/-- No word has the separator. -/
theorem not_mem_of_segments {text word : String} (hword : word ∈ segments separator text) :
    separator ∉ word.toList := by
  rw [segments, List.mem_map] at hword
  obtain ⟨letters, hletters, rfl⟩ := hword
  rw [String.toList_ofList]
  generalize text.toList = l at hletters
  induction l generalizing letters with
  | nil =>
    rw [List.splitOn_nil, List.mem_singleton] at hletters
    rw [hletters]
    exact List.not_mem_nil
  | cons c l ih =>
    rw [List.splitOn_cons_eq_if_modifyHead] at hletters
    split at hletters
    · rcases List.mem_cons.mp hletters with rfl | hletters
      · exact List.not_mem_nil
      · exact ih letters hletters
    · rename_i hc
      cases hsplit : l.splitOn separator with
      | nil => exact absurd hsplit (List.splitOn_ne_nil _ _)
      | cons head tail =>
        rw [hsplit, List.modifyHead_cons] at hletters
        rcases List.mem_cons.mp hletters with rfl | hletters
        · intro hmem
          rcases List.mem_cons.mp hmem with rfl | hmem
          · exact hc (beq_self_eq_true _)
          · exact ih head (by rw [hsplit]; exact List.mem_cons_self ..) hmem
        · exact ih letters (by rw [hsplit]; exact List.mem_cons_of_mem _ hletters)

end QuadraA.Lib
