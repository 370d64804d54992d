import Mathlib.Data.List.Perm.Basic
import Mathlib.Data.Set.List
import QuadraA.Lib.Json

/-!
# JSON values up to the order of their members

Two values with the same members in their objects, in any order and at any depth, and the orders
that make one value of all of these.

* `Json.SameMembers` — equal up to the order of members;
* `Json.exists_mapNumbers` — a value over some numbers only.
-/

namespace QuadraA.Lib

universe u v w

/-! ### Orders that do not depend on the order before -/

namespace Arrangement

variable {σ : Type u}

/-- **The order of distinct keys** is the same, however they come. -/
def IgnoresOrder (a : Arrangement.{u, w} σ) : Prop :=
  ∀ keys keys' : List σ, keys.Nodup → keys.Perm keys' → a.keys keys = a.keys keys'

variable {a : Arrangement.{u, w} σ}

theorem IgnoresOrder.andThen (h : a.IgnoresOrder) (b : Arrangement.{u, w} σ) :
    (a.andThen b).IgnoresOrder := by
  intro keys keys' hnodup hperm
  rw [keys_andThen, keys_andThen, h keys keys' hnodup hperm]

theorem pairwise_keys_sortBy [LinearOrder σ] {le : σ → σ → Bool}
    (hle : ∀ key key', le key key' = true ↔ key ≤ key') (keys : List σ) :
    ((sortBy.{u, w} le).keys keys).Pairwise (· ≤ ·) := by
  rw [keys_sortBy]
  refine (List.pairwise_mergeSort (fun a b c hab hbc => ?_) (fun a b => ?_) keys).imp
    fun h => (hle _ _).mp h
  · rw [hle] at hab hbc ⊢
    exact hab.trans hbc
  · rw [Bool.or_eq_true, hle, hle]
    exact le_total a b

/-- **A sort** by a linear order. -/
theorem ignoresOrder_sortBy [LinearOrder σ] {le : σ → σ → Bool}
    (hle : ∀ key key', le key key' = true ↔ key ≤ key') :
    (sortBy.{u, w} le).IgnoresOrder := by
  intro keys keys' _ hperm
  refine List.Perm.eq_of_pairwise (fun _ _ _ _ => le_antisymm) (pairwise_keys_sortBy hle keys)
    (pairwise_keys_sortBy hle keys') ?_
  exact (keys_perm _ keys).trans (hperm.trans (keys_perm _ keys').symm)

/-- Members in two orders come in one. -/
theorem IgnoresOrder.arrange_eq (h : a.IgnoresOrder) {α : Type w} {members members' : List (σ × α)}
    (hperm : members.Perm members') (hnodup : (members.map Prod.fst).Nodup) :
    a.arrange members = a.arrange members' := by
  refine eq_of_map_fst ((a.perm members).trans (hperm.trans (a.perm members').symm)) ?_ ?_
  · rw [map_fst_arrange, map_fst_arrange]
    exact h _ _ hnodup (hperm.map Prod.fst)
  · exact (((a.perm members').trans hperm.symm).map Prod.fst).nodup_iff.mpr hnodup

end Arrangement

/-! ### The same members -/

namespace Json

variable {σ : Type u} {ν : Type v}

mutual

/-- **Equal up to the order of members**, at any depth. -/
def SameMembers : Json σ ν → Json σ ν → Prop
  | .null, .null => True
  | .bool b, .bool b' => b = b'
  | .number n, .number n' => n = n'
  | .string s, .string s' => s = s'
  | .array items, .array items' => SameItems items items'
  | .object members, .object members' => SameEntries members members'
  | _, _ => False

def SameItems : List (Json σ ν) → List (Json σ ν) → Prop
  | [], [] => True
  | v :: items, v' :: items' => SameMembers v v' ∧ SameItems items items'
  | _, _ => False

/-- Each member is matched with one of the same key. -/
def SameEntries : List (σ × Json σ ν) → List (σ × Json σ ν) → Prop
  | [], members' => members' = []
  | (key, v) :: members, members' =>
      ∃ v' rest, members'.Perm ((key, v') :: rest) ∧ SameMembers v v' ∧ SameEntries members rest

end

variable {members members' : List (σ × Json σ ν)} {items : List (Json σ ν)} {v : Json σ ν}

theorem SameEntries.perm_keys (h : SameEntries members members') :
    (members.map Prod.fst).Perm (members'.map Prod.fst) := by
  induction members generalizing members' with
  | nil => rw [SameEntries] at h; rw [h]
  | cons m members ih =>
    obtain ⟨key, v⟩ := m
    rw [SameEntries] at h
    obtain ⟨v', rest, hperm, _, hrest⟩ := h
    exact ((ih hrest).cons key).trans (hperm.map Prod.fst).symm

/-- A member has the same value on the other side. -/
theorem SameEntries.exists_mem (h : SameEntries members members') {m : σ × Json σ ν}
    (hm : m ∈ members) : ∃ v', (m.1, v') ∈ members' ∧ SameMembers m.2 v' := by
  induction members generalizing members' with
  | nil => cases hm
  | cons first members ih =>
    obtain ⟨key, v⟩ := first
    rw [SameEntries] at h
    obtain ⟨v', rest, hperm, hsame, hrest⟩ := h
    rcases List.mem_cons.mp hm with rfl | hm
    · exact ⟨v', hperm.mem_iff.mpr (List.mem_cons_self ..), hsame⟩
    · obtain ⟨w, hw, hsame'⟩ := ih hrest hm
      exact ⟨w, hperm.mem_iff.mpr (List.mem_cons_of_mem _ hw), hsame'⟩

/-- No object inside has a key twice. -/
def DistinctKeys (v : Json σ ν) : Prop := ∀ keys ∈ v.objectKeys, keys.Nodup

instance [DecidableEq σ] (v : Json σ ν) : Decidable v.DistinctKeys :=
  inferInstanceAs (Decidable (∀ keys ∈ v.objectKeys, keys.Nodup))

theorem distinctKeys_array : (Json.array items).DistinctKeys ↔ ∀ v ∈ items, v.DistinctKeys :=
  forall_objectKeys_array

theorem distinctKeys_object :
    (Json.object members).DistinctKeys ↔
      (members.map Prod.fst).Nodup ∧ ∀ m ∈ members, m.2.DistinctKeys :=
  forall_objectKeys_object

variable {a : Arrangement σ}

/-- The keys stay, whatever the order inside the members. -/
theorem map_fst_rearrange (members : List (σ × Json σ ν)) :
    (members.map (Prod.map id (rearrange a))).map Prod.fst = members.map Prod.fst := by
  rw [List.map_map]
  rfl

/-- An order makes one value of two that have the same kind and the same parts. -/
theorem sameItems_iff {items' : List (Json σ ν)}
    (h : ∀ v ∈ items, ∀ v' ∈ items', SameMembers v v' ↔ v.rearrange a = v'.rearrange a) :
    SameItems items items' ↔ items.map (rearrange a) = items'.map (rearrange a) := by
  induction items generalizing items' with
  | nil => cases items' <;> simp [SameItems]
  | cons v items ih =>
    cases items' with
    | nil => simp [SameItems]
    | cons v' items' =>
      rw [SameItems, h v (List.mem_cons_self ..) v' (List.mem_cons_self ..),
        ih fun v hv v' hv' => h v (List.mem_cons_of_mem _ hv) v' (List.mem_cons_of_mem _ hv'),
        List.map_cons, List.map_cons, List.cons.injEq]

theorem sameEntries_iff
   
    (h : ∀ m ∈ members, ∀ m' ∈ members', SameMembers m.2 m'.2 ↔ m.2.rearrange a = m'.2.rearrange a) :
    SameEntries members members' ↔
      (members.map (Prod.map id (rearrange a))).Perm (members'.map (Prod.map id (rearrange a))) := by
  induction members generalizing members' with
  | nil =>
    rw [SameEntries, List.map_nil, List.nil_perm, List.map_eq_nil_iff]
  | cons m members ih =>
    obtain ⟨key, v⟩ := m
    rw [SameEntries, List.map_cons]
    constructor
    · rintro ⟨v', rest, hperm, hsame, hrest⟩
      have hmem (m' : σ × Json σ ν) (hm' : m' ∈ (key, v') :: rest) : m' ∈ members' :=
        hperm.mem_iff.mpr hm'
      have hvalue := (h (key, v) (List.mem_cons_self ..) (key, v')
        (hmem _ (List.mem_cons_self ..))).mp hsame
      have hperm' := (ih fun m hm m' hm' => h m (List.mem_cons_of_mem _ hm) m'
        (hmem m' (List.mem_cons_of_mem _ hm'))).mp hrest
      refine List.Perm.trans ?_ (hperm.map _).symm
      rw [List.map_cons]
      have hhead : Prod.map id (rearrange a) (key, v) = Prod.map id (rearrange a) (key, v') :=
        Prod.ext rfl hvalue
      rw [hhead]
      exact hperm'.cons _
    · intro hperm
      -- the first member is one of the others, with its value in another order
      have hmem := hperm.mem_iff.mp (List.mem_cons_self ..)
      obtain ⟨⟨key', v'⟩, hm', hhead⟩ := List.mem_map.mp hmem
      obtain ⟨front, back, rfl⟩ := List.append_of_mem hm'
      obtain ⟨rfl, hvalue⟩ : key' = key ∧ v'.rearrange a = v.rearrange a := Prod.ext_iff.mp hhead
      have hmiddle : (front ++ (key', v') :: back).Perm ((key', v') :: (front ++ back)) :=
        List.perm_middle
      refine ⟨v', front ++ back, hmiddle, ?_, ?_⟩
      · exact (h (key', v) (List.mem_cons_self ..) (key', v') hm').mpr hvalue.symm
      · refine (ih fun m hm m' hm'' => h m (List.mem_cons_of_mem _ hm) m'
          (hmiddle.mem_iff.mpr (List.mem_cons_of_mem _ hm''))).mpr ?_
        have hcons := hperm.trans (hmiddle.map (Prod.map id (rearrange a)))
        rw [List.map_cons, hhead] at hcons
        exact hcons.cons_inv

/-- **An order that ignores the one before** makes one value of two exactly when they have the same
members. -/
theorem rearrange_eq_iff_sameMembers (ha : a.IgnoresOrder) {u : Json σ ν} (hu : u.DistinctKeys)
    (hv : v.DistinctKeys) : u.rearrange a = v.rearrange a ↔ SameMembers u v := by
  induction u using induct generalizing v with
  | hnull => cases v <;> simp [rearrange, SameMembers]
  | hbool b => cases v <;> simp [rearrange, SameMembers]
  | hnumber n => cases v <;> simp [rearrange, SameMembers]
  | hstring s => cases v <;> simp [rearrange, SameMembers]
  | harray items ih =>
    cases v with
    | array items' =>
      rw [distinctKeys_array] at hu hv
      rw [rearrange, rearrange, rearrangeItems_eq, rearrangeItems_eq, array.injEq, SameMembers]
      exact (sameItems_iff fun v hmem v' hmem' =>
        (ih v hmem (hu v hmem) (hv v' hmem')).symm).symm
    | _ => simp [rearrange, SameMembers]
  | hobject members ih =>
    cases v with
    | object members' =>
      rw [distinctKeys_object] at hu hv
      rw [rearrange, rearrange, rearrangeMembers_eq, rearrangeMembers_eq, object.injEq, SameMembers,
        sameEntries_iff fun m hm m' hm' => (ih m hm (hu.2 m hm) (hv.2 m' hm')).symm]
      constructor
      · intro heq
        exact ((a.perm _).symm.trans (List.Perm.of_eq heq)).trans (a.perm _)
      · intro hperm
        refine ha.arrange_eq hperm ?_
        rw [map_fst_rearrange]
        exact hu.1
    | _ => simp [rearrange, SameMembers]

/-! ### Absent members -/

variable {absent : ν → Bool}

/-- A value that stands for none. -/
def isAbsent (absent : ν → Bool) : Json σ ν → Bool
  | .number n => absent n
  | _ => false

mutual

/-- **Without the members whose values are absent**, at any depth. -/
def dropAbsent (absent : ν → Bool) : Json σ ν → Json σ ν
  | .array items => .array (dropAbsentItems absent items)
  | .object members => .object (dropAbsentMembers absent members)
  | .null => .null
  | .bool b => .bool b
  | .number n => .number n
  | .string s => .string s

def dropAbsentItems (absent : ν → Bool) : List (Json σ ν) → List (Json σ ν)
  | [] => []
  | v :: items => v.dropAbsent absent :: dropAbsentItems absent items

def dropAbsentMembers (absent : ν → Bool) : List (σ × Json σ ν) → List (σ × Json σ ν)
  | [] => []
  | (key, v) :: members =>
      if v.isAbsent absent then dropAbsentMembers absent members
      else (key, v.dropAbsent absent) :: dropAbsentMembers absent members

end

theorem dropAbsentItems_eq (items : List (Json σ ν)) :
    dropAbsentItems absent items = items.map (dropAbsent absent) := by
  induction items with
  | nil => rfl
  | cons v items ih => rw [dropAbsentItems, ih, List.map_cons]

theorem dropAbsentMembers_eq (members : List (σ × Json σ ν)) :
    dropAbsentMembers absent members
      = (members.filter fun m => !m.2.isAbsent absent).map (Prod.map id (dropAbsent absent)) := by
  induction members with
  | nil => rfl
  | cons m members ih =>
    rw [dropAbsentMembers, ih]
    cases habsent : m.2.isAbsent absent with
    | true => rw [if_pos rfl, List.filter_cons_of_neg (by simp [habsent])]
    | false =>
      rw [if_neg Bool.false_ne_true, List.filter_cons_of_pos (by simp [habsent]), List.map_cons]
      rfl

theorem isAbsent_rearrange (b : Arrangement σ) (v : Json σ ν) :
    (v.rearrange b).isAbsent absent = v.isAbsent absent := by
  cases v <;> rfl

/-- **The order before** does not matter to an order that ignores it, nor do absent members. -/
theorem rearrange_dropAbsent_rearrange (ha : a.IgnoresOrder) (b : Arrangement σ)
    (hv : v.DistinctKeys) :
    ((v.rearrange b).dropAbsent absent).rearrange a = (v.dropAbsent absent).rearrange a := by
  induction v using induct with
  | hnull => rfl
  | hbool b => rfl
  | hnumber n => rfl
  | hstring s => rfl
  | harray items ih =>
    rw [distinctKeys_array] at hv
    rw [rearrange, dropAbsent, dropAbsent, rearrange, rearrange, rearrangeItems_eq,
      rearrangeItems_eq, rearrangeItems_eq, dropAbsentItems_eq, dropAbsentItems_eq, List.map_map,
      List.map_map, List.map_map]
    exact congrArg _ (List.map_congr_left fun v hmem => ih v hmem (hv v hmem))
  | hobject members ih =>
    rw [distinctKeys_object] at hv
    rw [rearrange, dropAbsent, dropAbsent, rearrange, rearrange, rearrangeMembers_eq,
      rearrangeMembers_eq, rearrangeMembers_eq, dropAbsentMembers_eq, dropAbsentMembers_eq]
    -- the same members are kept, with their values in one order
    have hkept : ((b.arrange (members.map (Prod.map id (rearrange b)))).filter
        fun m => !m.2.isAbsent absent).Perm
          ((members.filter fun m => !m.2.isAbsent absent).map (Prod.map id (rearrange b))) := by
      refine ((b.perm _).filter _).trans (List.Perm.of_eq ?_)
      rw [List.filter_map]
      refine congrArg _ (List.filter_congr fun m _ => ?_)
      rw [Function.comp_apply, Prod.map_snd, isAbsent_rearrange]
    have hvalues : ((members.filter fun m => !m.2.isAbsent absent).map
        (Prod.map id (rearrange b))).map (Prod.map id (rearrange a) ∘ Prod.map id (dropAbsent absent))
          = (members.filter fun m => !m.2.isAbsent absent).map
            (Prod.map id (rearrange a) ∘ Prod.map id (dropAbsent absent)) := by
      rw [List.map_map]
      refine List.map_congr_left fun m hm => ?_
      have hmem := (List.mem_filter.mp hm).1
      exact Prod.ext rfl (ih m hmem (hv.2 m hmem))
    have hperm := hkept.map (Prod.map id (rearrange a) ∘ Prod.map id (dropAbsent absent))
    rw [hvalues] at hperm
    rw [List.map_map, List.map_map]
    refine congrArg _ (ha.arrange_eq hperm (hperm.symm.map Prod.fst |>.nodup_iff.mp ?_))
    rw [List.map_map]
    exact hv.1.sublist (List.filter_sublist.map _)

/-- A value without absent parts stays as it is. -/
theorem dropAbsent_eq_self (h : ∀ n ∈ v.numbers, absent n = false) : v.dropAbsent absent = v := by
  induction v using induct with
  | hnull => rfl
  | hbool b => rfl
  | hnumber n => rfl
  | hstring s => rfl
  | harray items ih =>
    rw [forall_numbers_array] at h
    rw [dropAbsent, dropAbsentItems_eq]
    exact congrArg _ ((List.map_congr_left fun v hv => ih v hv (h v hv)).trans (List.map_id' items))
  | hobject members ih =>
    rw [forall_numbers_object] at h
    rw [dropAbsent, dropAbsentMembers_eq]
    have hall : members.filter (fun m => !m.2.isAbsent absent) = members := by
      refine List.filter_eq_self.mpr fun m hm => ?_
      rw [Bool.not_eq_true']
      cases hvalue : m.2 with
      | number n => exact h m hm n (by rw [hvalue]; exact List.mem_singleton_self n)
      | _ => rfl
    rw [hall]
    refine congrArg _ ((List.map_congr_left fun m hm => ?_).trans (List.map_id' members))
    exact Prod.ext rfl (ih m hm (h m hm))

theorem DistinctKeys.dropAbsent (hv : v.DistinctKeys) : (v.dropAbsent absent).DistinctKeys := by
  induction v using induct with
  | hnull => exact hv
  | hbool b => exact hv
  | hnumber n => exact hv
  | hstring s => exact hv
  | harray items ih =>
    rw [distinctKeys_array] at hv
    rw [Json.dropAbsent, dropAbsentItems_eq, distinctKeys_array]
    intro dropped hdropped
    obtain ⟨v, hmem, rfl⟩ := List.mem_map.mp hdropped
    exact ih v hmem (hv v hmem)
  | hobject members ih =>
    rw [distinctKeys_object] at hv
    rw [Json.dropAbsent, dropAbsentMembers_eq, distinctKeys_object]
    constructor
    · rw [List.map_map]
      exact hv.1.sublist (List.filter_sublist.map _)
    · intro dropped hdropped
      obtain ⟨m, hm, rfl⟩ := List.mem_map.mp hdropped
      have hmem := (List.mem_filter.mp hm).1
      exact ih m hmem (hv.2 m hmem)

/-! ### Values over some numbers -/

/-- **A value over some numbers**: one number for another, as long as they stay. -/
theorem exists_mapNumbers {μ : Type w} {f : μ → ν} (h : ∀ n ∈ v.numbers, ∃ m, f m = n) :
    ∃ w : Json σ μ, w.mapNumbers f = v := by
  induction v using induct with
  | hnull => exact ⟨.null, rfl⟩
  | hbool b => exact ⟨.bool b, rfl⟩
  | hnumber n =>
    obtain ⟨m, rfl⟩ := h n (List.mem_singleton_self n)
    exact ⟨.number m, rfl⟩
  | hstring s => exact ⟨.string s, rfl⟩
  | harray items ih =>
    rw [forall_numbers_array] at h
    have hitems : items ∈ Set.range (List.map (mapNumbers f)) := by
      rw [Set.range_list_map]
      exact fun v hv => ih v hv (h v hv)
    obtain ⟨items', rfl⟩ := hitems
    exact ⟨.array items', by rw [mapNumbers, mapItems_eq]⟩
  | hobject members ih =>
    rw [forall_numbers_object] at h
    have hmembers : members ∈ Set.range (List.map (Prod.map (id : σ → σ) (mapNumbers f))) := by
      rw [Set.range_list_map]
      intro m hm
      obtain ⟨v, hv⟩ := ih m hm (h m hm)
      exact ⟨(m.1, v), Prod.ext rfl hv⟩
    obtain ⟨members', rfl⟩ := hmembers
    exact ⟨.object members', by rw [mapNumbers, mapMembers_eq]⟩

end Json

end QuadraA.Lib
