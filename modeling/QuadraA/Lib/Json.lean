import Mathlib.Data.List.Pairwise
import Mathlib.Data.List.Sort

/-!
# JSON values and their compact texts

A JSON value over any type of strings and any type of numbers, with the members of an object in an
order.

* `Json` — values, with `Json.induct`, an induction over the nesting;
* `decimal`, `quote` — the texts of integers and of strings.
-/

namespace QuadraA.Lib

universe u v w

inductive Json (σ : Type u) (ν : Type v) where
  | null
  | bool (value : Bool)
  | number (value : ν)
  | string (text : σ)
  | array (items : List (Json σ ν))
  | object (members : List (σ × Json σ ν))

namespace Json

variable {σ : Type u} {ν : Type v} {μ : Type w}

/-- **Induction over the nesting** of a value. -/
theorem induct {motive : Json σ ν → Prop} (hnull : motive .null) (hbool : ∀ b, motive (.bool b))
    (hnumber : ∀ n, motive (.number n)) (hstring : ∀ s, motive (.string s))
    (harray : ∀ items, (∀ v ∈ items, motive v) → motive (.array items))
    (hobject : ∀ members, (∀ m ∈ members, motive m.2) → motive (.object members)) :
    ∀ v, motive v := by
  refine @Json.rec σ ν motive (fun items => ∀ v ∈ items, motive v)
    (fun members => ∀ m ∈ members, motive m.2) (fun m => motive m.2) hnull hbool hnumber hstring
    harray hobject ?_ ?_ ?_ ?_ ?_
  · intro v hmem
    cases hmem
  · intro head tail hhead htail v hmem
    rcases List.mem_cons.mp hmem with rfl | hmem
    · exact hhead
    · exact htail v hmem
  · intro m hmem
    cases hmem
  · intro head tail hhead htail m hmem
    rcases List.mem_cons.mp hmem with rfl | hmem
    · exact hhead
    · exact htail m hmem
  · intro key value hvalue
    exact hvalue

/-! ### What is inside a value -/

mutual

/-- The numbers inside a value. -/
def numbers : Json σ ν → List ν
  | .number n => [n]
  | .array items => itemNumbers items
  | .object members => memberNumbers members
  | _ => []

def itemNumbers : List (Json σ ν) → List ν
  | [] => []
  | v :: items => v.numbers ++ itemNumbers items

def memberNumbers : List (σ × Json σ ν) → List ν
  | [] => []
  | (_, v) :: members => v.numbers ++ memberNumbers members

end

mutual

/-- The keys of each object inside a value. -/
def objectKeys : Json σ ν → List (List σ)
  | .array items => itemObjectKeys items
  | .object members => members.map Prod.fst :: memberObjectKeys members
  | _ => []

def itemObjectKeys : List (Json σ ν) → List (List σ)
  | [] => []
  | v :: items => v.objectKeys ++ itemObjectKeys items

def memberObjectKeys : List (σ × Json σ ν) → List (List σ)
  | [] => []
  | (_, v) :: members => v.objectKeys ++ memberObjectKeys members

end

mutual

/-- The same value over other numbers. -/
def mapNumbers (f : ν → μ) : Json σ ν → Json σ μ
  | .null => .null
  | .bool b => .bool b
  | .number n => .number (f n)
  | .string s => .string s
  | .array items => .array (mapItems f items)
  | .object members => .object (mapMembers f members)

def mapItems (f : ν → μ) : List (Json σ ν) → List (Json σ μ)
  | [] => []
  | v :: items => v.mapNumbers f :: mapItems f items

def mapMembers (f : ν → μ) : List (σ × Json σ ν) → List (σ × Json σ μ)
  | [] => []
  | (key, v) :: members => (key, v.mapNumbers f) :: mapMembers f members

end

theorem itemNumbers_eq (items : List (Json σ ν)) : itemNumbers items = items.flatMap numbers := by
  induction items with
  | nil => rfl
  | cons v items ih => rw [itemNumbers, ih, List.flatMap_cons]

theorem memberNumbers_eq (members : List (σ × Json σ ν)) :
    memberNumbers members = members.flatMap fun m => m.2.numbers := by
  induction members with
  | nil => rfl
  | cons m members ih => rw [memberNumbers, ih, List.flatMap_cons]

theorem itemObjectKeys_eq (items : List (Json σ ν)) :
    itemObjectKeys items = items.flatMap objectKeys := by
  induction items with
  | nil => rfl
  | cons v items ih => rw [itemObjectKeys, ih, List.flatMap_cons]

theorem memberObjectKeys_eq (members : List (σ × Json σ ν)) :
    memberObjectKeys members = members.flatMap fun m => m.2.objectKeys := by
  induction members with
  | nil => rfl
  | cons m members ih => rw [memberObjectKeys, ih, List.flatMap_cons]

theorem mapItems_eq (f : ν → μ) (items : List (Json σ ν)) :
    mapItems f items = items.map (mapNumbers f) := by
  induction items with
  | nil => rfl
  | cons v items ih => rw [mapItems, ih, List.map_cons]

theorem mapMembers_eq (f : ν → μ) (members : List (σ × Json σ ν)) :
    mapMembers f members = members.map (Prod.map id (mapNumbers f)) := by
  induction members with
  | nil => rfl
  | cons m members ih =>
    rw [mapMembers, ih, List.map_cons]
    rfl

variable {p : ν → Prop} {items : List (Json σ ν)} {members : List (σ × Json σ ν)}

/-- What holds of all that is inside an array holds inside its items. -/
theorem forall_numbers_array :
    (∀ n ∈ (Json.array items).numbers, p n) ↔ ∀ v ∈ items, ∀ n ∈ v.numbers, p n := by
  rw [numbers, itemNumbers_eq]
  simp only [List.mem_flatMap]
  exact ⟨fun h v hv n hn => h n ⟨v, hv, hn⟩, fun h n ⟨v, hv, hn⟩ => h v hv n hn⟩

theorem forall_numbers_object :
    (∀ n ∈ (Json.object members).numbers, p n) ↔ ∀ m ∈ members, ∀ n ∈ m.2.numbers, p n := by
  rw [numbers, memberNumbers_eq]
  simp only [List.mem_flatMap]
  exact ⟨fun h m hm n hn => h n ⟨m, hm, hn⟩, fun h n ⟨m, hm, hn⟩ => h m hm n hn⟩

theorem forall_objectKeys_array {p : List σ → Prop} :
    (∀ keys ∈ (Json.array items).objectKeys, p keys) ↔
      ∀ v ∈ items, ∀ keys ∈ v.objectKeys, p keys := by
  rw [objectKeys, itemObjectKeys_eq]
  simp only [List.mem_flatMap]
  exact ⟨fun h v hv n hn => h n ⟨v, hv, hn⟩, fun h n ⟨v, hv, hn⟩ => h v hv n hn⟩

theorem forall_objectKeys_object {p : List σ → Prop} :
    (∀ keys ∈ (Json.object members).objectKeys, p keys) ↔
      p (members.map Prod.fst) ∧ ∀ m ∈ members, ∀ keys ∈ m.2.objectKeys, p keys := by
  rw [objectKeys, memberObjectKeys_eq, List.forall_mem_cons]
  simp only [List.mem_flatMap]
  exact and_congr_right fun _ =>
    ⟨fun h m hm n hn => h n ⟨m, hm, hn⟩, fun h n ⟨m, hm, hn⟩ => h m hm n hn⟩

/-- Another kind of numbers changes no key. -/
theorem objectKeys_mapNumbers (f : ν → μ) (v : Json σ ν) :
    (v.mapNumbers f).objectKeys = v.objectKeys := by
  induction v using induct with
  | hnull => rfl
  | hbool b => rfl
  | hnumber n => rfl
  | hstring s => rfl
  | harray items ih =>
    rw [mapNumbers, objectKeys, objectKeys, mapItems_eq, itemObjectKeys_eq, itemObjectKeys_eq,
      List.flatMap_map]
    exact List.flatMap_congr ih
  | hobject members ih =>
    rw [mapNumbers, objectKeys, objectKeys, mapMembers_eq, memberObjectKeys_eq,
      memberObjectKeys_eq, List.flatMap_map, List.map_map]
    exact congrArg _ (List.flatMap_congr ih)

end Json

/-! ### Sorted lists -/

variable {α : Type} {l : List α} {n : ℕ} {c c' : Char} {rest rest' : List Char}

/-- Lists in two orders of the same distinct elements are equal if and only if the orders agree. -/
theorem eq_iff_orders_agree {R S : α → α → Prop} (hR : ∀ a b, R a b → ¬R b a)
    (hS : ∀ a b, S a b → ¬S b a) {m elements : List α} (hl : l.Perm elements) (hm : m.Perm elements)
    (hlR : l.Pairwise R) (hmS : m.Pairwise S) :
    l = m ↔ ∀ a ∈ elements, ∀ b ∈ elements, R a b ↔ S a b := by
  refine ⟨?_, fun hagree => ?_⟩
  · rintro rfl a ha b hb
    have hboth : l.Pairwise fun a b => R a b ∧ S a b := hlR.and hmS
    by_cases hab : a = b
    · rw [hab]
      exact iff_of_false (fun h => hR _ _ h h) fun h => hS _ _ h h
    · have heither : (R a b ∧ S a b) ∨ (R b a ∧ S b a) := by
        have : Std.Symm fun a b => (R a b ∧ S a b) ∨ (R b a ∧ S b a) := ⟨fun _ _ => Or.symm⟩
        have heach : l.Pairwise fun a b => (R a b ∧ S a b) ∨ (R b a ∧ S b a) := hboth.imp Or.inl
        exact heach.forall (hl.mem_iff.mpr ha) (hl.mem_iff.mpr hb) hab
      rcases heither with ⟨hr, hs⟩ | ⟨hr, hs⟩
      · exact iff_of_true hr hs
      · exact iff_of_false (hR _ _ hr) (hS _ _ hs)
  · have hmR : m.Pairwise R := hmS.imp_of_mem fun ha hb h =>
      (hagree _ (hm.mem_iff.mp ha) _ (hm.mem_iff.mp hb)).mpr h
    exact (hl.trans hm.symm).eq_of_pairwise (fun a b _ _ h h' => absurd h' (hR a b h)) hlR hmR

/-- **A sorted list of distinct elements** is in the strict order. -/
theorem pairwise_mergeSort {β : Type} [LinearOrder β] (f : α → β) {le : α → α → Bool}
    (hle : ∀ a b, le a b = true ↔ f a ≤ f b) (hnodup : (l.map f).Nodup) :
    (l.mergeSort le).Pairwise fun a b => f a < f b := by
  have hsorted : (l.mergeSort le).Pairwise fun a b => le a b = true := by
    refine List.pairwise_mergeSort (fun a b c hab hbc => ?_) (fun a b => ?_) l
    · rw [hle] at hab hbc ⊢
      exact hab.trans hbc
    · rw [Bool.or_eq_true, hle, hle]
      exact le_total _ _
  have hdistinct : (l.mergeSort le).Pairwise fun a b => f a ≠ f b :=
    List.pairwise_map.mp ((((List.mergeSort_perm l le).map f).nodup_iff).mpr hnodup)
  exact (hsorted.and hdistinct).imp fun ⟨hab, hne⟩ => lt_of_le_of_ne ((hle _ _).mp hab) hne

/-! ### Orders of the members -/

/-- **An order of the members of an object** that looks at the keys only. -/
structure Arrangement (σ : Type u) where
  arrange : {α : Type w} → List (σ × α) → List (σ × α)
  perm : ∀ {α : Type w} (members : List (σ × α)), (arrange members).Perm members
  natural : ∀ {α β : Type w} (f : α → β) (members : List (σ × α)),
    arrange (members.map (Prod.map id f)) = (arrange members).map (Prod.map id f)

namespace Arrangement

variable {σ : Type u}

/-- One order after another. -/
def andThen (a b : Arrangement.{u, w} σ) : Arrangement.{u, w} σ where
  arrange members := b.arrange (a.arrange members)
  perm members := (b.perm _).trans (a.perm members)
  natural f members := by rw [a.natural, b.natural]

/-- The order of the keys of an object. -/
def keys (a : Arrangement.{u, w} σ) (keys : List σ) : List σ :=
  (a.arrange (keys.map fun key => (key, PUnit.unit))).map Prod.fst

variable {α : Type w}

theorem map_fst_arrange (a : Arrangement.{u, w} σ) (members : List (σ × α)) :
    (a.arrange members).map Prod.fst = a.keys (members.map Prod.fst) := by
  have hnatural := a.natural (fun _ : α => PUnit.unit) members
  rw [keys, List.map_map]
  have hkeys : members.map (Prod.map id fun _ : α => PUnit.unit)
      = members.map ((fun key => (key, PUnit.unit)) ∘ Prod.fst) :=
    List.map_congr_left fun m _ => rfl
  rw [← hkeys, hnatural, List.map_map]
  rfl

theorem keys_perm (a : Arrangement.{u, w} σ) (keys : List σ) : (a.keys keys).Perm keys := by
  have hperm := (a.perm (keys.map fun key => (key, PUnit.unit))).map Prod.fst
  rw [List.map_map] at hperm
  exact hperm.trans (by rw [show Prod.fst ∘ (fun key : σ => (key, PUnit.unit)) = id from rfl,
    List.map_id])

theorem keys_andThen (a b : Arrangement.{u, w} σ) (keys : List σ) :
    (a.andThen b).keys keys = b.keys (a.keys keys) := by
  rw [Arrangement.keys, Arrangement.keys.eq_def a, ← map_fst_arrange]
  rfl

/-- Members with the keys in the same order are in the same order, when the keys are distinct. -/
theorem eq_of_map_fst {l r : List (σ × α)} (hperm : l.Perm r)
    (hkeys : l.map Prod.fst = r.map Prod.fst) (hnodup : (r.map Prod.fst).Nodup) : l = r := by
  refine List.ext_getElem hperm.length_eq fun i hl hr => ?_
  have hfst : l[i].1 = r[i].1 := by
    have hget := List.getElem_of_eq hkeys (by simpa using hl : i < (l.map Prod.fst).length)
    rwa [List.getElem_map, List.getElem_map] at hget
  exact List.inj_on_of_nodup_map hnodup (hperm.mem_iff.mp (List.getElem_mem hl))
    (List.getElem_mem hr) hfst

/-- Two orders put members in the same order if they do so with their keys. -/
theorem arrange_congr (a b : Arrangement.{u, w} σ) {members : List (σ × α)}
    (hnodup : (members.map Prod.fst).Nodup)
    (h : a.keys (members.map Prod.fst) = b.keys (members.map Prod.fst)) :
    a.arrange members = b.arrange members := by
  refine eq_of_map_fst ((a.perm members).trans (b.perm members).symm) ?_ ?_
  · rw [map_fst_arrange, map_fst_arrange, h]
  · exact ((b.perm members).map Prod.fst).nodup_iff.mpr hnodup

/-- The order of a comparison of the keys. -/
def sortBy (le : σ → σ → Bool) : Arrangement.{u, w} σ where
  arrange members := members.mergeSort fun m m' => le m.1 m'.1
  perm members := List.mergeSort_perm members _
  natural {α β} f members := by
    exact (@List.map_mergeSort (σ × α) (σ × β) (fun m m' => le m.1 m'.1) (fun m m' => le m.1 m'.1)
      (Prod.map id f) members fun _ _ _ _ => rfl).symm

theorem keys_sortBy (le : σ → σ → Bool) (keys : List σ) :
    (sortBy.{u, w} le).keys keys = keys.mergeSort le := by
  rw [Arrangement.keys, sortBy]
  have hsort := @List.map_mergeSort (σ × PUnit.{w + 1}) σ (fun m m' => le m.1 m'.1) le Prod.fst
    (keys.map fun key => (key, PUnit.unit)) fun _ _ _ _ => rfl
  refine hsort.trans ?_
  rw [List.map_map, show Prod.fst ∘ (fun key : σ => (key, PUnit.unit.{w + 1})) = id from rfl,
    List.map_id]

end Arrangement

namespace Json

variable {σ : Type u} {ν μ : Type v}

mutual

/-- The members of each object in another order. -/
def rearrange (a : Arrangement σ) : Json σ ν → Json σ ν
  | .array items => .array (rearrangeItems a items)
  | .object members => .object (a.arrange (rearrangeMembers a members))
  | .null => .null
  | .bool b => .bool b
  | .number n => .number n
  | .string s => .string s

def rearrangeItems (a : Arrangement σ) : List (Json σ ν) → List (Json σ ν)
  | [] => []
  | v :: items => v.rearrange a :: rearrangeItems a items

def rearrangeMembers (a : Arrangement σ) : List (σ × Json σ ν) → List (σ × Json σ ν)
  | [] => []
  | (key, v) :: members => (key, v.rearrange a) :: rearrangeMembers a members

end

theorem rearrangeItems_eq (a : Arrangement σ) (items : List (Json σ ν)) :
    rearrangeItems a items = items.map (rearrange a) := by
  induction items with
  | nil => rfl
  | cons v items ih => rw [rearrangeItems, ih, List.map_cons]

theorem rearrangeMembers_eq (a : Arrangement σ) (members : List (σ × Json σ ν)) :
    rearrangeMembers a members = members.map (Prod.map id (rearrange a)) := by
  induction members with
  | nil => rfl
  | cons m members ih =>
    rw [rearrangeMembers, ih, List.map_cons]
    rfl

/-- **Two orders one after another.** -/
theorem rearrange_rearrange (a b : Arrangement σ) (v : Json σ ν) :
    (v.rearrange a).rearrange b = v.rearrange (a.andThen b) := by
  induction v using induct with
  | hnull => rfl
  | hbool b => rfl
  | hnumber n => rfl
  | hstring s => rfl
  | harray items ih =>
    rw [rearrange, rearrange, rearrange, rearrangeItems_eq, rearrangeItems_eq, rearrangeItems_eq,
      List.map_map]
    exact congrArg _ (List.map_congr_left ih)
  | hobject members ih =>
    rw [rearrange, rearrange, rearrange, rearrangeMembers_eq, rearrangeMembers_eq,
      rearrangeMembers_eq, ← a.natural, List.map_map]
    refine congrArg _ (congrArg _ (congrArg _ (List.map_congr_left fun m hm => ?_)))
    exact Prod.ext rfl (ih m hm)

/-- The order of the members has nothing to do with the numbers. -/
theorem mapNumbers_rearrange (a : Arrangement σ) (f : ν → μ) (v : Json σ ν) :
    (v.rearrange a).mapNumbers f = (v.mapNumbers f).rearrange a := by
  induction v using induct with
  | hnull => rfl
  | hbool b => rfl
  | hnumber n => rfl
  | hstring s => rfl
  | harray items ih =>
    rw [rearrange, mapNumbers, mapNumbers, rearrange, rearrangeItems_eq, rearrangeItems_eq,
      mapItems_eq, mapItems_eq, List.map_map, List.map_map]
    exact congrArg _ (List.map_congr_left ih)
  | hobject members ih =>
    rw [rearrange, mapNumbers, mapNumbers, rearrange, rearrangeMembers_eq, rearrangeMembers_eq,
      mapMembers_eq, mapMembers_eq, ← a.natural, List.map_map, List.map_map]
    refine congrArg _ (congrArg _ (List.map_congr_left fun m hm => ?_))
    exact Prod.ext rfl (ih m hm)

variable {v : Json σ ν}

/-- What holds of the numbers holds of them in any order. -/
theorem forall_numbers_rearrange (a : Arrangement σ) {p : ν → Prop} (h : ∀ n ∈ v.numbers, p n) :
    ∀ n ∈ (v.rearrange a).numbers, p n := by
  induction v using induct with
  | hnull => exact h
  | hbool b => exact h
  | hnumber n => exact h
  | hstring s => exact h
  | harray items ih =>
    rw [forall_numbers_array] at h
    rw [rearrange, rearrangeItems_eq, forall_numbers_array]
    intro v hv
    obtain ⟨v, hmem, rfl⟩ := List.mem_map.mp hv
    exact ih v hmem (h v hmem)
  | hobject members ih =>
    rw [forall_numbers_object] at h
    rw [rearrange, rearrangeMembers_eq, forall_numbers_object]
    intro m hm
    obtain ⟨m, hmem, rfl⟩ := List.mem_map.mp ((a.perm _).mem_iff.mp hm)
    exact ih m hmem (h m hmem)

/-- **Two orders make the same value** of one whose objects have distinct keys if and only if they
agree on the keys of every object inside. -/
theorem rearrange_eq_iff (a b : Arrangement σ) (hnodup : ∀ keys ∈ v.objectKeys, keys.Nodup) :
    v.rearrange a = v.rearrange b ↔ ∀ keys ∈ v.objectKeys, a.keys keys = b.keys keys := by
  induction v using induct with
  | hnull => simp [rearrange, objectKeys]
  | hbool b => simp [rearrange, objectKeys]
  | hnumber n => simp [rearrange, objectKeys]
  | hstring s => simp [rearrange, objectKeys]
  | harray items ih =>
    rw [forall_objectKeys_array] at hnodup ⊢
    rw [rearrange, rearrange, rearrangeItems_eq, rearrangeItems_eq, array.injEq,
      List.map_inj_left]
    exact forall₂_congr fun v hv => ih v hv (hnodup v hv)
  | hobject members ih =>
    rw [forall_objectKeys_object] at hnodup ⊢
    rw [rearrange, rearrange, rearrangeMembers_eq, rearrangeMembers_eq, object.injEq]
    have hkeys : ∀ c : Arrangement σ, (members.map (Prod.map id (rearrange c))).map Prod.fst
        = members.map Prod.fst := by
      intro c
      rw [List.map_map]
      rfl
    refine ⟨fun heq => ⟨?_, fun m hm => ?_⟩, fun ⟨horder, hvalues⟩ => ?_⟩
    · have hfst := congrArg (List.map Prod.fst) heq
      rwa [Arrangement.map_fst_arrange, Arrangement.map_fst_arrange, hkeys a, hkeys b] at hfst
    · -- the member of that key on the other side is the same one
      have hmem := (a.perm _).mem_iff.mpr (List.mem_map_of_mem (f := Prod.map id (rearrange a)) hm)
      rw [heq, (b.perm _).mem_iff, List.mem_map] at hmem
      obtain ⟨m', hm', hsame⟩ := hmem
      have hfst := congrArg Prod.fst hsame
      have hkey : m'.1 = m.1 := hfst
      obtain rfl := List.inj_on_of_nodup_map hnodup.1 hm' hm hkey
      exact (ih m' hm (hnodup.2 m' hm)).mp (congrArg Prod.snd hsame).symm
    · have hsame : members.map (Prod.map id (rearrange a))
          = members.map (Prod.map id (rearrange b)) := by
        refine List.map_congr_left fun m hm => ?_
        exact Prod.ext rfl ((ih m hm (hnodup.2 m hm)).mpr (hvalues m hm))
      rw [hsame]
      refine Arrangement.arrange_congr a b ?_ ?_
      · rw [hkeys b]
        exact hnodup.1
      · rw [hkeys b]
        exact horder

end Json

/-! ### Compact texts -/

/-- The texts of the strings and of the numbers. -/
structure JsonTexts (σ : Type u) (ν : Type v) where
  string : σ → List Char
  number : ν → List Char

/-- What may stand behind a number. -/
def Delimited (rest : List Char) : Prop :=
  ∀ c ∈ rest.head?, c = ',' ∨ c = ']' ∨ c = '}'

/-- **Texts that can be told apart**: a string by its quotes, a number by what stands behind it. -/
structure JsonTexts.Unambiguous {σ : Type u} {ν : Type v} (texts : JsonTexts σ ν) : Prop where
  string_head : ∀ s, ∃ rest, texts.string s = '"' :: rest
  number_head : ∀ n, ∃ c rest, texts.number n = c :: rest ∧ (c = '-' ∨ c.isDigit = true)
  string : ∀ s s' rest rest', texts.string s ++ rest = texts.string s' ++ rest' →
    s = s' ∧ rest = rest'
  number : ∀ n n' rest rest', Delimited rest → Delimited rest' →
    texts.number n ++ rest = texts.number n' ++ rest' → n = n' ∧ rest = rest'

namespace Json

variable {σ : Type u} {ν μ : Type v}

mutual

/-- **The text without blanks.** -/
def compact (texts : JsonTexts σ ν) : Json σ ν → List Char
  | .null => ['n', 'u', 'l', 'l']
  | .bool true => ['t', 'r', 'u', 'e']
  | .bool false => ['f', 'a', 'l', 's', 'e']
  | .number n => texts.number n
  | .string s => texts.string s
  | .array items => '[' :: compactItems texts true items
  | .object members => '{' :: compactMembers texts true members

/-- The rest of an array, before its first item or behind another one. -/
def compactItems (texts : JsonTexts σ ν) (first : Bool) : List (Json σ ν) → List Char
  | [] => [']']
  | v :: items =>
      (if first then [] else [',']) ++ (v.compact texts ++ compactItems texts false items)

def compactMembers (texts : JsonTexts σ ν) (first : Bool) : List (σ × Json σ ν) → List Char
  | [] => ['}']
  | (key, v) :: members =>
      (if first then [] else [',']) ++ (texts.string key ++ ':' ::
        (v.compact texts ++ compactMembers texts false members))

end

/-- The kind of value that a character begins. -/
def headKind (c : Char) : ℕ :=
  if c = '-' ∨ c.isDigit = true then 2
  else if c = 'n' then 0
  else if c = 't' ∨ c = 'f' then 1
  else if c = '"' then 3
  else if c = '[' then 4
  else if c = '{' then 5
  else 6

def kind : Json σ ν → ℕ
  | .null => 0
  | .bool _ => 1
  | .number _ => 2
  | .string _ => 3
  | .array _ => 4
  | .object _ => 5

variable {texts : JsonTexts σ ν}

/-- **The first character of a text** tells the kind of the value. -/
theorem head_compact (htexts : texts.Unambiguous) (v : Json σ ν) :
    ∃ c rest, v.compact texts = c :: rest ∧ headKind c = v.kind := by
  cases v with
  | null => exact ⟨_, _, rfl, rfl⟩
  | bool b => cases b <;> exact ⟨_, _, rfl, rfl⟩
  | number n =>
    obtain ⟨c, rest, htext, hc⟩ := htexts.number_head n
    exact ⟨c, rest, htext, if_pos hc⟩
  | string s =>
    obtain ⟨rest, htext⟩ := htexts.string_head s
    exact ⟨_, rest, htext, rfl⟩
  | array items => exact ⟨_, _, rfl, rfl⟩
  | object members => exact ⟨_, _, rfl, rfl⟩

/-- No text begins with what ends or separates. -/
theorem compact_append_ne (htexts : texts.Unambiguous) (v : Json σ ν) {c : Char}
    (hc : headKind c = 6) (rest rest' : List Char) : v.compact texts ++ rest ≠ c :: rest' := by
  obtain ⟨head, tail, htext, hkind⟩ := head_compact htexts v
  intro heq
  rw [htext, List.cons_append] at heq
  rw [(List.cons.inj heq).1, hc] at hkind
  cases v <;> cases hkind

variable {v v' : Json σ ν}

/-- Texts that agree up to what follows are of values of one kind. -/
theorem kind_eq (htexts : texts.Unambiguous) {rest rest' : List Char}
    (h : v.compact texts ++ rest = v'.compact texts ++ rest') : v.kind = v'.kind := by
  obtain ⟨c, tail, htext, hkind⟩ := head_compact htexts v
  obtain ⟨c', tail', htext', hkind'⟩ := head_compact htexts v'
  rw [htext, htext', List.cons_append, List.cons_append] at h
  rw [← hkind, ← hkind', (List.cons.inj h).1]

theorem delimited_compactItems (items : List (Json σ ν)) (rest : List Char) :
    Delimited (compactItems texts false items ++ rest) := by
  intro c hc
  cases items with
  | nil =>
    cases hc
    exact Or.inr (Or.inl rfl)
  | cons v items =>
    cases hc
    exact Or.inl rfl

theorem delimited_compactMembers (members : List (σ × Json σ ν)) (rest : List Char) :
    Delimited (compactMembers texts false members ++ rest) := by
  intro c hc
  cases members with
  | nil =>
    cases hc
    exact Or.inr (Or.inr rfl)
  | cons v members =>
    cases hc
    exact Or.inl rfl

/-- A value whose text can be told from the texts of others, up to what follows. -/
def Told (texts : JsonTexts σ ν) (v : Json σ ν) : Prop :=
  ∀ v' rest rest', Delimited rest → Delimited rest' →
    v.compact texts ++ rest = v'.compact texts ++ rest' → v = v' ∧ rest = rest'

theorem compactItems_inj (htexts : texts.Unambiguous) {items : List (Json σ ν)}
    (htold : ∀ v ∈ items, Told texts v) (first : Bool) (items' : List (Json σ ν))
    (rest rest' : List Char)
    (h : compactItems texts first items ++ rest = compactItems texts first items' ++ rest') :
    items = items' ∧ rest = rest' := by
  induction items generalizing first items' with
  | nil =>
    cases items' with
    | nil => exact ⟨rfl, (List.cons.inj h).2⟩
    | cons v' items' =>
      cases first with
      | true =>
        rw [compactItems, compactItems, if_pos rfl, List.nil_append, List.append_assoc] at h
        exact absurd h.symm (compact_append_ne htexts v' rfl _ _)
      | false => cases (List.cons.inj h).1
  | cons v items ih =>
    cases items' with
    | nil =>
      cases first with
      | true =>
        rw [compactItems, compactItems, if_pos rfl, List.nil_append, List.append_assoc] at h
        exact absurd h (compact_append_ne htexts v rfl _ _)
      | false => cases (List.cons.inj h).1
    | cons v' items' =>
      simp only [compactItems, List.append_assoc, List.append_cancel_left_eq] at h
      obtain ⟨rfl, hrest⟩ := htold v (List.mem_cons_self ..) v' _ _
        (delimited_compactItems items rest) (delimited_compactItems items' rest') h
      obtain ⟨rfl, hend⟩ := ih (fun v hv => htold v (List.mem_cons_of_mem _ hv)) false items' hrest
      exact ⟨rfl, hend⟩

theorem compactMembers_inj (htexts : texts.Unambiguous) {members : List (σ × Json σ ν)}
    (htold : ∀ m ∈ members, Told texts m.2) (first : Bool) (members' : List (σ × Json σ ν))
    (rest rest' : List Char)
    (h : compactMembers texts first members ++ rest
      = compactMembers texts first members' ++ rest') :
    members = members' ∧ rest = rest' := by
  induction members generalizing first members' with
  | nil =>
    cases members' with
    | nil => exact ⟨rfl, (List.cons.inj h).2⟩
    | cons m' members' =>
      cases first with
      | true =>
        obtain ⟨tail, htail⟩ := htexts.string_head m'.1
        rw [compactMembers, compactMembers, htail] at h
        cases (List.cons.inj h).1
      | false => cases (List.cons.inj h).1
  | cons m members ih =>
    cases members' with
    | nil =>
      cases first with
      | true =>
        obtain ⟨tail, htail⟩ := htexts.string_head m.1
        rw [compactMembers, compactMembers, htail] at h
        cases (List.cons.inj h).1
      | false => cases (List.cons.inj h).1
    | cons m' members' =>
      simp only [compactMembers, List.append_assoc, List.append_cancel_left_eq,
        List.cons_append] at h
      obtain ⟨hkey, hvalue⟩ := htexts.string _ _ _ _ h
      obtain ⟨hsame, hrest⟩ := htold m (List.mem_cons_self ..) m'.2 _ _
        (delimited_compactMembers members rest) (delimited_compactMembers members' rest')
        (List.cons.inj hvalue).2
      obtain ⟨rfl, hend⟩ := ih (fun m hm => htold m (List.mem_cons_of_mem _ hm)) false members'
        hrest
      rw [Prod.ext hkey hsame]
      exact ⟨rfl, hend⟩

/-- **Every text can be told** from the texts of other values. -/
theorem told (htexts : texts.Unambiguous) (v : Json σ ν) : Told texts v := by
  induction v using induct with
  | hnull =>
    intro v' rest rest' _ _ heq
    cases v' with
    | null => exact ⟨rfl, List.append_cancel_left heq⟩
    | _ => cases kind_eq htexts heq
  | hbool b =>
    intro v' rest rest' _ _ heq
    cases v' with
    | bool b' =>
      cases b with
      | true =>
        cases b' with
        | true => exact ⟨rfl, List.append_cancel_left heq⟩
        | false => cases (List.cons.inj heq).1
      | false =>
        cases b' with
        | true => cases (List.cons.inj heq).1
        | false => exact ⟨rfl, List.append_cancel_left heq⟩
    | _ => cases kind_eq htexts heq
  | hnumber n =>
    intro v' rest rest' hrest hrest' heq
    cases v' with
    | number n' =>
      obtain ⟨rfl, hsame⟩ := htexts.number n n' rest rest' hrest hrest' heq
      exact ⟨rfl, hsame⟩
    | _ => cases kind_eq htexts heq
  | hstring s =>
    intro v' rest rest' _ _ heq
    cases v' with
    | string s' =>
      obtain ⟨rfl, hsame⟩ := htexts.string s s' rest rest' heq
      exact ⟨rfl, hsame⟩
    | _ => cases kind_eq htexts heq
  | harray items ih =>
    intro v' rest rest' _ _ heq
    cases v' with
    | array items' =>
      obtain ⟨rfl, hsame⟩ := compactItems_inj htexts ih true items' rest rest'
        (List.cons.inj heq).2
      exact ⟨rfl, hsame⟩
    | _ => cases kind_eq htexts heq
  | hobject members ih =>
    intro v' rest rest' _ _ heq
    cases v' with
    | object members' =>
      obtain ⟨rfl, hsame⟩ := compactMembers_inj htexts ih true members' rest rest'
        (List.cons.inj heq).2
      exact ⟨rfl, hsame⟩
    | _ => cases kind_eq htexts heq

/-- **The compact text of a value is that of no other.** -/
theorem compact_injective (htexts : texts.Unambiguous) (h : v.compact texts = v'.compact texts) :
    v = v' := by
  have hnone : Delimited [] := fun c hc => by cases hc
  refine (told htexts v v' [] [] hnone hnone ?_).1
  rw [h]

/-- **A text reads the numbers only one by one.** -/
theorem compact_mapNumbers {texts' : JsonTexts σ μ} {f : ν → μ}
    (hstring : texts'.string = texts.string)
    (hnumber : ∀ n ∈ v.numbers, texts'.number (f n) = texts.number n) :
    (v.mapNumbers f).compact texts' = v.compact texts := by
  induction v using induct with
  | hnull => rfl
  | hbool b => cases b <;> rfl
  | hnumber n => exact hnumber n (List.mem_singleton_self n)
  | hstring s => exact congrFun hstring s
  | harray items ih =>
    rw [forall_numbers_array] at hnumber
    rw [mapNumbers, mapItems_eq, compact, compact]
    have hitems : ∀ first, compactItems texts' first (items.map (mapNumbers f))
        = compactItems texts first items := by
      induction items with
      | nil => intro first; rfl
      | cons v items hrest =>
        intro first
        rw [List.map_cons, compactItems, compactItems,
          ih v (List.mem_cons_self ..) (hnumber v (List.mem_cons_self ..)),
          hrest (fun v hv => ih v (List.mem_cons_of_mem _ hv))
            (fun v hv => hnumber v (List.mem_cons_of_mem _ hv))]
    rw [hitems]
  | hobject members ih =>
    rw [forall_numbers_object] at hnumber
    rw [mapNumbers, mapMembers_eq, compact, compact]
    have hmembers : ∀ first, compactMembers texts' first (members.map (Prod.map id (mapNumbers f)))
        = compactMembers texts first members := by
      induction members with
      | nil => intro first; rfl
      | cons m members hrest =>
        intro first
        rw [List.map_cons, compactMembers.eq_def, compactMembers.eq_def texts]
        dsimp only [Prod.map]
        rw [ih m (List.mem_cons_self ..) (hnumber m (List.mem_cons_self ..)), hstring,
          hrest (fun m hm => ih m (List.mem_cons_of_mem _ hm))
            (fun m hm => hnumber m (List.mem_cons_of_mem _ hm))]
        rfl
    rw [hmembers]

end Json

/-! ### The texts of integers and of strings -/

/-- The decimal digits of an integer. -/
def decimal : ℤ → List Char
  | .ofNat n => Nat.toDigits 10 n
  | .negSucc n => '-' :: Nat.toDigits 10 (n + 1)

/-- A character in quotes; what is below a blank, a quote and a backslash are escaped. -/
def escapeChar (c : Char) : List Char :=
  if c = '"' then ['\\', '"']
  else if c = '\\' then ['\\', '\\']
  else if c = '\x08' then ['\\', 'b']
  else if c = '\x0c' then ['\\', 'f']
  else if c = '\n' then ['\\', 'n']
  else if c = '\r' then ['\\', 'r']
  else if c = '\t' then ['\\', 't']
  else if c.toNat < 32 then
    ['\\', 'u', '0', '0', Nat.digitChar (c.toNat / 16), Nat.digitChar (c.toNat % 16)]
  else [c]

/-- The text of a string. -/
def quote (s : String) : List Char := '"' :: (s.toList.flatMap escapeChar ++ ['"'])

example : quote "a\"b\n\x01" = "\"a\\\"b\\n\\u0001\"".toList := by decide

theorem isDigit_of_mem_decimal (h : c ∈ Nat.toDigits 10 n) : c.isDigit = true :=
  Nat.isDigit_of_mem_toDigits (by decide) (by decide) h

theorem takeWhile_isDigit {digits : List Char} (hdigits : ∀ c ∈ digits, c.isDigit = true)
    (hrest : Delimited rest) : (digits ++ rest).takeWhile Char.isDigit = digits := by
  rw [List.takeWhile_append_of_pos hdigits]
  cases rest with
  | nil => exact List.append_nil digits
  | cons c rest =>
    have hc : c.isDigit = false := by
      rcases hrest c rfl with rfl | rfl | rfl <;> rfl
    rw [List.takeWhile_cons_of_neg (by rw [hc]; exact Bool.false_ne_true), List.append_nil]

/-- The digits of a number end where no digit follows. -/
theorem toDigits_append_inj {n' : ℕ} (hrest : Delimited rest) (hrest' : Delimited rest')
    (h : Nat.toDigits 10 n ++ rest = Nat.toDigits 10 n' ++ rest') : n = n' ∧ rest = rest' := by
  have hdigits := congrArg (List.takeWhile Char.isDigit) h
  rw [takeWhile_isDigit (fun _ => isDigit_of_mem_decimal) hrest,
    takeWhile_isDigit (fun _ => isDigit_of_mem_decimal) hrest'] at hdigits
  rw [hdigits] at h
  refine ⟨?_, List.append_cancel_left h⟩
  rw [← Nat.ofDigitChars_ten_toDigits (n := n), hdigits, Nat.ofDigitChars_ten_toDigits]

theorem head_toDigits (n : ℕ) :
    ∃ c rest, Nat.toDigits 10 n = c :: rest ∧ c.isDigit = true := by
  cases h : Nat.toDigits 10 n with
  | nil => exact absurd h Nat.toDigits_ne_nil
  | cons c rest => exact ⟨c, rest, rfl, isDigit_of_mem_decimal (h ▸ List.mem_cons_self ..)⟩

/-- A number with a sign is not one without. -/
theorem toDigits_append_ne (n : ℕ) (rest rest' : List Char) :
    Nat.toDigits 10 n ++ rest ≠ '-' :: rest' := by
  obtain ⟨c, digits, hdigits, hc⟩ := head_toDigits n
  intro h
  rw [hdigits, List.cons_append] at h
  rw [(List.cons.inj h).1] at hc
  cases hc

theorem decimal_append_inj (n n' : ℤ) (rest rest' : List Char) (hrest : Delimited rest)
    (hrest' : Delimited rest') (h : decimal n ++ rest = decimal n' ++ rest') :
    n = n' ∧ rest = rest' := by
  cases n with
  | ofNat n =>
    cases n' with
    | ofNat n' =>
      obtain ⟨rfl, hsame⟩ := toDigits_append_inj hrest hrest' h
      exact ⟨rfl, hsame⟩
    | negSucc n' => exact absurd h (toDigits_append_ne n _ _)
  | negSucc n =>
    cases n' with
    | ofNat n' => exact absurd h.symm (toDigits_append_ne n' _ _)
    | negSucc n' =>
      obtain ⟨hsucc, hsame⟩ := toDigits_append_inj hrest hrest' (List.cons.inj h).2
      obtain rfl := Nat.succ.inj hsucc
      exact ⟨rfl, hsame⟩

/-- The characters that are escaped. -/
def escapedChars : List Char := '"' :: '\\' :: (List.range 32).map Char.ofNat

/-- **No escape begins another one.** -/
theorem escapes_apart :
    ∀ c ∈ escapedChars, ∀ c' ∈ escapedChars, escapeChar c <+: escapeChar c' → c = c' := by
  have hall : (escapedChars.all fun c => escapedChars.all fun c' =>
      !(escapeChar c).isPrefixOf (escapeChar c') || c == c') = true := by
    decide +kernel
  intro c hc c' hc' hpre
  have happart := List.all_eq_true.mp (List.all_eq_true.mp hall c hc) c' hc'
  rw [List.isPrefixOf_iff_prefix.mpr hpre] at happart
  exact beq_iff_eq.mp happart

theorem head_escape : ∀ c ∈ escapedChars, (escapeChar c).head? = some '\\' := by
  have hall : (escapedChars.all fun c => (escapeChar c).head? == some '\\') = true := by
    decide +kernel
  intro c hc
  exact beq_iff_eq.mp (List.all_eq_true.mp hall c hc)

theorem escapeChar_of_mem (h : c ∈ escapedChars) : ∃ tail, escapeChar c = '\\' :: tail :=
  List.head?_eq_some_iff.mp (head_escape c h)

/-- A character is escaped or stands for itself. -/
theorem escapeChar_cases (c : Char) :
    c ∈ escapedChars ∨ escapeChar c = [c] ∧ c ≠ '"' ∧ c ≠ '\\' := by
  by_cases hquote : c = '"'
  · exact Or.inl (by rw [hquote]; decide)
  by_cases hbackslash : c = '\\'
  · exact Or.inl (by rw [hbackslash]; decide)
  by_cases hlow : c.toNat < 32
  · refine Or.inl (List.mem_cons_of_mem _ (List.mem_cons_of_mem _ (List.mem_map.mpr ?_)))
    exact ⟨c.toNat, List.mem_range.mpr hlow, Char.ofNat_toNat c⟩
  · have hne : ∀ d : Char, d.toNat < 32 → c ≠ d := fun d hd heq => hlow (heq ▸ hd)
    refine Or.inr ⟨?_, hquote, hbackslash⟩
    rw [escapeChar, if_neg hquote, if_neg hbackslash, if_neg (hne _ (by decide)),
      if_neg (hne _ (by decide)), if_neg (hne _ (by decide)), if_neg (hne _ (by decide)),
      if_neg (hne _ (by decide)), if_neg hlow]

theorem eq_of_escape (h : escapeChar c <+: escapeChar c') : c = c' := by
  rcases escapeChar_cases c with hc | ⟨hc, _, hne⟩
  · rcases escapeChar_cases c' with hc' | ⟨hc', _, hne'⟩
    · exact escapes_apart c hc c' hc' h
    · obtain ⟨tail, htail⟩ := escapeChar_of_mem hc
      obtain ⟨rest, hrest⟩ := h
      rw [htail, hc'] at hrest
      exact absurd (List.cons.inj hrest).1.symm hne'
  · rw [hc] at h
    rcases escapeChar_cases c' with hc' | ⟨hc', _, _⟩
    · obtain ⟨tail, htail⟩ := escapeChar_of_mem hc'
      obtain ⟨rest, hrest⟩ := h
      rw [htail] at hrest
      exact absurd (List.cons.inj hrest).1 hne
    · rw [hc'] at h
      obtain ⟨tail, htail⟩ := h
      exact (List.cons.inj htail).1

theorem escapeChar_append_inj (h : escapeChar c ++ rest = escapeChar c' ++ rest') :
    c = c' ∧ rest = rest' := by
  have hsame : c = c' := by
    have hleft : escapeChar c <+: escapeChar c' ++ rest' := ⟨rest, h⟩
    rcases List.prefix_or_prefix_of_prefix hleft (List.prefix_append _ _) with hp | hp
    · exact eq_of_escape hp
    · exact (eq_of_escape hp).symm
  rw [hsame] at h
  exact ⟨hsame, List.append_cancel_left h⟩

/-- No escape looks like the end of the string. -/
theorem escapeChar_append_ne (c : Char) (rest rest' : List Char) :
    escapeChar c ++ rest ≠ '"' :: rest' := by
  intro h
  rcases escapeChar_cases c with hc | ⟨hc, hne, _⟩
  · obtain ⟨tail, htail⟩ := escapeChar_of_mem hc
    rw [htail] at h
    cases (List.cons.inj h).1
  · rw [hc] at h
    exact hne (List.cons.inj h).1

theorem escapes_append_inj (l l' : List Char)
    (h : l.flatMap escapeChar ++ '"' :: rest = l'.flatMap escapeChar ++ '"' :: rest') :
    l = l' ∧ rest = rest' := by
  induction l generalizing l' with
  | nil =>
    cases l' with
    | nil => exact ⟨rfl, (List.cons.inj h).2⟩
    | cons c' l' =>
      rw [List.flatMap_cons, List.append_assoc] at h
      exact absurd h.symm (escapeChar_append_ne c' _ _)
  | cons c l ih =>
    cases l' with
    | nil =>
      rw [List.flatMap_cons, List.append_assoc] at h
      exact absurd h (escapeChar_append_ne c _ _)
    | cons c' l' =>
      rw [List.flatMap_cons, List.flatMap_cons, List.append_assoc, List.append_assoc] at h
      obtain ⟨rfl, hrest⟩ := escapeChar_append_inj h
      obtain ⟨rfl, hend⟩ := ih l' hrest
      exact ⟨rfl, hend⟩

/-- The texts of JSON for strings and integers. -/
def integerTexts : JsonTexts String ℤ := ⟨quote, decimal⟩

/-- **They can be told apart.** -/
theorem unambiguous_integerTexts : integerTexts.Unambiguous := by
  refine ⟨fun s => ⟨_, rfl⟩, fun n => ?_, fun s s' rest rest' h => ?_, decimal_append_inj⟩
  · cases n with
    | ofNat n =>
      obtain ⟨c, rest, htext, hc⟩ := head_toDigits n
      exact ⟨c, rest, htext, Or.inr hc⟩
    | negSucc n => exact ⟨_, _, rfl, Or.inl rfl⟩
  · have hescapes : s.toList.flatMap escapeChar ++ ['"'] ++ rest
        = s'.toList.flatMap escapeChar ++ ['"'] ++ rest' := (List.cons.inj h).2
    rw [List.append_assoc, List.append_assoc] at hescapes
    obtain ⟨hsame, hrest⟩ := escapes_append_inj s.toList s'.toList hescapes
    exact ⟨String.toList_inj.mp hsame, hrest⟩

end QuadraA.Lib
