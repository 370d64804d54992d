import QuadraA.Lib.Binary64
import QuadraA.Lib.Cbor

/-!
# The heads of concise binary objects

A data item of RFC 8949 as its heads, one behind the other: what stands in the bytes before it is
known where an array or a map ends.

* `CborToken`, `CborItem.tokens` — heads with their contents, and those of an item;
* `readsTokens_readCbor` — a parser, from a reader of heads.
-/

namespace QuadraA.Lib

/-- **A head**, with the contents that stand behind it. -/
inductive CborToken where
  | integer (value : ℤ)
  | bytes (value : List UInt8)
  | text (value : String)
  | array (count : ℕ)
  | map (count : ℕ)
  | tag (number : ℕ)
  | bool (value : Bool)
  | null
  | float (value : JsNumber)
deriving DecidableEq

mutual

/-- **The heads of an item**, from the outside. -/
def CborItem.tokens : CborItem → List CborToken
  | .integer n => [.integer n]
  | .bytes value => [.bytes value]
  | .text value => [.text value]
  | .array items => .array items.length :: itemsTokens items
  | .map entries => .map entries.length :: entriesTokens entries
  | .tag number item => .tag number :: item.tokens
  | .bool value => [.bool value]
  | .null => [.null]
  | .float x => [.float x]

def itemsTokens : List CborItem → List CborToken
  | [] => []
  | item :: items => item.tokens ++ itemsTokens items

def entriesTokens : List (CborItem × CborItem) → List CborToken
  | [] => []
  | (key, value) :: entries => key.tokens ++ (value.tokens ++ entriesTokens entries)

end

/-! ### The bytes of heads -/

/-- **The bytes of a head**, in any width. The numbers of big tags are left out, and doubles are the
only floats. -/
def CborToken.Writes : CborToken → List UInt8 → Prop
  | .integer n, out => if 0 ≤ n then Head 0 n.toNat out else Head 1 (-1 - n).toNat out
  | .bytes value, out => ∃ head, Head 2 value.length head ∧ out = head ++ value
  | .text value, out =>
      ∃ head, Head 3 (textBytes value).length head ∧ out = head ++ textBytes value
  | .array count, out => Head 4 count out
  | .map count, out => Head 5 count out
  | .tag number, out => (number ≠ 2 ∧ number ≠ 3) ∧ Head 6 number out
  | .bool value, out => out = [initialByte 7 (if value then 21 else 20)]
  | .null, out => out = [initialByte 7 22]
  | .float x, out => ∃ bits, bits < 2 ^ 64 ∧ JsNumber.ofBits bits = x ∧
      out = initialByte 7 27 :: bigEndian 8 bits

def WritesAll : List CborToken → List UInt8 → Prop
  | [], bytes => bytes = []
  | t :: tokens, bytes =>
      ∃ first rest, t.Writes first ∧ WritesAll tokens rest ∧ bytes = first ++ rest

/-- **A parser of RFC 8949**, on what is written with definite lengths: it returns an item exactly
where the bytes begin with its heads, if it has room for the nesting of the item. -/
def ReadsTokens (parse : List UInt8 → Option CborItem) (nests : CborItem → Prop) : Prop :=
  ∀ tokens bytes, WritesAll tokens bytes →
    ∀ item, parse bytes = some item ↔ nests item ∧ ∃ rest, tokens = item.tokens ++ rest

variable {tokens tokens' rest : List CborToken} {bytes bytes' : List UInt8}

theorem writesAll_append (h : WritesAll tokens bytes) (h' : WritesAll tokens' bytes') :
    WritesAll (tokens ++ tokens') (bytes ++ bytes') := by
  induction tokens generalizing bytes with
  | nil =>
    rw [WritesAll] at h
    rw [h]
    exact h'
  | cons t tokens ih =>
    obtain ⟨first, behind, hfirst, hbehind, rfl⟩ := h
    exact ⟨first, behind ++ bytes', hfirst, ih hbehind, List.append_assoc ..⟩

variable {t : CborToken} {items : List CborItem} {entries : List (CborItem × CborItem)} {count : ℕ}

theorem writesAll_single (h : t.Writes bytes) : WritesAll [t] bytes :=
  ⟨bytes, [], h, rfl, (List.append_nil _).symm⟩

/-! ### A reader of heads -/

def readToken (bytes : List UInt8) : Option (CborToken × List UInt8) :=
  if bytes.head? = some (initialByte 7 27) then
    (splitBytes 8 bytes.tail).map fun split =>
      (.float (JsNumber.ofBits (bigEndianValue split.1)), split.2)
  else
    match readHead bytes with
    | none => none
    | some (0, argument, rest) => some (.integer argument, rest)
    | some (1, argument, rest) => some (.integer (-1 - argument), rest)
    | some (2, argument, rest) =>
        (splitBytes argument rest).map fun split => (.bytes split.1, split.2)
    | some (3, argument, rest) =>
        (splitBytes argument rest).bind fun split =>
          (String.fromUTF8? ⟨split.1.toArray⟩).map fun text => (.text text, split.2)
    | some (4, argument, rest) => some (.array argument, rest)
    | some (5, argument, rest) => some (.map argument, rest)
    | some (6, argument, rest) => some (.tag argument, rest)
    | some (7, 20, rest) => some (.bool false, rest)
    | some (7, 21, rest) => some (.bool true, rest)
    | some (7, 22, rest) => some (.null, rest)
    | some _ => none

/-- The heads that bytes begin with, up to a number of them. -/
def readTokens : ℕ → List UInt8 → List CborToken
  | 0, _ => []
  | limit + 1, bytes =>
      match readToken bytes with
      | none => []
      | some (t, rest) => t :: readTokens limit rest

/-- A head of a major type below 7 does not begin as a double does. -/
theorem head?_of_head {major argument : ℕ} (hmajor : major < 7) (h : Head major argument bytes)
    (rest : List UInt8) : (bytes ++ rest).head? ≠ some (initialByte 7 27) := by
  have hne {info : ℕ} (hinfo : info < 32) : initialByte major info ≠ initialByte 7 27 := by
    intro hsame
    have hvalue := congrArg UInt8.toNat hsame
    rw [initialByte_toNat (by omega) hinfo, initialByte_toNat (by decide) (by decide)] at hvalue
    omega
  cases h with
  | inside hargument => exact fun hhead => hne (by omega) (Option.some.inj hhead)
  | behind size hsize _ => exact fun hhead => hne (by omega) (Option.some.inj hhead)

/-- **A head is read from its bytes**, and the bytes behind it are left. -/
theorem readToken_of_writes (h : t.Writes bytes) (rest : List UInt8) :
    readToken (bytes ++ rest) = some (t, rest) := by
  have hread {major argument : ℕ} {head : List UInt8} (hmajor : major < 7)
      (hhead : Head major argument head) (behind : List UInt8) :
      (head ++ behind).head? ≠ some (initialByte 7 27) ∧
        readHead (head ++ behind) = some (major, argument, behind) :=
    ⟨head?_of_head hmajor hhead behind, readHead_of_head (by omega) hhead behind⟩
  cases t with
  | integer n =>
    rw [CborToken.Writes] at h
    split at h
    · rename_i hnonneg
      obtain ⟨hfirst, hhead⟩ := hread (by decide) h rest
      rw [readToken, if_neg hfirst, hhead]
      simp only [Int.toNat_of_nonneg hnonneg]
    · rename_i hnegative
      obtain ⟨hfirst, hhead⟩ := hread (by decide) h rest
      rw [readToken, if_neg hfirst, hhead]
      simp only [Int.toNat_of_nonneg (show 0 ≤ -1 - n by omega), sub_sub_cancel]
  | bytes value =>
    obtain ⟨head, hhead, rfl⟩ := h
    rw [List.append_assoc]
    obtain ⟨hfirst, hhead⟩ := hread (by decide) hhead (value ++ rest)
    rw [readToken, if_neg hfirst, hhead]
    simp only [splitBytes_append, Option.map_some]
  | text value =>
    obtain ⟨head, hhead, rfl⟩ := h
    rw [List.append_assoc]
    obtain ⟨hfirst, hhead⟩ := hread (by decide) hhead (textBytes value ++ rest)
    rw [readToken, if_neg hfirst, hhead]
    simp only [splitBytes_append, Option.bind_some, fromUTF8?_textBytes, Option.map_some]
  | array count =>
    rw [CborToken.Writes] at h
    obtain ⟨hfirst, hhead⟩ := hread (by decide) h rest
    rw [readToken, if_neg hfirst, hhead]
    rfl
  | map count =>
    rw [CborToken.Writes] at h
    obtain ⟨hfirst, hhead⟩ := hread (by decide) h rest
    rw [readToken, if_neg hfirst, hhead]
    rfl
  | tag number =>
    rw [CborToken.Writes] at h
    obtain ⟨hfirst, hhead⟩ := hread (by decide) h.2 rest
    rw [readToken, if_neg hfirst, hhead]
    rfl
  | bool value =>
    rw [CborToken.Writes] at h
    subst h
    cases value <;> rfl
  | null =>
    rw [CborToken.Writes] at h
    subst h
    rfl
  | float x =>
    obtain ⟨bits, hbits, rfl, rfl⟩ := h
    have hsplit : splitBytes 8 (bigEndian 8 bits ++ rest) = some (bigEndian 8 bits, rest) := by
      have happend := splitBytes_append (bigEndian 8 bits) rest
      rw [length_bigEndian] at happend
      exact happend
    have hhead : (initialByte 7 27 :: bigEndian 8 bits ++ rest).head?
        = some (initialByte 7 27) := rfl
    rw [readToken, if_pos hhead, List.cons_append, List.tail_cons, hsplit, Option.map_some,
      bigEndianValue_bigEndian (by omega)]

theorem ne_nil_of_writes (h : t.Writes bytes) : bytes ≠ [] := by
  rintro rfl
  have hread := readToken_of_writes h []
  rw [List.append_nil] at hread
  cases hread

theorem length_le_of_writesAll (h : WritesAll tokens bytes) : tokens.length ≤ bytes.length := by
  induction tokens generalizing bytes with
  | nil => exact Nat.zero_le _
  | cons t tokens ih =>
    obtain ⟨first, behind, hfirst, hbehind, rfl⟩ := h
    have hpos := List.length_pos_iff.mpr (ne_nil_of_writes hfirst)
    have hrest := ih hbehind
    rw [List.length_cons, List.length_append]
    omega

/-- **The heads are read from their bytes.** -/
theorem readTokens_of_writesAll {limit : ℕ} (h : WritesAll tokens bytes)
    (hlimit : tokens.length ≤ limit) : readTokens limit bytes = tokens := by
  induction tokens generalizing bytes limit with
  | nil =>
    rw [WritesAll] at h
    subst h
    cases limit <;> rfl
  | cons t tokens ih =>
    obtain ⟨first, behind, hfirst, hbehind, rfl⟩ := h
    rw [List.length_cons] at hlimit
    obtain ⟨limit, rfl⟩ := Nat.exists_eq_add_of_le' ((Nat.le_add_left 1 _).trans hlimit)
    rw [readTokens, readToken_of_writes hfirst]
    show t :: readTokens limit behind = _
    rw [ih hbehind (Nat.le_of_add_le_add_right hlimit)]

/-! ### The item of heads -/

/-- `count` items, one behind the other. -/
def takeItems (take : List CborToken → Option (CborItem × List CborToken)) :
    ℕ → List CborToken → Option (List CborItem × List CborToken)
  | 0, tokens => some ([], tokens)
  | count + 1, tokens => do
      let (item, tokens) ← take tokens
      let (items, tokens) ← takeItems take count tokens
      some (item :: items, tokens)

/-- `count` pairs of items. -/
def takeEntries (take : List CborToken → Option (CborItem × List CborToken)) :
    ℕ → List CborToken → Option (List (CborItem × CborItem) × List CborToken)
  | 0, tokens => some ([], tokens)
  | count + 1, tokens => do
      let (key, tokens) ← take tokens
      let (value, tokens) ← take tokens
      let (entries, tokens) ← takeEntries take count tokens
      some ((key, value) :: entries, tokens)

/-- **The item that heads begin with**, nested up to a limit, and the heads behind it. -/
def takeItem : ℕ → List CborToken → Option (CborItem × List CborToken)
  | 0, _ => none
  | _ + 1, [] => none
  | limit + 1, t :: rest =>
      match t with
      | .integer n => some (.integer n, rest)
      | .bytes value => some (.bytes value, rest)
      | .text value => some (.text value, rest)
      | .array count =>
          (takeItems (takeItem limit) count rest).map fun taken => (.array taken.1, taken.2)
      | .map count =>
          (takeEntries (takeItem limit) count rest).map fun taken => (.map taken.1, taken.2)
      | .tag number => (takeItem limit rest).map fun taken => (.tag number taken.1, taken.2)
      | .bool value => some (.bool value, rest)
      | .null => some (.null, rest)
      | .float x => some (.float x, rest)

variable {take : List CborToken → Option (CborItem × List CborToken)}

theorem takeItems_tokens
    (htake : ∀ item ∈ items, ∀ rest, take (item.tokens ++ rest) = some (item, rest))
    (rest : List CborToken) :
    takeItems take items.length (itemsTokens items ++ rest) = some (items, rest) := by
  induction items with
  | nil => rfl
  | cons item items ih =>
    have hrest := ih fun other hmem => htake other (List.mem_cons_of_mem _ hmem)
    rw [List.length_cons, takeItems, itemsTokens, List.append_assoc,
      htake item List.mem_cons_self]
    show ((takeItems take items.length (itemsTokens items ++ rest)).bind fun taken =>
      some (item :: taken.1, taken.2)) = _
    rw [hrest]
    rfl

theorem takeEntries_tokens
    (htake : ∀ entry ∈ entries, (∀ rest, take (entry.1.tokens ++ rest) = some (entry.1, rest)) ∧
      ∀ rest, take (entry.2.tokens ++ rest) = some (entry.2, rest)) (rest : List CborToken) :
    takeEntries take entries.length (entriesTokens entries ++ rest) = some (entries, rest) := by
  induction entries with
  | nil => rfl
  | cons entry entries ih =>
    obtain ⟨key, value⟩ := entry
    obtain ⟨hkey, hvalue⟩ := htake (key, value) List.mem_cons_self
    have hrest := ih fun other hmem => htake other (List.mem_cons_of_mem _ hmem)
    rw [List.length_cons, takeEntries, entriesTokens, List.append_assoc, List.append_assoc, hkey]
    show ((take (value.tokens ++ (entriesTokens entries ++ rest))).bind fun found =>
      (takeEntries take entries.length found.2).bind fun others =>
        some ((key, found.1) :: others.1, others.2)) = _
    rw [hvalue, Option.bind_some, hrest]
    rfl

/-- **An item is taken from its heads**, and the heads behind them are left. -/
theorem takeItem_tokens (item : CborItem) :
    ∀ limit, item.depth ≤ limit → ∀ rest, takeItem limit (item.tokens ++ rest)
      = some (item, rest) := by
  induction item using CborItem.induct with
  | harray items ih =>
    intro limit hlimit rest
    obtain ⟨limit, rfl⟩ := Nat.exists_eq_succ_of_ne_zero ((depth_pos _).trans_le hlimit).ne'
    rw [CborItem.depth, Nat.succ_eq_add_one, Nat.add_le_add_iff_right] at hlimit
    have htaken := takeItems_tokens
      (fun item hmem => ih item hmem limit ((depth_le_itemsDepth hmem).trans hlimit)) rest
    rw [CborItem.tokens, List.cons_append, takeItem]
    simp only [htaken, Option.map_some]
  | hmap entries ih =>
    intro limit hlimit rest
    obtain ⟨limit, rfl⟩ := Nat.exists_eq_succ_of_ne_zero ((depth_pos _).trans_le hlimit).ne'
    rw [CborItem.depth, Nat.succ_eq_add_one, Nat.add_le_add_iff_right] at hlimit
    have htaken := takeEntries_tokens (fun entry hmem =>
      ⟨(ih entry hmem).1 limit ((depth_le_entriesDepth hmem).1.trans hlimit),
        (ih entry hmem).2 limit ((depth_le_entriesDepth hmem).2.trans hlimit)⟩) rest
    rw [CborItem.tokens, List.cons_append, takeItem]
    simp only [htaken, Option.map_some]
  | htag number item ih =>
    intro limit hlimit rest
    obtain ⟨limit, rfl⟩ := Nat.exists_eq_succ_of_ne_zero ((depth_pos _).trans_le hlimit).ne'
    rw [CborItem.depth, Nat.succ_eq_add_one, Nat.add_le_add_iff_right] at hlimit
    rw [CborItem.tokens, List.cons_append, takeItem]
    simp only [ih limit hlimit rest, Option.map_some]
  | hinteger _ | hbytes _ | htext _ | hbool _ | hnull | hfloat _ =>
    intro limit hlimit rest
    obtain ⟨limit, rfl⟩ := Nat.exists_eq_succ_of_ne_zero ((depth_pos _).trans_le hlimit).ne'
    rw [CborItem.tokens, List.cons_append, List.nil_append, takeItem]

/-- **The heads of no item begin those of another.** -/
theorem tokens_append_inj {item item' : CborItem} {rest' : List CborToken}
    (h : item.tokens ++ rest = item'.tokens ++ rest') : item = item' ∧ rest = rest' := by
  have htaken := takeItem_tokens item (max item.depth item'.depth) (Nat.le_max_left _ _) rest
  have htaken' := takeItem_tokens item' (max item.depth item'.depth) (Nat.le_max_right _ _) rest'
  rw [h, htaken', Option.some.injEq, Prod.mk.injEq] at htaken
  exact ⟨htaken.1.symm, htaken.2.symm⟩

theorem takeItems_sound
    (htake : ∀ tokens item rest, take tokens = some (item, rest) → tokens = item.tokens ++ rest)
    (h : takeItems take count tokens = some (items, rest)) :
    items.length = count ∧ tokens = itemsTokens items ++ rest := by
  induction count generalizing tokens items with
  | zero =>
    obtain ⟨rfl, rfl⟩ := Prod.mk.inj (Option.some.inj h)
    exact ⟨rfl, rfl⟩
  | succ count ih =>
    obtain ⟨⟨item, behind⟩, hitem, h⟩ := Option.bind_eq_some_iff.mp h
    obtain ⟨⟨others, left⟩, hothers, h⟩ := Option.bind_eq_some_iff.mp h
    obtain ⟨rfl, rfl⟩ := Prod.mk.inj (Option.some.inj h)
    obtain ⟨hlength, hbehind⟩ := ih hothers
    refine ⟨by rw [List.length_cons, hlength], ?_⟩
    rw [itemsTokens, List.append_assoc, ← hbehind]
    exact htake _ _ _ hitem

theorem takeEntries_sound
    (htake : ∀ tokens item rest, take tokens = some (item, rest) → tokens = item.tokens ++ rest)
    (h : takeEntries take count tokens = some (entries, rest)) :
    entries.length = count ∧ tokens = entriesTokens entries ++ rest := by
  induction count generalizing tokens entries with
  | zero =>
    obtain ⟨rfl, rfl⟩ := Prod.mk.inj (Option.some.inj h)
    exact ⟨rfl, rfl⟩
  | succ count ih =>
    obtain ⟨⟨key, behindKey⟩, hkey, h⟩ := Option.bind_eq_some_iff.mp h
    obtain ⟨⟨value, behindValue⟩, hvalue, h⟩ := Option.bind_eq_some_iff.mp h
    obtain ⟨⟨others, left⟩, hothers, h⟩ := Option.bind_eq_some_iff.mp h
    obtain ⟨rfl, rfl⟩ := Prod.mk.inj (Option.some.inj h)
    obtain ⟨hlength, hbehind⟩ := ih hothers
    refine ⟨by rw [List.length_cons, hlength], ?_⟩
    rw [entriesTokens, List.append_assoc, List.append_assoc, ← hbehind, ← htake _ _ _ hvalue]
    exact htake _ _ _ hkey

/-- **Nothing else is taken**: the heads begin with those of the item. -/
theorem takeItem_sound (limit : ℕ) : ∀ tokens item rest,
    takeItem limit tokens = some (item, rest) → tokens = item.tokens ++ rest := by
  induction limit with
  | zero => exact fun _ _ _ h => nomatch h
  | succ limit ih =>
    intro tokens item rest h
    cases tokens with
    | nil => cases h
    | cons t behind =>
      cases t with
      | array count =>
        obtain ⟨⟨items, left⟩, hitems, h⟩ := Option.map_eq_some_iff.mp h
        obtain ⟨rfl, rfl⟩ := Prod.mk.inj h
        obtain ⟨rfl, htokens⟩ := takeItems_sound ih hitems
        rw [CborItem.tokens, List.cons_append, ← htokens]
      | map count =>
        obtain ⟨⟨entries, left⟩, hentries, h⟩ := Option.map_eq_some_iff.mp h
        obtain ⟨rfl, rfl⟩ := Prod.mk.inj h
        obtain ⟨rfl, htokens⟩ := takeEntries_sound ih hentries
        rw [CborItem.tokens, List.cons_append, ← htokens]
      | tag number =>
        obtain ⟨⟨inner, left⟩, hinner, h⟩ := Option.map_eq_some_iff.mp h
        obtain ⟨rfl, rfl⟩ := Prod.mk.inj h
        rw [CborItem.tokens, List.cons_append, ← ih _ _ _ hinner]
      | integer _ | bytes _ | text _ | bool _ | null | float _ =>
        obtain ⟨rfl, rfl⟩ := Prod.mk.inj (Option.some.inj h)
        rfl

/-- An item is nested no deeper than it has heads. -/
theorem depth_le_length_tokens (item : CborItem) : item.depth ≤ item.tokens.length := by
  induction item using CborItem.induct with
  | harray items ih =>
    rw [CborItem.depth, CborItem.tokens, List.length_cons, Nat.add_le_add_iff_right]
    induction items with
    | nil => exact Nat.zero_le _
    | cons item items ihs =>
      have hfirst := ih item List.mem_cons_self
      have hrest := ihs fun other hmem => ih other (List.mem_cons_of_mem _ hmem)
      rw [itemsDepth, itemsTokens, List.length_append]
      omega
  | hmap entries ih =>
    rw [CborItem.depth, CborItem.tokens, List.length_cons, Nat.add_le_add_iff_right]
    induction entries with
    | nil => exact Nat.zero_le _
    | cons entry entries ihs =>
      obtain ⟨key, value⟩ := entry
      obtain ⟨hkey, hvalue⟩ := ih (key, value) List.mem_cons_self
      have hrest := ihs fun other hmem => ih other (List.mem_cons_of_mem _ hmem)
      rw [entriesDepth, entriesTokens, List.length_append, List.length_append]
      dsimp only at hkey hvalue
      omega
  | htag number item ih =>
    rw [CborItem.depth, CborItem.tokens, List.length_cons]
    omega
  | hinteger _ | hbytes _ | htext _ | hbool _ | hnull | hfloat _ => exact Nat.le_refl 1

/-- **A parser**, by the heads of the bytes. -/
def readCbor (bytes : List UInt8) : Option CborItem :=
  let tokens := readTokens bytes.length bytes
  (takeItem tokens.length tokens).map Prod.fst

theorem readsTokens_readCbor : ReadsTokens readCbor fun _ => True := by
  intro tokens bytes hwrites item
  have htokens := readTokens_of_writesAll hwrites (length_le_of_writesAll hwrites)
  rw [true_and, readCbor, htokens]
  constructor
  · intro h
    obtain ⟨⟨item', rest⟩, htaken, rfl⟩ := Option.map_eq_some_iff.mp h
    exact ⟨rest, takeItem_sound _ _ _ _ htaken⟩
  · rintro ⟨rest, rfl⟩
    have hdepth := depth_le_length_tokens item
    have htaken := takeItem_tokens item (item.tokens ++ rest).length
      (by rw [List.length_append]; omega) rest
    rw [htaken]
    rfl

end QuadraA.Lib
