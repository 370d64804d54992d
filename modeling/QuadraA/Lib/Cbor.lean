import QuadraA.Lib.JsNumber

/-!
# Concise binary objects

The data items of RFC 8949, and the encodings of those that are written with a definite length.

* `CborItem` — data items, with `CborItem.induct`, an induction over the nesting;
* `encodes_unique` — no encoding of an item is the beginning of an encoding of another.
-/

namespace QuadraA.Lib

/-- A data item.  The numbers of the simple values and of the undefined value are left out. -/
inductive CborItem where
  | integer (value : ℤ)
  | bytes (value : List UInt8)
  | text (value : String)
  | array (items : List CborItem)
  | map (entries : List (CborItem × CborItem))
  | tag (number : ℕ) (item : CborItem)
  | bool (value : Bool)
  | null
  | float (value : JsNumber)

namespace CborItem

/-- **Induction over the nesting** of an item. -/
theorem induct {motive : CborItem → Prop} (hinteger : ∀ n, motive (.integer n))
    (hbytes : ∀ b, motive (.bytes b)) (htext : ∀ s, motive (.text s))
    (harray : ∀ items, (∀ v ∈ items, motive v) → motive (.array items))
    (hmap : ∀ entries, (∀ e ∈ entries, motive e.1 ∧ motive e.2) → motive (.map entries))
    (htag : ∀ number item, motive item → motive (.tag number item))
    (hbool : ∀ b, motive (.bool b)) (hnull : motive .null) (hfloat : ∀ x, motive (.float x)) :
    ∀ v, motive v := by
  refine @CborItem.rec motive (fun items => ∀ v ∈ items, motive v)
    (fun entries => ∀ e ∈ entries, motive e.1 ∧ motive e.2) (fun e => motive e.1 ∧ motive e.2)
    hinteger hbytes htext harray hmap htag hbool hnull hfloat ?_ ?_ ?_ ?_ ?_
  · intro v hmem
    cases hmem
  · intro head tail hhead htail v hmem
    rcases List.mem_cons.mp hmem with rfl | hmem
    · exact hhead
    · exact htail v hmem
  · intro e hmem
    cases hmem
  · intro head tail hhead htail e hmem
    rcases List.mem_cons.mp hmem with rfl | hmem
    · exact hhead
    · exact htail e hmem
  · intro key value hkey hvalue
    exact ⟨hkey, hvalue⟩

end CborItem

/-! ### Numbers in bytes -/

/-- The lowest digits of a number in base 256, the highest of them first. -/
def bigEndian : ℕ → ℕ → List UInt8
  | 0, _ => []
  | width + 1, value => UInt8.ofNat (value / 256 ^ width) :: bigEndian width value

def bigEndianValue (bytes : List UInt8) : ℕ :=
  bytes.foldl (fun value byte => 256 * value + byte.toNat) 0

theorem length_bigEndian (width value : ℕ) : (bigEndian width value).length = width := by
  induction width with
  | zero => rfl
  | succ width ih => rw [bigEndian, List.length_cons, ih]

/-- Reading on from a number that has been read. -/
theorem foldl_bigEndian (width value start : ℕ) :
    (bigEndian width value).foldl (fun value byte => 256 * value + byte.toNat) start
      = start * 256 ^ width + value % 256 ^ width := by
  induction width generalizing start with
  | zero => simp [bigEndian, Nat.mod_one]
  | succ width ih =>
    rw [bigEndian, List.foldl_cons, ih, UInt8.toNat_ofNat']
    have hsplit : value % 256 ^ (width + 1)
        = 256 ^ width * (value / 256 ^ width % 256) + value % 256 ^ width := by
      rw [Nat.pow_succ, Nat.mod_mul, Nat.add_comm]
    rw [hsplit, Nat.pow_succ]
    ring

theorem bigEndianValue_bigEndian {width value : ℕ} (h : value < 256 ^ width) :
    bigEndianValue (bigEndian width value) = value := by
  rw [bigEndianValue, foldl_bigEndian, Nat.mod_eq_of_lt h, Nat.zero_mul, Nat.zero_add]

/-! ### Heads -/

/-- The major type of an item, and the number that tells its argument. -/
def initialByte (major info : ℕ) : UInt8 := UInt8.ofNat (32 * major + info)

/-- **A head**: the argument is inside the initial byte, or in one, two, four or eight bytes behind
it. -/
inductive Head (major argument : ℕ) : List UInt8 → Prop
  | inside : argument < 24 → Head major argument [initialByte major argument]
  | behind (size : ℕ) : size < 4 → argument < 256 ^ 2 ^ size →
      Head major argument (initialByte major (24 + size) :: bigEndian (2 ^ size) argument)

/-- The major type, the argument and the bytes behind the head. -/
def readHead : List UInt8 → Option (ℕ × ℕ × List UInt8)
  | [] => none
  | first :: rest =>
      let major := first.toNat / 32
      let info := first.toNat % 32
      if info < 24 then some (major, info, rest)
      else if info < 28 then
        let width := 2 ^ (info - 24)
        if width ≤ rest.length then
          some (major, bigEndianValue (rest.take width), rest.drop width)
        else none
      else none

variable {major : ℕ} {bytes : List UInt8} {read : List UInt8 → Option (CborItem × List UInt8)}
  {items : List CborItem} {entries : List (CborItem × CborItem)}

theorem initialByte_toNat {info : ℕ} (hmajor : major < 8) (hinfo : info < 32) :
    (initialByte major info).toNat = 32 * major + info := by
  rw [initialByte, UInt8.toNat_ofNat']
  omega

theorem readHead_of_head {argument : ℕ} (hmajor : major < 8) (h : Head major argument bytes)
    (rest : List UInt8) : readHead (bytes ++ rest) = some (major, argument, rest) := by
  cases h with
  | inside hargument =>
    have hfirst := initialByte_toNat hmajor (show argument < 32 by omega)
    rw [List.cons_append, List.nil_append, readHead]
    simp only [hfirst]
    rw [show (32 * major + argument) / 32 = major by omega,
      show (32 * major + argument) % 32 = argument by omega, if_pos hargument]
  | behind size hsize hargument =>
    have hfirst := initialByte_toNat hmajor (show 24 + size < 32 by omega)
    have hlength := length_bigEndian (2 ^ size) argument
    rw [List.cons_append, readHead]
    simp only [hfirst]
    rw [show (32 * major + (24 + size)) / 32 = major by omega,
      show (32 * major + (24 + size)) % 32 = 24 + size by omega, if_neg (by omega),
      if_pos (by omega), Nat.add_sub_cancel_left, List.length_append, hlength,
      if_pos (Nat.le_add_right _ _), List.take_left' hlength, List.drop_left' hlength,
      bigEndianValue_bigEndian hargument]

/-! ### Encodings -/

/-- The bytes of a text. -/
def textBytes (text : String) : List UInt8 := text.toUTF8.data.toList

mutual

/-- **The encodings of an item**, with heads of any width.  Numbers of big tags, and floats, are
left out. -/
def Encodes : CborItem → List UInt8 → Prop
  | .integer n, bytes => if 0 ≤ n then Head 0 n.toNat bytes else Head 1 (-1 - n).toNat bytes
  | .bytes value, bytes => ∃ head, Head 2 value.length head ∧ bytes = head ++ value
  | .text value, bytes =>
      ∃ head, Head 3 (textBytes value).length head ∧ bytes = head ++ textBytes value
  | .array items, bytes =>
      ∃ head body, Head 4 items.length head ∧ EncodesItems items body ∧ bytes = head ++ body
  | .map entries, bytes =>
      ∃ head body, Head 5 entries.length head ∧ EncodesEntries entries body ∧ bytes = head ++ body
  | .tag number item, bytes => (number ≠ 2 ∧ number ≠ 3) ∧
      ∃ head body, Head 6 number head ∧ Encodes item body ∧ bytes = head ++ body
  | .bool value, bytes => bytes = [initialByte 7 (if value then 21 else 20)]
  | .null, bytes => bytes = [initialByte 7 22]
  | .float _, _ => False

def EncodesItems : List CborItem → List UInt8 → Prop
  | [], bytes => bytes = []
  | item :: items, bytes =>
      ∃ first rest, Encodes item first ∧ EncodesItems items rest ∧ bytes = first ++ rest

def EncodesEntries : List (CborItem × CborItem) → List UInt8 → Prop
  | [], bytes => bytes = []
  | (key, value) :: entries, bytes =>
      ∃ first second rest, Encodes key first ∧ Encodes value second ∧
        EncodesEntries entries rest ∧ bytes = first ++ second ++ rest

end

mutual

/-- How deep an item is nested. -/
def CborItem.depth : CborItem → ℕ
  | .array items => itemsDepth items + 1
  | .map entries => entriesDepth entries + 1
  | .tag _ item => item.depth + 1
  | _ => 1

def itemsDepth : List CborItem → ℕ
  | [] => 0
  | item :: items => max item.depth (itemsDepth items)

def entriesDepth : List (CborItem × CborItem) → ℕ
  | [] => 0
  | (key, value) :: entries => max (max key.depth value.depth) (entriesDepth entries)

end

/-! ### The reader -/

/-- As many bytes as a head announces. -/
def splitBytes (count : ℕ) (bytes : List UInt8) : Option (List UInt8 × List UInt8) :=
  if count ≤ bytes.length then some (bytes.take count, bytes.drop count) else none

/-- `count` items, one behind the other. -/
def readItems (read : List UInt8 → Option (CborItem × List UInt8)) :
    ℕ → List UInt8 → Option (List CborItem × List UInt8)
  | 0, bytes => some ([], bytes)
  | count + 1, bytes => do
      let (item, bytes) ← read bytes
      let (items, bytes) ← readItems read count bytes
      some (item :: items, bytes)

/-- `count` pairs of items. -/
def readEntries (read : List UInt8 → Option (CborItem × List UInt8)) :
    ℕ → List UInt8 → Option (List (CborItem × CborItem) × List UInt8)
  | 0, bytes => some ([], bytes)
  | count + 1, bytes => do
      let (key, bytes) ← read bytes
      let (value, bytes) ← read bytes
      let (entries, bytes) ← readEntries read count bytes
      some ((key, value) :: entries, bytes)

/-- **A reader** of the encodings above, for items that are nested up to a limit. -/
def readItem : ℕ → List UInt8 → Option (CborItem × List UInt8)
  | 0, _ => none
  | limit + 1, bytes =>
      match readHead bytes with
      | none => none
      | some (0, argument, rest) => some (.integer argument, rest)
      | some (1, argument, rest) => some (.integer (-1 - argument), rest)
      | some (2, argument, rest) =>
          (splitBytes argument rest).map fun split => (.bytes split.1, split.2)
      | some (3, argument, rest) =>
          (splitBytes argument rest).bind fun split =>
            (String.fromUTF8? ⟨split.1.toArray⟩).map fun text => (.text text, split.2)
      | some (4, argument, rest) =>
          (readItems (readItem limit) argument rest).map fun read => (.array read.1, read.2)
      | some (5, argument, rest) =>
          (readEntries (readItem limit) argument rest).map fun read => (.map read.1, read.2)
      | some (6, argument, rest) =>
          (readItem limit rest).map fun read => (.tag argument read.1, read.2)
      | some (7, 20, rest) => some (.bool false, rest)
      | some (7, 21, rest) => some (.bool true, rest)
      | some (7, 22, rest) => some (.null, rest)
      | some _ => none

theorem splitBytes_append (value rest : List UInt8) :
    splitBytes value.length (value ++ rest) = some (value, rest) := by
  rw [splitBytes, if_pos (by rw [List.length_append]; omega), List.take_left, List.drop_left]

/-- A text is read from its bytes. -/
theorem fromUTF8?_textBytes (text : String) :
    String.fromUTF8? ⟨(textBytes text).toArray⟩ = some text := by
  have hbytes : (⟨(textBytes text).toArray⟩ : ByteArray) = text.toUTF8 := by
    rw [textBytes, Array.toArray_toList]
  rw [hbytes, String.fromUTF8?]
  exact dif_pos text.isValidUTF8

/-- What a reader does with every encoding of an item. -/
def ReadsAll (read : List UInt8 → Option (CborItem × List UInt8)) (item : CborItem) : Prop :=
  ∀ bytes rest, Encodes item bytes → read (bytes ++ rest) = some (item, rest)

theorem readItems_of_encodes (hread : ∀ item ∈ items, ReadsAll read item)
    (h : EncodesItems items bytes) (rest : List UInt8) :
    readItems read items.length (bytes ++ rest) = some (items, rest) := by
  induction items generalizing bytes with
  | nil =>
    rw [EncodesItems] at h
    rw [h]
    rfl
  | cons item items ih =>
    rw [EncodesItems] at h
    obtain ⟨first, behind, hfirst, hbehind, rfl⟩ := h
    have hhead := hread item List.mem_cons_self first (behind ++ rest) hfirst
    have htail := ih (fun other hmem => hread other (List.mem_cons_of_mem _ hmem)) hbehind
    rw [List.length_cons, readItems, List.append_assoc, hhead]
    show ((readItems read items.length (behind ++ rest)).bind fun read =>
      some (item :: read.1, read.2)) = _
    rw [htail]
    rfl

theorem readEntries_of_encodes
    (hread : ∀ entry ∈ entries, ReadsAll read entry.1 ∧ ReadsAll read entry.2)
    (h : EncodesEntries entries bytes) (rest : List UInt8) :
    readEntries read entries.length (bytes ++ rest) = some (entries, rest) := by
  induction entries generalizing bytes with
  | nil =>
    rw [EncodesEntries] at h
    rw [h]
    rfl
  | cons entry entries ih =>
    obtain ⟨key, value⟩ := entry
    rw [EncodesEntries] at h
    obtain ⟨first, second, behind, hfirst, hsecond, hbehind, rfl⟩ := h
    obtain ⟨hkey, hvalue⟩ := hread (key, value) List.mem_cons_self
    have hfirstRead := hkey first (second ++ (behind ++ rest)) hfirst
    have hsecondRead := hvalue second (behind ++ rest) hsecond
    have htail := ih (fun other hmem => hread other (List.mem_cons_of_mem _ hmem)) hbehind
    rw [List.length_cons, readEntries, List.append_assoc, List.append_assoc, hfirstRead]
    show ((read (second ++ (behind ++ rest))).bind fun found =>
      (readEntries read entries.length found.2).bind fun others =>
        some ((key, found.1) :: others.1, others.2)) = _
    rw [hsecondRead, Option.bind_some, htail]
    rfl

theorem depth_le_itemsDepth {item : CborItem} (h : item ∈ items) :
    item.depth ≤ itemsDepth items := by
  induction items with
  | nil => cases h
  | cons head items ih =>
    rw [itemsDepth]
    rcases List.mem_cons.mp h with rfl | h
    · exact Nat.le_max_left _ _
    · exact (ih h).trans (Nat.le_max_right _ _)

theorem depth_le_entriesDepth {entry : CborItem × CborItem} (h : entry ∈ entries) :
    entry.1.depth ≤ entriesDepth entries ∧ entry.2.depth ≤ entriesDepth entries := by
  induction entries with
  | nil => cases h
  | cons head entries ih =>
    obtain ⟨key, value⟩ := head
    rw [entriesDepth]
    rcases List.mem_cons.mp h with rfl | h
    · constructor
      · exact (Nat.le_max_left _ _).trans (Nat.le_max_left _ _)
      · exact (Nat.le_max_right _ _).trans (Nat.le_max_left _ _)
    · obtain ⟨hkey, hvalue⟩ := ih h
      exact ⟨hkey.trans (Nat.le_max_right _ _), hvalue.trans (Nat.le_max_right _ _)⟩

theorem depth_pos (item : CborItem) : 0 < item.depth := by
  cases item <;> simp [CborItem.depth]

/-- **What is encoded is read**, in whatever widths, and the bytes behind it are left. -/
theorem readItem_of_encodes (item : CborItem) :
    ∀ limit, item.depth ≤ limit → ReadsAll (readItem limit) item := by
  induction item using CborItem.induct with
  | hinteger n =>
    intro limit hlimit bytes rest h
    obtain ⟨limit, rfl⟩ := Nat.exists_eq_succ_of_ne_zero ((depth_pos _).trans_le hlimit).ne'
    rw [Encodes] at h
    rw [readItem]
    split at h
    · rename_i hnonneg
      rw [readHead_of_head (by decide) h]
      simp only [Int.toNat_of_nonneg hnonneg]
    · rename_i hnegative
      rw [readHead_of_head (by decide) h]
      simp only [Int.toNat_of_nonneg (show 0 ≤ -1 - n by omega), sub_sub_cancel]
  | hbytes value =>
    intro limit hlimit bytes rest h
    obtain ⟨limit, rfl⟩ := Nat.exists_eq_succ_of_ne_zero ((depth_pos _).trans_le hlimit).ne'
    rw [Encodes] at h
    obtain ⟨head, hhead, rfl⟩ := h
    rw [readItem, List.append_assoc, readHead_of_head (by decide) hhead]
    simp only [splitBytes_append, Option.map_some]
  | htext value =>
    intro limit hlimit bytes rest h
    obtain ⟨limit, rfl⟩ := Nat.exists_eq_succ_of_ne_zero ((depth_pos _).trans_le hlimit).ne'
    rw [Encodes] at h
    obtain ⟨head, hhead, rfl⟩ := h
    rw [readItem, List.append_assoc, readHead_of_head (by decide) hhead]
    simp only [splitBytes_append, Option.bind_some, fromUTF8?_textBytes, Option.map_some]
  | harray items ih =>
    intro limit hlimit bytes rest h
    obtain ⟨limit, rfl⟩ := Nat.exists_eq_succ_of_ne_zero ((depth_pos _).trans_le hlimit).ne'
    rw [CborItem.depth, Nat.succ_eq_add_one, Nat.add_le_add_iff_right] at hlimit
    rw [Encodes] at h
    obtain ⟨head, body, hhead, hbody, rfl⟩ := h
    have hread := readItems_of_encodes
      (fun item hmem => ih item hmem limit ((depth_le_itemsDepth hmem).trans hlimit)) hbody rest
    rw [readItem, List.append_assoc, readHead_of_head (by decide) hhead]
    simp only [hread, Option.map_some]
  | hmap entries ih =>
    intro limit hlimit bytes rest h
    obtain ⟨limit, rfl⟩ := Nat.exists_eq_succ_of_ne_zero ((depth_pos _).trans_le hlimit).ne'
    rw [CborItem.depth, Nat.succ_eq_add_one, Nat.add_le_add_iff_right] at hlimit
    rw [Encodes] at h
    obtain ⟨head, body, hhead, hbody, rfl⟩ := h
    have hread := readEntries_of_encodes (fun entry hmem =>
      ⟨(ih entry hmem).1 limit ((depth_le_entriesDepth hmem).1.trans hlimit),
        (ih entry hmem).2 limit ((depth_le_entriesDepth hmem).2.trans hlimit)⟩) hbody rest
    rw [readItem, List.append_assoc, readHead_of_head (by decide) hhead]
    simp only [hread, Option.map_some]
  | htag number item ih =>
    intro limit hlimit bytes rest h
    obtain ⟨limit, rfl⟩ := Nat.exists_eq_succ_of_ne_zero ((depth_pos _).trans_le hlimit).ne'
    rw [CborItem.depth, Nat.succ_eq_add_one, Nat.add_le_add_iff_right] at hlimit
    rw [Encodes] at h
    obtain ⟨_, head, body, hhead, hbody, rfl⟩ := h
    rw [readItem, List.append_assoc, readHead_of_head (by decide) hhead]
    simp only [ih limit hlimit body rest hbody, Option.map_some]
  | hbool value =>
    intro limit hlimit bytes rest h
    obtain ⟨limit, rfl⟩ := Nat.exists_eq_succ_of_ne_zero ((depth_pos _).trans_le hlimit).ne'
    rw [Encodes] at h
    subst h
    cases value with
    | true => rfl
    | false => rfl
  | hnull =>
    intro limit hlimit bytes rest h
    obtain ⟨limit, rfl⟩ := Nat.exists_eq_succ_of_ne_zero ((depth_pos _).trans_le hlimit).ne'
    rw [Encodes] at h
    subst h
    rfl
  | hfloat value =>
    intro limit _ bytes rest h
    rw [Encodes] at h
    exact h.elim

/-- **No encoding begins another.**  Two encodings that begin one byte string are encodings of one
item, and what is behind them is the same. -/
theorem encodes_unique {item item' : CborItem} {bytes' rest rest' : List UInt8}
    (h : Encodes item bytes) (h' : Encodes item' bytes') (hsame : bytes ++ rest = bytes' ++ rest') :
    item = item' ∧ rest = rest' := by
  have hread := readItem_of_encodes item (max item.depth item'.depth) (Nat.le_max_left _ _)
    bytes rest h
  have hread' := readItem_of_encodes item' (max item.depth item'.depth) (Nat.le_max_right _ _)
    bytes' rest' h'
  rw [hsame, hread', Option.some.injEq, Prod.mk.injEq] at hread
  exact ⟨hread.1.symm, hread.2.symm⟩

end QuadraA.Lib
