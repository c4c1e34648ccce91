import Mathlib.Data.List.Forall2
import Vart.Lib.Bytes

/-!
# The flattened devicetree format

A devicetree blob has a header, a map of reserved memory, a structure block of tokens and a strings
block with the names of properties. Words are big-endian, tokens begin at multiples of four, and
the bytes that fill a token up are zero.

* `Dtb.decode`: a decoder that checks all of that, and that both blocks are consumed exactly.
* `DtbItem`: a token with what follows it, as `DtbItem.encode` writes it. A property has the offset
  of its name; `DtbItem.Reads` says which event it is for a strings block.
* `Dtb.decode_blob`: the decoder reads back the events of well-nested items.
-/

namespace Lib

/-- The bytes of a string literal. -/
def literal (s : String) : List UInt8 := s.toByteArray.data.toList

@[simp] theorem literal_inj {s t : String} : literal s = literal t ↔ s = t := by
  constructor
  · intro h
    exact String.toByteArray_inj.mp (ByteArray.ext (Array.toList_inj.mp h))
  · rintro rfl
    rfl

/-! ## Big-endian words -/

/-- The word with the bytes `bs`, most significant byte first. -/
def loadBe (bs : List UInt8) : Nat := loadLe bs.reverse

/-- The first `n` bytes of a word, most significant byte first. -/
def storeBe (n v : Nat) : List UInt8 := (storeLe n v).reverse

@[simp] theorem length_storeBe (n v : Nat) : (storeBe n v).length = n := by simp [storeBe]

theorem loadBe_storeBe {n v : Nat} (h : v < 256 ^ n) : loadBe (storeBe n v) = v := by
  rw [loadBe, storeBe, List.reverse_reverse, loadLe_storeLe_of_lt h]

/-! ## Pieces of a list of bytes -/

/-- The first `n` bytes and the rest. -/
def takeBytes? (n : Nat) (l : List UInt8) : Option (List UInt8 × List UInt8) :=
  if n ≤ l.length then some (l.take n, l.drop n) else none

theorem takeBytes?_append {n : Nat} {a : List UInt8} (h : a.length = n) (r : List UInt8) :
    takeBytes? n (a ++ r) = some (a, r) := by
  subst h
  simp [takeBytes?]

/-- The first word. -/
def word? (l : List UInt8) : Option (Nat × List UInt8) :=
  match takeBytes? 4 l with
  | none => none
  | some (bs, rest) => some (loadBe bs, rest)

theorem word?_append {v : Nat} (h : v < 2 ^ 32) (r : List UInt8) :
    word? (storeBe 4 v ++ r) = some (v, r) := by
  rw [word?, takeBytes?_append (length_storeBe 4 v)]
  dsimp only
  rw [loadBe_storeBe h]

/-- The first `n` words. -/
def words? : (n : Nat) → List UInt8 → Option (List Nat)
  | 0, _ => some []
  | n + 1, l =>
    match word? l with
    | none => none
    | some (v, rest) => (words? n rest).map (v :: ·)

theorem words?_append (vs : List Nat) (h : ∀ v ∈ vs, v < 2 ^ 32) (r : List UInt8) :
    words? vs.length (vs.flatMap (storeBe 4) ++ r) = some vs := by
  induction vs with
  | nil => rfl
  | cons v vs ih =>
    rw [List.length_cons, words?, List.flatMap_cons, List.append_assoc,
      word?_append (h v List.mem_cons_self)]
    dsimp only
    rw [ih fun w hw => h w (List.mem_cons_of_mem _ hw)]
    rfl

/-- The bytes up to the first zero, and what follows it. -/
def cstring? (l : List UInt8) : Option (List UInt8 × List UInt8) :=
  match l.dropWhile (· ≠ 0) with
  | [] => none
  | _ :: rest => some (l.takeWhile (· ≠ 0), rest)

/-- A string without a zero ends at the terminator. -/
theorem takeWhile_terminated {name : List UInt8} (h : ∀ b ∈ name, b ≠ 0) (r : List UInt8) :
    (name ++ 0 :: r).takeWhile (· ≠ 0) = name := by
  rw [List.takeWhile_append_of_pos fun b hb => by simpa using h b hb]
  exact List.append_nil name

theorem cstring?_append {name : List UInt8} (h : ∀ b ∈ name, b ≠ 0) (r : List UInt8) :
    cstring? (name ++ 0 :: r) = some (name, r) := by
  have hdrop : (name ++ 0 :: r).dropWhile (· ≠ 0) = 0 :: r := by
    rw [List.dropWhile_append_of_pos fun b hb => by simpa using h b hb]
    rfl
  rw [cstring?, hdrop, takeWhile_terminated h]

/-- The rest behind `n` zero bytes. -/
def zeros? (n : Nat) (l : List UInt8) : Option (List UInt8) :=
  match takeBytes? n l with
  | none => none
  | some (bs, rest) => if bs = List.replicate n 0 then some rest else none

theorem zeros?_append (n : Nat) (r : List UInt8) :
    zeros? n (List.replicate n 0 ++ r) = some r := by
  rw [zeros?, takeBytes?_append List.length_replicate]
  exact if_pos rfl

/-- The number of bytes from `n` to the next multiple of four. -/
def pad4 (n : Nat) : Nat := (4 - n % 4) % 4

theorem pad4_add {m : Nat} (h : m % 4 = 0) (n : Nat) : pad4 (m + n) = pad4 n := by
  unfold pad4
  omega

theorem add_pad4_mod (n : Nat) : (n + pad4 n) % 4 = 0 := by
  unfold pad4
  omega

/-! ## Tokens -/

/-- What a devicetree consists of, in the order of the structure block. -/
inductive DtbEvent where
  | beginNode (name : List UInt8)
  | property (name value : List UInt8)
  | endNode
deriving DecidableEq, Repr

namespace Dtb

abbrev beginNodeToken : Nat := 1
abbrev endNodeToken : Nat := 2
abbrev propToken : Nat := 3
abbrev nopToken : Nat := 4
abbrev endToken : Nat := 9
abbrev magic : Nat := 0xd00dfeed

/-- The events of a structure block. `opened` has the open nodes, the innermost one first, and
whether a child of theirs was begun: a property stands before the children of its node. The end
token is the last one, outside of all nodes. -/
def tokens (strings : List UInt8) :
    (fuel : Nat) → (opened : List Bool) → List UInt8 → Option (List DtbEvent)
  | 0, _, _ => none
  | fuel + 1, opened, l => do
    let (token, rest) ← word? l
    if token = beginNodeToken then
      let (name, rest) ← cstring? rest
      let rest ← zeros? (pad4 (name.length + 1)) rest
      let events ← tokens strings fuel (false :: opened.set 0 true) rest
      return .beginNode name :: events
    else if token = endNodeToken then
      guard (opened ≠ [])
      let events ← tokens strings fuel opened.tail rest
      return .endNode :: events
    else if token = propToken then
      guard (opened.head? = some false)
      let (length, rest) ← word? rest
      let (offset, rest) ← word? rest
      let (value, rest) ← takeBytes? length rest
      let rest ← zeros? (pad4 length) rest
      let (name, _) ← cstring? (strings.drop offset)
      let events ← tokens strings fuel opened rest
      return .property name value :: events
    else if token = nopToken then tokens strings fuel opened rest
    else
      guard (token = endToken ∧ opened = [] ∧ rest = [])
      return []

/-- The bytes from `offset` on. -/
def slice (blob : List UInt8) (offset length : Nat) : List UInt8 := (blob.drop offset).take length

/-- The events of a blob: the header is consistent, nothing is reserved, the blocks follow each
other without a gap up to the end, and the strings block consists of terminated strings. -/
def decode (blob : List UInt8) : Option (List DtbEvent) := do
  let [magic, total, structOffset, stringsOffset, reserveOffset, version, lastCompatible, _,
    stringsSize, structSize] ← words? 10 blob | none
  guard (magic = Dtb.magic ∧ total = blob.length ∧ version = 17 ∧ lastCompatible = 16)
  guard (40 ≤ reserveOffset ∧ reserveOffset % 8 = 0 ∧ reserveOffset + 16 ≤ structOffset ∧
    slice blob reserveOffset 16 = List.replicate 16 0)
  guard (structOffset % 4 = 0 ∧ structOffset + structSize = stringsOffset ∧
    stringsOffset + stringsSize = total)
  let strings := slice blob stringsOffset stringsSize
  guard (strings.getLast?.all (· = 0))
  tokens strings (structSize + 1) [] (slice blob structOffset structSize)

end Dtb

/-! ## Items -/

/-- A token with what follows it. A property has the offset of its name in the strings block. -/
inductive DtbItem where
  | beginNode (name : List UInt8)
  | property (offset : Nat) (value : List UInt8)
  | endNode
deriving DecidableEq, Repr

namespace DtbItem

def encode : DtbItem → List UInt8
  | beginNode name =>
    storeBe 4 Dtb.beginNodeToken ++ (name ++ 0 :: List.replicate (pad4 (name.length + 1)) 0)
  | property offset value =>
    storeBe 4 Dtb.propToken ++ (storeBe 4 value.length ++ (storeBe 4 offset ++
      (value ++ List.replicate (pad4 value.length) 0)))
  | endNode => storeBe 4 Dtb.endNodeToken

theorem length_encode_mod (i : DtbItem) : i.encode.length % 4 = 0 := by
  cases i with
  | beginNode name =>
    have := add_pad4_mod (name.length + 1)
    simp only [encode, List.length_append, length_storeBe, List.length_cons, List.length_replicate]
    omega
  | property offset value =>
    have := add_pad4_mod value.length
    simp only [encode, List.length_append, length_storeBe, List.length_replicate]
    omega
  | endNode => rfl

theorem four_le_length_encode (i : DtbItem) : 4 ≤ i.encode.length := by
  cases i <;> simp [encode]

/-- The open nodes behind an item. -/
def opens : (opened : List Bool) → DtbItem → Option (List Bool)
  | opened, beginNode _ => some (false :: opened.set 0 true)
  | opened, property _ _ => if opened.head? = some false then some opened else none
  | opened, endNode => if opened = [] then none else some opened.tail

/-- The item stands for the event, with the names in `strings`. -/
inductive Reads (strings : List UInt8) : DtbItem → DtbEvent → Prop
  | beginNode {name : List UInt8} (h : ∀ b ∈ name, b ≠ 0) :
    Reads strings (beginNode name) (.beginNode name)
  | property {offset : Nat} {name value before after : List UInt8}
    (hstrings : strings = before ++ (name ++ 0 :: after)) (hoffset : offset = before.length)
    (hname : ∀ b ∈ name, b ≠ 0) (hoff : offset < 2 ^ 32) (hvalue : value.length < 2 ^ 32) :
    Reads strings (property offset value) (.property name value)
  | endNode : Reads strings endNode .endNode

/-- More strings at the end do not change what is read. -/
theorem Reads.append {strings : List UInt8} {i : DtbItem} {e : DtbEvent} (h : Reads strings i e)
    (more : List UInt8) : Reads (strings ++ more) i e := by
  cases h with
  | beginNode h => exact .beginNode h
  | @property offset name value before after hstrings hoffset hname hoff hvalue =>
    have hmore : strings ++ more = before ++ (name ++ 0 :: (after ++ more)) := by
      rw [hstrings]
      simp only [List.append_assoc, List.cons_append]
    exact .property hmore hoffset hname hoff hvalue
  | endNode => exact .endNode

end DtbItem

namespace Dtb

/-- The open nodes behind all items. -/
def opens : (opened : List Bool) → List DtbItem → Option (List Bool)
  | opened, [] => some opened
  | opened, i :: items => (i.opens opened).bind fun o => opens o items

theorem opens_append (opened : List Bool) (items more : List DtbItem) :
    opens opened (items ++ more) = (opens opened items).bind (opens · more) := by
  induction items generalizing opened with
  | nil => rfl
  | cons i items ih =>
    rw [List.cons_append, opens, opens, Option.bind_assoc]
    congr 1
    funext o
    exact ih o

/-- One item in front of the rest of a structure block. -/
theorem tokens_encode {strings : List UInt8} {i : DtbItem} {e : DtbEvent} {opened o : List Bool}
    {fuel : Nat} {rest : List UInt8} {events : List DtbEvent} (hreads : i.Reads strings e)
    (hopens : i.opens opened = some o) (hrest : tokens strings fuel o rest = some events) :
    tokens strings (fuel + 1) opened (i.encode ++ rest) = some (e :: events) := by
  rw [tokens]
  cases hreads with
  | @beginNode name h =>
    obtain rfl : false :: opened.set 0 true = o := by simpa [DtbItem.opens] using hopens
    simp only [DtbItem.encode, List.append_assoc, List.cons_append, Option.bind_eq_bind,
      Option.bind_some, word?_append (v := beginNodeToken) (by decide), cstring?_append h,
      zeros?_append, hrest, if_pos]
    rfl
  | @property offset name value before after hstrings hoffset hname hoff hvalue =>
    obtain ⟨hhead, rfl⟩ : opened.head? = some false ∧ opened = o := by
      simpa [DtbItem.opens] using hopens
    have hdrop : strings.drop offset = name ++ 0 :: after := by
      rw [hstrings, hoffset, List.drop_left]
    simp only [DtbItem.encode, List.append_assoc, Option.bind_eq_bind, Option.bind_some,
      word?_append (v := propToken) (by decide), word?_append hoff, word?_append hvalue,
      takeBytes?_append rfl, zeros?_append, hrest, hdrop, cstring?_append hname]
    simp [hhead]
  | endNode =>
    obtain ⟨hne, rfl⟩ : opened ≠ [] ∧ opened.tail = o := by simpa [DtbItem.opens] using hopens
    simp only [DtbItem.encode, Option.bind_eq_bind, Option.bind_some,
      word?_append (v := endNodeToken) (by decide), hrest]
    simp [hne]

theorem tokens_end (strings : List UInt8) (fuel : Nat) :
    tokens strings (fuel + 1) [] (storeBe 4 endToken) = some [] := rfl

/-- A structure block of well-nested items, closed by the end token. -/
theorem tokens_items {strings : List UInt8} {items : List DtbItem} {events : List DtbEvent}
    (hreads : List.Forall₂ (DtbItem.Reads strings) items events) {opened : List Bool}
    (hopens : opens opened items = some []) (fuel : Nat) :
    tokens strings (items.length + fuel + 1) opened
      (items.flatMap DtbItem.encode ++ storeBe 4 endToken) = some events := by
  induction hreads generalizing opened with
  | nil =>
    obtain rfl : opened = [] := by simpa [opens] using hopens
    exact tokens_end strings _
  | @cons i e items events hi _ ih =>
    obtain ⟨o, ho, hrest⟩ := Option.bind_eq_some_iff.1 hopens
    rw [List.flatMap_cons, List.append_assoc, List.length_cons,
      show items.length + 1 + fuel + 1 = items.length + fuel + 1 + 1 by omega]
    exact tokens_encode hi ho (ih hrest)

theorem length_items_mod (items : List DtbItem) :
    (items.flatMap DtbItem.encode).length % 4 = 0 := by
  induction items with
  | nil => rfl
  | cons i items ih =>
    have := i.length_encode_mod
    rw [List.flatMap_cons, List.length_append]
    omega

theorem four_mul_length_le (items : List DtbItem) :
    4 * items.length ≤ (items.flatMap DtbItem.encode).length := by
  induction items with
  | nil => simp
  | cons i items ih =>
    have := i.four_le_length_encode
    rw [List.flatMap_cons, List.length_append, List.length_cons]
    omega

/-! ## Blobs -/

/-- The words of the header of a blob with these sizes, whose blocks follow each other. -/
def header (structSize stringsSize : Nat) : List Nat :=
  [magic, 56 + structSize + stringsSize, 56, 56 + structSize, 40, 17, 16, 0, stringsSize,
    structSize]

def blob (struct strings : List UInt8) : List UInt8 :=
  (header struct.length strings.length).flatMap (storeBe 4) ++
    (List.replicate 16 0 ++ (struct ++ strings))

theorem length_header (m n : Nat) : ((header m n).flatMap (storeBe 4)).length = 40 := by
  simp [header]

theorem length_blob (struct strings : List UInt8) :
    (blob struct strings).length = 56 + struct.length + strings.length := by
  simp only [blob, List.length_append, length_header, List.length_replicate]
  omega

/-- A piece of a list between two others. -/
theorem slice_append {before piece after : List UInt8} {offset length : Nat}
    (hoffset : before.length = offset) (hlength : piece.length = length) :
    slice (before ++ (piece ++ after)) offset length = piece := by
  rw [slice, ← hoffset, List.drop_left, ← hlength, List.take_left]

theorem slice_reserve (struct strings : List UInt8) :
    slice (blob struct strings) 40 16 = List.replicate 16 0 :=
  slice_append (length_header _ _) List.length_replicate

theorem slice_struct (struct strings : List UInt8) :
    slice (blob struct strings) 56 struct.length = struct := by
  rw [blob, ← List.append_assoc]
  exact slice_append (by simp only [List.length_append, length_header, List.length_replicate]) rfl

theorem slice_strings (struct strings : List UInt8) :
    slice (blob struct strings) (56 + struct.length) strings.length = strings := by
  have hcat : blob struct strings = ((header struct.length strings.length).flatMap (storeBe 4) ++
      (List.replicate 16 0 ++ struct)) ++ (strings ++ []) := by
    simp only [blob, List.append_assoc, List.append_nil]
  rw [hcat]
  refine slice_append ?_ rfl
  simp only [List.length_append, length_header, List.length_replicate]
  omega

/-- The decoder reads back the events of well-nested items, if the sizes fit their fields. -/
theorem decode_blob {strings : List UInt8} {items : List DtbItem} {events : List DtbEvent}
    (hreads : List.Forall₂ (DtbItem.Reads strings) items events)
    (hopens : opens [] items = some []) (hstrings : strings.getLast?.all (· = 0) = true)
    (hsize : 60 + (items.flatMap DtbItem.encode).length + strings.length < 2 ^ 32) :
    decode (blob (items.flatMap DtbItem.encode ++ storeBe 4 endToken) strings) = some events := by
  set struct := items.flatMap DtbItem.encode ++ storeBe 4 endToken with hstruct
  have hlen : struct.length = (items.flatMap DtbItem.encode).length + 4 := by
    rw [hstruct, List.length_append, length_storeBe]
  have hwords : words? 10 (blob struct strings) = some (header struct.length strings.length) := by
    refine words?_append (header struct.length strings.length) ?_ _
    simp only [header, List.mem_cons, List.not_mem_nil, or_false, magic]
    omega
  have hmod := length_items_mod items
  have hfuel : struct.length + 1 = items.length + (struct.length - items.length) + 1 := by
    have := four_mul_length_le items
    omega
  have htokens : tokens strings (struct.length + 1) [] struct = some events := by
    rw [hfuel]
    exact tokens_items hreads hopens _
  rw [decode, hwords]
  simp [header, length_blob, slice_reserve, slice_struct, slice_strings, hstrings, htokens]

end Dtb

end Lib
