import Mathlib.Algebra.GroupWithZero.Nat
import Mathlib.Data.List.Sort
import CrFaucet.Hex

/-!
Owns canonical CBOR for numbers, byte strings, texts, arrays and maps: the encoder, and a strict
decoder that takes nothing else than what the encoder writes.

Canonical means that a head is as short as its argument allows, that every length is given in
advance, and that the keys of a map are ordered by the length of their encoding and then byte by
byte, each of them once.

`Reads` relates a reader to a writer, in both directions; the decoder is put together from readers,
and its law from theirs (`reads_item`).

Does not own negative numbers, tags and simple values, which the decoder refuses, or whether the
bytes of a text are UTF-8.
-/

set_option autoImplicit false

namespace CrFaucet.Cbor

inductive Item where
  | uint (value : Nat)
  | bytes (payload : List UInt8)
  | text (payload : List UInt8)
  | array (items : List Item)
  | map (entries : List (Item × Item))

/-! ### Heads -/

/-- The shortest form of an argument: the lower five bits of the first byte, and how many bytes
follow. -/
def shortest (argument : Nat) : Nat × Nat :=
  if argument < 24 then (argument, 0)
  else if argument < 2 ^ 8 then (24, 1)
  else if argument < 2 ^ 16 then (25, 2)
  else if argument < 2 ^ 32 then (26, 4)
  else (27, 8)

/-- A major type and its argument. -/
def head (parts : Nat × Nat) : List UInt8 :=
  UInt8.ofNat (parts.1 * 32 + (shortest parts.2).1) ::
    (Hex.toLe (shortest parts.2).2 parts.2).reverse

theorem head_of_lt_24 {parts : Nat × Nat} (small : parts.2 < 24) :
    head parts = [UInt8.ofNat (parts.1 * 32 + parts.2)] := by
  have form : shortest parts.2 = (parts.2, 0) := if_pos small
  rw [head, form]
  rfl

/-- How many bytes follow a first byte, by its lower five bits. -/
def following (info : Nat) : Option Nat :=
  if info < 24 then some 0
  else if info = 24 then some 1
  else if info = 25 then some 2
  else if info = 26 then some 4
  else if info = 27 then some 8
  else none

/-- The argument of a head, from the lower five bits and from the bytes that follow. -/
def argumentOf (info : Nat) (more : List UInt8) : Nat :=
  if info < 24 then info else Hex.ofLe more.reverse

/-- A head, if it has the shortest form. -/
def readHead : List UInt8 → Option ((Nat × Nat) × List UInt8)
  | [] => none
  | first :: rest =>
      let info := first.toNat % 32
      (following info).bind fun width =>
        let argument := argumentOf info (rest.take width)
        if width ≤ rest.length ∧ shortest argument = (info, width) then
          some ((first.toNat / 32, argument), rest.drop width)
        else none

/-! ### The encoder -/

mutual

def encode : Item → List UInt8
  | .uint value => head (0, value)
  | .bytes payload => head (2, payload.length) ++ payload
  | .text payload => head (3, payload.length) ++ payload
  | .array items => head (4, items.length) ++ encodeItems items
  | .map entries => head (5, entries.length) ++ encodeEntries entries

def encodeItems : List Item → List UInt8
  | [] => []
  | item :: rest => encode item ++ encodeItems rest

def encodeEntries : List (Item × Item) → List UInt8
  | [] => []
  | (key, value) :: rest => (encode key ++ encode value) ++ encodeEntries rest

end

def encodeEntry (entry : Item × Item) : List UInt8 := encode entry.1 ++ encode entry.2

theorem encodeItems_eq (items : List Item) : encodeItems items = items.flatMap encode := by
  induction items with
  | nil => rfl
  | cons item rest inductionHypothesis =>
      rw [encodeItems, List.flatMap_cons, inductionHypothesis]

theorem encodeEntries_eq (entries : List (Item × Item)) :
    encodeEntries entries = entries.flatMap encodeEntry := by
  induction entries with
  | nil => rfl
  | cons entry rest inductionHypothesis =>
      rw [encodeEntries, List.flatMap_cons, inductionHypothesis, encodeEntry]

/-! ### The order of keys -/

/-- By length, then byte by byte. -/
def KeyLe (first second : List UInt8) : Prop :=
  first.length < second.length ∨ first.length = second.length ∧ first ≤ second

instance (first second : List UInt8) : Decidable (KeyLe first second) :=
  inferInstanceAs (Decidable (_ ∨ _))

theorem KeyLe.trans {first second third : List UInt8} (low : KeyLe first second)
    (high : KeyLe second third) : KeyLe first third := by
  rcases low with shorter | ⟨length, below⟩
  · rcases high with shorter' | ⟨length', _⟩
    · exact Or.inl (Nat.lt_trans shorter shorter')
    · exact Or.inl (length' ▸ shorter)
  · rcases high with shorter' | ⟨length', below'⟩
    · exact Or.inl (length ▸ shorter')
    · exact Or.inr ⟨length.trans length', List.le_trans below below'⟩

theorem KeyLe.total (first second : List UInt8) : KeyLe first second ∨ KeyLe second first := by
  rcases Nat.lt_trichotomy first.length second.length with shorter | same | longer
  · exact Or.inl (Or.inl shorter)
  · exact (List.le_total first second).imp (fun below => Or.inr ⟨same, below⟩)
      fun below => Or.inr ⟨same.symm, below⟩
  · exact Or.inr (Or.inl longer)

theorem KeyLe.antisymm {first second : List UInt8} (low : KeyLe first second)
    (high : KeyLe second first) : first = second := by
  rcases low with shorter | ⟨length, below⟩
  · rcases high with longer | ⟨same, _⟩
    · exact absurd shorter (Nat.lt_asymm longer)
    · exact absurd same.symm (Nat.ne_of_lt shorter)
  · rcases high with longer | ⟨_, above⟩
    · exact absurd length.symm (Nat.ne_of_lt longer)
    · exact List.le_antisymm below above

/-- Entries in the order of their keys, no key twice. -/
def Ascending (entries : List (Item × Item)) : Prop :=
  entries.Pairwise fun first second =>
    KeyLe (encode first.1) (encode second.1) ∧ encode first.1 ≠ encode second.1

instance (entries : List (Item × Item)) : Decidable (Ascending entries) :=
  inferInstanceAs (Decidable (List.Pairwise _ _))

def EntryLe (first second : Item × Item) : Prop := KeyLe (encode first.1) (encode second.1)

instance (first second : Item × Item) : Decidable (EntryLe first second) :=
  inferInstanceAs (Decidable (KeyLe _ _))

def mapOf (listing : List (Item × Item)) : Item := .map (listing.insertionSort EntryLe)

instance : IsTrans (Item × Item) EntryLe := ⟨fun _ _ _ => KeyLe.trans⟩

instance : Std.Total EntryLe := ⟨fun _ _ => KeyLe.total _ _⟩

/-- **There is one order for the entries of a map.** -/
theorem mapOf_eq {listing entries : List (Item × Item)} (same : listing.Perm entries)
    (ascending : Ascending entries) : mapOf listing = .map entries := by
  have sorted : listing.insertionSort EntryLe = entries := by
    refine List.Perm.eq_of_pairwise ?_ (List.pairwise_insertionSort EntryLe listing)
      (ascending.imp fun apart => apart.1) ((List.perm_insertionSort EntryLe listing).trans same)
    intro first second inSorted inEntries low high
    have inEntries' : first ∈ entries :=
      same.subset ((List.perm_insertionSort EntryLe listing).subset inSorted)
    have distinct : (entries.map fun entry => encode entry.1).Nodup :=
      List.pairwise_map.2 (ascending.imp fun apart => apart.2)
    exact List.inj_on_of_nodup_map distinct inEntries' inEntries (KeyLe.antisymm low high)
  rw [mapOf, sorted]

/-! ### The strict decoder -/

def readExactly (count : Nat) (bytes : List UInt8) : Option (List UInt8 × List UInt8) :=
  if count ≤ bytes.length then some (bytes.take count, bytes.drop count) else none

section Readers

variable {α : Type}

def readMany (read : List UInt8 → Option (α × List UInt8)) :
    Nat → List UInt8 → Option (List α × List UInt8)
  | 0, bytes => some ([], bytes)
  | count + 1, bytes =>
      (read bytes).bind fun first =>
        (readMany read count first.2).map fun others => (first.1 :: others.1, others.2)

def readPair (read : List UInt8 → Option (α × List UInt8)) (bytes : List UInt8) :
    Option ((α × α) × List UInt8) :=
  (read bytes).bind fun first =>
    (read first.2).map fun second => ((first.1, second.1), second.2)

end Readers

/-- What stands after a head. `read` is for the items inside. -/
def readBody (read : List UInt8 → Option (Item × List UInt8)) (parts : Nat × Nat)
    (bytes : List UInt8) : Option (Item × List UInt8) :=
  match parts.1 with
  | 0 => some (.uint parts.2, bytes)
  | 2 => (readExactly parts.2 bytes).map fun payload => (.bytes payload.1, payload.2)
  | 3 => (readExactly parts.2 bytes).map fun payload => (.text payload.1, payload.2)
  | 4 => (readMany read parts.2 bytes).map fun items => (.array items.1, items.2)
  | 5 =>
      (readMany (readPair read) parts.2 bytes).bind fun entries =>
        if Ascending entries.1 then some (.map entries.1, entries.2) else none
  | _ => none

/-- The first item of a byte string, with what is left of it, to a depth of nesting. -/
def readItem : Nat → List UInt8 → Option (Item × List UInt8)
  | 0, _ => none
  | depth + 1, bytes => (readHead bytes).bind fun parts => readBody (readItem depth) parts.1 parts.2

/-- The item that a byte string is. -/
def decode (depth : Nat) (bytes : List UInt8) : Option Item :=
  match readItem depth bytes with
  | some (item, []) => some item
  | _ => none

/-! ### Readers and writers -/

/-- A reader takes what the writer writes of a valid value, with anything after it, and nothing
else. -/
structure Reads {α : Type} (read : List UInt8 → Option (α × List UInt8)) (write : α → List UInt8)
    (valid : α → Prop) : Prop where
  complete : ∀ value rest, valid value → read (write value ++ rest) = some (value, rest)
  sound : ∀ bytes value rest, read bytes = some (value, rest) →
    valid value ∧ bytes = write value ++ rest

theorem readExactly_append (payload rest : List UInt8) :
    readExactly payload.length (payload ++ rest) = some (payload, rest) := by
  have enough : payload.length ≤ (payload ++ rest).length := by
    rw [List.length_append]
    exact Nat.le_add_right ..
  rw [readExactly, if_pos enough, List.take_left, List.drop_left]

theorem reads_exactly (count : Nat) :
    Reads (readExactly count) id fun payload => payload.length = count where
  complete := by
    intro payload rest length
    rw [← length]
    exact readExactly_append payload rest
  sound := by
    intro bytes payload rest read
    unfold readExactly at read
    split at read
    · rename_i enough
      cases read
      exact ⟨List.length_take_of_le enough, (List.take_append_drop count bytes).symm⟩
    · cases read

section Combinators

variable {α : Type} {read : List UInt8 → Option (α × List UInt8)} {write : α → List UInt8}
  {valid : α → Prop}

theorem Reads.pair (reads : Reads read write valid) :
    Reads (readPair read) (fun both => write both.1 ++ write both.2)
      fun both => valid both.1 ∧ valid both.2 where
  complete := by
    intro both rest isValid
    rw [readPair, List.append_assoc, reads.complete _ _ isValid.1, Option.bind_some,
      reads.complete _ _ isValid.2]
    rfl
  sound := by
    intro bytes both rest done
    obtain ⟨⟨first, afterFirst⟩, readFirst, others⟩ := Option.bind_eq_some_iff.1 done
    obtain ⟨⟨second, afterSecond⟩, readSecond, same⟩ := Option.map_eq_some_iff.1 others
    cases same
    obtain ⟨firstValid, firstBytes⟩ := reads.sound _ _ _ readFirst
    obtain ⟨secondValid, secondBytes⟩ : valid second ∧ afterFirst = _ :=
      reads.sound _ _ _ readSecond
    refine ⟨⟨firstValid, secondValid⟩, ?_⟩
    rw [firstBytes, secondBytes, List.append_assoc]

theorem Reads.many (reads : Reads read write valid) (count : Nat) :
    Reads (readMany read count) (fun values => values.flatMap write)
      fun values => values.length = count ∧ ∀ value ∈ values, valid value := by
  induction count with
  | zero =>
      refine ⟨?_, ?_⟩
      · intro values rest isValid
        rw [List.length_eq_zero_iff.1 isValid.1]
        rfl
      · intro bytes values rest done
        cases done
        exact ⟨⟨rfl, fun _ member => by cases member⟩, rfl⟩
  | succ count inductionHypothesis =>
      refine ⟨?_, ?_⟩
      · intro values rest isValid
        cases values with
        | nil => cases isValid.1
        | cons value others =>
            have othersValid : others.length = count ∧ ∀ value ∈ others, valid value :=
              ⟨Nat.succ.inj isValid.1, fun other member =>
                isValid.2 other (List.mem_cons_of_mem _ member)⟩
            rw [List.flatMap_cons, List.append_assoc, readMany,
              reads.complete _ _ (isValid.2 value (List.mem_cons_self ..)), Option.bind_some,
              inductionHypothesis.complete _ _ othersValid]
            rfl
      · intro bytes values rest done
        obtain ⟨⟨value, afterValue⟩, readValue, tail⟩ := Option.bind_eq_some_iff.1 done
        obtain ⟨⟨others, afterOthers⟩, readOthers, same⟩ := Option.map_eq_some_iff.1 tail
        cases same
        obtain ⟨valueValid, valueBytes⟩ := reads.sound _ _ _ readValue
        obtain ⟨⟨length, othersValid⟩, othersBytes⟩ : _ ∧ afterValue = _ :=
          inductionHypothesis.sound _ _ _ readOthers
        refine ⟨⟨congrArg Nat.succ length, ?_⟩, ?_⟩
        · intro other member
          rcases List.mem_cons.1 member with rfl | member
          · exact valueValid
          · exact othersValid other member
        · rw [valueBytes, othersBytes, List.flatMap_cons, List.append_assoc]

end Combinators

/-! ### Heads are read as they are written -/

theorem shortest_spec {argument : Nat} (fits : argument < 2 ^ 64) :
    ∃ info width, shortest argument = (info, width) ∧ info < 32 ∧ following info = some width ∧
      argumentOf info (Hex.toLe width argument).reverse = argument := by
  have long : ∀ info width, 24 ≤ info → argument < 256 ^ width →
      argumentOf info (Hex.toLe width argument).reverse = argument := by
    intro info width large bound
    rw [argumentOf, if_neg (Nat.not_lt.2 large), List.reverse_reverse, Hex.ofLe_toLe bound]
  unfold shortest
  split
  · rename_i small
    exact ⟨argument, 0, rfl, Nat.lt_trans small (by decide), if_pos small, if_pos small⟩
  · split
    · rename_i one
      exact ⟨24, 1, rfl, by decide, rfl, long 24 1 (by decide) one⟩
    · split
      · rename_i two
        exact ⟨25, 2, rfl, by decide, rfl, long 25 2 (by decide) two⟩
      · split
        · rename_i four
          exact ⟨26, 4, rfl, by decide, rfl, long 26 4 (by decide) four⟩
        · exact ⟨27, 8, rfl, by decide, rfl, long 27 8 (by decide) fits⟩

theorem following_cases {info width : Nat} (follows : following info = some width) :
    info < 24 ∧ width = 0 ∨ 24 ≤ info ∧ width ≤ 8 := by
  unfold following at follows
  grind

theorem toLe_argumentOf {info : Nat} {more : List UInt8}
    (follows : following info = some more.length) :
    (Hex.toLe more.length (argumentOf info more)).reverse = more ∧
      argumentOf info more < 2 ^ 64 := by
  rcases following_cases follows with ⟨small, none⟩ | ⟨large, few⟩
  · rw [List.length_eq_zero_iff.1 none, argumentOf, if_pos small]
    exact ⟨rfl, Nat.lt_trans small (by decide)⟩
  · rw [argumentOf, if_neg (Nat.not_lt.2 large), ← List.length_reverse, Hex.toLe_ofLe,
      List.reverse_reverse]
    refine ⟨rfl, Nat.lt_of_lt_of_le (Hex.ofLe_lt _) ?_⟩
    rw [List.length_reverse]
    exact Nat.pow_le_pow_right (by decide) few

theorem toNat_first {major info : Nat} (isMajor : major < 8) (isInfo : info < 32) :
    (UInt8.ofNat (major * 32 + info)).toNat = major * 32 + info := by
  rw [UInt8.toNat_ofNat']
  omega

theorem readHead_head {major argument : Nat} (isMajor : major < 8) (fits : argument < 2 ^ 64)
    (rest : List UInt8) :
    readHead (head (major, argument) ++ rest) = some ((major, argument), rest) := by
  obtain ⟨info, width, form, isInfo, follows, back⟩ := shortest_spec fits
  have first := toNat_first isMajor isInfo
  have low : (major * 32 + info) % 32 = info := by omega
  have high : (major * 32 + info) / 32 = major := by omega
  have length : (Hex.toLe width argument).reverse.length = width := by
    rw [List.length_reverse, Hex.length_toLe]
  have enough : width ≤ ((Hex.toLe width argument).reverse ++ rest).length := by
    rw [List.length_append, length]
    exact Nat.le_add_right ..
  rw [head, form, List.cons_append, readHead]
  dsimp only
  rw [first, low, high, follows, Option.bind_some, List.take_left' length,
    List.drop_left' length, back, if_pos ⟨enough, form⟩]

theorem reads_head :
    Reads readHead head fun parts => parts.1 < 8 ∧ parts.2 < 2 ^ 64 where
  complete := fun _ rest isValid => readHead_head isValid.1 isValid.2 rest
  sound := by
    intro bytes parts rest read
    cases bytes with
    | nil => cases read
    | cons first others =>
        obtain ⟨width, follows, guarded⟩ := Option.bind_eq_some_iff.1 read
        dsimp only at guarded
        split at guarded
        · rename_i accepted
          cases guarded
          have isByte := first.toNat_lt
          have length : (others.take width).length = width := List.length_take_of_le accepted.1
          obtain ⟨written, fits⟩ := toLe_argumentOf (length.symm ▸ follows)
          refine ⟨⟨by omega, fits⟩, ?_⟩
          rw [length] at written
          rw [head, accepted.2, Nat.div_add_mod', UInt8.ofNat_toNat, written, List.cons_append,
            List.take_append_drop]
        · cases guarded

/-! ### Items -/

/-- A value that has a canonical encoding to a depth of nesting. -/
def Valid : Nat → Item → Prop
  | 0, _ => False
  | _ + 1, .uint value => value < 2 ^ 64
  | _ + 1, .bytes payload => payload.length < 2 ^ 64
  | _ + 1, .text payload => payload.length < 2 ^ 64
  | depth + 1, .array items => items.length < 2 ^ 64 ∧ ∀ item ∈ items, Valid depth item
  | depth + 1, .map entries =>
      entries.length < 2 ^ 64 ∧ Ascending entries ∧
        ∀ entry ∈ entries, Valid depth entry.1 ∧ Valid depth entry.2

/-- The major type of an item and its argument. -/
def headOf : Item → Nat × Nat
  | .uint value => (0, value)
  | .bytes payload => (2, payload.length)
  | .text payload => (3, payload.length)
  | .array items => (4, items.length)
  | .map entries => (5, entries.length)

/-- What stands after the head. -/
def bodyOf : Item → List UInt8
  | .uint _ => []
  | .bytes payload => payload
  | .text payload => payload
  | .array items => items.flatMap encode
  | .map entries => entries.flatMap encodeEntry

theorem encode_eq (item : Item) : encode item = head (headOf item) ++ bodyOf item := by
  cases item with
  | uint value => rw [encode, headOf, bodyOf, List.append_nil]
  | bytes payload => rw [encode, headOf, bodyOf]
  | text payload => rw [encode, headOf, bodyOf]
  | array items => rw [encode, headOf, bodyOf, encodeItems_eq]
  | map entries => rw [encode, headOf, bodyOf, encodeEntries_eq]

theorem headOf_valid {depth : Nat} {item : Item} (valid : Valid (depth + 1) item) :
    (headOf item).1 < 8 ∧ (headOf item).2 < 2 ^ 64 := by
  cases item with
  | uint value => exact ⟨(by decide : 0 < 8), valid⟩
  | bytes payload => exact ⟨(by decide : 2 < 8), valid⟩
  | text payload => exact ⟨(by decide : 3 < 8), valid⟩
  | array items => exact ⟨(by decide : 4 < 8), valid.1⟩
  | map entries => exact ⟨(by decide : 5 < 8), valid.1⟩

section Body

variable {depth : Nat}

theorem readBody_bodyOf (reads : Reads (readItem depth) encode (Valid depth)) {item : Item}
    (valid : Valid (depth + 1) item) (rest : List UInt8) :
    readBody (readItem depth) (headOf item) (bodyOf item ++ rest) = some (item, rest) := by
  cases item with
  | uint value => rfl
  | bytes payload =>
      change (readExactly payload.length (payload ++ rest)).map _ = _
      rw [readExactly_append]
      rfl
  | text payload =>
      change (readExactly payload.length (payload ++ rest)).map _ = _
      rw [readExactly_append]
      rfl
  | array items =>
      have read := (reads.many items.length).complete items rest ⟨rfl, valid.2⟩
      change (readMany (readItem depth) items.length (items.flatMap encode ++ rest)).map _ = _
      rw [read]
      rfl
  | map entries =>
      have read := (reads.pair.many entries.length).complete entries rest ⟨rfl, valid.2.2⟩
      change (readMany (readPair (readItem depth)) entries.length
        (entries.flatMap encodeEntry ++ rest)).bind _ = _
      change readMany _ _ (entries.flatMap encodeEntry ++ rest) = _ at read
      rw [read, Option.bind_some, if_pos valid.2.1]

theorem readBody_sound (reads : Reads (readItem depth) encode (Valid depth)) {parts : Nat × Nat}
    (fits : parts.2 < 2 ^ 64) {bytes rest : List UInt8} {item : Item}
    (read : readBody (readItem depth) parts bytes = some (item, rest)) :
    Valid (depth + 1) item ∧ parts = headOf item ∧ bytes = bodyOf item ++ rest := by
  obtain ⟨major, argument⟩ := parts
  unfold readBody at read
  dsimp only at read fits
  split at read
  · cases read
    exact ⟨fits, rfl, rfl⟩
  · obtain ⟨⟨payload, left⟩, taken, same⟩ := Option.map_eq_some_iff.1 read
    cases same
    obtain ⟨length, split⟩ := (reads_exactly argument).sound _ _ _ taken
    exact ⟨length.trans_lt fits, congrArg (Prod.mk 2) length.symm, split⟩
  · obtain ⟨⟨payload, left⟩, taken, same⟩ := Option.map_eq_some_iff.1 read
    cases same
    obtain ⟨length, split⟩ := (reads_exactly argument).sound _ _ _ taken
    exact ⟨length.trans_lt fits, congrArg (Prod.mk 3) length.symm, split⟩
  · obtain ⟨⟨items, left⟩, taken, same⟩ := Option.map_eq_some_iff.1 read
    cases same
    obtain ⟨⟨length, valid⟩, split⟩ := (reads.many argument).sound _ _ _ taken
    exact ⟨⟨length.trans_lt fits, valid⟩, congrArg (Prod.mk 4) length.symm, split⟩
  · obtain ⟨⟨entries, left⟩, taken, guarded⟩ := Option.bind_eq_some_iff.1 read
    dsimp only at guarded
    split at guarded
    · rename_i ascending
      cases guarded
      obtain ⟨⟨length, valid⟩, split⟩ := (reads.pair.many argument).sound _ _ _ taken
      exact ⟨⟨length.trans_lt fits, ascending, valid⟩,
        congrArg (Prod.mk 5) length.symm, split⟩
    · cases guarded
  · cases read

end Body

theorem reads_item (depth : Nat) : Reads (readItem depth) encode (Valid depth) := by
  induction depth with
  | zero =>
      exact ⟨fun _ _ impossible => absurd impossible id, fun _ _ _ impossible => by cases impossible⟩
  | succ depth inductionHypothesis =>
      refine ⟨?_, ?_⟩
      · intro item rest valid
        rw [encode_eq, List.append_assoc, readItem,
          reads_head.complete _ _ (headOf_valid valid), Option.bind_some]
        exact readBody_bodyOf inductionHypothesis valid rest
      · intro bytes item rest read
        obtain ⟨⟨parts, afterHead⟩, readParts, readRest⟩ := Option.bind_eq_some_iff.1 read
        obtain ⟨⟨_, fits⟩, isHead⟩ := reads_head.sound _ _ _ readParts
        obtain ⟨valid, isParts, isBody⟩ : _ ∧ _ ∧ afterHead = _ :=
          readBody_sound inductionHypothesis fits readRest
        refine ⟨valid, ?_⟩
        rw [isHead, isBody, encode_eq, List.append_assoc, isParts]

/-- **The decoder takes exactly the encodings of valid items.** -/
theorem decode_eq_some_iff {depth : Nat} {bytes : List UInt8} {item : Item} :
    decode depth bytes = some item ↔ Valid depth item ∧ bytes = encode item := by
  constructor
  · intro decoded
    unfold decode at decoded
    split at decoded
    · rename_i found read
      cases decoded
      obtain ⟨valid, isBytes⟩ := (reads_item depth).sound _ _ _ read
      exact ⟨valid, isBytes.trans (List.append_nil _)⟩
    · cases decoded
  · intro ⟨valid, isBytes⟩
    have read := (reads_item depth).complete item [] valid
    rw [List.append_nil] at read
    rw [isBytes, decode, read]

theorem encode_injective {depth : Nat} {first second : Item} (valid : Valid depth first)
    (valid' : Valid depth second) (same : encode first = encode second) : first = second := by
  have decoded : decode depth (encode first) = some first := decode_eq_some_iff.2 ⟨valid, rfl⟩
  have decoded' : decode depth (encode first) = some second :=
    decode_eq_some_iff.2 ⟨valid', same⟩
  exact Option.some.inj (decoded.symm.trans decoded')

end CrFaucet.Cbor
