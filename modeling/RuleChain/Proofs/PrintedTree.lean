import Mathlib.Data.List.Basic
import Mathlib.Tactic.IntervalCases
import Mathlib.Tactic.Lemma
import RuleChain.Tree.Printer

/-!
# Printed trees

A tree is printed without white space, and the reader of documents takes the text for the same tree
again, as long as there is room for its nesting. Floats are left out: a numeral need not be read as
the float that it was printed for.
-/

namespace RuleChain.Proofs
open RuleChain.Json RuleChain.Text RuleChain.Tree

/-- Trees without floats, whose containers nest no deeper than `room` and whose objects hold no key
twice. -/
inductive Printable : Nat → Tree → Prop where
  | null (room : Nat) : Printable room .null
  | bool (room : Nat) (b : Bool) : Printable room (.bool b)
  | integer (room : Nat) {i : Int} (h : IsWord i) : Printable room (.number (.integer i h))
  | text (room : Nat) (s : String) : Printable room (.text s)
  | list {room : Nat} {items : List Tree} (h : ∀ item ∈ items, Printable room item) :
      Printable (room + 1) (.list items)
  | object {room : Nat} {members : List (String × Tree)} (hkeys : (Table.keys members).Nodup)
      (h : ∀ member ∈ members, Printable room member.2) : Printable (room + 1) (.object members)

/-- What may stand behind a printed value: nothing, a comma or a closing bracket. -/
def Follows (rest : List Char) : Prop :=
  ∀ c ∈ rest.head?, c = ',' ∨ c = ']' ∨ c = '\x7d'

/-- A printed number starts with a sign or a digit. -/
def StartsNumber (c : Char) : Prop :=
  c = '-' ∨ c.isDigit = true

/-- Whatever may follow a printed tree, the tree is read back. -/
def ReadBack (room : Nat) (t : Tree) : Prop :=
  ∀ fuel rest, 2 * t.chars.length ≤ fuel → Follows rest →
    ∃ document, readValue fuel (t.chars ++ rest) = some (document, rest) ∧
      ofDocument? room document = some t

/-- A printed tree starts with no blank and is not taken for the end of a list. -/
def Starts (s : List Char) : Prop :=
  ∃ c rest, s = c :: rest ∧ c ≠ ' ' ∧ c ≠ '\t' ∧ c ≠ '\n' ∧ c ≠ '\r' ∧ c ≠ ']'

section Strings

/-- How a character of a printed string is spelled: control characters without an escape of their
own are units. -/
def spelledPiece (c : Char) : Piece :=
  if (escapeChar c).length = 6 then .unit c.toNat else .char c

lemma readPieces_control {c : Char} (hc : c.toNat < 0x20) (before : List Piece)
    (rest : List Char) :
    readPieces before (escapeChar c ++ rest) = readPieces (spelledPiece c :: before) rest := by
  obtain ⟨n, hn, rfl⟩ : ∃ n < 0x20, c = Char.ofNat n := ⟨c.toNat, hc, (Char.ofNat_toNat c).symm⟩
  interval_cases n <;> rfl

lemma escapeChar_of_le {c : Char} (hc : 0x20 ≤ c.toNat) (hquote : c ≠ '"') (hslash : c ≠ '\\') :
    escapeChar c = [c] := by
  have hne : ∀ d : Char, d.toNat < 0x20 → c ≠ d := by
    rintro d hd rfl
    omega
  have hlow : ¬c.toNat < 0x10 := by omega
  have hcontrol : ¬c.toNat < 0x20 := by omega
  simp [escapeChar, hquote, hslash, hne '\x08' (by decide), hne '\t' (by decide),
    hne '\n' (by decide), hne '\x0c' (by decide), hne '\r' (by decide), hlow, hcontrol]

lemma length_escapeChar_of_le {c : Char} (hc : 0x20 ≤ c.toNat) : (escapeChar c).length ≠ 6 := by
  by_cases hquote : c = '"'
  · subst hquote
    decide
  · by_cases hslash : c = '\\'
    · subst hslash
      decide
    · simp [escapeChar_of_le hc hquote hslash]

/-- A printed character is read back as a piece. -/
lemma readPieces_escapeChar (c : Char) (before : List Piece) (rest : List Char) :
    readPieces before (escapeChar c ++ rest) = readPieces (spelledPiece c :: before) rest := by
  by_cases hc : c.toNat < 0x20
  · exact readPieces_control hc before rest
  · by_cases hquote : c = '"'
    · subst hquote
      rfl
    · by_cases hslash : c = '\\'
      · subst hslash
        rfl
      · have hchar := escapeChar_of_le (Nat.le_of_not_lt hc) hquote hslash
        rw [spelledPiece, hchar, List.singleton_append, readPieces]
        · simp [hc]
        all_goals simp_all

lemma readPieces_spelled (s : List Char) (before : List Piece) (rest : List Char) :
    readPieces before (s.flatMap escapeChar ++ '"' :: rest) =
      some (before.reverse ++ s.map spelledPiece, rest) := by
  induction s generalizing before with
  | nil => simp [readPieces]
  | cons c s ih =>
    rw [List.flatMap_cons, List.append_assoc, readPieces_escapeChar, ih]
    simp

lemma decodePieces?_unit {n : Nat} (hn : n < 0x20) (rest : List Piece) :
    decodePieces? (.unit n :: rest) = (decodePieces? rest).map (Char.ofNat n :: ·) := by
  have hhigh : isHighUnit n = false := by simp [isHighUnit]; omega
  have hlow : isLowUnit n = false := by simp [isLowUnit]; omega
  cases rest with
  | nil => simp [decodePieces?, hhigh, hlow]
  | cons piece rest => cases piece <;> simp [decodePieces?, hhigh, hlow]

lemma decodePieces?_spelled (s : List Char) : decodePieces? (s.map spelledPiece) = some s := by
  induction s with
  | nil => rfl
  | cons c s ih =>
    rw [List.map_cons, spelledPiece]
    split
    · next hunit =>
      have hc : c.toNat < 0x20 := Nat.lt_of_not_le fun hle => length_escapeChar_of_le hle hunit
      rw [decodePieces?_unit hc, ih, Option.map_some, Char.ofNat_toNat]
    · rw [decodePieces?, ih, Option.map_some]

lemma decodeText?_spelled (s : String) : decodeText? (s.toList.map spelledPiece) = some s := by
  rw [decodeText?, decodePieces?_spelled, Option.map_some, String.ofList_toList]

end Strings

section Numbers

lemma integer_chars (i : Int) :
    (toString i).toList =
      if i < 0 then '-' :: (toString i.natAbs).toList else (toString i.natAbs).toList := by
  cases i with
  | ofNat n => rfl
  | negSucc n =>
    have hminus : (toString (Int.negSucc n)).toList = '-' :: (toString (n + 1)).toList :=
      String.toList_append
    rw [hminus, if_pos (Int.negSucc_lt_zero n), Int.natAbs_negSucc]

lemma isDigit_of_mem_toString {n : Nat} {c : Char} (hc : c ∈ (toString n).toList) :
    c.isDigit = true :=
  (isNumeral_iff.1 (isNumeral_toString n)).2 c hc

lemma toString_ne_nil (n : Nat) : (toString n).toList ≠ [] :=
  (isNumeral_iff.1 (isNumeral_toString n)).1

lemma StartsNumber.ne {c d : Char} (h : StartsNumber c) (hd : (d == '-' || d.isDigit) = false) :
    c ≠ d := by
  rintro rfl
  obtain rfl | hdigit := h
  · simp at hd
  · simp [hdigit] at hd

lemma exists_head_of_integer (i : Int) : ∃ c s, (toString i).toList = c :: s ∧ StartsNumber c := by
  rw [integer_chars]
  split
  · exact ⟨_, _, rfl, .inl rfl⟩
  · obtain ⟨c, s, hs⟩ := List.exists_cons_of_ne_nil (toString_ne_nil i.natAbs)
    exact ⟨c, s, hs, .inr (isDigit_of_mem_toString (hs ▸ List.mem_cons_self))⟩

/-- Only zero is printed with a zero in front. -/
lemma head_toDigits {n : Nat} (hn : n ≠ 0) : (Nat.toDigits 10 n).head? ≠ some '0' := by
  induction n using Nat.strongRecOn with
  | ind n ih =>
    rw [Nat.toDigits_eq_if (by decide)]
    split
    · next hlt =>
      have hdigit : ∀ d < 10, d ≠ 0 → Nat.digitChar d ≠ '0' := by decide
      simpa using hdigit n hlt hn
    · next hle =>
      have hfront := ih (n / 10) (by omega) (by omega)
      rwa [List.head?_append_of_ne_nil _ Nat.toDigits_ne_nil]

lemma no_needless_zero (n : Nat) :
    ((toString n).toList.isEmpty || (toString n).toList.head? == some '0' &&
      (toString n).toList.length != 1) = false := by
  have hdigits : (toString n).toList = Nat.toDigits 10 n := by
    rw [Nat.toString_eq_repr, Nat.repr_eq_ofList_toDigits, String.toList_ofList]
  rw [hdigits]
  by_cases hn : n = 0
  · subst hn
    rfl
  · simp [head_toDigits hn]

lemma takeWhile_toString (n : Nat) {rest : List Char} (hrest : Follows rest) :
    ((toString n).toList ++ rest).takeWhile Char.isDigit = (toString n).toList ∧
      ((toString n).toList ++ rest).dropWhile Char.isDigit = rest := by
  have hall : ∀ c ∈ (toString n).toList, c.isDigit = true := fun _ => isDigit_of_mem_toString
  have hend : rest.takeWhile Char.isDigit = [] ∧ rest.dropWhile Char.isDigit = rest := by
    cases rest with
    | nil => simp
    | cons c rest => obtain rfl | rfl | rfl := hrest c rfl <;> simp
  rw [List.takeWhile_append_of_pos hall, List.dropWhile_append_of_pos hall, hend.1, hend.2]
  simp

lemma readNumber_integer (i : Int) {rest : List Char} (hrest : Follows rest) :
    readNumber ((toString i).toList ++ rest) =
      some (.number ⟨decide (i < 0), (toString i.natAbs).toList, [], none⟩, rest) := by
  obtain ⟨htake, hdrop⟩ := takeWhile_toString i.natAbs hrest
  have hfraction : readFraction rest = some ([], rest) := by
    cases rest with
    | nil => rfl
    | cons c rest => obtain rfl | rfl | rfl := hrest c rfl <;> rfl
  have hpower : readPower rest = some (none, rest) := by
    cases rest with
    | nil => rfl
    | cons c rest => obtain rfl | rfl | rfl := hrest c rfl <;> rfl
  rw [integer_chars]
  split
  · next hi =>
    simp only [readNumber, List.cons_append, List.head?_cons, beq_self_eq_true, if_true,
      List.tail_cons, htake, hdrop, no_needless_zero, Bool.false_eq_true, if_false, hfraction,
      Option.bind_eq_bind, Option.bind_some, hpower, hi, decide_true, Option.pure_def]
  · next hi =>
    have hminus : (((toString i.natAbs).toList ++ rest).head? == some '-') = false := by
      rw [List.head?_append_of_ne_nil _ (toString_ne_nil i.natAbs), beq_eq_false_iff_ne]
      intro h
      exact absurd (isDigit_of_mem_toString (List.mem_of_head? h)) (by decide)
    simp only [readNumber, hminus, Bool.false_eq_true, if_false, htake, hdrop, no_needless_zero,
      hfraction, Option.bind_eq_bind, Option.bind_some, hpower, hi, decide_false, Option.pure_def]

lemma toNumber?_integer {i : Int} (hi : IsWord i) :
    Numeral.toNumber? ⟨decide (i < 0), (toString i.natAbs).toList, [], none⟩ =
      some (.integer i hi) := by
  have hvalue : Numeral.integer ⟨decide (i < 0), (toString i.natAbs).toList, [], none⟩ = i := by
    simp only [Numeral.integer, digitsValue_toString, decide_eq_true_eq]
    split <;> omega
  have hsign : ¬(decide (i < 0) = true ∧ i = 0) := by
    rw [decide_eq_true_eq]
    omega
  simp only [Numeral.toNumber?, hvalue]
  exact dif_pos ⟨rfl, hi, hsign⟩

end Numbers

section Trees

lemma skipSpace_cons {c : Char} (hc : c ≠ ' ' ∧ c ≠ '\t' ∧ c ≠ '\n' ∧ c ≠ '\r') (s : List Char) :
    skipSpace (c :: s) = c :: s := by
  simp [skipSpace, hc]

lemma skipSpace_of_starts {s : List Char} (h : Starts s) (rest : List Char) :
    skipSpace (s ++ rest) = s ++ rest := by
  obtain ⟨c, s, rfl, hspace, htab, hline, hreturn, -⟩ := h
  exact skipSpace_cons ⟨hspace, htab, hline, hreturn⟩ _

lemma Printable.starts {room : Nat} {t : Tree} (h : Printable room t) : Starts t.chars := by
  cases h with
  | null => exact ⟨_, _, rfl, by decide⟩
  | bool _ b => cases b <;> exact ⟨_, _, rfl, by decide⟩
  | text => exact ⟨_, _, rfl, by decide⟩
  | list h => exact ⟨_, _, rfl, by decide⟩
  | object => exact ⟨_, _, rfl, by decide⟩
  | @integer _ i h =>
    obtain ⟨c, s, hs, hc⟩ := exists_head_of_integer i
    exact ⟨c, s, hs, hc.ne rfl, hc.ne rfl, hc.ne rfl, hc.ne rfl, hc.ne rfl⟩

lemma readValue_of_startsNumber {c : Char} (h : StartsNumber c) (fuel : Nat) (s : List Char) :
    readValue (fuel + 1) (c :: s) = readNumber (c :: s) := by
  have hspace : skipSpace (c :: s) = c :: s :=
    skipSpace_cons ⟨h.ne rfl, h.ne rfl, h.ne rfl, h.ne rfl⟩ s
  rw [readValue, hspace]
  split
  case h_7 => rfl
  all_goals
    next heq => exact absurd (List.cons.inj heq).1 (h.ne rfl)

/-- A value that costs two steps for each of its characters costs at least one. -/
lemma fuel_of_starts {s : List Char} (h : Starts s) {fuel : Nat} (hfuel : 2 * s.length ≤ fuel) :
    ∃ n, fuel = n + 1 := by
  obtain ⟨c, s, rfl, -⟩ := h
  rw [List.length_cons] at hfuel
  exact ⟨fuel - 1, by omega⟩

lemma readBack_null (room : Nat) : ReadBack room .null := by
  intro fuel rest hfuel hrest
  obtain ⟨fuel, rfl⟩ := fuel_of_starts (Printable.null room).starts hfuel
  exact ⟨.null, rfl, rfl⟩

lemma readBack_bool (room : Nat) (b : Bool) : ReadBack room (.bool b) := by
  intro fuel rest hfuel hrest
  obtain ⟨fuel, rfl⟩ := fuel_of_starts (Printable.bool room b).starts hfuel
  cases b <;> exact ⟨.bool _, rfl, rfl⟩

lemma readBack_integer (room : Nat) {i : Int} (h : IsWord i) :
    ReadBack room (.number (.integer i h)) := by
  intro fuel rest hfuel hrest
  obtain ⟨fuel, rfl⟩ := fuel_of_starts (Printable.integer room h).starts hfuel
  obtain ⟨c, s, hs, hc⟩ := exists_head_of_integer i
  have hnumber := readNumber_integer i hrest
  rw [hs, List.cons_append, ← readValue_of_startsNumber hc fuel, ← List.cons_append, ← hs]
    at hnumber
  refine ⟨_, hnumber, ?_⟩
  rw [ofDocument?, toNumber?_integer h, Option.map_some]

lemma readBack_text (room : Nat) (s : String) : ReadBack room (.text s) := by
  intro fuel rest hfuel hrest
  obtain ⟨fuel, rfl⟩ := fuel_of_starts (Printable.text room s).starts hfuel
  have hpieces := readPieces_spelled s.toList [] rest
  refine ⟨.text (s.toList.map spelledPiece), ?_, ?_⟩
  · simp [chars, stringChars, readValue, skipSpace, hpieces]
  · rw [ofDocument?, decodeText?_spelled, Option.map_some]

lemma readItems_printed {room : Nat} {items : List Tree} (hne : items ≠ [])
    (h : ∀ item ∈ items, ReadBack room item) {fuel : Nat}
    (hfuel : 2 * (itemsChars items).length + 1 ≤ fuel) (before : List Document)
    (rest : List Char) :
    ∃ documents, readItems fuel before (itemsChars items ++ ']' :: rest) =
        some (.list (before.reverse ++ documents), rest) ∧
      ofItems? room documents = some items := by
  -- every item costs one step, so the fuel and what has been read vary along the list
  induction items generalizing fuel before with
  | nil => exact absurd rfl hne
  | cons item items ih =>
    obtain ⟨hitem, hitems⟩ := List.forall_mem_cons.1 h
    cases fuel with
    | zero => omega
    | succ fuel =>
      rw [itemsChars] at hfuel ⊢
      rw [List.append_assoc, readItems]
      cases items with
      | nil =>
        obtain ⟨document, hread, htree⟩ := hitem fuel (']' :: rest)
          (by simp at hfuel; omega) (by simp [Follows])
        refine ⟨[document], ?_, ?_⟩
        · simp [moreItemsChars, hread, skipSpace]
        · simp [ofItems?, htree]
      | cons next items =>
        have hmore : moreItemsChars (next :: items) = ',' :: itemsChars (next :: items) := rfl
        rw [hmore] at hfuel ⊢
        rw [List.length_append, List.length_cons] at hfuel
        obtain ⟨document, hread, htree⟩ := hitem fuel
          (',' :: itemsChars (next :: items) ++ ']' :: rest) (by omega) (by simp [Follows])
        obtain ⟨documents, hreads, htrees⟩ := ih (by simp) hitems
          (show 2 * (itemsChars (next :: items)).length + 1 ≤ fuel by omega) (document :: before)
        refine ⟨document :: documents, ?_, ?_⟩
        · rw [hread]
          simp [skipSpace, hreads]
        · simp [ofItems?, htree, htrees]

/-- A member is read, and what stands behind its value says whether there is another one. -/
lemma readMembers_step {fuel : Nat} {value : Tree} {document : Document} {tail : List Char}
    (hread : readValue fuel (value.chars ++ tail) = some (document, tail))
    (before : List (List Piece × Document)) (key : String) :
    let read := (key.toList.map spelledPiece, document) :: before
    let s := stringChars key ++ ':' :: (value.chars ++ tail)
    (∀ rest, tail = ',' :: rest →
      readMembers (fuel + 1) before s = readMembers fuel read rest) ∧
    ∀ rest, tail = '\x7d' :: rest →
      readMembers (fuel + 1) before s = some (.object read.reverse, rest) := by
  have hkey := readPieces_spelled key.toList [] (':' :: (value.chars ++ tail))
  have hstring : stringChars key ++ ':' :: (value.chars ++ tail) =
      '"' :: (key.toList.flatMap escapeChar ++ '"' :: ':' :: (value.chars ++ tail)) := by
    simp [stringChars]
  constructor
  · rintro rest rfl
    rw [hstring, readMembers]
    simp only [skipSpace_cons (c := '"') (by decide), hkey, skipSpace_cons (c := ':') (by decide),
      hread, skipSpace_cons (c := ',') (by decide), List.reverse_nil, List.nil_append]
  · rintro rest rfl
    rw [hstring, readMembers]
    simp only [skipSpace_cons (c := '"') (by decide), hkey, skipSpace_cons (c := ':') (by decide),
      hread, skipSpace_cons (c := '\x7d') (by decide), List.reverse_nil, List.nil_append]

lemma readMembers_printed {room : Nat} {members : List (String × Tree)} (hne : members ≠ [])
    (h : ∀ member ∈ members, ReadBack room member.2) {fuel : Nat}
    (hfuel : 2 * (membersChars members).length + 1 ≤ fuel)
    (before : List (List Piece × Document)) (rest : List Char) :
    ∃ spelled, readMembers fuel before (membersChars members ++ '\x7d' :: rest) =
        some (.object (before.reverse ++ spelled), rest) ∧
      ofMembers? room spelled = some members := by
  induction members generalizing fuel before with
  | nil => exact absurd rfl hne
  | cons member members ih =>
    obtain ⟨key, value⟩ := member
    obtain ⟨hvalue, hmembers⟩ := List.forall_mem_cons.1 h
    cases fuel with
    | zero => omega
    | succ fuel =>
      rw [membersChars] at hfuel ⊢
      rw [List.append_assoc, List.cons_append, List.append_assoc]
      cases members with
      | nil =>
        obtain ⟨document, hread, htree⟩ := hvalue fuel ('\x7d' :: rest)
          (by simp at hfuel ⊢; omega) (by simp [Follows])
        refine ⟨[(key.toList.map spelledPiece, document)], ?_, ?_⟩
        · have hstep := (readMembers_step hread before key).2 rest rfl
          rw [moreMembersChars, List.nil_append, hstep, List.reverse_cons]
        · simp [ofMembers?, htree, decodeText?_spelled]
      | cons next members =>
        have hmore : moreMembersChars (next :: members) = ',' :: membersChars (next :: members) :=
          rfl
        rw [hmore] at hfuel ⊢
        have hrest : 2 * value.chars.length ≤ fuel ∧
            2 * (membersChars (next :: members)).length + 1 ≤ fuel := by
          simp only [List.length_append, List.length_cons] at hfuel
          omega
        obtain ⟨document, hread, htree⟩ := hvalue fuel
          (',' :: membersChars (next :: members) ++ '\x7d' :: rest) hrest.1 (by simp [Follows])
        obtain ⟨spelled, hreads, htrees⟩ := ih (by simp) hmembers hrest.2
          ((key.toList.map spelledPiece, document) :: before)
        refine ⟨(key.toList.map spelledPiece, document) :: spelled, ?_, ?_⟩
        · have hstep := (readMembers_step hread before key).1 _ List.cons_append
          rw [hstep, hreads, List.reverse_cons, List.append_assoc, List.singleton_append]
        · simp [ofMembers?, htree, decodeText?_spelled, htrees]

lemma readValue_of_items {s : List Char} (h : Starts s) (fuel : Nat) (rest : List Char) :
    readValue (fuel + 1) ('[' :: (s ++ rest)) = readItems fuel [] (s ++ rest) := by
  rw [readValue, skipSpace_cons (by decide)]
  simp only
  rw [skipSpace_of_starts h]
  obtain ⟨c, s, rfl, -, -, -, -, hend⟩ := h
  split
  · next heq => exact absurd (List.cons.inj heq).1 hend
  · rfl

lemma readBack_list {room : Nat} {items : List Tree} (hitems : ∀ item ∈ items, Printable room item)
    (h : ∀ item ∈ items, ReadBack room item) : ReadBack (room + 1) (.list items) := by
  intro fuel rest hfuel hrest
  obtain ⟨fuel, rfl⟩ := fuel_of_starts (Printable.list hitems).starts hfuel
  cases items with
  | nil => exact ⟨.list [], rfl, by simp [ofDocument?, ofItems?]⟩
  | cons item items =>
    have hchars : chars (.list (item :: items)) ++ rest =
        '[' :: (item.chars ++ (moreItemsChars items ++ ']' :: rest)) := by
      simp [chars, itemsChars]
    have hlength : 2 * (itemsChars (item :: items)).length + 1 ≤ fuel := by
      simp only [chars, List.length_cons, List.length_append] at hfuel
      omega
    obtain ⟨documents, hread, htrees⟩ := readItems_printed (List.cons_ne_nil _ _) h hlength [] rest
    rw [itemsChars, List.append_assoc] at hread
    have hstart := (hitems item List.mem_cons_self).starts
    refine ⟨.list documents, ?_, ?_⟩
    · rw [hchars, readValue_of_items hstart, hread, List.reverse_nil, List.nil_append]
    · simp [ofDocument?, htrees]

lemma readBack_object {room : Nat} {members : List (String × Tree)}
    (hkeys : (Table.keys members).Nodup) (hmembers : ∀ member ∈ members, Printable room member.2)
    (h : ∀ member ∈ members, ReadBack room member.2) : ReadBack (room + 1) (.object members) := by
  intro fuel rest hfuel hrest
  obtain ⟨fuel, rfl⟩ := fuel_of_starts (Printable.object hkeys hmembers).starts hfuel
  cases members with
  | nil => exact ⟨.object [], rfl, by simp [ofDocument?, ofMembers?, Table.ofEntries]⟩
  | cons member members =>
    have hchars : chars (.object (member :: members)) ++ rest =
        '\x7b' :: (membersChars (member :: members) ++ '\x7d' :: rest) := by
      simp [chars]
    have hlength : 2 * (membersChars (member :: members)).length + 1 ≤ fuel := by
      simp only [chars, List.length_cons, List.length_append] at hfuel
      omega
    obtain ⟨spelled, hread, htrees⟩ := readMembers_printed (List.cons_ne_nil _ _) h hlength [] rest
    have hvalue (tail : List Char) :
        readValue (fuel + 1) ('\x7b' :: (membersChars (member :: members) ++ tail)) =
          readMembers fuel [] (membersChars (member :: members) ++ tail) := by
      obtain ⟨s, hs⟩ : ∃ s, membersChars (member :: members) = '"' :: s := ⟨_, rfl⟩
      rw [hs, List.cons_append, readValue, skipSpace_cons (by decide)]
      simp only
      rw [skipSpace_cons (by decide)]
      rfl
    refine ⟨.object spelled, ?_, ?_⟩
    · rw [hchars, hvalue, hread, List.reverse_nil, List.nil_append]
    · simp [ofDocument?, htrees, Table.ofEntries_of_nodup hkeys]

/-- A printed tree is read back, whatever follows it in a document. -/
lemma Printable.readBack {room : Nat} {t : Tree} (h : Printable room t) : ReadBack room t := by
  induction h with
  | null room => exact readBack_null room
  | bool room b => exact readBack_bool room b
  | integer room h => exact readBack_integer room h
  | text room s => exact readBack_text room s
  | list h ih => exact readBack_list h ih
  | object hkeys h ih => exact readBack_object hkeys h ih

/-- The text of a tree is read as the tree. -/
theorem parse?_toText {t : Tree} (h : Printable maxDepth t) : parse? t.toText = some t := by
  obtain ⟨document, hread, htree⟩ :=
    h.readBack (2 * t.chars.length + 2) [] (by omega) (by simp [Follows])
  rw [List.append_nil] at hread
  have hdocument : Document.parse? t.toText = some document := by
    rw [Document.parse?, toText, String.toList_ofList]
    simp [hread, skipSpace]
  rw [parse?, hdocument, Option.bind_some, htree]

end Trees

end RuleChain.Proofs
