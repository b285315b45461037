import PlatformClient.Proofs.Json.Writable

/-!
# What is written is read back

A written value is read back as that value, whatever the reader finds behind it in a document: the
end, or what separates and closes. Every kind of value shows by its first character what it is, and
the reader stops where the value ends.

## Main definitions

* `Json.Plain`: values of null, truth values, whole numbers, strings, arrays and objects
* `Json.depth`: how many arrays and objects lie in one another
* `Json.ReadsBack`: values that are read back from what is written

## Main results

* `Json.readString_writeString`: strings are read back
* `Json.readNumber_decimal`: so are whole numbers
* `Json.Plain.readsBack`: so are plain values
* `Json.Plain.writtenWithin_iff`, `Json.Plain.text?_eq`: only their depth keeps them from being
  written
* `Json.Plain.read_write`: the document of a plain value is read as that value
-/

namespace PlatformClient.Json

/-! ## Strings -/

theorem unitOfHex?_hexDigits {n : Nat} (h : n < 0x10000) :
    ∃ a b c d, Text.hexDigits 4 n = [a, b, c, d] ∧ unitOfHex? a b c d = some n := by
  refine ⟨_, _, _, _, rfl, ?_⟩
  have hdigit (m : Nat) : Text.hexValue? (Text.hexDigit (m % 16)) = some (m % 16) :=
    Text.hexValue?_hexDigit _ (Nat.mod_lt _ (by decide))
  simp only [unitOfHex?, hdigit, Option.bind_eq_bind, Option.bind_some, pure]
  congr 1
  omega

/-- A unit by number that is no surrogate is a character of its own. -/
theorem joinUnits_numbered {unit : Nat} (h : unit < 0xD800) (rest : List StringUnit) :
    joinUnits (.numbered unit :: rest) = .character (Char.ofNat unit) :: joinUnits rest := by
  have hpoint : pointOfUnit unit = .character (Char.ofNat unit) := by
    rw [pointOfUnit, dif_neg (by omega)]
  cases rest with
  | nil => simp [joinUnits, hpoint]
  | cons next rest =>
    cases next with
    | plain c => simp [joinUnits, hpoint]
    | numbered low => rw [joinUnits, if_neg (by omega), hpoint]

/-- An escape by letter is read as its character. -/
theorem readUnits_letter {letter c : Char} (hletter : letterEscape? letter = some c)
    (opening rest : List Char) :
    readUnits opening ('\\' :: letter :: rest) =
      (readUnits opening rest).map fun read => (.plain c :: read.1, read.2) := by
  have hu : letter ≠ 'u' := by
    rintro rfl
    cases hletter
  rw [readUnits.eq_5 _ _ _ fun _ _ _ _ _ _ heq => absurd heq hu, if_neg (by simpa using hu),
    hletter]
  cases readUnits opening rest <;> rfl

/-- An escape by number, behind which the text goes on, is read as that number. -/
theorem readUnits_number {n : Nat} (h : n < 0x10000) (opening rest : List Char) (next : Char) :
    readUnits opening ('\\' :: 'u' :: Text.hexDigits 4 n ++ next :: rest) =
      (readUnits opening (next :: rest)).map fun read => (.numbered n :: read.1, read.2) := by
  obtain ⟨a, b, c, d, hdigits, hunit⟩ := unitOfHex?_hexDigits h
  simp only [hdigits, List.cons_append, List.nil_append]
  rw [readUnits.eq_4, hunit]
  cases readUnits opening (next :: rest) <;> rfl

/-- A character without an escape is read as itself. -/
theorem readUnits_plain {c : Char} (hq : c ≠ '"') (hb : c ≠ '\\') (hc : 0x20 ≤ c.toNat)
    (opening rest : List Char) :
    readUnits opening (c :: rest) =
      (readUnits opening rest).map fun read => (.plain c :: read.1, read.2) := by
  rw [readUnits.eq_6 _ _ _ hq (fun heq => absurd heq hb) (fun _ _ _ _ _ _ heq => absurd heq hb)
    (fun _ _ heq => absurd heq hb), if_neg (by omega)]
  cases readUnits opening rest <;> rfl

/-- A character is escaped by letter or by number, or stands for itself. -/
theorem escape_cases (c : Char) :
    (∃ letter, escape c = ['\\', letter] ∧ letterEscape? letter = some c) ∨
      (c.toNat < 0x20 ∧ escape c = '\\' :: 'u' :: Text.hexDigits 4 c.toNat) ∨
      c ≠ '"' ∧ c ≠ '\\' ∧ 0x20 ≤ c.toNat ∧ escape c = [c] := by
  by_cases hletter : c ∈ ['"', '\\', '\n', '\r', '\t', '\x08', '\x0c']
  · simp only [List.mem_cons, List.not_mem_nil, or_false] at hletter
    rcases hletter with rfl | rfl | rfl | rfl | rfl | rfl | rfl <;> exact .inl ⟨_, rfl, rfl⟩
  · simp only [List.mem_cons, List.not_mem_nil, or_false, not_or] at hletter
    obtain ⟨hq, hb, hn, hr, ht, hback, hform⟩ := hletter
    by_cases hcontrol : c.toNat < 0x20
    · refine .inr (.inl ⟨hcontrol, ?_⟩)
      simp only [escape, beq_iff_eq, hq, hb, hn, hr, ht, hback, hform, hcontrol, if_false, if_true]
    · have hprint : 0x20 ≤ c.toNat := Nat.le_of_not_lt hcontrol
      exact .inr (.inr ⟨hq, hb, hprint, escape_of_plain hq hb hprint⟩)

/-- What is written for a character is read as one unit, which stands for it. -/
theorem exists_readUnits_escape (c : Char) (opening rest : List Char) (next : Char) :
    ∃ unit, readUnits opening (escape c ++ next :: rest) =
        (readUnits opening (next :: rest)).map (fun read => (unit :: read.1, read.2)) ∧
      ∀ units, joinUnits (unit :: units) = .character c :: joinUnits units := by
  rcases escape_cases c with ⟨letter, hescape, hletter⟩ | ⟨hcontrol, hescape⟩ |
    ⟨hq, hb, hprint, hescape⟩
  · rw [hescape]
    exact ⟨.plain c, readUnits_letter hletter opening (next :: rest), fun _ => rfl⟩
  · rw [hescape]
    refine ⟨.numbered c.toNat, readUnits_number (by omega) opening rest next, fun units => ?_⟩
    rw [joinUnits_numbered (by omega), Char.ofNat_toNat]
  · rw [hescape]
    exact ⟨.plain c, readUnits_plain hq hb hprint opening (next :: rest), fun _ => rfl⟩

/-- A string is read back, whatever follows its closing quote and whatever stands for surrogates.
The induction is on the text: an escape by number needs a character behind it, which is there up to
the closing quote. -/
theorem readString_writeString (lone : Surrogate → Char) (s : String) (rest : List Char) :
    readString lone (s.toList.flatMap escape ++ '"' :: rest) = .ok (s, rest) := by
  have hunits : ∀ (opening text : List Char), ∃ units,
      readUnits opening (text.flatMap escape ++ '"' :: rest) = .ok (units, rest) ∧
        joinUnits units = text.map .character := by
    intro opening text
    induction text with
    | nil => exact ⟨[], readUnits.eq_2 opening rest, rfl⟩
    | cons c text ih =>
      obtain ⟨units, hread, hjoin⟩ := ih
      obtain ⟨next, more, hnext⟩ : ∃ next more, text.flatMap escape ++ '"' :: rest = next :: more :=
        List.exists_cons_of_ne_nil (by simp)
      obtain ⟨unit, hunit, hc⟩ := exists_readUnits_escape c opening more next
      refine ⟨unit :: units, ?_, ?_⟩
      · rw [List.flatMap_cons, List.append_assoc, hnext, hunit, ← hnext, hread]
        rfl
      · rw [hc, hjoin, List.map_cons]
  obtain ⟨units, hread, hjoin⟩ := hunits ('"' :: (s.toList.flatMap escape ++ '"' :: rest)) s.toList
  have hshown : (s.toList.map CodePoint.character).map (CodePoint.shown lone) = s.toList := by
    rw [List.map_map]
    exact List.map_id s.toList
  unfold readString
  rw [hread]
  simp only [bind, Except.bind, pure, Except.pure, hjoin, hshown, String.ofList_toList]

/-! ## What follows a value -/

/-- What stands behind a value in a document: nothing, or a comma, or what closes an array or an
object. -/
def Ends (rest : List Char) : Prop := ∀ c ∈ rest.head?, c ∈ [',', ']', '}']

theorem ends_nil : Ends [] := nofun

theorem ends_cons {c : Char} (h : c ∈ [',', ']', '}']) (rest : List Char) : Ends (c :: rest) := by
  rintro d ⟨⟩
  exact h

/-- Behind a value comes no blank. -/
theorem Ends.skipGap {rest : List Char} (h : Ends rest) : skipGap rest = rest := by
  cases rest with
  | nil => rfl
  | cons c rest =>
    have hgap : ∀ c ∈ [',', ']', '}'], ¬ isGap c = true := by simp [isGap]
    exact List.dropWhile_cons_of_neg (hgap c (h c rfl))

/-! ## Whole numbers -/

theorem ne_of_isDigit {c d : Char} (hc : c.isDigit = true) (hd : d.isDigit = false) : c ≠ d := by
  rintro rfl
  exact absurd (hc.symm.trans hd) (by decide)

theorem isDigit_of_mem_toDigits {n : Nat} {c : Char} (h : c ∈ Nat.toDigits 10 n) :
    c.isDigit = true :=
  Nat.isDigit_of_mem_toDigits (by decide) (by decide) h

/-- Only zero is written with a zero in front. -/
theorem toDigits_eq_of_zero {n : Nat} {rest : List Char} (h : Nat.toDigits 10 n = '0' :: rest) :
    rest = [] := by
  cases rest with
  | nil => rfl
  | cons c rest =>
    have hvalue : Nat.ofDigitChars 10 (c :: rest) 0 = n := by
      have hall := Nat.ofDigitChars_toDigits (n := n) (b := 10) (by decide) (by decide)
      rw [h, Nat.ofDigitChars_cons] at hall
      exact hall
    have hdigits : ∀ d ∈ c :: rest, d.isDigit = true := fun d hd =>
      isDigit_of_mem_toDigits (h ▸ List.mem_cons_of_mem _ hd)
    have hbound : n < 10 ^ (c :: rest).length := hvalue ▸ Text.ofDigitChars_lt hdigits
    have hlength := (Nat.length_toDigits_le_iff (by decide) (Nat.succ_pos _)).mpr hbound
    rw [h, List.length_cons] at hlength
    exact absurd hlength (Nat.not_succ_le_self _)

/-- The digits of a number are its whole part. -/
theorem takeWhole_toDigits (n : Nat) {rest : List Char} (h : Ends rest) :
    takeWhole (Nat.toDigits 10 n ++ rest) = (Nat.toDigits 10 n, rest) := by
  have htake : takeDigits (Nat.toDigits 10 n ++ rest) = (Nat.toDigits 10 n, rest) := by
    have hnone : ∀ c ∈ [',', ']', '}'], ¬ c.isDigit = true := by simp [Char.isDigit]
    unfold takeDigits
    rw [List.takeWhile_append_of_pos fun c => isDigit_of_mem_toDigits,
      List.dropWhile_append_of_pos fun c => isDigit_of_mem_toDigits]
    cases rest with
    | nil => simp
    | cons c rest =>
      have hc := hnone c (h c rfl)
      rw [List.takeWhile_cons_of_neg hc, List.dropWhile_cons_of_neg hc, List.append_nil]
  unfold takeWhole
  split
  · rename_i more hmore
    cases hdigits : Nat.toDigits 10 n with
    | nil => exact absurd hdigits Nat.toDigits_ne_nil
    | cons d digits =>
      rw [hdigits, List.cons_append] at hmore
      obtain ⟨rfl, rfl⟩ := List.cons_eq_cons.mp hmore
      rw [toDigits_eq_of_zero hdigits, List.nil_append]
  · exact htake

/-- Behind a value begins neither a fraction nor an exponent. -/
theorem Ends.take {rest : List Char} (h : Ends rest) :
    takeFraction rest = ([], rest) ∧ takeExponent rest = (none, rest) := by
  cases rest with
  | nil => exact ⟨rfl, rfl⟩
  | cons c rest =>
    have hc := h c rfl
    simp only [List.mem_cons, List.not_mem_nil, or_false] at hc
    rcases hc with rfl | rfl | rfl <;> exact ⟨rfl, rfl⟩

/-- The text of a whole number begins with a digit, behind a minus sign if it is negative. -/
theorem toList_decimal (n : Int) :
    (Text.decimal n).toList =
      (if n < 0 then ['-'] else []) ++ Nat.toDigits 10 n.natAbs := by
  cases n with
  | ofNat n =>
    rw [if_neg (Int.not_lt.mpr (Int.natCast_nonneg n) : ¬ Int.ofNat n < 0)]
    exact String.toList_ofList
  | negSucc n =>
    rw [if_pos (Int.negSucc_lt_zero n)]
    simp only [Text.decimal, String.toList_append]
    exact congrArg (_ ++ ·) String.toList_ofList

theorem length_toDigits_le {n limit : Nat} (hlimit : 0 < limit) (h : n < Nat.pow 10 limit) :
    (Nat.toDigits 10 n).length ≤ limit :=
  (Nat.length_toDigits_le_iff (by decide) hlimit).mpr h

/-- A whole number is read back. -/
theorem readNumber_decimal {n : Int} (hn : n.natAbs < Nat.pow 10 Text.digitLimit) {rest : List Char}
    (h : Ends rest) : readNumber ((Text.decimal n).toList ++ rest) = .ok (.integer n, rest) := by
  have hwhole := takeWhole_toDigits n.natAbs h
  have hvalue : Nat.ofDigitChars 10 (Nat.toDigits 10 n.natAbs) 0 = n.natAbs :=
    Nat.ofDigitChars_toDigits (by decide) (by decide)
  have hlength := length_toDigits_le (by decide) hn
  obtain ⟨d, digits, hdigits⟩ := List.exists_cons_of_ne_nil (Nat.toDigits_ne_nil (n := n.natAbs)
    (b := 10))
  have hminus : d ≠ '-' :=
    ne_of_isDigit (isDigit_of_mem_toDigits (hdigits ▸ List.mem_cons_self)) rfl
  rw [toList_decimal]
  rw [hdigits] at hwhole hvalue hlength ⊢
  unfold readNumber
  by_cases hneg : n < 0
  · have hsigned : -(n.natAbs : Int) = n := by omega
    simp only [if_pos hneg, List.cons_append, List.nil_append] at hwhole ⊢
    simp only [hwhole, h.take, if_neg (Nat.not_lt.mpr hlength), hvalue, if_true, hsigned]
  · have hsigned : (n.natAbs : Int) = n := by omega
    simp only [if_neg hneg, List.cons_append, List.nil_append] at hwhole ⊢
    simpa [hminus, hwhole, h.take, hvalue, hsigned] using hlength

/-! ## Values -/

/-- A value that a document can show exactly: all but floating point numbers, whole numbers within
the limit for digits, and objects with one member for each name. -/
inductive Plain : Json → Prop
  | null : Plain .null
  | bool (b : Bool) : Plain (.bool b)
  | integer {n : Int} (h : n.natAbs < Nat.pow 10 Text.digitLimit) : Plain (.integer n)
  | string (s : String) : Plain (.string s)
  | array {items : List Json} (h : ∀ item ∈ items, Plain item) : Plain (.array items)
  | object {members : Members} (hnames : members.names.Nodup)
      (h : ∀ member ∈ members, Plain member.2) : Plain (.object members)

theorem toNat_of_isDigit {c : Char} (h : c.isDigit = true) : 0x30 ≤ c.toNat ∧ c.toNat ≤ 0x39 := by
  simp only [Char.isDigit, Bool.and_eq_true, decide_eq_true_eq, UInt32.le_iff_toNat_le] at h
  exact h

/-- The text of a whole number begins with a digit, or with a minus sign before a digit. -/
theorem exists_decimal_eq (n : Int) :
    ∃ d digits, d.isDigit = true ∧
      ((Text.decimal n).toList = d :: digits ∨ (Text.decimal n).toList = '-' :: d :: digits) := by
  obtain ⟨d, digits, hdigits⟩ := List.exists_cons_of_ne_nil (Nat.toDigits_ne_nil (n := n.natAbs)
    (b := 10))
  refine ⟨d, digits, isDigit_of_mem_toDigits (hdigits ▸ List.mem_cons_self), ?_⟩
  rw [toList_decimal, hdigits]
  by_cases hneg : n < 0
  · exact .inr (by rw [if_pos hneg]; rfl)
  · exact .inl (by rw [if_neg hneg]; rfl)

/-- A plain value begins with a visible character that closes nothing. -/
theorem Plain.exists_write_eq {value : Json} (h : Plain value) :
    ∃ c rest, value.write = c :: rest ∧ 0x20 < c.toNat ∧ c.toNat < 0x80 ∧ c ≠ ']' := by
  cases h with
  | null => exact ⟨'n', _, rfl, by decide⟩
  | bool b =>
    cases b with
    | false => exact ⟨'f', _, rfl, by decide⟩
    | true => exact ⟨'t', _, rfl, by decide⟩
  | @integer n h =>
    obtain ⟨d, digits, hd, hdigits | hdigits⟩ := exists_decimal_eq n
    · have hcode := toNat_of_isDigit hd
      exact ⟨d, digits, hdigits, by omega, by omega, ne_of_isDigit hd rfl⟩
    · exact ⟨'-', _, hdigits, by decide⟩
  | string s => exact ⟨'"', _, rfl, by decide⟩
  | array h => exact ⟨'[', _, rfl, by decide⟩
  | object hnames h => exact ⟨'{', _, rfl, by decide⟩

theorem Plain.write_length_pos {value : Json} (h : Plain value) : 0 < value.write.length := by
  obtain ⟨c, rest, hwrite, -⟩ := h.exists_write_eq
  rw [hwrite]
  exact Nat.succ_pos _

/-- No blank comes before a plain value, nor the end of an array. -/
theorem Plain.skipGap_write {value : Json} (h : Plain value) (rest : List Char) :
    skipGap (value.write ++ rest) = value.write ++ rest := by
  obtain ⟨c, more, hwrite, hvisible, -⟩ := h.exists_write_eq
  have hgap : ¬ isGap c = true := by
    intro hgap
    simp only [isGap, Bool.or_eq_true, beq_iff_eq] at hgap
    rcases hgap with ((rfl | rfl) | rfl) | rfl <;> exact absurd hvisible (by decide)
  rw [hwrite]
  exact List.dropWhile_cons_of_neg hgap

/-- A value is read back from what is written, whatever ends it, with enough fuel and room. -/
def ReadsBack (value : Json) : Prop :=
  ∀ lone fuel room rest, 2 * value.write.length ≤ fuel + 1 → WrittenWithin room value →
    Ends rest → readValue lone (fuel + 1) room (value.write ++ rest) = .ok (value, rest)

/-! ### Words, numbers and strings -/

theorem readValue_of_scalar {c : Char} (hc : c ≠ '"' ∧ c ≠ '[' ∧ c ≠ '{')
    (lone : Surrogate → Char) (fuel room : Nat) (rest : List Char) :
    readValue lone (fuel + 1) room (c :: rest) = readScalar (c :: rest) := by
  obtain ⟨hq, harray, hobject⟩ := hc
  unfold readValue
  split <;> simp_all

theorem readsBack_null : ReadsBack .null := fun _ _ _ _ _ _ _ => rfl

theorem readsBack_bool (b : Bool) : ReadsBack (.bool b) := by
  cases b with
  | false => exact fun _ _ _ _ _ _ _ => rfl
  | true => exact fun _ _ _ _ _ _ _ => rfl

theorem write_string (s : String) : (Json.string s).write = writeString s.toList := rfl

theorem readsBack_string (s : String) : ReadsBack (.string s) := by
  intro lone fuel room rest _ _ _
  have hwrite : (Json.string s).write ++ rest =
      '"' :: (s.toList.flatMap escape ++ '"' :: rest) := by
    rw [write_string]
    simp only [writeString, List.cons_append, List.append_assoc, List.nil_append]
  rw [hwrite, readValue, readString_writeString]
  rfl

/-- No word begins with a digit, nor with a minus sign before a digit. -/
theorem readWord?_of_digit {c : Char} (h : c.isDigit = true) (rest : List Char) :
    readWord? (c :: rest) = none ∧ readWord? ('-' :: c :: rest) = none := by
  have hdigit : c ∈ ['0', '1', '2', '3', '4', '5', '6', '7', '8', '9'] := by
    have hall : ∀ n < 0x3A, 0x30 ≤ n →
        Char.ofNat n ∈ ['0', '1', '2', '3', '4', '5', '6', '7', '8', '9'] := by decide
    obtain ⟨hlow, hhigh⟩ := toNat_of_isDigit h
    rw [← Char.ofNat_toNat c]
    exact hall _ (Nat.lt_succ_of_le hhigh) hlow
  simp only [List.mem_cons, List.not_mem_nil, or_false] at hdigit
  rcases hdigit with rfl | rfl | rfl | rfl | rfl | rfl | rfl | rfl | rfl | rfl <;>
    exact ⟨rfl, rfl⟩

theorem readsBack_integer {n : Int} (h : n.natAbs < Nat.pow 10 Text.digitLimit) :
    ReadsBack (.integer n) := by
  intro lone fuel room rest _ _ hrest
  have hnumber := readNumber_decimal h hrest
  show readValue lone (fuel + 1) room ((Text.decimal n).toList ++ rest) = _
  obtain ⟨d, digits, hd, hdigits | hdigits⟩ := exists_decimal_eq n
  · have hword := (readWord?_of_digit hd (digits ++ rest)).1
    rw [hdigits, List.cons_append] at hnumber ⊢
    rw [readValue_of_scalar ⟨ne_of_isDigit hd rfl, ne_of_isDigit hd rfl, ne_of_isDigit hd rfl⟩,
      readScalar, hword, hnumber]
  · have hword := (readWord?_of_digit hd (digits ++ rest)).2
    rw [hdigits, List.cons_append, List.cons_append] at hnumber ⊢
    rw [readValue_of_scalar (by decide), readScalar, hword, hnumber]

/-! ### Arrays and objects -/

theorem exists_writeItems_eq (item : Json) (more : List Json) :
    ∃ tail, writeItems (item :: more) = item.write ++ tail := by
  cases more with
  | nil => exact ⟨[], (List.append_nil _).symm⟩
  | cons next more => exact ⟨_, rfl⟩

/-- Items that are read back one by one are read back together. The text of the first one accounts
for the fuel that is gone when the others are read. -/
theorem readItems_writeItems {items : List Json} (hne : items ≠ [])
    (hplain : ∀ item ∈ items, Plain item) (h : ∀ item ∈ items, ReadsBack item)
    (lone : Surrogate → Char) {fuel room : Nat} (hfuel : 2 * (writeItems items).length + 1 ≤ fuel)
    (hroom : ∀ item ∈ items, WrittenWithin room item) (rest : List Char) :
    readItems lone fuel room (writeItems items ++ ']' :: rest) = .ok (items, rest) := by
  induction items generalizing fuel with
  | nil => exact absurd rfl hne
  | cons item more ih =>
    have hitem := h item List.mem_cons_self
    have hwritten := hroom item List.mem_cons_self
    have hpos := (hplain item List.mem_cons_self).write_length_pos
    obtain ⟨tail, htail⟩ := exists_writeItems_eq item more
    rw [htail, List.length_append] at hfuel
    obtain ⟨fuel, rfl⟩ : ∃ less, fuel = less + 1 + 1 := ⟨fuel - 2, by omega⟩
    rw [readItems]
    cases more with
    | nil =>
      have hread := hitem lone fuel room (']' :: rest) (by omega) hwritten (ends_cons (by decide) _)
      rw [writeItems, hread]
      rfl
    | cons next more =>
      have hread := hitem lone fuel room (',' :: ' ' :: (writeItems (next :: more) ++ ']' :: rest))
        (by omega) hwritten (ends_cons (by decide) _)
      have hlength := congrArg List.length htail
      simp only [writeItems, List.length_append, List.length_cons] at hlength
      have hothers := ih (List.cons_ne_nil _ _)
        (fun other hother => hplain other (List.mem_cons_of_mem _ hother))
        (fun other hother => h other (List.mem_cons_of_mem _ hother))
        (show 2 * (writeItems (next :: more)).length + 1 ≤ fuel + 1 by omega)
        (fun other hother => hroom other (List.mem_cons_of_mem _ hother))
      have hgap : skipGap (' ' :: (writeItems (next :: more) ++ ']' :: rest)) =
          writeItems (next :: more) ++ ']' :: rest := by
        obtain ⟨behind, hbehind⟩ := exists_writeItems_eq next more
        rw [hbehind, List.append_assoc]
        exact (hplain next (List.mem_cons_of_mem _ List.mem_cons_self)).skipGap_write _
      have hwrite : writeItems (item :: next :: more) ++ ']' :: rest =
          item.write ++ ',' :: ' ' :: (writeItems (next :: more) ++ ']' :: rest) := by
        simp only [writeItems, List.append_assoc, List.cons_append]
      rw [hwrite, hread]
      show (readItems lone (fuel + 1) room (skipGap (' ' :: _)) >>= fun read =>
        .ok (item :: read.1, read.2)) = _
      rw [hgap, hothers]
      rfl

/-- A member as it is written. -/
def writeMember (name : String) (value : Json) : List Char :=
  writeString name.toList ++ ':' :: ' ' :: value.write

/-- What is read of an object from behind a member on. -/
def readBehind (lone : Surrogate → Char) (fuel room : Nat) (member : String × Json) :
    List Char → Except ReadFault (List (String × Json) × List Char)
  | '}' :: rest => .ok ([member], rest)
  | ',' :: rest => (readPairs lone fuel room (skipGap rest)).map fun read =>
      (member :: read.1, read.2)
  | rest => .error (.problem .expectingComma rest)

/-- A member is read back. -/
theorem readPairs_writeMember {name : String} {value : Json} (hplain : Plain value)
    (h : ReadsBack value) (lone : Surrogate → Char) {fuel room : Nat}
    (hfuel : 2 * value.write.length ≤ fuel + 1) (hroom : WrittenWithin room value)
    {rest : List Char} (hrest : Ends rest) :
    readPairs lone (fuel + 1 + 1) room (writeMember name value ++ rest) =
      readBehind lone (fuel + 1) room (name, value) rest := by
  have hwrite : writeMember name value ++ rest =
      '"' :: (name.toList.flatMap escape ++ '"' :: ':' :: ' ' :: (value.write ++ rest)) := by
    simp only [writeMember, writeString, List.append_assoc, List.cons_append, List.nil_append]
  have hread := h lone fuel room rest hfuel hroom hrest
  have hgap : skipGap (' ' :: (value.write ++ rest)) = value.write ++ rest :=
    hplain.skipGap_write rest
  have hcolon (more : List Char) : skipGap (':' :: more) = ':' :: more := rfl
  rw [hwrite, readPairs, readString_writeString]
  simp only [bind, Except.bind, hcolon, hgap, hread, hrest.skipGap]
  cases rest with
  | nil => rfl
  | cons c more =>
    have hc := hrest c rfl
    simp only [List.mem_cons, List.not_mem_nil, or_false] at hc
    rcases hc with rfl | rfl | rfl
    · unfold readBehind
      cases readPairs lone (fuel + 1) room (skipGap more) <;> rfl
    · rfl
    · rfl

theorem exists_writeMembers_eq (name : String) (value : Json) (more : Members) :
    ∃ tail, writeMembers ((name, value) :: more) = writeMember name value ++ tail := by
  cases more with
  | nil => exact ⟨[], (List.append_nil _).symm⟩
  | cons next more =>
    refine ⟨',' :: ' ' :: writeMembers (next :: more), ?_⟩
    simp only [writeMembers, writeMember, List.append_assoc, List.cons_append]

theorem skipGap_writeMembers {members : Members} (hne : members ≠ []) (rest : List Char) :
    skipGap (writeMembers members ++ rest) = writeMembers members ++ rest := by
  obtain ⟨⟨name, value⟩, more, rfl⟩ := List.exists_cons_of_ne_nil hne
  obtain ⟨tail, htail⟩ := exists_writeMembers_eq name value more
  rw [htail]
  rfl

/-- Members whose values are read back one by one are read back together. -/
theorem readPairs_writeMembers {members : Members} (hne : members ≠ [])
    (hplain : ∀ member ∈ members, Plain member.2) (h : ∀ member ∈ members, ReadsBack member.2)
    (lone : Surrogate → Char) {fuel room : Nat}
    (hfuel : 2 * (writeMembers members).length + 1 ≤ fuel)
    (hroom : ∀ member ∈ members, WrittenWithin room member.2) (rest : List Char) :
    readPairs lone fuel room (writeMembers members ++ '}' :: rest) = .ok (members, rest) := by
  induction members generalizing fuel with
  | nil => exact absurd rfl hne
  | cons member more ih =>
    obtain ⟨name, value⟩ := member
    have hvalue : ReadsBack value := h (name, value) List.mem_cons_self
    have hvaluePlain : Plain value := hplain (name, value) List.mem_cons_self
    have hwritten : WrittenWithin room value := hroom (name, value) List.mem_cons_self
    obtain ⟨tail, htail⟩ := exists_writeMembers_eq name value more
    have hlength : value.write.length + 2 ≤ (writeMember name value).length := by
      simp only [writeMember, List.length_append, List.length_cons]
      omega
    rw [htail, List.length_append] at hfuel
    obtain ⟨fuel, rfl⟩ : ∃ less, fuel = less + 1 + 1 := ⟨fuel - 2, by omega⟩
    cases more with
    | nil =>
      exact readPairs_writeMember hvaluePlain hvalue lone (by omega) hwritten
        (ends_cons (by decide) _)
    | cons next more =>
      have hshorter := congrArg List.length htail
      have hwrite : writeMembers ((name, value) :: next :: more) =
          writeMember name value ++ ',' :: ' ' :: writeMembers (next :: more) := by
        simp only [writeMembers, writeMember, List.append_assoc, List.cons_append]
      rw [hwrite, List.length_append, List.length_append, List.length_cons,
        List.length_cons] at hshorter
      have hothers := ih (List.cons_ne_nil _ _)
        (fun other hother => hplain other (List.mem_cons_of_mem _ hother))
        (fun other hother => h other (List.mem_cons_of_mem _ hother))
        (show 2 * (writeMembers (next :: more)).length + 1 ≤ fuel + 1 by omega)
        (fun other hother => hroom other (List.mem_cons_of_mem _ hother))
      rw [hwrite, List.append_assoc, List.cons_append, List.cons_append,
        readPairs_writeMember hvaluePlain hvalue lone (by omega) hwritten
          (ends_cons (by decide) _)]
      show (readPairs lone (fuel + 1) room
        (skipGap (writeMembers (next :: more) ++ '}' :: rest))).map _ = _
      rw [skipGap_writeMembers (List.cons_ne_nil _ _), hothers]
      rfl

theorem write_array (items : List Json) :
    (Json.array items).write = '[' :: (writeItems items ++ [']']) := rfl

/-- An array of items that are read back is read back. -/
theorem readsBack_array {items : List Json} (hplain : ∀ item ∈ items, Plain item)
    (h : ∀ item ∈ items, ReadsBack item) : ReadsBack (.array items) := by
  intro lone fuel room rest hfuel hroom _
  cases room with
  | zero => cases hroom
  | succ room =>
    rw [write_array, List.length_cons, List.length_append, List.length_singleton] at hfuel
    rw [write_array, List.cons_append, List.append_assoc, List.singleton_append]
    cases items with
    | nil => rfl
    | cons item more =>
      have hread := readItems_writeItems (List.cons_ne_nil item more) hplain h lone
        (show 2 * (writeItems (item :: more)).length + 1 ≤ fuel by omega)
        (writtenWithin_array_iff.mp hroom) rest
      obtain ⟨tail, htail⟩ := exists_writeItems_eq item more
      obtain ⟨c, behind, hbegin, -, -, hc⟩ := (hplain item List.mem_cons_self).exists_write_eq
      have hgap := (hplain item List.mem_cons_self).skipGap_write (tail ++ ']' :: rest)
      rw [htail, List.append_assoc] at hread ⊢
      rw [readValue, hgap]
      rw [hbegin] at hread ⊢
      simp only [List.cons_append] at hread ⊢
      split
      · rename_i heq
        exact absurd (List.cons_eq_cons.mp heq).1 hc
      · rw [hread]
        rfl

theorem write_object (members : Members) :
    (Json.object members).write = '{' :: (writeMembers members ++ ['}']) := rfl

/-- An object of members whose values are read back is read back. -/
theorem readsBack_object {members : Members} (hnames : members.names.Nodup)
    (hplain : ∀ member ∈ members, Plain member.2) (h : ∀ member ∈ members, ReadsBack member.2) :
    ReadsBack (.object members) := by
  intro lone fuel room rest hfuel hroom _
  cases room with
  | zero => cases hroom
  | succ room =>
    rw [write_object, List.length_cons, List.length_append, List.length_singleton] at hfuel
    rw [write_object, List.cons_append, List.append_assoc, List.singleton_append]
    cases members with
    | nil => rfl
    | cons member more =>
      obtain ⟨name, value⟩ := member
      have hread := readPairs_writeMembers (List.cons_ne_nil (name, value) more) hplain h lone
        (show 2 * (writeMembers ((name, value) :: more)).length + 1 ≤ fuel by omega)
        (writtenWithin_object_iff.mp hroom) rest
      have hgap := skipGap_writeMembers (List.cons_ne_nil (name, value) more) ('}' :: rest)
      obtain ⟨tail, htail⟩ := exists_writeMembers_eq name value more
      obtain ⟨behind, hquote⟩ : ∃ behind,
          writeMembers ((name, value) :: more) ++ '}' :: rest = '"' :: behind :=
        ⟨_, congrArg (· ++ '}' :: rest) htail⟩
      rw [readValue, hgap]
      rw [hquote] at hread ⊢
      show (readPairs lone fuel room ('"' :: behind) >>= fun read =>
        Except.ok (Json.object (Members.ofPairs read.1), read.2)) = _
      rw [hread]
      exact congrArg (fun members => Except.ok (Json.object members, rest))
        (Members.ofPairs_of_nodup hnames)

/-- Plain values are read back. -/
theorem Plain.readsBack {value : Json} (h : Plain value) : ReadsBack value := by
  induction h with
  | null => exact readsBack_null
  | bool b => exact readsBack_bool b
  | integer h => exact readsBack_integer h
  | string s => exact readsBack_string s
  | array hplain ih => exact readsBack_array hplain ih
  | object hnames hplain ih => exact readsBack_object hnames hplain ih

/-! ## Documents -/

mutual

/-- How many arrays and objects lie in one another. -/
def depth : Json → Nat
  | .array items => depthOfItems items + 1
  | .object members => depthOfMembers members + 1
  | _ => 0

/-- The depth of the deepest item. -/
def depthOfItems : List Json → Nat
  | [] => 0
  | item :: rest => max (depth item) (depthOfItems rest)

/-- The depth of the deepest value of a member. -/
def depthOfMembers : List (String × Json) → Nat
  | [] => 0
  | (_, value) :: rest => max (depth value) (depthOfMembers rest)

end

theorem depthOfItems_le_iff {items : List Json} {room : Nat} :
    depthOfItems items ≤ room ↔ ∀ item ∈ items, item.depth ≤ room := by
  induction items with
  | nil => simp [depthOfItems]
  | cons item rest ih => simp only [depthOfItems, Nat.max_le, ih, List.forall_mem_cons]

theorem depthOfMembers_le_iff {members : Members} {room : Nat} :
    depthOfMembers members ≤ room ↔ ∀ member ∈ members, member.2.depth ≤ room := by
  induction members with
  | nil => simp [depthOfMembers]
  | cons member rest ih => simp only [depthOfMembers, Nat.max_le, ih, List.forall_mem_cons]

/-- Only their depth keeps plain values from being written. -/
theorem Plain.writtenWithin_iff {value : Json} (h : Plain value) (room : Nat) :
    WrittenWithin room value ↔ value.depth ≤ room := by
  induction h generalizing room with
  | null | bool _ | string _ => cases room <;> simp [WrittenWithin, writeFault?, depth]
  | integer h =>
    exact ⟨fun _ => Nat.zero_le room, fun _ => writtenWithin_integer_iff.mpr h⟩
  | array _ ih =>
    cases room with
    | zero => simp [WrittenWithin, writeFault?, depth]
    | succ room =>
      rw [writtenWithin_array_iff, depth, Nat.add_le_add_iff_right, depthOfItems_le_iff]
      exact forall₂_congr fun item hitem => ih item hitem room
  | object _ _ ih =>
    cases room with
    | zero => simp [WrittenWithin, writeFault?, depth]
    | succ room =>
      rw [writtenWithin_object_iff, depth, Nat.add_le_add_iff_right, depthOfMembers_le_iff]
      exact forall₂_congr fun member hmember => ih member hmember room

theorem exists_of_itemsFault?_eq_some {room : Nat} {items : List Json} {fault : WriteFault}
    (h : itemsFault? room items = some fault) :
    ∃ item ∈ items, writeFault? room item = some fault := by
  induction items with
  | nil => cases h
  | cons item rest ih =>
    rw [itemsFault?, Option.or_eq_some_iff] at h
    rcases h with h | ⟨-, h⟩
    · exact ⟨item, List.mem_cons_self, h⟩
    · obtain ⟨other, hother, hfault⟩ := ih h
      exact ⟨other, List.mem_cons_of_mem _ hother, hfault⟩

theorem exists_of_membersFault?_eq_some {room : Nat} {members : Members} {fault : WriteFault}
    (h : membersFault? room members = some fault) :
    ∃ member ∈ members, writeFault? room member.2 = some fault := by
  induction members with
  | nil => cases h
  | cons member rest ih =>
    rw [membersFault?, Option.or_eq_some_iff] at h
    rcases h with h | ⟨-, h⟩
    · exact ⟨member, List.mem_cons_self, h⟩
    · obtain ⟨other, hother, hfault⟩ := ih h
      exact ⟨other, List.mem_cons_of_mem _ hother, hfault⟩

/-- Nothing else than its depth is reported of a plain value that is not written. -/
theorem Plain.eq_tooDeep {value : Json} (h : Plain value) {room : Nat} {fault : WriteFault}
    (hfault : writeFault? room value = some fault) : fault = .tooDeep := by
  induction h generalizing room with
  | null | bool _ | string _ => cases room <;> cases hfault
  | integer h =>
    rw [show writeFault? room _ = none from writtenWithin_integer_iff.mpr h] at hfault
    cases hfault
  | array _ ih =>
    cases room with
    | zero =>
      cases hfault
      rfl
    | succ room =>
      obtain ⟨item, hitem, hfault⟩ := exists_of_itemsFault?_eq_some hfault
      exact ih item hitem hfault
  | object _ _ ih =>
    cases room with
    | zero =>
      cases hfault
      rfl
    | succ room =>
      obtain ⟨member, hmember, hfault⟩ := exists_of_membersFault?_eq_some hfault
      exact ih member hmember hfault

/-- A plain value is a document if there is room for it, and refused beyond that. -/
theorem Plain.text?_eq {value : Json} (h : Plain value) (writing : Writing) :
    text? writing value =
      if value.depth ≤ writing.room then .ok (String.ofList value.write)
      else .error .tooDeep := by
  unfold text?
  cases hfault : writeFault? writing.room value with
  | none => rw [if_pos ((h.writtenWithin_iff writing.room).mp hfault)]
  | some fault =>
    obtain rfl := h.eq_tooDeep hfault
    rw [if_neg]
    intro hdepth
    cases hfault.symm.trans ((h.writtenWithin_iff writing.room).mpr hdepth)

/-- The document of a plain value is read as that value, by a reader that has room for it. -/
theorem Plain.read_write {value : Json} (h : Plain value) {reading : Reading}
    (hdepth : value.depth ≤ reading.room) : read reading value.write = .ok value := by
  have hread := h.readsBack reading.lone (2 * value.write.length + 1) reading.room [] (by omega)
    ((h.writtenWithin_iff _).mpr hdepth) ends_nil
  have hgap := h.skipGap_write []
  rw [List.append_nil] at hread hgap
  have htext : readText reading value.write = .ok value := by
    unfold readText
    split
    · rename_i hmark
      obtain ⟨c, rest, hwrite, -, hascii, -⟩ := h.exists_write_eq
      rw [hwrite] at hmark
      obtain ⟨rfl, -⟩ := List.cons_eq_cons.mp hmark
      exact absurd hascii (by decide)
    · rw [hgap, hread]
      rfl
  unfold read
  rw [htext]
  rfl

end PlatformClient.Json
