import PlatformClient.Multipart
import PlatformClient.Proofs.Octets.Ascii

/-!
# The header block of a part

Between the delimiter and the octets of the file stand two header lines and an empty one. The name
of the file enters both lines: escaped in the first, and by the content type in the second. A type
from the table, and those that stand for unknown types, hold no line break; but a name with the
scheme `data` writes its type itself, and that type is not escaped. So the block has exactly two
lines unless such a type holds a line break.

## Main definitions

* `Multipart.BreakFree`: octets without line breaks
* `Multipart.TwoHeaders`: the header block has exactly its two lines
* `Multipart.CarriesBreak`: the names that carry a type with a line break

## Main results

* `Multipart.breakFree_disposition`: no name breaks the first line
* `Multipart.partType_breaks_iff`: the names that break the second
* `Multipart.twoHeaders_iff`: the bodies whose header block has exactly two lines
-/

namespace PlatformClient.Multipart

/-- Octets without line breaks. -/
def BreakFree (octets : Octets) : Prop :=
  UInt8.ofNat '\r'.toNat ∉ octets ∧ UInt8.ofNat '\n'.toNat ∉ octets

/-- A text holds a line break. -/
def Breaks (s : List Char) : Prop := '\r' ∈ s ∨ '\n' ∈ s

instance (s : List Char) : Decidable (Breaks s) := inferInstanceAs (Decidable (_ ∨ _))

theorem breakFree_encode_iff (s : List Char) : BreakFree (Utf8.encode s) ↔ ¬ Breaks s := by
  unfold BreakFree Breaks
  rw [Utf8.mem_encode_iff (by decide), Utf8.mem_encode_iff (by decide), not_or]

/-- Between the delimiter line and the data of a body stand a line that names the field and the
escaped file, a line that names the type, and an empty line. No line holds a line break. -/
def TwoHeaders (boundary filename : List Char) (data : Octets) : Prop :=
  ∃ disposition type : Octets,
    body boundary filename data =
      singleOctets ('-' :: '-' :: boundary ++ lineBreak) ++
        (disposition ++ Utf8.encode lineBreak ++ (type ++ Utf8.encode (lineBreak ++ lineBreak))) ++
        data ++ closing boundary ∧
    disposition = Utf8.encode (dispositionLine filename) ∧
    Utf8.encode "Content-Type: ".toList <+: type ∧
    BreakFree disposition ∧ BreakFree type

/-- A name has the scheme `data`, and the type that it carries is taken as it is written, in front
of the comma and the first semicolon, and holds a line break. -/
def CarriesBreak (filename : List Char) : Prop :=
  ∃ rest description tail,
    ContentType.splitScheme filename = (some "data".toList, rest) ∧
    Text.cut ',' rest = (description, some tail) ∧
    '/' ∈ (Text.cut ';' description).1 ∧ '=' ∉ (Text.cut ';' description).1 ∧
    Breaks (Text.cut ';' description).1

/-! ## The first line -/

theorem not_breaks_dispositionLine (filename : List Char) :
    ¬ Breaks (dispositionLine filename) := by
  have hname : ¬ Breaks (escapeName filename) := by
    rintro (h | h)
    · exact (escapeName_no_break filename _ h).2.1 rfl
    · exact (escapeName_no_break filename _ h).1 rfl
  have hfront : ¬ Breaks ("Content-Disposition: form-data; name=\"".toList ++ fieldName.toList ++
      "\"; filename=\"".toList) := by
    decide
  unfold Breaks at *
  unfold dispositionLine
  simp only [List.mem_append, not_or] at *
  exact ⟨⟨⟨hfront.1, hname.1⟩, by decide⟩, ⟨⟨hfront.2, hname.2⟩, by decide⟩⟩

/-- No name breaks the first line. -/
theorem breakFree_disposition (filename : List Char) :
    BreakFree (Utf8.encode (dispositionLine filename)) :=
  (breakFree_encode_iff _).mpr (not_breaks_dispositionLine filename)

/-! ## The second line -/

theorem not_breaks_table : ∀ row ∈ ContentType.table, ¬ Breaks row.1.toList := by
  decide +kernel

theorem not_breaks_ofExtension? {extension : List Char} {type : String}
    (h : ContentType.ofExtension? extension = some type) : ¬ Breaks type.toList := by
  unfold ContentType.ofExtension? at h
  obtain ⟨row, hrow, rfl⟩ := Option.map_eq_some_iff.mp h
  exact not_breaks_table row (List.mem_of_find?_eq_some hrow)

/-- The type of a name without the scheme `data` holds no line break. -/
theorem not_breaks_partType_of_ne {filename : List Char}
    (h : ∀ rest, ContentType.splitScheme filename ≠ (some "data".toList, rest)) :
    ¬ Breaks (partType filename) := by
  unfold partType ContentType.ofName?
  split
  · rename_i rest hscheme
    exact absurd hscheme (h rest)
  · rename_i scheme rest hscheme
    cases htype : ContentType.ofExtension? _ with
    | none => decide
    | some type => exact not_breaks_ofExtension? htype

theorem partType_of_data {filename rest : List Char}
    (h : ContentType.splitScheme filename = (some "data".toList, rest)) :
    partType filename = (ContentType.ofData? rest).getD defaultType.toList := by
  unfold partType ContentType.ofName?
  rw [h]
  rfl

/-- A `data` name without a comma carries no type. -/
theorem ofData?_of_no_comma {rest description : List Char}
    (h : Text.cut ',' rest = (description, none)) : ContentType.ofData? rest = none := by
  unfold ContentType.ofData?
  rw [h]

/-- What stands in front of the comma and the first semicolon is the type as it is written, unless
it holds an equals sign or no slash. -/
theorem ofData?_of_comma {rest description tail : List Char}
    (h : Text.cut ',' rest = (description, some tail)) :
    ContentType.ofData? rest = some
      (if '/' ∈ (Text.cut ';' description).1 ∧ '=' ∉ (Text.cut ';' description).1 then
        (Text.cut ';' description).1
      else "text/plain".toList) := by
  unfold ContentType.ofData?
  rw [h]
  simp only
  generalize (Text.cut ';' description).1 = written
  by_cases hslash : '/' ∈ written
  · by_cases hequals : '=' ∈ written
    · rw [if_pos (by simp [hequals]), if_neg fun hboth => hboth.2 hequals]
    · rw [if_neg (by simp [hslash, hequals]), if_pos ⟨hslash, hequals⟩]
  · rw [if_pos (by simp [hslash]), if_neg fun hboth => hslash hboth.1]

/-- The names whose type holds a line break. -/
theorem partType_breaks_iff (filename : List Char) :
    Breaks (partType filename) ↔ CarriesBreak filename := by
  by_cases hdata : ∃ rest, ContentType.splitScheme filename = (some "data".toList, rest)
  · obtain ⟨rest, hscheme⟩ := hdata
    rw [partType_of_data hscheme]
    rcases hcut : Text.cut ',' rest with ⟨description, _ | tail⟩
    · rw [ofData?_of_no_comma hcut]
      refine iff_of_false (by decide) ?_
      rintro ⟨other, _, _, hother, hcomma, -⟩
      obtain rfl : rest = other := congrArg Prod.snd (hscheme.symm.trans hother)
      cases hcut.symm.trans hcomma
    · rw [ofData?_of_comma hcut, Option.getD_some]
      constructor
      · intro hbreaks
        split at hbreaks
        · rename_i htaken
          exact ⟨rest, description, tail, hscheme, hcut, htaken.1, htaken.2, hbreaks⟩
        · exact absurd hbreaks (by decide)
      · rintro ⟨other, _, _, hother, hcomma, hslash, hequals, hbreaks⟩
        obtain rfl : rest = other := congrArg Prod.snd (hscheme.symm.trans hother)
        cases hcut.symm.trans hcomma
        rw [if_pos ⟨hslash, hequals⟩]
        exact hbreaks
  · refine iff_of_false (not_breaks_partType_of_ne fun rest hscheme => hdata ⟨rest, hscheme⟩) ?_
    rintro ⟨rest, _, _, hscheme, -⟩
    exact hdata ⟨rest, hscheme⟩

/-! ## The block -/

/-- The block has exactly two lines if the type of the part holds no line break, and only then. -/
theorem twoHeaders_iff_not_breaks (boundary filename : List Char) (data : Octets) :
    TwoHeaders boundary filename data ↔ ¬ Breaks (partType filename) := by
  have htype : ¬ Breaks (typeLine filename) ↔ ¬ Breaks (partType filename) := by
    unfold typeLine Breaks
    simp
  have hbody : body boundary filename data =
      singleOctets ('-' :: '-' :: boundary ++ lineBreak) ++
        (Utf8.encode (dispositionLine filename) ++ Utf8.encode lineBreak ++
          (Utf8.encode (typeLine filename) ++ Utf8.encode (lineBreak ++ lineBreak))) ++
        data ++ closing boundary := by
    simp [body, opening, headerLines]
  rw [← htype, ← breakFree_encode_iff]
  constructor
  · rintro ⟨disposition, type, hblock, rfl, -, -, hfree⟩
    rw [hbody] at hblock
    have hfront := List.append_cancel_right (List.append_cancel_right hblock)
    have hlines := List.append_cancel_left (List.append_cancel_left hfront)
    rw [List.append_cancel_right hlines]
    exact hfree
  · intro hfree
    refine ⟨_, _, hbody, rfl, ?_, breakFree_disposition filename, hfree⟩
    unfold typeLine
    rw [Utf8.encode_append]
    exact List.prefix_append _ _

/-- **The header block of a part.** It has exactly its two lines, for every boundary and all data,
if and only if the name of the file carries no type with a line break. -/
theorem twoHeaders_iff (boundary filename : List Char) (data : Octets) :
    TwoHeaders boundary filename data ↔ ¬ CarriesBreak filename :=
  (twoHeaders_iff_not_breaks boundary filename data).trans
    (not_congr (partType_breaks_iff filename))

/-- A name of a file that adds a header line. -/
theorem not_twoHeaders_of_data_name :
    "data:a/b\r\nX: y,".toList ≠ [] ∧
      ¬ TwoHeaders "b".toList "data:a/b\r\nX: y,".toList (Utf8.encode "z".toList) := by
  refine ⟨by decide, fun htwo => ?_⟩
  refine (twoHeaders_iff_not_breaks _ _ _).mp htwo ?_
  decide

end PlatformClient.Multipart
