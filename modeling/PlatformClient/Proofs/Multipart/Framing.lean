import PlatformClient.Proofs.Octets.ReadBack
import PlatformClient.Proofs.Text.Occurrence
import PlatformClient.Proofs.Upload.Bodies

/-!
# The framing of the data

Behind the header block stand the octets of the file, then the delimiter, and the mark that ends the
body. A receiver looks for the first delimiter. Since the delimiter begins with a carriage return
and, if the boundary holds none, has no other, it cannot begin in the data and end in the delimiter
behind them. So the receiver finds the end of the data, whatever they end with, if and only if the
delimiter does not stand in them as a whole.

## Main definitions

* `Multipart.delimiter`, `Multipart.endMark`: what stands behind the data
* `Multipart.cutAt?`, `Multipart.received?`: what a receiver reads
* `Multipart.Framed`: what stands behind the header block of a body

## Main results

* `Multipart.cutAt?_eq_some_iff`: a receiver finds the first occurrence
* `Multipart.framed_closing`: data and closing are framed
* `Operation.writeMultipart_framed`: what is written for a file is framed
-/

namespace PlatformClient

namespace Multipart

/-- What ends the data: a line break, two dashes and the boundary. -/
def delimiter (boundary : List Char) : Octets := singleOctets (lineBreak ++ '-' :: '-' :: boundary)

/-- What stands behind the last delimiter: two dashes and a line break. -/
def endMark : Octets := singleOctets ('-' :: '-' :: lineBreak)

theorem closing_eq (boundary : List Char) : closing boundary = delimiter boundary ++ endMark := by
  simp [closing, delimiter, endMark, singleOctets]

/-! ## Receivers -/

/-- What stands before the first occurrence of a word, and behind it. -/
def cutAt? (word octets : Octets) : Option (Octets × Octets) :=
  if word.isPrefixOf octets then some ([], octets.drop word.length)
  else
    match octets with
    | [] => none
    | octet :: rest => (cutAt? word rest).map fun (front, back) => (octet :: front, back)

/-- The data that a receiver reads behind a header block: what stands before the first delimiter, if
the body ends with it. -/
def received? (boundary : List Char) (content : Octets) : Option Octets :=
  match cutAt? (delimiter boundary) content with
  | some (data, rest) => if rest = endMark then some data else none
  | none => none

theorem cutAt?_of_begins {word octets : Octets} (h : word <+: octets) :
    cutAt? word octets = some ([], octets.drop word.length) := by
  unfold cutAt?
  rw [if_pos (List.isPrefixOf_iff_prefix.mpr h)]

theorem cutAt?_nil_of_not_begins {word : Octets} (h : ¬ word <+: []) : cutAt? word [] = none := by
  unfold cutAt?
  rw [if_neg fun hbegin => h (List.isPrefixOf_iff_prefix.mp hbegin)]

theorem cutAt?_cons_of_not_begins {word rest : Octets} {octet : UInt8}
    (h : ¬ word <+: octet :: rest) :
    cutAt? word (octet :: rest) =
      (cutAt? word rest).map fun (front, back) => (octet :: front, back) := by
  rw [cutAt?, if_neg fun hbegin => h (List.isPrefixOf_iff_prefix.mp hbegin)]

/-- Nothing stands before an occurrence at the front. -/
theorem cutAt?_eq_some_iff_of_begins {word octets front back : Octets} (h : word <+: octets) :
    cutAt? word octets = some (front, back) ↔
      octets = front ++ (word ++ back) ∧ Text.FirstAt word front.length octets := by
  rw [cutAt?_of_begins h, Option.some.injEq, Prod.mk.injEq]
  constructor
  · rintro ⟨rfl, rfl⟩
    exact ⟨(List.prefix_iff_eq_append.mp h).symm, Text.firstAt_zero_iff.mpr h⟩
  · rintro ⟨hoctets, -, hnone⟩
    cases front with
    | nil =>
      refine ⟨rfl, ?_⟩
      rw [hoctets, List.nil_append, List.drop_left]
    | cons octet front => exact absurd h (hnone 0 (Nat.succ_pos _))

/-- A receiver finds the first occurrence of a word. -/
theorem cutAt?_eq_some_iff {word octets front back : Octets} :
    cutAt? word octets = some (front, back) ↔
      octets = front ++ (word ++ back) ∧ Text.FirstAt word front.length octets := by
  induction octets generalizing front with
  | nil =>
    by_cases hbegin : word <+: []
    · exact cutAt?_eq_some_iff_of_begins hbegin
    · rw [cutAt?_nil_of_not_begins hbegin]
      constructor
      · intro h
        cases h
      · rintro ⟨hoctets, -⟩
        have hword : word = [] := by simp_all
        exact absurd (hword ▸ List.nil_prefix) hbegin
  | cons octet rest ih =>
    by_cases hbegin : word <+: octet :: rest
    · exact cutAt?_eq_some_iff_of_begins hbegin
    · rw [cutAt?_cons_of_not_begins hbegin, Option.map_eq_some_iff]
      constructor
      · rintro ⟨⟨before, behind⟩, hcut, heq⟩
        obtain ⟨rfl, rfl⟩ := Prod.mk.inj heq
        obtain ⟨hrest, hfirst⟩ := ih.mp hcut
        refine ⟨?_, Text.firstAt_succ_cons_iff.mpr ⟨hbegin, hfirst⟩⟩
        rw [List.cons_append, ← hrest]
      · rintro ⟨hoctets, hfirst⟩
        cases front with
        | nil => exact absurd (Text.firstAt_zero_iff.mp hfirst) hbegin
        | cons other front =>
          rw [List.cons_append] at hoctets
          obtain ⟨rfl, hrest⟩ := List.cons.inj hoctets
          have hlater := (Text.firstAt_succ_cons_iff.mp hfirst).2
          exact ⟨(front, back), ih.mpr ⟨hrest, hlater⟩, rfl⟩

/-! ## The data of a part -/

/-- What stands behind the header block of a body with these data: the data byte for byte, the
delimiter, and the mark that ends the body. -/
structure Framed (boundary : List Char) (data content : Octets) : Prop where
  eq : content = data ++ (delimiter boundary ++ endMark)
  /-- The delimiter occurs first behind the data exactly if it does not occur in them. -/
  first_iff : Text.FirstAt (delimiter boundary) data.length content ↔
    ¬ delimiter boundary <:+: data
  /-- Exactly then a receiver reads the data. -/
  received_iff : received? boundary content = some data ↔ ¬ delimiter boundary <:+: data

theorem received?_eq_some_iff {boundary : List Char} {content data : Octets} :
    received? boundary content = some data ↔
      content = data ++ (delimiter boundary ++ endMark) ∧
        Text.FirstAt (delimiter boundary) data.length content := by
  rw [← cutAt?_eq_some_iff]
  unfold received?
  rcases cutAt? (delimiter boundary) content with _ | ⟨front, back⟩
  · simp
  · by_cases hend : back = endMark <;> simp [hend]

/-- A boundary of single octets without a carriage return has no octet of one. -/
theorem return_not_mem_singleOctets {s : List Char} (hreturn : '\r' ∉ s)
    (hsingle : ∀ c ∈ s, isSingleOctet c = true) : UInt8.ofNat '\r'.toNat ∉ singleOctets s := by
  intro hmem
  obtain ⟨c, hc, hoctet⟩ := List.mem_map.mp hmem
  have hsize : c.toNat < 0x100 := by simpa [isSingleOctet] using hsingle c hc
  have hnumber := congrArg UInt8.toNat hoctet
  rw [Utf8.toNat_ofNat_of_lt hsize, Utf8.toNat_ofNat_of_lt (by decide)] at hnumber
  exact hreturn (Char.toNat_inj.mp hnumber ▸ hc)

/-- Data and closing are framed. -/
theorem framed_closing {boundary : List Char} (hreturn : '\r' ∉ boundary)
    (hsingle : ∀ c ∈ boundary, isSingleOctet c = true) (data : Octets) :
    Framed boundary data (data ++ closing boundary) := by
  have hword : delimiter boundary =
      UInt8.ofNat '\r'.toNat :: singleOctets ('\n' :: '-' :: '-' :: boundary) := rfl
  have hnone : UInt8.ofNat '\r'.toNat ∉ singleOctets ('\n' :: '-' :: '-' :: boundary) := by
    refine return_not_mem_singleOctets (by simpa using hreturn) ?_
    simpa using ⟨by decide, by decide, hsingle⟩
  have hfirst : Text.FirstAt (delimiter boundary) data.length
      (data ++ (delimiter boundary ++ endMark)) ↔ ¬ delimiter boundary <:+: data := by
    rw [hword]
    exact Text.firstAt_length_iff hnone data endMark
  rw [closing_eq]
  refine ⟨rfl, hfirst, ?_⟩
  rw [received?_eq_some_iff, hfirst]
  exact and_iff_right rfl

end Multipart

namespace Operation

variable {τ : Type}

/-- **The framing of the data.** For every boundary without a carriage return, every name and every
source, what is written to an empty buffer is the opening with the header block, and behind it the
framed octets of the source; what cannot be written completely is refused. -/
theorem writeMultipart_framed {boundary : String} (hreturn : '\r' ∉ boundary.toList) {number : Nat}
    {lent : Pool} (hknown : number < lent.buffers.length) (filename : String) (source : Source)
    (surroundings : Surroundings τ) (world : World τ) :
    (Writable boundary source → ∃ content,
      writeMultipart number boundary filename source surroundings
          (withPool world (lent.set number .empty)) =
        (.ok (), withPool world (lent.set number
          (.ofOctets (Multipart.opening boundary.toList filename.toList ++ content)))) ∧
      Multipart.Framed boundary.toList source.data content) ∧
    (¬ Writable boundary source → ∃ failure after,
      writeMultipart number boundary filename source surroundings
          (withPool world (lent.set number .empty)) = (.error failure, after)) := by
  constructor
  · intro h
    have hsingle := Multipart.boundaryFault?_eq_none_iff.mp h.1
    refine ⟨source.data ++ Multipart.closing boundary.toList, ?_,
      Multipart.framed_closing hreturn hsingle source.data⟩
    rw [← List.append_assoc]
    exact writeMultipart_of_writable hknown h filename surroundings world
  · intro h
    obtain ⟨failure, hfailure⟩ := Option.ne_none_iff_exists'.mp (mt writable_iff.mpr h)
    obtain ⟨content, hwrite⟩ :=
      writeMultipart_of_failure hknown hfailure filename surroundings world
    exact ⟨failure, _, hwrite⟩

/-- A pool with one buffer, which is lent out. -/
def trialLent : Pool := ⟨1, [.empty], [], [0]⟩

/-- Data that end with the begin of the delimiter are framed, and received as they are. -/
theorem writeMultipart_framed_of_begun_delimiter :
    '\r' ∉ "b".toList ∧ 0 < trialLent.buffers.length ∧
      ∃ content,
        writeMultipart 0 "b" "a.png" ⟨[1, 13, 10, 45, 45], none⟩ (.trial 0)
            (withPool (.of .new ⟨[]⟩ []) (trialLent.set 0 .empty)) =
          (.ok (), withPool (.of .new ⟨[]⟩ []) (trialLent.set 0
            (.ofOctets (Multipart.opening "b".toList "a.png".toList ++ content)))) ∧
        Multipart.received? "b".toList content = some [1, 13, 10, 45, 45] := by
  have hreturn : '\r' ∉ "b".toList := by decide
  have hknown : 0 < trialLent.buffers.length := by decide
  obtain ⟨content, hwritten, hframed⟩ := (writeMultipart_framed hreturn hknown "a.png"
    ⟨[1, 13, 10, 45, 45], none⟩ (.trial 0) (.of .new ⟨[]⟩ [])).1 ⟨rfl, rfl⟩
  refine ⟨hreturn, hknown, content, hwritten, hframed.received_iff.mpr ?_⟩
  decide

end Operation

end PlatformClient
