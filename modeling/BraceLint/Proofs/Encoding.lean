import BraceLint.Proofs.LineEnds

/-!
# Which contents are text

A file is checked if its whole content is UTF-8. That is said twice here. A content is UTF-8
if it is the encoding of a text; and it is UTF-8 if it can be cut into the bytes of single
characters, for which there is a table of forms. The two agree, the text is determined by the
content, and a part that is in order does not make up for a part that is not.

## Main definitions

* `byteForms`, `FitsForm`, `WellFormed` — the bytes of characters, and contents made of them
* `pairCount` — the pairs of carriage return and newline in a text
* `DecidedBy` — what the check of a file has to give, by its content

## Main statements

* `fitsForm_iff` — the forms describe the encodings of characters, and nothing else
* `wellFormed_iff` — the well-formed contents are the encodings of texts
* `byteLength_normalize` — each pair costs one byte when the line ends are unified
* `checkFile_utf8` — what checking a file gives, by its content
-/
namespace BraceLint

/-! ## The bytes of a character -/

/-- The bytes that may follow the first byte of a character. -/
def trailing : Nat × Nat := (0x80, 0xbf)

/-- The forms that the bytes of a character may have, as a range for each byte with both ends
included. No form has a first byte, or a first byte with a second, that would encode a number
below those which need so many bytes, a surrogate, or a number above `0x10ffff`. -/
def byteForms : List (List (Nat × Nat)) :=
  [[(0x00, 0x7f)],
    [(0xc2, 0xdf), trailing],
    [(0xe0, 0xe0), (0xa0, 0xbf), trailing],
    [(0xe1, 0xec), trailing, trailing],
    [(0xed, 0xed), (0x80, 0x9f), trailing],
    [(0xee, 0xef), trailing, trailing],
    [(0xf0, 0xf0), (0x90, 0xbf), trailing, trailing],
    [(0xf1, 0xf3), trailing, trailing, trailing],
    [(0xf4, 0xf4), (0x80, 0x8f), trailing, trailing]]

def InRange (b : UInt8) (range : Nat × Nat) : Prop := range.1 ≤ b.toNat ∧ b.toNat ≤ range.2

/-- The bytes have one of the forms. -/
def FitsForm (bytes : List UInt8) : Prop := ∃ form ∈ byteForms, List.Forall₂ InRange bytes form

/-- The bytes can be cut into those of single characters. -/
inductive WellFormed : List UInt8 → Prop
  /-- There may be no bytes. -/
  | nil : WellFormed []
  /-- The bytes of a character come before others. -/
  | append {bytes rest : List UInt8} : FitsForm bytes → WellFormed rest →
    WellFormed (bytes ++ rest)

theorem InRange.widen {b : UInt8} {range wider : Nat × Nat} (h : InRange b range)
    (hlow : wider.1 ≤ range.1) (hhigh : range.2 ≤ wider.2) : InRange b wider :=
  ⟨hlow.trans h.1, h.2.trans hhigh⟩

theorem inRange_ofNat {n low high : Nat} (hlow : low ≤ n) (hhigh : n ≤ high)
    (h : high < 256 := by decide) : InRange (UInt8.ofNat n) (low, high) := by
  rw [InRange, UInt8.toNat_ofNat']
  omega

theorem inRange_trailing (n : Nat) : InRange (UInt8.ofNat (n % 64 + 128)) trailing :=
  inRange_ofNat (by omega) (by omega)

/-- Three bytes have the form that goes with the number that they encode. -/
theorem fitsForm_three {v : Nat} (hlow : 0x7ff < v) (hhigh : v ≤ 0xffff)
    (hvalid : v < 0xd800 ∨ 0xdfff < v) :
    FitsForm [UInt8.ofNat (v / 4096 % 16 + 224), UInt8.ofNat (v / 64 % 64 + 128),
      UInt8.ofNat (v % 64 + 128)] := by
  have hcases : v < 0x1000 ∨ 0x1000 ≤ v ∧ v < 0xd000 ∨ 0xd000 ≤ v ∧ v < 0xd800 ∨ 0xdfff < v := by
    omega
  rcases hcases with h | h | h | h
  · exact ⟨[(0xe0, 0xe0), (0xa0, 0xbf), trailing], by decide,
      .cons (inRange_ofNat (by omega) (by omega))
        (.cons (inRange_ofNat (by omega) (by omega)) (.cons (inRange_trailing _) .nil))⟩
  · exact ⟨[(0xe1, 0xec), trailing, trailing], by decide,
      .cons (inRange_ofNat (by omega) (by omega))
        (.cons (inRange_trailing _) (.cons (inRange_trailing _) .nil))⟩
  · exact ⟨[(0xed, 0xed), (0x80, 0x9f), trailing], by decide,
      .cons (inRange_ofNat (by omega) (by omega))
        (.cons (inRange_ofNat (by omega) (by omega)) (.cons (inRange_trailing _) .nil))⟩
  · exact ⟨[(0xee, 0xef), trailing, trailing], by decide,
      .cons (inRange_ofNat (by omega) (by omega))
        (.cons (inRange_trailing _) (.cons (inRange_trailing _) .nil))⟩

/-- Four bytes have the form that goes with the number that they encode. -/
theorem fitsForm_four {v : Nat} (hlow : 0xffff < v) (hhigh : v < 0x110000) :
    FitsForm [UInt8.ofNat (v / 262144 % 8 + 240), UInt8.ofNat (v / 4096 % 64 + 128),
      UInt8.ofNat (v / 64 % 64 + 128), UInt8.ofNat (v % 64 + 128)] := by
  have hcases : v < 0x40000 ∨ 0x40000 ≤ v ∧ v < 0x100000 ∨ 0x100000 ≤ v := by omega
  rcases hcases with h | h | h
  · exact ⟨[(0xf0, 0xf0), (0x90, 0xbf), trailing, trailing], by decide,
      .cons (inRange_ofNat (by omega) (by omega))
        (.cons (inRange_ofNat (by omega) (by omega))
          (.cons (inRange_trailing _) (.cons (inRange_trailing _) .nil)))⟩
  · exact ⟨[(0xf1, 0xf3), trailing, trailing, trailing], by decide,
      .cons (inRange_ofNat (by omega) (by omega))
        (.cons (inRange_trailing _) (.cons (inRange_trailing _) (.cons (inRange_trailing _) .nil)))⟩
  · exact ⟨[(0xf4, 0xf4), (0x80, 0x8f), trailing, trailing], by decide,
      .cons (inRange_ofNat (by omega) (by omega))
        (.cons (inRange_ofNat (by omega) (by omega))
          (.cons (inRange_trailing _) (.cons (inRange_trailing _) .nil)))⟩

/-- The encoding of a character has one of the forms. -/
theorem fitsForm_utf8EncodeChar (c : Char) : FitsForm (String.utf8EncodeChar c) := by
  have hvalid : c.val.toNat < 0xd800 ∨ 0xdfff < c.val.toNat ∧ c.val.toNat < 0x110000 := c.valid
  rw [String.utf8EncodeChar]
  generalize c.val.toNat = v at hvalid
  split
  · exact ⟨[(0x00, 0x7f)], by decide,
      .cons (inRange_ofNat (by omega) (by omega)) .nil⟩
  split
  · exact ⟨[(0xc2, 0xdf), trailing], by decide,
      .cons (inRange_ofNat (by omega) (by omega)) (.cons (inRange_trailing _) .nil)⟩
  split
  · exact fitsForm_three (by omega) (by omega) (by omega)
  · exact fitsForm_four (by omega) (by omega)

theorem exists_char {v : Nat} (h : v < 0xd800 ∨ 0xdfff < v ∧ v < 0x110000) :
    ∃ c : Char, c.val.toNat = v :=
  ⟨Char.ofNatAux v h, rfl⟩

theorem ofNat_eq_of_toNat {n : Nat} {b : UInt8} (h : n = b.toNat) : UInt8.ofNat n = b := by
  rw [h, UInt8.ofNat_toNat]

theorem exists_utf8EncodeChar_two {a b : UInt8} (ha : InRange a (0xc2, 0xdf))
    (hb : InRange b trailing) : ∃ c, String.utf8EncodeChar c = [a, b] := by
  simp only [InRange, trailing] at ha hb
  obtain ⟨c, hc⟩ := @exists_char ((a.toNat - 192) * 64 + (b.toNat - 128)) (by omega)
  refine ⟨c, ?_⟩
  rw [String.utf8EncodeChar, hc, if_neg (by omega), if_pos (by omega),
    @ofNat_eq_of_toNat _ a (by omega), @ofNat_eq_of_toNat _ b (by omega)]

/-- Three bytes encode a character, unless they encode too small a number or a surrogate. -/
theorem exists_utf8EncodeChar_three {a b c : UInt8} (ha : InRange a (0xe0, 0xef))
    (hb : InRange b trailing) (hc : InRange c trailing) (hlow : a.toNat = 0xe0 → 0xa0 ≤ b.toNat)
    (hsurrogate : a.toNat = 0xed → b.toNat ≤ 0x9f) :
    ∃ ch, String.utf8EncodeChar ch = [a, b, c] := by
  simp only [InRange, trailing] at ha hb hc
  obtain ⟨ch, hch⟩ := @exists_char
    ((a.toNat - 224) * 4096 + (b.toNat - 128) * 64 + (c.toNat - 128)) (by omega)
  refine ⟨ch, ?_⟩
  rw [String.utf8EncodeChar, hch, if_neg (by omega), if_neg (by omega), if_pos (by omega),
    @ofNat_eq_of_toNat _ a (by omega), @ofNat_eq_of_toNat _ b (by omega),
    @ofNat_eq_of_toNat _ c (by omega)]

/-- Four bytes encode a character, unless they encode too small or too great a number. -/
theorem exists_utf8EncodeChar_four {a b c d : UInt8} (ha : InRange a (0xf0, 0xf4))
    (hb : InRange b trailing) (hc : InRange c trailing) (hd : InRange d trailing)
    (hlow : a.toNat = 0xf0 → 0x90 ≤ b.toNat) (hhigh : a.toNat = 0xf4 → b.toNat ≤ 0x8f) :
    ∃ ch, String.utf8EncodeChar ch = [a, b, c, d] := by
  simp only [InRange, trailing] at ha hb hc hd
  obtain ⟨ch, hch⟩ := @exists_char ((a.toNat - 240) * 262144 + (b.toNat - 128) * 4096 +
    (c.toNat - 128) * 64 + (d.toNat - 128)) (by omega)
  refine ⟨ch, ?_⟩
  rw [String.utf8EncodeChar, hch, if_neg (by omega), if_neg (by omega), if_neg (by omega),
    @ofNat_eq_of_toNat _ a (by omega), @ofNat_eq_of_toNat _ b (by omega),
    @ofNat_eq_of_toNat _ c (by omega), @ofNat_eq_of_toNat _ d (by omega)]

/-- **The forms describe the encodings of characters,** and nothing else. -/
theorem fitsForm_iff {bytes : List UInt8} :
    FitsForm bytes ↔ ∃ c, String.utf8EncodeChar c = bytes := by
  constructor
  · rintro ⟨form, hform, hfits⟩
    simp only [byteForms, List.mem_cons, List.not_mem_nil, or_false] at hform
    rcases hform with rfl | rfl | rfl | rfl | rfl | rfl | rfl | rfl | rfl
    · obtain _ | ⟨ha, _ | _⟩ := hfits
      obtain ⟨c, hc⟩ := exists_char (.inl (Nat.lt_of_le_of_lt ha.2 (by decide)))
      exact ⟨c, by rw [String.utf8EncodeChar, hc, if_pos ha.2, UInt8.ofNat_toNat]⟩
    · obtain _ | ⟨ha, _ | ⟨hb, _ | _⟩⟩ := hfits
      exact exists_utf8EncodeChar_two ha hb
    iterate 4
      obtain _ | ⟨ha, _ | ⟨hb, _ | ⟨hc, _ | _⟩⟩⟩ := hfits
      have hsecond : InRange _ trailing := hb.widen (by decide) (by decide)
      simp only [InRange, trailing] at ha hb
      exact exists_utf8EncodeChar_three ⟨by omega, by omega⟩ hsecond hc (by omega) (by omega)
    iterate 3
      obtain _ | ⟨ha, _ | ⟨hb, _ | ⟨hc, _ | ⟨hd, _ | _⟩⟩⟩⟩ := hfits
      have hsecond : InRange _ trailing := hb.widen (by decide) (by decide)
      simp only [InRange, trailing] at ha hb
      exact exists_utf8EncodeChar_four ⟨by omega, by omega⟩ hsecond hc hd (by omega) (by omega)
  · rintro ⟨c, rfl⟩
    exact fitsForm_utf8EncodeChar c

/-! ## The bytes of a text -/

theorem eq_utf8Encode_iff {content : ByteArray} {text : List Char} :
    content = text.utf8Encode ↔ content.data.toList = text.flatMap String.utf8EncodeChar := by
  constructor
  · rintro rfl
    exact List.toList_data_toByteArray
  · intro h
    have hdata : content.data = (text.flatMap String.utf8EncodeChar).toArray :=
      Array.toList_inj.mp h
    apply ByteArray.ext
    rw [hdata]
    exact List.data_toByteArray.symm

theorem wellFormed_flatMap (text : List Char) :
    WellFormed (text.flatMap String.utf8EncodeChar) := by
  induction text with
  | nil => exact .nil
  | cons c rest ih =>
    rw [List.flatMap_cons]
    exact .append (fitsForm_utf8EncodeChar c) ih

theorem WellFormed.exists_text {bytes : List UInt8} (h : WellFormed bytes) :
    ∃ text : List Char, bytes = text.flatMap String.utf8EncodeChar := by
  induction h with
  | nil => exact ⟨[], rfl⟩
  | append hbytes _ ih =>
    obtain ⟨c, rfl⟩ := fitsForm_iff.mp hbytes
    obtain ⟨text, rfl⟩ := ih
    exact ⟨c :: text, rfl⟩

/-- **The well-formed contents are the encodings of texts.** -/
theorem wellFormed_iff {content : ByteArray} :
    WellFormed content.data.toList ↔ ∃ text : List Char, content = text.utf8Encode := by
  constructor
  · intro h
    obtain ⟨text, htext⟩ := h.exists_text
    exact ⟨text, eq_utf8Encode_iff.mpr htext⟩
  · rintro ⟨text, htext⟩
    rw [eq_utf8Encode_iff.mp htext]
    exact wellFormed_flatMap text

/-- A content is the encoding of one text only. -/
theorem utf8Encode_injective {text text' : List Char} (h : text.utf8Encode = text'.utf8Encode) :
    text = text' := by
  have hdecode := decode_utf8Encode text
  rw [h, decode_utf8Encode] at hdecode
  cases hdecode
  rfl

theorem isValidUTF8_iff {content : ByteArray} :
    content.IsValidUTF8 ↔ WellFormed content.data.toList := by
  rw [wellFormed_iff]
  constructor
  · rintro ⟨text, h⟩
    exact ⟨text, h⟩
  · rintro ⟨text, h⟩
    exact ⟨text, h⟩

/-- A text in front makes no difference to what follows. -/
theorem wellFormed_utf8Encode_append (text : List Char) (rest : ByteArray) :
    WellFormed (text.utf8Encode ++ rest).data.toList ↔ WellFormed rest.data.toList := by
  induction text with
  | nil => simp
  | cons c text ih =>
    rw [List.utf8Encode_cons, ByteArray.append_assoc, ← isValidUTF8_iff,
      ByteArray.isValidUTF8_utf8Encode_singleton_append_iff, isValidUTF8_iff, ih]

theorem decode_of_not_wellFormed {content : ByteArray} (h : ¬ WellFormed content.data.toList) :
    decode content = .error .notUtf8 := by
  rw [← isValidUTF8_iff] at h
  rw [decode, String.fromUTF8?, dif_neg h]

/-- The encoding of a text has as many bytes as its characters need. -/
theorem size_utf8Encode (text : List Char) : text.utf8Encode.size = byteLength text := by
  have hlength : (text.flatMap String.utf8EncodeChar).length = byteLength text := by
    induction text with
    | nil => rfl
    | cons c rest ih =>
      rw [List.flatMap_cons, List.length_append, String.length_utf8EncodeChar, ih,
        byteLength_cons]
  rw [← hlength]
  exact List.size_toByteArray

/-! ## Pairs -/

/-- How many carriage returns of a text have a newline right after them. -/
def pairCount (text : List Char) : Nat := (text.zip text.tail).count ('\r', '\n')

theorem pairCount_pair (rest : List Char) :
    pairCount ('\r' :: '\n' :: rest) = pairCount rest + 1 := by
  cases rest <;> simp [pairCount]

theorem pairCount_cons {c : Char} {rest : List Char}
    (h : ¬ (c = '\r' ∧ rest.head? = some '\n')) : pairCount (c :: rest) = pairCount rest := by
  cases rest with
  | nil => rfl
  | cons d rest =>
    have hne : (c, d) ≠ ('\r', '\n') := by simpa using h
    exact List.count_cons_of_ne hne

/-- When the line ends are unified, each pair costs one byte. -/
theorem byteLength_normalize (text : List Char) :
    byteLength text = byteLength (Newline.normalize text) + pairCount text := by
  induction text using Newline.induction with
  | nil => rfl
  | pair rest ih =>
    rw [Newline.normalize_pair, pairCount_pair]
    simp only [byteLength_cons, ih, show ('\r').utf8Size = 1 from rfl]
    omega
  | single rest h ih =>
    have hreturn : ('\r').utf8Size = ('\n').utf8Size := rfl
    rw [Newline.normalize_return h, pairCount_cons fun hpair => h hpair.2, byteLength_cons,
      byteLength_cons, ih, hreturn, Nat.add_assoc]
  | other c rest hc ih =>
    rw [Newline.normalize_cons hc, pairCount_cons fun hpair => hc hpair.1, byteLength_cons,
      byteLength_cons, ih, Nat.add_assoc]

/-! ## Files -/

/-- What the check of a file has to give, by the content of the file. -/
structure DecidedBy (path : String) (content : ByteArray) (result : Except FileError Checked) :
    Prop where
  /-- The well-formed contents are the encodings of texts, each of one text only. -/
  encodes_iff : WellFormed content.data.toList ↔ ∃! text : List Char, content = text.utf8Encode
  /-- The check succeeds exactly on these. -/
  succeeds_iff : (∃ checked, result = .ok checked) ↔ WellFormed content.data.toList
  /-- Otherwise there is nothing but the failure, which tells the path as it was given. -/
  refused : ¬ WellFormed content.data.toList → result = .error ⟨path, .notUtf8⟩
  /-- That is so whatever text may come before the part that is not in order. -/
  refused_behind : ∀ (text : List Char) (rest : ByteArray), content = text.utf8Encode ++ rest →
    ¬ WellFormed rest.data.toList → result = .error ⟨path, .notUtf8⟩
  /-- The text of a content has the findings that it has with its line ends unified. The trace
  tells the bytes of the content and those that are scanned, and each pair makes up for one
  byte of the difference. -/
  checked : ∀ text : List Char, content = text.utf8Encode →
    ∃ (checked : Checked) (read scanned : Nat), result = .ok checked ∧
      checked.findings = findings (Newline.normalize text) ∧
        checked.records = .sourceRead path read :: trace (Newline.normalize text) ∧
          (trace (Newline.normalize text)).head? = some (.scanStarted scanned) ∧
            read = scanned + pairCount text

theorem checkFile_of_not_wellFormed {source : Source} {path : String} {content : ByteArray}
    (h : source path = .ok content) (hbad : ¬ WellFormed content.data.toList) :
    checkFile source path = .error ⟨path, .notUtf8⟩ := by
  rw [checkFile, h]
  dsimp only
  rw [decode_of_not_wellFormed hbad]

/-- **What checking a file gives.** The check of a file succeeds exactly if its content is
well-formed UTF-8, that is, the encoding of a text. The text is unique then, and its findings
with unified line ends are the result; of the bytes that were read, as many are not scanned as
there are pairs of carriage return and newline. Any other content gives a failure that tells
the path, without findings and without a trace, whatever text it begins with. -/
theorem checkFile_utf8 {source : Source} {path : String} {content : ByteArray}
    (h : source path = .ok content) : DecidedBy path content (checkFile source path) where
  encodes_iff := by
    rw [wellFormed_iff]
    constructor
    · rintro ⟨text, htext⟩
      exact ⟨text, htext, fun other hother => utf8Encode_injective (hother.symm.trans htext)⟩
    · rintro ⟨text, htext, -⟩
      exact ⟨text, htext⟩
  succeeds_iff := by
    constructor
    · rintro ⟨checked, hchecked⟩
      by_contra hbad
      rw [checkFile_of_not_wellFormed h hbad] at hchecked
      cases hchecked
    · intro hgood
      obtain ⟨text, rfl⟩ := wellFormed_iff.mp hgood
      exact ⟨_, checkFile_of_utf8Encode h⟩
  refused := checkFile_of_not_wellFormed h
  refused_behind := by
    rintro text rest rfl hbad
    apply checkFile_of_not_wellFormed h
    rwa [wellFormed_utf8Encode_append]
  checked := by
    rintro text rfl
    refine ⟨_, _, _, checkFile_of_utf8Encode h, rfl, rfl, rfl, ?_⟩
    rw [size_utf8Encode, byteLength_normalize]

/-- A surrogate behind a closing brace is refused, and the brace is not told. Behind it a pair
may stand, of which one byte is not scanned. -/
theorem checkFile_utf8_pair :
    checkFile (fun _ => .ok ("\x7d".toList.utf8Encode ++ ⟨#[0xed, 0xa0, 0x80]⟩)) "a" =
        .error ⟨"a", .notUtf8⟩ ∧
      ∃ checked, checkFile (fun _ => .ok "\x7d\r\n".toList.utf8Encode) "a" = .ok checked ∧
        checked.findings = [.extra ⟨1, 1⟩] := by
  have hbad : ¬ ByteArray.IsValidUTF8 ⟨#[0xed, 0xa0, 0x80]⟩ := by decide
  rw [isValidUTF8_iff] at hbad
  constructor
  · exact (checkFile_utf8 rfl).refused_behind "\x7d".toList _ rfl hbad
  · obtain ⟨checked, -, -, hchecked, hfindings, -⟩ :=
      (@checkFile_utf8 (fun _ => .ok "\x7d\r\n".toList.utf8Encode) "a" _ rfl).checked _ rfl
    exact ⟨checked, hchecked, hfindings.trans (by decide)⟩

end BraceLint
