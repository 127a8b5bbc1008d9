import ServiceTree.Http.Endpoint
import ServiceTree.Proofs.TextPieces

/-!
# Texts behind percent signs

A text is read back, byte by byte, from what it is encoded as, wherever percent signs are encoded too. In
a form, where blanks are plus signs, that holds of each name and each value, and the signs between them
are those that were put there.
-/

namespace ServiceTree.Percent

/-- The bytes of a text. -/
def bytes (text : List Char) : List UInt8 := text.flatMap String.utf8EncodeChar

/-! ## Characters that are encoded -/

variable {isEncoded : Char → Bool} {text : List Char} {c : Char}

/-- An encoded character is written with percent signs, letters and digits. -/
theorem of_mem_encodeChar {encoded : Char} (h : c ∈ encodeChar encoded) : c = '%' ∨ c.isAlphanum = true := by
  have hdigit : ∀ value < 16, (upperHexDigit value).isAlphanum = true := by decide
  rw [encodeChar, List.mem_flatMap] at h
  obtain ⟨byte, _, h⟩ := h
  have hsmall := byte.toNat_lt
  simp only [encodeByte, List.mem_cons, List.not_mem_nil, or_false] at h
  rcases h with rfl | rfl | rfl
  · exact .inl rfl
  · exact .inr (hdigit _ (by omega))
  · exact .inr (hdigit _ (by omega))

/-- Beside percent signs, letters and digits an encoded text has only characters of the text, and none that
are encoded. -/
theorem of_mem_encode (h : c ∈ encode isEncoded text) :
    (c ∈ text ∧ isEncoded c = false) ∨ c = '%' ∨ c.isAlphanum = true := by
  rw [encode, List.mem_flatMap] at h
  obtain ⟨own, hown, h⟩ := h
  split at h
  case isTrue => exact .inr (of_mem_encodeChar h)
  case isFalse hplain =>
    obtain rfl := List.mem_singleton.mp h
    exact .inl ⟨hown, Bool.eq_false_iff.mpr hplain⟩

/-- Only the empty text is encoded as nothing. -/
theorem encode_ne_nil (htext : text ≠ []) : encode isEncoded text ≠ [] := by
  cases text with
  | nil => exact absurd rfl htext
  | cons c rest =>
    rw [encode, List.flatMap_cons]
    refine List.append_ne_nil_of_left_ne_nil ?_ _
    split
    · have hbytes : String.utf8EncodeChar c ≠ [] := by
        rw [← List.length_pos_iff, String.length_utf8EncodeChar]
        exact c.utf8Size_pos
      obtain ⟨byte, more, hmore⟩ := List.exists_cons_of_ne_nil hbytes
      rw [encodeChar, hmore]
      exact List.cons_ne_nil _ _
    · exact List.cons_ne_nil _ _

/-- Beside percent and plus signs an encoded name or value of a form has only characters that stand for
themselves there. -/
theorem of_mem_encodeForm (h : c ∈ encodeForm text) : c = '+' ∨ c = '%' ∨ isPlainInForm c = true := by
  rw [encodeForm, List.mem_flatMap] at h
  obtain ⟨own, hown, h⟩ := h
  split at h
  · exact .inl (List.mem_singleton.mp h)
  · split at h
    case isTrue hplain =>
      obtain rfl := List.mem_singleton.mp h
      exact .inr (.inr hplain)
    case isFalse =>
      refine .inr ((of_mem_encodeChar h).imp_right fun halnum => ?_)
      rw [isPlainInForm, halnum, Bool.true_or]

/-! ## Decoding -/

/-- A character other than a percent sign stands for itself. -/
theorem decode_cons (hc : c ≠ '%') (rest : List Char) :
    decode (c :: rest) = String.utf8EncodeChar c ++ decode rest := by
  rw [decode.eq_def]
  split
  case h_1 heq => cases heq
  case h_2 heq => exact absurd (List.cons.inj heq).1 hc
  case h_3 heq =>
    obtain ⟨rfl, rfl⟩ := List.cons.inj heq
    rfl

/-- Two digits of base sixteen are read as the number that they write. -/
theorem natural?_upperHexDigit {high low : Nat} (hhigh : high < 16) (hlow : low < 16) :
    Numeral.natural? 16 [upperHexDigit high, upperHexDigit low] = some (16 * high + low) := by
  have hvalue : ∀ value < 16, Numeral.hexValue? (upperHexDigit value) = some value := by decide
  simp [Numeral.natural?, hvalue, hhigh, hlow]

/-- A byte is read back. -/
theorem decode_encodeByte (byte : UInt8) (rest : List Char) :
    decode (encodeByte byte ++ rest) = byte :: decode rest := by
  have hsmall := byte.toNat_lt
  have hread : Numeral.natural? 16 [upperHexDigit (byte.toNat / 16), upperHexDigit (byte.toNat % 16)] =
      some byte.toNat := by
    rw [natural?_upperHexDigit (by omega) (by omega), Nat.div_add_mod]
  change decode ('%' :: upperHexDigit _ :: upperHexDigit _ :: rest) = _
  simp only [decode, hread, UInt8.ofNat_toNat]

/-- A character is read back as its bytes. -/
theorem decode_encodeChar (c : Char) (rest : List Char) :
    decode (encodeChar c ++ rest) = String.utf8EncodeChar c ++ decode rest := by
  rw [encodeChar]
  induction String.utf8EncodeChar c with
  | nil => rfl
  | cons byte more ih => rw [List.flatMap_cons, List.append_assoc, decode_encodeByte, ih, List.cons_append]

/-- A text is read back as its bytes, where percent signs are encoded. -/
theorem decode_encode (hpercent : isEncoded '%' = true) (text : List Char) :
    decode (encode isEncoded text) = bytes text := by
  induction text with
  | nil => rfl
  | cons c rest ih =>
    rw [encode, List.flatMap_cons, bytes, List.flatMap_cons]
    change decode (_ ++ encode isEncoded rest) = _ ++ bytes rest
    split
    case isTrue => rw [decode_encodeChar, ih]
    case isFalse hplain =>
      rw [List.singleton_append, decode_cons (by rintro rfl; exact hplain hpercent), ih]

/-! ## Forms -/

/-- The bytes of a name or value of a form. -/
def decodeForm (text : List Char) : List UInt8 :=
  decode (text.map fun c => if c == '+' then ' ' else c)

/-- The pairs of a form, which are parted by signs and each of which is cut at its first sign. -/
def formPairs (text : List Char) : List (List UInt8 × List UInt8) :=
  ((Text.pieces (· == '&') text).filter fun piece => !piece.isEmpty).map fun piece =>
    let (name, value) := Text.cut (· == '=') piece
    (decodeForm name, decodeForm (value.getD []))

/-- A name or value of a form is read back as its bytes. -/
theorem decodeForm_encodeForm (text : List Char) : decodeForm (encodeForm text) = bytes text := by
  induction text with
  | nil => rfl
  | cons c rest ih =>
    rw [encodeForm, List.flatMap_cons, bytes, List.flatMap_cons, decodeForm, List.map_append]
    change decode (_ ++ (encodeForm rest).map _) = _ ++ bytes rest
    rw [← ih, decodeForm]
    split
    case isTrue hblank =>
      rw [beq_iff_eq.mp hblank]
      exact decode_cons (by decide) _
    case isFalse =>
      split
      case isTrue hplain =>
        have hne (other : Char) (hother : isPlainInForm other = false) : c ≠ other := by
          rintro rfl
          rw [hother] at hplain
          cases hplain
        rw [List.map_singleton, if_neg (by simpa using hne '+' (by decide))]
        exact decode_cons (hne '%' (by decide)) _
      case isFalse =>
        have hsame : ∀ digit ∈ encodeChar c, (if digit == '+' then ' ' else digit) = digit := by
          intro digit hdigit
          refine if_neg fun hplus => ?_
          rw [beq_iff_eq.mp hplus] at hdigit
          exact absurd (of_mem_encodeChar hdigit) (by decide)
        rw [List.map_congr_left hsame, List.map_id']
        exact decode_encodeChar c _

/-- The pairs of two forms with a sign between them are those of both. -/
theorem formPairs_append (text rest : List Char) :
    formPairs (text ++ '&' :: rest) = formPairs text ++ formPairs rest := by
  rw [formPairs, Text.pieces, Text.piecesFrom_append (by rfl), List.filter_append, List.map_append]
  rfl

/-- The pair of an entry. -/
def entryPair (entry : String × String) : List UInt8 × List UInt8 :=
  (bytes entry.1.toList, bytes entry.2.toList)

/-- A name or value of a form has none of the signs that part pairs or cut them. -/
theorem encodeForm_plain {mark : Char} (hmark : mark = '&' ∨ mark = '=') (text : List Char) :
    ∀ c ∈ encodeForm text, (c == mark) = false := by
  intro c hc
  rw [beq_eq_false_iff_ne]
  rintro rfl
  rcases hmark with rfl | rfl <;> exact absurd (of_mem_encodeForm hc) (by decide)

/-- An entry of a query is one pair. -/
theorem formPairs_entryText (entry : String × String) :
    formPairs (Endpoint.entryText entry) = [entryPair entry] := by
  have hplain : ∀ c ∈ Endpoint.entryText entry, (c == '&') = false := by
    rw [Endpoint.entryText, List.forall_mem_append, List.forall_mem_cons]
    exact ⟨encodeForm_plain (.inl rfl) _, rfl, encodeForm_plain (.inl rfl) _⟩
  have hcut : Text.cut (· == '=') (Endpoint.entryText entry) =
      (encodeForm entry.1.toList, some (encodeForm entry.2.toList)) :=
    Text.cut_append (encodeForm_plain (.inr rfl) _) rfl _
  have hsome : (Endpoint.entryText entry).isEmpty = false := by simp [Endpoint.entryText]
  rw [formPairs, Text.pieces, Text.piecesFrom_eq_singleton hplain, List.reverse_nil, List.nil_append,
    List.filter_cons_of_pos (by rw [hsome]; rfl), List.filter_nil, List.map_singleton, hcut, entryPair,
    ← decodeForm_encodeForm, ← decodeForm_encodeForm]
  rfl

/-- Entries with signs between them are their pairs. -/
theorem formPairs_entries (entries : Fields String) :
    formPairs (List.intercalate ['&'] (entries.map Endpoint.entryText)) = entries.map entryPair := by
  induction entries with
  | nil => rfl
  | cons entry rest ih =>
    cases rest with
    | nil => exact (congrArg formPairs List.intercalate_singleton).trans (formPairs_entryText entry)
    | cons next rest =>
      rw [List.map_cons, List.map_cons, List.intercalate_cons_cons, List.append_assoc,
        List.singleton_append, formPairs_append, formPairs_entryText, ← List.map_cons, ih]
      rfl

/-- Entries hold no sign that begins a fragment. -/
theorem notMem_entries (entries : Fields String) :
    '#' ∉ List.intercalate ['&'] (entries.map Endpoint.entryText) := by
  have hform (text : String) : '#' ∉ encodeForm text.toList :=
    fun h => absurd (of_mem_encodeForm h) (by decide)
  have hentry (entry : String × String) : '#' ∉ Endpoint.entryText entry := by
    simp [Endpoint.entryText, hform]
  induction entries with
  | nil => simp
  | cons entry rest ih =>
    cases rest with
    | nil => exact List.intercalate_singleton (α := Char) ▸ hentry entry
    | cons next rest =>
      rw [List.map_cons, List.map_cons, List.intercalate_cons_cons, ← List.map_cons, List.mem_append,
        List.mem_append, not_or, not_or]
      exact ⟨⟨hentry entry, by decide⟩, ih⟩

/-- A query with more entries has its own pairs and behind them those of the entries. -/
theorem formPairs_extendQuery (query : Option (List Char)) (entries : Fields String) :
    formPairs ((Endpoint.extendQuery query entries).getD []) =
      formPairs (query.getD []) ++ entries.map entryPair := by
  cases entries with
  | nil => exact (List.append_nil _).symm
  | cons entry rest =>
    rw [Endpoint.extendQuery, if_neg (by simp), Option.getD_some, ← formPairs_entries]
    cases query.getD [] with
    | nil => rfl
    | cons c before =>
      rw [if_neg (by simp), List.append_assoc, List.singleton_append, formPairs_append]

/-- There is a query if there was one or there are entries. -/
theorem extendQuery_eq_none_iff {query : Option (List Char)} {entries : Fields String} :
    Endpoint.extendQuery query entries = none ↔ query = none ∧ entries = [] := by
  cases entries with
  | nil => exact (and_iff_left rfl).symm
  | cons entry rest => simp [Endpoint.extendQuery]

end ServiceTree.Percent
