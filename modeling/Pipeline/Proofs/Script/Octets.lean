import Mathlib.Data.List.Basic
import Pipeline.Script.Octets

/-! Texts as octets: a text is decoded from its own octets, its characters of ASCII are octets of
their own, and lines that are written with line feeds are told apart again. -/

namespace Pipeline.Script.Octets

variable {a c : Char} {line rest : Octets} {lines : List Octets} {text : String}

theorem toList_loop (bytes : ByteArray) (i : Nat) (reversed : List UInt8) :
    ByteArray.toList.loop bytes i reversed = reversed.reverse ++ bytes.data.toList.drop i := by
  fun_induction ByteArray.toList.loop bytes i reversed with
  | case1 i reversed hlt ih =>
    have hlength : i < bytes.data.toList.length := hlt
    have hget : bytes.get! i = bytes.data.toList[i] := by
      cases bytes
      exact getElem!_pos _ i hlt
    rw [ih, hget, List.reverse_cons, List.append_assoc, List.singleton_append,
      ← List.drop_eq_getElem_cons hlength]
  | case2 i reversed hlt =>
    rw [List.drop_eq_nil_of_le (Nat.le_of_not_lt hlt), List.append_nil]

theorem ofBytes_eq (bytes : ByteArray) :
    ofBytes bytes = bytes.data.toList.map fun b => Char.ofNat b.toNat := by
  rw [ofBytes, ByteArray.toList, toList_loop]
  rfl

theorem toNat_ofNat_byte (b : UInt8) : (Char.ofNat b.toNat).toNat = b.toNat := by
  have hb : b.toNat < 256 := b.toNat_lt
  have hvalid : b.toNat.isValidChar := .inl (by omega)
  rw [Char.ofNat, dif_pos hvalid]
  rfl

theorem toBytes_ofBytes (bytes : ByteArray) : toBytes (ofBytes bytes) = bytes := by
  have hbyte (b : UInt8) : (Char.ofNat b.toNat).toNat.toUInt8 = b := by
    rw [toNat_ofNat_byte]
    exact UInt8.ofNat_toNat
  rw [toBytes, ofBytes_eq, List.map_map]
  simp [Function.comp_def, hbyte]

theorem toText?_ofText (text : String) : toText? (ofText text) = some text := by
  rw [toText?, ofText, toBytes_ofBytes, String.toUTF8_eq_toByteArray, String.fromUTF8?,
    dif_pos text.isValidUTF8]
  rfl

/-- The octets of a character. -/
def ofChar (c : Char) : Octets := (String.utf8EncodeChar c).map fun b => Char.ofNat b.toNat

theorem ofText_eq_flatMap (text : String) : ofText text = text.toList.flatMap ofChar := by
  conv_lhs => rw [← String.ofList_toList (s := text)]
  rw [ofText, ofBytes_eq, String.toUTF8_eq_toByteArray, String.toByteArray_ofList,
    List.utf8Encode, List.toList_data_toByteArray, List.map_flatMap]
  rfl

theorem le_of_mem_utf8EncodeChar {b : UInt8} (hc : 128 ≤ c.toNat)
    (hb : b ∈ String.utf8EncodeChar c) : 128 ≤ b.toNat := by
  have hcode : ¬ c.val.toNat ≤ 0x7f := Nat.not_le.mpr hc
  have hvalue : ∃ n, 128 ≤ n ∧ n < 256 ∧ b = UInt8.ofNat n := by
    rw [String.utf8EncodeChar, if_neg hcode] at hb
    split at hb
    · simp only [List.mem_cons, List.not_mem_nil, or_false] at hb
      obtain rfl | rfl := hb <;> exact ⟨_, by omega, by omega, rfl⟩
    · split at hb
      · simp only [List.mem_cons, List.not_mem_nil, or_false] at hb
        obtain rfl | rfl | rfl := hb <;> exact ⟨_, by omega, by omega, rfl⟩
      · simp only [List.mem_cons, List.not_mem_nil, or_false] at hb
        obtain rfl | rfl | rfl | rfl := hb <;> exact ⟨_, by omega, by omega, rfl⟩
  obtain ⟨n, hlow, hhigh, rfl⟩ := hvalue
  rwa [UInt8.toNat_ofNat_of_lt' hhigh]

theorem ofChar_of_lt (hc : c.toNat < 128) : ofChar c = [c] := by
  have hcode : c.val.toNat ≤ 0x7f := Nat.le_of_lt_succ hc
  rw [ofChar, String.utf8EncodeChar, if_pos hcode, List.map_singleton,
    UInt8.toNat_ofNat_of_lt' (Nat.lt_of_le_of_lt hcode (by decide))]
  exact congrArg (List.cons · []) (Char.ofNat_toNat c)

/-- A character of ASCII is among the octets of no other character. -/
theorem eq_of_mem_ofChar (ha : a.toNat < 128) (h : a ∈ ofChar c) : a = c := by
  by_cases hc : c.toNat < 128
  · rw [ofChar_of_lt hc] at h
    exact List.mem_singleton.mp h
  · obtain ⟨b, hb, rfl⟩ := List.mem_map.mp h
    have hlarge := le_of_mem_utf8EncodeChar (Nat.le_of_not_lt hc) hb
    rw [toNat_ofNat_byte] at ha
    omega

theorem mem_of_mem_ofText (ha : a.toNat < 128) (h : a ∈ ofText text) : a ∈ text.toList := by
  rw [ofText_eq_flatMap] at h
  obtain ⟨c, hc, hmem⟩ := List.mem_flatMap.mp h
  rwa [eq_of_mem_ofChar ha hmem]

theorem ofChar_ne_nil (c : Char) : ofChar c ≠ [] :=
  List.map_eq_nil_iff.not.mpr String.utf8EncodeChar_ne_nil

theorem getLast?_of_getLast?_ofText (ha : a.toNat < 128) (h : (ofText text).getLast? = some a) :
    text.toList.getLast? = some a := by
  rw [ofText_eq_flatMap] at h
  obtain htext | ⟨front, c, htext⟩ := text.toList.eq_nil_or_concat
  · rw [htext] at h
    cases h
  · rw [List.concat_eq_append] at htext
    rw [htext, List.flatMap_append, List.flatMap_singleton,
      List.getLast?_append_of_ne_nil _ (ofChar_ne_nil c)] at h
    rw [htext, List.getLast?_concat, eq_of_mem_ofChar ha (List.mem_of_getLast? h)]

/-! ### Lines -/

theorem linesFrom_line (h : '\n' ∉ line) (reversed rest : Octets) :
    linesFrom reversed (line ++ '\n' :: rest) = (reversed.reverse ++ line) :: linesFrom [] rest := by
  induction line generalizing reversed with
  | nil => rw [List.append_nil]; rfl
  | cons c line ih =>
    obtain ⟨hc, hline⟩ := not_or.mp (mt List.mem_cons.mpr h)
    rw [List.cons_append, linesFrom, ih hline, List.reverse_cons, List.append_assoc]
    · rfl
    · exact fun heq => hc heq.symm

theorem unlines_cons (line : Octets) (lines : List Octets) :
    unlines (line :: lines) = line ++ '\n' :: unlines lines := by
  rw [unlines, List.flatMap_cons, List.append_assoc]
  rfl

/-- Lines that are written with a line feed behind each are told apart at the line feeds. -/
theorem lines_unlines (h : ∀ line ∈ lines, '\n' ∉ line) : Octets.lines (unlines lines) = lines := by
  induction lines with
  | nil => rfl
  | cons line lines ih =>
    obtain ⟨hline, hlines⟩ := List.forall_mem_cons.mp h
    rw [unlines_cons, Octets.lines, linesFrom_line hline]
    exact congrArg (line :: ·) (ih hlines)

end Pipeline.Script.Octets
