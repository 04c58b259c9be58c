import ChatFlow.Proofs.Lines
import ChatFlow.Url.Form

namespace ChatFlow

namespace Text

theorem continues_iff {b : Nat} : continues b = true ↔ 0x80 ≤ b ∧ b < 0xC0 := by
  simp [continues]

theorem frontChar_one {n : Nat} (h : n < 0x80) (rest : List Nat) :
    frontChar n rest = (some (Char.ofNat n), 0) := by
  rw [frontChar.eq_def, if_pos h]

theorem frontChar_two {n : Nat} (hlow : 0x80 ≤ n) (hhigh : n < 0x800) (rest : List Nat) :
    frontChar (0xC0 + n / 0x40) ((0x80 + n % 0x40) :: rest) = (some (Char.ofNat n), 1) := by
  have hfirst : (0xC2 ≤ 0xC0 + n / 0x40 && 0xC0 + n / 0x40 < 0xE0) = true := by
    rw [Bool.and_eq_true, decide_eq_true_eq, decide_eq_true_eq]
    omega
  have hsecond : continues (0x80 + n % 0x40) = true := continues_iff.mpr (by omega)
  have hvalue : (0xC0 + n / 0x40 - 0xC0) * 0x40 + (0x80 + n % 0x40 - 0x80) = n := by omega
  rw [frontChar.eq_def, if_neg (by omega), if_pos hfirst]
  dsimp only
  rw [if_pos hsecond, hvalue]

theorem frontChar_three {n : Nat} (hlow : 0x800 ≤ n) (hhigh : n < 0x10000)
    (hsurrogate : n < 0xD800 ∨ 0xDFFF < n) (rest : List Nat) :
    frontChar (0xE0 + n / 0x1000) ((0x80 + n / 0x40 % 0x40) :: (0x80 + n % 0x40) :: rest) =
      (some (Char.ofNat n), 2) := by
  have hnotTwo : (0xC2 ≤ 0xE0 + n / 0x1000 && 0xE0 + n / 0x1000 < 0xE0) = false := by
    rw [Bool.and_eq_false_iff, decide_eq_false_iff_not, decide_eq_false_iff_not]
    omega
  have hfirst : (0xE0 ≤ 0xE0 + n / 0x1000 && 0xE0 + n / 0x1000 < 0xF0) = true := by
    rw [Bool.and_eq_true, decide_eq_true_eq, decide_eq_true_eq]
    omega
  -- neither longer than need be nor a surrogate
  have hsecond : mayFollow (0xE0 + n / 0x1000) (0x80 + n / 0x40 % 0x40) = true := by
    simp only [mayFollow, continues, Bool.and_eq_true, Bool.or_eq_true, decide_eq_true_eq,
      bne_iff_ne]
    omega
  have hthird : continues (0x80 + n % 0x40) = true := continues_iff.mpr (by omega)
  have hvalue : (0xE0 + n / 0x1000 - 0xE0) * 0x1000 + (0x80 + n / 0x40 % 0x40 - 0x80) * 0x40 +
      (0x80 + n % 0x40 - 0x80) = n := by
    omega
  rw [frontChar.eq_def, if_neg (by omega), if_neg (Bool.eq_false_iff.mp hnotTwo), if_pos hfirst]
  dsimp only
  rw [hsecond, if_neg (by simp), if_pos hthird, hvalue]

theorem frontChar_four {n : Nat} (hlow : 0x10000 ≤ n) (hhigh : n < 0x110000) (rest : List Nat) :
    frontChar (0xF0 + n / 0x40000)
      ((0x80 + n / 0x1000 % 0x40) :: (0x80 + n / 0x40 % 0x40) :: (0x80 + n % 0x40) :: rest) =
        (some (Char.ofNat n), 3) := by
  have hnotTwo : (0xC2 ≤ 0xF0 + n / 0x40000 && 0xF0 + n / 0x40000 < 0xE0) = false := by
    rw [Bool.and_eq_false_iff, decide_eq_false_iff_not, decide_eq_false_iff_not]
    omega
  have hnotThree : (0xE0 ≤ 0xF0 + n / 0x40000 && 0xF0 + n / 0x40000 < 0xF0) = false := by
    rw [Bool.and_eq_false_iff, decide_eq_false_iff_not, decide_eq_false_iff_not]
    omega
  have hfirst : (0xF0 ≤ 0xF0 + n / 0x40000 && 0xF0 + n / 0x40000 < 0xF5) = true := by
    rw [Bool.and_eq_true, decide_eq_true_eq, decide_eq_true_eq]
    omega
  -- neither longer than need be nor beyond the last code point
  have hsecond : mayFollow (0xF0 + n / 0x40000) (0x80 + n / 0x1000 % 0x40) = true := by
    simp only [mayFollow, continues, Bool.and_eq_true, Bool.or_eq_true, decide_eq_true_eq,
      bne_iff_ne]
    omega
  have hthird : continues (0x80 + n / 0x40 % 0x40) = true := continues_iff.mpr (by omega)
  have hfourth : continues (0x80 + n % 0x40) = true := continues_iff.mpr (by omega)
  have hvalue : (0xF0 + n / 0x40000 - 0xF0) * 0x40000 + (0x80 + n / 0x1000 % 0x40 - 0x80) * 0x1000 +
      (0x80 + n / 0x40 % 0x40 - 0x80) * 0x40 + (0x80 + n % 0x40 - 0x80) = n := by
    omega
  rw [frontChar.eq_def, if_neg (by omega), if_neg (Bool.eq_false_iff.mp hnotTwo),
    if_neg (Bool.eq_false_iff.mp hnotThree), if_pos hfirst]
  dsimp only
  rw [hsecond, if_neg (by simp), hthird, if_neg (by simp), if_pos hfourth, hvalue]

/-- The bytes of a character are read back as the character. -/
theorem readUtf8_utf8Of (c : Char) (rest : List Nat) :
    readUtf8 (utf8Of c.toNat ++ rest) = some c :: readUtf8 rest := by
  have hvalid : c.toNat < 0xD800 ∨ 0xDFFF < c.toNat ∧ c.toNat < 0x110000 := c.valid
  unfold utf8Of
  split
  · next h =>
    rw [List.singleton_append, readUtf8, frontChar_one h, Char.ofNat_toNat]
    rfl
  · split
    · rw [List.cons_append, List.singleton_append, readUtf8, frontChar_two (by omega) (by omega),
        Char.ofNat_toNat]
      rfl
    · split
      · simp only [List.cons_append, List.nil_append]
        rw [readUtf8, frontChar_three (by omega) (by omega) (by omega), Char.ofNat_toNat]
        rfl
      · simp only [List.cons_append, List.nil_append]
        rw [readUtf8, frontChar_four (by omega) (by omega), Char.ofNat_toNat]
        rfl

theorem ofUtf8_toUtf8 (cs : List Char) : ofUtf8 (toUtf8 cs) = cs := by
  unfold ofUtf8 toUtf8
  induction cs with
  | nil => rw [List.flatMap_nil, readUtf8, List.map_nil]
  | cons c cs ih => rw [List.flatMap_cons, readUtf8_utf8Of, List.map_cons, ih, Option.getD_some]

theorem lt_of_mem_utf8Of {c : Char} {b : Nat} (h : b ∈ utf8Of c.toNat) : b < 0x100 := by
  have hvalid : c.toNat < 0xD800 ∨ 0xDFFF < c.toNat ∧ c.toNat < 0x110000 := c.valid
  unfold utf8Of at h
  split at h
  · rw [List.mem_singleton] at h
    omega
  · split at h
    · simp only [List.mem_cons, List.not_mem_nil, or_false] at h
      omega
    · split at h
      · simp only [List.mem_cons, List.not_mem_nil, or_false] at h
        omega
      · simp only [List.mem_cons, List.not_mem_nil, or_false] at h
        omega

end Text

namespace Percent

theorem hexValue?_digit {n : Nat} (h : n < 16) : Text.hexValue? (digit n) = some n := by
  have hall : ∀ n : Fin 16, Text.hexValue? (digit n) = some n.val := by decide
  exact hall ⟨n, h⟩

theorem decode_escape {b : Nat} (h : b < 0x100) (rest : List Char) :
    decode (escape b ++ rest) = b :: decode rest := by
  unfold escape
  simp only [List.cons_append, List.nil_append]
  rw [decode, hexValue?_digit (by omega : b / 16 < 16), hexValue?_digit (by omega : b % 16 < 16)]
  show (b / 16 * 16 + b % 16) :: decode rest = _
  rw [Nat.div_add_mod']

/-- Every character other than a percent sign stands for itself. -/
theorem decode_cons {c : Char} (h : c ≠ '%') (rest : List Char) :
    decode (c :: rest) = Text.utf8Of c.toNat ++ decode rest := by
  rw [decode.eq_def]
  split
  · next heq => cases heq
  · next heq => exact absurd (List.cons.inj heq).1 h
  · next heq =>
    obtain ⟨rfl, rfl⟩ := List.cons.inj heq
    rfl

end Percent

namespace Form

def spaced (cs : List Char) : List Char := cs.map fun c => if c = '+' then ' ' else c

theorem spaced_append (front rest : List Char) :
    spaced (front ++ rest) = spaced front ++ spaced rest :=
  List.map_append

theorem plain_byte {b : Nat} (h : b < 0x100) (hplain : isPlain b = true) :
    Char.ofNat b ≠ '%' ∧ Char.ofNat b ≠ '+' ∧ (Char.ofNat b).toNat = b ∧ b < 0x80 := by
  have hall : ∀ b : Fin 0x100, isPlain b = true →
      Char.ofNat b ≠ '%' ∧ Char.ofNat b ≠ '+' ∧ (Char.ofNat b).toNat = b.val ∧ b.val < 0x80 := by
        decide +kernel
  exact hall ⟨b, h⟩ hplain

theorem spaced_escape {b : Nat} (h : b < 0x100) : spaced (Percent.escape b) = Percent.escape b := by
  have hdigit : ∀ n : Fin 16, Percent.digit n ≠ '+' := by decide
  have hhigh : Percent.digit (b / 16) ≠ '+' := hdigit ⟨b / 16, by omega⟩
  have hlow : Percent.digit (b % 16) ≠ '+' := hdigit ⟨b % 16, by omega⟩
  simp [spaced, Percent.escape, hhigh, hlow]

theorem decode_encodeByte {b : Nat} (h : b < 0x100) (rest : List Char) :
    Percent.decode (spaced (encodeByte b) ++ rest) = b :: Percent.decode rest := by
  unfold encodeByte
  split
  · next hplain =>
    obtain ⟨hpercent, hplus, hvalue, hascii⟩ := plain_byte h hplain
    have hspaced : spaced [Char.ofNat b] = [Char.ofNat b] := by simp [spaced, hplus]
    rw [hspaced, List.singleton_append, Percent.decode_cons hpercent, hvalue, Text.utf8Of,
      if_pos hascii]
    rfl
  · split
    · next hblank =>
      rw [hblank]
      exact Percent.decode_cons (by decide) rest
    · rw [spaced_escape h, Percent.decode_escape h]

theorem decode_encodeBytes {bytes : List Nat} (h : ∀ b ∈ bytes, b < 0x100) :
    Percent.decode (spaced (bytes.flatMap encodeByte)) = bytes := by
  induction bytes with
  | nil => rfl
  | cons b bytes ih =>
    obtain ⟨hb, hbytes⟩ := List.forall_mem_cons.mp h
    rw [List.flatMap_cons, spaced_append, decode_encodeByte hb, ih hbytes]

theorem decode_encode (s : String) : decode (encode s) = s := by
  have hbytes : ∀ b ∈ Text.toUtf8 s.toList, b < 0x100 := by
    intro b hb
    obtain ⟨c, -, hc⟩ := List.mem_flatMap.mp hb
    exact Text.lt_of_mem_utf8Of hc
  show String.ofList (Text.ofUtf8 (Percent.decode (spaced (encode s)))) = s
  rw [encode, decode_encodeBytes hbytes, Text.ofUtf8_toUtf8, String.ofList_toList]

/-- Keys and values are written in the characters in which bytes are. -/
theorem all_encode {p : Char → Bool} (h : ∀ b : Fin 0x100, (encodeByte b).all p = true)
    (s : String) :
    ∀ c ∈ encode s, p c = true := by
  intro c hc
  obtain ⟨b, hb, hc⟩ := List.mem_flatMap.mp hc
  obtain ⟨d, -, hd⟩ := List.mem_flatMap.mp hb
  exact List.all_eq_true.mp (h ⟨b, Text.lt_of_mem_utf8Of hd⟩) c hc

theorem ne_separator_of_mem_encode {s : String} {c : Char} (h : c ∈ encode s) :
    c ≠ '&' ∧ c ≠ '=' := by
  have hsafe := all_encode (p := fun c => c != '&' && c != '=') (by decide +kernel) s c h
  simpa using hsafe

theorem decodePair_encodePair (pair : String × String) : decodePair (encodePair pair) = pair := by
  have hkey : ∀ c ∈ encode pair.1, (c == '=') = false :=
    fun c hc => beq_eq_false_iff_ne.mpr (ne_separator_of_mem_encode hc).2
  unfold decodePair encodePair
  rw [Text.cutAt_append hkey (beq_self_eq_true '=')]
  simp only [decode_encode]

theorem not_mem_encodePair (pair : String × String) : '&' ∉ encodePair pair := by
  intro h
  rcases List.mem_append.mp h with h | h
  · exact (ne_separator_of_mem_encode h).1 rfl
  · rcases List.mem_cons.mp h with h | h
    · cases h
    · exact (ne_separator_of_mem_encode h).1 rfl

/-- The pairs of a query are read back as they were written. -/
theorem read_print (pairs : List (String × String)) : read (print pairs) = pairs := by
  cases pairs with
  | nil => rfl
  | cons pair rest =>
    have hpieces :
        Text.pieces '&' (print (pair :: rest)).toList = (pair :: rest).map encodePair := by
      rw [print, String.toList_ofList]
      refine Text.pieces_intercalate (by simp) fun piece hpiece => ?_
      obtain ⟨p, -, rfl⟩ := List.mem_map.mp hpiece
      exact not_mem_encodePair p
    have hfilter :
        ((pair :: rest).map encodePair).filter (!·.isEmpty) = (pair :: rest).map encodePair := by
      rw [List.filter_eq_self]
      intro piece hpiece
      obtain ⟨p, -, rfl⟩ := List.mem_map.mp hpiece
      simp [encodePair]
    rw [read, hpieces, hfilter, List.map_map]
    exact (List.map_congr_left fun p _ => decodePair_encodePair p).trans (List.map_id _)

end Form

end ChatFlow
