import ChatFlow.Identifier

namespace ChatFlow

namespace Text

theorem hexValue?_digitChar : ∀ n < 16, hexValue? (Nat.digitChar n) = some n := by decide

theorem hexNumber_append_singleton (ds : List Char) {c : Char} {n : Nat}
    (h : hexValue? c = some n) :
    hexNumber (ds ++ [c]) = 16 * hexNumber ds + n := by
  simp [hexNumber, List.foldl_append, h]

theorem hexNumber_zeros_append (count : Nat) (ds : List Char) :
    hexNumber (List.replicate count '0' ++ ds) = hexNumber ds := by
  induction count with
  | zero => rfl
  | succ count ih =>
    rw [← ih, List.replicate_succ, List.cons_append]
    rfl

theorem hexNumber_hexDigits (n : Nat) : hexNumber (hexDigits n) = n := by
  induction n using Nat.strongRecOn with
  | ind n ih =>
    unfold hexDigits at *
    rw [Nat.toDigits_eq_if (by decide)]
    split
    · next hlt => simp [hexNumber, hexValue?_digitChar n hlt]
    · next hle =>
      have hdigit := hexValue?_digitChar (n % 16) (Nat.mod_lt n (by decide))
      rw [hexNumber_append_singleton _ hdigit, ih (n / 16) (by omega)]
      omega

theorem isHex_of_mem_hexDigits {n : Nat} {c : Char} (h : c ∈ hexDigits n) : isHex c = true := by
  induction n using Nat.strongRecOn with
  | ind n ih =>
    unfold hexDigits at *
    rw [Nat.toDigits_eq_if (by decide)] at h
    split at h
    · next hlt =>
      rw [List.mem_singleton.mp h, isHex, hexValue?_digitChar n hlt]
      rfl
    · next hle =>
      rcases List.mem_append.mp h with h | h
      · exact ih (n / 16) (by omega) h
      · rw [List.mem_singleton.mp h, isHex, hexValue?_digitChar _ (Nat.mod_lt n (by decide))]
        rfl

end Text

namespace Identifier

theorem length_digits (id : Identifier) : 32 ≤ id.digits.length := by
  unfold digits
  rw [List.length_append, List.length_replicate]
  omega

theorem hexNumber_digits (id : Identifier) : Text.hexNumber id.digits = id.value := by
  unfold digits
  rw [Text.hexNumber_zeros_append, Text.hexNumber_hexDigits]

theorem isHex_of_mem_digits {id : Identifier} {c : Char} (h : c ∈ id.digits) :
    Text.isHex c = true := by
  unfold digits at h
  rcases List.mem_append.mp h with h | h
  · rw [List.eq_of_mem_replicate h]
    rfl
  · exact Text.isHex_of_mem_hexDigits h

def group (ds : List Char) : List Char :=
  ds.take 8 ++ '-' :: (ds.drop 8).take 4 ++ '-' :: (ds.drop 12).take 4 ++
    '-' :: (ds.drop 16).take 4 ++
    '-' :: ds.drop 20

def ungroup (cs : List Char) : List Char :=
  cs.take 8 ++ (cs.drop 9).take 4 ++ (cs.drop 14).take 4 ++ (cs.drop 19).take 4 ++ cs.drop 24

theorem toList_text (id : Identifier) : id.text.toList = group id.digits := String.toList_ofList

theorem length_group {ds : List Char} (h : 20 ≤ ds.length) : (group ds).length = ds.length + 4 := by
  simp only [group, List.length_append, List.length_cons, List.length_take, List.length_drop]
  omega

theorem ungroup_append {a b c d : List Char} (e : List Char) (ha : a.length = 8) (hb : b.length = 4)
    (hc : c.length = 4) (hd : d.length = 4) :
    ungroup (a ++ '-' :: (b ++ '-' :: (c ++ '-' :: (d ++ '-' :: e)))) =
      a ++ (b ++ (c ++ (d ++ e))) := by
  simp [ungroup, List.drop_append, ha, hb, hc, hd, List.drop_eq_nil_of_le]

theorem take_drop_append_drop (ds : List Char) (k n : Nat) :
    (ds.drop k).take n ++ ds.drop (k + n) = ds.drop k := by
  rw [← List.drop_drop, List.take_append_drop]

theorem ungroup_group {ds : List Char} (h : 20 ≤ ds.length) : ungroup (group ds) = ds := by
  have h16 := take_drop_append_drop ds 16 4
  have h12 := take_drop_append_drop ds 12 4
  have h8 := take_drop_append_drop ds 8 4
  unfold group
  simp only [List.append_assoc, List.cons_append]
  rw [ungroup_append _ (by simp; omega) (by simp; omega) (by simp; omega) (by simp; omega), h16,
    h12, h8, List.take_append_drop]

theorem text_injective {a b : Identifier} (h : a.text = b.text) : a = b := by
  have hgroups : group a.digits = group b.digits := by rw [← toList_text, ← toList_text, h]
  have hdigits := congrArg ungroup hgroups
  rw [ungroup_group (by have := a.length_digits; omega),
    ungroup_group (by have := b.length_digits; omega)] at hdigits
  have hvalue : a.value = b.value := by rw [← hexNumber_digits, ← hexNumber_digits, hdigits]
  cases a
  cases b
  exact congrArg _ hvalue

theorem isHex_of_mem_head? {id : Identifier} {c : Char} (h : (group id.digits).head? = some c) :
    Text.isHex c = true := by
  suffices hmem : c ∈ id.digits from isHex_of_mem_digits hmem
  have hlong := id.length_digits
  cases hdigits : id.digits with
  | nil => simp [hdigits] at hlong
  | cons d ds =>
    simp only [group, hdigits, List.take_succ_cons, List.cons_append, List.head?_cons,
      Option.some.injEq] at h
    exact h ▸ List.mem_cons_self

theorem ofGroups?_eq_some {cs : List Char} {id : Identifier} (h : ofGroups? cs = some id) :
    Text.hexNumber (ungroup cs) = id.value := by
  unfold ofGroups? ofDigits? at h
  split at h
  · split at h
    · cases h
      rfl
    · cases h
  · cases h

/-- What is read from the text of an identifier is that identifier. -/
theorem eq_of_ofText?_text {id id' : Identifier} (h : ofText? id.text = some id') : id' = id := by
  have hlong := id.length_digits
  have hlength : (group id.digits).length = id.digits.length + 4 := length_group (by omega)
  unfold ofText? at h
  simp only [toList_text] at h
  split at h
  · omega
  · have hvalue := ofGroups?_eq_some h
    rw [ungroup_group (by omega), hexNumber_digits] at hvalue
    cases id
    cases id'
    exact congrArg _ hvalue.symm
  -- the other forms begin with a character that is no digit
  · split at h
    · next hbraces => exact absurd (isHex_of_mem_head? hbraces.1) (by decide)
    · cases h
  · split at h
    · next hname =>
      obtain ⟨rest, hrest⟩ := List.isPrefixOf_iff_prefix.mp hname
      have hhead : (group id.digits).head? = some 'u' := by rw [← hrest]; rfl
      exact absurd (isHex_of_mem_head? hhead) (by decide)
    · cases h
  · cases h

end Identifier

end ChatFlow
