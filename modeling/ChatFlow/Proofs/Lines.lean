import ChatFlow.Text.Blank
import Mathlib.Data.List.DropRight

namespace ChatFlow.Text

theorem intercalate_pieces (separator : Char) (cs : List Char) :
    [separator].intercalate (pieces separator cs) = cs := by
  induction cs with
  | nil => rfl
  | cons c rest ih =>
    by_cases hc : c = separator
    · rw [pieces, if_pos hc, List.intercalate_cons_of_ne_nil (pieces_ne_nil separator rest), ih, hc]
      rfl
    · rw [pieces, if_neg hc]
      cases hpieces : pieces separator rest with
      | nil => exact absurd hpieces (pieces_ne_nil separator rest)
      | cons piece more =>
        rw [hpieces] at ih
        rw [List.intercalate_cons_cons_left, ih]

theorem pieces_append (separator : Char) (front rest : List Char) :
    pieces separator (front ++ separator :: rest) =
      pieces separator front ++ pieces separator rest := by
  induction front with
  | nil => simp [pieces]
  | cons c front ih =>
    by_cases hc : c = separator
    · simp [pieces, hc, ih]
    · cases hfront : pieces separator front with
      | nil => exact absurd hfront (pieces_ne_nil separator front)
      | cons piece more => simp [pieces, hc, ih, hfront]

theorem beq_eq_false_of_not_mem {separator : Char} {cs : List Char} (h : separator ∉ cs) :
    ∀ c ∈ cs, (c == separator) = false := by
  intro c hc
  rw [beq_eq_false_iff_ne]
  rintro rfl
  exact h hc

theorem cutAt_eq_none {p : Char → Bool} {cs : List Char} (h : ∀ c ∈ cs, p c = false) :
    cutAt p cs = none := by
  induction cs with
  | nil => rfl
  | cons c cs ih =>
    obtain ⟨hc, hcs⟩ := List.forall_mem_cons.mp h
    simp [cutAt, hc, ih hcs]

theorem cutAt_append {p : Char → Bool} {front : List Char} (h : ∀ c ∈ front, p c = false) {c : Char}
    (hc : p c = true) (rest : List Char) : cutAt p (front ++ c :: rest) = some (front, rest) := by
  induction front with
  | nil => simp [cutAt, hc]
  | cons d front ih =>
    obtain ⟨hd, hfront⟩ := List.forall_mem_cons.mp h
    simp [cutAt, hd, ih hfront]

/-- The cut is at the first arrow, if what stands in front of it has no arrow by itself. -/
theorem cutAtArrow_append {front : List Char} (h : ¬ ['-', '>'] <:+: front) (rest : List Char) :
    cutAtArrow (front ++ ' ' :: '-' :: '>' :: rest) = some (front ++ [' '], rest) := by
  induction front with
  | nil => simp [cutAtArrow]
  | cons c front ih =>
    obtain ⟨hhere, hfront⟩ := not_or.mp (mt List.infix_cons_iff.mpr h)
    have hcut := ih hfront
    rw [List.cons_append, cutAtArrow.eq_def]
    split
    · next heq => cases heq
    · next more heq =>
      -- the arrow would have begun in the part in front
      obtain ⟨rfl, hnext⟩ := List.cons.inj heq
      cases front with
      | nil => cases hnext
      | cons d front =>
        obtain ⟨rfl, -⟩ := List.cons.inj hnext
        exact absurd (List.prefix_append ['-', '>'] front) hhere
    · next heq =>
      obtain ⟨rfl, rfl⟩ := List.cons.inj heq
      rw [hcut]
      rfl

theorem trimFront_cons {c : Char} (h : isBlank c = false) (rest : List Char) :
    trimFront (c :: rest) = c :: rest :=
  List.dropWhile_cons_of_neg (by simp [h])

theorem trimEnd_append {front rest : List Char} (h : trimEnd rest ≠ []) :
    trimEnd (front ++ rest) = front ++ trimEnd rest := by
  have hrest : (rest.reverse.dropWhile isBlank).isEmpty = false := by
    simpa [trimEnd] using h
  simp [trimEnd, List.dropWhile_append, hrest]

theorem trimEnd_trimBoth (cs : List Char) : trimEnd (trimBoth cs) = trimBoth cs :=
  List.rdropWhile_idempotent isBlank _

theorem trimEnd_concat_blank {c : Char} (h : isBlank c = true) (front : List Char) :
    trimEnd (front ++ [c]) = trimEnd front := by
  simp [trimEnd, h]

theorem trimEnd_concat {c : Char} (h : isBlank c = false) (front : List Char) :
    trimEnd (front ++ [c]) = front ++ [c] := by
  simp [trimEnd, h]

theorem trimBoth_blank_cons {c : Char} (h : isBlank c = true) (rest : List Char) :
    trimBoth (c :: rest) = trimBoth rest := by
  simp [trimBoth, trimFront, h]

theorem trimBoth_concat_blank {c : Char} (h : isBlank c = true) (front : List Char) :
    trimBoth (front ++ [c]) = trimBoth front := by
  by_cases hfront : trimFront front = []
  · have hall : trimFront (front ++ [c]) = [] := by
      simp only [trimFront, List.dropWhile_eq_nil_iff] at hfront ⊢
      intro d hd
      rcases List.mem_append.mp hd with hd | hd
      · exact hfront d hd
      · rw [List.mem_singleton.mp hd, h]
    rw [trimBoth, trimBoth, hall, hfront]
  · have hempty : (front.dropWhile isBlank).isEmpty = false := by simpa [trimFront] using hfront
    have hconcat : trimFront (front ++ [c]) = trimFront front ++ [c] := by
      simp [trimFront, List.dropWhile_append, hempty]
    rw [trimBoth, hconcat, trimEnd_concat_blank h, trimBoth]

def IsWord (cs : List Char) : Prop := cs ≠ [] ∧ ∀ c ∈ cs, isBlank c = false

-- The characters of the list are gone through, not all characters there are.
instance (cs : List Char) : Decidable (IsWord cs) :=
  haveI : Decidable (∀ c ∈ cs, isBlank c = false) :=
    List.decidableBAll (fun c => isBlank c = false) cs
  inferInstanceAs (Decidable (_ ∧ _))

theorem IsWord.feed_notMem {word : List Char} (h : IsWord word) : '\n' ∉ word := by
  intro hmem
  exact absurd (h.2 _ hmem) (by decide)

theorem IsWord.trimFront_append {word : List Char} (h : IsWord word) (rest : List Char) :
    trimFront (word ++ rest) = word ++ rest := by
  obtain ⟨hne, hword⟩ := h
  obtain ⟨c, more, rfl⟩ := List.exists_cons_of_ne_nil hne
  exact trimFront_cons (hword c List.mem_cons_self) _

theorem IsWord.trimEnd_append {word : List Char} (h : IsWord word) (front : List Char) :
    trimEnd (front ++ word) = front ++ word := by
  obtain ⟨hne, hword⟩ := h
  obtain ⟨more, c, rfl⟩ := (List.eq_nil_or_concat' word).resolve_left hne
  rw [← List.append_assoc]
  exact trimEnd_concat (hword c (by simp)) _

/-- A line ends in the carriage return that is left out, if any. -/
theorem dropReturn_eq_or (line : List Char) : dropReturn line = line ∨ line = dropReturn line ++
    ['\r'] := by
  unfold dropReturn
  split
  · next front heq =>
    have hline := congrArg List.reverse heq
    rw [List.reverse_reverse, List.reverse_cons] at hline
    exact .inr hline
  · exact .inl rfl

theorem dropReturn_append_cons {c : Char} (hc : c ≠ '\r') (front rest : List Char) :
    dropReturn (front ++ c :: rest) = front ++ c :: dropReturn rest := by
  rcases List.eq_nil_or_concat' rest with rfl | ⟨more, last, rfl⟩
  · have hlast : (front ++ [c]).reverse = c :: front.reverse := by simp
    unfold dropReturn
    rw [hlast]
    split
    · next heq => exact absurd (List.cons.inj heq).1 hc
    · rfl
  · have hfront :
        (front ++ c :: (more ++ [last])).reverse = last :: (front ++ c :: more).reverse := by simp
    have hmore : (more ++ [last]).reverse = last :: more.reverse := by simp
    unfold dropReturn
    rw [hfront, hmore]
    by_cases hreturn : last = '\r'
    · simp [hreturn]
    · simp [hreturn]

theorem pieces_intercalate {separator : Char} {lines : List (List Char)} (hne : lines ≠ [])
    (h : ∀ line ∈ lines, separator ∉ line) :
    pieces separator ([separator].intercalate lines) = lines := by
  have hpiece : ∀ line ∈ lines, pieces separator line = [line] :=
    fun line hline => pieces_eq_singleton (cutAt_eq_none (beq_eq_false_of_not_mem (h line hline)))
  induction lines with
  | nil => exact absurd rfl hne
  | cons line more ih =>
    obtain ⟨hline, hmore⟩ := List.forall_mem_cons.mp hpiece
    cases more with
    | nil => simpa using hline
    | cons next more =>
      have hrest := ih (List.cons_ne_nil _ _) (fun l hl => h l (List.mem_cons_of_mem _ hl)) hmore
      rw [List.intercalate_cons_cons, List.append_assoc, List.singleton_append, pieces_append,
        hline, hrest, List.singleton_append]

/-- What is got from the lines of a text, each but the last ended by a line feed, where it does not
depend on carriage returns at their ends. -/
theorem filterMap_lines {α : Type} {f : List Char → Option α} {lines : List (List Char)}
    (hfeed : ∀ line ∈ lines, '\n' ∉ line) (hne : [] ∉ lines)
    (hf : ∀ line ∈ lines, f (dropReturn line) = f line) :
    (Text.lines (['\n'].intercalate lines)).filterMap f = lines.filterMap f := by
  rcases List.eq_nil_or_concat' lines with rfl | ⟨front, last, rfl⟩
  · rfl
  · have hpieces := pieces_intercalate (by simp) hfeed
    have hlast : last ≠ [] := by
      rintro rfl
      exact hne (by simp)
    have hall :
        Text.lines (['\n'].intercalate (front ++ [last])) = front.map dropReturn ++ [last] := by
      unfold Text.lines
      dsimp only
      rw [hpieces]
      split
      · next hnone => simp at hnone
      · next hempty => exact absurd (by simpa using hempty) hlast
      · next found _ hfound =>
        obtain rfl : last = found := by simpa using hfound
        simp
    rw [hall, List.filterMap_append, List.filterMap_append, List.filterMap_map]
    congr 1
    exact List.filterMap_congr fun line hline => hf line (by simp [hline])

end ChatFlow.Text
