import ChatFlow.Json.Decoder
import ChatFlow.Json.Printer
import ChatFlow.Proofs.Numeral

namespace ChatFlow

namespace Keyed

variable {α : Type}

theorem insert_of_last {key : String} {value : α} {entries : Keyed α}
    (h : ∀ e ∈ entries, e.1 < key) :
    insert key value entries = entries ++ [(key, value)] := by
  induction entries with
  | nil => rfl
  | cons e entries ih =>
    obtain ⟨k, v⟩ := e
    have hlt : k < key := h (k, v) List.mem_cons_self
    have hne : k ≠ key := fun heq => String.lt_irrefl key (heq ▸ hlt)
    rw [insert, if_neg hne, if_neg (String.lt_asymm hlt),
      ih fun e he => h e (List.mem_cons_of_mem _ he)]
    rfl

theorem ofList_of_sorted {entries : Keyed α} (h : Sorted entries) : ofList entries = entries := by
  have hfold : ∀ (rest done : Keyed α), Sorted (done ++ rest) →
      rest.foldl (fun acc e => insert e.1 e.2 acc) done = done ++ rest := by
    intro rest
    induction rest with
    | nil => exact fun done _ => (List.append_nil done).symm
    | cons e rest ih =>
      obtain ⟨key, value⟩ := e
      intro done hsorted
      have hlast : ∀ d ∈ done, d.1 < key := fun d hd =>
        (List.pairwise_append.mp hsorted).2.2 d hd (key, value) List.mem_cons_self
      rw [List.append_cons] at hsorted ⊢
      show rest.foldl _ (insert key value done) = _
      rw [insert_of_last hlast]
      exact ih _ hsorted
  exact hfold entries [] h

/-- However a collection is put together, what holds of all that was put in holds of all that is
there. -/
theorem ofList_induction {P : Keyed α → Prop} {entries : List (String × α)} (hnil : P [])
    (hinsert : ∀ e ∈ entries, ∀ done, P done → P (insert e.1 e.2 done)) : P (ofList entries) := by
  have hfold : ∀ (rest : List (String × α)) (done : Keyed α), (∀ e ∈ rest, e ∈ entries) → P done →
      P (rest.foldl (fun acc e => insert e.1 e.2 acc) done) := by
    intro rest
    induction rest with
    | nil => exact fun _ _ hdone => hdone
    | cons e rest ih =>
      intro done hrest hdone
      obtain ⟨he, hrest⟩ := List.forall_mem_cons.mp hrest
      exact ih _ hrest (hinsert e he done hdone)
  exact hfold entries [] (fun _ he => he) hnil

end Keyed

namespace Json

namespace Token

theorem hexValue4?_control : ∀ n < 32, hexValue4? '0' '0' (hexDigit (n / 16)) (hexDigit (n % 16)) =
    some n := by
  decide

theorem scanText_plain {c : Char} (hquote : c ≠ '"') (hslash : c ≠ '\\') (hc : 32 ≤ c.toNat)
    (done : List Char) (size : Nat) (rest : List Char) :
    scanText (.ok (done, none)) size (c :: rest) =
      scanText (.ok (c :: done, none)) (size + 1) rest := by
  rw [scanText.eq_def]
  split
  · next heq => cases heq
  · next heq => exact absurd (List.cons.inj heq).1 hquote
  · next heq => exact absurd (List.cons.inj heq).1 hslash
  · next heq => exact absurd (List.cons.inj heq).1 hslash
  · next heq => exact absurd (List.cons.inj heq).1 hslash
  · next heq => exact absurd (List.cons.inj heq).1 hslash
  · next heq =>
    cases heq
    exact if_neg (Nat.not_lt.mpr hc)

/-- What is written for a character is read as that character. -/
theorem scanText_escape (c : Char) (done : List Char) (size : Nat) (rest : List Char) :
    scanText (.ok (done, none)) size (escape c ++ rest) =
      scanText (.ok (c :: done, none)) (size + (escape c).length) rest := by
  unfold escape
  split
  · rfl
  · rfl
  · rfl
  · rfl
  · rfl
  · next hquote hslash hline hreturn htab =>
    split
    · next hn =>
      have hc : c = Char.ofNat 8 := by rw [← hn, Char.ofNat_toNat]
      rw [hc]
      rfl
    · split
      · next hn =>
        have hc : c = Char.ofNat 12 := by rw [← hn, Char.ofNat_toNat]
        rw [hc]
        rfl
      · split
        · next hn =>
          have hunit : Partial.pushUnit c.toNat (.ok (done, none)) = .ok (c :: done, none) := by
            rw [Partial.pushUnit, if_neg (by omega), if_neg (by omega), Char.ofNat_toNat]
          show scanText _ _ ('\\' :: 'u' :: '0' :: '0' :: hexDigit (c.toNat / 16) ::
            hexDigit (c.toNat % 16) :: rest) = _
          rw [scanText, hexValue4?_control _ hn]
          dsimp only
          rw [hunit]
          rfl
        · next hn =>
          exact scanText_plain hquote hslash (Nat.le_of_not_lt hn) done size rest

theorem scanText_flatMap_escape (cs done : List Char) (size : Nat) (tail : List Char) :
    scanText (.ok (done, none)) size (cs.flatMap escape ++ '"' :: tail) =
      (.text (.ok (.ofList (done.reverse ++ cs))), size + (cs.flatMap escape).length + 1) := by
  induction cs generalizing done size with
  | nil =>
    rw [List.append_nil]
    rfl
  | cons c cs ih =>
    rw [List.flatMap_cons, List.append_assoc, scanText_escape, ih, List.reverse_cons,
      List.append_assoc, List.length_append, Nat.add_assoc size]
    rfl

/-- A text between quotation marks is read to the closing mark. -/
theorem scan_quote (s : String) (tail : List Char) :
    scan '"' (s.toList.flatMap escape ++ '"' :: tail) = (.text (.ok s), (quote s).length) := by
  have hscan := scanText_flatMap_escape s.toList [] 1 tail
  rw [List.reverse_nil, List.nil_append, String.ofList_toList] at hscan
  refine hscan.trans (Prod.ext rfl ?_)
  simp only [quote, List.length_append, List.length_cons, List.length_nil]
  omega

theorem allAfter_length (cs tail : List Char) :
    allAfter cs.length (cs ++ tail) = allAfter 0 tail := by
  induction cs with
  | nil => rfl
  | cons c cs ih => exact ih

/-- A token that takes exactly the characters in front is followed by the tokens of the rest. -/
theorem allAfter_eq {c : Char} {cs tail : List Char} {t : Token} (hspace : isSpace c = false)
    (hlast : t.isLast = false) (hscan : scan c (cs ++ tail) = (t, cs.length + 1)) :
    allAfter 0 (c :: cs ++ tail) = t :: allAfter 0 tail := by
  show allAfter 0 (c :: (cs ++ tail)) = _
  rw [allAfter, hspace, hscan]
  simp only [hlast, Nat.add_sub_cancel, allAfter_length]
  rfl

theorem scan_of_starts_number {c : Char} (h : c = '-' ∨ Decimal.isDigit c = true)
    (rest : List Char) :
    scan c rest = scanNumber (c :: rest) := by
  rcases h with rfl | h
  · rfl
  · unfold scan
    split <;> first | exact absurd h (by decide) | exact if_pos (.inr h)

theorem isSpace_of_starts_number {c : Char} (h : c = '-' ∨ Decimal.isDigit c = true) :
    isSpace c = false := by
  rcases h with rfl | h
  · rfl
  · rw [← Bool.not_eq_true]
    intro hspace
    simp only [isSpace, Bool.or_eq_true, decide_eq_true_eq] at hspace
    rcases hspace with ((rfl | rfl) | rfl) | rfl <;> exact absurd h (by decide)

theorem allAfter_numeral {n : Numeral} (h : n.Legal) {tail : List Char} (htail : EndsNumber tail) :
    allAfter 0 (n.text ++ tail) = .number (bounded n.number) :: allAfter 0 tail := by
  have hscan := scanNumber_text h htail
  obtain ⟨c, cs, htext, hc⟩ := h.exists_cons_text
  rw [htext] at hscan ⊢
  exact allAfter_eq (isSpace_of_starts_number hc) rfl ((scan_of_starts_number hc _).trans hscan)

theorem allAfter_number {n : Number} (hn : n.Valid) {tail : List Char} (htail : EndsNumber tail) :
    allAfter 0 (n.jsonText ++ tail) = .number (.ok n.reread) :: allAfter 0 tail := by
  obtain ⟨numeral, hlegal, htext, hnumber⟩ := exists_numeral hn
  rw [← htext, allAfter_numeral hlegal htail, hnumber, bounded_of_valid (Number.valid_reread hn)]

theorem allAfter_quote (s : String) (tail : List Char) :
    allAfter 0 (quote s ++ tail) = .text (.ok s) :: allAfter 0 tail := by
  have hscan := scan_quote s tail
  rw [List.append_cons, show ['"'] = ('"' :: []) from rfl] at hscan
  exact allAfter_eq rfl rfl hscan

end Token

mutual

def tokens : Json → List Token → List Token
  | null, rest => .null :: rest
  | bool b, rest => .bool b :: rest
  | number n, rest => .number (.ok n) :: rest
  | text s, rest => .text (.ok s) :: rest
  | list [], rest => .openList :: .closeList :: rest
  | list (v :: items), rest => .openList :: tokens v (tokensItems items (.closeList :: rest))
  | object [], rest => .openObject :: .closeObject :: rest
  | object ((k, v) :: members), rest =>
    .openObject :: .text (.ok k) :: .colon :: tokens v
      (tokensMembers members (.closeObject :: rest))

def tokensItems : List Json → List Token → List Token
  | [], rest => rest
  | v :: items, rest => .comma :: tokens v (tokensItems items rest)

def tokensMembers : List (String × Json) → List Token → List Token
  | [], rest => rest
  | (k, v) :: members, rest =>
    .comma :: .text (.ok k) :: .colon :: tokens v (tokensMembers members rest)

end

mutual

def reread : Json → Json
  | number n => number n.reread
  | list items => list (rereadItems items)
  | object members => object (rereadMembers members)
  | v => v

def rereadItems : List Json → List Json
  | [] => []
  | v :: rest => reread v :: rereadItems rest

def rereadMembers : List (String × Json) → List (String × Json)
  | [] => []
  | (k, v) :: rest => (k, reread v) :: rereadMembers rest

end

/-- Every number in the value is read back as it is printed. -/
def Kept (v : Json) : Prop := v.reread = v

instance (v : Json) : Decidable v.Kept := inferInstanceAs (Decidable (_ = _))

theorem rereadItems_eq_map (items : List Json) : rereadItems items = items.map reread := by
  induction items with
  | nil => rfl
  | cons v items ih => rw [rereadItems, ih, List.map_cons]

theorem rereadMembers_eq_map (members : List (String × Json)) :
    rereadMembers members = members.map fun m => (m.1, m.2.reread) := by
  induction members with
  | nil => rfl
  | cons m members ih => rw [rereadMembers, ih, List.map_cons]

theorem get?_rereadMembers (key : String) (members : Keyed Json) :
    Keyed.get? key (rereadMembers members) = (Keyed.get? key members).map reread := by
  induction members with
  | nil => rfl
  | cons m members ih =>
    rw [rereadMembers, Keyed.get?, Keyed.get?, ih]
    split <;> rfl

mutual

theorem depth_reread (v : Json) : v.reread.depth = v.depth := by
  match v with
  | null | bool _ | number _ | text _ => rfl
  | list items => exact congrArg (· + 1) (depthItems_reread items)
  | object members => exact congrArg (· + 1) (depthMembers_reread members)

theorem depthItems_reread (items : List Json) :
    depthItems (rereadItems items) = depthItems items := by
  match items with
  | [] => rfl
  | w :: items => rw [rereadItems, depthItems, depthItems, depth_reread w, depthItems_reread items]

theorem depthMembers_reread (members : List (String × Json)) :
    depthMembers (rereadMembers members) = depthMembers members := by
  match members with
  | [] => rfl
  | (k, w) :: members =>
    rw [rereadMembers, depthMembers, depthMembers, depth_reread w, depthMembers_reread members]

end

theorem sorted_rereadMembers {members : Keyed Json} (h : Keyed.Sorted members) :
    Keyed.Sorted (rereadMembers members) := by
  rw [Keyed.Sorted, rereadMembers_eq_map]
  exact List.pairwise_map.mpr h

mutual

theorem WellFormed.reread {v : Json} (hv : v.WellFormed) : v.reread.WellFormed := by
  match v with
  | null | bool _ | text _ => trivial
  | number _ => exact Number.valid_reread hv
  | list items => exact wellFormedItems_reread items hv
  | object members => exact ⟨sorted_rereadMembers hv.1, wellFormedMembers_reread members hv.2⟩

theorem wellFormedItems_reread (items : List Json) (hv : WellFormedItems items) :
    WellFormedItems (rereadItems items) := by
  match items with
  | [] => trivial
  | w :: items => exact ⟨WellFormed.reread hv.1, wellFormedItems_reread items hv.2⟩

theorem wellFormedMembers_reread (members : List (String × Json)) (hv : WellFormedMembers members) :
    WellFormedMembers (rereadMembers members) := by
  match members with
  | [] => trivial
  | (_, w) :: members => exact ⟨WellFormed.reread hv.1, wellFormedMembers_reread members hv.2⟩

end

mutual

def Legible : Json → Prop
  | number n => n.Valid
  | list items => LegibleItems items
  | object members => LegibleMembers members
  | _ => True

def LegibleItems : List Json → Prop
  | [] => True
  | v :: rest => Legible v ∧ LegibleItems rest

def LegibleMembers : List (String × Json) → Prop
  | [] => True
  | (_, v) :: rest => Legible v ∧ LegibleMembers rest

end

theorem legibleItems_iff {items : List Json} : LegibleItems items ↔ ∀ v ∈ items, v.Legible := by
  induction items with
  | nil => simp [LegibleItems]
  | cons v items ih => simp [LegibleItems, ih]

theorem legibleMembers_iff {members : List (String × Json)} :
    LegibleMembers members ↔ ∀ m ∈ members, m.2.Legible := by
  induction members with
  | nil => simp [LegibleMembers]
  | cons m members ih => rw [LegibleMembers, ih, List.forall_mem_cons]

theorem legible_of_perm {members members' : List (String × Json)} (hperm : members.Perm members')
    (h : (object members).Legible) : (object members').Legible :=
  legibleMembers_iff.mpr fun m hm => legibleMembers_iff.mp h m (hperm.mem_iff.mpr hm)

mutual

theorem WellFormed.legible {v : Json} (hv : v.WellFormed) : v.Legible := by
  match v with
  | null | bool _ | text _ => trivial
  | number _ => exact hv
  | list items => exact legibleItems_of_wellFormed items hv
  | object members => exact legibleMembers_of_wellFormed members hv.2

theorem legibleItems_of_wellFormed (items : List Json) (hv : WellFormedItems items) :
    LegibleItems items := by
  match items with
  | [] => trivial
  | w :: items => exact ⟨WellFormed.legible hv.1, legibleItems_of_wellFormed items hv.2⟩

theorem legibleMembers_of_wellFormed (members : List (String × Json))
    (hv : WellFormedMembers members) :
    LegibleMembers members := by
  match members with
  | [] => trivial
  | (_, w) :: members => exact ⟨WellFormed.legible hv.1, legibleMembers_of_wellFormed members hv.2⟩

end

theorem endsNumber_cons {c : Char} (h : c = ',' ∨ c = ']' ∨ c = '\x7d') (rest : List Char) :
    EndsNumber (c :: rest) := by
  rintro _ ⟨⟩
  rcases h with rfl | rfl | rfl <;> decide

theorem endsNumber_printItems (items : List Json) {tail : List Char} (htail : EndsNumber tail) :
    EndsNumber (printItems items tail) := by
  cases items with
  | nil => exact htail
  | cons v items => exact endsNumber_cons (.inl rfl) _

theorem endsNumber_printMembers (members : List (String × Json)) {tail : List Char}
    (htail : EndsNumber tail) :
    EndsNumber (printMembers members tail) := by
  cases members with
  | nil => exact htail
  | cons m members => exact endsNumber_cons (.inl rfl) _

mutual

theorem allAfter_print (v : Json) (hv : v.Legible) {tail : List Char} (htail : EndsNumber tail) :
    Token.allAfter 0 (print v tail) = tokens v.reread (Token.allAfter 0 tail) := by
  match v with
  | null => rfl
  | bool true => rfl
  | bool false => rfl
  | number n => exact Token.allAfter_number hv htail
  | text s => exact Token.allAfter_quote s tail
  | list [] => rfl
  | list (w :: items) =>
    have hclose : EndsNumber (']' :: tail) := endsNumber_cons (.inr (.inl rfl)) tail
    have hitems := allAfter_printItems items hv.2 hclose
    have hw := allAfter_print w hv.1 (endsNumber_printItems items hclose)
    rw [hitems] at hw
    exact congrArg (Token.openList :: ·) hw
  | object [] => rfl
  | object ((k, w) :: members) =>
    have hclose : EndsNumber ('\x7d' :: tail) := endsNumber_cons (.inr (.inr rfl)) tail
    have hmembers := allAfter_printMembers members hv.2 hclose
    have hw := allAfter_print w hv.1 (endsNumber_printMembers members hclose)
    have hkey := Token.allAfter_quote k (':' :: print w (printMembers members ('\x7d' :: tail)))
    rw [hmembers] at hw
    show Token.openObject :: Token.allAfter 0 (quote k ++ _) = _
    rw [hkey]
    exact congrArg (Token.openObject :: Token.text (.ok k) :: Token.colon :: ·) hw

theorem allAfter_printItems (items : List Json) (hv : LegibleItems items) {tail : List Char}
    (htail : EndsNumber tail) :
    Token.allAfter 0 (printItems items tail) =
      tokensItems (rereadItems items) (Token.allAfter 0 tail) := by
  match items with
  | [] => rfl
  | w :: items =>
    have hw := allAfter_print w hv.1 (endsNumber_printItems items htail)
    rw [allAfter_printItems items hv.2 htail] at hw
    exact congrArg (Token.comma :: ·) hw

theorem allAfter_printMembers (members : List (String × Json)) (hv : LegibleMembers members)
    {tail : List Char} (htail : EndsNumber tail) :
    Token.allAfter 0 (printMembers members tail) =
      tokensMembers (rereadMembers members) (Token.allAfter 0 tail) := by
  match members with
  | [] => rfl
  | (k, w) :: members =>
    have hw := allAfter_print w hv.1 (endsNumber_printMembers members htail)
    have hkey := Token.allAfter_quote k (':' :: print w (printMembers members tail))
    rw [allAfter_printMembers members hv.2 htail] at hw
    show Token.comma :: Token.allAfter 0 (quote k ++ _) = _
    rw [hkey]
    exact congrArg (Token.comma :: Token.text (.ok k) :: Token.colon :: ·) hw

end

theorem exists_cons_tokens (v : Json) (rest : List Token) :
    ∃ t more, tokens v rest = t :: more ∧ t ≠ .closeList := by
  match v with
  | null | bool _ | number _ | text _ | list [] | object [] | list (_ :: _) |
    object ((_, _) :: _) =>
    exact ⟨_, _, rfl, nofun⟩

namespace Outline

def after (v : Outline) (rest : List Token) (opened : List Frame) : Result :=
  match place v opened with
  | some frames => build .next rest frames
  | none => ⟨v, !rest.isEmpty⟩

theorem build_firstItem {t : Token} (ht : t ≠ .closeList) (rest : List Token)
    (opened : List Frame) :
    build .firstItem (t :: rest) opened = build .value (t :: rest) opened := by
  cases t <;> first | rfl | exact absurd rfl ht

mutual

/-- The tokens of a value are read as the value's outline. -/
theorem build_tokens (v : Json) (rest : List Token) (opened : List Frame) :
    build .value (tokens v rest) opened = after (ofJson v) rest opened := by
  match v with
  | .null => rfl
  | .bool _ => rfl
  | .number _ => rfl
  | .text _ => rfl
  | .list [] => rfl
  | .list (w :: items) =>
    obtain ⟨t, more, htokens, ht⟩ := exists_cons_tokens w (tokensItems items (.closeList :: rest))
    have hw := build_tokens w (tokensItems items (.closeList :: rest)) (.list [] :: opened)
    have hitems := build_tokensItems items [ofJson w] rest opened
    rw [htokens, ← build_firstItem ht, ← htokens] at hw
    exact hw.trans hitems
  | .object [] => rfl
  | .object ((k, w) :: members) =>
    have hw :=
      build_tokens w (tokensMembers members (.closeObject :: rest)) (.member [] (.ok k) :: opened)
    exact hw.trans (build_tokensMembers members [(.ok k, ofJson w)] rest opened)

/-- The tokens of further items are read into the list that is open. -/
theorem build_tokensItems (items : List Json) (done : List Outline) (rest : List Token)
    (outer : List Frame) :
    build .next (tokensItems items (.closeList :: rest)) (.list done :: outer) =
      after (.list (done.reverse ++ ofItems items) none) rest outer := by
  match items with
  | [] =>
    rw [ofItems, List.append_nil]
    rfl
  | w :: items =>
    have hw := build_tokens w (tokensItems items (.closeList :: rest)) (.list done :: outer)
    have hitems := build_tokensItems items (ofJson w :: done) rest outer
    rw [List.reverse_cons, List.append_assoc] at hitems
    exact hw.trans hitems

/-- The tokens of further members are read into the object that is open. -/
theorem build_tokensMembers (members : List (String × Json))
    (done : List (Except Break String × Outline)) (rest : List Token) (outer : List Frame) :
    build .next (tokensMembers members (.closeObject :: rest)) (.members done :: outer) =
      after (.object (done.reverse ++ ofMembers members) none) rest outer := by
  match members with
  | [] =>
    rw [ofMembers, List.append_nil]
    rfl
  | (k, w) :: members =>
    have hw :=
      build_tokens w (tokensMembers members (.closeObject :: rest)) (.member done (.ok k) :: outer)
    have hmembers := build_tokensMembers members ((.ok k, ofJson w) :: done) rest outer
    rw [List.reverse_cons, List.append_assoc] at hmembers
    exact hw.trans hmembers

end

theorem read_print {v : Json} (hv : v.Legible) : read (print v []) = ⟨ofJson v.reread, false⟩ := by
  rw [read, Token.all, @allAfter_print v hv [] nofun, build_tokens]
  rfl

mutual

/-- A value is got from its outline if there is room for it. -/
theorem toJson_ofJson (v : Json) (hv : v.WellFormed) (room : Nat) :
    toJson room (ofJson v) = if v.depth ≤ room then .ok v else .error .malformed := by
  match v, room with
  | .null, _ | .bool _, _ | .number _, _ | .text _, _ => exact (if_pos (Nat.zero_le _)).symm
  | .list items, 0 => rfl
  | .object members, 0 => rfl
  | .list items, room + 1 =>
    have hitems := toItems_ofItems items hv room
    rw [ofJson, toJson, hitems, depth]
    by_cases h : depthItems items ≤ room
    · rw [if_pos h, if_pos (Nat.succ_le_succ h)]
      rfl
    · rw [if_neg h, if_neg (fun hle => h (Nat.le_of_succ_le_succ hle))]
      rfl
  | .object members, room + 1 =>
    have hmembers := toMembers_ofMembers members hv.2 room
    rw [ofJson, toJson, hmembers, depth]
    by_cases h : depthMembers members ≤ room
    · rw [if_pos h, if_pos (Nat.succ_le_succ h)]
      exact congrArg (fun m => Except.ok (Json.object m)) (Keyed.ofList_of_sorted hv.1)
    · rw [if_neg h, if_neg (fun hle => h (Nat.le_of_succ_le_succ hle))]
      rfl

theorem toItems_ofItems (items : List Json) (hv : WellFormedItems items) (room : Nat) :
    toItems room (ofItems items) =
      if depthItems items ≤ room then .ok items else .error .malformed := by
  match items with
  | [] => exact (if_pos (Nat.zero_le room)).symm
  | w :: items =>
    have hw := toJson_ofJson w hv.1 room
    have hitems := toItems_ofItems items hv.2 room
    rw [ofItems, toItems, hw, hitems, depthItems]
    by_cases h : w.depth ≤ room
    · by_cases h' : depthItems items ≤ room
      · rw [if_pos h, if_pos h', if_pos (Nat.max_le.mpr ⟨h, h'⟩)]
        rfl
      · rw [if_pos h, if_neg h', if_neg (fun hle => h' (Nat.max_le.mp hle).2)]
        rfl
    · rw [if_neg h, if_neg (fun hle => h (Nat.max_le.mp hle).1)]
      rfl

theorem toMembers_ofMembers (members : List (String × Json)) (hv : WellFormedMembers members)
    (room : Nat) :
    toMembers room (ofMembers members) =
      if depthMembers members ≤ room then .ok members else .error .malformed := by
  match members with
  | [] => exact (if_pos (Nat.zero_le room)).symm
  | (k, w) :: members =>
    have hw := toJson_ofJson w hv.1 room
    have hmembers := toMembers_ofMembers members hv.2 room
    rw [ofMembers, toMembers, hw, hmembers, depthMembers]
    by_cases h : w.depth ≤ room
    · by_cases h' : depthMembers members ≤ room
      · rw [if_pos h, if_pos h', if_pos (Nat.max_le.mpr ⟨h, h'⟩)]
        rfl
      · rw [if_pos h, if_neg h', if_neg (fun hle => h' (Nat.max_le.mp hle).2)]
        rfl
    · rw [if_neg h, if_neg (fun hle => h (Nat.max_le.mp hle).1)]
      rfl

end

end Outline

/-- Reading the text of a value is reading the value, whatever order its members stand in. -/
theorem Decoder.ofText_of_legible {α : Type} (d : Decoder α) {v : Json} (hv : v.Legible) :
    d.ofText v.compact = d maxDepth (.ofJson v.reread) := by
  unfold ofText
  rw [compact, String.toList_ofList, Outline.read_print hv]
  show (do
    let a ← d maxDepth (.ofJson v.reread)
    if false then Except.error Break.malformed else return a) = _
  cases d maxDepth (.ofJson v.reread) <;> rfl

theorem Decoder.ofText_compact {α : Type} (d : Decoder α) {v : Json} (hv : v.WellFormed) :
    d.ofText v.compact = d maxDepth (.ofJson v.reread) :=
  d.ofText_of_legible hv.legible

/-- A text is read if no more than 127 lists and objects are open at a time. -/
theorem parse_compact {v : Json} (hv : v.WellFormed) :
    parse v.compact = if v.depth ≤ maxDepth then .ok v.reread else .error .malformed := by
  rw [← depth_reread v]
  exact (Decoder.ofText_compact Decoder.json hv).trans
    (Outline.toJson_ofJson v.reread hv.reread maxDepth)

theorem Decoder.members_ofJson {members : Keyed Json} (h : (Json.object members).WellFormed)
    (room : Nat) :
    Decoder.members room (.ofJson (.object members)) =
      if (Json.object members).depth ≤ room then .ok members else .error .malformed := by
  cases room with
  | zero => rfl
  | succ room =>
    show (do
      let members ← Outline.toMembers room (Outline.ofMembers members)
      Outline.closed none
      return Keyed.ofList members) = _
    rw [Outline.toMembers_ofMembers members h.2, depth]
    by_cases hroom : depthMembers members ≤ room
    · rw [if_pos hroom, if_pos (Nat.succ_le_succ hroom)]
      exact congrArg Except.ok (Keyed.ofList_of_sorted h.1)
    · rw [if_neg hroom, if_neg (fun hle => hroom (Nat.le_of_succ_le_succ hle))]
      rfl

theorem exists_compact_object (members : Keyed Json) :
    ∃ cs, (Json.object members).compact = .ofList ('\x7b' :: cs) := by
  cases members with
  | nil => exact ⟨_, rfl⟩
  | cons m members => exact ⟨_, rfl⟩

section Depth

variable {n : Nat}

theorem depthMembers_insert {key : String} {value : Json} {members : Keyed Json}
    (hvalue : value.depth ≤ n) (hmembers : depthMembers members ≤ n) :
    depthMembers (Keyed.insert key value members) ≤ n := by
  induction members with
  | nil => exact Nat.max_le.mpr ⟨hvalue, Nat.zero_le n⟩
  | cons m members ih =>
    obtain ⟨k, v⟩ := m
    obtain ⟨hv, hrest⟩ := Nat.max_le.mp hmembers
    rw [Keyed.insert]
    split
    · exact Nat.max_le.mpr ⟨hvalue, hrest⟩
    · split
      · exact Nat.max_le.mpr ⟨hvalue, hmembers⟩
      · exact Nat.max_le.mpr ⟨hv, ih hrest⟩

theorem depthMembers_ofList {members : List (String × Json)} (h : depthMembers members ≤ n) :
    depthMembers (Keyed.ofList members) ≤ n := by
  have hdepth : ∀ m ∈ members, m.2.depth ≤ n := by
    induction members with
    | nil => exact List.forall_mem_nil _
    | cons m members ih =>
      obtain ⟨hm, hmembers⟩ := Nat.max_le.mp h
      exact List.forall_mem_cons.mpr ⟨hm, ih hmembers⟩
  exact Keyed.ofList_induction (P := fun done => depthMembers done ≤ n)
    (Nat.zero_le n) fun m hm _ hdone =>
    depthMembers_insert (hdepth m hm) hdone

end Depth

namespace Outline

mutual

/-- A value that was read is no deeper than there was room for. -/
theorem depth_le_of_toJson (o : Outline) {room : Nat} {v : Json} (h : toJson room o = .ok v) :
    v.depth ≤ room := by
  match o, room with
  | .null, _ | .bool _, _ =>
    cases h
    exact Nat.zero_le _
  | .number (.ok n), _ =>
    cases h
    exact Nat.zero_le _
  | .text (.ok s), _ =>
    cases h
    exact Nat.zero_le _
  | .number (.error _), _ | .text (.error _), _ | .broken _ _, _ => cases h
  | .list _ _, 0 | .object _ _, 0 => cases h
  | .list items fault, room + 1 =>
    obtain ⟨values, hvalues, h⟩ := Except.bind_eq_ok h
    obtain ⟨_, -, h⟩ := Except.bind_eq_ok h
    cases h
    exact Nat.succ_le_succ (depthItems_le_of_toItems items hvalues)
  | .object members fault, room + 1 =>
    obtain ⟨values, hvalues, h⟩ := Except.bind_eq_ok h
    obtain ⟨_, -, h⟩ := Except.bind_eq_ok h
    cases h
    exact Nat.succ_le_succ (depthMembers_ofList (depthMembers_le_of_toMembers members hvalues))

theorem depthItems_le_of_toItems (items : List Outline) {room : Nat} {values : List Json}
    (h : toItems room items = .ok values) : depthItems values ≤ room := by
  match items with
  | [] =>
    cases h
    exact Nat.zero_le _
  | o :: items =>
    obtain ⟨v, hv, h⟩ := Except.bind_eq_ok h
    obtain ⟨rest, hrest, h⟩ := Except.bind_eq_ok h
    cases h
    exact Nat.max_le.mpr ⟨depth_le_of_toJson o hv, depthItems_le_of_toItems items hrest⟩

theorem depthMembers_le_of_toMembers (members : List (Except Break String × Outline)) {room : Nat}
    {values : List (String × Json)} (h : toMembers room members = .ok values) :
    depthMembers values ≤ room := by
  match members with
  | [] =>
    cases h
    exact Nat.zero_le _
  | (k, o) :: members =>
    obtain ⟨key, -, h⟩ := Except.bind_eq_ok h
    obtain ⟨v, hv, h⟩ := Except.bind_eq_ok h
    obtain ⟨rest, hrest, h⟩ := Except.bind_eq_ok h
    cases h
    exact Nat.max_le.mpr ⟨depth_le_of_toJson o hv, depthMembers_le_of_toMembers members hrest⟩

end

end Outline

theorem Decoder.depthMembers_lt_of_members {room : Nat} {o : Outline} {members : Keyed Json}
    (h : Decoder.members room o = .ok members) : depthMembers members < room := by
  unfold Decoder.members at h
  split at h
  · cases h
  · obtain ⟨values, hvalues, h⟩ := Except.bind_eq_ok h
    obtain ⟨_, -, h⟩ := Except.bind_eq_ok h
    cases h
    exact Nat.lt_succ_of_le (depthMembers_ofList (Outline.depthMembers_le_of_toMembers _ hvalues))
  · cases h

end Json

end ChatFlow
