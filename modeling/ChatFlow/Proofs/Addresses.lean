import ChatFlow.Json.Outline
import ChatFlow.Proofs.Digits
import ChatFlow.Proofs.FormText
import ChatFlow.Proofs.Identifier
import ChatFlow.Url.Reader

namespace ChatFlow

namespace Text

theorem eq_of_mem_utf8Of {n b : Nat} (h : b ∈ utf8Of n) (hb : b < 0x80) : b = n := by
  unfold utf8Of at h
  split at h
  · exact List.mem_singleton.mp h
  · split at h
    · simp only [List.mem_cons, List.not_mem_nil, or_false] at h
      omega
    · split at h
      · simp only [List.mem_cons, List.not_mem_nil, or_false] at h
        omega
      · simp only [List.mem_cons, List.not_mem_nil, or_false] at h
        omega

/-- A character below the letters is no letter in lower case. -/
theorem eq_of_toLower_eq {c mark : Char} (hmark : mark.toNat < 0x41) (h : c.toLower = mark) :
    c = mark := by
  unfold Char.toLower at h
  split at h
  · next hupper =>
    have hlow : 0x41 ≤ c.toNat := hupper.1
    have hhigh : c.toNat ≤ 0x5A := hupper.2
    have hvalue : (c.val + 0x20).toNat = mark.toNat := congrArg Char.toNat h
    rw [UInt32.toNat_add] at hvalue
    simp at hvalue
    omega
  · exact h

end Text

namespace Percent

theorem isHex_digit {n : Nat} (h : n < 16) : Text.isHex (digit n) = true := by
  rw [Text.isHex, hexValue?_digit h]
  rfl

/-- What stands in an escaped text: characters of the text that may stand there, and what escapes
the others. -/
theorem of_mem_encode {but : String} {cs : List Char} {c : Char} (h : c ∈ encode (plain but) cs) :
    c ∈ cs ∧ c ∉ but.toList ∨ c = '%' ∨ Text.isHex c = true := by
  obtain ⟨d, hd, hc⟩ := List.mem_flatMap.mp h
  obtain ⟨b, hb, hc⟩ := List.mem_flatMap.mp hc
  have hbyte := Text.lt_of_mem_utf8Of hb
  split at hc
  · next hplain =>
    simp only [plain, Bool.and_eq_true, decide_eq_true_eq, Bool.not_eq_true', ← Bool.not_eq_true,
      List.contains_iff_mem] at hplain
    obtain rfl : b = d.toNat := Text.eq_of_mem_utf8Of hb (by omega)
    rw [Char.ofNat_toNat] at hc hplain
    rw [List.mem_singleton.mp hc]
    exact .inl ⟨hd, hplain.2⟩
  · simp only [escape, List.mem_cons, List.not_mem_nil, or_false] at hc
    rcases hc with rfl | rfl | rfl
    · exact .inr (.inl rfl)
    · exact .inr (.inr (isHex_digit (by omega)))
    · exact .inr (.inr (isHex_digit (by omega)))

/-- A character does not stand in an escaped text if it is to be escaped, or if it does not stand in
the text. -/
theorem not_mem_encode {but : String} {cs : List Char} {c : Char}
    (hc : c ≠ '%' ∧ Text.isHex c = false) (h : c ∈ but.toList ∨ c ∉ cs) :
    c ∉ encode (plain but) cs := by
  intro hmem
  rcases of_mem_encode hmem with ⟨hin, hplain⟩ | hpercent | hhex
  · exact h.elim hplain (absurd hin)
  · exact hc.1 hpercent
  · rw [hc.2] at hhex
    cases hhex

end Percent

namespace Url

def Unmarked (cs : List Char) : Prop := '?' ∉ cs ∧ '#' ∉ cs

variable {a b cs : List Char}

instance (cs : List Char) : Decidable (Unmarked cs) := inferInstanceAs (Decidable (_ ∧ _))

theorem unmarked_iff : Unmarked cs ↔ ∀ c ∈ cs, c ≠ '?' ∧ c ≠ '#' := by
  constructor
  · rintro ⟨hquery, hfragment⟩ c hc
    exact ⟨ne_of_mem_of_not_mem hc hquery, ne_of_mem_of_not_mem hc hfragment⟩
  · intro h
    exact ⟨fun hc => (h _ hc).1 rfl, fun hc => (h _ hc).2 rfl⟩

theorem unmarked_append : Unmarked (a ++ b) ↔ Unmarked a ∧ Unmarked b := by
  simp only [unmarked_iff, List.forall_mem_append]

theorem unmarked_empty : Unmarked "".toList := by decide

theorem unmarked_of_all {p : Char → Bool} (hp : p '?' = false ∧ p '#' = false)
    (h : ∀ c ∈ cs, p c = true) :
    Unmarked cs :=
  ⟨fun hc => Bool.false_ne_true (hp.1.symm.trans (h _ hc)),
    fun hc => Bool.false_ne_true (hp.2.symm.trans (h _ hc))⟩

theorem unmarked_intercalate {separator : Char} {lists : List (List Char)}
    (hseparator : Unmarked [separator]) (h : ∀ l ∈ lists, Unmarked l) :
    Unmarked ([separator].intercalate lists) := by
  induction lists with
  | nil => exact ⟨List.not_mem_nil, List.not_mem_nil⟩
  | cons l rest ih =>
    obtain ⟨hl, hrest⟩ := List.forall_mem_cons.mp h
    cases rest with
    | nil => simpa using hl
    | cons next rest =>
      rw [List.intercalate_cons_cons, unmarked_append, unmarked_append]
      exact ⟨⟨hl, hseparator⟩, ih hrest⟩

theorem unmarked_encode {but : String} (h : '?' ∈ but.toList ∧ '#' ∈ but.toList ∨ Unmarked cs) :
    Unmarked (Percent.encode (Percent.plain but) cs) :=
  ⟨Percent.not_mem_encode (by decide) (h.imp And.left And.left),
    Percent.not_mem_encode (by decide) (h.imp And.right And.right)⟩

theorem unmarked_address4 (n : Nat) : Unmarked (Host.address4 n).text.toList := by
  rw [Host.text, String.toList_intercalate, List.map_map]
  refine unmarked_intercalate (by decide) fun l hl => ?_
  obtain ⟨b, -, rfl⟩ := List.mem_map.mp hl
  rw [Function.comp_apply, String.toList_ofList]
  exact unmarked_of_all (by decide) fun c hc => Decimal.isDigit_of_mem_digitsOf hc

theorem unmarked_groupsText (groups : List Nat) : Unmarked (Host.groupsText groups) := by
  refine unmarked_intercalate (by decide) fun l hl => ?_
  obtain ⟨n, -, rfl⟩ := List.mem_map.mp hl
  exact unmarked_of_all (by decide) fun c hc => Text.isHex_of_mem_hexDigits hc

theorem unmarked_address6 (groups : List Nat) : Unmarked (Host.address6 groups).text.toList := by
  have hbrackets {cs : List Char} (h : Unmarked cs) : Unmarked (['['] ++ cs ++ [']']) :=
    unmarked_append.mpr ⟨unmarked_append.mpr ⟨by decide, h⟩, by decide⟩
  rw [Host.text]
  split
  · rw [String.toList_ofList]
    exact hbrackets (unmarked_groupsText groups)
  · next start length _ =>
    have hgroups : Unmarked (Host.groupsText (groups.take start) ++ [':', ':'] ++
        Host.groupsText (groups.drop (start + length))) :=
      unmarked_append.mpr
        ⟨unmarked_append.mpr ⟨unmarked_groupsText _, by decide⟩, unmarked_groupsText _⟩
    rw [String.toList_ofList]
    exact hbrackets hgroups

theorem unmarked_ofBrackets {host : Host} (h : Host.ofBrackets cs = .ok host) :
    Unmarked host.text.toList := by
  unfold Host.ofBrackets at h
  split at h
  · split at h
    · cases h
      exact unmarked_address6 _
    · cases h
  · cases h

theorem unmarked_ofText {host : Host} (h : Host.ofText cs = .ok host) :
    Unmarked host.text.toList := by
  unfold Host.ofText at h
  split at h
  · exact unmarked_ofBrackets h
  · split at h
    · cases h
    · next domain _ =>
      dsimp only at h
      split at h
      · cases h
      · next hforbidden =>
        rw [Bool.or_eq_true, not_or, Bool.not_eq_true, List.any_eq_false] at hforbidden
        split at h
        · cases h
        · split at h
          · split at h
            · cases h
              exact unmarked_address4 _
            · cases h
          · cases h
            rw [Host.text, String.toList_ofList]
            refine unmarked_of_all (p := fun c => !Host.isForbidden c) (by decide) fun c hc => ?_
            simpa using hforbidden.1 c hc

theorem unmarked_ofOpaqueText {host : Host} (h : Host.ofOpaqueText cs = .ok host) :
    Unmarked host.text.toList := by
  unfold Host.ofOpaqueText at h
  split at h
  · exact unmarked_ofBrackets h
  · split at h
    · cases h
    · next hforbidden =>
      cases h
      rw [Bool.not_eq_true, List.any_eq_false] at hforbidden
      have hplain : Unmarked cs :=
        unmarked_of_all (p := fun c => !Host.isForbiddenElsewhere c) (by decide)
        fun c hc => by simpa using hforbidden c hc
      rw [Host.text, String.toList_ofList]
      exact unmarked_encode (.inr hplain)

def marked (mark : Char) : Option (List Char) → List Char
  | none => []
  | some cs => mark :: cs

theorem cutOff_marked {mark : Char} {front : List Char} (h : mark ∉ front)
    (part : Option (List Char)) :
    cutOff mark (front ++ marked mark part) = (front, part) := by
  have hfront := Text.beq_eq_false_of_not_mem h
  cases part with
  | none => rw [marked, List.append_nil, cutOff, Text.cutAt_eq_none hfront]
  | some rest => rw [marked, cutOff, Text.cutAt_append hfront (beq_self_eq_true mark)]

theorem cutOff_fst (mark : Char) (cs : List Char) :
    (cutOff mark cs).1 = cs.takeWhile (· != mark) := by
  induction cs with
  | nil => rfl
  | cons c cs ih =>
    unfold cutOff at *
    by_cases hc : c = mark
    · simp [Text.cutAt, hc]
    · cases hcut : Text.cutAt (· == mark) cs with
      | none => simpa [Text.cutAt, hc, hcut] using ih
      | some ends => simpa [Text.cutAt, hc, hcut] using ih

theorem unmarked_cutOff (cs : List Char) : Unmarked (cutOff '?' (cutOff '#' cs).1).1 := by
  rw [cutOff_fst, cutOff_fst, unmarked_iff]
  intro c hc
  have hquery := List.mem_takeWhile_imp hc
  have hfragment := List.mem_takeWhile_imp (List.takeWhile_subset _ hc)
  exact ⟨bne_iff_ne.mp hquery, bne_iff_ne.mp hfragment⟩

structure Separable (url : Url) : Prop where
  scheme : Unmarked url.scheme.toList
  user : Unmarked url.user.toList
  password : Unmarked url.password.toList
  host : ∀ host, url.host? = some host → Unmarked host.text.toList
  path : Unmarked url.path.toList
  query : ∀ query, url.query? = some query → '#' ∉ query.toList

def frontText (url : Url) : String := url.scheme ++ ":" ++ url.authorityText ++ url.path

structure Parts where
  front : List Char
  query? : Option (List Char)
  fragment? : Option (List Char)

def partsOf (s : String) : Parts :=
  let (request, fragment) := cutOff '#' s.toList
  let (front, query) := cutOff '?' request
  ⟨front, query, fragment⟩

variable {url : Url} {scheme : String}

theorem Separable.unmarked_userText (h : url.Separable) : Unmarked url.userText.toList := by
  unfold userText
  split
  · decide
  · simp only [String.toList_append, unmarked_append]
    refine ⟨⟨h.user, ?_⟩, by decide⟩
    split
    · decide
    · simp only [String.toList_append, unmarked_append]
      exact ⟨by decide, h.password⟩

theorem Separable.unmarked_authorityText (h : url.Separable) :
    Unmarked url.authorityText.toList := by
  unfold authorityText
  split
  · split <;> decide
  · next host hhost =>
    simp only [String.toList_append, unmarked_append]
    refine ⟨⟨⟨by decide, h.unmarked_userText⟩, h.host host hhost⟩, ?_⟩
    cases url.port? with
    | none => decide
    | some port =>
      simp only [Option.map_some, Option.getD_some, String.toList_append, unmarked_append]
      refine ⟨by decide, ?_⟩
      show Unmarked (String.ofList (Decimal.digitsOf port)).toList
      rw [String.toList_ofList]
      exact unmarked_of_all (by decide) fun c hc => Decimal.isDigit_of_mem_digitsOf hc

theorem Separable.unmarked_frontText (h : url.Separable) : Unmarked url.frontText.toList := by
  simp only [frontText, String.toList_append, unmarked_append]
  exact ⟨⟨⟨h.scheme, by decide⟩, h.unmarked_authorityText⟩, h.path⟩

theorem toList_text (url : Url) : url.text.toList =
    url.frontText.toList ++ marked '?' (url.query?.map String.toList) ++
      marked '#' (url.fragment?.map String.toList) := by
  unfold text requestText frontText
  cases url.query? <;> cases url.fragment? <;> simp [marked]

theorem Separable.partsOf_text (h : url.Separable) : partsOf url.text =
    ⟨url.frontText.toList, url.query?.map String.toList, url.fragment?.map String.toList⟩ := by
  have hrequest : '#' ∉ url.frontText.toList ++ marked '?' (url.query?.map String.toList) := by
    rw [List.mem_append, not_or]
    refine ⟨h.unmarked_frontText.2, ?_⟩
    cases hquery : url.query? with
    | none => exact List.not_mem_nil
    | some query =>
      rw [Option.map_some, marked, List.mem_cons, not_or]
      exact ⟨by decide, h.query query hquery⟩
  unfold partsOf
  rw [toList_text, cutOff_marked hrequest]
  dsimp only
  rw [cutOff_marked h.unmarked_frontText.1]

theorem unmarked_of_cutScheme {rest : List Char} (h : cutScheme cs = some (scheme, rest)) :
    Unmarked scheme.toList := by
  unfold cutScheme at h
  split at h
  · dsimp only at h
    split at h
    · split_ifs at h
      cases h
      rw [String.toList_ofList, unmarked_iff]
      intro c hc
      obtain ⟨d, hd, rfl⟩ := List.mem_map.mp hc
      have hplain := List.mem_takeWhile_imp hd
      constructor
      · intro hmark
        rw [Text.eq_of_toLower_eq (by decide) hmark] at hplain
        revert hplain
        decide
      · intro hmark
        rw [Text.eq_of_toLower_eq (by decide) hmark] at hplain
        revert hplain
        decide
    · cases h
  · cases h

theorem unmarked_rootedPath (special : Bool) (cs : List Char) :
    Unmarked (rootedPath special cs).toList := by
  rw [rootedPath, String.toList_ofList, unmarked_iff]
  intro c hc
  obtain ⟨segment, -, hc⟩ := List.mem_flatMap.mp hc
  rcases List.mem_cons.mp hc with rfl | hc
  · decide
  · have hsegment : Unmarked (Percent.encode Percent.inPath segment) :=
      unmarked_encode (.inl (by decide))
    exact unmarked_iff.mp hsegment c hc

theorem unmarked_pathOf (special : Bool) (cs : List Char) :
    Unmarked (pathOf special cs).toList := by
  unfold pathOf
  split
  · split <;> decide
  · split
    · exact unmarked_rootedPath _ _
    · exact unmarked_rootedPath _ _

theorem unmarked_userOf (cs : List Char) : Unmarked (userOf cs).1.toList ∧
    Unmarked (userOf cs).2.toList := by
  have hencode (cs : List Char) :
      Unmarked (String.ofList (Percent.encode Percent.inUser cs)).toList := by
    rw [String.toList_ofList]
    exact unmarked_encode (.inl (by decide))
  unfold userOf
  split
  · exact ⟨hencode _, hencode _⟩
  · exact ⟨hencode _, unmarked_empty⟩

/-- User, password, and host with port of an authority, and whether there is an at sign. -/
def signedParts (cs : List Char) : String × String × List Char × Bool :=
  match cutAtLastSign cs with
  | some (front, back) => ((userOf front).1, (userOf front).2, back, true)
  | none => ("", "", cs, false)

theorem unmarked_signedParts (cs : List Char) :
    Unmarked (signedParts cs).1.toList ∧ Unmarked (signedParts cs).2.1.toList := by
  unfold signedParts
  split
  · exact unmarked_userOf _
  · exact ⟨unmarked_empty, unmarked_empty⟩

def hostOf (scheme : String) (cs : List Char) : Except UrlDefect Host :=
  if isSpecial scheme then if cs.isEmpty then .error .emptyHost else Host.ofText cs
    else Host.ofOpaqueText cs

theorem unmarked_hostOf {host : Host} (h : hostOf scheme cs = .ok host) :
    Unmarked host.text.toList := by
  unfold hostOf at h
  split at h
  · split at h
    · cases h
    · exact unmarked_ofText h
  · exact unmarked_ofOpaqueText h

def placed (scheme user password : String) (signed : Bool) (port : List Char) (host : Host) :
    Except UrlDefect Url := do
  if host = .name "" && (signed || !port.isEmpty) then throw .emptyHost
  let port? ← match port with
    | ':' :: digits => portOf scheme digits
    | _ => .ok none
  return ⟨scheme, user, password, some host, port?, "", none, none⟩

/-- An authority is read in two stages: its host, and what is made of it with the other parts. -/
theorem readAuthority_eq (scheme : String) (cs : List Char) :
    readAuthority scheme cs =
      hostOf scheme (cutHost false (signedParts cs).2.2.1).1 >>=
        placed scheme (signedParts cs).1 (signedParts cs).2.1 (signedParts cs).2.2.2
          (cutHost false (signedParts cs).2.2.1).2 := by
  unfold readAuthority hostOf signedParts
  rcases cutAtLastSign cs with _ | ⟨front, back⟩
  · dsimp only
    split
    · split <;> rfl
    · rfl
  · dsimp only
    split
    · split <;> rfl
    · rfl

theorem exists_of_placed {user password : String} {signed : Bool} {port : List Char} {host : Host}
    (h : placed scheme user password signed port host = .ok url) :
    ∃ port?, url = ⟨scheme, user, password, some host, port?, "", none, none⟩ := by
  unfold placed at h
  dsimp only at h
  split at h
  · cases h
  · split at h
    · obtain ⟨port?, -, h⟩ := Except.bind_eq_ok h
      cases h
      exact ⟨port?, rfl⟩
    · cases h
      exact ⟨none, rfl⟩

theorem separable_readAuthority (hscheme : Unmarked scheme.toList)
    (h : readAuthority scheme cs = .ok url) :
    url.Separable := by
  rw [readAuthority_eq] at h
  obtain ⟨host, hhost, h⟩ := Except.bind_eq_ok h
  obtain ⟨port?, rfl⟩ := exists_of_placed h
  obtain ⟨huser, hpassword⟩ := unmarked_signedParts cs
  exact ⟨hscheme, huser, hpassword, fun _ hsome => Option.some.inj hsome ▸ unmarked_hostOf hhost,
    unmarked_empty, nofun⟩

theorem Separable.withPath (h : url.Separable) {path : String} (hpath : Unmarked path.toList) :
    { url with path := path }.Separable :=
  ⟨h.scheme, h.user, h.password, h.host, hpath, h.query⟩

theorem separable_file {host : Host} {path : String} (hhost : Unmarked host.text.toList)
    (hpath : Unmarked path.toList) :
    Separable ⟨"file", "", "", some host, none, path, none, none⟩ :=
  have hscheme : Unmarked "file".toList := by decide
  ⟨hscheme, unmarked_empty, unmarked_empty,
    fun _ hsome => Option.some.inj hsome ▸ hhost, hpath, nofun⟩

theorem separable_readFile (h : readFile cs = .ok url) : url.Separable := by
  have hempty : Unmarked (Host.name "").text.toList := unmarked_empty
  unfold readFile at h
  dsimp only at h
  split at h
  · split at h
    · split_ifs at h
      · cases h
        exact separable_file hempty (unmarked_pathOf _ _)
      · obtain ⟨host, hhost, h⟩ := Except.bind_eq_ok h
        cases h
        refine separable_file ?_ (unmarked_pathOf _ _)
        split
        · exact hempty
        · exact unmarked_ofText hhost
    · cases h
      exact separable_file hempty (unmarked_pathOf _ _)
  · cases h
    exact separable_file hempty (unmarked_pathOf _ _)

theorem separable_readHierarchy (hscheme : Unmarked scheme.toList) (hcs : Unmarked cs)
    (h : readHierarchy scheme cs = .ok url) : url.Separable := by
  unfold readHierarchy at h
  dsimp only at h
  split at h
  · exact separable_readFile h
  · split at h
    · obtain ⟨address, haddress, h⟩ := Except.bind_eq_ok h
      cases h
      exact (separable_readAuthority hscheme haddress).withPath (unmarked_pathOf _ _)
    · cases h
      refine ⟨hscheme, unmarked_empty, unmarked_empty, nofun, ?_, nofun⟩
      split
      · exact unmarked_rootedPath _ _
      · rw [String.toList_ofList]
        exact unmarked_encode (.inr hcs)

theorem Separable.withTail (h : url.Separable) (query fragment : Option (List Char)) :
    (url.withTail query fragment).Separable := by
  refine ⟨h.scheme, h.user, h.password, h.host, h.path, fun text htext => ?_⟩
  obtain ⟨cs, -, rfl⟩ := Option.map_eq_some_iff.mp htext
  rw [String.toList_ofList]
  split
  · exact Percent.not_mem_encode (by decide) (.inl (by decide))
  · exact Percent.not_mem_encode (by decide) (.inl (by decide))

/-- Every address that is read from a text falls into its parts again. -/
theorem separable_ofText {s : String} (h : ofText s = .ok url) : url.Separable := by
  unfold ofText at h
  split at h
  · cases h
  · next hscheme =>
    dsimp only at h
    obtain ⟨address, haddress, h⟩ := Except.bind_eq_ok h
    cases h
    exact (separable_readHierarchy (unmarked_of_cutScheme hscheme)
      (unmarked_cutOff _) haddress).withTail _ _

end Url

end ChatFlow
