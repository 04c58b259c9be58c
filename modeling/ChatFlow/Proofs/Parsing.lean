import ChatFlow.Proofs.JsonText

namespace ChatFlow

namespace Json

namespace Token

def Held : Number → Prop
  | .whole n => (Number.whole n).Valid
  | .real x => x.Canonical

def Sound : Token → Prop
  | number (.ok n) => n.Valid
  | _ => True

theorem sound_bounded {n : Number} (h : Held n) : (number (bounded n)).Sound := by
  cases n with
  | whole n => exact h
  | real x =>
    cases hfinite : x.isFinite with
    | true =>
      rw [bounded, hfinite]
      exact ⟨hfinite, h⟩
    | false =>
      rw [bounded, hfinite]
      trivial

theorem held_integer (negative : Bool) (digits : List Char) : Held (integer negative digits) := by
  unfold integer
  dsimp only
  split
  · split
    · exact Binary64.canonical_zero true
    · split
      · next hle =>
        simp only [Held, Number.Valid, maxSignedWord, maxWord] at hle ⊢
        omega
      · exact Binary64.canonical_scale _
  · split
    · next hle =>
      simp only [Held, Number.Valid, maxSignedWord, maxWord] at hle ⊢
      omega
    · exact Binary64.canonical_scale _

section

variable {P : Token → Prop}

theorem scanExponentPart_induction (hbroken : ∀ f, P (.brokenScalar f)) {plain : Token}
    {value : Int → Token} (hplain : P plain) (hvalue : ∀ e, P (value e)) (size : Nat)
    (cs : List Char) :
    P (scanExponentPart plain value size cs).1 := by
  unfold scanExponentPart
  split
  · exact hplain
  · split
    · split
      · next t hexponent =>
        -- an exponent fails only as a number that is cut short
        unfold scanExponent at hexponent
        dsimp only at hexponent
        split at hexponent
        · cases hexponent
          exact hbroken _
        · cases hexponent
      · exact hvalue _
    · exact hplain

variable (hbroken : ∀ f, P (.brokenScalar f)) (hnumber : ∀ n, Held n → P (.number (bounded n)))

include hbroken hnumber

theorem scanUnsigned_induction (negative : Bool) (cs : List Char) :
    P (scanUnsigned negative cs).1 := by
  have hreal : ∀ d : Decimal, P (.number (bounded (.real (.scale d)))) :=
    fun d => hnumber _ (Binary64.canonical_scale d)
  unfold scanUnsigned
  dsimp only
  split
  · exact hbroken _
  · exact hbroken _
  · unfold scanBehind
    dsimp only
    split
    · split
      · exact hbroken _
      · exact scanExponentPart_induction hbroken (hreal _) (fun _ => hreal _) _ _
    · exact scanExponentPart_induction hbroken (hnumber _ (held_integer _ _)) (fun _ => hreal _) _ _

/-- What stands where a number begins is a number, or breaks off. -/
theorem scanNumber_induction (cs : List Char) : P (scanNumber cs).1 := by
  unfold scanNumber
  split
  · exact scanUnsigned_induction hbroken hnumber true _
  · exact scanUnsigned_induction hbroken hnumber false _

end

theorem sound_scanNumber (cs : List Char) : (scanNumber cs).1.Sound :=
  scanNumber_induction (fun _ => trivial) (fun _ => sound_bounded) cs

theorem sound_scanText (before : Partial) (size : Nat) (cs : List Char) :
    (scanText before size cs).1.Sound := by
  have hbreakOff : ∀ (b : Break) (p : Partial), (p.breakOff b).Sound := by
    intro b p
    cases p <;> trivial
  fun_induction scanText before size cs <;> first | assumption | exact hbreakOff _ _ | trivial

theorem sound_scanWord {word : List Char} {token : Token} (h : token.Sound) (cs : List Char) :
    (scanWord word token cs).1.Sound := by
  unfold scanWord
  split
  · exact h
  · split <;> trivial

theorem sound_scan (c : Char) (rest : List Char) : (scan c rest).1.Sound := by
  unfold scan
  split
  -- the six brackets and marks
  iterate 6 trivial
  · exact sound_scanText _ _ _
  · exact @sound_scanWord _ .null trivial _
  · exact @sound_scanWord _ (.bool true) trivial _
  · exact @sound_scanWord _ (.bool false) trivial _
  · split
    · exact sound_scanNumber _
    · trivial

theorem sound_of_mem_allAfter {skip : Nat} {cs : List Char} {t : Token}
    (ht : t ∈ allAfter skip cs) : t.Sound := by
  fun_induction allAfter skip cs with
  | case1 => cases ht
  | case2 skip c rest ih => exact ih ht
  | case3 c rest hspace ih => exact ih ht
  | case4 c rest hspace token size hscan hlast =>
    have hsound := sound_scan c rest
    rw [hscan] at hsound
    rwa [List.mem_singleton.mp ht]
  | case5 c rest hspace token size hscan hlast ih =>
    have hsound := sound_scan c rest
    rw [hscan] at hsound
    rcases List.mem_cons.mp ht with rfl | ht
    · exact hsound
    · exact ih ht

end Token

namespace Outline

mutual

def Sound : Outline → Prop
  | .number (.ok n) => n.Valid
  | .list items _ => SoundItems items
  | .object members _ => SoundMembers members
  | _ => True

def SoundItems : List Outline → Prop
  | [] => True
  | v :: rest => Sound v ∧ SoundItems rest

def SoundMembers : List (Except Break String × Outline) → Prop
  | [] => True
  | (_, v) :: rest => Sound v ∧ SoundMembers rest

end

theorem soundItems_iff {items : List Outline} : SoundItems items ↔ ∀ v ∈ items, v.Sound := by
  induction items with
  | nil => simp [SoundItems]
  | cons v rest ih => rw [SoundItems, ih, List.forall_mem_cons]

theorem soundMembers_iff {members : List (Except Break String × Outline)} :
    SoundMembers members ↔ ∀ m ∈ members, m.2.Sound := by
  induction members with
  | nil => simp [SoundMembers]
  | cons m rest ih => rw [SoundMembers, ih, List.forall_mem_cons]

theorem sound_list {done : List Outline} (h : ∀ v ∈ done, v.Sound) (fault : Option Fault) :
    (list done.reverse fault).Sound :=
  soundItems_iff.mpr fun v hv => h v (List.mem_reverse.mp hv)

theorem sound_object {done : List (Except Break String × Outline)} (h : ∀ m ∈ done, m.2.Sound)
    (fault : Option Fault) : (object done.reverse fault).Sound :=
  soundMembers_iff.mpr fun m hm => h m (List.mem_reverse.mp hm)

def Frame.Sound : Frame → Prop
  | .list done => ∀ v ∈ done, v.Sound
  | .members done | .member done _ => ∀ m ∈ done, m.2.Sound

theorem sound_collapse {v : Outline} (hv : v.Sound) {opened : List Frame}
    (h : ∀ f ∈ opened, f.Sound) :
    (collapse v opened).Sound := by
  induction opened generalizing v with
  | nil => exact hv
  | cons f outer ih =>
    obtain ⟨hf, houter⟩ := List.forall_mem_cons.mp h
    cases f with
    | list done => exact ih (sound_list (List.forall_mem_cons.mpr ⟨hv, hf⟩) none) houter
    | members done => exact ih (sound_object hf none) houter
    | member done key => exact ih (sound_object (List.forall_mem_cons.mpr ⟨hv, hf⟩) none) houter

theorem sound_broken (what : Remnant) (fault : Fault) {opened : List Frame}
    (h : ∀ f ∈ opened, f.Sound) :
    (collapse (.broken what fault) opened).Sound :=
  @sound_collapse (.broken what fault) trivial opened h

theorem sound_abandon (fault : Fault) {opened : List Frame} (h : ∀ f ∈ opened, f.Sound) :
    (abandon fault opened).Sound := by
  cases opened with
  | nil => trivial
  | cons f outer =>
    obtain ⟨hf, houter⟩ := List.forall_mem_cons.mp h
    cases f with
    | list done => exact sound_collapse (sound_list hf _) houter
    | members done => exact sound_collapse (sound_object hf _) houter
    | member done key =>
      have hstray : (broken .stray fault).Sound := trivial
      exact sound_collapse (sound_object (List.forall_mem_cons.mpr ⟨hstray, hf⟩) none) houter

theorem sound_place {v : Outline} (hv : v.Sound) {opened frames : List Frame}
    (h : ∀ f ∈ opened, f.Sound) (hplace : place v opened = some frames) :
    ∀ f ∈ frames, f.Sound := by
  unfold place at hplace
  split at hplace
  · cases hplace
    obtain ⟨hf, houter⟩ := List.forall_mem_cons.mp h
    exact List.forall_mem_cons.mpr ⟨List.forall_mem_cons.mpr ⟨hv, hf⟩, houter⟩
  · cases hplace
    obtain ⟨hf, houter⟩ := List.forall_mem_cons.mp h
    exact List.forall_mem_cons.mpr ⟨List.forall_mem_cons.mpr ⟨hv, hf⟩, houter⟩
  · cases hplace

theorem sound_ofToken? {t : Token} (ht : t.Sound) {v : Outline} (h : ofToken? t = some v) :
    v.Sound := by
  unfold ofToken? at h
  split at h
  · cases h
    trivial
  · cases h
    trivial
  · next n =>
    cases h
    cases n with
    | ok n => exact ht
    | error e => trivial
  · cases h
    trivial
  · cases h

section Build

variable {t : Token} {rest : List Token}
  (hrest : ∀ (due : Due) (opened : List Frame), (∀ f ∈ opened, f.Sound) →
    (build due rest opened).outline.Sound)

include hrest

theorem sound_after {v : Outline} (hv : v.Sound) {opened : List Frame} (h : ∀ f ∈ opened, f.Sound) :
    (after v rest opened).outline.Sound := by
  unfold after
  split
  · next hplace => exact hrest _ _ (sound_place hv h hplace)
  · exact hv

theorem sound_build_value (ht : t.Sound) {opened : List Frame} (h : ∀ f ∈ opened, f.Sound) :
    (build .value (t :: rest) opened).outline.Sound := by
  cases t with
  | openList => exact hrest .firstItem _ (List.forall_mem_cons.mpr ⟨List.forall_mem_nil _, h⟩)
  | openObject => exact hrest .firstKey _ (List.forall_mem_cons.mpr ⟨List.forall_mem_nil _, h⟩)
  | null => exact @sound_after _ hrest .null trivial _ h
  | bool b => exact @sound_after _ hrest (.bool b) trivial _ h
  | number n => exact @sound_after _ hrest (.number n) (sound_ofToken? ht rfl) _ h
  | text s => exact @sound_after _ hrest (.text s) trivial _ h
  | _ => exact sound_broken _ _ h

theorem sound_build_members {due : Due} (hdue : due = .firstKey ∨ due = .key ∨ due = .next)
    {done : List (Except Break String × Outline)} (hdone : ∀ m ∈ done, m.2.Sound)
    {outer : List Frame} (houter : ∀ f ∈ outer, f.Sound) :
    (build due (t :: rest) (.members done :: outer)).outline.Sound := by
  have h : ∀ f ∈ .members done :: outer, f.Sound := List.forall_mem_cons.mpr ⟨hdone, houter⟩
  have hobject := sound_after hrest (sound_object hdone none) houter
  have hcolon : ∀ key, (build .colon rest (.member done key :: outer)).outline.Sound :=
    fun key => hrest .colon _ (List.forall_mem_cons.mpr ⟨hdone, houter⟩)
  rcases hdue with rfl | rfl | rfl
  · cases t with
    | text key => exact hcolon key
    | closeObject => exact hobject
    | _ => exact sound_abandon _ h
  · cases t with
    | text key => exact hcolon key
    | _ => exact sound_abandon _ h
  · cases t with
    | comma => exact hrest .key _ h
    | closeObject => exact hobject
    | _ => exact sound_abandon _ h

/-- Any token. Where the container does not fit what is due, the reading ends. -/
theorem sound_build_cons (ht : t.Sound) (due : Due) {opened : List Frame}
    (h : ∀ f ∈ opened, f.Sound) :
    (build due (t :: rest) opened).outline.Sound := by
  have hvalue := sound_build_value hrest ht h
  cases due with
  | value => exact hvalue
  | colon =>
    cases t with
    | colon => exact hrest .value _ h
    | _ => exact sound_broken _ _ h
  | firstItem =>
    by_cases hclose : t = .closeList
    · subst hclose
      rcases opened with _ | ⟨done | done | done, outer⟩
      case cons.list =>
        obtain ⟨hdone, houter⟩ := List.forall_mem_cons.mp h
        exact sound_after hrest (sound_list hdone none) houter
      all_goals exact hvalue
    · rw [build_firstItem hclose]
      exact hvalue
  | firstKey =>
    rcases opened with _ | ⟨done | done | done, outer⟩
    case cons.members =>
      obtain ⟨hdone, houter⟩ := List.forall_mem_cons.mp h
      exact sound_build_members hrest (.inl rfl) hdone houter
    all_goals cases t <;> exact sound_abandon _ h
  | key =>
    rcases opened with _ | ⟨done | done | done, outer⟩
    case cons.members =>
      obtain ⟨hdone, houter⟩ := List.forall_mem_cons.mp h
      exact sound_build_members hrest (.inr (.inl rfl)) hdone houter
    all_goals cases t <;> exact sound_abandon _ h
  | next =>
    rcases opened with _ | ⟨done | done | done, outer⟩
    case cons.list =>
      obtain ⟨hdone, houter⟩ := List.forall_mem_cons.mp h
      cases t with
      | comma => exact hrest .value _ h
      | closeList => exact sound_after hrest (sound_list hdone none) houter
      | _ => exact sound_abandon _ h
    case cons.members =>
      obtain ⟨hdone, houter⟩ := List.forall_mem_cons.mp h
      exact sound_build_members hrest (.inr (.inr rfl)) hdone houter
    all_goals cases t <;> exact sound_abandon _ h

end Build

/-- What is built of sound tokens inside sound containers is sound. -/
theorem sound_build {tokens : List Token} (ht : ∀ t ∈ tokens, t.Sound) (due : Due)
    (opened : List Frame) (h : ∀ f ∈ opened, f.Sound) :
    (build due tokens opened).outline.Sound := by
  induction tokens generalizing due opened with
  | nil =>
    cases due with
    | value => exact sound_broken _ _ h
    | colon => exact sound_broken _ _ h
    | _ => exact sound_abandon _ h
  | cons t rest ih =>
    obtain ⟨ht, hrest⟩ := List.forall_mem_cons.mp ht
    exact sound_build_cons (ih hrest) ht due h

theorem sound_read (cs : List Char) : (read cs).outline.Sound :=
  sound_build (fun _ => Token.sound_of_mem_allAfter) .value [] (List.forall_mem_nil _)

end Outline

end Json

namespace Keyed

variable {α : Type} {key : String} {value : α} {entries : Keyed α}

theorem mem_of_get? (h : get? key entries = some value) : (key, value) ∈ entries := by
  induction entries with
  | nil => cases h
  | cons e rest ih =>
    obtain ⟨k, v⟩ := e
    rw [get?] at h
    split at h
    · next hk =>
      cases h
      rw [hk]
      exact List.mem_cons_self
    · exact List.mem_cons_of_mem _ (ih h)

theorem eq_or_mem_of_mem_insert {e : String × α} (h : e ∈ insert key value entries) :
    e = (key, value) ∨ e ∈ entries := by
  induction entries with
  | nil => exact .inl (List.mem_singleton.mp h)
  | cons first rest ih =>
    obtain ⟨k, v⟩ := first
    rw [insert] at h
    split at h
    · exact (List.mem_cons.mp h).imp_right (List.mem_cons_of_mem _)
    · split at h
      · exact List.mem_cons.mp h
      · rcases List.mem_cons.mp h with rfl | h
        · exact .inr List.mem_cons_self
        · exact (ih h).imp_right (List.mem_cons_of_mem _)

theorem sorted_insert (h : Sorted entries) (key : String) (value : α) :
    Sorted (insert key value entries) := by
  induction entries with
  | nil => exact List.pairwise_singleton _ _
  | cons first rest ih =>
    obtain ⟨k, v⟩ := first
    obtain ⟨hfirst, hrest⟩ := List.pairwise_cons.mp h
    rw [insert]
    split
    · next hk => exact List.pairwise_cons.mpr ⟨hk ▸ hfirst, hrest⟩
    · next hne =>
      split
      · next hlt =>
        refine List.pairwise_cons.mpr ⟨List.forall_mem_cons.mpr ⟨hlt, fun e he => ?_⟩, h⟩
        exact String.lt_trans hlt (hfirst e he)
      · next hge =>
        have hlt : k < key := Std.lt_of_le_of_ne (String.not_lt.mp hge) hne
        refine List.pairwise_cons.mpr ⟨fun e he => ?_, ih hrest⟩
        rcases eq_or_mem_of_mem_insert he with rfl | he
        · exact hlt
        · exact hfirst e he

end Keyed

namespace Json

theorem wellFormedItems_iff {items : List Json} : WellFormedItems items ↔
    ∀ v ∈ items, v.WellFormed := by
  induction items with
  | nil => simp [WellFormedItems]
  | cons v rest ih => rw [WellFormedItems, ih, List.forall_mem_cons]

theorem wellFormedMembers_iff {members : List (String × Json)} :
    WellFormedMembers members ↔ ∀ m ∈ members, m.2.WellFormed := by
  induction members with
  | nil => simp [WellFormedMembers]
  | cons m rest ih =>
    obtain ⟨k, v⟩ := m
    rw [WellFormedMembers, ih, List.forall_mem_cons]

theorem wellFormed_insert {members : Keyed Json} (h : (object members).WellFormed) (key : String)
    {value : Json} (hvalue : value.WellFormed) :
    (object (Keyed.insert key value members)).WellFormed := by
  refine ⟨Keyed.sorted_insert h.1 key value, wellFormedMembers_iff.mpr fun m hm => ?_⟩
  rcases Keyed.eq_or_mem_of_mem_insert hm with rfl | hm
  · exact hvalue
  · exact wellFormedMembers_iff.mp h.2 m hm

theorem wellFormed_nil : (object []).WellFormed := ⟨.nil, trivial⟩

theorem wellFormed_ofMembers {members : List (String × Json)} (h : ∀ m ∈ members, m.2.WellFormed) :
    (ofMembers members).WellFormed :=
  Keyed.ofList_induction (P := fun done => (object done).WellFormed) wellFormed_nil
    fun m hm _ hdone => wellFormed_insert hdone m.1 (h m hm)

namespace Outline

mutual

/-- The value that a sound outline denotes is well-formed. -/
theorem wellFormed_of_toJson (o : Outline) (ho : o.Sound) {room : Nat} {v : Json}
    (h : toJson room o = .ok v) :
    v.WellFormed := by
  match o, room with
  | .null, _ | .bool _, _ =>
    cases h
    trivial
  | .number (.ok n), _ =>
    cases h
    exact ho
  | .text (.ok s), _ =>
    cases h
    trivial
  | .number (.error _), _ | .text (.error _), _ | .broken _ _, _ => cases h
  | .list _ _, 0 | .object _ _, 0 => cases h
  | .list items fault, room + 1 =>
    obtain ⟨values, hvalues, h⟩ := Except.bind_eq_ok h
    obtain ⟨_, -, h⟩ := Except.bind_eq_ok h
    cases h
    exact wellFormedItems_iff.mpr (wellFormed_of_toItems items ho hvalues)
  | .object members fault, room + 1 =>
    obtain ⟨values, hvalues, h⟩ := Except.bind_eq_ok h
    obtain ⟨_, -, h⟩ := Except.bind_eq_ok h
    cases h
    exact wellFormed_ofMembers (wellFormed_of_toMembers members ho hvalues)

theorem wellFormed_of_toItems (items : List Outline) (ho : SoundItems items) {room : Nat}
    {values : List Json} (h : toItems room items = .ok values) : ∀ v ∈ values, v.WellFormed := by
  match items with
  | [] =>
    cases h
    exact List.forall_mem_nil _
  | o :: items =>
    obtain ⟨v, hv, h⟩ := Except.bind_eq_ok h
    obtain ⟨rest, hrest, h⟩ := Except.bind_eq_ok h
    cases h
    exact List.forall_mem_cons.mpr
      ⟨wellFormed_of_toJson o ho.1 hv, wellFormed_of_toItems items ho.2 hrest⟩

theorem wellFormed_of_toMembers (members : List (Except Break String × Outline))
    (ho : SoundMembers members) {room : Nat} {values : List (String × Json)}
    (h : toMembers room members = .ok values) :
    ∀ m ∈ values, m.2.WellFormed := by
  match members with
  | [] =>
    cases h
    exact List.forall_mem_nil _
  | (k, o) :: members =>
    obtain ⟨key, -, h⟩ := Except.bind_eq_ok h
    obtain ⟨v, hv, h⟩ := Except.bind_eq_ok h
    obtain ⟨rest, hrest, h⟩ := Except.bind_eq_ok h
    cases h
    exact List.forall_mem_cons.mpr
      ⟨wellFormed_of_toJson o ho.1 hv, wellFormed_of_toMembers members ho.2 hrest⟩

end

end Outline

theorem wellFormed_of_parse {text : String} {v : Json} (h : parse text = .ok v) : v.WellFormed := by
  obtain ⟨value, hvalue, h⟩ := Except.bind_eq_ok h
  split at h
  · cases h
  · cases h
    exact Outline.wellFormed_of_toJson _ (Outline.sound_read _) hvalue

end Json

end ChatFlow
