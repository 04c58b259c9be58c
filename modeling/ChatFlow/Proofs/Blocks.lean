import ChatFlow.Proofs.Lines
import ChatFlow.Proofs.Placeholders
import ChatFlow.Run.Handler

namespace ChatFlow

def Json.ofLines (lines : List String) : Json := .text ("\n".intercalate lines)

/-- In a collection of entries with different names each is found under its name. -/
theorem Keyed.get?_ofList {α : Type} {entries : List (String × α)}
    (hkeys : (entries.map (·.1)).Nodup) {key : String} {value : α} (h : (key, value) ∈ entries) :
    Keyed.get? key (Keyed.ofList entries) = some value := by
  induction entries using List.reverseRecOn with
  | nil => cases h
  | append_singleton front last ih =>
    have hfold :
        Keyed.ofList (front ++ [last]) = Keyed.insert last.1 last.2 (Keyed.ofList front) := by
      simp [Keyed.ofList]
    rw [List.map_append, List.nodup_append] at hkeys
    obtain ⟨hfront, -, hne⟩ := hkeys
    rw [hfold]
    rcases List.mem_append.mp h with h | h
    · have hkey : key ≠ last.1 := hne key (List.mem_map_of_mem h) last.1 (by simp)
      rw [Keyed.get?_insert_of_ne hkey, ih hfront h]
    · rw [← List.mem_singleton.mp h, Keyed.get?_insert_self]

theorem Json.member?_ofMembers {entries : List (String × Json)} (hkeys : (entries.map (·.1)).Nodup)
    {key : String} {value : Json} (h : (key, value) ∈ entries) :
    (Json.ofMembers entries).member? key = some value :=
  Keyed.get?_ofList hkeys h

/-- What is read from spelled entries, where each spelling is read as it should be. -/
theorem filterMap_map_of_eq_some {α β γ : Type} {f : β → Option γ} {g : α → γ} {spell : α → β}
    {entries : List α} (h : ∀ e ∈ entries, f (spell e) = some (g e)) :
    (entries.map spell).filterMap f = entries.map g := by
  rw [List.filterMap_map, ← List.filterMap_eq_map]
  exact List.filterMap_congr h

namespace Text

/-- A carriage return in front of a line feed makes no difference once blanks are left out. -/
theorem trimBoth_dropReturn (line : List Char) : trimBoth (dropReturn line) = trimBoth line := by
  rcases dropReturn_eq_or line with h | h
  · rw [h]
  · conv_rhs => rw [h]
    rw [trimBoth_concat_blank (by decide)]

/-- What is read from lines is what is read from each line, where the carriage returns at their ends
do not count. -/
theorem filterMap_ofLines {α β : Type} {f : List Char → Option β} {g : α → β} {spell : α → String}
    {entries : List α} (hfeed : ∀ e ∈ entries, '\n' ∉ (spell e).toList)
    (hne : ∀ e ∈ entries, (spell e).toList ≠ [])
    (hreturn : ∀ e ∈ entries, f (dropReturn (spell e).toList) = f (spell e).toList)
    (hspell : ∀ e ∈ entries, f (spell e).toList = some (g e)) :
    (lines ("\n".intercalate (entries.map spell)).toList).filterMap f = entries.map g := by
  have hlines := @filterMap_lines β f (entries.map fun e => (spell e).toList)
    (List.forall_mem_map.mpr hfeed) (by simpa using hne) (List.forall_mem_map.mpr hreturn)
  rw [String.toList_intercalate, List.map_map]
  exact hlines.trans (filterMap_map_of_eq_some hspell)

end Text

namespace Condition

def line (c : Condition) : String := c.left ++ " " ++ c.op ++ " " ++ Coercion.text c.right

def item (c : Condition) : Json :=
  .ofMembers [("left", .text c.left), ("op", .text c.op), ("right", c.right)]

/-- The condition can be written as a line: its path and its operator are words, and it is compared
with a text that has no blanks at its ends and stands on one line. -/
structure FitsLine (c : Condition) : Prop where
  left : Text.IsWord c.left.toList
  op : Text.IsWord c.op.toList
  right : ∃ s, c.right = .text s ∧ Text.trim s = s ∧ '\n' ∉ s.toList

section Words

open Text

variable {left op right : List Char}

/-- Without the blanks at its ends a line has none behind its operator where nothing follows. -/
theorem trimBoth_words (hleft : IsWord left) (hop : IsWord op) (hright : trimBoth right = right) :
    trimBoth (left ++ ' ' :: (op ++ ' ' :: right)) =
      left ++ ' ' :: (op ++ if right = [] then [] else ' ' :: right) := by
  split
  · next hnil =>
    subst hnil
    have hspelled : left ++ ' ' :: (op ++ [' ']) = (left ++ ' ' :: op) ++ [' '] := by simp
    rw [hspelled, trimBoth_concat_blank (by decide), List.append_nil, trimBoth,
      hleft.trimFront_append]
    have hend := hop.trimEnd_append (left ++ [' '])
    rwa [List.append_assoc] at hend
  · next hne =>
    have hend : trimEnd right = right := by
      rw [← hright, trimEnd_trimBoth]
    have hspelled :
        left ++ ' ' :: (op ++ ' ' :: right) = (left ++ ' ' :: (op ++ [' '])) ++ right := by simp
    rw [trimBoth, hleft.trimFront_append, hspelled, trimEnd_append (by rwa [hend]), hend]

/-- A line of a path, an operator and a trimmed text is read as these three. -/
theorem ofLine_words (hleft : IsWord left) (hop : IsWord op) (hright : trimBoth right = right) :
    ofLine (left ++ ' ' :: (op ++ ' ' :: right)) =
      some ⟨.ofList left, .ofList op, .text (.ofList right)⟩ := by
  have hempty : op.isEmpty = false := by simpa using hop.1
  unfold ofLine
  rw [trimBoth_words hleft hop hright, cutAt_append hleft.2 (by decide)]
  simp only [Option.bind_eq_bind, Option.bind_some, hop.trimFront_append]
  by_cases hnil : right = []
  · rw [if_pos hnil, List.append_nil, cutAt_eq_none hop.2]
    simp [hempty, hnil]
  · rw [if_neg hnil, cutAt_append hop.2 (by decide)]
    simp [hempty, hright]

end Words

variable {c : Condition}

theorem FitsLine.toList_line (h : c.FitsLine) : ∃ right, c.right = .text (.ofList right) ∧
    Text.trimBoth right = right ∧ '\n' ∉ right ∧
      c.line.toList = c.left.toList ++ ' ' :: (c.op.toList ++ ' ' :: right) := by
  obtain ⟨s, hs, htrim, hfeed⟩ := h.right
  refine ⟨s.toList, by rw [hs, String.ofList_toList], ?_, hfeed, ?_⟩
  · have htoList := congrArg String.toList htrim
    rwa [Text.trim, String.toList_ofList] at htoList
  · simp [line, hs, Coercion.text]

theorem FitsLine.ofLine_line (h : c.FitsLine) : ofLine c.line.toList = some c := by
  obtain ⟨right, hright, htrim, -, hline⟩ := h.toList_line
  rw [hline, ofLine_words h.left h.op htrim, String.ofList_toList, String.ofList_toList, ← hright]

theorem FitsLine.feed_notMem (h : c.FitsLine) : '\n' ∉ c.line.toList := by
  obtain ⟨right, -, -, hfeed, hline⟩ := h.toList_line
  rw [hline]
  simp [h.left.feed_notMem, h.op.feed_notMem, hfeed]

theorem ofItem_item (c : Condition) : ofItem c.item = some c := by
  have hget :
      ∀ key value, (key, value) ∈ [("left", .text c.left), ("op", .text c.op), ("right", c.right)] →
      c.item.member? key = some value := fun _ _ => Json.member?_ofMembers (by simp)
  simp [ofItem, hget "left" (.text c.left), hget "op" (.text c.op), hget "right" c.right,
    Coercion.text]

/-- Either spelling of the conditions is read as the conditions. -/
theorem ofBlock_ofLines {conditions : List Condition} (h : ∀ c ∈ conditions, c.FitsLine) :
    ofBlock (some (.ofLines (conditions.map line))) = conditions := by
  have hread : ofBlock (some (.ofLines (conditions.map line))) = conditions.map id := by
    refine Text.filterMap_ofLines (fun c hc => (h c hc).feed_notMem) ?_ ?_ fun c hc =>
      (h c hc).ofLine_line
    · intro c hc
      obtain ⟨right, -, -, -, hline⟩ := (h c hc).toList_line
      rw [hline]
      simp
    · intro c hc
      unfold ofLine
      rw [Text.trimBoth_dropReturn]
  rw [hread, List.map_id]

theorem ofBlock_items (conditions : List Condition) :
    ofBlock (some (.list (conditions.map item))) = conditions := by
  have hread : ofBlock (some (.list (conditions.map item))) = conditions.map id :=
    filterMap_map_of_eq_some fun c _ => ofItem_item c
  rw [hread, List.map_id]

theorem isBlank_ofLines {conditions : List Condition} (h : ∀ c ∈ conditions, c.FitsLine) :
    Coercion.isBlank (some (.ofLines (conditions.map line))) = conditions.isEmpty := by
  cases conditions with
  | nil => rfl
  | cons c rest =>
    obtain ⟨hne, hword⟩ := (h c List.mem_cons_self).left
    obtain ⟨ch, more, hleft⟩ := List.exists_cons_of_ne_nil hne
    have hline : ch ∈ c.line.toList := by
      simp [line, hleft]
    have hmem : ch ∈ ("\n".intercalate ((c :: rest).map line)).toList := by
      rw [List.map_cons]
      cases rest with
      | nil => simpa using hline
      | cons next rest => simp [hline]
    have hblank : Text.isBlank ch = false := hword ch (hleft ▸ List.mem_cons_self)
    show Text.allBlank ("\n".intercalate ((c :: rest).map line)) = false
    rw [Text.allBlank, List.all_eq_false]
    exact ⟨ch, hmem, by simp [hblank]⟩

end Condition

namespace Node

def withField (node : Node) (key : String) (value : Json) : Node :=
  { node with config := Keyed.insert key value node.config }

@[simp] theorem id_withField (node : Node) (key : String) (value : Json) :
    (node.withField key value).id = node.id := rfl

@[simp] theorem kind_withField (node : Node) (key : String) (value : Json) :
    (node.withField key value).kind = node.kind := rfl

@[simp] theorem field?_withField_self (node : Node) (key : String) (value : Json) :
    (node.withField key value).field? key = some value :=
  Keyed.get?_insert_self _ _ _

theorem field?_withField_of_ne {key other : String} (h : other ≠ key) (node : Node) (value : Json) :
    (node.withField key value).field? other = node.field? other :=
  Keyed.get?_insert_of_ne h _ _

/-- A branch only looks at what its conditions are and at whether there are any. -/
theorem run_branch_congr {node : Node} (hkind : node.kind = .branch) {a b : Json}
    (hblank : Coercion.isBlank (some a) = Coercion.isBlank (some b))
    (hblock : Condition.ofBlock (some a) = Condition.ofBlock (some b)) (settings : Settings)
    (sink : Sink) (context : Context) :
    (node.withField "conditions" a).run settings sink context =
      (node.withField "conditions" b).run settings sink context := by
  have hmode : ∀ value, (node.withField "conditions" value).field? "mode" = node.field? "mode" :=
    field?_withField_of_ne (by decide) node
  have hrefusal : ∀ value, (node.withField "conditions" value).refusal? =
      if Coercion.isBlank (some value) then
        some (.invalidConfig node.id NodeKind.branch.name "conditions") else none := by
    intro value
    rw [refusal?, kind_withField, hkind]
    simp only [missingField?, kind_withField, hkind, NodeKind.fields]
    cases hvalue : Coercion.isBlank (some value) <;> simp [hvalue]
  have hhandle : ∀ value, (node.withField "conditions" value).handle settings sink context =
      .done ((node.withField "conditions" value).branch settings.policy context) := by
    intro value
    rw [handle, kind_withField, hkind]
    rfl
  have hbranch : (node.withField "conditions" a).branch settings.policy context =
      (node.withField "conditions" b).branch settings.policy context := by
    simp only [branch, textField?, hmode, field?_withField_self, hblock]
    rfl
  rw [run, run, hrefusal, hrefusal, hblank, hhandle, hhandle, hbranch]

end Node

/-- Conditions that are written as the lines of a text or as a list of objects are read as the same
conditions, so that a branch with either spelling runs alike, whatever its mode and the context. -/
theorem Condition.spellings_agree (conditions : List Condition) (h : ∀ c ∈ conditions, c.FitsLine) :
    Condition.ofBlock (some (.ofLines (conditions.map Condition.line))) = conditions ∧
      Condition.ofBlock (some (.list (conditions.map Condition.item))) = conditions ∧
      ∀ (node : Node), node.kind = .branch →
        ∀ (settings : Settings) (sink : Sink) (context : Context),
        (node.withField "conditions" (.ofLines (conditions.map Condition.line))).run settings sink
          context =
          (node.withField "conditions" (.list (conditions.map Condition.item))).run settings sink
            context := by
  have hlines := Condition.ofBlock_ofLines h
  have hitems := Condition.ofBlock_items conditions
  refine ⟨hlines, hitems, fun node hkind settings sink context => ?_⟩
  refine Node.run_branch_congr hkind ?_ (hlines.trans hitems.symm) settings sink context
  rw [Condition.isBlank_ofLines h]
  cases conditions <;> rfl

/-- Three conditions, one with blanks within its text and one that is compared with nothing. -/
def Condition.visitors : List Condition :=
  [⟨"contact.name", "EQUALS", .text "Ana \t Maria"⟩, ⟨"vars.age", "GT", .text "18"⟩,
    ⟨"vars.note", "EXISTS", .text ""⟩]

theorem Condition.spellings_agree_visitors :
    (∀ c ∈ Condition.visitors, c.FitsLine) ∧
      Condition.ofBlock
        (some (.text "contact.name EQUALS Ana \t Maria\nvars.age GT 18\nvars.note EXISTS ")) =
        Condition.visitors ∧
      Condition.ofBlock (some (.list (Condition.visitors.map Condition.item))) =
        Condition.visitors ∧
      ∀ (settings : Settings) (sink : Sink) (context : Context),
        ((⟨"check", .branch, [("mode", .text "ANY")]⟩ : Node).withField "conditions"
            (.text "contact.name EQUALS Ana \t Maria\nvars.age GT 18\nvars.note EXISTS ")).run
              settings sink context =
          ((⟨"check", .branch, [("mode", .text "ANY")]⟩ : Node).withField "conditions"
            (.list (Condition.visitors.map Condition.item))).run settings sink context := by
  have hfits : ∀ c ∈ Condition.visitors, c.FitsLine := by
    intro c hc
    rcases List.mem_cons.mp hc with rfl | hc
    · exact ⟨by decide +kernel, by decide +kernel, "Ana \t Maria", rfl, by decide +kernel,
        by decide +kernel⟩
    rcases List.mem_cons.mp hc with rfl | hc
    · exact ⟨by decide +kernel, by decide +kernel, "18", rfl, by decide +kernel, by decide +kernel⟩
    rw [List.mem_singleton.mp hc]
    exact ⟨by decide +kernel, by decide +kernel, "", rfl, by decide +kernel, by decide +kernel⟩
  have htext : Json.ofLines (Condition.visitors.map Condition.line) =
      .text "contact.name EQUALS Ana \t Maria\nvars.age GT 18\nvars.note EXISTS " := by
        decide +kernel
  obtain ⟨hlines, hitems, hrun⟩ := Condition.spellings_agree Condition.visitors hfits
  rw [htext] at hlines hrun
  exact ⟨hfits, hlines, hitems, hrun ⟨"check", .branch, [("mode", .text "ANY")]⟩ rfl⟩

namespace Template

def pairLine (e : String × String) : String := e.1 ++ "=" ++ e.2

def pairItem (e : String × String) : Json := .ofMembers [("key", .text e.1), ("value", .text e.2)]

def memberItem (e : String × Json) : Json := .ofMembers [("key", .text e.1), ("value", e.2)]

def itemText : Json → String
  | .null => ""
  | v => Coercion.text v

/-- The pair can be written as a line: there is no equals sign in its key and no line feed
anywhere. -/
structure PairFitsLine (e : String × String) : Prop where
  key : '=' ∉ e.1.toList ∧ '\n' ∉ e.1.toList
  value : '\n' ∉ e.2.toList

def Mapping.line (m : Mapping) : String := m.source ++ " -> " ++ m.target

def Mapping.item (m : Mapping) : Json :=
  .ofMembers [("from", .text m.source), ("to", .text m.target)]

/-- The mapping can be written as a line: there is no arrow where it reads from and no line feed
anywhere. -/
structure Mapping.FitsLine (m : Mapping) : Prop where
  source : ¬ ['-', '>'] <:+: m.source.toList ∧ '\n' ∉ m.source.toList
  target : '\n' ∉ m.target.toList

def settled (context : Context) (e : String × String) : String × String :=
  (Text.toLower (Text.trim e.1), apply context (Text.trim e.2))

variable {e : String × String} {m : Mapping}

theorem pairs_eq (context : Context) (block : Option Json) :
    pairs context block = ((rawPairs block).map (settled context)).filter fun e =>
      !e.1.isEmpty := rfl

theorem toList_pairLine (e : String × String) :
    (pairLine e).toList = e.1.toList ++ '=' :: e.2.toList := by
  simp [pairLine]

/-- A line is cut in front of its value, which is used without the blanks at its ends. -/
theorem map_settled_pairOfLine (context : Context) (h : PairFitsLine e) {value : List Char}
    (hvalue : Text.trimBoth value = Text.trimBoth e.2.toList) :
    (pairOfLine (e.1.toList ++ '=' :: value)).map (settled context) = some (settled context e) := by
  have hcut := Text.cutAt_append (Text.beq_eq_false_of_not_mem h.key.1) (beq_self_eq_true '=') value
  rw [pairOfLine, hcut]
  simp [settled, Text.trim, hvalue]

theorem pairs_ofLines (context : Context) {entries : List (String × String)}
    (h : ∀ e ∈ entries, PairFitsLine e) :
    pairs context (some (.ofLines (entries.map pairLine))) =
      (entries.map (settled context)).filter fun e => !e.1.isEmpty := by
  rw [pairs_eq]
  refine congrArg (List.filter _) ?_
  show ((Text.lines ("\n".intercalate (entries.map pairLine)).toList).filterMap pairOfLine).map
      (settled context) = _
  rw [List.map_filterMap]
  have hread : ∀ e ∈ entries, (pairOfLine (pairLine e).toList).map (settled context) =
      some (settled context e) := by
    intro e he
    rw [toList_pairLine, map_settled_pairOfLine context (h e he) rfl]
  refine Text.filterMap_ofLines ?_ ?_ ?_ hread
  · intro e he
    rw [toList_pairLine]
    simp [(h e he).key.2, (h e he).value]
  · intro e he
    simp [toList_pairLine]
  · intro e he
    rw [hread e he, toList_pairLine, Text.dropReturn_append_cons (by decide),
      map_settled_pairOfLine context (h e he) (Text.trimBoth_dropReturn _)]

theorem pairOfItem_memberItem (e : String × Json) :
    pairOfItem (memberItem e) = some (e.1, itemText e.2) := by
  have hget : ∀ key value, (key, value) ∈ [("key", .text e.1), ("value", e.2)] →
      (memberItem e).member? key = some value := fun _ _ => Json.member?_ofMembers (by simp)
  have hkey := hget "key" (.text e.1) (by simp)
  have hvalue := hget "value" e.2 (by simp)
  rw [pairOfItem, hkey, hvalue]
  cases e.2 <;> rfl

theorem pairOfItem_pairItem (e : String × String) : pairOfItem (pairItem e) = some e :=
  pairOfItem_memberItem (e.1, .text e.2)

theorem pairs_items (context : Context) (entries : List (String × String)) :
    pairs context (some (.list (entries.map pairItem))) =
      (entries.map (settled context)).filter fun e => !e.1.isEmpty := by
  have hraw : rawPairs (some (.list (entries.map pairItem))) = entries := by
    have hread : rawPairs (some (.list (entries.map pairItem))) = entries.map id :=
      filterMap_map_of_eq_some fun e _ => pairOfItem_pairItem e
    rw [hread, List.map_id]
  rw [pairs_eq, hraw]

def Mapping.trimmed (m : Mapping) : Mapping := ⟨Text.trim m.source, Text.trim m.target⟩

theorem Mapping.toList_line (m : Mapping) :
    m.line.toList = m.source.toList ++ ' ' :: '-' :: '>' :: ' ' :: m.target.toList := by
  simp [line]

/-- A line is cut behind the arrow that is written between the two ends. -/
theorem mappingOfLine_eq (h : m.FitsLine) {target : List Char}
    (htarget : Text.trimBoth target = Text.trimBoth m.target.toList) :
    mappingOfLine (m.source.toList ++ ' ' :: '-' :: '>' :: ' ' :: target) = some m.trimmed := by
  have hblank : Text.isBlank ' ' = true := by decide
  rw [mappingOfLine, Text.cutAtArrow_append h.source.1]
  simp [Mapping.trimmed, Text.trim, Text.trimBoth_concat_blank hblank,
    Text.trimBoth_blank_cons hblank, htarget]

theorem mappings_ofLines {ms : List Mapping} (h : ∀ m ∈ ms, m.FitsLine) :
    mappings (some (.ofLines (ms.map Mapping.line))) =
      (ms.map Mapping.trimmed).filter (·.isComplete) := by
  have hread : ∀ m ∈ ms, mappingOfLine m.line.toList = some m.trimmed := by
    intro m hm
    rw [m.toList_line, mappingOfLine_eq (h m hm) rfl]
  refine congrArg (List.filter _) (Text.filterMap_ofLines ?_ ?_ ?_ hread)
  · intro m hm
    rw [m.toList_line]
    simp [(h m hm).source.2, (h m hm).target]
  · intro m hm
    simp [m.toList_line]
  · intro m hm
    have hreturn : Text.dropReturn m.line.toList =
        m.source.toList ++ ' ' :: '-' :: '>' :: ' ' :: Text.dropReturn m.target.toList := by
      have hdrop := Text.dropReturn_append_cons (c := ' ') (by decide)
        (m.source.toList ++ [' ', '-', '>']) m.target.toList
      rw [m.toList_line]
      simpa using hdrop
    rw [hread m hm, hreturn, mappingOfLine_eq (h m hm) (Text.trimBoth_dropReturn _)]

theorem mappingOfItem_item (m : Mapping) : mappingOfItem m.item = some m.trimmed := by
  have hget : ∀ key value, (key, value) ∈ [("from", .text m.source), ("to", .text m.target)] →
      m.item.member? key = some value := fun _ _ => Json.member?_ofMembers (by simp)
  simp [mappingOfItem, hget "from" (.text m.source), hget "to" (.text m.target), Json.asText?,
    Mapping.trimmed]

theorem mappings_items (ms : List Mapping) :
    mappings (some (.list (ms.map Mapping.item))) =
      (ms.map Mapping.trimmed).filter (·.isComplete) :=
  congrArg (List.filter _) (filterMap_map_of_eq_some fun m _ => mappingOfItem_item m)

/-- Pairs and mappings that are written as the lines of a text or as a list of objects are used as
the same pairs and mappings: keys in lower case, values with their placeholders replaced, nothing
with a blank at its ends, and whatever has no key, or only one end, left out. -/
theorem blocks_agree (context : Context) (entries : List (String × String))
    (hentries : ∀ e ∈ entries, PairFitsLine e) (ms : List Mapping) (hms : ∀ m ∈ ms, m.FitsLine) :
    (pairs context (some (.ofLines (entries.map pairLine))) =
      pairs context (some (.list (entries.map pairItem))) ∧
      pairs context (some (.list (entries.map pairItem))) =
        (entries.map fun e => (Text.toLower (Text.trim e.1), apply context (Text.trim e.2))).filter
          fun e => !e.1.isEmpty) ∧
      mappings (some (.ofLines (ms.map Mapping.line))) =
        mappings (some (.list (ms.map Mapping.item))) ∧
      mappings (some (.list (ms.map Mapping.item))) =
        (ms.map fun m => ⟨Text.trim m.source, Text.trim m.target⟩).filter
          fun m => !m.source.isEmpty && !m.target.isEmpty :=
  ⟨⟨(pairs_ofLines context hentries).trans (pairs_items context entries).symm,
    pairs_items context entries⟩, (mappings_ofLines hms).trans (mappings_items ms).symm,
      mappings_items ms⟩

/-- A value with a separator, a carriage return and a placeholder, a key that is blank, and an arrow
at the second end. -/
theorem blocks_agree_request :
    let context := Context.ofChannel "5511"
    let entries :=
      [("X-Query", " a=b \r"), (" \t", "lost"), ("Phone", "\x7b\x7bcontact.wa_id\x7d\x7d")]
    let ms : List Mapping := [⟨"data.id", "vars.order->id\r"⟩, ⟨" ", "vars.lost"⟩]
    (∀ e ∈ entries, PairFitsLine e) ∧ (∀ m ∈ ms, m.FitsLine) ∧
      pairs context
        (some (.text "X-Query= a=b \r\n \t=lost\nPhone=\x7b\x7bcontact.wa_id\x7d\x7d")) =
        [("x-query", "a=b"), ("phone", "5511")] ∧
      pairs context (some (.list (entries.map pairItem))) =
        [("x-query", "a=b"), ("phone", "5511")] ∧
      mappings (some (.text "data.id -> vars.order->id\r\n  -> vars.lost")) =
        [⟨"data.id", "vars.order->id"⟩] ∧
      mappings (some (.list (ms.map Mapping.item))) = [⟨"data.id", "vars.order->id"⟩] := by
  intro context entries ms
  have hentries : ∀ e ∈ entries, PairFitsLine e := by
    intro e he
    have hplain : '=' ∉ e.1.toList ∧ '\n' ∉ e.1.toList ∧ '\n' ∉ e.2.toList := by
      revert e
      decide +kernel
    exact ⟨⟨hplain.1, hplain.2.1⟩, hplain.2.2⟩
  have hms : ∀ m ∈ ms, m.FitsLine := by
    intro m hm
    have hplain : ¬ ['-', '>'] <:+: m.source.toList ∧ '\n' ∉ m.source.toList ∧
        '\n' ∉ m.target.toList := by
      revert m
      decide +kernel
    exact ⟨⟨hplain.1, hplain.2.1⟩, hplain.2.2⟩
  obtain ⟨⟨hpairs, hused⟩, hmappings, htrimmed⟩ := blocks_agree context entries hentries ms hms
  have hlines : Json.ofLines (entries.map pairLine) =
      .text "X-Query= a=b \r\n \t=lost\nPhone=\x7b\x7bcontact.wa_id\x7d\x7d" := by decide +kernel
  have harrows :
      Json.ofLines (ms.map Mapping.line) = .text "data.id -> vars.order->id\r\n  -> vars.lost" := by
    decide +kernel
  have hresult :
      (entries.map fun e => (Text.toLower (Text.trim e.1), apply context (Text.trim e.2))).filter
      (fun e => !e.1.isEmpty) = [("x-query", "a=b"), ("phone", "5511")] := by decide +kernel
  have hends : (ms.map fun m => (⟨Text.trim m.source, Text.trim m.target⟩ : Mapping)).filter
      (fun m => !m.source.isEmpty && !m.target.isEmpty) = [⟨"data.id", "vars.order->id"⟩] := by
        decide +kernel
  rw [hlines] at hpairs
  rw [harrows] at hmappings
  rw [hresult] at hused
  rw [hends] at htrimmed
  exact ⟨hentries, hms, hpairs.trans hused, hused, hmappings.trans htrimmed, htrimmed⟩

end Template

end ChatFlow
