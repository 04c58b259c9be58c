import ChatFlow.Proofs.LowerCase
import ChatFlow.Proofs.Placeholders
import ChatFlow.Trigger

namespace ChatFlow

variable {node : Node} {keyword text : String}

/-- The node is a trigger of messages by keywords, and the keyword is one of those it lists. -/
structure Node.Lists (node : Node) (keyword : String) : Prop where
  kind : node.kind = .newMessage
  mode : (node.textField? "matchMode").map Text.trim = some "keywords"
  nonempty : Text.trim keyword ≠ ""
  listed :
    (∃ s, node.field? "keywords" = some (.text s) ∧ keyword.toList ∈ Text.pieces ',' s.toList) ∨
    ∃ items, node.field? "keywords" = some (.list items) ∧ Json.text keyword ∈ items

/-- The trigger lets the message through, so that a flow that starts with it accepts the message. -/
def Node.Opens (node : Node) (text : String) : Prop :=
  node.letsThrough text = true ∧ ∀ flow : Flow, node ∈ (Flow.Index.ofFlow flow).starts →
    flow.accepts text = true

theorem Node.opens_of_letsThrough (hkind : node.kind = .newMessage)
    (h : node.letsThrough text = true) :
    node.Opens text := by
  refine ⟨h, fun flow hstart => ?_⟩
  unfold Flow.accepts
  dsimp only
  rw [Bool.or_eq_true]
  right
  rw [List.any_eq_true]
  exact ⟨node, List.mem_filter.mpr ⟨hstart, by rw [hkind]; rfl⟩, h⟩

namespace Trigger

theorem mem_keywords (h : node.Lists keyword) :
    Text.toLower (Text.trim keyword) ∈ keywords (node.field? "keywords") := by
  have hnonempty : Text.toLower (Text.trim keyword) ≠ "" :=
    mt (Text.toLower_eq_empty_iff _).mp h.nonempty
  unfold keywords
  refine List.mem_filter.mpr ⟨List.mem_map.mpr ⟨keyword, ?_, rfl⟩, by simp [hnonempty]⟩
  rcases h.listed with ⟨s, hfield, hpiece⟩ | ⟨items, hfield, hitem⟩
  · rw [hfield]
    exact List.mem_map.mpr ⟨keyword.toList, hpiece, String.ofList_toList⟩
  · rw [hfield]
    exact List.mem_filterMap.mpr ⟨.text keyword, hitem, rfl⟩

/-- Whoever mentions a keyword in lower case is let through. -/
theorem opens_of_infix (h : node.Lists keyword)
    (hfold : (Text.toLower (Text.trim keyword)).toList <:+: (Text.toLower text).toList) :
    node.Opens text := by
  apply Node.opens_of_letsThrough h.kind
  unfold Node.letsThrough
  rw [h.mode]
  unfold hasKeyword
  exact List.any_eq_true.mpr ⟨_, mem_keywords h, Text.contains_iff.mpr hfold⟩

/-- A message is let through if the sigmas of the keyword end words in it where they do in the
keyword by itself. -/
theorem opens_of_sigmas (h : node.Lists keyword) {before after : List Char}
    (htext : text.toList = before ++ (Text.trim keyword).toList ++ after)
    (hsigmas : ∀ front back, (Text.trim keyword).toList = front ++ 'Σ' :: back →
      Text.endsWord (front.reverse ++ before.reverse) (back ++ after) =
        Text.endsWord front.reverse back) :
    node.Opens text := by
  apply opens_of_infix h
  have hpart : Text.lowerWithin before.reverse after (Text.trim keyword).toList =
      Text.lowerWithin [] [] (Text.trim keyword).toList := by
    apply Text.lowerWithin_congr
    intro front c back heq
    by_cases hc : c = 'Σ'
    · subst hc
      rw [Text.lowerAt_sigma, Text.lowerAt_sigma, hsigmas front back heq, List.append_nil,
        List.append_nil]
    · rw [Text.lowerAt_of_ne hc, Text.lowerAt_of_ne hc]
  rw [Text.toLower, Text.toLower, String.toList_ofList, String.toList_ofList, htext,
    List.append_assoc, Text.lowerAfter_append, Text.lowerAfter_append, List.append_nil, hpart,
      ← Text.lowerAfter_eq_lowerWithin]
  exact ⟨_, _, List.append_assoc _ _ _⟩

def single (keyword : String) : Node :=
  ⟨"start", .newMessage, [("keywords", .list [.text keyword]), ("matchMode", .text "keywords")]⟩

theorem lists_single (h : Text.trim keyword ≠ "") : (single keyword).Lists keyword where
  kind := rfl
  mode := rfl
  nonempty := h
  listed := .inr ⟨[.text keyword], rfl, List.mem_singleton_self _⟩

theorem letsThrough_single_iff (h : Text.trim keyword ≠ "") :
    (single keyword).letsThrough text = true ↔
      (Text.toLower (Text.trim keyword)).toList <:+: (Text.toLower text).toList := by
  have hnonempty : Text.toLower (Text.trim keyword) ≠ "" := mt (Text.toLower_eq_empty_iff _).mp h
  have hkeywords :
      keywords (some (.list [.text keyword])) = [Text.toLower (Text.trim keyword)] := by
    simp [keywords, Json.asText?, hnonempty]
  show hasKeyword (some (.list [.text keyword])) text = true ↔ _
  rw [hasKeyword, hkeywords, List.any_cons, List.any_nil, Bool.or_false, Text.contains_iff]

/-- Every message that contains a keyword is let through, and so starts the flows that begin with
the trigger, if and only if no capital sigma of the keyword is exposed at its border. And a keyword
with such a sigma still lets those messages through in which each of its sigmas ends a word if and
only if it does so in the keyword by itself. -/
theorem keywords_found_iff (keyword : String) :
    ((∀ (node : Node) (text : String), node.Lists keyword →
      (Text.trim keyword).toList <:+: text.toList →
        node.Opens text) ↔
      ∀ front back, (Text.trim keyword).toList = front ++ 'Σ' :: back →
        ¬ Text.Exposed front.reverse back) ∧
    ∀ (node : Node) (text : String) (before after : List Char), node.Lists keyword →
      text.toList = before ++ (Text.trim keyword).toList ++ after →
      (∀ front back, (Text.trim keyword).toList = front ++ 'Σ' :: back →
        Text.endsWord (front.reverse ++ before.reverse) (back ++ after) =
          Text.endsWord front.reverse back) →
      node.Opens text := by
  refine ⟨⟨?_, ?_⟩, fun _ _ _ _ hlists htext hsigmas => opens_of_sigmas hlists htext hsigmas⟩
  · intro hall front back heq hexposed
    obtain ⟨before, after, hnot⟩ := Text.exists_not_infix_of_exposed heq hexposed
    have hnonempty : Text.trim keyword ≠ "" := by
      intro hempty
      rw [hempty] at heq
      exact absurd heq (by simp)
    have hopens := hall (single keyword) (.ofList (before ++ (Text.trim keyword).toList ++ after))
      (lists_single hnonempty) ⟨before, after, by rw [String.toList_ofList]⟩
    have hpart := (letsThrough_single_iff hnonempty).mp hopens.1
    rw [Text.toLower, Text.toLower, String.toList_ofList, String.toList_ofList,
      String.toList_ofList] at hpart
    exact hnot hpart
  · rintro hsettled node text hlists ⟨before, after, htext⟩
    exact opens_of_sigmas hlists htext.symm fun front back heq =>
      Text.endsWord_append_of_not_exposed (hsettled front back heq) before.reverse after

/-- Words for which a shop opens, the second one with a blank before it. -/
def words : Node :=
  ⟨"start", .newMessage, [("keywords", .text "price, ΣΟΦΙΑ"), ("matchMode", .text " keywords")]⟩

/-- A sigma with letters behind it ends no word, whatever stands before it. -/
theorem keywords_found_iff_wisdom : words.Lists " ΣΟΦΙΑ" ∧ words.Opens "Η ΣΟΦΙΑ;" := by
  have hlists : words.Lists " ΣΟΦΙΑ" :=
    ⟨rfl, by decide +kernel, by decide +kernel, .inl ⟨_, rfl, by decide +kernel⟩⟩
  refine ⟨hlists, (keywords_found_iff " ΣΟΦΙΑ").1.mpr ?_ words "Η ΣΟΦΙΑ;" hlists ?_⟩
  · intro front back heq
    have hletters : (Text.trim " ΣΟΦΙΑ").toList = ['Σ', 'Ο', 'Φ', 'Ι', 'Α'] := by decide +kernel
    rw [hletters] at heq
    cases front with
    | nil =>
      obtain rfl := (List.cons.inj heq).2
      decide +kernel
    | cons c front =>
      have hback : 'Σ' ∈ ['Ο', 'Φ', 'Ι', 'Α'] := by
        rw [(List.cons.inj heq).2]
        simp
      exact absurd hback (by decide)
  · exact ⟨['Η', ' '], [';'], by decide +kernel⟩

/-- The keyword for a street is not found in the word for its surface. -/
theorem not_found_street :
    (single "ΔΡΟΜΟΣ").Lists "ΔΡΟΜΟΣ" ∧ "ΔΡΟΜΟΣ".toList <:+: "ΔΡΟΜΟΣΤΡΩΜΑ".toList ∧
      (single "ΔΡΟΜΟΣ").letsThrough "ΔΡΟΜΟΣΤΡΩΜΑ" = false := by
  refine ⟨lists_single (by decide +kernel),
    ⟨[], "ΤΡΩΜΑ".toList, by decide +kernel⟩, by decide +kernel⟩

end Trigger

end ChatFlow
