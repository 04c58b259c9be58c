import ChatFlow.Proofs.History
import ChatFlow.Proofs.Interleaving
import Mathlib.Data.List.Induction

namespace ChatFlow

open World

structure Letter where
  botId : String
  conversationId : String
  text : String
  extra : Option Json

namespace Letter

inductive Stage
  | arriving
  /-- to ask who is in charge -/
  | reading (now : Instant)
  /-- to be written down, and whether a human was in charge -/
  | appending (now : Instant) (takenOver : Bool)
  | touching (now : Instant)
  /-- to say that the bot is in charge -/
  | freeing (now : Instant)
  /-- to look for the flow -/
  | choosing
  /-- on the way through the flow, which first waits for its lock -/
  | running (rest : Activity Dispatch.Result)
  /-- at an end without a flow -/
  | finished (r : Dispatch.Result)

def Stage.isStale : Stage → Bool
  | appending _ takenOver => !takenOver
  | freeing _ => true
  | _ => false

/-- It was not asked who is in charge, or a human was, or the end came without a flow. -/
def Stage.isHeedful : Stage → Bool
  | arriving | reading _ | touching _ | finished _ => true
  | appending _ takenOver => takenOver
  | freeing _ | choosing | running _ => false

structure Place where
  letter : Letter
  stage : Stage

def activity (settings : Settings) (letter : Letter) : Activity Dispatch.Result :=
  Dispatch.message settings letter.botId letter.conversationId letter.text letter.extra

def start (letter : Letter) : Place := ⟨letter, .arriving⟩

namespace Place

def goOn (p : Place) (stage : Stage) : Place := { p with stage }

def answered {α : Type} (p : Place) (stage : α → Stage) : Except Failure α → Place
  | .error f => p.goOn (.finished (Dispatch.failed f))
  | .ok a => p.goOn (stage a)

def choose (settings : Settings) (p : Place) : Option ActiveFlow → Place
  | none => p.goOn (.finished Dispatch.noRun)
  | some active =>
    if active.flow.accepts p.letter.text then
      p.goOn (.running (Dispatch.runFlow settings p.letter.botId p.letter.conversationId active
        (.newMessage p.letter.text)
          (Dispatch.messageContext p.letter.conversationId p.letter.extra)))
    else p.goOn (.finished Dispatch.noRun)

def view (settings : Settings) (p : Place) : Move Place Dispatch.Result :=
  let id := p.letter.conversationId
  match p.stage with
  | .arriving => .ask .now fun now => p.goOn (.reading now)
  | .reading now =>
    .ask (.getConversation id) <| p.answered fun found =>
      .appending now (found.any (·.status? == some .humanTakeover))
  | .appending now takenOver =>
    .ask (.append id (.incoming p.letter.text now p.letter.extra)) <| p.answered fun _ =>
      if takenOver then .touching now else .freeing now
  | .touching now => .ask (.touch id now) <| p.answered fun _ => .finished Dispatch.noRun
  | .freeing now => .ask (.setStatus id .active now) <| p.answered fun _ => .choosing
  | .choosing => .ask (.activeFlow p.letter.botId) (p.choose settings)
  | .running (.call c next) => .ask c fun answer => p.goOn (.running (next answer))
  | .running (.done r) | .finished r => .rest r

end Place

open Crowd (Follows)

variable {settings : Settings} {letter : Letter}

theorem follows_finished (r : Dispatch.Result) :
    Follows (Place.view settings) ⟨letter, .finished r⟩ (.done r) := .rest rfl

theorem follows_running (rest : Activity Dispatch.Result) :
    Follows (Place.view settings) ⟨letter, .running rest⟩ rest := by
  induction rest with
  | done r => exact .rest rfl
  | call c next ih => exact .ask rfl ih

theorem follows_activity (settings : Settings) (letter : Letter) :
    Follows (Place.view settings) letter.start (letter.activity settings) := by
  refine .ask rfl fun now => .ask rfl fun found => ?_
  cases found with
  | error f => exact follows_finished _
  | ok found =>
    refine .ask rfl fun appended => ?_
    cases appended with
    | error f => exact follows_finished _
    | ok _ =>
      simp only [Activity.done_bind, Place.answered, Place.goOn]
      split
      · refine .ask rfl fun touched => ?_
        cases touched <;> exact follows_finished _
      · refine .ask rfl fun set => ?_
        cases set with
        | error f => exact follows_finished _
        | ok _ =>
          refine .ask rfl fun active? => ?_
          cases active? with
          | none => exact follows_finished _
          | some active =>
            by_cases haccepts : active.flow.accepts letter.text = true
            · simp only [Activity.done_bind, Place.answered, Place.choose, Place.goOn, start,
                haccepts, if_true]
              exact follows_running _
            · simp only [Activity.done_bind, Place.answered, Place.choose, Place.goOn, start,
                haccepts]
              exact follows_finished _

namespace Place

variable {p : Place} {id : String}

/-- The message found the bot in charge of the conversation, and is yet to say so itself. -/
def Stale (id : String) (p : Place) : Prop :=
  p.letter.conversationId = id ∧ p.stage.isStale = true

/-- If it is for the conversation, the message has not asked who is in charge of it, or has found a
human, or is at an end without a flow. -/
def Heedful (id : String) (p : Place) : Prop :=
  p.letter.conversationId = id → p.stage.isHeedful = true

instance : Decidable (p.Stale id) := inferInstanceAs (Decidable (_ ∧ _))

instance : Decidable (p.Heedful id) := inferInstanceAs (Decidable (_ → _))

def Proper (p : Place) : Prop := ∀ rest, p.stage = .running rest →
    rest.Only Call.ByBot fun _ => True

variable {c : Call} {next : c.Answer → Place}

theorem choose_cases (settings : Settings) (p : Place) (active? : Option ActiveFlow) :
    (∃ r, p.choose settings active? = p.goOn (.finished r)) ∨
      ∃ rest : Activity Dispatch.Result, p.choose settings active? = p.goOn (.running rest) ∧
        rest.Only Call.ByBot fun _ => True := by
  cases active? with
  | none => exact .inl ⟨_, rfl⟩
  | some active =>
    by_cases haccepts : active.flow.accepts p.letter.text = true
    · exact .inr ⟨_, if_pos haccepts, Dispatch.runFlow_only_byBot _ _ active _ _⟩
    · exact .inl ⟨_, if_neg haccepts⟩

theorem letter_of_view (hview : p.view settings = .ask c next) (answer : c.Answer) :
    (next answer).letter = p.letter := by
  obtain ⟨letter, stage⟩ := p
  cases stage with
  | running rest =>
    cases rest with
    | done r => cases hview
    | call c' next' =>
      cases hview
      rfl
  | finished r => cases hview
  | choosing =>
    cases hview
    rcases choose_cases settings ⟨letter, .choosing⟩ answer with ⟨r, hr⟩ | ⟨rest, hrest, -⟩
    · rw [hr]
      rfl
    · rw [hrest]
      rfl
  | arriving =>
    cases hview
    rfl
  | _ =>
    cases hview
    cases answer <;> rfl

theorem Proper.of_view (hproper : p.Proper) (hview : p.view settings = .ask c next)
    (answer : c.Answer) :
    (next answer).Proper := by
  intro rest hrest
  obtain ⟨letter, stage⟩ := p
  cases stage with
  | running course =>
    cases course with
    | done r => cases hview
    | call c' next' =>
      cases hview
      cases hrest
      exact (hproper _ rfl).2 answer
  | finished r => cases hview
  | choosing =>
    cases hview
    rcases choose_cases settings ⟨letter, .choosing⟩ answer with ⟨r, hr⟩ | ⟨rest', hrest', honly⟩
    · rw [hr] at hrest
      cases hrest
    · rw [hrest'] at hrest
      cases hrest
      exact honly
  | arriving =>
    cases hview
    cases hrest
  | appending now takenOver =>
    cases hview
    cases answer with
    | error f => cases hrest
    | ok _ => cases takenOver <;> cases hrest
  | _ =>
    cases hview
    cases answer <;> cases hrest

/-- A message takes the conversation from a human only where it says that the bot is in charge. -/
theorem retains_or_freeing (hproper : p.Proper) (hview : p.view settings = .ask c next)
    (id : String) :
    c.Retains id ∨
      p.letter.conversationId = id ∧ ∃ now, p.stage = .freeing now ∧
        c = .setStatus id .active now := by
  obtain ⟨letter, stage⟩ := p
  cases stage with
  | running course =>
    cases course with
    | done r => cases hview
    | call c' next' =>
      cases hview
      exact .inl ((hproper _ rfl).1.retains id)
  | finished r => cases hview
  | freeing now =>
    cases hview
    by_cases hid : letter.conversationId = id
    · exact .inr ⟨hid, now, rfl, by rw [hid]⟩
    · exact .inl fun heq => absurd heq hid
  | _ =>
    cases hview
    exact .inl trivial

end Place

def Taken (id : String) (crowd : Crowd Place) : Prop :=
  crowd.world.conversations.status? id = some .humanTakeover

/-- In the turn a message says that the bot is in charge of the conversation. -/
def Frees (id : String) (crowd : Crowd Place) (e : Crowd.Event) : Prop :=
  ∃ i p now, e = .turn i ∧ crowd.places[i]? = some p ∧ p.letter.conversationId = id ∧
    p.stage = .freeing now ∧
    crowd.world.failing.contains .setStatus = false

def Proper (crowd : Crowd Place) : Prop := ∀ (i : Nat) (p : Place), crowd.places[i]? = some p →
    p.Proper

variable {crowd : Crowd Place} {id : String}

theorem proper_step (h : Proper crowd) (e : Crowd.Event) :
    Proper (crowd.step (Place.view settings) e) := by
  have hstep := Crowd.stepped_step (Place.view settings) crowd e
  generalize crowd.step (Place.view settings) e = crowd' at hstep ⊢
  intro j p hp
  cases hstep with
  | idle i => exact h j p hp
  | clock t => exact h j p hp
  | wait hplace hview hanswer => exact h j p hp
  | go hplace hview hanswer =>
    rcases Crowd.getElem?_set_cases hp with ⟨rfl, rfl⟩ | ⟨-, hother⟩
    · exact (h _ _ hplace).of_view hview _
    · exact h j p hother

theorem status?_of_frees {e : Crowd.Event} (h : Frees id crowd e) :
    (crowd.step (Place.view settings) e).world.conversations.status? id = some .active := by
  obtain ⟨i, p, now, rfl, hplace, hid, hstage, hfailing⟩ := h
  have hview :
      p.view settings = .ask (.setStatus id .active now) (p.answered fun _ => .choosing) := by
    rw [Place.view, hstage, hid]
  have hanswer : crowd.world.answer (.setStatus id .active now) = (some (.ok ()),
      { crowd.world with conversations := crowd.world.conversations.setStatus id .active now }) :=
    if_neg (by rw [hfailing]; decide)
  rw [Crowd.step_turn hplace hview (congrArg Prod.fst hanswer), hanswer]
  show (crowd.world.conversations.setStatus id .active now).status? id = some .active
  rw [ConversationStore.status?_setStatus, if_pos rfl]

theorem status?_answer {w : World} (h : w.conversations.status? id = some .humanTakeover) {c : Call}
    (hc : c.Retains id) : (w.answer c).2.conversations.status? id = some .humanTakeover := by
  rcases (wrote_answer w c).conversations with hsame | hwrite
  · rw [hsame]
    exact h
  · rw [hwrite]
    exact hc.status?_write h

/-- Of all that can happen, only that takes the conversation from the human. -/
theorem taken_step_iff (hproper : Proper crowd) (h : Taken id crowd) (e : Crowd.Event) :
    Taken id (crowd.step (Place.view settings) e) ↔ ¬ Frees id crowd e := by
  constructor
  · intro htaken hfrees
    unfold Taken at htaken
    rw [status?_of_frees hfrees] at htaken
    cases htaken
  · intro hfrees
    have hcall : ∀ {i : Nat} {p : Place} {c : Call} {next : c.Answer → Place}, e = .turn i →
        crowd.places[i]? = some p → p.view settings = .ask c next →
          (crowd.world.answer c).2.conversations.status? id = some .humanTakeover := by
      intro i p c next he hplace hview
      rcases Place.retains_or_freeing (hproper i p hplace) hview id with hretains |
        ⟨hid, now, hstage, rfl⟩
      · exact status?_answer h hretains
      · -- the store is out of service, and nothing is written
        cases hfailing : crowd.world.failing.contains .setStatus with
        | false => exact absurd ⟨i, p, now, he, hplace, hid, hstage, hfailing⟩ hfrees
        | true =>
          have hanswer : crowd.world.answer (.setStatus id .active now) =
              (some (.error (.unavailable "set_status")), crowd.world) := if_pos hfailing
          rw [hanswer]
          exact h
    have hstep := Crowd.stepped_step (Place.view settings) crowd e
    generalize crowd.step (Place.view settings) e = crowd' at hstep ⊢
    cases hstep with
    | idle i => exact h
    | clock t => exact h
    | wait hplace hview hanswer => exact hcall rfl hplace hview
    | go hplace hview hanswer => exact hcall rfl hplace hview

theorem proper_after (h : Proper crowd) (events : List Crowd.Event) :
    Proper (crowd.after (Place.view settings) events) :=
  Crowd.after_induction (I := Proper) (fun _ e hcrowd => proper_step hcrowd e) h events

/-- A human keeps the conversation just as long as no message says that the bot is in charge. -/
theorem taken_throughout_iff (hproper : Proper crowd) (h : Taken id crowd)
    (later : List Crowd.Event) :
    (∀ soon, soon <+: later → Taken id (crowd.after (Place.view settings) soon)) ↔
      ∀ soon e, soon ++ [e] <+: later → ¬ Frees id (crowd.after (Place.view settings) soon) e := by
  constructor
  · intro htaken soon e hsoon
    have hbefore := htaken soon ((List.prefix_append _ _).trans hsoon)
    have hbehind := htaken _ hsoon
    rw [Crowd.after_concat] at hbehind
    exact (taken_step_iff (proper_after hproper soon) hbefore e).mp hbehind
  · intro hfrees soon
    -- one event after the other
    induction soon using List.reverseRecOn with
    | nil => exact fun _ => h
    | append_singleton soon e ih =>
      intro hsoon
      rw [Crowd.after_concat]
      apply (taken_step_iff (proper_after hproper soon)
        (ih ((List.prefix_append _ _).trans hsoon)) e).mpr
      exact hfrees soon e hsoon

/-- A message that asks while a human has the conversation finds that out. -/
theorem takenOver_of_answer {w : World} (h : w.conversations.status? id = some .humanTakeover)
    {found : Option Conversation}
    (hanswer : (w.answer (.getConversation id)).1 = some (.ok found)) :
    found.any (·.status? == some .humanTakeover) = true := by
  have hget : w.conversations.get? id = .ok found := by
    change (w.serve .get (w.conversations.get? id, w)).1 = some (.ok found) at hanswer
    unfold World.serve at hanswer
    split at hanswer
    · cases hanswer
    · exact Option.some.inj hanswer
  have hstatus := ConversationStore.status?_of_get? hget
  rw [h] at hstatus
  obtain ⟨conversation, rfl, hconversation⟩ := Option.bind_eq_some_iff.mp hstatus
  simp [hconversation]

namespace Place

variable {p : Place} {w : World} {c : Call} {next : c.Answer → Place} {answer : c.Answer}

theorem Heedful.of_view (hp : p.Heedful id) (hview : p.view settings = .ask c next)
    (htaken : w.conversations.status? id = some .humanTakeover)
    (hanswer : (w.answer c).1 = some answer) :
    (next answer).Heedful id := by
  intro hid
  rw [letter_of_view hview] at hid
  have hp := hp hid
  obtain ⟨letter, stage⟩ := p
  cases stage with
  | arriving =>
    cases hview
    rfl
  | reading now =>
    cases hview
    cases answer with
    | error f => rfl
    | ok found => exact takenOver_of_answer htaken (hid ▸ hanswer)
  | appending now takenOver =>
    cases hview
    have htakenOver : takenOver = true := hp
    subst htakenOver
    cases answer <;> rfl
  | touching now =>
    cases hview
    cases answer <;> rfl
  | finished r => cases hview
  | _ => cases hp

theorem stale_of_view (hview : p.view settings = .ask c next)
    (htaken : w.conversations.status? id = some .humanTakeover)
    (hanswer : (w.answer c).1 = some answer) (hstale : (next answer).Stale id) : p.Stale id := by
  obtain ⟨hid, hstage⟩ := hstale
  rw [letter_of_view hview] at hid
  refine ⟨hid, ?_⟩
  obtain ⟨letter, stage⟩ := p
  cases stage with
  | reading now =>
    cases hview
    cases answer with
    | error f => cases hstage
    | ok found =>
      have hfound : found.any (·.status? == some .humanTakeover) = true :=
        takenOver_of_answer htaken (hid ▸ hanswer)
      simp [answered, goOn, Stage.isStale, hfound] at hstage
  | appending now takenOver =>
    cases takenOver with
    | false => rfl
    | true =>
      cases hview
      cases answer <;> cases hstage
  | freeing now => rfl
  | choosing =>
    cases hview
    rcases choose_cases settings ⟨letter, .choosing⟩ answer with ⟨r, hr⟩ | ⟨rest, hrest, -⟩
    · rw [hr] at hstage
      cases hstage
    · rw [hrest] at hstage
      cases hstage
  | running rest =>
    cases rest with
    | done r => cases hview
    | call c' next' =>
      cases hview
      cases hstage
  | finished r => cases hview
  | arriving =>
    cases hview
    cases hstage
  | touching now =>
    cases hview
    cases answer <;> cases hstage

end Place

/-- A message that has not asked, or found a human, goes on like that. -/
theorem heedful_step (h : Taken id crowd) (e : Crowd.Event) {i : Nat} {p : Place}
    (hplace : crowd.places[i]? = some p) (hp : p.Heedful id) :
    ∃ p' : Place, (crowd.step (Place.view settings) e).places[i]? = some p' ∧ p'.letter = p.letter ∧
      p'.Heedful id := by
  have hstep := Crowd.stepped_step (Place.view settings) crowd e
  generalize crowd.step (Place.view settings) e = crowd' at hstep ⊢
  cases hstep with
  | idle j => exact ⟨p, hplace, rfl, hp⟩
  | clock t => exact ⟨p, hplace, rfl, hp⟩
  | wait hturn hview hanswer => exact ⟨p, hplace, rfl, hp⟩
  | @go j q c next answer hturn hview hanswer =>
    by_cases hij : j = i
    · subst hij
      rw [hplace] at hturn
      cases hturn
      refine ⟨next answer, ?_, Place.letter_of_view hview answer, hp.of_view hview h hanswer⟩
      exact List.getElem?_set_self (List.getElem?_eq_some_iff.mp hplace).1
    · exact ⟨p, (List.getElem?_set_ne hij).trans hplace, rfl, hp⟩

theorem heedful_after {later : List Crowd.Event}
    (htaken : ∀ soon, soon <+: later → Taken id (crowd.after (Place.view settings) soon)) {i : Nat}
    {p : Place} (hplace : crowd.places[i]? = some p) (hp : p.Heedful id) :
    ∃ p' : Place, (crowd.after (Place.view settings) later).places[i]? = some p' ∧
      p'.letter = p.letter ∧
      p'.Heedful id := by
  induction later using List.reverseRecOn with
  | nil => exact ⟨p, hplace, rfl, hp⟩
  | append_singleton later e ih =>
    have hbefore : ∀ soon, soon <+: later → Taken id (crowd.after (Place.view settings) soon) :=
      fun soon hsoon => htaken soon (hsoon.trans (List.prefix_append _ _))
    obtain ⟨p₁, hplace₁, hletter₁, hp₁⟩ := ih hbefore
    obtain ⟨p₂, hplace₂, hletter₂, hp₂⟩ :=
      heedful_step (hbefore later (List.prefix_refl _)) e hplace₁ hp₁
    rw [Crowd.after_concat]
    exact ⟨p₂, hplace₂, hletter₂.trans hletter₁, hp₂⟩

/-- No message is between its question and its word, so none takes the conversation. -/
theorem not_frees_of_not_stale (h : ∀ p ∈ crowd.places, ¬ p.Stale id) (e : Crowd.Event) :
    ¬ Frees id crowd e := by
  rintro ⟨i, p, now, -, hplace, hid, hstage, -⟩
  refine h p (List.mem_of_getElem? hplace) ⟨hid, ?_⟩
  rw [hstage]
  rfl

theorem not_stale_step (htaken : Taken id crowd) (h : ∀ p ∈ crowd.places, ¬ p.Stale id)
    (e : Crowd.Event) :
    ∀ p ∈ (crowd.step (Place.view settings) e).places, ¬ p.Stale id := by
  have hstep := Crowd.stepped_step (Place.view settings) crowd e
  generalize crowd.step (Place.view settings) e = crowd' at hstep ⊢
  cases hstep with
  | idle j => exact h
  | clock t => exact h
  | wait hturn hview hanswer => exact h
  | go hturn hview hanswer =>
    intro p hp hstale
    rcases List.mem_or_eq_of_mem_set hp with hp | rfl
    · exact h p hp hstale
    · exact h _ (List.mem_of_getElem? hturn) (Place.stale_of_view hview htaken hanswer hstale)

theorem taken_of_not_stale (hproper : Proper crowd) (htaken : Taken id crowd)
    (h : ∀ p ∈ crowd.places, ¬ p.Stale id) (later : List Crowd.Event) :
    Taken id (crowd.after (Place.view settings) later) := by
  have hboth : Proper (crowd.after (Place.view settings) later) ∧
      Taken id (crowd.after (Place.view settings) later) ∧
      ∀ p ∈ (crowd.after (Place.view settings) later).places, ¬ p.Stale id := by
    refine Crowd.after_induction
      (I := fun crowd => Proper crowd ∧ Taken id crowd ∧ ∀ p ∈ crowd.places, ¬ p.Stale id)
      ?_ ⟨hproper, htaken, h⟩ later
    rintro crowd e ⟨hproper, htaken, h⟩
    exact ⟨proper_step hproper e,
      (taken_step_iff hproper htaken e).mpr (not_frees_of_not_stale h e), not_stale_step htaken h e⟩
  exact hboth.2.1

theorem proper_start (w : World) (letters : List Letter) : Proper ⟨w, letters.map start⟩ := by
  intro i p hp rest hrest
  obtain ⟨letter, -, rfl⟩ := List.mem_map.mp (List.mem_of_getElem? hp)
  cases hrest

theorem follows_start (settings : Settings) (letters : List Letter) :
    List.Forall₂ (Follows (Place.view settings)) (letters.map start)
      (letters.map (activity settings)) := by
  rw [List.forall₂_map_left_iff, List.forall₂_map_right_iff, List.forall₂_same]
  exact fun letter _ => follows_activity settings letter

/-- Messages are taken in at the same time, and by now a human has a conversation. The human keeps
it just as long as no message says that the bot is in charge; if none has found the bot in charge
and is yet to say so, that is for good. As long as the human keeps it, a message for the
conversation that had not asked yet, or had found a human, does not get to the flow. -/
theorem taken_after_iff (settings : Settings) (w : World) (letters : List Letter) (id : String)
    (earlier later : List Crowd.Event)
    (h : Taken id ((Crowd.mk w (letters.map start)).after (Place.view settings) earlier)) :
    let crowd := (Crowd.mk w (letters.map start)).after (Place.view settings) earlier
    (crowd.after (Place.view settings) later).world =
        ((Crowd.mk w (letters.map (activity settings))).after Activity.view
          (earlier ++ later)).world ∧
      ((∀ soon, soon <+: later → Taken id (crowd.after (Place.view settings) soon)) ↔
        ∀ soon e, soon ++ [e] <+: later → ¬ Frees id (crowd.after (Place.view settings) soon) e) ∧
      ((∀ p ∈ crowd.places, ¬ p.Stale id) →
        ∀ soon, soon <+: later → Taken id (crowd.after (Place.view settings) soon)) ∧
      ((∀ soon, soon <+: later → Taken id (crowd.after (Place.view settings) soon)) →
        ∀ (i : Nat) (p : Place), crowd.places[i]? = some p → p.Heedful id →
          ∃ p' : Place, (crowd.after (Place.view settings) later).places[i]? = some p' ∧
            p'.letter = p.letter ∧
            p'.Heedful id) := by
  intro crowd
  have hproper : Proper crowd := proper_after (proper_start w letters) earlier
  refine ⟨?_, taken_throughout_iff hproper h later, ?_, ?_⟩
  · rw [← Crowd.after_append]
    exact Crowd.world_after_eq (follows_start settings letters) _
  · intro hstale soon _
    exact taken_of_not_stale hproper h hstale soon
  · intro htaken i p hplace hp
    exact heedful_after htaken hplace hp

def handOver : Flow where
  nodes :=
    [⟨"start", .newMessage, []⟩, ⟨"say", .sendMessage, [("text", .text "One moment, please.")]⟩,
    ⟨"agent", .humanTakeover, []⟩]
  edges := [⟨none, "start", "say", none⟩, ⟨none, "say", "agent", none⟩]

def attended : World :=
  { World.start ⟨1893488400, 0⟩ (.memory []) (.memory []) ⟨1⟩ with
    registry := Registry.empty.install "bot" (.ofFlow "v1" handOver) }

def twice : List Letter := [⟨"bot", "5511", "hi", none⟩, ⟨"bot", "5511", "hello", none⟩]

/-- The second message comes when a human has the conversation, and is only written down. -/
theorem taken_after_second :
    let crowd := (Crowd.mk attended (twice.map start)).after (Place.view ⟨.strict, 10, 15000⟩)
      (List.replicate 14 (.turn 0))
    Taken "5511" crowd ∧ (∀ p ∈ crowd.places, ¬ p.Stale "5511") ∧
      Taken "5511"
        (crowd.after (Place.view ⟨.strict, 10, 15000⟩) (List.replicate 5 (.turn 1))) := by
  intro crowd
  have htaken : Taken "5511" crowd := by
    unfold Taken
    decide +kernel
  have hstale : ∀ p ∈ crowd.places, ¬ p.Stale "5511" := by decide +kernel
  exact ⟨htaken, hstale,
    (taken_after_iff ⟨.strict, 10, 15000⟩ attended twice "5511" (List.replicate 14 (.turn 0))
    (List.replicate 5 (.turn 1)) htaken).2.2.1 hstale _ (List.prefix_refl _)⟩

/-- The second message asks who is in charge before the first one has the flow hand the conversation
over. So it takes the conversation from the human, and the bot speaks again. -/
theorem not_taken_after_crossing :
    let crowd := (Crowd.mk attended (twice.map (activity ⟨.strict, 10, 15000⟩))).after Activity.view
      (List.replicate 2 (.turn 1) ++ List.replicate 14 (.turn 0))
    crowd.world.conversations.status? "5511" = some .humanTakeover ∧
      crowd.world.conversations.outgoing "5511" = [("text", "One moment, please.")] ∧
      (crowd.after Activity.view (List.replicate 7 (.turn 1))).world.conversations.status? "5511" =
        some .active ∧
      (crowd.after Activity.view (List.replicate 7 (.turn 1))).world.conversations.outgoing "5511" =
        [("text", "One moment, please."), ("text", "One moment, please.")] := by
  decide +kernel

end Letter

end ChatFlow
