import Mathlib.Data.List.Basic
import TaxLiability.Machinery.Machine

/-!
# Web/TaxpayerChat — a chat for each taxpayer in memory, one list for all of them in storage

    submit ──▸ useChat, by `taxpayer-${id}` ──onFinish──▸ useTaxpayerChatStore ──▸ localStorage
                     ▴    lost at a reload                   one list, answers only   │
                     └──────── initialMessages, where there is no chat yet ◂──────────┘

What seeds a chat is the answers of every chat, and no questions.  It is the completed turns of its
own taxpayer exactly along the runs in which no chat is seeded with anything
(`chats_scoped_iff`).
-/

open Machine

namespace Web

/-! ## The chat library -/

inductive Role
  | system | user | assistant | data
  deriving DecidableEq, Repr

structure Message where
  id : String
  role : Role
  content : String
  deriving DecidableEq, Repr

/-- **`useChat`**: what it shows for an id it has in memory or has not, what it sends when the user
submits and regenerates, and what it shows as the reply comes in. -/
structure UseChat where
  shown : Option (List Message) → List Message → List Message
  submitted : List Message → Message → List Message
  regenerated : List Message → Option (List Message)
  replied : List Message → Message → List Message

/-- **What the panel relies on**: `initialMessages` count the first time an id is used, and no
message is made up. -/
structure UseChat.Documented (useChat : UseChat) : Prop where
  seeds : ∀ initialMessages, useChat.shown none initialMessages = initialMessages
  keeps : ∀ messages initialMessages, useChat.shown (some messages) initialMessages = messages
  submits : ∀ messages message, useChat.submitted messages message ⊆ message :: messages
  regenerates : ∀ messages, ∀ sent ∈ useChat.regenerated messages, sent ⊆ messages
  replies : ∀ sent answer, useChat.replied sent answer ⊆ answer :: sent

/-! ## The app -/

/-- A request in flight: what was sent, and the user's message it is to answer. -/
structure Request where
  messages : List Message
  asked : Option Message

/-- What `useChat` keeps in memory under an id. -/
structure Chat where
  messages : List Message
  pending : Option Request

/-- The `id` the panel gives `useChat`. -/
def chatId (taxpayer : String) : String := "taxpayer-" ++ taxpayer

/-- **The app**: the taxpayer whose chat is open, the persisted store, in memory and in
`localStorage`, and the chats; then what was sent for each taxpayer's chat, what was written in it,
and its completed turns. -/
structure TaxpayerChat where
  panel : Option String
  messages : List Message
  stored : List Message
  chats : String → Option Chat
  sent : List (String × List Message)
  written : String → List Message
  completed : String → List (Message × Message)

/-- What the user does, and what comes back. -/
inductive Event
  /-- the route of the taxpayer's chat is entered, from another page or another chat -/
  | openChat (taxpayer : String)
  | leave
  | submit (id content : String)
  /-- a part of the reply to a chat's request comes in -/
  | stream (taxpayer id content : String)
  /-- the finish frame of a reply; `localStorage` takes the store or throws -/
  | finish (taxpayer id content : String) (takes : Bool)
  /-- the user stops, and the request of this chat is aborted -/
  | stop (taxpayer : String)
  | fail (taxpayer : String)
  | regenerate
  /-- the page reloads, and `localStorage` can be read or throws -/
  | reload (reads : Bool)
  deriving DecidableEq, Repr

/-- The white space and line terminators that `trim` takes off. -/
def isTrimmed (c : Char) : Bool :=
  c.toNat ∈ [0x09, 0x0A, 0x0B, 0x0C, 0x0D, 0x20, 0xA0, 0x1680, 0x2028, 0x2029, 0x202F, 0x205F,
    0x3000, 0xFEFF] ∨ 0x2000 ≤ c.toNat ∧ c.toNat ≤ 0x200A

/-- `input.trim() === ''` -/
def isBlank (input : String) : Bool := input.toList.all isTrimmed

/-- A turn completes; a regenerated answer takes the place of the one before. -/
def complete (turns : List (Message × Message)) (asked : Option Message) (answer : Message) :
    List (Message × Message) :=
  match asked with
  | none => turns
  | some question =>
    (if turns.getLast?.map Prod.fst = some question then turns.dropLast else turns)
      ++ [(question, answer)]

/-- **The messages of completed turns**, in order. -/
def transcript (turns : List (Message × Message)) : List Message :=
  turns.flatMap fun turn => [turn.1, turn.2]

namespace TaxpayerChat

def start : TaxpayerChat := ⟨none, [], [], fun _ => none, [], fun _ => [], fun _ => []⟩

/-- Write a message in a taxpayer's chat. -/
def write (s : TaxpayerChat) (taxpayer : String) (message : Message) : TaxpayerChat :=
  { s with written := Function.update s.written taxpayer (message :: s.written taxpayer) }

/-- Put a chat in memory. -/
def put (s : TaxpayerChat) (taxpayer : String) (chat : Chat) : TaxpayerChat :=
  { s with chats := Function.update s.chats (chatId taxpayer) (some chat) }

/-- `isLoading` -/
def isLoading (s : TaxpayerChat) (taxpayer : String) : Bool :=
  (s.chats (chatId taxpayer)).any fun chat => chat.pending.isSome

/-- The messages go to `/api/chat`. -/
def triggerRequest (s : TaxpayerChat) (taxpayer : String) (messages : List Message)
    (asked : Option Message) : TaxpayerChat :=
  { s.put taxpayer ⟨messages, some ⟨messages, asked⟩⟩ with sent := (taxpayer, messages) :: s.sent }

/-- **`onFinish`**, which is `appendAssistantMessage`. -/
def appendAssistantMessage (s : TaxpayerChat) (message : Message) (takes : Bool) : TaxpayerChat :=
  { s with
    messages := s.messages ++ [message]
    stored := if takes then s.messages ++ [message] else s.stored }

/-- What the persisted store starts from after a reload. -/
def rehydrated (s : TaxpayerChat) (reads : Bool) : List Message := if reads then s.stored else []

variable (useChat : UseChat)

/-- **The messages `TaxpayerChatPanel` shows** for a taxpayer. -/
def shown (s : TaxpayerChat) (taxpayer : String) : List Message :=
  useChat.shown ((s.chats (chatId taxpayer)).map Chat.messages) s.messages

/-- The request of a chat, if one is in flight. -/
def pending (s : TaxpayerChat) (taxpayer : String) : Option Request :=
  (s.chats (chatId taxpayer)).bind Chat.pending

/-- **One event.** -/
def step (s : TaxpayerChat) : Event → Option TaxpayerChat
  | .openChat taxpayer => some { s with panel := some taxpayer }
  | .leave => some { s with panel := none }
  | .submit id content =>
    match s.panel with
    | some taxpayer =>
      let message : Message := ⟨id, .user, content⟩
      if s.isLoading taxpayer = false ∧ isBlank content = false then
        some ((s.write taxpayer message).triggerRequest taxpayer
          (useChat.submitted (s.shown useChat taxpayer) message) (some message))
      else none
    | none => none
  | .stream taxpayer id content =>
    match s.pending taxpayer with
    | some request =>
      let answer : Message := ⟨id, .assistant, content⟩
      some ((s.write taxpayer answer).put taxpayer
        ⟨useChat.replied request.messages answer, some request⟩)
    | none => none
  | .finish taxpayer id content takes =>
    match s.pending taxpayer with
    | some request =>
      let answer : Message := ⟨id, .assistant, content⟩
      some { ((s.write taxpayer answer).put taxpayer
          ⟨useChat.replied request.messages answer, none⟩).appendAssistantMessage answer takes with
        completed := Function.update s.completed taxpayer
          (complete (s.completed taxpayer) request.asked answer) }
    | none => none
  | .stop taxpayer =>
    match s.panel, s.chats (chatId taxpayer) with
    | some current, some chat =>
      if s.isLoading current then some (s.put taxpayer { chat with pending := none }) else none
    | _, _ => none
  | .fail taxpayer =>
    match s.chats (chatId taxpayer) with
    | some chat => some (s.put taxpayer { chat with pending := none })
    | none => none
  | .regenerate =>
    match s.panel with
    | some taxpayer =>
      if s.isLoading taxpayer then none
      else match useChat.regenerated (s.shown useChat taxpayer) with
        | some messages => some (s.triggerRequest taxpayer messages
            ((s.shown useChat taxpayer).reverse.find? fun message => message.role = .user))
        | none => some s
    | none => none
  | .reload reads =>
    some { s with
      messages := s.rehydrated reads
      chats := fun _ => none }

/-! ## The property and the condition -/

/-- **Chats are scoped and complete**: an open chat with nothing in memory is seeded with the
completed turns of its taxpayer's chat; and what is shown for a taxpayer, or is in memory to be, and
what was sent, was written in that taxpayer's chat. -/
structure Scoped (s : TaxpayerChat) : Prop where
  seeded : ∀ taxpayer ∈ s.panel, s.chats (chatId taxpayer) = none →
    s.messages = transcript (s.completed taxpayer)
  own : ∀ taxpayer, taxpayer ∈ s.panel ∨ (s.chats (chatId taxpayer)).isSome →
    s.shown useChat taxpayer ⊆ s.written taxpayer
  sent : ∀ x ∈ s.sent, x.2 ⊆ s.written x.1

/-- **The events that seed nothing.**  A chat is opened or reloaded with nothing in memory only
while the persisted list is empty and the chat has no completed turn; a reply finishes only while
the open chat has messages in memory. -/
def SeedsNothing (s : TaxpayerChat) : Event → Prop
  | .openChat taxpayer =>
    (s.chats (chatId taxpayer)).isNone → s.messages = [] ∧ s.completed taxpayer = []
  | .reload reads => ∀ taxpayer ∈ s.panel, s.rehydrated reads = [] ∧ s.completed taxpayer = []
  | .finish _ _ _ _ => ∀ taxpayer ∈ s.panel, (s.chats (chatId taxpayer)).isSome
  | _ => True

instance (s : TaxpayerChat) : (e : Event) → Decidable (s.SeedsNothing e)
  | .openChat _ => inferInstanceAs (Decidable (_ → _))
  | .reload reads => inferInstanceAs (Decidable (∀ taxpayer ∈ s.panel, s.rehydrated reads = [] ∧ _))
  | .finish _ _ _ _ =>
    inferInstanceAs (Decidable (∀ taxpayer ∈ s.panel, (s.chats (chatId taxpayer)).isSome))
  | .leave | .submit _ _ | .stream _ _ _ | .stop _ | .fail _ | .regenerate => isTrue trivial

/-! ## What a step changes -/

theorem chatId_injective : Function.Injective chatId := fun _ _ h =>
  (String.append_right_inj _).mp h

section Frame

variable {s : TaxpayerChat} {taxpayer other : String} {chat : Chat}

theorem chats_put_self : (s.put taxpayer chat).chats (chatId taxpayer) = some chat :=
  Function.update_self _ _ _

theorem chats_put_ne (h : other ≠ taxpayer) :
    (s.put taxpayer chat).chats (chatId other) = s.chats (chatId other) :=
  Function.update_of_ne (chatId_injective.ne h) _ _

theorem pending_eq_some_iff {request : Request} : s.pending taxpayer = some request
    ↔ ∃ chat, s.chats (chatId taxpayer) = some chat ∧ chat.pending = some request :=
  Option.bind_eq_some_iff

/-- A message written is one more. -/
theorem written_subset (s : TaxpayerChat) (message : Message) :
    s.written other ⊆ (s.write taxpayer message).written other := by
  by_cases h : other = taxpayer
  · subst h
    simp [write]
  · simp [write, h]

theorem mem_written_self (s : TaxpayerChat) (message : Message) :
    message ∈ (s.write taxpayer message).written taxpayer := by simp [write]

end Frame

/-! ## The invariants -/

/-- **The store holds answers, a turn starts with a question**, and what a chat waits for was
sent. -/
structure Inv (s : TaxpayerChat) : Prop where
  answers : ∀ message ∈ s.messages, message.role = .assistant
  stored : ∀ message ∈ s.stored, message.role = .assistant
  questions : ∀ taxpayer, ∀ turn ∈ s.completed taxpayer, turn.1.role = .user
  requested : ∀ taxpayer request, s.pending taxpayer = some request →
    (taxpayer, request.messages) ∈ s.sent ∧ ∀ question ∈ request.asked, question.role = .user

/-- **What is in memory and what was sent** for a taxpayer was written in that taxpayer's chat. -/
structure Kept (s : TaxpayerChat) : Prop where
  chats : ∀ taxpayer chat, s.chats (chatId taxpayer) = some chat →
    chat.messages ⊆ s.written taxpayer
  sent : ∀ x ∈ s.sent, x.2 ⊆ s.written x.1

/-- The open chat has messages in memory, or there is nothing to seed it with. -/
def Unseeded (s : TaxpayerChat) : Prop :=
  ∀ taxpayer ∈ s.panel, s.chats (chatId taxpayer) = none →
    s.messages = [] ∧ s.completed taxpayer = []

theorem inv_start : start.Inv :=
  ⟨by rintro message ⟨⟩, by rintro message ⟨⟩, by rintro taxpayer turn ⟨⟩,
    by rintro taxpayer request ⟨⟩⟩

/-- **Answers alone are no transcript**, unless there is nothing in either. -/
theorem eq_transcript_iff {messages : List Message} {turns : List (Message × Message)}
    (hm : ∀ message ∈ messages, message.role = .assistant)
    (ht : ∀ turn ∈ turns, turn.1.role = .user) :
    messages = transcript turns ↔ messages = [] ∧ turns = [] := by
  constructor
  · intro h
    cases turns with
    | nil => exact ⟨h, rfl⟩
    | cons turn turns =>
      have hmem : turn.1 ∈ messages := by simp [h, transcript]
      have hrole : Role.user = Role.assistant :=
        (ht turn List.mem_cons_self).symm.trans (hm _ hmem)
      cases hrole
  · rintro ⟨rfl, rfl⟩
    rfl

theorem questions_complete {turns : List (Message × Message)} {asked : Option Message}
    {answer : Message} (ht : ∀ turn ∈ turns, turn.1.role = .user)
    (hasked : ∀ question ∈ asked, question.role = .user) :
    ∀ turn ∈ complete turns asked answer, turn.1.role = .user := by
  cases asked with
  | none => exact ht
  | some question =>
    intro turn hturn
    rcases List.mem_append.mp hturn with hold | hnew
    · split at hold
      · exact ht turn (List.dropLast_subset _ hold)
      · exact ht turn hold
    · cases List.mem_singleton.mp hnew
      exact hasked question rfl

variable {useChat}

/-- **The property, in the terms of the invariants.** -/
theorem Inv.scoped_iff {s : TaxpayerChat} (h : s.Inv) (hdoc : useChat.Documented) :
    s.Scoped useChat ↔ s.Unseeded ∧ s.Kept := by
  have hseeded : ∀ taxpayer, s.messages = transcript (s.completed taxpayer)
      ↔ s.messages = [] ∧ s.completed taxpayer = [] := fun taxpayer =>
    eq_transcript_iff h.answers (h.questions taxpayer)
  constructor
  · intro hs
    refine ⟨fun taxpayer hpanel hnone => (hseeded taxpayer).mp (hs.seeded taxpayer hpanel hnone),
      fun taxpayer chat hchat => ?_, hs.sent⟩
    have hown : s.shown useChat taxpayer ⊆ s.written taxpayer :=
      hs.own taxpayer (.inr (by rw [hchat]; rfl))
    rwa [shown, hchat, Option.map_some, hdoc.keeps] at hown
  · rintro ⟨hunseeded, hkept⟩
    refine ⟨fun taxpayer hpanel hnone => (hseeded taxpayer).mpr (hunseeded taxpayer hpanel hnone),
      fun taxpayer hopen => ?_, hkept.sent⟩
    unfold shown
    cases hchat : s.chats (chatId taxpayer) with
    | some chat =>
      rw [Option.map_some, hdoc.keeps]
      exact hkept.chats taxpayer chat hchat
    | none =>
      have hpanel : taxpayer ∈ s.panel := hopen.resolve_right (by rw [hchat]; decide)
      rw [Option.map_none, hdoc.seeds, (hunseeded taxpayer hpanel hchat).1]
      exact List.nil_subset _

/-! ## One event -/

section Put

variable {s s' : TaxpayerChat} {taxpayer : String} {chat : Chat}
  (hchats : s'.chats = Function.update s.chats (chatId taxpayer) (some chat))

include hchats

/-- **A chat that moves** waits for what was sent… -/
theorem requested_put (h : s.Inv) (hsent : s.sent ⊆ s'.sent)
    (hrequest : ∀ request ∈ chat.pending, (taxpayer, request.messages) ∈ s'.sent
      ∧ ∀ question ∈ request.asked, question.role = .user) :
    ∀ other request, s'.pending other = some request →
      (other, request.messages) ∈ s'.sent ∧ ∀ question ∈ request.asked, question.role = .user := by
  intro other request hpending
  by_cases hother : other = taxpayer
  · subst hother
    rw [pending, hchats, Function.update_self] at hpending
    exact hrequest request hpending
  · rw [pending, hchats, Function.update_of_ne (chatId_injective.ne hother)] at hpending
    obtain ⟨hold, hasked⟩ := h.requested other request hpending
    exact ⟨hsent hold, hasked⟩

/-- …shows what was written in it… -/
theorem Kept.put (h : s.Kept) (hmessages : chat.messages ⊆ s'.written taxpayer)
    (hwritten : ∀ other, s.written other ⊆ s'.written other)
    (hsent : ∀ x ∈ s'.sent, x ∈ s.sent ∨ x.2 ⊆ s'.written x.1) : s'.Kept where
  chats := by
    intro other chat' hchat
    by_cases hother : other = taxpayer
    · subst hother
      rw [hchats, Function.update_self] at hchat
      cases hchat
      exact hmessages
    · rw [hchats, Function.update_of_ne (chatId_injective.ne hother)] at hchat
      exact List.Subset.trans (h.chats other chat' hchat) (hwritten other)
  sent := fun x hx => (hsent x hx).elim
    (fun hold => List.Subset.trans (h.sent x hold) (hwritten x.1)) id

/-- …and is seeded with nothing. -/
theorem Unseeded.put (h : s.Unseeded) (hpanel : s'.panel = s.panel)
    (hmessages : s'.messages = s.messages) (hcompleted : s'.completed = s.completed) :
    s'.Unseeded := by
  intro other hother hnone
  by_cases heq : other = taxpayer
  · subst heq
    rw [hchats, Function.update_self] at hnone
    cases hnone
  · rw [hchats, Function.update_of_ne (chatId_injective.ne heq)] at hnone
    rw [hmessages, hcompleted]
    exact h other (hpanel ▸ hother) hnone

end Put

/-- **What one event makes of the chats**: nothing is seeded exactly if it meets the condition. -/
def Keeps (s s' : TaxpayerChat) (C : Prop) : Prop :=
  s'.Inv ∧ (s.Unseeded → s.Kept → (s'.Unseeded ↔ C) ∧ s'.Kept)

variable {s : TaxpayerChat} {taxpayer : String}

/-- What the open panel shows was written in its taxpayer's chat. -/
theorem shown_subset (h : s.Inv) (hdoc : useChat.Documented) (hunseeded : s.Unseeded)
    (hkept : s.Kept) (hpanel : s.panel = some taxpayer) :
    s.shown useChat taxpayer ⊆ s.written taxpayer :=
  ((h.scoped_iff hdoc).mpr ⟨hunseeded, hkept⟩).own taxpayer (.inl hpanel)

theorem Inv.triggerRequest (h : s.Inv) (messages : List Message) {asked : Option Message}
    (hasked : ∀ question ∈ asked, question.role = .user) :
    (s.triggerRequest taxpayer messages asked).Inv := by
  refine ⟨h.answers, h.stored, h.questions,
    requested_put rfl h (List.subset_cons_self _ _) ?_⟩
  rintro request ⟨⟩
  exact ⟨List.mem_cons_self, hasked⟩

/-- **A request** sends what was written, if what it sends was. -/
theorem Kept.triggerRequest (h : s.Kept) {messages : List Message}
    (hown : messages ⊆ s.written taxpayer) (asked : Option Message) :
    (s.triggerRequest taxpayer messages asked).Kept := by
  refine h.put rfl hown (fun _ => List.Subset.refl _) fun x hx => ?_
  rcases List.mem_cons.mp hx with rfl | hold
  · exact .inr hown
  · exact .inl hold

/-- **The user submits** after what the panel shows. -/
theorem keeps_submit (h : s.Inv) (hdoc : useChat.Documented) (hpanel : s.panel = some taxpayer)
    {message : Message} (hrole : message.role = .user) :
    s.Keeps ((s.write taxpayer message).triggerRequest taxpayer
      (useChat.submitted (s.shown useChat taxpayer) message) (some message)) True := by
  have hinv : (s.write taxpayer message).Inv := ⟨h.answers, h.stored, h.questions, h.requested⟩
  refine ⟨hinv.triggerRequest _ (by rintro _ ⟨⟩; exact hrole), fun hunseeded hkept => ?_⟩
  have hwritten : (s.write taxpayer message).Kept :=
    ⟨fun other chat hchat =>
        List.Subset.trans (hkept.chats other chat hchat) (s.written_subset message),
      fun x hx => List.Subset.trans (hkept.sent x hx) (s.written_subset message)⟩
  refine ⟨iff_of_true (hunseeded.put rfl rfl rfl rfl) trivial,
    hwritten.triggerRequest (fun m hm => ?_) _⟩
  rcases List.mem_cons.mp (hdoc.submits _ _ hm) with rfl | hshown
  · exact s.mem_written_self m
  · exact s.written_subset message (shown_subset h hdoc hunseeded hkept hpanel hshown)

/-- **The user regenerates** from what the panel shows. -/
theorem keeps_regenerate (h : s.Inv) (hdoc : useChat.Documented)
    (hpanel : s.panel = some taxpayer) {messages : List Message}
    (hmessages : useChat.regenerated (s.shown useChat taxpayer) = some messages) :
    s.Keeps (s.triggerRequest taxpayer messages
      ((s.shown useChat taxpayer).reverse.find? fun message => message.role = .user)) True :=
  ⟨h.triggerRequest _ fun _ hquestion => of_decide_eq_true
      (List.find?_some (p := fun message : Message => message.role = .user) hquestion),
    fun hunseeded hkept => ⟨iff_of_true (hunseeded.put rfl rfl rfl rfl) trivial,
      hkept.triggerRequest (List.Subset.trans (hdoc.regenerates _ messages hmessages)
        (shown_subset h hdoc hunseeded hkept hpanel)) _⟩⟩

/-- **A chat stands still** but for its request, which ends. -/
theorem keeps_ended (h : s.Inv) {chat : Chat} (hchat : s.chats (chatId taxpayer) = some chat) :
    s.Keeps (s.put taxpayer { chat with pending := none }) True :=
  ⟨⟨h.answers, h.stored, h.questions,
      requested_put rfl h (List.Subset.refl _) (by rintro request ⟨⟩)⟩,
    fun hunseeded hkept => ⟨iff_of_true (hunseeded.put rfl rfl rfl rfl) trivial,
      hkept.put rfl (hkept.chats taxpayer chat hchat) (fun _ => List.Subset.refl _)
        fun _ => .inl⟩⟩

/-- The reply to a request was written in its chat. -/
theorem replied_subset (h : s.Inv) (hdoc : useChat.Documented) (hkept : s.Kept)
    {request : Request} (hpending : s.pending taxpayer = some request) (answer : Message) :
    useChat.replied request.messages answer ⊆ (s.write taxpayer answer).written taxpayer := by
  have hsent : request.messages ⊆ s.written taxpayer :=
    hkept.sent _ (h.requested taxpayer request hpending).1
  intro message hmessage
  rcases List.mem_cons.mp (hdoc.replies _ _ hmessage) with rfl | hold
  · exact s.mem_written_self message
  · exact s.written_subset answer (hsent hold)

/-- **A part of a reply comes in.** -/
theorem keeps_stream (h : s.Inv) (hdoc : useChat.Documented) {request : Request}
    (hpending : s.pending taxpayer = some request) (answer : Message) :
    s.Keeps ((s.write taxpayer answer).put taxpayer
      ⟨useChat.replied request.messages answer, some request⟩) True := by
  refine ⟨⟨h.answers, h.stored, h.questions,
      requested_put (s := s) rfl h (List.Subset.refl _) ?_⟩,
    fun hunseeded hkept => ⟨iff_of_true (hunseeded.put rfl rfl rfl rfl) trivial,
      Kept.put (s := s) rfl hkept (replied_subset h hdoc hkept hpending answer)
        (fun _ => s.written_subset answer) fun _ => .inl⟩⟩
  rintro _ ⟨⟩
  exact h.requested taxpayer request hpending

/-- **A reply finishes**: the store has an answer now, and an open chat must not need seeding. -/
theorem keeps_finish (h : s.Inv) (hdoc : useChat.Documented) {request : Request}
    (hpending : s.pending taxpayer = some request) {answer : Message}
    (hrole : answer.role = .assistant) (takes : Bool) :
    s.Keeps { ((s.write taxpayer answer).put taxpayer
          ⟨useChat.replied request.messages answer, none⟩).appendAssistantMessage answer takes with
        completed := Function.update s.completed taxpayer
          (complete (s.completed taxpayer) request.asked answer) }
      (∀ other ∈ s.panel, (s.chats (chatId other)).isSome) := by
  have hanswers : ∀ message ∈ s.messages ++ [answer], message.role = .assistant :=
    List.forall_mem_append.mpr ⟨h.answers, List.forall_mem_singleton.mpr hrole⟩
  refine ⟨⟨hanswers, ?_, ?_, requested_put (s := s) rfl h (List.Subset.refl _) ?_⟩,
    fun hunseeded hkept => ⟨?_, Kept.put (s := s) rfl hkept
      (replied_subset h hdoc hkept hpending answer) (fun _ => s.written_subset answer)
      fun _ => .inl⟩⟩
  · cases takes with
    | true => exact hanswers
    | false => exact h.stored
  · intro other turn hturn
    by_cases hother : other = taxpayer
    · subst hother
      simp only [Function.update_self] at hturn
      exact questions_complete (h.questions other) (h.requested other request hpending).2 turn hturn
    · simp only [Function.update_of_ne hother] at hturn
      exact h.questions other turn hturn
  · rintro _ ⟨⟩
  · obtain ⟨chat, hchat, -⟩ := pending_eq_some_iff.mp hpending
    constructor
    · intro hunseeded' other hother
      refine Option.isSome_iff_ne_none.mpr fun hnone => ?_
      have hne : other ≠ taxpayer := fun heq => nomatch (heq ▸ hnone).symm.trans hchat
      have hnil : s.messages ++ [answer] = [] :=
        (hunseeded' other hother ((s.write taxpayer answer).chats_put_ne hne ▸ hnone)).1
      exact absurd hnil (List.append_ne_nil_of_right_ne_nil _ (List.cons_ne_nil _ _))
    · intro hsome other hother hnone
      by_cases heq : other = taxpayer
      · subst heq
        cases (chats_put_self (s := s.write other answer)).symm.trans hnone
      · have hold : s.chats (chatId other) = none :=
          ((s.write taxpayer answer).chats_put_ne heq).symm.trans hnone
        exact absurd (hsome other hother) (by rw [hold]; decide)

/-- **A chat is opened**: it is seeded if there is none in memory. -/
theorem keeps_openChat (h : s.Inv) (taxpayer : String) :
    s.Keeps { s with panel := some taxpayer } (s.SeedsNothing (.openChat taxpayer)) := by
  refine ⟨⟨h.answers, h.stored, h.questions, h.requested⟩,
    fun _ hkept => ⟨⟨fun hunseeded' hnone => ?_, fun hempty => ?_⟩, hkept.chats, hkept.sent⟩⟩
  · exact hunseeded' taxpayer rfl (Option.isNone_iff_eq_none.mp hnone)
  · rintro other ⟨⟩ hnone
    exact hempty (Option.isNone_iff_eq_none.mpr hnone)

/-- **The page is reloaded**: the open chat is seeded with what the store reads back. -/
theorem keeps_reload (h : s.Inv) (reads : Bool) :
    s.Keeps { s with messages := s.rehydrated reads, chats := fun _ => none }
      (s.SeedsNothing (.reload reads)) := by
  refine ⟨⟨fun message hmessage => ?_, h.stored, h.questions, by rintro taxpayer request ⟨⟩⟩,
    fun _ hkept => ⟨?_, by rintro taxpayer chat ⟨⟩, hkept.sent⟩⟩
  · cases reads with
    | true => exact h.stored message hmessage
    | false => cases hmessage
  · exact ⟨fun hunseeded' taxpayer hpanel => hunseeded' taxpayer hpanel rfl,
      fun hempty taxpayer hpanel _ => hempty taxpayer hpanel⟩

variable {s' : TaxpayerChat} {e : Event}

theorem keeps_step (h : s.Inv) (hdoc : useChat.Documented) (hstep : s.step useChat e = some s') :
    s.Keeps s' (s.SeedsNothing e) := by
  cases e with
  | openChat taxpayer =>
    cases hstep
    exact keeps_openChat h taxpayer
  | leave =>
    cases hstep
    refine ⟨⟨h.answers, h.stored, h.questions, h.requested⟩,
      fun _ hkept => ⟨iff_of_true (by rintro taxpayer ⟨⟩) trivial, hkept.chats, hkept.sent⟩⟩
  | submit id content =>
    simp only [step] at hstep
    split at hstep
    · next taxpayer hpanel =>
      obtain ⟨-, hstep⟩ := Option.ite_none_right_eq_some.mp hstep
      cases hstep
      exact keeps_submit h hdoc hpanel rfl
    · cases hstep
  | stream taxpayer id content =>
    simp only [step] at hstep
    split at hstep
    · next request hpending =>
      cases hstep
      exact keeps_stream h hdoc hpending _
    · cases hstep
  | finish taxpayer id content takes =>
    simp only [step] at hstep
    split at hstep
    · next request hpending =>
      cases hstep
      exact keeps_finish h hdoc hpending rfl takes
    · cases hstep
  | stop taxpayer =>
    simp only [step] at hstep
    split at hstep
    · next current chat hpanel hchat =>
      obtain ⟨-, hstep⟩ := Option.ite_none_right_eq_some.mp hstep
      cases hstep
      exact keeps_ended h hchat
    · cases hstep
  | fail taxpayer =>
    simp only [step] at hstep
    split at hstep
    · next chat hchat =>
      cases hstep
      exact keeps_ended h hchat
    · cases hstep
  | regenerate =>
    simp only [step] at hstep
    split at hstep
    · next taxpayer hpanel =>
      obtain ⟨-, hstep⟩ := Option.ite_none_left_eq_some.mp hstep
      split at hstep
      · next messages hmessages =>
        cases hstep
        exact keeps_regenerate h hdoc hpanel hmessages
      · cases hstep
        exact ⟨h, fun hunseeded hkept => ⟨iff_of_true hunseeded trivial, hkept⟩⟩
    · cases hstep
  | reload reads =>
    cases hstep
    exact keeps_reload h reads

theorem scoped_start : start.Scoped useChat :=
  ⟨by rintro taxpayer ⟨⟩, fun taxpayer hopen => hopen.elim (nomatch ·) (nomatch ·),
    by rintro x ⟨⟩⟩

variable (useChat) in
/-- **Every chat shows, is seeded with and sends its own taxpayer's completed turns** in every state
of a run, exactly if no event of it seeds a chat with anything. -/
theorem chats_scoped_iff (hdoc : useChat.Documented) {es : List Event} {s : TaxpayerChat}
    (h : exec (step useChat) start es = some s) :
    Always (step useChat) (Scoped useChat) start es
      ↔ Throughout (step useChat) SeedsNothing start es := by
  refine always_iff_throughout (I := Inv) (fun hI hstep => (keeps_step hI hdoc hstep).1)
    (fun hI hP hstep => ?_) inv_start scoped_start h
  obtain ⟨hinv, hkeeps⟩ := keeps_step hI hdoc hstep
  obtain ⟨hunseeded, hkept⟩ := (hI.scoped_iff hdoc).mp hP
  obtain ⟨hiff, hkept'⟩ := hkeeps hunseeded hkept
  rw [hinv.scoped_iff hdoc, hiff]
  exact and_iff_left hkept'

/-! ## The library the panel's tests run -/

/-- An id seen first starts from `initialMessages`; a reply continues a last answer. -/
def testedChat : UseChat where
  shown chat initialMessages := chat.getD initialMessages
  submitted messages message := messages ++ [message]
  regenerated messages := messages.getLast?.map fun last =>
    if last.role = .assistant then messages.dropLast else messages
  replied sent answer :=
    (if sent.getLast?.map Message.role = some .assistant then sent.dropLast else sent) ++ [answer]

theorem testedChat_documented : testedChat.Documented where
  seeds := fun _ => rfl
  keeps := fun _ _ => rfl
  submits := by
    intro messages message m hm
    rcases List.mem_append.mp hm with hold | hnew
    · exact List.mem_cons_of_mem _ hold
    · cases List.mem_singleton.mp hnew
      exact List.mem_cons_self
  regenerates := by
    intro messages sent hsent
    obtain ⟨last, -, rfl⟩ := Option.map_eq_some_iff.mp hsent
    split
    · exact List.dropLast_subset messages
    · exact List.Subset.refl _
  replies := by
    intro sent answer m hm
    rcases List.mem_append.mp hm with hold | hnew
    · refine List.mem_cons_of_mem _ ?_
      split at hold
      · exact List.dropLast_subset sent hold
      · exact hold
    · cases List.mem_singleton.mp hnew
      exact List.mem_cons_self

/-- Two taxpayers' chats are begun before either has an answer; then one is answered, and its answer
regenerated. -/
def docsRun : List Event :=
  [.openChat "stub-1", .submit "u1" "hello", .openChat "stub-2", .submit "u2" "hi",
    .openChat "stub-1", .stream "stub-1" "a1" "stub", .finish "stub-1" "a1" "stub reply." true,
    .regenerate, .finish "stub-1" "a2" "stub reply again." true, .openChat "stub-2",
    .stop "stub-2", .leave]

theorem chats_scoped_docsRun : ∃ s, exec (step testedChat) start docsRun = some s
    ∧ Always (step testedChat) (Scoped testedChat) start docsRun := by
  have hrun : (exec (step testedChat) start docsRun).isSome = true := by decide
  obtain ⟨s, hs⟩ := Option.isSome_iff_exists.mp hrun
  exact ⟨s, hs, (chats_scoped_iff testedChat testedChat_documented hs).mpr (by decide)⟩

/-- **Another taxpayer's answer goes to the model**: it seeds the next chat opened. -/
theorem answer_of_another_sent : ∃ es s, exec (step testedChat) start es = some s
    ∧ ¬ s.Scoped testedChat := by
  refine ⟨[.openChat "stub-1", .submit "u1" "hello", .finish "stub-1" "a1" "stub reply." true,
    .openChat "stub-2", .submit "u2" "hi"], _, rfl, fun hs => ?_⟩
  let answer : Message := ⟨"a1", .assistant, "stub reply."⟩
  let question : Message := ⟨"u2", .user, "hi"⟩
  have hanswer : answer ∈ [question] :=
    hs.sent ("stub-2", [answer, question]) List.mem_cons_self List.mem_cons_self
  exact absurd hanswer (by decide)

end TaxpayerChat

end Web
