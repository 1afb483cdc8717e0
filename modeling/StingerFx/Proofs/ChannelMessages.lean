/-
Module: StingerFx.Proofs.ChannelMessages
Layer: Proofs
Purpose: When every channel gets its messages. The window of recent messages is shared
  by all channels, an exception of a send ends the handler, and a full queue gives up
  its oldest event; each can take a message from a channel that never had it. Along
  every run in which none of the three does, every message of an event is sent on every
  channel that asks for it, or was sent there within the last thirty seconds.
Trusted boundary: none (fully proved)
Main exports: SentBefore, Served, Repeats, NotificationDispatcher.LosesNothing,
  NotificationDispatcher.Finished, NotificationDispatcher.Accounts,
  NotificationDispatcher.channels_served, NotificationDispatcher.window_of_sends
-/
import StingerFx.Observability.Notifications

namespace StingerFx

open Lib

/-! ### What a channel was sent -/

/-- The message went out on the channel within the thirty seconds before. -/
def SentBefore (log : List NoticeEntry) (channel : Nat) (message : String)
    (now : Time) : Prop :=
  ∃ prior ∈ log, prior.sent = true ∧ prior.channel = channel ∧
    prior.message = message ∧ now - dedupeWindow ≤ prior.time ∧ prior.time ≤ now

/-- The message of an event came up for a channel, and was sent there or had been. -/
def Served (log : List NoticeEntry) (id channel : Nat) (message : String) : Prop :=
  ∃ earlier entry later, log = earlier ++ entry :: later ∧ entry.id = id ∧
    entry.channel = channel ∧ entry.message = message ∧
    (entry.sent = true ∨ SentBefore earlier channel message entry.time)

/-- Every message of some rounds was sent on its channel shortly before. -/
def AllSentBefore (f : NoticeFormat) (log : List NoticeEntry) (notice : Notice)
    (work : List WorkItem) (now : Time) : Prop :=
  ∀ item ∈ work, ∀ message ∈ messageFor f item.name notice,
    SentBefore log item.channel message now

instance (log : List NoticeEntry) (channel : Nat) (message : String) (now : Time) :
    Decidable (SentBefore log channel message now) := by
  unfold SentBefore
  infer_instance

instance (f : NoticeFormat) (log : List NoticeEntry) (notice : Notice)
    (work : List WorkItem) (now : Time) :
    Decidable (AllSentBefore f log notice work now) := by
  unfold AllSentBefore
  infer_instance

section Log

variable {log : List NoticeEntry} {id channel : Nat} {message : String} {now : Time}

theorem SentBefore.append (sent : SentBefore log channel message now)
    (more : List NoticeEntry) : SentBefore (log ++ more) channel message now := by
  obtain ⟨prior, member, facts⟩ := sent
  exact ⟨prior, List.mem_append_left more member, facts⟩

theorem Served.append (served : Served log id channel message)
    (more : List NoticeEntry) : Served (log ++ more) id channel message := by
  obtain ⟨earlier, entry, later, rfl, facts⟩ := served
  exact ⟨earlier, entry, later ++ more, by simp, facts⟩

theorem served_of_mem {more : List NoticeEntry} {entry : NoticeEntry}
    (member : entry ∈ more)
    (fair : entry.sent = true ∨
      SentBefore log entry.channel entry.message entry.time) :
    Served (log ++ more) entry.id entry.channel entry.message := by
  obtain ⟨before, after, rfl⟩ := List.append_of_mem member
  refine ⟨log ++ before, entry, after, by simp, rfl, rfl, rfl, ?_⟩
  exact fair.imp_right fun sent => sent.append before

/-- Rounds that are not made are no loss when all their messages were sent before. -/
theorem served_of_missed {f : NoticeFormat} {notice : Notice} {work : List WorkItem}
    {item : WorkItem} (before : AllSentBefore f log notice work now)
    (member : item ∈ work) (due : messageFor f item.name notice = some message) :
    Served (log ++ missedEntries f id notice work now) id item.channel message := by
  have listed : (⟨id, item.channel, message, now, false⟩ : NoticeEntry) ∈
      missedEntries f id notice work now :=
    List.mem_filterMap.mpr ⟨item, member, by rw [due]; rfl⟩
  exact served_of_mem listed (.inr (before item member message due))

end Log

/-! ### The shared window -/

/-- The window takes the message for a repetition: it has an equal one, and that one,
or one before it, is recent enough to end the pruning. -/
def Repeats (recent : List (String × Time)) (message : String) (now : Time) : Prop :=
  ∃ front entry back, recent = front ++ entry :: back ∧ entry.1 = message ∧
    ∃ young ∈ front ++ [entry], now - dedupeWindow ≤ young.2

/-- Pruning from the front stops at the first recent entry. -/
theorem mem_pruned {recent : List (String × Time)} {now : Time}
    {entry : String × Time} :
    entry ∈ pruned recent now ↔ ∃ front back, recent = front ++ entry :: back ∧
      ∃ young ∈ front ++ [entry], now - dedupeWindow ≤ young.2 := by
  constructor
  · intro kept
    induction recent with
    | nil => cases kept
    | cons first rest ih =>
        rw [pruned, List.dropWhile_cons] at kept
        split at kept
        · obtain ⟨front, back, rfl, young, member, recently⟩ := ih kept
          exact ⟨first :: front, back, rfl, young, List.mem_cons_of_mem _ member,
            recently⟩
        · rename_i stays
          have recently : now - dedupeWindow ≤ first.2 := by simpa using stays
          obtain ⟨front, back, split⟩ := List.append_of_mem kept
          refine ⟨front, back, split, first, ?_, recently⟩
          cases front with
          | nil =>
              cases split
              exact List.mem_singleton_self _
          | cons other front =>
              cases split
              exact List.mem_cons_self
  · rintro ⟨front, back, rfl, young, member, recently⟩
    have stays : ¬young.2 < now - dedupeWindow := not_lt.mpr recently
    induction front with
    | nil =>
        obtain rfl := List.mem_singleton.mp member
        simp [pruned, stays]
    | cons first front ih =>
        rw [pruned, List.cons_append, List.dropWhile_cons]
        split
        · rename_i old
          rcases List.mem_cons.mp member with rfl | later
          · exact absurd (of_decide_eq_true old) stays
          · exact ih later
        · exact List.mem_cons_of_mem _ (List.mem_append_right _ List.mem_cons_self)

theorem repeats_iff {recent : List (String × Time)} {message : String} {now : Time} :
    Repeats recent message now ↔ ∃ entry ∈ pruned recent now, entry.1 = message := by
  constructor
  · rintro ⟨front, entry, back, whole, same, young⟩
    exact ⟨entry, mem_pruned.mpr ⟨front, back, whole, young⟩, same⟩
  · rintro ⟨entry, kept, same⟩
    obtain ⟨front, back, whole, young⟩ := mem_pruned.mp kept
    exact ⟨front, entry, back, whole, same, young⟩

instance (recent : List (String × Time)) (message : String) (now : Time) :
    Decidable (Repeats recent message now) :=
  decidable_of_iff _ repeats_iff.symm

theorem isDuplicate_iff {recent : List (String × Time)} {message : String}
    {now : Time} :
    (isDuplicate recent message now).1 = true ↔ Repeats recent message now := by
  rw [repeats_iff, isDuplicate]
  cases found : (pruned recent now).any fun entry => decide (entry.1 = message) with
  | true =>
      simp only [if_true, true_iff]
      obtain ⟨entry, kept, same⟩ := List.any_eq_true.mp found
      exact ⟨entry, kept, of_decide_eq_true same⟩
  | false =>
      simp only [Bool.false_eq_true, if_false, false_iff]
      rintro ⟨entry, kept, same⟩
      exact List.any_eq_false.mp found entry kept (decide_eq_true same)

/-- A message that is no repetition enters the pruned window. -/
theorem isDuplicate_window (recent : List (String × Time)) (message : String)
    (now : Time) :
    (isDuplicate recent message now).2 =
      if (isDuplicate recent message now).1 then pruned recent now
      else pushRecent (pruned recent now) (message, now) := by
  rw [isDuplicate]
  cases (pruned recent now).any fun entry => decide (entry.1 = message) with
  | true => rfl
  | false => rfl

/-! ### The rounds of a handler -/

theorem mem_workOf {channels : List Channel} {item : WorkItem} :
    item ∈ workOf channels ↔
      ∃ ch, channels[item.channel]? = some ch ∧ item.name ∈ ch.events := by
  obtain ⟨channel, name⟩ := item
  simp only [workOf, List.mem_flatMap, List.mem_map, Prod.exists,
    List.mem_zipIdx_iff_getElem?, WorkItem.mk.injEq]
  constructor
  · rintro ⟨ch, index, found, asked, listed, rfl, rfl⟩
    exact ⟨ch, found, listed⟩
  · rintro ⟨ch, found, listed⟩
    exact ⟨ch, channel, found, name, listed, rfl, rfl⟩

namespace NotificationDispatcher

variable {f : NoticeFormat} {d d' : NotificationDispatcher} {label : NotificationLabel}
variable {eventClass : NoticeClass}

/-- The dispatcher hears of every event that it has a message for. -/
theorem subscribed_of_message {item : WorkItem} {notice : Notice} {message : String}
    (asked : item ∈ workOf d.channels)
    (due : messageFor f item.name notice = some message) :
    d.subscribed notice.eventClass = true := by
  obtain ⟨ch, found, listed⟩ := mem_workOf.mp asked
  have registered : (eventRegistry.lookup item.name).any
      (fun entry => decide (entry.1 = notice.eventClass)) = true := by
    unfold messageFor at due
    split at due
    · cases due
    · rename_i registered known
      split at due
      · rename_i same
        simp [known, same]
      · cases due
  apply List.any_eq_true.mpr
  refine ⟨ch, List.mem_of_getElem? found, ?_⟩
  exact List.any_eq_true.mpr ⟨item.name, listed, registered⟩

/-! ### What a step does -/

/-- What a publish does for a class that is subscribed to. -/
structure Hears (f : NoticeFormat) (d d' : NotificationDispatcher) (notice : Notice)
    (now : Time) (more : List NoticeEntry) : Prop where
  tasks : d'.tasks = Function.update d.tasks notice.eventClass
    { d.tasks notice.eventClass with
      queue := (d.tasks notice.eventClass).queue.push (d.published.length, notice) }
  channels : d'.channels = d.channels
  published : d'.published = d.published ++ [notice]
  recent : d'.recent = d.recent
  log : d'.log = d.log ++ more
  evicts : more = match d.evicted? notice.eventClass with
    | none => []
    | some (old, lost) => missedEntries f old lost (workOf d.channels) now

theorem publish_cases (f : NoticeFormat) (d : NotificationDispatcher) (notice : Notice)
    (now : Time) :
    (d.subscribed notice.eventClass = true ∧
      ∃ more, Hears f d (d.publish f notice now) notice now more) ∨
    (d.subscribed notice.eventClass = false ∧
      d.publish f notice now = { d with published := d.published ++ [notice] }) := by
  cases hears : d.subscribed notice.eventClass with
  | false =>
      right
      simp [publish, hears]
  | true =>
      left
      simp only [publish, hears, if_true]
      exact ⟨trivial, _, rfl, rfl, rfl, rfl, rfl, rfl⟩

theorem of_take (taken : step? f d (.take eventClass) = some d') :
    ∃ id notice rest, (d.tasks eventClass).current = none ∧
      (d.tasks eventClass).queue.pop? = some ((id, notice), rest) ∧
      d' = d.setTask eventClass ⟨rest, some ⟨id, notice, workOf d.channels, none⟩⟩ := by
  simp only [step?] at taken
  split at taken
  · rename_i id notice rest idle popped
    exact ⟨id, notice, rest, idle, popped, (Option.some.inj taken).symm⟩
  · cases taken

theorem of_visit {now : Time} (taken : step? f d (.visit eventClass now) = some d') :
    ∃ h, (d.tasks eventClass).current = some h ∧ h.sending = none ∧
      ((h.work = [] ∧
          d' = d.setTask eventClass { d.tasks eventClass with current := none }) ∨
        ∃ item rest, h.work = item :: rest ∧
          d' = d.visitItem f eventClass h item rest now) := by
  simp only [step?] at taken
  split at taken
  · rename_i id notice work working
    refine ⟨_, working, rfl, ?_⟩
    cases work with
    | nil => exact .inl ⟨rfl, (Option.some.inj taken).symm⟩
    | cons item rest => exact .inr ⟨item, rest, rfl, (Option.some.inj taken).symm⟩
  · cases taken

theorem of_resume {now : Time} {post : PostResult}
    (taken : step? f d (.resume eventClass now post) = some d') :
    ∃ h channel ch, (d.tasks eventClass).current = some h ∧
      h.sending = some channel ∧ d.channels[channel]? = some ch ∧
      d' = d.finishSend f eventClass h (ch.send post) now := by
  simp only [step?] at taken
  split at taken
  · rename_i id notice work channel working
    cases found : d.channels[channel]? with
    | none =>
        rw [found] at taken
        cases taken
    | some ch =>
        rw [found] at taken
        exact ⟨_, channel, ch, working, rfl, found, (Option.some.inj taken).symm⟩
  · cases taken

/-- A step of one class's handler, with what it adds to the log. -/
structure Moves (d d' : NotificationDispatcher) (eventClass : NoticeClass)
    (task : ClassTask) (more : List NoticeEntry) : Prop where
  tasks : d'.tasks = Function.update d.tasks eventClass task
  channels : d'.channels = d.channels
  published : d'.published = d.published
  log : d'.log = d.log ++ more

theorem setTask_moves (d : NotificationDispatcher) (eventClass : NoticeClass)
    (task : ClassTask) : Moves d (d.setTask eventClass task) eventClass task [] :=
  ⟨rfl, rfl, rfl, (List.append_nil d.log).symm⟩

/-- A round logs the message of its channel, if there is one; it is not sent only when
the window has an equal one. -/
theorem visitItem_moves (f : NoticeFormat) (d : NotificationDispatcher)
    (eventClass : NoticeClass) (h : Handling) (item : WorkItem) (rest : List WorkItem)
    (now : Time) :
    ∃ sending more,
      Moves d (d.visitItem f eventClass h item rest now) eventClass
        { d.tasks eventClass with
          current := some { h with work := rest, sending := sending } } more ∧
      (sending = h.sending ∨ sending = some item.channel) ∧
      ∀ message, messageFor f item.name h.notice = some message →
        ∃ sent, more = [⟨h.id, item.channel, message, now, sent⟩] ∧
          (sent = true ∨ Repeats d.recent message now) := by
  unfold visitItem
  cases due : messageFor f item.name h.notice with
  | none =>
      refine ⟨h.sending, [], setTask_moves _ _ _, .inl rfl, ?_⟩
      intro message is
      cases is
  | some message =>
      cases drops : (isDuplicate d.recent message now).1 with
      | true =>
          simp only [drops, if_true]
          refine ⟨h.sending, _, ⟨rfl, rfl, rfl, rfl⟩, .inl rfl, ?_⟩
          rintro _ ⟨⟩
          exact ⟨false, rfl, .inr (isDuplicate_iff.mp drops)⟩
      | false =>
          simp only [drops, Bool.false_eq_true, if_false]
          refine ⟨some item.channel, _, ⟨rfl, rfl, rfl, rfl⟩, .inr rfl, ?_⟩
          rintro _ ⟨⟩
          exact ⟨true, rfl, .inl rfl⟩

/-- A send that raises ends the handler, any other only ends the wait. -/
theorem finishSend_moves (f : NoticeFormat) (d : NotificationDispatcher)
    (eventClass : NoticeClass) (h : Handling) (result : SendResult) (now : Time) :
    (result ≠ .raised ∧
      Moves d (d.finishSend f eventClass h result now) eventClass
        { d.tasks eventClass with current := some { h with sending := none } } []) ∨
    (result = .raised ∧
      Moves d (d.finishSend f eventClass h result now) eventClass
        { d.tasks eventClass with current := none }
        (missedEntries f h.id h.notice h.work now)) := by
  cases result with
  | delivered => exact .inl ⟨by decide, setTask_moves _ _ _⟩
  | failed => exact .inl ⟨by decide, setTask_moves _ _ _⟩
  | raised => exact .inr ⟨rfl, rfl, rfl, rfl, rfl⟩

theorem step_channels (taken : Step f d label d') : d'.channels = d.channels := by
  cases label with
  | publish notice now =>
      obtain rfl := Option.some.inj taken
      rcases publish_cases f d notice now with ⟨-, more, hears⟩ | ⟨-, deaf⟩
      · exact hears.channels
      · rw [deaf]
  | take eventClass =>
      obtain ⟨id, notice, rest, -, -, rfl⟩ := of_take taken
      rfl
  | visit eventClass now =>
      obtain ⟨h, -, -, ⟨-, rfl⟩ | ⟨item, rest, -, rfl⟩⟩ := of_visit taken
      · rfl
      · obtain ⟨_, _, moves, _⟩ := visitItem_moves f d eventClass h item rest now
        exact moves.channels
  | resume eventClass now post =>
      obtain ⟨h, channel, ch, -, -, -, rfl⟩ := of_resume taken
      rcases finishSend_moves f d eventClass h (ch.send post) now with
        ⟨-, moves⟩ | ⟨-, moves⟩
      · exact moves.channels
      · exact moves.channels

/-! ### What is accounted for -/

/-- An event whose round is still to come: it waits, or its handler has the round
ahead. -/
def Pending (d : NotificationDispatcher) (id : Nat) (notice : Notice)
    (item : WorkItem) : Prop :=
  (id, notice) ∈ (d.tasks notice.eventClass).queue.items ∨
    ∃ h, (d.tasks notice.eventClass).current = some h ∧ h.id = id ∧ item ∈ h.work

/-- The dispatcher is done with an event. -/
def Finished (d : NotificationDispatcher) (id : Nat) : Prop :=
  ∀ eventClass, (∀ waiting ∈ (d.tasks eventClass).queue.items, waiting.1 ≠ id) ∧
    ∀ h ∈ (d.tasks eventClass).current, h.id ≠ id

instance (d : NotificationDispatcher) (id : Nat) : Decidable (d.Finished id) := by
  unfold Finished
  infer_instance

/-- No message of a published event is out of sight: it was served, or it is still to
come up. -/
structure Accounts (f : NoticeFormat) (d : NotificationDispatcher) : Prop where
  waiting : ∀ {eventClass id notice},
    (id, notice) ∈ (d.tasks eventClass).queue.items → d.published[id]? = some notice
  handled : ∀ {eventClass h},
    (d.tasks eventClass).current = some h → d.published[h.id]? = some h.notice
  accounted : ∀ {id notice}, d.published[id]? = some notice →
    ∀ item ∈ workOf d.channels, ∀ message,
      messageFor f item.name notice = some message →
        Served d.log id item.channel message ∨ d.Pending id notice item

theorem Accounts.boot (f : NoticeFormat) (channels : List Channel) :
    Accounts f (boot channels) where
  waiting := by
    intro eventClass id notice queued
    cases queued
  handled := by
    intro eventClass h working
    cases working
  accounted := by
    intro id notice known
    cases known

/-- The rounds of one class that are still to come after a step of its handler are
those before it, less what the step serves. -/
theorem Accounts.move {task : ClassTask} {more : List NoticeEntry}
    (accounts : Accounts f d) (moves : Moves d d' eventClass task more)
    (waiting : ∀ entry ∈ task.queue.items,
      entry ∈ (d.tasks eventClass).queue.items)
    (handled : ∀ h, task.current = some h → d.published[h.id]? = some h.notice)
    (kept : ∀ {id notice item message}, notice.eventClass = eventClass →
      d.published[id]? = some notice → messageFor f item.name notice = some message →
      item ∈ workOf d.channels → d.Pending id notice item →
        Served (d.log ++ more) id item.channel message ∨
          (id, notice) ∈ task.queue.items ∨
          ∃ h, task.current = some h ∧ h.id = id ∧ item ∈ h.work) :
    Accounts f d' where
  waiting := by
    intro other id notice queued
    rw [moves.published]
    rw [moves.tasks] at queued
    by_cases same : other = eventClass
    · subst same
      rw [Function.update_self] at queued
      exact accounts.waiting (waiting _ queued)
    · rw [Function.update_of_ne same] at queued
      exact accounts.waiting queued
  handled := by
    intro other h working
    rw [moves.published]
    rw [moves.tasks] at working
    by_cases same : other = eventClass
    · subst same
      rw [Function.update_self] at working
      exact handled h working
    · rw [Function.update_of_ne same] at working
      exact accounts.handled working
  accounted := by
    intro id notice known item asked message due
    rw [moves.published] at known
    rw [moves.channels] at asked
    rw [moves.log, Pending, moves.tasks]
    rcases accounts.accounted known item asked message due with served | pending
    · exact .inl (served.append more)
    · by_cases same : notice.eventClass = eventClass
      · rw [same, Function.update_self]
        exact kept same known due asked pending
      · rw [Function.update_of_ne same]
        exact .inr pending

/-! ### Nothing is lost -/

/-- The step takes no message from a channel that did not have it: the publish evicts
no event with such a message, the window drops none, and no exception ends a handler
that has such a message ahead. -/
def LosesNothing (f : NoticeFormat) (d : NotificationDispatcher) :
    NotificationLabel → Prop
  | .publish notice now =>
      d.subscribed notice.eventClass = true →
        ∀ old ∈ d.evicted? notice.eventClass,
          AllSentBefore f d.log old.2 (workOf d.channels) now
  | .take _ => True
  | .visit eventClass now =>
      ∀ h ∈ (d.tasks eventClass).current, h.sending = none →
        ∀ item ∈ h.work.head?, ∀ message ∈ messageFor f item.name h.notice,
          Repeats d.recent message now → SentBefore d.log item.channel message now
  | .resume eventClass now post =>
      ∀ h ∈ (d.tasks eventClass).current, ∀ channel ∈ h.sending,
        ∀ ch ∈ d.channels[channel]?, ch.send post = .raised →
          AllSentBefore f d.log h.notice h.work now

instance (f : NoticeFormat) (d : NotificationDispatcher) (label : NotificationLabel) :
    Decidable (d.LosesNothing f label) := by
  cases label <;> unfold LosesNothing <;> infer_instance

/-- An old event keeps its id, and the new one gets the next. -/
theorem known_after_publish {published : List Notice} {id : Nat} {notice new : Notice} :
    (published ++ [new])[id]? = some notice ↔
      published[id]? = some notice ∨ id = published.length ∧ notice = new := by
  constructor
  · intro known
    by_cases old : id < published.length
    · rw [List.getElem?_append_left old] at known
      exact .inl known
    · rw [List.getElem?_append_right (by omega), List.getElem?_singleton] at known
      split at known
      · exact .inr ⟨by omega, (Option.some.inj known).symm⟩
      · cases known
  · rintro (known | ⟨rfl, rfl⟩)
    · obtain ⟨old, -⟩ := List.getElem?_eq_some_iff.mp known
      rw [List.getElem?_append_left old]
      exact known
    · simp

/-- A round that was still to come is so after a publish, unless the event makes room
for the new one. -/
theorem Hears.pending {new notice : Notice} {now : Time} {more : List NoticeEntry}
    {id : Nat} {item : WorkItem} (hears : Hears f d d' new now more)
    (pending : d.Pending id notice item) :
    d'.Pending id notice item ∨ d.evicted? new.eventClass = some (id, notice) := by
  rw [Pending, hears.tasks]
  by_cases same : notice.eventClass = new.eventClass
  · rw [same, Function.update_self]
    rw [Pending, same] at pending
    rcases pending with queued | working
    · rcases Mailbox.mem_items_push_of_mem queued (d.published.length, new) with
        still | ⟨full, first⟩
      · exact .inl (.inl still)
      · right
        simp [evicted?, full, first]
    · exact .inl (.inr working)
  · rw [Function.update_of_ne same]
    exact .inl pending

theorem Accounts.publish {notice : Notice} {now : Time} (accounts : Accounts f d)
    (fair : d.LosesNothing f (.publish notice now)) :
    Accounts f (d.publish f notice now) := by
  rcases publish_cases f d notice now with ⟨heard, more, hears⟩ | ⟨deaf, same⟩
  · constructor
    · intro other id old queued
      rw [hears.published, known_after_publish]
      rw [hears.tasks] at queued
      by_cases same : other = notice.eventClass
      · subst same
        rw [Function.update_self] at queued
        rcases Mailbox.mem_items_of_push queued with before | new
        · exact .inl (accounts.waiting before)
        · exact .inr (Prod.mk.inj new)
      · rw [Function.update_of_ne same] at queued
        exact .inl (accounts.waiting queued)
    · intro other h working
      rw [hears.published, known_after_publish]
      rw [hears.tasks] at working
      by_cases same : other = notice.eventClass
      · subst same
        rw [Function.update_self] at working
        exact .inl (accounts.handled working)
      · rw [Function.update_of_ne same] at working
        exact .inl (accounts.handled working)
    · intro id old known item asked message due
      rw [hears.published, known_after_publish] at known
      rw [hears.channels] at asked
      rw [hears.log]
      rcases known with known | ⟨rfl, rfl⟩
      · rcases accounts.accounted known item asked message due with served | pending
        · exact .inl (served.append more)
        · rcases hears.pending pending with still | evicted
          · exact .inr still
          · left
            rw [hears.evicts, evicted]
            exact served_of_missed (fair heard (id, old) evicted) asked due
      · right
        left
        rw [hears.tasks, Function.update_self]
        exact Mailbox.mem_items_push _ _
  · rw [same]
    constructor
    · intro other id old queued
      exact known_after_publish.mpr (.inl (accounts.waiting queued))
    · intro other h working
      exact known_after_publish.mpr (.inl (accounts.handled working))
    · intro id old known item asked message due
      rcases known_after_publish.mp known with known | ⟨rfl, rfl⟩
      · exact accounts.accounted known item asked message due
      · have heard : d.subscribed old.eventClass = true :=
          subscribed_of_message asked due
        rw [heard] at deaf
        cases deaf

theorem Accounts.take (accounts : Accounts f d)
    (taken : step? f d (.take eventClass) = some d') : Accounts f d' := by
  obtain ⟨id, notice, rest, idle, popped, rfl⟩ := of_take taken
  have items := Mailbox.items_of_pop? popped
  have first : (id, notice) ∈ (d.tasks eventClass).queue.items := by
    rw [items]
    exact List.mem_cons_self
  apply accounts.move (setTask_moves d eventClass _)
  · intro entry queued
    rw [items]
    exact List.mem_cons_of_mem _ queued
  · rintro h ⟨⟩
    exact accounts.waiting first
  · intro other old item message same known due asked pending
    right
    rw [Pending, same, idle, items] at pending
    rcases pending with queued | ⟨h, working, -⟩
    · rcases List.mem_cons.mp queued with now | later
      · exact .inr ⟨_, rfl, (Prod.mk.inj now).1.symm, asked⟩
      · exact .inl later
    · cases working

/-- What is still to come while a handler is at work. -/
theorem pending_of_working {h : Handling} {id : Nat} {notice : Notice} {item : WorkItem}
    (working : (d.tasks notice.eventClass).current = some h)
    (pending : d.Pending id notice item) :
    (id, notice) ∈ (d.tasks notice.eventClass).queue.items ∨
      h.id = id ∧ item ∈ h.work := by
  rcases pending with queued | ⟨other, also, facts⟩
  · exact .inl queued
  · rw [working] at also
    cases also
    exact .inr facts

theorem Accounts.visit {now : Time} (accounts : Accounts f d)
    (fair : d.LosesNothing f (.visit eventClass now))
    (taken : step? f d (.visit eventClass now) = some d') : Accounts f d' := by
  obtain ⟨h, working, idle, ⟨done, rfl⟩ | ⟨item, rest, work, rfl⟩⟩ := of_visit taken
  · apply accounts.move (setTask_moves d eventClass _)
    · intro entry queued
      exact queued
    · intro h none
      cases none
    · intro id notice item message same known due asked pending
      subst same
      rcases pending_of_working working pending with queued | ⟨-, ahead⟩
      · exact .inr (.inl queued)
      · rw [done] at ahead
        cases ahead
  · obtain ⟨sending, more, moves, -, logged⟩ :=
      visitItem_moves f d eventClass h item rest now
    apply accounts.move moves
    · intro entry queued
      exact queued
    · rintro _ ⟨⟩
      have known := accounts.handled working
      exact known
    · intro id notice other message same known due asked pending
      subst same
      rcases pending_of_working working pending with queued | ⟨rfl, ahead⟩
      · exact .inr (.inl queued)
      · rw [work] at ahead
        rcases List.mem_cons.mp ahead with rfl | later
        · have own : h.notice = notice :=
            Option.some.inj ((accounts.handled working).symm.trans known)
          subst own
          obtain ⟨sent, rfl, cause⟩ := logged message due
          left
          refine served_of_mem (List.mem_singleton_self _) ?_
          exact cause.imp_right
            (fair h working idle other (by rw [work]; rfl) message due)
        · exact .inr (.inr ⟨_, rfl, rfl, later⟩)

theorem Accounts.resume {now : Time} {post : PostResult} (accounts : Accounts f d)
    (fair : d.LosesNothing f (.resume eventClass now post))
    (taken : step? f d (.resume eventClass now post) = some d') : Accounts f d' := by
  obtain ⟨h, channel, ch, working, waits, found, rfl⟩ := of_resume taken
  rcases finishSend_moves f d eventClass h (ch.send post) now with
    ⟨-, moves⟩ | ⟨raised, moves⟩
  · apply accounts.move moves
    · intro entry queued
      exact queued
    · rintro _ ⟨⟩
      have known := accounts.handled working
      exact known
    · intro id notice item message same known due asked pending
      subst same
      rcases pending_of_working working pending with queued | ⟨rfl, ahead⟩
      · exact .inr (.inl queued)
      · exact .inr (.inr ⟨_, rfl, rfl, ahead⟩)
  · apply accounts.move moves
    · intro entry queued
      exact queued
    · intro h none
      cases none
    · intro id notice item message same known due asked pending
      subst same
      rcases pending_of_working working pending with queued | ⟨rfl, ahead⟩
      · exact .inr (.inl queued)
      · have own : h.notice = notice :=
          Option.some.inj ((accounts.handled working).symm.trans known)
        subst own
        left
        exact served_of_missed (fair h working channel waits ch found raised) ahead due

theorem Accounts.step (accounts : Accounts f d)
    (taken : Guarded (LosesNothing f) (Step f) d label d') : Accounts f d' := by
  obtain ⟨fair, taken⟩ := taken
  cases label with
  | publish notice now =>
      obtain rfl := Option.some.inj taken
      exact accounts.publish fair
  | take eventClass => exact accounts.take taken
  | visit eventClass now => exact accounts.visit fair taken
  | resume eventClass now post => exact accounts.resume fair taken

theorem accounts_of_run {channels : List Channel} {labels : List NotificationLabel}
    (run : Run (Guarded (LosesNothing f) (Step f)) (boot channels) labels d) :
    Accounts f d :=
  run.invariant (Accounts.boot f channels) fun taken accounts => accounts.step taken

theorem channels_of_run {channels : List Channel} {labels : List NotificationLabel}
    (run : Run (Step f) (boot channels) labels d) :
    d.channels = channels.filter Channel.enabled :=
  run.invariant (P := fun d => d.channels = channels.filter Channel.enabled) rfl
    fun taken same => (step_channels taken).trans same

theorem Finished.not_pending {id : Nat} {notice : Notice} {item : WorkItem}
    (finished : d.Finished id) : ¬d.Pending id notice item := by
  rintro (queued | ⟨h, working, same, -⟩)
  · exact (finished notice.eventClass).1 _ queued rfl
  · exact (finished notice.eventClass).2 h working same

/-- Along every run in which no step takes a message from a channel, each event that
the dispatcher is done with was served to every channel that asks for it. -/
theorem channels_served {channels : List Channel} {labels : List NotificationLabel}
    (run : Run (Guarded (LosesNothing f) (Step f)) (boot channels) labels d)
    {id : Nat} {notice : Notice} (published : d.published[id]? = some notice)
    (finished : d.Finished id) {i : Nat} {ch : Channel}
    (configured : (channels.filter Channel.enabled)[i]? = some ch) {name : String}
    (asks : name ∈ ch.events) {message : String}
    (due : messageFor f name notice = some message) : Served d.log id i message := by
  have asked : (⟨i, name⟩ : WorkItem) ∈ workOf d.channels := by
    rw [channels_of_run run.unguard, mem_workOf]
    exact ⟨ch, configured, asks⟩
  rcases (accounts_of_run run).accounted published ⟨i, name⟩ asked message due with
    served | pending
  · exact served
  · exact absurd pending finished.not_pending

/-- A message without a fair entry in the log was not served. -/
theorem not_served {log : List NoticeEntry} {id channel : Nat} {message : String}
    (unfair : ∀ entry ∈ log, ¬(entry.id = id ∧ entry.channel = channel ∧
      (entry.sent = true ∨ SentBefore log channel message entry.time))) :
    ¬Served log id channel message := by
  rintro ⟨earlier, entry, later, rfl, same, own, -, fair⟩
  exact unfair entry (by simp)
    ⟨same, own, fair.imp_right fun sent => sent.append _⟩

/-- Numbers are rendered without a fraction. -/
def plainNotices : NoticeFormat where
  number := fun x => toString x.num
  fixed := fun _ x => toString x.num
  twoDigits := toString
  isoformat := toString
  names := fun names => ", ".intercalate names

/-- A discord channel for some events. -/
def discordFor (events : List String) : Channel :=
  ⟨.discord, true, "", "", "https://hooks", events⟩

def failedReload : Notice := .configReloadFailed "app.yaml" "bad port"

def failedReloadText : String := "⛔ CONFIG RELOAD FAILED · app.yaml · bad port"

/-- One event, through the rounds of two channels at most. -/
def oneFailedReload : List NotificationLabel :=
  [.publish failedReload 0, .take .configReloadFailed, .visit .configReloadFailed 0,
    .resume .configReloadFailed 0 (.status 204), .visit .configReloadFailed 0]

/-- A channel that is alone gets its message. -/
theorem channels_served_alone :
    ∃ d, Run (Guarded (LosesNothing plainNotices) (Step plainNotices))
        (boot [discordFor ["config_reload_failed"]]) oneFailedReload d ∧
      Served d.log 0 0 failedReloadText := by
  have reached : (replay? (LosesNothing plainNotices) (step? plainNotices)
      (boot [discordFor ["config_reload_failed"]]) oneFailedReload).any
        (fun d => decide (d.published[0]? = some failedReload ∧ d.Finished 0)) =
      true := by
    decide +kernel
  obtain ⟨d, replayed, seen⟩ := (Option.any_eq_true _ _).mp reached
  obtain ⟨published, finished⟩ := of_decide_eq_true seen
  have run := run_of_replay? replayed
  exact ⟨d, run, channels_served run published finished rfl
    (List.mem_singleton_self "config_reload_failed") rfl⟩

/-- The handler goes through two channels. -/
def twoRounds : List NotificationLabel :=
  oneFailedReload ++ [.visit .configReloadFailed 0]

/-- An order that the kill switch blocks. -/
def switchedOff : Notice :=
  .decision
    { strategyId := "trend", time := 0, symbol := "EURUSD", side := .buy
      suggestedVolume := none, suggestedSl := none, suggestedTp := none
      orderType := .market, suggestedPrice := none, entryRefPrice := none
      comment := "" }
    "rejected" "kill_switch_tripped"

def switchedOffText : String :=
  "🚨 KILL SWITCH TRIPPED · EURUSD · kill_switch_tripped"

/-- The send of the first channel raises. -/
def raisingSend : List NotificationLabel :=
  [.publish switchedOff 0, .take .decision, .visit .decision 0,
    .resume .decision 0 .raises]

/-- Two channels ask for the same event, and the second one gets nothing; nor does the
channel that comes after one whose send raises. -/
theorem messages_lost :
    (∃ d, Run (Step plainNotices)
        (boot [discordFor ["config_reload_failed"], discordFor ["config_reload_failed"]])
        twoRounds d ∧
      d.published[0]? = some failedReload ∧ d.Finished 0 ∧
      messageFor plainNotices "config_reload_failed" failedReload =
        some failedReloadText ∧ ¬Served d.log 0 1 failedReloadText) ∧
    (∃ d, Run (Step plainNotices)
        (boot [discordFor ["signal_rejected_by_risk"], discordFor ["kill_switch_tripped"]])
        raisingSend d ∧
      d.published[0]? = some switchedOff ∧ d.Finished 0 ∧
      messageFor plainNotices "kill_switch_tripped" switchedOff =
        some switchedOffText ∧ ¬Served d.log 0 1 switchedOffText) := by
  constructor
  · have reached : (replay? (fun _ _ => True) (step? plainNotices)
        (boot [discordFor ["config_reload_failed"], discordFor ["config_reload_failed"]])
        twoRounds).any (fun d => decide (d.published[0]? = some failedReload ∧
          d.Finished 0 ∧ ∀ entry ∈ d.log, ¬(entry.id = 0 ∧ entry.channel = 1 ∧
            (entry.sent = true ∨
              SentBefore d.log 1 failedReloadText entry.time)))) = true := by
      decide +kernel
    obtain ⟨d, replayed, seen⟩ := (Option.any_eq_true _ _).mp reached
    obtain ⟨published, finished, unfair⟩ := of_decide_eq_true seen
    exact ⟨d, (run_of_replay? replayed).unguard, published, finished, rfl,
      not_served unfair⟩
  · have reached : (replay? (fun _ _ => True) (step? plainNotices)
        (boot [discordFor ["signal_rejected_by_risk"], discordFor ["kill_switch_tripped"]])
        raisingSend).any (fun d => decide (d.published[0]? = some switchedOff ∧
          d.Finished 0 ∧ ∀ entry ∈ d.log, ¬(entry.id = 0 ∧ entry.channel = 1 ∧
            (entry.sent = true ∨
              SentBefore d.log 1 switchedOffText entry.time)))) = true := by
      decide +kernel
    obtain ⟨d, replayed, seen⟩ := (Option.any_eq_true _ _).mp reached
    obtain ⟨published, finished, unfair⟩ := of_decide_eq_true seen
    exact ⟨d, (run_of_replay? replayed).unguard, published, finished, rfl,
      not_served unfair⟩

/-! ### What the window holds -/

/-- The sends so far, with their times. -/
def sendsOf (log : List NoticeEntry) : List (String × Time) :=
  (log.filter NoticeEntry.sent).map fun entry => (entry.message, entry.time)

@[simp] theorem sendsOf_append (log more : List NoticeEntry) :
    sendsOf (log ++ more) = sendsOf log ++ sendsOf more := by
  simp [sendsOf]

@[simp] theorem sendsOf_missed (f : NoticeFormat) (id : Nat) (notice : Notice)
    (work : List WorkItem) (now : Time) :
    sendsOf (missedEntries f id notice work now) = [] := by
  simp only [sendsOf, List.map_eq_nil_iff, List.filter_eq_nil_iff]
  intro entry missed
  obtain ⟨item, -, made⟩ := List.mem_filterMap.mp missed
  obtain ⟨message, -, rfl⟩ := Option.map_eq_some_iff.mp made
  exact Bool.false_ne_true

/-- The window is the end of the sends, up to fifty of them. -/
structure HoldsSends (recent : List (String × Time)) (log : List NoticeEntry) :
    Prop where
  suffix : recent <:+ sendsOf log
  bounded : recent.length ≤ dedupeMax

section Window

variable {recent : List (String × Time)} {log : List NoticeEntry}

theorem HoldsSends.unsent (holds : HoldsSends recent log) {more : List NoticeEntry}
    (none : sendsOf more = []) : HoldsSends recent (log ++ more) := by
  constructor
  · rw [sendsOf_append, none, List.append_nil]
    exact holds.suffix
  · exact holds.bounded

theorem HoldsSends.pruned (holds : HoldsSends recent log) (now : Time) :
    HoldsSends (pruned recent now) log := by
  have part : StingerFx.pruned recent now <:+ recent := List.dropWhile_suffix _
  constructor
  · exact part.trans holds.suffix
  · exact part.length_le.trans holds.bounded

theorem HoldsSends.pushRecent (holds : HoldsSends recent log) (id channel : Nat)
    (message : String) (now : Time) :
    HoldsSends (pushRecent recent (message, now))
      (log ++ [⟨id, channel, message, now, true⟩]) := by
  have own : sendsOf [⟨id, channel, message, now, true⟩] = [(message, now)] := rfl
  have bounded := holds.bounded
  unfold StingerFx.pushRecent
  split
  · have part : recent.tail <:+ sendsOf log :=
      (List.tail_suffix recent).trans holds.suffix
    constructor
    · rw [sendsOf_append, own]
      exact List.suffix_append_self_iff.mpr part
    · have fifty : dedupeMax = 50 := rfl
      rw [List.length_append, List.length_tail, List.length_singleton]
      omega
  · rename_i room
    constructor
    · rw [sendsOf_append, own]
      exact List.suffix_append_self_iff.mpr holds.suffix
    · rw [List.length_append, List.length_singleton]
      omega

end Window

/-- A round leaves the window pruned, with its own message at the end if that is
sent. -/
theorem visitItem_holdsSends {h : Handling} {item : WorkItem} {rest : List WorkItem}
    {now : Time} (holds : HoldsSends d.recent d.log) :
    HoldsSends (d.visitItem f eventClass h item rest now).recent
      (d.visitItem f eventClass h item rest now).log := by
  unfold visitItem
  cases messageFor f item.name h.notice with
  | none => exact holds
  | some message =>
      cases drops : (isDuplicate d.recent message now).1 with
      | true =>
          have window := isDuplicate_window d.recent message now
          rw [drops, if_pos rfl] at window
          simp only [drops, if_true, window]
          exact (holds.pruned now).unsent rfl
      | false =>
          have window := isDuplicate_window d.recent message now
          rw [drops, if_neg Bool.false_ne_true] at window
          simp only [drops, Bool.false_eq_true, if_false, window]
          exact (holds.pruned now).pushRecent _ _ _ _

theorem step_holdsSends (taken : Step f d label d') (holds : HoldsSends d.recent d.log) :
    HoldsSends d'.recent d'.log := by
  cases label with
  | publish notice now =>
      obtain rfl := Option.some.inj taken
      rcases publish_cases f d notice now with ⟨-, more, hears⟩ | ⟨-, same⟩
      · have none : sendsOf more = [] := by
          rw [hears.evicts]
          split
          · rfl
          · exact sendsOf_missed f _ _ _ now
        rw [hears.recent, hears.log]
        exact holds.unsent none
      · rw [same]
        exact holds
  | take eventClass =>
      obtain ⟨id, notice, rest, -, -, rfl⟩ := of_take taken
      exact holds
  | visit eventClass now =>
      obtain ⟨h, -, -, ⟨-, rfl⟩ | ⟨item, rest, -, rfl⟩⟩ := of_visit taken
      · exact holds
      · exact visitItem_holdsSends holds
  | resume eventClass now post =>
      obtain ⟨h, channel, ch, -, -, -, rfl⟩ := of_resume taken
      cases ch.send post with
      | delivered => exact holds
      | failed => exact holds
      | raised => exact holds.unsent (sendsOf_missed f _ _ _ _)

/-- Along every run the window is the end of what was sent, on whichever channels. -/
theorem window_of_sends {channels : List Channel} {labels : List NotificationLabel}
    (run : Run (Step f) (boot channels) labels d) : HoldsSends d.recent d.log :=
  run.invariant (P := fun d => HoldsSends d.recent d.log)
    ⟨List.nil_suffix, Nat.zero_le _⟩ fun taken holds => step_holdsSends taken holds

end NotificationDispatcher

end StingerFx
