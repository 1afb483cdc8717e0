/-
Module: StingerFx.Proofs.ChannelProgress
Layer: Proofs
Purpose: The notification dispatcher never gets stuck. A handler stays within the
  channels, so the sends that it waits for can end and its rounds can follow; and from
  every state of a run some further steps lead to one where every event is done with.
Trusted boundary: none (fully proved)
Main exports: NotificationDispatcher.InRange, NotificationDispatcher.Leads,
  NotificationDispatcher.all_finish
-/
import StingerFx.Proofs.ChannelMessages

namespace StingerFx

open Lib

namespace NotificationDispatcher

variable {f : NoticeFormat} {d d' : NotificationDispatcher} {label : NotificationLabel}
variable {eventClass : NoticeClass}

/-! ### Every handler comes to an end -/

/-- Handlers stay within the channels. -/
structure InRange (d : NotificationDispatcher) : Prop where
  ahead : ∀ {eventClass h}, (d.tasks eventClass).current = some h →
    ∀ item ∈ h.work, item.channel < d.channels.length
  waits : ∀ {eventClass h channel}, (d.tasks eventClass).current = some h →
    h.sending = some channel → channel < d.channels.length

theorem workOf_inRange {channels : List Channel} {item : WorkItem}
    (asked : item ∈ workOf channels) : item.channel < channels.length := by
  obtain ⟨ch, found, -⟩ := mem_workOf.mp asked
  exact (List.getElem?_eq_some_iff.mp found).1

theorem InRange.move {task : ClassTask} (inRange : InRange d)
    (tasks : d'.tasks = Function.update d.tasks eventClass task)
    (channels : d'.channels = d.channels)
    (ahead : ∀ h, task.current = some h → ∀ item ∈ h.work,
      item.channel < d.channels.length)
    (waits : ∀ h channel, task.current = some h → h.sending = some channel →
      channel < d.channels.length) : InRange d' where
  ahead := by
    intro other h working
    rw [channels]
    rw [tasks] at working
    by_cases same : other = eventClass
    · subst same
      rw [Function.update_self] at working
      exact ahead h working
    · rw [Function.update_of_ne same] at working
      exact inRange.ahead working
  waits := by
    intro other h channel working
    rw [channels]
    rw [tasks] at working
    by_cases same : other = eventClass
    · subst same
      rw [Function.update_self] at working
      exact waits h channel working
    · rw [Function.update_of_ne same] at working
      exact inRange.waits working

theorem InRange.step (inRange : InRange d) (taken : Step f d label d') :
    InRange d' := by
  cases label with
  | publish notice now =>
      obtain rfl := Option.some.inj taken
      rcases publish_cases f d notice now with ⟨-, more, hears⟩ | ⟨-, same⟩
      · apply inRange.move hears.tasks hears.channels
        · intro h working
          exact inRange.ahead working
        · intro h channel working
          exact inRange.waits working
      · rw [same]
        exact ⟨inRange.ahead, inRange.waits⟩
  | take eventClass =>
      obtain ⟨id, notice, rest, -, -, rfl⟩ := of_take taken
      apply inRange.move (setTask_moves d eventClass _).tasks rfl
      · rintro _ ⟨⟩ item asked
        exact workOf_inRange asked
      · rintro _ channel ⟨⟩ waits
        cases waits
  | visit eventClass now =>
      obtain ⟨h, working, -, ⟨-, rfl⟩ | ⟨item, rest, work, rfl⟩⟩ := of_visit taken
      · apply inRange.move (setTask_moves d eventClass _).tasks rfl
        · intro h none
          cases none
        · intro h channel none
          cases none
      · have ahead := inRange.ahead working
        rw [work] at ahead
        obtain ⟨sending, more, moves, onto, -⟩ :=
          visitItem_moves f d eventClass h item rest now
        apply inRange.move moves.tasks moves.channels
        · rintro _ ⟨⟩ other later
          exact ahead other (List.mem_cons_of_mem _ later)
        · rintro _ channel ⟨⟩ waits
          rcases onto with same | own
          · exact inRange.waits working (same.symm.trans waits)
          · obtain rfl := Option.some.inj (own.symm.trans waits)
            exact ahead item List.mem_cons_self
  | resume eventClass now post =>
      obtain ⟨h, channel, ch, working, -, -, rfl⟩ := of_resume taken
      rcases finishSend_moves f d eventClass h (ch.send post) now with
        ⟨-, moves⟩ | ⟨-, moves⟩
      · apply inRange.move moves.tasks moves.channels
        · rintro _ ⟨⟩ item later
          have within := inRange.ahead working item later
          exact within
        · rintro _ channel ⟨⟩ waits
          cases waits
      · apply inRange.move moves.tasks moves.channels
        · intro h none
          cases none
        · intro h channel none
          cases none

/-- Some steps lead on, and leave one class's subscription in a certain way and all
else as it is. -/
structure Leads (f : NoticeFormat) (d d' : NotificationDispatcher)
    (eventClass : NoticeClass) (task : ClassTask) : Prop where
  run : ∃ labels, Run (Step f) d labels d'
  tasks : d'.tasks = Function.update d.tasks eventClass task
  published : d'.published = d.published
  inRange : InRange d'

theorem Leads.refl (f : NoticeFormat) (inRange : InRange d) (eventClass : NoticeClass) :
    Leads f d d eventClass (d.tasks eventClass) :=
  ⟨⟨[], .refl d⟩, (Function.update_eq_self _ _).symm, rfl, inRange⟩

theorem Leads.trans {middle : NotificationDispatcher} {task other : ClassTask}
    (one : Leads f d middle eventClass task)
    (two : Leads f middle d' eventClass other) : Leads f d d' eventClass other := by
  obtain ⟨left, first⟩ := one.run
  obtain ⟨right, second⟩ := two.run
  refine ⟨⟨left ++ right, first.trans second⟩, ?_, ?_, two.inRange⟩
  · rw [two.tasks, one.tasks, Function.update_idem]
  · rw [two.published, one.published]

theorem Leads.of_step {task : ClassTask} {more : List NoticeEntry} (inRange : InRange d)
    (taken : Step f d label d') (moves : Moves d d' eventClass task more) :
    Leads f d d' eventClass task :=
  ⟨⟨[label], .single taken⟩, moves.tasks, moves.published, inRange.step taken⟩

theorem Leads.task {task : ClassTask} (leads : Leads f d d' eventClass task) :
    d'.tasks eventClass = task := by
  rw [leads.tasks, Function.update_self]

theorem send_status (ch : Channel) (code : Nat) : ch.send (.status code) ≠ .raised := by
  obtain ⟨kind, enabled, botToken, chatId, webhookUrl, events⟩ := ch
  cases kind with
  | telegram =>
      simp only [Channel.send]
      split
      · simp
      · split <;> simp
  | discord =>
      simp only [Channel.send]
      split
      · simp
      · split <;> simp

/-- A send can end. -/
theorem send_ends (f : NoticeFormat) (inRange : InRange d) {h : Handling}
    (working : (d.tasks eventClass).current = some h) :
    ∃ d', Leads f d d' eventClass
      { d.tasks eventClass with current := some { h with sending := none } } := by
  obtain ⟨id, notice, work, sending⟩ := h
  cases sending with
  | none =>
      have same : d.tasks eventClass =
          { d.tasks eventClass with current := some ⟨id, notice, work, none⟩ } := by
        rw [← working]
      exact ⟨d, same ▸ Leads.refl f inRange eventClass⟩
  | some channel =>
      have within := inRange.waits working rfl
      have taken : step? f d (.resume eventClass 0 (.status 200)) =
          some (d.finishSend f eventClass ⟨id, notice, work, some channel⟩
            ((d.channels[channel]).send (.status 200)) 0) := by
        simp only [step?, working, List.getElem?_eq_getElem within]
      rcases finishSend_moves f d eventClass ⟨id, notice, work, some channel⟩
        ((d.channels[channel]).send (.status 200)) 0 with ⟨-, moves⟩ | ⟨raised, -⟩
      · exact ⟨_, .of_step inRange taken moves⟩
      · exact absurd raised (send_status _ _)

/-- So a handler can go through all its rounds. -/
theorem handler_ends (f : NoticeFormat) (inRange : InRange d) {h : Handling}
    (working : (d.tasks eventClass).current = some h) :
    ∃ d', Leads f d d' eventClass { d.tasks eventClass with current := none } := by
  obtain ⟨id, notice, work, sending⟩ := h
  induction work generalizing d sending with
  | nil =>
      obtain ⟨d₁, first⟩ := send_ends f inRange working
      have taken : step? f d₁ (.visit eventClass 0) =
          some (d₁.setTask eventClass { d₁.tasks eventClass with current := none }) := by
        simp only [step?, first.task]
      have second := Leads.of_step first.inRange taken (setTask_moves d₁ eventClass _)
      rw [first.task] at second
      exact ⟨_, first.trans second⟩
  | cons item rest ih =>
      obtain ⟨d₁, first⟩ := send_ends f inRange working
      have taken : step? f d₁ (.visit eventClass 0) =
          some (d₁.visitItem f eventClass ⟨id, notice, item :: rest, none⟩ item
            rest 0) := by
        simp only [step?, first.task]
      obtain ⟨onto, more, moves, -, -⟩ := visitItem_moves f d₁ eventClass
        ⟨id, notice, item :: rest, none⟩ item rest 0
      have second := Leads.of_step first.inRange taken moves
      have ahead := congrArg ClassTask.current second.task
      obtain ⟨d₃, third⟩ := ih second.inRange onto ahead
      rw [second.task, first.task] at third
      exact ⟨d₃, (first.trans second).trans third⟩

/-- And a subscription can be brought to rest. -/
theorem class_ends (f : NoticeFormat) (inRange : InRange d)
    (eventClass : NoticeClass) :
    ∃ d' task, Leads f d d' eventClass task ∧ task.queue.items = [] ∧
      task.current = none := by
  have idle : ∀ (waiting : List (Nat × Notice)) {d : NotificationDispatcher},
      InRange d → (d.tasks eventClass).queue.items = waiting →
      (d.tasks eventClass).current = none →
      ∃ d' task, Leads f d d' eventClass task ∧ task.queue.items = [] ∧
        task.current = none := by
    intro waiting
    induction waiting with
    | nil =>
        intro d inRange empty none
        exact ⟨d, _, Leads.refl f inRange eventClass, empty, none⟩
    | cons first rest ih =>
        intro d inRange queued none
        have popped : (d.tasks eventClass).queue.pop? =
            some (first, { (d.tasks eventClass).queue with items := rest }) := by
          simp only [Mailbox.pop?, queued]
        have taken : step? f d (.take eventClass) =
            some (d.setTask eventClass
              ⟨{ (d.tasks eventClass).queue with items := rest },
                some ⟨first.1, first.2, workOf d.channels, .none⟩⟩) := by
          simp only [step?, none, popped]
        have one := Leads.of_step inRange taken (setTask_moves d eventClass _)
        obtain ⟨d₂, two⟩ := handler_ends f one.inRange
          (congrArg ClassTask.current one.task)
        rw [one.task] at two
        obtain ⟨d₃, task, three, still⟩ := ih two.inRange
          (congrArg (fun task => task.queue.items) two.task)
          (congrArg ClassTask.current two.task)
        exact ⟨d₃, task, (one.trans two).trans three, still⟩
  cases working : (d.tasks eventClass).current with
  | none => exact idle _ inRange rfl working
  | some h =>
      obtain ⟨d₁, one⟩ := handler_ends f inRange working
      obtain ⟨d₂, task, two, still⟩ := idle _ one.inRange rfl
        (congrArg ClassTask.current one.task)
      exact ⟨d₂, task, one.trans two, still⟩

/-- Whatever has happened, the dispatcher can get done with every event. -/
theorem all_finish {channels : List Channel} {labels : List NotificationLabel}
    (run : Run (Step f) (boot channels) labels d) :
    ∃ more d', Run (Step f) d more d' ∧ d'.published = d.published ∧
      ∀ id, d'.Finished id := by
  have start : InRange (boot channels) := by
    constructor
    · intro eventClass h working
      cases working
    · intro eventClass h channel working
      cases working
  have inRange : InRange d := run.invariant start fun taken inRange => inRange.step taken
  have classes : ∀ classes : List NoticeClass, ∃ more d', Run (Step f) d more d' ∧
      d'.published = d.published ∧ InRange d' ∧ ∀ eventClass ∈ classes,
        (d'.tasks eventClass).queue.items = [] ∧
          (d'.tasks eventClass).current = none := by
    intro classes
    induction classes with
    | nil => exact ⟨[], d, .refl d, rfl, inRange, by simp⟩
    | cons eventClass classes ih =>
        obtain ⟨more, d₁, first, published, inRange, still⟩ := ih
        obtain ⟨d₂, task, leads, empty, none⟩ := class_ends f inRange eventClass
        obtain ⟨further, second⟩ := leads.run
        refine ⟨more ++ further, d₂, first.trans second,
          leads.published.trans published, leads.inRange, ?_⟩
        intro other member
        rw [leads.tasks]
        by_cases same : other = eventClass
        · subst same
          rw [Function.update_self]
          exact ⟨empty, none⟩
        · rw [Function.update_of_ne same]
          exact still other ((List.mem_cons.mp member).resolve_left same)
  obtain ⟨more, d', further, published, -, still⟩ :=
    classes (Finset.univ : Finset NoticeClass).toList
  refine ⟨more, d', further, published, ?_⟩
  intro id eventClass
  obtain ⟨empty, none⟩ := still eventClass
    (Finset.mem_toList.mpr (Finset.mem_univ eventClass))
  rw [empty, none]
  exact ⟨by simp, by simp⟩

end NotificationDispatcher

end StingerFx
