import BrowserShell.Proofs.Context
import BrowserShell.Session
import Mathlib.Algebra.Order.BigOperators.Group.Finset

/-!
# Sessions do not remember

In a session on unchanged files each message gets one reply, the one that the context gave to it
just after it was set up, and the injections run are those posted, in the order in which the messages
were answered (`Session.run_from_start`). `Session.Kept` holds at the beginning and is kept by each
action; with nothing left to do all messages are answered, and each action leaves less to do.
-/

namespace BrowserShell.Session

variable {ι : Type} [DecidableEq ι]

/-- The messages of a client among some that were sent. -/
def messagesOf (i : ι) (sent : List (Sent ι)) : List Message :=
  (sent.filter fun p => p.client = i).map Sent.message

/-- What the contexts and the clients have in the course of a session that began with a context
`x`. -/
structure Kept (t : FileTree) (x : Context) (scripts : ι → List Message) (s : Session ι) :
    Prop where
  /-- The context answers as at the beginning. -/
  context : Context.Like t x s.context
  /-- The messages of a client are answered, wait in the queue or are not sent yet. -/
  script : ∀ i, scripts i =
    messagesOf i s.answered ++ messagesOf i s.queue ++ (s.clients i).todo
  /-- The message that a client waits for is in the queue, and no other of it. -/
  waiting : ∀ i, (s.clients i).waiting.toList = messagesOf i s.queue
  /-- The replies are those of the context at the beginning. -/
  replies : ∀ i, (s.clients i).replies =
    (messagesOf i s.answered).map fun m => (x.step t m).1
  /-- The outbox takes injections. -/
  isOpen : s.outbox.isOpen = true
  /-- What was run and what waits to be run is what the messages answered have posted. -/
  executed : s.executed ++ Injection.executions s.outbox.posted =
    Injection.executions (s.answered.flatMap fun p => (x.step t p.message).2.1)

@[simp] theorem messagesOf_nil (i : ι) : messagesOf i [] = [] := rfl

@[simp] theorem messagesOf_append (i : ι) (a b : List (Sent ι)) :
    messagesOf i (a ++ b) = messagesOf i a ++ messagesOf i b := by
  simp [messagesOf]

@[simp] theorem messagesOf_cons_self (p : Sent ι) (sent : List (Sent ι)) :
    messagesOf p.client (p :: sent) = p.message :: messagesOf p.client sent := by
  simp [messagesOf]

/-- A message of another client is not among those of a client. -/
theorem messagesOf_cons_of_ne {i : ι} {p : Sent ι} (h : p.client ≠ i) (sent : List (Sent ι)) :
    messagesOf i (p :: sent) = messagesOf i sent := by
  simp [messagesOf, h]

@[simp] theorem executions_append (a b : List Injection) :
    Injection.executions (a ++ b) = Injection.executions a ++ Injection.executions b := by
  simp [Injection.executions]

/-- The client that is changed. -/
@[simp] theorem change_self (clients : ι → Client) (i : ι) (f : Client → Client) :
    change clients i f i = f (clients i) := by
  simp [change]

/-- The other clients stay as they are. -/
theorem change_of_ne (clients : ι → Client) {i j : ι} (h : j ≠ i) (f : Client → Client) :
    change clients i f j = clients j := by
  simp [change, h]

/-- What an action does: a client sends its next message, the oldest message is answered, or the
oldest injection is run. -/
theorem step?_eq_some {t : FileTree} {s s' : Session ι} {a : Action ι}
    (h : s.step? t a = some s') :
    (∃ i m rest, (s.clients i).waiting = none ∧ (s.clients i).todo = m :: rest ∧
        s' = s.send i m rest) ∨
      (∃ sent queue, s.queue = sent :: queue ∧ s' = s.answer t sent queue) ∨
      ∃ i rest, s.outbox.posted = i :: rest ∧
        s' = s.execute i { s.outbox with posted := rest } := by
  cases a with
  | send i =>
    left
    simp only [step?] at h
    split at h
    · rename_i m rest hw ht
      split at h
      · cases h
        exact ⟨i, m, rest, hw, ht, rfl⟩
      · cases h
    · cases h
  | answer =>
    right; left
    simp only [step?] at h
    split at h
    · cases h
    · rename_i sent queue hq
      cases h
      exact ⟨sent, queue, hq, rfl⟩
  | execute =>
    right; right
    simp only [step?, Outbox.next?] at h
    cases hp : s.outbox.posted with
    | nil =>
      rw [hp] at h
      cases h
    | cons i rest =>
      rw [hp] at h
      cases h
      exact ⟨i, rest, rfl, rfl⟩

/-- A session begins with all messages unsent. -/
theorem kept_start {t : FileTree} {x : Context} (hx : Context.Like t x x)
    (scripts : ι → List Message) : Kept t x scripts (start x scripts) :=
  ⟨hx, fun _ => rfl, fun _ => rfl, fun _ => rfl, rfl, rfl⟩

/-- A client that sends a message puts it at the end of the queue, behind none of its own. -/
theorem Kept.send {t : FileTree} {x : Context} {scripts : ι → List Message} {s : Session ι}
    (h : Kept t x scripts s) {i : ι} {m : Message} {rest : List Message}
    (hw : (s.clients i).waiting = none) (ht : (s.clients i).todo = m :: rest) :
    Kept t x scripts (s.send i m rest) := by
  have hqueue : messagesOf i s.queue = [] := by rw [← h.waiting i, hw]; rfl
  have hlast : messagesOf i [(⟨i, m⟩ : Sent ι)] = [m] := messagesOf_cons_self ⟨i, m⟩ []
  have hother : ∀ j, j ≠ i → messagesOf j [(⟨i, m⟩ : Sent ι)] = [] :=
    fun j hj => messagesOf_cons_of_ne (Ne.symm hj) []
  refine ⟨h.context, fun j => ?_, fun j => ?_, fun j => ?_, h.isOpen, h.executed⟩
  all_goals
    dsimp only [Session.send]
    by_cases hj : j = i
  · subst hj
    rw [h.script j, messagesOf_append, hqueue, hlast, ht, change_self, Client.send]
    simp
  · rw [h.script j, messagesOf_append, hother j hj, List.append_nil, change_of_ne _ hj]
  · subst hj
    rw [messagesOf_append, hqueue, hlast, change_self]
    rfl
  · rw [messagesOf_append, hother j hj, List.append_nil, change_of_ne _ hj, h.waiting j]
  · subst hj
    rw [change_self]
    exact h.replies j
  · rw [change_of_ne _ hj]
    exact h.replies j

/-- The oldest message is answered as it would have been at the beginning. -/
theorem Kept.answer {t : FileTree} {x : Context} {scripts : ι → List Message} {s : Session ι}
    (h : Kept t x scripts s) {sent : Sent ι} {queue : List (Sent ι)} (hq : s.queue = sent :: queue) :
    Kept t x scripts (s.answer t sent queue) := by
  obtain ⟨hreply, hinjections, hcontext⟩ := Context.step_like h.context sent.message
  have hself := messagesOf_cons_self sent
  have hwaiting := h.waiting sent.client
  rw [hq, hself] at hwaiting
  refine ⟨hcontext, fun j => ?_, fun j => ?_, fun j => ?_, ?_, ?_⟩
  all_goals dsimp only [Session.answer]
  · by_cases hj : j = sent.client
    · subst hj
      rw [h.script, hq, messagesOf_append, hself, hself, change_self, Client.receive]
      simp
    · rw [h.script j, hq, messagesOf_append, messagesOf_cons_of_ne (Ne.symm hj),
        messagesOf_cons_of_ne (Ne.symm hj), change_of_ne _ hj]
      simp
  · by_cases hj : j = sent.client
    · -- The client waited for this message alone, so that none of its own is left in the queue.
      subst hj
      have hrest : messagesOf sent.client queue = [] := by
        cases hw : (s.clients sent.client).waiting with
        | none =>
          rw [hw] at hwaiting
          cases hwaiting
        | some m =>
          rw [hw] at hwaiting
          exact (List.cons.inj hwaiting).2.symm
      rw [hrest, change_self]
      rfl
    · rw [change_of_ne _ hj, h.waiting j, hq, messagesOf_cons_of_ne (Ne.symm hj)]
  · by_cases hj : j = sent.client
    · subst hj
      rw [change_self, messagesOf_append, hself, List.map_append, ← h.replies, hreply]
      rfl
    · rw [change_of_ne _ hj, h.replies j, messagesOf_append, messagesOf_cons_of_ne (Ne.symm hj)]
      simp
  · rw [Outbox.post, if_pos h.isOpen]
    exact h.isOpen
  · rw [Outbox.post, if_pos h.isOpen, hinjections]
    dsimp only
    rw [executions_append, ← List.append_assoc, h.executed, List.flatMap_append, executions_append]
    simp

/-- The oldest injection that waits is run. -/
theorem Kept.execute {t : FileTree} {x : Context} {scripts : ι → List Message} {s : Session ι}
    (h : Kept t x scripts s) {i : Injection} {rest : List Injection}
    (hp : s.outbox.posted = i :: rest) :
    Kept t x scripts (s.execute i { s.outbox with posted := rest }) := by
  refine ⟨h.context, h.script, h.waiting, h.replies, h.isOpen, ?_⟩
  dsimp only [Session.execute]
  rw [← h.executed, hp, List.append_assoc, ← executions_append]
  rfl

/-- Each action keeps what holds in the course of a session. -/
theorem Kept.step {t : FileTree} {x : Context} {scripts : ι → List Message} {s s' : Session ι}
    (h : Kept t x scripts s) {a : Action ι} (hs : s.step? t a = some s') :
    Kept t x scripts s' := by
  rcases step?_eq_some hs with ⟨i, m, rest, hw, ht, rfl⟩ | ⟨sent, queue, hq, rfl⟩ |
    ⟨i, rest, hp, rfl⟩
  · exact h.send hw ht
  · exact h.answer hq
  · exact h.execute hp

/-- Each schedule keeps what holds in the course of a session. -/
theorem Kept.run {t : FileTree} {x : Context} {scripts : ι → List Message} {s : Session ι}
    (h : Kept t x scripts s) (schedule : List (Action ι)) :
    Kept t x scripts (s.run t schedule) := by
  unfold Session.run
  induction schedule generalizing s with
  | nil => exact h
  | cons a schedule ih =>
    rw [List.foldl_cons]
    cases hs : s.step? t a with
    | none => exact ih h
    | some s' => exact ih (h.step hs)

/-! ## Nothing is left over -/

/-- A session in which nothing can be done has nothing left to do. -/
theorem Kept.done_of_idle {t : FileTree} {x : Context} {scripts : ι → List Message} {s : Session ι}
    (h : Kept t x scripts s) (hidle : ∀ a, s.step? t a = none) :
    (∀ i, messagesOf i s.answered = scripts i) ∧ s.outbox.posted = [] := by
  have hqueue : s.queue = [] := by
    have ha := hidle .answer
    simp only [step?] at ha
    split at ha
    · assumption
    · cases ha
  constructor
  · intro i
    have hw : (s.clients i).waiting = none := by
      have hlist := h.waiting i
      rw [hqueue] at hlist
      exact Option.toList_eq_nil_iff.1 hlist
    -- The queue has room, so that the client would send another message if it had one.
    have ht : (s.clients i).todo = [] := by
      have hs := hidle (.send i)
      simp only [step?, hw, hqueue] at hs
      split at hs
      · rw [if_pos (by simp [maxQueue])] at hs
        cases hs
      · rename_i hnot
        cases htodo : (s.clients i).todo with
        | nil => rfl
        | cons m rest => exact absurd htodo (hnot m rest rfl)
    rw [h.script i, hqueue, ht]
    simp
  · have he := hidle .execute
    simp only [step?, Option.map_eq_none_iff, Outbox.next?] at he
    split at he
    · assumption
    · cases he

/-- What is left to do: a message is sent, is answered, and may have an injection run. -/
def work [Fintype ι] (s : Session ι) : Nat :=
  3 * ∑ i, (s.clients i).todo.length + 2 * s.queue.length + s.outbox.posted.length

/-- A change of one client that leaves its messages changes no client's. -/
theorem todo_change {clients : ι → Client} {i : ι} {f : Client → Client}
    (h : ∀ c, (f c).todo = c.todo) (j : ι) : (change clients i f j).todo = (clients j).todo := by
  by_cases hj : j = i
  · subst hj
    rw [change_self, h]
  · rw [change_of_ne _ hj]

/-- Each action leaves less to do. -/
theorem work_lt_of_step? [Fintype ι] {t : FileTree} {s s' : Session ι} {a : Action ι}
    (h : s.step? t a = some s') : s'.work < s.work := by
  rcases step?_eq_some h with ⟨i, m, rest, -, ht, rfl⟩ | ⟨sent, queue, hq, rfl⟩ |
    ⟨i, rest, hp, rfl⟩
  · have hlt : ∑ j, ((s.send i m rest).clients j).todo.length <
        ∑ j, (s.clients j).todo.length := by
      apply Finset.sum_lt_sum
      · intro j _
        by_cases hj : j = i
        · subst hj
          simp [Session.send, Client.send, ht]
        · simp [Session.send, change_of_ne _ hj]
      · refine ⟨i, Finset.mem_univ i, ?_⟩
        simp [Session.send, Client.send, ht]
    have hqueue : (s.send i m rest).queue.length = s.queue.length + 1 := by simp [Session.send]
    have hposted : (s.send i m rest).outbox = s.outbox := rfl
    unfold work
    rw [hqueue, hposted]
    omega
  · have hclients : ∀ j, ((s.answer t sent queue).clients j).todo = (s.clients j).todo :=
      todo_change (f := fun c => c.receive (s.context.step t sent.message).1) fun _ => rfl
    have hqueue : s.queue.length = (s.answer t sent queue).queue.length + 1 := by
      rw [hq]
      rfl
    have hposted : (s.answer t sent queue).outbox.posted.length ≤ s.outbox.posted.length + 1 := by
      have hone := Context.length_injections_le_one t s.context sent.message
      have hpost : (s.answer t sent queue).outbox =
          s.outbox.post (s.context.step t sent.message).2.1 := rfl
      rw [hpost, Outbox.post]
      split
      · rw [List.length_append]
        omega
      · omega
    unfold work
    simp only [hclients]
    omega
  · unfold work
    simp only [Session.execute, hp, List.length_cons]
    omega

/-! ## Whole sessions -/

/-- A session on unchanged files, whatever the schedule. Each client has for its messages, as far as
they are answered, the replies of a context just set up; then comes the message that it waits for,
which is in the queue once, and then what it has not sent. What was run, and then what waits to be
run, is what the messages answered post with a context just set up, in the order in which they were
answered. Each action leaves less to do, and when nothing can be done all is answered and run. -/
theorem run_from_start [Fintype ι] (c : Config) (t : FileTree) (scripts : ι → List Message)
    (schedule : List (Action ι)) :
    let x := Context.ofConfig c t
    let s := (start x scripts).run t schedule
    let injections := s.answered.flatMap fun p => (x.step t p.message).2.1
    (∀ i, scripts i =
        messagesOf i s.answered ++ (s.clients i).waiting.toList ++ (s.clients i).todo ∧
      messagesOf i s.queue = (s.clients i).waiting.toList ∧
      (s.clients i).replies = (messagesOf i s.answered).map fun m => (x.step t m).1) ∧
    s.executed ++ Injection.executions s.outbox.posted = Injection.executions injections ∧
    (∀ a s', s.step? t a = some s' → s'.work < s.work) ∧
    ((∀ a, s.step? t a = none) →
      (∀ i, (s.clients i).replies = (scripts i).map fun m => (x.step t m).1) ∧
        s.executed = Injection.executions injections) := by
  intro x s injections
  have h : Kept t x scripts s := (kept_start (Context.like_ofConfig c t) scripts).run schedule
  refine ⟨fun i => ⟨?_, (h.waiting i).symm, h.replies i⟩, h.executed,
    fun a s' => work_lt_of_step?, fun hidle => ?_⟩
  · rw [h.waiting i]
    exact h.script i
  · obtain ⟨hanswered, hposted⟩ := h.done_of_idle hidle
    refine ⟨fun i => ?_, ?_⟩
    · rw [h.replies i, hanswered i]
    · rw [← h.executed, hposted]
      exact (List.append_nil _).symm

end BrowserShell.Session
