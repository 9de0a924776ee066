import BrowserShell.Context

/-!
# Sessions

Clients, the context that answers their messages and the context that runs injections work side by
side. Messages wait in a queue that has room for `Session.maxQueue` of them, and injections in an
outbox that has room for all. `Session.step?` is what one of those who take part does next, and
`Session.run` follows a schedule that says who is next, in any order.
-/

namespace BrowserShell

/-- One who sends messages, each when the one before is answered. -/
structure Client where
  /-- The messages that are not sent yet. -/
  todo : List Message
  /-- The message that was sent and is not answered yet. -/
  waiting : Option Message
  /-- The replies, in the order in which they came. -/
  replies : List Reply

namespace Client

/-- The client after sending its next message `m`, `rest` being what it sends later. -/
def send (c : Client) (m : Message) (rest : List Message) : Client :=
  { c with todo := rest, waiting := some m }

/-- The client after the reply to its message. -/
def receive (c : Client) (reply : Reply) : Client :=
  { c with waiting := none, replies := c.replies ++ [reply] }

end Client

/-- The oldest injection that waits, and the outbox without it. -/
def Outbox.next? (o : Outbox) : Option (Injection × Outbox) :=
  match o.posted with
  | [] => none
  | i :: rest => some (i, { o with posted := rest })

/-- A message, and the client that waits for the reply. -/
structure Sent (ι : Type) where
  /-- The client. -/
  client : ι
  /-- The message. -/
  message : Message

/-- Clients and the two contexts at work; clients are told apart by `ι`. -/
structure Session (ι : Type) where
  /-- The clients. -/
  clients : ι → Client
  /-- The messages that wait for the context that answers them, oldest first. -/
  queue : List (Sent ι)
  /-- The context that answers messages. -/
  context : Context
  /-- The injections that wait for the context that runs them. -/
  outbox : Outbox
  /-- What was run, in order. -/
  executed : List Execution
  /-- The messages that were answered, in order. -/
  answered : List (Sent ι)

namespace Session

variable {ι : Type} [DecidableEq ι]

/-- How many messages can wait; with as many waiting, clients cannot send. -/
def maxQueue : Nat := 256

/-- Who is next. -/
inductive Action (ι : Type) where
  /-- A client sends its next message. -/
  | send (i : ι)
  /-- The oldest message is answered. -/
  | answer
  /-- The oldest injection is run. -/
  | execute
deriving DecidableEq, Repr

/-- The clients with one of them changed. -/
def change (clients : ι → Client) (i : ι) (f : Client → Client) : ι → Client :=
  fun j => if j = i then f (clients j) else clients j

/-- The beginning of a session, with the messages that each client will send. -/
def start (x : Context) (scripts : ι → List Message) : Session ι :=
  ⟨fun i => ⟨scripts i, none, []⟩, [], x, .empty, [], []⟩

/-- The session after a client has sent its next message `m`, `rest` being what it sends later. -/
def send (s : Session ι) (i : ι) (m : Message) (rest : List Message) : Session ι :=
  { s with
    clients := change s.clients i fun c => c.send m rest
    queue := s.queue ++ [⟨i, m⟩] }

/-- The session after its oldest message is answered, `queue` being those that wait behind it. -/
def answer (t : FileTree) (s : Session ι) (sent : Sent ι) (queue : List (Sent ι)) : Session ι :=
  let (reply, injections, context) := s.context.step t sent.message
  { s with
    clients := change s.clients sent.client fun c => c.receive reply
    queue := queue
    context := context
    outbox := s.outbox.post injections
    answered := s.answered ++ [sent] }

/-- The session after its oldest injection is run, `outbox` being what is left. -/
def execute (s : Session ι) (i : Injection) (outbox : Outbox) : Session ι :=
  { s with outbox := outbox, executed := s.executed ++ Injection.executions [i] }

/-- The session after an action; none if there is nothing to do for it yet. -/
def step? (t : FileTree) (s : Session ι) : Action ι → Option (Session ι)
  | .send i =>
    match (s.clients i).waiting, (s.clients i).todo with
    | none, m :: rest => if s.queue.length < maxQueue then some (s.send i m rest) else none
    | _, _ => none
  | .answer =>
    match s.queue with
    | [] => none
    | sent :: queue => some (s.answer t sent queue)
  | .execute => s.outbox.next?.map fun (i, outbox) => s.execute i outbox

/-- The session after a schedule. Where there is nothing to do for an action, nothing is done. -/
def run (t : FileTree) (s : Session ι) (schedule : List (Action ι)) : Session ι :=
  schedule.foldl (fun s a => (s.step? t a).getD s) s

end Session

end BrowserShell
