/-
**A cache client at work.**

A session is a client with the clocks that its work runs on: entries expire by one clock, and
requests that are never answered are given up by another, which moves in whole milliseconds and
only when somebody waits.  Writes in the background start when the step that left them is over;
one that stalls waits beside the others until its time is up.  Calls that run side by side are
polled in order, and each runs as far as it can before the next one.

Main definitions:

* `DataTier.Session` — a client, its clocks, its memoized computations and its waiting writes;
* `DataTier.Session.Step`, `Session.Answer` — what can be asked of a session and what it answers;
* `DataTier.Session.runCalls` — memoized calls side by side;
* `DataTier.Session.step` — one step with all the work that it leaves behind.
-/

import DataTier.Cache.Memo

set_option relaxedAutoImplicit false
set_option autoImplicit false

namespace DataTier

/-- A memoized computation whose outcomes are known beforehand. -/
structure Task where
  /-- How the results are cached. -/
  memo : Memo Datum
  /-- What the runs come to, one after the other; the last one repeats. -/
  outcomes : List (Memo.Computed Datum)
  /-- How long a run takes. -/
  delay : Duration
  /-- How many runs have begun. -/
  runs : Nat := 0

/-- What the next run comes to. -/
def Task.next (t : Task) : Memo.Computed Datum :=
  match t.outcomes[t.runs]? with
  | some outcome => outcome
  | none => t.outcomes.getLast?.getD (.ok .null)

namespace Session

/-- A write in the background that is not answered. -/
structure Waiting where
  /-- The write. -/
  write : Memo.Write
  /-- The millisecond at which it is given up. -/
  due : Nat

/-- How far a memoized call has come. -/
inductive Phase where
  /-- It has not begun. -/
  | fresh
  /-- Its lookup, begun at a time, is not answered and is given up at a millisecond. -/
  | looking (key : String) (since due : Nat)
  /-- It computes until a millisecond; the lookup took so long. -/
  | computing (key : Option String) (elapsed : Double) (result : Memo.Computed Datum) (due : Nat)
  /-- It is over. -/
  | ended (answer : Memo.Answer Datum)

/-- A memoized call: the number of its task, its arguments and how far it has come. -/
structure Job where
  /-- The number of the task. -/
  task : Nat
  /-- The arguments. -/
  args : Datum
  /-- How far the call has come. -/
  phase : Phase := .fresh
  /-- How many runs of the task had begun when the call ended. -/
  runs : Nat := 0

/-- The millisecond at which the call can go on, none if it is over. -/
def Job.due? (j : Job) : Option Nat :=
  match j.phase with
  | .looking _ _ due => some due
  | .computing _ _ _ due => some due
  | _ => none

/-- What a call came to, and how many runs of its task had begun by then. -/
structure Called where
  /-- What the call came to. -/
  answer : Memo.Answer Datum
  /-- How many runs had begun. -/
  runs : Nat

/-- What a call that is over came to. -/
def Job.called? (j : Job) : Option Called :=
  match j.phase with
  | .ended answer => some ⟨answer, j.runs⟩
  | _ => none

/-- The message of a call that broke down. -/
def Job.panic? (j : Job) : Option String :=
  match j.phase with
  | .ended (.panicked message) => some message
  | _ => none

end Session

/-- A cache client at work. -/
structure Session (σ : Type) where
  /-- The client. -/
  client : Client σ
  /-- The clock by which entries expire. -/
  clock : Instant := 0
  /-- The clock by which requests are given up, in nanoseconds. -/
  network : Nat := 0
  /-- Writes in the background that have not begun. -/
  spawned : List Memo.Write := []
  /-- Writes in the background that are not answered, in the order of their requests. -/
  waiting : List Session.Waiting := []
  /-- The memoized computations made so far. -/
  tasks : List Task := []

namespace Session

variable {σ : Type}

/-! ### Clocks -/

/-- The millisecond that a span from now ends in. -/
def dueIn (s : Session σ) (d : Duration) : Nat :=
  (s.network + d.nanos + (nanosPerMilli - 1)) / nanosPerMilli

/-- Whether a millisecond has come. -/
def hasCome (s : Session σ) (due : Nat) : Bool := due ≤ s.network / nanosPerMilli

/-- The session with its network clock moved on to a millisecond. -/
def moveTo (s : Session σ) (due : Nat) : Session σ :=
  { s with network := max s.network (due * nanosPerMilli) }

/-- How long something has taken, in milliseconds. -/
def elapsed (s : Session σ) (since : Nat) : Double :=
  (Binary.ofRatio? false (s.network - since) nanosPerMilli).getD Binary.zero

/-- The session a little later by the clock of entries: no request is free. -/
def tick (s : Session σ) : Session σ := { s with clock := s.clock + 1000 }

/-- The session with another client. -/
def withClient (s : Session σ) (c : Client σ) : Session σ := { s with client := c }

/-- Sends a request. -/
def request {α : Type} (s : Session σ) (ask : Instant → Backend σ → σ → Reply α × σ) :
    Option (Reply α) × Session σ :=
  let s := s.tick
  let (reply, c) := s.client.request (ask s.clock)
  (reply, s.withClient c)

/-! ### Writes in the background -/

/-- A waiting write given up. -/
def giveUp (s : Session σ) (w : Waiting) : Session σ :=
  s.withClient (s.client.finishWriteBack w.write.key w.write.ttl w.write.value.length
    (.error (.timeout s.client.opTimeout)))

/-- The waiting writes whose millisecond is before `bound` given up, in order. -/
def giveUpBefore (s : Session σ) (bound : Nat) : Session σ :=
  let due := s.waiting.filter (·.due < bound)
  let left := s.waiting.filter fun w => !(w.due < bound)
  due.foldl giveUp { s with waiting := left }

/-- The waiting writes whose time is up given up. -/
def giveUpDue (s : Session σ) : Session σ := s.giveUpBefore (s.network / nanosPerMilli + 1)

/-- What becomes of a write in the background once it has begun. -/
inductive Started where
  /-- It is over. -/
  | ended
  /-- It has broken down. -/
  | panicked
  /-- It waits for an answer until a millisecond. -/
  | waits (due : Nat)

/-- A write in the background begun. -/
def start (s : Session σ) (w : Memo.Write) : Started × Session σ :=
  match s.request fun now b => b.setex now w.key w.ttl w.value with
  | (none, s) => (.ended, s)
  | (some .stalled, s) =>
    let due := s.dueIn s.client.opTimeout
    if s.hasCome due then (.ended, s.giveUp ⟨w, due⟩)
    else (.waits due, { s with waiting := s.waiting ++ [⟨w, due⟩] })
  | (some (.panicked _), s) => (.panicked, s)
  | (some (.answered result), s) =>
    (.ended, s.withClient (s.client.finishWriteBack w.key w.ttl w.value.length result))

/-- A write left to the background. -/
def spawn (s : Session σ) (w : Memo.Write) : Session σ := { s with spawned := s.spawned ++ [w] }

/-- All that the background can do now: writes whose time is up are given up, new ones begun. -/
def background (s : Session σ) : Session σ :=
  let s := s.giveUpDue
  s.spawned.foldl (fun s w => (s.start w).2) { s with spawned := [] }

/-! ### Waiting in the foreground -/

/-- The session at a millisecond that its caller waits for: waiting writes whose time is up before
that are given up on the way. -/
def waitUntil (s : Session σ) (due : Nat) : Session σ := (s.giveUpBefore due).moveTo due

/-- Waits for a reply, for as long as the client allows. -/
def await {α : Type} (s : Session σ) (reply : Reply α) :
    Outcome (Except CacheError α) × Session σ :=
  match reply with
  | .stalled =>
    let s := s.waitUntil (s.dueIn s.client.opTimeout)
    (s.client.settle (.stalled : Reply α), s)
  | reply => (s.client.settle reply, s)

/-- Runs an operation of the client, and waits for its reply. -/
def operate {α β : Type} (s : Session σ) (ask : Instant → Backend σ → σ → Reply α × σ)
    (skipped : Client σ → β × Client σ) (finish : Client σ → Except CacheError α → β × Client σ) :
    Outcome β × Session σ :=
  match s.request ask with
  | (none, s) =>
    let (answer, c) := skipped s.client
    (.done answer, s.withClient c)
  | (some reply, s) =>
    match s.await reply with
    | (.panicked message, s) => (.panicked message, s)
    | (.done result, s) =>
      let (answer, c) := finish s.client result
      (.done answer, s.withClient c)

/-! ### Memoized calls side by side -/

/-- The end of a call that had to compute. -/
def conclude (s : Session σ) (t : Task) (key : Option String) (elapsed : Double)
    (result : Memo.Computed Datum) : Phase × Session σ :=
  let (answer, write, c) := t.memo.conclude s.client key elapsed result
  let s := s.withClient c
  (.ended answer, (write.map s.spawn).getD s)

/-- A call begins to compute. -/
def compute (s : Session σ) (number : Nat) (t : Task) (key : Option String) (elapsed : Double) :
    Phase × Session σ :=
  let s := { s with tasks := s.tasks.set number { t with runs := t.runs + 1 } }
  let due := s.dueIn t.delay
  if s.hasCome due then s.conclude t key elapsed t.next else (.computing key elapsed t.next due, s)

/-- A call whose lookup has ended. -/
def lookedUp (s : Session σ) (number : Nat) (t : Task) (key : String) (since : Nat)
    (result : Except CacheError (Option Bytes)) : Phase × Session σ :=
  let elapsed := s.elapsed since
  match t.memo.afterLookup s.client key result with
  | (.hit key data, c) => (.ended (.ok (some key) (.hit data elapsed)), s.withClient c)
  | (.miss key, c) => (s.withClient c).compute number t (some key) elapsed
  | (.bypass, c) => (s.withClient c).compute number t none elapsed

/-- A call begins. -/
def begin (s : Session σ) (number : Nat) (t : Task) (args : Datum) : Phase × Session σ :=
  match t.memo.plan s.client args with
  | (.bypass, c) => (s.withClient c).compute number t none Binary.zero
  | (.look key, c) =>
    match (s.withClient c).request fun now b => b.get now key with
    | (none, s) => s.compute number t none Binary.zero
    | (some .stalled, s) =>
      let due := s.dueIn s.client.opTimeout
      if s.hasCome due then
        s.lookedUp number t key s.network (.error (.timeout s.client.opTimeout))
      else (.looking key s.network due, s)
    | (some (.panicked message), s) => (.ended (.panicked message), s)
    | (some (.answered result), s) => s.lookedUp number t key s.network result

/-- A call that has come to another phase. -/
def Job.after (j : Job) (r : Phase × Session σ) : Job × Session σ :=
  ({ j with phase := r.1, runs := (r.2.tasks[j.task]?).elim 0 (·.runs) }, r.2)

/-- A call taken as far as it can go now. -/
def poll (s : Session σ) (j : Job) : Job × Session σ :=
  match s.tasks[j.task]? with
  | none => ({ j with phase := .ended (.failed "no such computation") }, s)
  | some t =>
    match j.phase with
    | .fresh => j.after (s.begin j.task t j.args)
    | .looking key since due =>
      if s.hasCome due then
        j.after (s.lookedUp j.task t key since (.error (.timeout s.client.opTimeout)))
      else (j, s)
    | .computing key elapsed result due =>
      if s.hasCome due then j.after (s.conclude t key elapsed result) else (j, s)
    | .ended _ => (j, s)

/-- All calls taken as far as they can go now, in order; none after one that breaks down. -/
def pollAll (s : Session σ) : List Job → List Job × Session σ
  | [] => ([], s)
  | j :: rest =>
    let (j, s) := s.poll j
    if j.panic?.isSome then (j :: rest, s)
    else
      let (rest, s) := s.pollAll rest
      (j :: rest, s)

/-- The earliest of some milliseconds. -/
def earliest? : List Nat → Option Nat
  | [] => none
  | n :: rest => some (rest.foldl min n)

/-- Calls polled and waited for, until all are over or one breaks down.  Every round ends the
waiting of one call at least, and no call waits more than twice. -/
def runJobs : Nat → Session σ → List Job → List Job × Session σ
  | 0, s, jobs => (jobs, s)
  | fuel + 1, s, jobs =>
    let (jobs, s) := s.pollAll jobs
    if jobs.any fun j => j.panic?.isSome then (jobs, s)
    else
      match earliest? (jobs.filterMap Job.due?) with
      | none => (jobs, s)
      | some due => runJobs fuel (s.background.waitUntil due) jobs

/-- What memoized calls side by side came to: an answer each, or the first breakdown. -/
def runCalls (s : Session σ) (calls : List (Nat × Datum)) :
    Outcome (List Called) × Session σ :=
  let jobs := calls.map fun (task, args) => ({ task, args } : Job)
  let (jobs, s) := runJobs (2 * jobs.length + 1) s jobs
  match jobs.findSome? Job.panic? with
  | some message => (.panicked message, s)
  | none => (.done (jobs.filterMap Job.called?), s)

/-! ### Steps -/

/-- What can be asked of a session. -/
inductive Step where
  /-- The bytes under a key. -/
  | get (key : String)
  /-- The value under a key. -/
  | getJson (key : String) (codec : Codec Datum)
  /-- Writes bytes. -/
  | set (key : String) (ttl : Duration) (value : Bytes)
  /-- Writes a value. -/
  | setJson (key : String) (ttl : Duration) (codec : Codec Datum) (value : Datum)
  /-- Leaves a write to the background, and may wait for it. -/
  | setDetached (write : Memo.Write) (await : Bool)
  /-- Starts a write in the background and waits for it. -/
  | spawnWrite (write : Memo.Write)
  /-- Removes a key. -/
  | delete (key : String)
  /-- Releases the backend. -/
  | close
  /-- Says what the client is. -/
  | info
  /-- Says how many lookups found something. -/
  | hitRate
  /-- Lets time pass for the network. -/
  | advance (d : Duration)
  /-- Lets time pass for the entries. -/
  | sleep (d : Duration)
  /-- Makes a memoized computation. -/
  | memo (task : Task)
  /-- Says which key a memoized computation uses. -/
  | keyFor (task : Nat) (args : Datum)
  /-- Calls a memoized computation. -/
  | call (task : Nat) (args : Datum)
  /-- Calls memoized computations side by side. -/
  | concurrent (calls : List (Nat × Datum))

/-- What a session answers. -/
inductive Answer where
  /-- Bytes, if any. -/
  | bytes (found : Option Bytes)
  /-- A value, if any. -/
  | value (found : Option Datum)
  /-- Whether it was done. -/
  | flag (b : Bool)
  /-- There is no background to leave the write to. -/
  | skipped
  /-- The write is left to the background. -/
  | scheduled
  /-- The write in the background is over. -/
  | ended
  /-- The write in the background broke down. -/
  | panicked
  /-- Nothing to say. -/
  | done
  /-- The client speaks for itself. -/
  | info
  /-- A fraction. -/
  | rate (x : Double)
  /-- A memoized computation was made. -/
  | made (memo : Memo Datum)
  /-- A key, or why there is none. -/
  | key (key : Except Datum.Fault String)
  /-- What a memoized call came to. -/
  | called (call : Called)
  /-- What several calls came to. -/
  | calledAll (calls : List Called)
  /-- The step broke down. -/
  | broken (message : String)
  /-- There is no computation of that number. -/
  | noTask

/-- The answer of a step that may break down. -/
def Answer.ofOutcome {α : Type} (f : α → Answer) : Outcome α → Answer
  | .done x => f x
  | .panicked message => .broken message

/-- A write in the background begun and waited for. -/
def startAndWait (s : Session σ) (w : Memo.Write) : Answer × Session σ :=
  match s.background.start w with
  | (.ended, s) => (.ended, s)
  | (.panicked, s) => (.panicked, s)
  | (.waits due, s) => (.ended, (s.waitUntil due).giveUpDue)

/-- One step, without the work that it leaves to the background. -/
def act (s : Session σ) : Step → Answer × Session σ
  | .get key =>
    let (r, s) := s.operate (fun now b => b.get now key) (fun c => (none, c.count .miss))
      (·.finishGet key)
    (.ofOutcome .bytes r, s)
  | .getJson key codec =>
    let (r, s) := s.operate (fun now b => b.get now key) (fun c => (none, c.count .miss))
      (·.finishGetJson codec key)
    (.ofOutcome .value r, s)
  | .set key ttl value =>
    let (r, s) := s.operate (fun now b => b.setex now key ttl value) (fun c => (false, c))
      (·.finishSet key ttl)
    (.ofOutcome .flag r, s)
  | .setJson key ttl codec value =>
    match codec.encode value with
    | .error fault =>
      (.flag false, s.withClient (s.client.report (.valueNotSerializable key fault.message)))
    | .ok bs =>
      let (r, s) := s.operate (fun now b => b.setex now key ttl bs) (fun c => (false, c))
        (·.finishSet key ttl)
      (.ofOutcome .flag r, s)
  | .setDetached write await =>
    if !s.client.isEnabled then (.skipped, s)
    else if await then s.startAndWait write
    else (.scheduled, s.spawn write)
  | .spawnWrite write => s.startAndWait write
  | .delete key =>
    let (r, s) := s.operate (fun now b => b.delete now key) (fun c => (false, c))
      (·.finishDelete key)
    (.ofOutcome .flag r, s)
  | .close => (.done, s.withClient s.client.close)
  | .info => (.info, s)
  | .hitRate => (.rate s.client.stats.hitRate, s)
  | .advance d => (.done, { s with network := s.network + d.nanos })
  | .sleep d => (.done, { s with clock := s.clock + d.nanos })
  | .memo task => (.made task.memo, { s with tasks := s.tasks ++ [task] })
  | .keyFor number args =>
    match s.tasks[number]? with
    | some t => (.key (t.memo.keyFor args), s)
    | none => (.noTask, s)
  | .call number args =>
    match s.runCalls [(number, args)] with
    | (.panicked message, s) => (.broken message, s)
    | (.done [call], s) => (.called call, s)
    | (.done _, s) => (.noTask, s)
  | .concurrent calls =>
    match s.runCalls calls with
    | (.panicked message, s) => (.broken message, s)
    | (.done calls, s) => (.calledAll calls, s)

/-- How many writes have ended. -/
def writesEnded (s : Session σ) : Nat := s.client.stats.writes + s.client.stats.writeFailures

/-- Waits until so many writes have ended, but not beyond a millisecond; every round ends one
waiting write at least. -/
def awaitWritesUntil (total limit : Nat) : Nat → Session σ → Session σ
  | 0, s => s
  | fuel + 1, s =>
    if total ≤ s.writesEnded then s
    else
      match s.waiting with
      | w :: _ =>
        if w.due ≤ limit then awaitWritesUntil total limit fuel ((s.waitUntil w.due).giveUpDue)
        else s.moveTo limit
      | [] => s.moveTo limit

/-- Waits until so many writes have ended, but no longer than a span. -/
def awaitWrites (s : Session σ) (total : Nat) (patience : Duration) : Session σ :=
  awaitWritesUntil total (s.dueIn patience) (s.waiting.length + 1) s

/-- One step with the work that it leaves to the background. -/
def step (s : Session σ) (x : Step) : Answer × Session σ :=
  let (answer, s) := s.act x
  (answer, s.background.tick)

end Session

end DataTier
