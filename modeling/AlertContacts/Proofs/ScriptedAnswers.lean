import AlertContacts.Client.Script
import Mathlib.Data.List.Basic

/-!
# Answers of a scripted client

A scripted client has a queue of answers for statements without rows and one for statements with rows. Clones of
a client share its script, so the calls through all of them are one list of calls, in the order in which they
reach the script. `Script.play` runs such a list, whatever is pushed and sent in between.

Answers are neither lost nor made up: what was pushed to a queue is what was served from it, in order, followed
by what is still queued (`Script.play_conserves`). A statement that finds its queue empty succeeds and takes
nothing, and every statement is logged, however it is answered (`Script.answers_are_conserved`).
-/

namespace AlertContacts.Script

/-- Statements without rows and statements with rows are answered from queues of their own. -/
inductive Lane where
  | exec
  | query
  deriving DecidableEq, Repr

namespace Lane

/-- What a statement gives when it succeeds. -/
abbrev Result : Lane → Type
  | .exec => Unit
  | .query => List Row

abbrev Answer (lane : Lane) : Type :=
  Except ClientError lane.Result

/-- The answer where none is queued: success, without rows. -/
def fallback : (lane : Lane) → lane.Answer
  | .exec => .ok ()
  | .query => .ok []

def other : Lane → Lane
  | .exec => .query
  | .query => .exec

theorem eq_or_eq_other (lane target : Lane) : target = lane ∨ target = lane.other := by
  cases lane <;> cases target <;> simp [other]

end Lane

/-! ### Queues -/

def queue (script : Script) : (lane : Lane) → List lane.Answer
  | .exec => script.execAnswers
  | .query => script.queryAnswers

def push (script : Script) : (lane : Lane) → lane.Answer → Script
  | .exec, answer => script.pushExec answer
  | .query, answer => script.pushQuery answer

/-- What the client answers to a statement, and the script that this leaves. -/
def send (script : Script) (sql : String) : (lane : Lane) → lane.Answer × Script
  | .exec => ((client.exec sql script).1.result, (client.exec sql script).2)
  | .query => ((client.query sql script).1.result, (client.query sql script).2)

section queues

variable (script : Script) (sql : String) (lane : Lane) (answer : lane.Answer)

@[simp]
theorem queue_push : (script.push lane answer).queue lane = script.queue lane ++ [answer] := by
  cases lane <;> rfl

@[simp]
theorem queue_push_other :
    (script.push lane answer).queue lane.other = script.queue lane.other := by
  cases lane <;> rfl

@[simp]
theorem statements_push : (script.push lane answer).statements = script.statements := by
  cases lane <;> rfl

/-- A statement is answered from the front of its queue, or by default. -/
theorem answer_send :
    (script.send sql lane).1 = (script.queue lane).headD lane.fallback := by
  cases lane <;> rfl

@[simp]
theorem queue_send : (script.send sql lane).2.queue lane = (script.queue lane).tail := by
  cases lane <;> rfl

@[simp]
theorem queue_send_other :
    (script.send sql lane).2.queue lane.other = script.queue lane.other := by
  cases lane <;> rfl

@[simp]
theorem statements_send :
    (script.send sql lane).2.statements = script.statements ++ [sql] := by
  cases lane <;> rfl

end queues

/-! ### Calls -/

inductive Call where
  | push (lane : Lane) (answer : lane.Answer)
  | send (lane : Lane) (sql : String)

/-- A call with what came of it. -/
inductive Turn where
  | pushed (lane : Lane) (answer : lane.Answer)
  /-- A statement was answered from its queue. -/
  | served (lane : Lane) (sql : String) (answer : lane.Answer)
  /-- A statement was answered though its queue was empty. -/
  | unserved (lane : Lane) (sql : String) (answer : lane.Answer)

namespace Call

/-- The answer that a call adds to a queue. -/
def pushedTo? : (lane : Lane) → Call → Option lane.Answer
  | .exec, .push .exec answer => some answer
  | .query, .push .query answer => some answer
  | _, _ => none

@[simp]
theorem pushedTo?_push (lane : Lane) (answer : lane.Answer) :
    (Call.push lane answer).pushedTo? lane = some answer := by
  cases lane <;> rfl

@[simp]
theorem pushedTo?_push_other (lane : Lane) (answer : lane.Answer) :
    (Call.push lane answer).pushedTo? lane.other = none := by
  cases lane <;> rfl

@[simp]
theorem pushedTo?_send (lane source : Lane) (sql : String) :
    (Call.send source sql).pushedTo? lane = none := by
  cases lane <;> rfl

/-- The statement that a call sends. -/
def sql? : Call → Option String
  | .push _ _ => none
  | .send _ sql => some sql

end Call

namespace Turn

def call : Turn → Call
  | .pushed lane answer => .push lane answer
  | .served lane sql _ | .unserved lane sql _ => .send lane sql

/-- The queued answer that a call handed out. -/
def servedFrom? : (lane : Lane) → Turn → Option lane.Answer
  | .exec, .served .exec _ answer => some answer
  | .query, .served .query _ answer => some answer
  | _, _ => none

@[simp]
theorem servedFrom?_served (lane : Lane) (sql : String) (answer : lane.Answer) :
    (Turn.served lane sql answer).servedFrom? lane = some answer := by
  cases lane <;> rfl

@[simp]
theorem servedFrom?_served_other (lane : Lane) (sql : String) (answer : lane.Answer) :
    (Turn.served lane sql answer).servedFrom? lane.other = none := by
  cases lane <;> rfl

@[simp]
theorem servedFrom?_unserved (lane source : Lane) (sql : String) (answer : source.Answer) :
    (Turn.unserved source sql answer).servedFrom? lane = none := by
  cases lane <;> rfl

@[simp]
theorem servedFrom?_pushed (lane source : Lane) (answer : source.Answer) :
    (Turn.pushed source answer).servedFrom? lane = none := by
  cases lane <;> rfl

end Turn

def turn (script : Script) : Call → Turn × Script
  | .push lane answer => (.pushed lane answer, script.push lane answer)
  | .send lane sql =>
    let (answer, after) := script.send sql lane
    (match script.queue lane with
      | [] => .unserved lane sql answer
      | _ :: _ => .served lane sql answer, after)

/-- What came of calls, and the script that they leave. -/
structure Played where
  turns : List Turn
  script : Script

def play : List Call → Script → Played
  | [], script => ⟨[], script⟩
  | call :: calls, script =>
    let (turn, middle) := script.turn call
    let rest := play calls middle
    ⟨turn :: rest.turns, rest.script⟩

/-! ### What one call keeps -/

section turn

variable (script : Script)

theorem turn_push (lane : Lane) (answer : lane.Answer) :
    script.turn (.push lane answer) = (.pushed lane answer, script.push lane answer) := rfl

/-- Where no answer is queued, the statement is answered by default. -/
theorem turn_send_of_empty {lane : Lane} (empty : script.queue lane = []) (sql : String) :
    script.turn (.send lane sql) = (.unserved lane sql lane.fallback, (script.send sql lane).2) := by
  simp [turn, empty, answer_send]

/-- Where answers are queued, the statement is served the first of them. -/
theorem turn_send_of_queued {lane : Lane} {answer : lane.Answer} {later : List lane.Answer}
    (queued : script.queue lane = answer :: later) (sql : String) :
    script.turn (.send lane sql) = (.served lane sql answer, (script.send sql lane).2) := by
  simp [turn, queued, answer_send]

theorem call_turn (call : Call) : (script.turn call).1.call = call := by
  cases call with
  | push lane answer => rfl
  | send lane sql =>
      cases queued : script.queue lane with
      | nil => rw [turn_send_of_empty script queued]; rfl
      | cons answer later => rw [turn_send_of_queued script queued]; rfl

/-- A call adds to the end of its queue or takes from the front of it, and leaves the other one alone. -/
theorem turn_conserves (call : Call) (lane : Lane) :
    script.queue lane ++ (call.pushedTo? lane).toList =
      ((script.turn call).1.servedFrom? lane).toList ++ (script.turn call).2.queue lane := by
  cases call with
  | push target answer =>
      rw [turn_push]
      rcases target.eq_or_eq_other lane with rfl | rfl
      · simp
      · simp
  | send source sql =>
      -- Only the queue of the statement counts, and only if there is something in it.
      cases queued : script.queue source with
      | nil =>
          rw [turn_send_of_empty script queued]
          rcases source.eq_or_eq_other lane with rfl | rfl
          · simp [queued]
          · simp
      | cons answer later =>
          rw [turn_send_of_queued script queued]
          rcases source.eq_or_eq_other lane with rfl | rfl
          · simp [queued]
          · simp

/-- A call that sends a statement logs it, and no other call logs anything. -/
theorem statements_turn (call : Call) :
    (script.turn call).2.statements = script.statements ++ call.sql?.toList := by
  cases call with
  | push lane answer => simp [turn, Call.sql?]
  | send lane sql => simp [turn, Call.sql?]

/-- A statement that finds its queue empty succeeds, without rows. -/
theorem eq_fallback_of_turn {call : Call} {lane : Lane} {sql : String} {answer : lane.Answer}
    (unserved : (script.turn call).1 = .unserved lane sql answer) : answer = lane.fallback := by
  cases call with
  | push target given => cases unserved
  | send source sent =>
      cases queued : script.queue source with
      | nil =>
          rw [turn_send_of_empty script queued] at unserved
          cases unserved
          rfl
      | cons first later =>
          rw [turn_send_of_queued script queued] at unserved
          cases unserved

end turn

/-! ### What a run keeps -/

section play

variable (calls later : List Call) (script : Script)

/-- Calls one list behind the other are played in turn, on one script. -/
theorem play_append :
    play (calls ++ later) script =
      ⟨(play calls script).turns ++ (play later (play calls script).script).turns,
        (play later (play calls script).script).script⟩ := by
  induction calls generalizing script with
  | nil => rfl
  | cons call calls ih => simp [play, ih]

/-- Each call of a run has its turn, in order. -/
theorem calls_play : (play calls script).turns.map Turn.call = calls := by
  induction calls generalizing script with
  | nil => rfl
  | cons call calls ih => simp [play, call_turn, ih]

/-- What was queued and pushed is what was served and what is still queued. -/
theorem play_conserves (lane : Lane) :
    script.queue lane ++ calls.filterMap (Call.pushedTo? lane) =
      (play calls script).turns.filterMap (Turn.servedFrom? lane) ++
        (play calls script).script.queue lane := by
  simp only [List.filterMap_eq_flatMap_toList]
  induction calls generalizing script with
  | nil => simp [play]
  | cons call calls ih =>
      have step := script.turn_conserves call lane
      have rest := ih (script.turn call).2
      simp only [play, List.flatMap_cons]
      rw [← List.append_assoc, step, List.append_assoc, rest, List.append_assoc]

/-- The log has every statement of a run, in order, behind what was logged before. -/
theorem statements_play :
    (play calls script).script.statements = script.statements ++ calls.filterMap Call.sql? := by
  rw [List.filterMap_eq_flatMap_toList]
  induction calls generalizing script with
  | nil => simp [play]
  | cons call calls ih =>
      simp only [play, List.flatMap_cons]
      rw [ih, statements_turn, List.append_assoc]

/-- Whenever a statement finds its queue empty, it succeeds without rows. -/
theorem eq_fallback_of_unserved {lane : Lane} {sql : String} {answer : lane.Answer}
    (member : .unserved lane sql answer ∈ (play calls script).turns) : answer = lane.fallback := by
  induction calls generalizing script with
  | nil => cases member
  | cons call calls ih =>
      rcases List.mem_cons.1 member with first | member
      · exact script.eq_fallback_of_turn first.symm
      · exact ih (script.turn call).2 member

end play

/--
At every point of a run on a new script, answers pushed to a queue are those that were served from it, in
order, followed by those that are still queued. A statement that finds its queue empty succeeds, without rows
and without taking an answer, and no statement takes an answer from the other queue. The log has every
statement that was sent.
-/
theorem answers_are_conserved (delay : Nat) (calls later : List Call) :
    let point := play calls { delay := delay }
    point.turns <+: (play (calls ++ later) { delay := delay }).turns ∧
      point.turns.map Turn.call = calls ∧
      (∀ lane, calls.filterMap (Call.pushedTo? lane) =
        point.turns.filterMap (Turn.servedFrom? lane) ++ point.script.queue lane) ∧
      (∀ lane sql answer, .unserved lane sql answer ∈ point.turns → answer = lane.fallback) ∧
      (∀ sql lane,
        (point.script.queue lane = [] →
          (point.script.send sql lane).1 = lane.fallback ∧
            (point.script.send sql lane).2.queue lane = []) ∧
        (point.script.send sql lane).2.queue lane.other = point.script.queue lane.other) ∧
      point.script.statements = calls.filterMap Call.sql? := by
  intro point
  refine ⟨?_, calls_play calls _, ?_, ?_, ?_, ?_⟩
  · rw [play_append]
    exact List.prefix_append _ _
  · intro lane
    have conserved := play_conserves calls { delay := delay } lane
    have fresh : ({ delay := delay } : Script).queue lane = [] := by cases lane <;> rfl
    rwa [fresh, List.nil_append] at conserved
  · intro lane sql answer member
    exact eq_fallback_of_unserved calls _ member
  · intro sql lane
    constructor
    · intro empty
      simp [answer_send, empty]
    · exact queue_send_other point.script sql lane
  · exact statements_play calls { delay := delay }

/-- Two statements come when no answer is there for them, and a third one fails. -/
def outrunningCalls : List Call :=
  [.send .query "ZERO", .push .exec (.error (.connection "reset")), .push .query (.ok [[]]),
    .send .exec "ONE", .send .exec "TWO"]

theorem answers_are_conserved_outrun :
    let point := play outrunningCalls { delay := 5 }
    .unserved .exec "TWO" (.ok ()) ∈ point.turns ∧ point.script.queue .exec = [] ∧
      point.turns.filterMap (Turn.servedFrom? .exec) ++ point.script.queue .exec =
        [.error (.connection "reset")] ∧
      point.turns.filterMap (Turn.servedFrom? .query) ++ point.script.queue .query = [.ok [[]]] ∧
      (point.script.send "THREE" .exec).1 = .ok () ∧
      (point.script.send "THREE" .exec).2.queue .query = point.script.queue .query ∧
      point.script.statements = ["ZERO", "ONE", "TWO"] := by
  intro point
  have outrun : .unserved .exec "TWO" (.ok ()) ∈ point.turns := by
    simp [point, outrunningCalls, play, turn, send, queue, push, client, exec, query, pushExec,
      pushQuery]
  have empty : point.script.queue .exec = [] := rfl
  rcases answers_are_conserved 5 outrunningCalls [] with ⟨-, -, conserved, -, takes, logged⟩
  rcases takes "THREE" .exec with ⟨succeeds, keeps⟩
  exact ⟨outrun, empty, (conserved .exec).symm, (conserved .query).symm, (succeeds empty).1,
    keeps, logged⟩

end AlertContacts.Script
