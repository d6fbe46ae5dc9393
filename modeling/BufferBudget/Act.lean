import BufferBudget.Inspection
import BufferBudget.Session

/-!
# Acts

A user makes calls, and looks at allocators, mediators and trackers in between.
A look changes no account and no buffer.  It takes the locks that stand in its
way, one look at a time, and it may stop at a fault as a call may.

`Session.actAll` performs acts one after the other, none while another is under
way, and `Session.replies` is what the user is told.
-/

namespace BufferBudget

/-- Something that a user looks at. -/
inductive Look where
  /-- How much an allocator reports to have left. -/
  | available (allocator : Allocator)
  /-- What has been granted by a mediator and not given back. -/
  | usage (mediator : Nat)
  /-- The ceiling of a mediator. -/
  | ceiling (mediator : Nat)
  /-- The budget that a mediator reports. -/
  | budget (mediator : Nat)
  /-- Whether a mediator denies requests past its ceiling for good. -/
  | enforced (mediator : Nat)
  /-- What a tracker has counted, and how much more it would admit. -/
  | tracker (lineage : Lineage)

/-- What there is to be seen. -/
inductive Finding where
  | size (value : Nat)
  | enforced (value : Bool)
  | tracker (reading : TrackerReading)

/-- Looks, with the locks that this takes. -/
def Look.read : Look → Operation Finding
  | .available allocator => do
      return .size (← allocator.source.readAvailable)
  | .usage mediator => do
      return .size (← Mediation.inspect mediator Mediator.usage)
  | .ceiling mediator => do
      return .size (← Mediation.inspect mediator fun account =>
        account.ceiling?.getD Size.limit)
  | .budget mediator => do
      return .size (← Mediation.inspect mediator Mediator.available)
  | .enforced mediator => do
      return .enforced (← Mediation.isEnforced mediator)
  | .tracker lineage => do
      return .tracker ((← get).trackerReading lineage)

/-- Something that a user does. -/
inductive Act where
  | call (call : Call)
  | look (look : Look)

/-- What a user is told. -/
inductive Reply where
  /-- The answer to a call. -/
  | answered (answer : Answer)
  /-- What a look has found, or the fault at which it stopped. -/
  | found (result : Except Fault Finding)

namespace Session

/-- Acts, and gives the session after it. -/
def act (session : Session) : Act → Reply × Session
  | .call call =>
      let (answer, later) := session.perform call
      (.answered answer, later)
  | .look look =>
      let (result, later) := session.run look.read
      (.found result, later)

/-- Performs acts one after the other. -/
def actAll (session : Session) : List Act → Session
  | [] => session
  | act :: rest => (session.act act).2.actAll rest

/-- The replies to acts that are performed one after the other. -/
def replies (session : Session) : List Act → List Reply
  | [] => []
  | act :: rest => (session.act act).1 :: (session.act act).2.replies rest

end Session

end BufferBudget
